import LaunchKit.FileTree.Delete
import LaunchKit.Proofs.Outcome

/-!
# Trees in order

Nothing in the table of a tree keeps an entry from lying in a file, or in a directory that is not
there, and nothing keeps the working directory from being no directory at all. What is done to trees
does: an entry comes into a directory that is there, and what goes is a file or an empty directory.
When the working directory goes, the directories above it stay, as long as they are not removed in
their turn.

## Main definitions

* `FileTree.Sound`: every entry lies in a directory, and the working directory is one, or was
  removed from below one.

## Main statements

* `FileTree.kindAt_insert`, `FileTree.kindAt_erase`: what is at a place behind a change.
* `FileTree.Sound.insert`, `FileTree.Sound.erase`: trees stay in order.
* `FileTree.Sound.kindAt_of_walk`: a walk leads to a directory.
-/
namespace LaunchKit.FileTree

variable {tree left : FileTree} {place other directory : Place} {spot found : Spot} {name : Bytes}
  {kind : EntryKind}

/-! ## What is at a place -/

theorem kindAt_cons (tree : FileTree) (name : Bytes) (directory : Place) :
    tree.kindAt (name :: directory) = tree.entries.lookup (name :: directory) := rfl

/-- The root is always there. -/
theorem ne_nil_of_kindAt_eq_none (h : tree.kindAt place = none) : place ≠ [] := by
  rintro rfl
  cases h

/-- An entry comes to a place that was free. -/
theorem kindAt_insert (tree : FileTree) (place other : Place) (kind : EntryKind) :
    (tree.insert place kind).kindAt other =
      if other = place ∧ tree.kindAt place = none then some kind else tree.kindAt other := by
  rw [insert]
  cases hplace : tree.kindAt place with
  | some taken => simp
  | none =>
    have hne := ne_nil_of_kindAt_eq_none hplace
    cases other with
    | nil => simp [kindAt, Ne.symm hne]
    | cons name directory =>
      by_cases heq : name :: directory = place
      · subst heq
        simp [kindAt_cons]
      · have hbeq : (name :: directory == place) = false := beq_eq_false_iff_ne.mpr heq
        simp [kindAt_cons, List.lookup_cons, hbeq, heq]

/-- No entry goes when another comes. -/
theorem kindAt_insert_of_eq_some (h : tree.kindAt other = some kind) (place : Place)
    (added : EntryKind) : (tree.insert place added).kindAt other = some kind := by
  rw [kindAt_insert, if_neg, h]
  rintro ⟨rfl, hnone⟩
  rw [h] at hnone
  cases hnone

/-- What is erased is gone, and nothing else. -/
theorem kindAt_erase (hplace : place ≠ []) (other : Place) :
    (tree.erase place).kindAt other = if other = place then none else tree.kindAt other := by
  split
  · next heq => rw [heq, kindAt_erase_self tree hplace]
  · next hne => exact kindAt_erase_of_ne tree hne

/-- A directory without children is one in which nothing is. -/
theorem children_eq_nil_iff :
    tree.children directory = [] ↔ ∀ name, tree.kindAt (name :: directory) = none := by
  simp only [children, kindAt_cons, List.filter_eq_nil_iff, List.lookup_eq_none_iff,
    List.mem_map, Bool.and_eq_true, Bool.not_eq_true', List.isEmpty_eq_false_iff,
    decide_eq_true_eq, bne_iff_ne]
  constructor
  · rintro h name entry hmem heq
    exact h entry.1 ⟨entry, hmem, rfl⟩ (by simp [← heq])
  · rintro h _ ⟨entry, hmem, rfl⟩ ⟨hne, htail⟩
    obtain ⟨name, rest, hcons⟩ := List.exists_cons_of_ne_nil hne
    refine h name entry hmem ?_
    rw [hcons] at htail ⊢
    rw [← htail]
    rfl

/-- A file is no directory. -/
theorem kindAt_ne_directory (hfile : tree.kindAt place = some .file) :
    tree.kindAt place ≠ some .directory := by
  simp [hfile]

/-! ## Order -/

/-- A tree in order. Every entry lies in a directory, and so does the working directory, or did
before it was removed. -/
structure Sound (tree : FileTree) : Prop where
  parent : ∀ name directory, (tree.kindAt (name :: directory)).isSome →
    tree.kindAt directory = some .directory
  working : tree.kindAt tree.working.ground = some .directory

namespace Sound

/-- An entry comes into a directory. -/
theorem insert (h : tree.Sound) (hdirectory : tree.kindAt directory = some .directory)
    (name : Bytes) (kind : EntryKind) : (tree.insert (name :: directory) kind).Sound := by
  have hworking : (tree.insert (name :: directory) kind).working = tree.working := by
    rw [FileTree.insert]
    split <;> rfl
  constructor
  · intro other below hsome
    apply kindAt_insert_of_eq_some
    rw [kindAt_insert] at hsome
    split at hsome
    · next hnew => rw [(List.cons.inj hnew.1).2, hdirectory]
    · exact h.parent other below hsome
  · rw [hworking]
    exact kindAt_insert_of_eq_some h.working _ _

/-- Another directory is worked in. -/
theorem enter (h : tree.Sound) (hdirectory : tree.kindAt directory = some .directory) :
    ({ tree with working := .inTree directory } : FileTree).Sound := ⟨h.parent, hdirectory⟩

/-- Something else is permitted. -/
theorem permit (h : tree.Sound) (permissions : Permissions) :
    ({ tree with permissions } : FileTree).Sound := ⟨h.parent, h.working⟩

/-- What lies above a directory is one. -/
theorem kindAt_tail (h : tree.Sound) (hdirectory : tree.kindAt directory = some .directory) :
    tree.kindAt directory.tail = some .directory := by
  cases directory with
  | nil => rfl
  | cons name above => exact h.parent name above (by rw [hdirectory]; rfl)

/-- What lies above a spot in order is in order. -/
theorem kindAt_above (h : tree.Sound) (hspot : tree.kindAt spot.ground = some .directory) :
    tree.kindAt spot.above.ground = some .directory := by
  cases spot with
  | inTree place => exact h.kindAt_tail hspot
  | removed above => exact hspot

/-- A spot in order stays so when an entry goes, also when this is the directory in the spot. -/
theorem kindAt_without (h : tree.Sound) (name : Bytes) (directory : Place)
    (hspot : tree.kindAt spot.ground = some .directory) :
    (tree.erase (name :: directory)).kindAt (spot.without (name :: directory)).ground =
      some .directory := by
  induction spot with
  | inTree place =>
    rw [Spot.without]
    split
    · next heq =>
      have hne : directory ≠ name :: directory := (List.cons_ne_self name directory).symm
      subst heq
      exact (kindAt_erase_of_ne tree hne).trans (h.kindAt_tail hspot)
    · next hne => exact (kindAt_erase_of_ne tree hne).trans hspot
  | removed above ih => exact ih hspot

/-- An entry in which nothing lies goes. -/
theorem erase (h : tree.Sound) (name : Bytes) (directory : Place)
    (hempty : ∀ other, tree.kindAt (other :: name :: directory) = none) :
    (tree.erase (name :: directory)).Sound := by
  constructor
  · intro other below hsome
    rw [kindAt_erase (List.cons_ne_nil _ _)] at hsome ⊢
    split at hsome
    · cases hsome
    · rw [if_neg, h.parent other below hsome]
      rintro rfl
      rw [hempty] at hsome
      cases hsome
  · exact h.kindAt_without name directory h.working

/-- Nothing lies in a file. -/
theorem kindAt_below_file (h : tree.Sound) (hfile : tree.kindAt place = some .file)
    (name : Bytes) : tree.kindAt (name :: place) = none := by
  cases hbelow : tree.kindAt (name :: place) with
  | none => rfl
  | some kind =>
    have hdirectory := h.parent name place (by rw [hbelow]; rfl)
    exact absurd hdirectory (kindAt_ne_directory hfile)

end Sound

/-! ## Walks -/

theorem check_eq_ok_iff {holds : Bool} {error : IoError} {result : Unit} :
    check holds error = .ok result ↔ holds = true := by
  cases holds <;> simp [check]

theorem asDirectory_eq_ok_iff :
    tree.asDirectory spot = .ok found ↔ tree.kindIn spot = some .directory ∧ spot = found := by
  rw [asDirectory]
  split
  · next h => simp [h]
  · next h => simp [h]

/-- A name that stays, or goes to the directory above. -/
def IsDots (name : Bytes) : Prop := name = self ∨ name = parent

/-- The place of a proper name. -/
theorem lookUp_eq_ok_iff :
    tree.lookUp spot name = .ok place ↔ ∃ directory, spot = .inTree directory ∧
      name.length ≤ nameLimit ∧ (tree.kindAt (name :: directory)).isSome ∧
        name :: directory = place := by
  cases spot with
  | removed above => simp [lookUp]
  | inTree directory =>
    simp only [lookUp, Spot.inTree.injEq, exists_eq_left']
    split
    · next hlong =>
      have hlength : ¬name.length ≤ nameLimit := by omega
      simp [hlength]
    · next hshort =>
      have hlength : name.length ≤ nameLimit := by omega
      split
      · next hsome => simp [hlength, hsome]
      · next hnone => simp [hnone]

/-- Where a proper name leads. -/
theorem step_eq_ok_iff (hname : ¬IsDots name) :
    tree.step spot name = .ok found ↔ tree.permissions.isSearchable spot = true ∧
      ∃ place, tree.lookUp spot name = .ok place ∧ .inTree place = found := by
  rw [IsDots, not_or] at hname
  simp only [step, if_neg hname.1, if_neg hname.2, bind_eq_ok_iff, check_eq_ok_iff, pure_eq_ok_iff]
  simp

/-- Dots lead from a spot in order to another. -/
theorem Sound.kindAt_of_isDots (h : tree.Sound) (hname : IsDots name)
    (hspot : tree.kindAt spot.ground = some .directory) (hstep : tree.step spot name = .ok found) :
    tree.kindAt found.ground = some .directory := by
  simp only [step, bind_eq_ok_iff] at hstep
  obtain ⟨-, -, hstep⟩ := hstep
  by_cases hself : name = self
  · rw [if_pos hself, pure_eq_ok_iff] at hstep
    exact hstep ▸ hspot
  · rw [if_neg hself, if_pos (hname.resolve_left hself), pure_eq_ok_iff] at hstep
    exact hstep ▸ h.kindAt_above hspot

/-- A proper name leads to a place in a directory. -/
theorem exists_of_step (hname : ¬IsDots name) (hstep : tree.step spot name = .ok found) :
    ∃ directory, spot = .inTree directory ∧ found = .inTree (name :: directory) ∧
      (tree.kindAt (name :: directory)).isSome := by
  obtain ⟨-, place, hlook, rfl⟩ := (step_eq_ok_iff hname).mp hstep
  obtain ⟨directory, hspot, -, hsome, rfl⟩ := lookUp_eq_ok_iff.mp hlook
  exact ⟨directory, hspot, rfl, hsome⟩

/-- A walk leads from a spot in order to another. -/
theorem Sound.kindAt_of_walk (h : tree.Sound) {names : List Bytes}
    (hspot : tree.kindAt spot.ground = some .directory) (hwalk : tree.walk spot names = .ok found) :
    tree.kindAt found.ground = some .directory := by
  induction names generalizing spot with
  | nil =>
    cases hwalk
    exact hspot
  | cons name names ih =>
    simp only [walk, bind_eq_ok_iff, asDirectory_eq_ok_iff] at hwalk
    obtain ⟨next, hstep, _, ⟨hnext, rfl⟩, hwalk⟩ := hwalk
    refine ih ?_ hwalk
    by_cases hname : IsDots name
    · exact h.kindAt_of_isDots hname hspot hstep
    · obtain ⟨directory, -, rfl, -⟩ := exists_of_step hname hstep
      exact hnext

/-- Every walk starts in order. -/
theorem Sound.kindAt_start (h : tree.Sound) (parts : PathParts) :
    tree.kindAt (tree.start parts).ground = some .directory := by
  rw [start]
  split
  · rfl
  · exact h.working

end LaunchKit.FileTree
