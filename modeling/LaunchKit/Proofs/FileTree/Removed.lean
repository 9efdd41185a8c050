import LaunchKit.Proofs.FileTree.Sound
import LaunchKit.Proofs.Text.Raw

/-!
# What is removed

The system removes what a path leads to, if it is of the kind that is asked for, nothing lies in it
and its removal is permitted. A directory must moreover be named: a path that ends in `.` or `..`,
or in no name at all, leads to one, and still removes none. A file need not be named by its own
account, since nothing but a name leads to a file.

## Main definitions

* `FileTree.Permits`: what the system permits to be removed.
* `FileTree.Leads`: a path that leads to a name in a directory.
* `FileTree.EndsInName`: a path that ends in a proper name.
* `FileTree.Reachable`: the trees that there are.

## Main statements

* `FileTree.remove_eq_ok_iff`: what is removed, and when.
* `FileTree.Reachable.sound`: all trees that there are are in order.
-/
namespace LaunchKit.FileTree

variable {tree left : FileTree} {place directory : Place} {spot found : Spot} {path name : Bytes}
  {kind : EntryKind}

/-! ## Names -/

/-- What the system permits to be removed: what does not lie where nothing can be written to and is
not protected otherwise. -/
structure Permits (tree : FileTree) (place : Place) : Prop where
  writable : tree.permissions.isReadOnly place.tail = false
  unprotected : tree.permissions.refusal? place = none

theorem permit_eq_ok_iff {result : Unit} :
    tree.permit place = .ok result ↔ tree.permissions.refusal? place = none := by
  rw [permit]
  split
  · next hrefusal => simp [hrefusal]
  · next hrefusal => simp [hrefusal]

/-- Removing begins as every step to a proper name does, where writing is possible. -/
theorem exists_lookUp_iff {behind : Place → Prop} (hname : ¬IsDots name) :
    (tree.permissions.isSearchable spot = true ∧ tree.permissions.isReadOnly spot.ground = false ∧
      ∃ place, tree.lookUp spot name = .ok place ∧ behind place) ↔
    ∃ place, tree.step spot name = .ok (.inTree place) ∧
      tree.permissions.isReadOnly place.tail = false ∧ behind place := by
  simp only [step_eq_ok_iff hname, Spot.inTree.injEq, exists_eq_right]
  constructor
  · rintro ⟨hsearch, hwrite, place, hlook, hplace⟩
    obtain ⟨directory, rfl, -, -, rfl⟩ := lookUp_eq_ok_iff.mp hlook
    exact ⟨_, ⟨hsearch, hlook⟩, hwrite, hplace⟩
  · rintro ⟨place, ⟨hsearch, hlook⟩, hwrite, hplace⟩
    obtain ⟨directory, rfl, -, -, rfl⟩ := lookUp_eq_ok_iff.mp hlook
    exact ⟨hsearch, hwrite, _, hlook, hplace⟩

/-- Which file is removed from a directory. -/
theorem removeFile_eq_ok_iff {slashed : Bool} :
    tree.removeFile spot name slashed = .ok left ↔
      ¬IsDots name ∧ ∃ place, tree.step spot name = .ok (.inTree place) ∧
        tree.permissions.isReadOnly place.tail = false ∧ slashed = false ∧
          tree.permissions.refusal? place = none ∧ tree.kindAt place ≠ some .directory ∧
            tree.erase place = left := by
  unfold removeFile
  simp only [guarded_eq_ok_iff, bind_eq_ok_iff, pure_eq_ok_iff, check_eq_ok_iff, permit_eq_ok_iff,
    exists_const, decide_eq_true_eq, Bool.not_eq_true', Bool.not_eq_true]
  rw [and_left_comm]
  exact and_congr_right exists_lookUp_iff

/-- Which directory is removed from a directory. -/
theorem removeDirectory_eq_ok_iff :
    tree.removeDirectory spot name = .ok left ↔
      ¬IsDots name ∧ ∃ place, tree.step spot name = .ok (.inTree place) ∧
        tree.permissions.isReadOnly place.tail = false ∧
          tree.permissions.refusal? place = none ∧ tree.kindAt place = some .directory ∧
            tree.children place = [] ∧ tree.erase place = left := by
  unfold removeDirectory
  simp only [guarded_eq_ok_iff, bind_eq_ok_iff, pure_eq_ok_iff, check_eq_ok_iff, permit_eq_ok_iff,
    exists_const, decide_eq_true_eq, Bool.not_eq_true', List.isEmpty_iff]
  rw [← and_assoc (a := ¬name = self), ← not_or, and_left_comm]
  exact and_congr_right exists_lookUp_iff

/-! ## Paths -/

/-- A path that leads to a name in a directory. -/
structure Leads (tree : FileTree) (path : Bytes) (spot : Spot) (name : Bytes) : Prop where
  accepted : acceptedParts path = .ok (partsOf path)
  walked : tree.walk (tree.start (partsOf path)) (partsOf path).names.dropLast = .ok spot
  last : (partsOf path).names.getLast? = some name

theorem acceptedParts_eq_ok {parts : PathParts} (h : acceptedParts path = .ok parts) :
    partsOf path = parts := by
  rw [acceptedParts] at h
  split at h
  · cases h
  · split at h
    · cases h
    · exact Except.ok.inj h

namespace Leads

theorem kindAt (h : Leads tree path spot name) (hsound : tree.Sound) :
    tree.kindAt spot.ground = some .directory :=
  hsound.kindAt_of_walk (hsound.kindAt_start _) h.walked

/-- What a path leads to that ends in a name. -/
theorem locate_eq_ok_iff (h : Leads tree path spot name) :
    tree.locate path = .ok found ↔ tree.step spot name = .ok found ∧
      ((partsOf path).slashed = true → tree.kindIn found = some .directory) := by
  rw [locate, h.accepted]
  simp only [bind_eq_ok_iff, Except.ok.injEq, exists_eq_left', h.walked, h.last]
  constructor
  · rintro ⟨next, hstep, hfound⟩
    split at hfound
    · obtain ⟨hdirectory, rfl⟩ := asDirectory_eq_ok_iff.mp hfound
      exact ⟨hstep, fun _ => hdirectory⟩
    · next hslashed =>
      cases hfound
      exact ⟨hstep, fun hand => absurd hand hslashed⟩
  · rintro ⟨hstep, hdirectory⟩
    refine ⟨found, hstep, ?_⟩
    split
    · next hslashed => exact asDirectory_eq_ok_iff.mpr ⟨hdirectory hslashed, rfl⟩
    · rfl

/-- What is removed by a path that ends in a name. -/
theorem remove_eq_ok_iff (h : Leads tree path spot name) (hsound : tree.Sound) :
    tree.remove kind path = .ok left ↔ ¬IsDots name ∧
      ∃ place, tree.locate path = .ok (.inTree place) ∧ tree.kindAt place = some kind ∧
        (∀ other, tree.kindAt (other :: place) = none) ∧ tree.Permits place ∧
          tree.erase place = left := by
  rw [remove, h.accepted]
  simp only [bind_eq_ok_iff, Except.ok.injEq, exists_eq_left', h.walked, h.last,
    h.locate_eq_ok_iff]
  cases kind with
  | file =>
    simp only [removeFile_eq_ok_iff]
    -- What is there and is no directory is a file, and a slash behind it is refused on both sides.
    refine and_congr_right fun hname => exists_congr fun place => ?_
    constructor
    · rintro ⟨hstep, hwrite, hslashed, hrefusal, hother, hleft⟩
      obtain ⟨directory, -, heq, hsome⟩ := exists_of_step hname hstep
      cases heq
      have hfile : tree.kindAt (name :: directory) = some .file := by
        obtain ⟨kind, hkind⟩ := Option.isSome_iff_exists.mp hsome
        cases kind with
        | file => exact hkind
        | directory => exact absurd hkind hother
      refine ⟨⟨hstep, fun hand => ?_⟩, hfile, hsound.kindAt_below_file hfile,
        ⟨hwrite, hrefusal⟩, hleft⟩
      rw [hslashed] at hand
      cases hand
    · rintro ⟨⟨hstep, hslashed⟩, hfile, -, ⟨hwrite, hrefusal⟩, hleft⟩
      refine ⟨hstep, hwrite, ?_, hrefusal, kindAt_ne_directory hfile, hleft⟩
      cases hlast : (partsOf path).slashed with
      | false => rfl
      | true => exact absurd (hslashed hlast) (kindAt_ne_directory hfile)
  | directory =>
    simp only [removeDirectory_eq_ok_iff, children_eq_nil_iff]
    refine and_congr_right fun _ => exists_congr fun place => ?_
    constructor
    · rintro ⟨hstep, hwrite, hrefusal, hdirectory, hempty, hleft⟩
      exact ⟨⟨hstep, fun _ => hdirectory⟩, hdirectory, hempty, ⟨hwrite, hrefusal⟩, hleft⟩
    · rintro ⟨⟨hstep, -⟩, hdirectory, hempty, ⟨hwrite, hrefusal⟩, hleft⟩
      exact ⟨hstep, hwrite, hrefusal, hdirectory, hempty, hleft⟩

end Leads

/-- What can be removed is named. -/
theorem exists_leads_of_remove (h : tree.remove kind path = .ok left) :
    ∃ spot name, Leads tree path spot name := by
  simp only [remove, bind_eq_ok_iff] at h
  obtain ⟨parts, hparts, spot, hwalk, hremove⟩ := h
  obtain rfl := acceptedParts_eq_ok hparts
  cases hlast : (partsOf path).names.getLast? with
  | none =>
    rw [hlast] at hremove
    cases kind <;> cases hremove
  | some name => exact ⟨spot, name, hparts, hwalk, hlast⟩

/-- A path that leads somewhere leads to a name in a directory, or to where it starts. -/
theorem exists_leads_of_locate (h : tree.locate path = .ok found) :
    (∃ spot name, Leads tree path spot name) ∨
      (partsOf path).names = [] ∧ tree.start (partsOf path) = found := by
  simp only [locate, bind_eq_ok_iff] at h
  obtain ⟨parts, hparts, spot, hwalk, hlocate⟩ := h
  obtain rfl := acceptedParts_eq_ok hparts
  cases hlast : (partsOf path).names.getLast? with
  | none =>
    rw [hlast] at hlocate
    have hnames := List.getLast?_eq_none_iff.mp hlast
    rw [hnames] at hwalk
    cases hwalk
    cases hlocate
    exact Or.inr ⟨hnames, rfl⟩
  | some name => exact Or.inl ⟨spot, name, hparts, hwalk, hlast⟩

/-- A path that ends in a proper name. -/
def EndsInName (path : Bytes) : Prop := ∃ name ∈ (partsOf path).names.getLast?, ¬IsDots name

/-- A path that ends in a proper name leads to that name, if it leads anywhere. -/
theorem EndsInName.exists_leads (hname : EndsInName path) (hlocate : tree.locate path = .ok found) :
    ∃ directory name, Leads tree path (.inTree directory) name ∧ ¬IsDots name ∧
      .inTree (name :: directory) = found := by
  obtain ⟨name, hlast, hdots⟩ := hname
  rcases exists_leads_of_locate hlocate with ⟨spot, other, hleads⟩ | ⟨hnames, -⟩
  · obtain rfl : other = name := by
      rw [hleads.last] at hlast
      exact Option.some.inj hlast
    obtain ⟨directory, rfl, hfound, -⟩ :=
      exists_of_step hdots (hleads.locate_eq_ok_iff.mp hlocate).1
    exact ⟨directory, other, hleads, hdots, hfound.symm⟩
  · rw [hnames] at hlast
    cases hlast

/-- **What is removed**: the place to which the path leads, if it is of the kind, nothing lies in it
and its removal is permitted, and the path ends in a proper name. -/
theorem remove_eq_ok_iff (hsound : tree.Sound) :
    tree.remove kind path = .ok left ↔ EndsInName path ∧
      ∃ place, tree.locate path = .ok (.inTree place) ∧ tree.kindAt place = some kind ∧
        (∀ other, tree.kindAt (other :: place) = none) ∧ tree.Permits place ∧
          tree.erase place = left := by
  constructor
  · intro h
    obtain ⟨spot, name, hleads⟩ := exists_leads_of_remove h
    obtain ⟨hname, hplace⟩ := (hleads.remove_eq_ok_iff hsound).mp h
    exact ⟨⟨name, hleads.last, hname⟩, hplace⟩
  · rintro ⟨hname, place, hlocate, hplace⟩
    obtain ⟨directory, name, hleads, hdots, -⟩ := hname.exists_leads hlocate
    exact (hleads.remove_eq_ok_iff hsound).mpr ⟨hdots, place, hlocate, hplace⟩

/-- What is left when something was removed is in order. -/
theorem Sound.remove (hsound : tree.Sound) (h : tree.remove kind path = .ok left) :
    left.Sound := by
  obtain ⟨hname, place, hlocate, -, hempty, -, rfl⟩ := (remove_eq_ok_iff hsound).mp h
  obtain ⟨directory, name, -, -, heq⟩ := hname.exists_leads hlocate
  cases heq
  exact hsound.erase name directory hempty

/-- What is left when something was to be deleted is in order. -/
theorem Sound.delete (hsound : tree.Sound) (kind : EntryKind) (path : RawText) :
    (tree.delete kind path).2.1.Sound := by
  rw [FileTree.delete]
  split
  · exact hsound
  · split
    · next left hremove => exact hsound.remove hremove
    · exact hsound

/-! ## The trees that there are -/

/-- The trees that there are: the one of a root in which nothing lies, and what becomes of them when
an entry comes into a directory, another directory is worked in, something else is permitted, or an
entry is deleted. -/
inductive Reachable : FileTree → Prop
  | root : Reachable {}
  | insert {tree : FileTree} (h : Reachable tree) (directory : Place)
      (hdirectory : tree.kindAt directory = some .directory) (name : Bytes) (kind : EntryKind) :
      Reachable (tree.insert (name :: directory) kind)
  | enter {tree : FileTree} (h : Reachable tree) (directory : Place)
      (hdirectory : tree.kindAt directory = some .directory) :
      Reachable { tree with working := .inTree directory }
  | permit {tree : FileTree} (h : Reachable tree) (permissions : Permissions) :
      Reachable { tree with permissions }
  | delete {tree : FileTree} (h : Reachable tree) (kind : EntryKind) (path : RawText) :
      Reachable (tree.delete kind path).2.1

/-- **All trees that there are are in order.** -/
theorem Reachable.sound (h : tree.Reachable) : tree.Sound := by
  induction h with
  | root => exact ⟨nofun, rfl⟩
  | insert _ _ hdirectory name kind ih => exact ih.insert hdirectory name kind
  | enter _ _ hdirectory ih => exact ih.enter hdirectory
  | permit _ permissions ih => exact ih.permit permissions
  | delete _ kind path ih => exact ih.delete kind path

end LaunchKit.FileTree
