import LaunchKit.Proofs.Path.Roots

/-!
# Reduced names

What the stack of names leaves of any names: steps up first, none of them below a root, and then
names that are neither empty nor `.`. Reducing such names again changes nothing. So a path is its
own normal form as soon as the names behind its drive and root are reduced, whatever the drive.

## Main definitions

* `Path.IsReduced`: steps up, then names.

## Main statements

* `Path.isReduced_reduce`, `Path.reduce_of_isReduced`: reduction leaves reduced names, and changes
  no others.
* `Path.reduce_reduce_append`: names may be reduced in two steps.
* `Path.normalize_of_rooted`, `Path.normalize_of_unrooted`: the normal form, by what stands behind
  the drive.
* `Path.normalize_eq_self_iff_of_rooted`, `Path.normalize_drive_eq_self_iff`,
  `Path.normalize_eq_self_iff_of_relative`: which paths are their own normal forms.
-/
namespace LaunchKit.Path

/-- Steps up, and names behind them. Where `rooted` is set there is no step up, as behind a root or
behind a name. -/
def IsReduced : (rooted : Bool) → List Text → Prop
  | _, [] => True
  | rooted, name :: names =>
    if name = parent then rooted = false ∧ IsReduced false names
    else name ≠ [] ∧ name ≠ current ∧ IsReduced true names

/-! ## Reduced names -/

@[simp] theorem isReduced_nil (rooted : Bool) : IsReduced rooted [] := trivial

theorem isReduced_parent_cons {rooted : Bool} {names : List Text} :
    IsReduced rooted (parent :: names) ↔ rooted = false ∧ IsReduced false names := by
  rw [IsReduced, if_pos rfl]

theorem isReduced_cons_of_ne {rooted : Bool} {name : Text} {names : List Text}
    (h : name ≠ parent) :
    IsReduced rooted (name :: names) ↔ name ≠ [] ∧ name ≠ current ∧ IsReduced true names := by
  rw [IsReduced, if_neg h]

/-- Names that are reduced below a root are reduced elsewhere. -/
theorem IsReduced.of_rooted {rooted : Bool} {names : List Text} (h : IsReduced true names) :
    IsReduced rooted names := by
  cases names with
  | nil => trivial
  | cons name names =>
    by_cases hname : name = parent
    · subst hname
      exact absurd (isReduced_parent_cons.mp h).1 (by decide)
    · rw [isReduced_cons_of_ne hname] at h ⊢
      exact h

theorem IsReduced.tail {rooted : Bool} {name : Text} {names : List Text}
    (h : IsReduced rooted (name :: names)) : IsReduced false names := by
  by_cases hname : name = parent
  · subst hname
    exact (isReduced_parent_cons.mp h).2
  · exact ((isReduced_cons_of_ne hname).mp h).2.2.of_rooted

theorem IsReduced.head_ne_nil {rooted : Bool} {name : Text} {names : List Text}
    (h : IsReduced rooted (name :: names)) : name ≠ [] := by
  by_cases hname : name = parent
  · subst hname
    decide
  · exact ((isReduced_cons_of_ne hname).mp h).1

theorem IsReduced.head_ne_current {rooted : Bool} {name : Text} {names : List Text}
    (h : IsReduced rooted (name :: names)) : name ≠ current := by
  by_cases hname : name = parent
  · subst hname
    decide
  · exact ((isReduced_cons_of_ne hname).mp h).2.1

/-- No reduced name is empty. -/
theorem IsReduced.ne_nil {rooted : Bool} {names : List Text} (h : IsReduced rooted names) :
    ∀ name ∈ names, name ≠ [] := by
  induction names generalizing rooted with
  | nil => simp
  | cons first names ih =>
    intro name hmem
    rcases List.mem_cons.mp hmem with rfl | hmem
    · exact h.head_ne_nil
    · exact ih h.tail name hmem

/-- No reduced name is `.`. -/
theorem IsReduced.ne_current {rooted : Bool} {names : List Text} (h : IsReduced rooted names) :
    ∀ name ∈ names, name ≠ current := by
  induction names generalizing rooted with
  | nil => simp
  | cons first names ih =>
    intro name hmem
    rcases List.mem_cons.mp hmem with rfl | hmem
    · exact h.head_ne_current
    · exact ih h.tail name hmem

/-! ## Reduction -/

/-- Reduced names pile up: as long as steps up may follow, only steps up lie on the stack. -/
theorem foldl_push_of_isReduced {rooted behind : Bool} {names stack : List Text}
    (h : IsReduced behind names)
    (hstack : behind = false → rooted = false ∧ ∀ name ∈ stack, name = parent) :
    names.foldl (push rooted) stack = names.reverse ++ stack := by
  induction names generalizing behind stack with
  | nil => rfl
  | cons name names ih =>
    rw [List.foldl_cons, List.reverse_cons, List.append_assoc, List.singleton_append]
    by_cases hname : name = parent
    · subst hname
      obtain ⟨hbehind, hnames⟩ := isReduced_parent_cons.mp h
      obtain ⟨hrooted, hups⟩ := hstack hbehind
      have hpush : push rooted stack parent = parent :: stack := by
        cases stack with
        | nil => simp [push, hrooted]
        | cons last others => simp [push, hups last (by simp)]
      rw [hpush]
      refine ih hnames fun _ => ⟨hrooted, ?_⟩
      intro other hmem
      rcases List.mem_cons.mp hmem with rfl | hmem
      · rfl
      · exact hups other hmem
    · obtain ⟨hnil, hcurrent, hnames⟩ := (isReduced_cons_of_ne hname).mp h
      rw [push_of_plain hnil hcurrent hname]
      exact ih hnames (by simp)

/-- **Reduced names are not changed.** -/
theorem reduce_of_isReduced {rooted : Bool} {names : List Text} (h : IsReduced rooted names) :
    reduce rooted names = names := by
  rw [reduce, foldl_push_of_isReduced h (by simp)]
  simp

theorem isReduced_of_append {rooted : Bool} {front names : List Text}
    (h : IsReduced rooted (front ++ names)) : IsReduced rooted front := by
  induction front generalizing rooted with
  | nil => trivial
  | cons name front ih =>
    rw [List.cons_append] at h
    by_cases hname : name = parent
    · subst hname
      obtain ⟨hrooted, hnames⟩ := isReduced_parent_cons.mp h
      exact isReduced_parent_cons.mpr ⟨hrooted, ih hnames⟩
    · obtain ⟨hnil, hcurrent, hnames⟩ := (isReduced_cons_of_ne hname).mp h
      exact (isReduced_cons_of_ne hname).mpr ⟨hnil, hcurrent, ih hnames⟩

/-- A name may follow any reduced names. -/
theorem isReduced_append_singleton {rooted : Bool} {front : List Text} {name : Text}
    (h : IsReduced rooted front) (hnil : name ≠ []) (hcurrent : name ≠ current)
    (hname : name ≠ parent) : IsReduced rooted (front ++ [name]) := by
  induction front generalizing rooted with
  | nil => exact (isReduced_cons_of_ne hname).mpr ⟨hnil, hcurrent, trivial⟩
  | cons first front ih =>
    rw [List.cons_append]
    by_cases hfirst : first = parent
    · subst hfirst
      obtain ⟨hrooted, hfront⟩ := isReduced_parent_cons.mp h
      exact isReduced_parent_cons.mpr ⟨hrooted, ih hfront⟩
    · obtain ⟨hnil', hcurrent', hfront⟩ := (isReduced_cons_of_ne hfirst).mp h
      exact (isReduced_cons_of_ne hfirst).mpr ⟨hnil', hcurrent', ih hfront⟩

/-- A step up may follow a step up. -/
theorem isReduced_append_parent {rooted : Bool} {front : List Text}
    (h : IsReduced rooted (front ++ [parent])) : IsReduced rooted (front ++ [parent, parent]) := by
  induction front generalizing rooted with
  | nil =>
    obtain ⟨hrooted, -⟩ := isReduced_parent_cons.mp h
    exact isReduced_parent_cons.mpr ⟨hrooted, isReduced_parent_cons.mpr ⟨rfl, trivial⟩⟩
  | cons first front ih =>
    rw [List.cons_append] at h ⊢
    by_cases hfirst : first = parent
    · subst hfirst
      obtain ⟨hrooted, hfront⟩ := isReduced_parent_cons.mp h
      exact isReduced_parent_cons.mpr ⟨hrooted, ih hfront⟩
    · obtain ⟨hnil, hcurrent, hfront⟩ := (isReduced_cons_of_ne hfirst).mp h
      exact (isReduced_cons_of_ne hfirst).mpr ⟨hnil, hcurrent, ih hfront⟩

/-- One more name keeps the stack reduced, read from its bottom. -/
theorem isReduced_push {rooted : Bool} {stack : List Text} (h : IsReduced rooted stack.reverse)
    (name : Text) : IsReduced rooted (push rooted stack name).reverse := by
  rw [push.eq_def]
  split
  · exact h
  · next hname =>
    rw [not_or] at hname
    split
    · cases stack with
      | nil => cases rooted <;> simp [IsReduced]
      | cons last others =>
        rw [List.reverse_cons] at h
        dsimp only
        split
        · next hlast =>
          subst hlast
          rw [List.reverse_cons, List.reverse_cons, List.append_assoc]
          exact isReduced_append_parent h
        · exact isReduced_of_append h
    · next hparent =>
      rw [List.reverse_cons]
      exact isReduced_append_singleton h hname.1 hname.2 hparent

/-- **Reduction leaves reduced names.** -/
theorem isReduced_reduce (rooted : Bool) (names : List Text) :
    IsReduced rooted (reduce rooted names) := by
  have hrun (stack : List Text) (h : IsReduced rooted stack.reverse) :
      IsReduced rooted (names.foldl (push rooted) stack).reverse := by
    induction names generalizing stack with
    | nil => exact h
    | cons name names ih => exact ih _ (isReduced_push h name)
  exact hrun [] trivial

/-- One name more may be put on reduced names first: behind them, a step up takes away the same
name. -/
theorem foldl_push_push (rooted : Bool) (stack : List Text) {names : List Text}
    (h : IsReduced false names.reverse) (name : Text) :
    (push false names name).reverse.foldl (push rooted) stack =
      push rooted (names.reverse.foldl (push rooted) stack) name := by
  rw [push.eq_def false]
  split
  · next hname => rw [push.eq_def, if_pos hname]
  · split
    · next hname =>
      subst hname
      cases names with
      | nil => rfl
      | cons last others =>
        dsimp only
        split
        · rw [List.reverse_cons, List.foldl_append]
          rfl
        · next hlast =>
          -- Put on the stack, the last name lies on top and is what the step up takes away.
          have hmem : last ∈ (last :: others).reverse := by simp
          rw [List.reverse_cons, List.foldl_append, List.foldl_cons, List.foldl_nil,
            push_of_plain (h.ne_nil last hmem) (h.ne_current last hmem) hlast]
          simp [push, hlast]
    · rw [List.reverse_cons, List.foldl_append]
      rfl

/-- **Names may be reduced beforehand**: reduced or not, they leave the same on any stack. -/
theorem foldl_push_reduce (rooted : Bool) (stack names : List Text) :
    (reduce false names).foldl (push rooted) stack = names.foldl (push rooted) stack := by
  have hrun (before : List Text) (h : IsReduced false before.reverse) :
      (names.foldl (push false) before).reverse.foldl (push rooted) stack =
        names.foldl (push rooted) (before.reverse.foldl (push rooted) stack) := by
    induction names generalizing before with
    | nil => rfl
    | cons name names ih =>
      rw [List.foldl_cons, List.foldl_cons, ih _ (isReduced_push h name),
        foldl_push_push rooted stack h]
  exact hrun [] trivial

/-- **Reducing in two steps** is reducing once. Only the names in front are known to stand below a
root, if any do. -/
theorem reduce_reduce_append (rooted : Bool) (front names : List Text) :
    reduce rooted (reduce rooted front ++ reduce false names) = reduce rooted (front ++ names) := by
  have hfront : (reduce rooted front).foldl (push rooted) [] = front.foldl (push rooted) [] := by
    rw [foldl_push_of_isReduced (isReduced_reduce rooted front) (by simp)]
    simp [reduce]
  rw [reduce_append, reduce_append, foldl_push_reduce, hfront]

theorem mem_push {rooted : Bool} {stack : List Text} {name other : Text}
    (h : other ∈ push rooted stack name) : other = name ∨ other ∈ stack := by
  rw [push.eq_def] at h
  split at h
  · exact Or.inr h
  · split at h
    · next hname =>
      cases stack with
      | nil => cases rooted <;> simp_all
      | cons last others =>
        dsimp only at h
        split at h
        · rw [hname]
          exact List.mem_cons.mp h
        · exact Or.inr (List.mem_cons_of_mem _ h)
    · exact List.mem_cons.mp h

theorem mem_of_mem_foldl_push {rooted : Bool} {names stack : List Text} {name : Text}
    (h : name ∈ names.foldl (push rooted) stack) : name ∈ names ∨ name ∈ stack := by
  induction names generalizing stack with
  | nil => exact Or.inr h
  | cons first names ih =>
    rcases ih h with hmem | hmem
    · exact Or.inl (List.mem_cons_of_mem _ hmem)
    · rcases mem_push hmem with rfl | hmem
      · exact Or.inl List.mem_cons_self
      · exact Or.inr hmem

/-- Reduction makes no names. -/
theorem mem_of_mem_reduce {rooted : Bool} {names : List Text} {name : Text}
    (h : name ∈ reduce rooted names) : name ∈ names := by
  rcases mem_of_mem_foldl_push (List.mem_reverse.mp h) with hmem | hmem
  · exact hmem
  · cases hmem

/-- Empty names in front are dropped. -/
theorem reduce_dropWhile (rooted : Bool) (text : Text) :
    reduce rooted ((text.dropWhile (· = separator)).splitOn separator) =
      reduce rooted (text.splitOn separator) := by
  induction text with
  | nil => rfl
  | cons c text ih =>
    by_cases hc : c = separator
    · rw [List.dropWhile_cons_of_pos (by simp [hc]), ih, List.splitOn_cons_eq_if_modifyHead,
        if_pos (by simp [hc])]
      simp [reduce]
    · rw [List.dropWhile_cons_of_neg (by simp [hc])]

/-- The names that are left are read again from the joined text. -/
theorem isReduced_intercalate_reduce {rooted : Bool} {text : Text}
    (hnames : reduce rooted (text.splitOn separator) ≠ []) :
    IsReduced rooted ((List.intercalate [separator]
      (reduce rooted (text.splitOn separator))).splitOn separator) := by
  have hfree : ∀ name ∈ reduce rooted (text.splitOn separator), separator ∉ name :=
    fun name hmem => separator_not_mem_of_mem_splitOn (mem_of_mem_reduce hmem)
  rw [List.splitOn_intercalate separator hfree hnames]
  exact isReduced_reduce rooted _

/-- A text is left as it is when it is empty or has reduced names. -/
theorem intercalate_reduce_eq_self_iff {rooted : Bool} {text : Text} :
    List.intercalate [separator] (reduce rooted (text.splitOn separator)) = text ↔
      text = [] ∨ IsReduced rooted (text.splitOn separator) := by
  constructor
  · intro h
    by_cases hnames : reduce rooted (text.splitOn separator) = []
    · rw [hnames] at h
      exact Or.inl h.symm
    · have hreduced := isReduced_intercalate_reduce hnames
      rw [h] at hreduced
      exact Or.inr hreduced
  · rintro (rfl | h)
    · rfl
    · rw [reduce_of_isReduced h, List.intercalate_splitOn]

/-! ## Normal forms -/

/-- The normal form of a path with a separator behind its drive. -/
theorem normalize_of_rooted {path drive rest : Text} (hslash : '/' ∉ path)
    (h : splitDrive path = (drive, separator :: rest)) :
    normalize path =
      drive ++ separator ::
        List.intercalate [separator] (reduce true (rest.splitOn separator)) := by
  have hroot : splitRoot path = (drive ++ [separator], rest.dropWhile (· = separator)) := by
    rw [splitRoot, h]
    simp
  rw [normalize, withBackslashes_of_not_mem hslash, hroot]
  simp [reduce_dropWhile]

/-- The normal form of a path without a separator behind its drive. -/
theorem normalize_of_unrooted {path drive rest : Text} (hslash : '/' ∉ path)
    (h : splitDrive path = (drive, rest)) (hrest : rest.head? ≠ some separator) :
    normalize path =
      if drive = [] ∧ reduce (drive.getLast? = some separator) (rest.splitOn separator) = [] then
        current
      else drive ++ List.intercalate [separator]
        (reduce (drive.getLast? = some separator) (rest.splitOn separator)) := by
  have hroot : splitRoot path = (drive, rest) := by
    rw [splitRoot, h]
    simp [hrest]
  rw [normalize, withBackslashes_of_not_mem hslash, hroot]
  simp only [Bool.and_eq_true, List.isEmpty_iff]

/-- Behind a root, a path in normal form is the root alone or has reduced names. -/
theorem normalize_eq_self_iff_of_rooted {path drive rest : Text} (hslash : '/' ∉ path)
    (h : splitDrive path = (drive, separator :: rest)) :
    normalize path = path ↔ rest = [] ∨ IsReduced true (rest.splitOn separator) := by
  have hpath : path = drive ++ separator :: rest := by
    rw [← splitDrive_append path, h]
  rw [normalize_of_rooted hslash h, ← intercalate_reduce_eq_self_iff]
  rw [hpath]
  simp

theorem splitDrive_colon (c : Char) (rest : Text) :
    splitDrive (c :: ':' :: rest) = ([c, ':'], rest) := by
  have hcolon : isSeparator ':' = false := by decide
  simp [splitDrive, hcolon]

/-- The normal form of a path with names directly behind a drive of two characters. -/
theorem normalize_drive {c : Char} {rest : Text} (hslash : '/' ∉ c :: ':' :: rest)
    (hrest : rest.head? ≠ some separator) :
    normalize (c :: ':' :: rest) =
      c :: ':' :: List.intercalate [separator] (reduce false (rest.splitOn separator)) := by
  rw [normalize_of_unrooted hslash (splitDrive_colon c rest) hrest]
  simp [separator]

/-- Directly behind a drive of two characters, a path in normal form is the drive alone or has
reduced names. -/
theorem normalize_drive_eq_self_iff {c : Char} {rest : Text} (hslash : '/' ∉ c :: ':' :: rest)
    (hrest : rest.head? ≠ some separator) :
    normalize (c :: ':' :: rest) = c :: ':' :: rest ↔
      rest = [] ∨ IsReduced false (rest.splitOn separator) := by
  rw [normalize_drive hslash hrest, ← intercalate_reduce_eq_self_iff]
  simp

/-- A path in normal form without drive and root is `.` or has reduced names. -/
theorem normalize_eq_self_iff_of_relative {path : Text} (hslash : '/' ∉ path)
    (hdrive : (splitDrive path).1 = []) (hrooted : path.head? ≠ some separator) :
    normalize path = path ↔ path = current ∨ IsReduced false (path.splitOn separator) := by
  have hsplit : splitDrive path = ([], path) := by
    have happend := splitDrive_append path
    rw [hdrive, List.nil_append] at happend
    exact Prod.ext hdrive happend
  rw [normalize_of_unrooted hslash hsplit hrooted]
  have hflag : (decide (([] : Text).getLast? = some separator)) = false := rfl
  rw [hflag, List.nil_append]
  constructor
  · intro h
    split at h
    · exact Or.inl h.symm
    · next hnames =>
      rcases intercalate_reduce_eq_self_iff.mp h with rfl | hreduced
      · exact absurd ⟨rfl, rfl⟩ hnames
      · exact Or.inr hreduced
  · rintro (rfl | h)
    · rfl
    · rw [if_neg]
      · exact intercalate_reduce_eq_self_iff.mpr (Or.inr h)
      · rintro ⟨-, hnames⟩
        rw [reduce_of_isReduced h] at hnames
        exact List.splitOn_ne_nil separator path hnames

end LaunchKit.Path
