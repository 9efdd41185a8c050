import LaunchKit.Proofs.Path.Roots

/-!
# Relative paths lead back

A relative path goes up from the base, once for each name that the two paths do not have in common,
and then down to the path. Taken relative to the base, its steps up take away exactly these names,
and what is left are the names of the path. This holds below any root, and also where no name is
left on one of the two sides.

## Main statements

* `Path.reduce_up_down`: what steps up and names leave of the names of a base.
* `Path.relativeBySegments_append`: the way between two paths below one root.
* `Path.normalize_join_relative`: the way leads from the base to the path.
-/
namespace LaunchKit.Path

/-! ## Reduced names -/

/-- Plain names pile up. -/
theorem foldl_push_of_isPlain (rooted : Bool) (stack : List Text) {names : List Text}
    (h : ∀ name ∈ names, IsPlain name) :
    names.foldl (push rooted) stack = names.reverse ++ stack := by
  induction names generalizing stack with
  | nil => rfl
  | cons name names ih =>
    have hname : IsPlain name := h name (by simp)
    rw [List.foldl_cons, push_of_plain hname.ne_nil hname.ne_current hname.ne_parent,
      ih _ fun other hmem => h other (List.mem_cons_of_mem _ hmem)]
    simp

/-- As many steps up take plain names away again. -/
theorem foldl_push_parents (rooted : Bool) (stack : List Text) {names : List Text}
    (h : ∀ name ∈ names, IsPlain name) :
    (List.replicate names.length parent).foldl (push rooted) (names ++ stack) = stack := by
  induction names with
  | nil => rfl
  | cons name names ih =>
    have hname : IsPlain name := h name (by simp)
    have hpush : push rooted (name :: names ++ stack) parent = names ++ stack := by
      simp [push, hname.ne_parent]
    rw [List.length_cons, List.replicate_succ, List.foldl_cons, hpush]
    exact ih fun other hmem => h other (List.mem_cons_of_mem _ hmem)

/-- Plain names, and as many steps up behind them, leave the stack as it is. -/
theorem foldl_push_up_again (rooted : Bool) (stack : List Text) {names : List Text}
    (h : ∀ name ∈ names, IsPlain name) :
    (names ++ List.replicate names.length parent).foldl (push rooted) stack = stack := by
  have hreverse : ∀ name ∈ names.reverse, IsPlain name := by
    intro name hmem
    exact h name (List.mem_reverse.mp hmem)
  have hparents := foldl_push_parents rooted stack hreverse
  rw [List.length_reverse] at hparents
  rw [List.foldl_append, foldl_push_of_isPlain rooted stack h, hparents]

/-- **Up and down again.** Below any root, steps up from the names of the base to the common names,
and then the names of the path, leave the names of the path. -/
theorem reduce_up_down (rooted : Bool) {common up down : List Text}
    (hcommon : ∀ name ∈ common, IsPlain name) (hup : ∀ name ∈ up, IsPlain name)
    (hdown : ∀ name ∈ down, IsPlain name) :
    reduce rooted (common ++ up ++ (List.replicate up.length parent ++ down)) =
      common ++ down := by
  have hsame : common ++ up ++ (List.replicate up.length parent ++ down) =
      common ++ ((up ++ List.replicate up.length parent) ++ down) := by simp
  rw [hsame, reduce, List.foldl_append, List.foldl_append, foldl_push_up_again rooted _ hup,
    foldl_push_of_isPlain rooted [] hcommon, foldl_push_of_isPlain rooted _ hdown]
  simp

/-! ## Names of joined texts -/

/-- Names that are joined and read again are reduced as they are: of no names at all one empty
name is read, which is dropped. -/
theorem reduce_append_splitOn (rooted : Bool) (front : List Text) {names : List Text}
    (h : ∀ name ∈ names, separator ∉ name) :
    reduce rooted (front ++ (List.intercalate [separator] names).splitOn separator) =
      reduce rooted (front ++ names) := by
  by_cases hnames : names = []
  · subst hnames
    simp [reduce]
  · rw [List.splitOn_intercalate separator h hnames]

/-- A way down is put behind the steps up as it is. -/
theorem upAndDown_intercalate (ups : Nat) {down : List Text}
    (hdown : ∀ name ∈ down, name ≠ []) :
    upAndDown ups (List.intercalate [separator] down) =
      List.intercalate [separator] (List.replicate ups parent ++ down) := by
  by_cases hnil : down = []
  · subst hnil
    simp [upAndDown]
  · have hne := intercalate_ne_nil hnil hdown
    rw [upAndDown, if_neg (by simpa using hne)]
    induction ups with
    | zero => simp
    | succ ups ih =>
      rw [List.replicate_succ, List.cons_append, List.cons_append,
        List.intercalate_cons_of_ne_nil (by simp), List.intercalate_cons_of_ne_nil (by simp [hnil]),
        ih]

/-! ## Relative paths below a root -/

/-- The segments of a root stand before all others. -/
theorem exists_splitOn_root {root : Text} (hroot : IsRoot root) :
    ∃ segments, ∀ text, (root ++ text).splitOn separator = segments ++ text.splitOn separator := by
  cases hroot with
  | @absolute drive hdrive =>
    refine ⟨drive.splitOn separator, fun text => ?_⟩
    rw [List.append_assoc, List.singleton_append, List.splitOn_append_cons_self]
  | relative => exact ⟨[], fun text => rfl⟩

/-- Below one root, the way goes up from the names of the base and down to the names of the path.
That no names at all are read as one empty name makes no difference. -/
theorem relativeBySegments_append {root : Text} (hroot : IsRoot root) {names baseNames : List Text}
    (hnames : ∀ name ∈ names, IsPlain name) (hbase : ∀ name ∈ baseNames, IsPlain name) :
    relativeBySegments (root ++ List.intercalate [separator] names)
        (root ++ List.intercalate [separator] baseNames) =
      upAndDown (dropCommon names baseNames).2.length
        (List.intercalate [separator] (dropCommon names baseNames).1) := by
  obtain ⟨segments, hsegments⟩ := exists_splitOn_root hroot
  have hfree : ∀ name ∈ names, separator ∉ name :=
    fun name hmem => (hnames name hmem).separator_not_mem
  have hbaseFree : ∀ name ∈ baseNames, separator ∉ name :=
    fun name hmem => (hbase name hmem).separator_not_mem
  rw [relativeBySegments, hsegments, hsegments, dropCommon_append]
  cases names with
  | nil =>
    cases baseNames with
    | nil => simp [dropCommon]
    | cons first others =>
      have hfirst : IsPlain first := hbase first (by simp)
      have hne := intercalate_ne_nil (by simp) fun name hmem => (hbase name hmem).ne_nil
      rw [List.splitOn_intercalate separator hbaseFree (by simp)]
      simp [dropCommon, Ne.symm hfirst.ne_nil, hne]
  | cons name names =>
    have hname : IsPlain name := hnames name (by simp)
    rw [List.splitOn_intercalate separator hfree (by simp)]
    cases baseNames with
    | nil => simp [dropCommon, hname.ne_nil]
    | cons first others =>
      rw [List.splitOn_intercalate separator hbaseFree (by simp)]
      obtain ⟨common, -, hcommon⟩ := exists_append_of_dropCommon (name :: names) (first :: others)
      have hup : ∀ other ∈ (dropCommon (name :: names) (first :: others)).2, other ≠ [] := by
        intro other hmem
        apply (hbase other _).ne_nil
        rw [hcommon]
        exact List.mem_append_right _ hmem
      by_cases hempty : (dropCommon (name :: names) (first :: others)).2 = []
      · simp [hempty]
      · simp [intercalate_ne_nil hempty hup]

theorem isAbsolute_of_not_mem {path : Text} (h : ':' ∉ path) : isAbsolute path = false := by
  unfold isAbsolute
  split
  · simp at h
  · rfl

/-- Two paths below one root have a way between them. -/
theorem mismatchCause?_append {root first second : Text} (hroot : IsRoot root)
    (hfirst : IsTail first) (hsecond : IsTail second) :
    mismatchCause? (root ++ first) (root ++ second) = none := by
  have hfree (h : ':' ∉ root) : mismatchCause? (root ++ first) (root ++ second) = none := by
    have h₁ : ':' ∉ root ++ first := by simp [h, hfirst.no_colon]
    have h₂ : ':' ∉ root ++ second := by simp [h, hsecond.no_colon]
    simp [mismatchCause?, isAbsolute_of_not_mem h₁, isAbsolute_of_not_mem h₂]
  cases hroot with
  | absolute hdrive =>
    cases hdrive with
    | letter hletter => simp [mismatchCause?, isAbsolute]
    | share hserver hlong hshare =>
      exact hfree (by simp [hserver.no_colon, hshare.no_colon, separator])
    | none => exact hfree (by simp [separator])
  | relative => exact hfree List.not_mem_nil

/-- **Resolving below a root.** Taken relative to a base, some steps up and then names lead to the
names that are left of the base and then these. -/
theorem normalize_join_up_down {root : Text} (hroot : IsRoot root) {common up down : List Text}
    (hcommon : ∀ name ∈ common, IsPlain name) (hup : ∀ name ∈ up, IsPlain name)
    (hdown : ∀ name ∈ down, IsPlain name) (hne : root = [] → common ++ down ≠ []) :
    normalize (join (root ++ List.intercalate [separator] (common ++ up))
        (upAndDown up.length (List.intercalate [separator] down))) =
      root ++ List.intercalate [separator] (common ++ down) := by
  have hbase : ∀ name ∈ common ++ up, IsPlain name := by
    intro name hmem
    rcases List.mem_append.mp hmem with hmem | hmem
    · exact hcommon name hmem
    · exact hup name hmem
  have htail := isTail_intercalate (ne_nil_and_isTail_up up.length (ne_nil_and_isTail hdown))
  have hreduce (rooted : Bool) :
      reduce rooted ((List.intercalate [separator] (common ++ up ++
        [List.intercalate [separator] (List.replicate up.length parent ++ down)])).splitOn
          separator) = common ++ down := by
    rw [splitOn_intercalate_append fun name hmem => (hbase name hmem).separator_not_mem,
      reduce_append_splitOn rooted _ (separator_not_mem_up up.length hdown),
      reduce_up_down rooted hcommon hup hdown]
  have hne' : ∀ name ∈ down, name ≠ [] := fun name hmem => (hdown name hmem).ne_nil
  rw [upAndDown_intercalate _ hne', join_append hroot hbase htail,
    normalize_append hroot (isTail_intercalate_append (ne_nil_and_isTail hbase) htail),
    hreduce, hreduce, if_neg (fun h => hne h.1 h.2)]

/-- **The way between two paths below one root** goes up once for each name that is left of the base
and down the names that are left of the path, and taken from the base it leads to the path. -/
theorem exists_way {root : Text} (hroot : IsRoot root) {names baseNames : List Text}
    (hnames : ∀ name ∈ names, IsPlain name) (hbase : ∀ name ∈ baseNames, IsPlain name)
    (hne : root = [] → names ≠ []) :
    let path := root ++ List.intercalate [separator] names
    let base := root ++ List.intercalate [separator] baseNames
    ∃ common up down, names = common ++ down ∧ baseNames = common ++ up ∧
      let way := List.intercalate [separator] (List.replicate up.length parent ++ down)
      relative path base = .ok way ∧ normalize (join base way) = path := by
  intro path base
  obtain ⟨common, hpathNames, hbaseNames⟩ := exists_append_of_dropCommon names baseNames
  have hrelative := relativeBySegments_append hroot hnames hbase
  generalize (dropCommon names baseNames).1 = down at *
  generalize (dropCommon names baseNames).2 = up at *
  have hcommon : ∀ name ∈ common, IsPlain name :=
    fun name hmem => hnames name (hpathNames ▸ List.mem_append_left _ hmem)
  have hdown : ∀ name ∈ down, IsPlain name :=
    fun name hmem => hnames name (hpathNames ▸ List.mem_append_right _ hmem)
  have hup : ∀ name ∈ up, IsPlain name :=
    fun name hmem => hbase name (hbaseNames ▸ List.mem_append_right _ hmem)
  have hcause : mismatchCause? path base = none :=
    mismatchCause?_append hroot (isTail_intercalate (ne_nil_and_isTail hnames))
      (isTail_intercalate (ne_nil_and_isTail hbase))
  have hway := upAndDown_intercalate up.length fun name hmem => (hdown name hmem).ne_nil
  have hresolve := normalize_join_up_down hroot hcommon hup hdown fun h => hpathNames ▸ hne h
  rw [hway, ← hpathNames, ← hbaseNames] at hresolve
  refine ⟨common, up, down, hpathNames, hbaseNames, ?_, hresolve⟩
  rw [relative_of_mismatchCause?_eq_none hcause]
  exact congrArg Except.ok (hrelative.trans hway)

/-- **The relative path leads back.** For two paths below one root there is a way from one to the
other, and taken relative to the base it is the path again. The path is not empty, since the normal
form of the empty path is `.`. -/
theorem normalize_join_relative {root : Text} (hroot : IsRoot root) {names baseNames : List Text}
    (hnames : ∀ name ∈ names, IsPlain name) (hbase : ∀ name ∈ baseNames, IsPlain name)
    (hne : root = [] → names ≠ []) :
    let path := root ++ List.intercalate [separator] names
    let base := root ++ List.intercalate [separator] baseNames
    ∃ way, relative path base = .ok way ∧ normalize (join base way) = path := by
  intro path base
  obtain ⟨common, up, down, -, -, hway, hback⟩ := exists_way hroot hnames hbase hne
  exact ⟨_, hway, hback⟩

/-- Below a share, where the last names that are compared begin alike. -/
theorem normalize_join_relative_share :
    let root := "\\\\srv\\data\\".toList
    let names := ["foo".toList, "barbaz".toList]
    let baseNames := ["foo".toList, "bar".toList, "x".toList]
    let path := root ++ List.intercalate [separator] names
    let base := root ++ List.intercalate [separator] baseNames
    IsRoot root ∧ (∀ name ∈ names, IsPlain name) ∧ (∀ name ∈ baseNames, IsPlain name) ∧
      (root = [] → names ≠ []) ∧
      ∃ way, relative path base = .ok way ∧ normalize (join base way) = path := by
  intro root names baseNames path base
  have hdrive : IsDrive ([separator, separator] ++ "srv".toList ++ separator :: "data".toList) :=
    .share (by decide) (by decide) (by decide)
  have hroot : IsRoot root := .absolute hdrive
  have hnames : ∀ name ∈ names, IsPlain name := by decide
  have hbase : ∀ name ∈ baseNames, IsPlain name := by decide
  have hne : root = [] → names ≠ [] := by decide
  exact ⟨hroot, hnames, hbase, hne, normalize_join_relative hroot hnames hbase hne⟩

end LaunchKit.Path
