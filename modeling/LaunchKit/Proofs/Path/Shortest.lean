import LaunchKit.Proofs.Path.Joined
import LaunchKit.Proofs.Path.Resolve

/-!
# Relative paths are shortest

Two directories on one drive lie in a tree, and the way between them goes up to the last directory
they have in common and down again: as many segments as names are left of the two. No other way has
less. One segment changes the directory one is in by one name at most, and so the distance to any
other directory by one at most. Steps up at the root change nothing, and neither do `.` and empty
segments, so detours of any kind are covered.

## Main definitions

* `Path.distance`: how many names are left of two sequences behind their common beginning.
* `Path.stepCount`: how many segments of a way are not empty.

## Main statements

* `Path.distance_push`: one segment changes the distance by one at most.
* `Path.distance_le_of_reduce`: no names lead to another directory in fewer segments.
* `Path.relative_shortest`: no way is shorter than the relative path.
-/
namespace LaunchKit.Path

/-- How many names are left of two sequences behind their longest common beginning. -/
def distance (first second : List Text) : Nat :=
  (dropCommon first second).1.length + (dropCommon first second).2.length

/-- How many segments of a way are not empty. -/
def stepCount (way : Text) : Nat := (way.splitOn separator).countP (· ≠ [])

/-! ## One segment -/

@[simp] theorem distance_self (names : List Text) : distance names names = 0 := by
  simp [distance, dropCommon_self]

/-- One name more brings two sequences nearer or farther by one. -/
theorem distance_append_singleton (target names : List Text) (name : Text) :
    distance target names ≤ distance target (names ++ [name]) + 1 ∧
      distance target (names ++ [name]) ≤ distance target names + 1 := by
  induction target generalizing names with
  | nil =>
    simp [distance, dropCommon]
    omega
  | cons first target ih =>
    cases names with
    | nil =>
      by_cases hfirst : first = name
      · cases target <;> simp [distance, dropCommon, hfirst]
      · simp [distance, dropCommon, hfirst]
    | cons other names =>
      by_cases hfirst : first = other
      · simpa [distance, dropCommon, hfirst] using ih names
      · simp [distance, dropCommon, hfirst]
        omega

/-- What one segment can do to the names one is at: nothing, one name more or one name less. -/
theorem push_cases (rooted : Bool) (stack : List Text) (name : Text) :
    push rooted stack name = stack ∨ (∃ other, push rooted stack name = other :: stack) ∨
      ∃ last, stack = last :: push rooted stack name := by
  rw [push.eq_def]
  split
  · exact Or.inl rfl
  · split
    · cases stack with
      | nil =>
        cases rooted with
        | true => exact Or.inl rfl
        | false => exact Or.inr (Or.inl ⟨parent, rfl⟩)
      | cons last others =>
        dsimp only
        split
        · exact Or.inr (Or.inl ⟨parent, rfl⟩)
        · exact Or.inr (Or.inr ⟨last, rfl⟩)
    · exact Or.inr (Or.inl ⟨name, rfl⟩)

/-- **One segment** brings one nearer to a directory by one name at most, and an empty one does
not. -/
theorem distance_push (target : List Text) (rooted : Bool) (stack : List Text) (name : Text) :
    distance target stack.reverse ≤
      distance target (push rooted stack name).reverse + if name ≠ [] then 1 else 0 := by
  by_cases hname : name = []
  · simp [hname]
  · rw [if_pos hname]
    rcases push_cases rooted stack name with hsame | ⟨other, hmore⟩ | ⟨last, hless⟩
    · rw [hsame]
      omega
    · rw [hmore, List.reverse_cons]
      exact (distance_append_singleton target stack.reverse other).1
    · rw [hless, List.reverse_cons, ← hless]
      exact (distance_append_singleton target _ last).2

/-! ## A run of segments -/

/-- A run of segments brings one nearer by as many names at most as segments are not empty. -/
theorem distance_foldl_push (target : List Text) (rooted : Bool) (stack names : List Text) :
    distance target stack.reverse ≤
      distance target (names.foldl (push rooted) stack).reverse + names.countP (· ≠ []) := by
  induction names generalizing stack with
  | nil => simp
  | cons name names ih =>
    have hstep := distance_push target rooted stack name
    have hrest := ih (push rooted stack name)
    rw [List.foldl_cons, List.countP_cons]
    simp only [decide_eq_true_eq] at hrest ⊢
    omega

/-- **No names lead to another directory in fewer segments** than the names that are left of
both. -/
theorem distance_le_of_reduce {rooted : Bool} {names baseNames segments : List Text}
    (hbase : ∀ name ∈ baseNames, IsPlain name)
    (h : reduce rooted (baseNames ++ segments) = names) :
    distance names baseNames ≤ segments.countP (· ≠ []) := by
  have hrun := distance_foldl_push names rooted baseNames.reverse segments
  rw [reduce_append, foldl_push_of_isPlain rooted [] hbase, List.append_nil] at h
  rw [h, distance_self, List.reverse_reverse, Nat.zero_add] at hrun
  exact hrun

theorem stepCount_intercalate {names : List Text} (hne : ∀ name ∈ names, name ≠ [])
    (hfree : ∀ name ∈ names, separator ∉ name) :
    stepCount (List.intercalate [separator] names) = names.length := by
  by_cases hnil : names = []
  · subst hnil
    rfl
  · rw [stepCount, List.splitOn_intercalate separator hfree hnil, List.countP_eq_length]
    simpa using hne

/-! ## Ways on a drive -/

theorem splitDrive_of_way {way : Text} (hslash : '/' ∉ way) (hunrooted : way.head? ≠ some separator)
    (hdrive : way[1]? ≠ some ':') : splitDrive way = ([], way) ∧ isRooted way = false := by
  constructor
  · refine (splitDrive_of_not_share hslash fun rest heq => ?_).resolve_right ?_
    · exact hunrooted (by rw [heq]; rfl)
    · rintro ⟨c, rest, rfl⟩
      exact hdrive rfl
  · rwa [Bool.eq_false_iff, ne_eq, isRooted_iff_head? hslash]

/-- A way from one directory on a drive to another one leaves the names of the other. -/
theorem reduce_of_normalize_join {c : Char} (hc : c ≠ '/') {names baseNames : List Text}
    (hnames : ∀ name ∈ names, IsPlain name) (hbase : ∀ name ∈ baseNames, IsPlain name)
    {way : Text} (hslash : '/' ∉ way) (hsplit : splitDrive way = ([], way))
    (hrooted : isRooted way = false)
    (h : normalize (join (c :: ':' :: separator :: List.intercalate [separator] baseNames) way) =
      c :: ':' :: separator :: List.intercalate [separator] names) :
    reduce true (baseNames ++ way.splitOn separator) = names := by
  have hfree : ∀ name ∈ baseNames, separator ∉ name :=
    fun name hmem => (hbase name hmem).separator_not_mem
  have hfront : '/' ∉ c :: ':' :: separator :: List.intercalate [separator] baseNames := by
    have htail := isTail_intercalate (ne_nil_and_isTail hbase)
    simp [Ne.symm hc, htail.no_slash, separator]
  rw [normalize_join_below_root hfront hslash hsplit hrooted,
    reduce_splitOn_intercalate_append true hfree] at h
  refine intercalate_inj (fun name hmem => ⟨?_, ?_⟩)
    (fun name hmem => ⟨(hnames name hmem).ne_nil, (hnames name hmem).separator_not_mem⟩)
    (by simpa using h)
  · exact (isReduced_reduce true _).ne_nil name hmem
  · rcases List.mem_append.mp (mem_of_mem_reduce hmem) with hmem | hmem
    · exact hfree name hmem
    · exact separator_not_mem_of_mem_splitOn hmem

/-- **Relative paths are shortest.** For two paths of plain names below the root of one drive there
is a way from one to the other. It is a run of steps up with names behind them and leads to the
path, and every other text that leads there, being neither rooted nor on a drive of its own, has as
many segments at least that are not empty. -/
theorem relative_shortest {c : Char} (hletter : Text.isLetter c = true)
    {names baseNames : List Text} (hnames : ∀ name ∈ names, IsPlain name)
    (hbase : ∀ name ∈ baseNames, IsPlain name) :
    let path := c :: ':' :: separator :: List.intercalate [separator] names
    let base := c :: ':' :: separator :: List.intercalate [separator] baseNames
    ∃ ups down, (∀ name ∈ down, IsPlain name) ∧
      let way := List.intercalate [separator] (List.replicate ups parent ++ down)
      relative path base = .ok way ∧ normalize (join base way) = path ∧
        ∀ other : Text, '/' ∉ other → other.head? ≠ some separator → other[1]? ≠ some ':' →
          normalize (join base other) = path → stepCount way ≤ stepCount other := by
  intro path base
  have hroot : IsRoot [c, ':', separator] := .absolute (.letter hletter)
  obtain ⟨common, hpathNames, hbaseNames⟩ := exists_append_of_dropCommon names baseNames
  generalize hdown : (dropCommon names baseNames).1 = down at hpathNames
  generalize hup : (dropCommon names baseNames).2 = up at hbaseNames
  have hdownPlain : ∀ name ∈ down, IsPlain name :=
    fun name hmem => hnames name (hpathNames ▸ List.mem_append_right _ hmem)
  have hupPlain : ∀ name ∈ up, IsPlain name :=
    fun name hmem => hbase name (hbaseNames ▸ List.mem_append_right _ hmem)
  have hcommonPlain : ∀ name ∈ common, IsPlain name :=
    fun name hmem => hnames name (hpathNames ▸ List.mem_append_left _ hmem)
  have hdownNe : ∀ name ∈ down, name ≠ [] := fun name hmem => (hdownPlain name hmem).ne_nil
  refine ⟨up.length, down, hdownPlain, ?_⟩
  intro way
  refine ⟨?_, ?_, fun other hslash hunrooted hdrive hother => ?_⟩
  · have hcause : mismatchCause? path base = none :=
      mismatchCause?_append hroot (isTail_intercalate (ne_nil_and_isTail hnames))
        (isTail_intercalate (ne_nil_and_isTail hbase))
    have hsegments := relativeBySegments_append hroot hnames hbase
    rw [hup, hdown, upAndDown_intercalate _ hdownNe] at hsegments
    rw [relative_of_mismatchCause?_eq_none hcause]
    exact congrArg Except.ok hsegments
  · have hresolve := normalize_join_up_down hroot hcommonPlain hupPlain hdownPlain (by simp)
    rw [upAndDown_intercalate _ hdownNe, ← hpathNames, ← hbaseNames] at hresolve
    exact hresolve
  · obtain ⟨hsplit, hrooted⟩ := splitDrive_of_way hslash hunrooted hdrive
    have hc : c ≠ '/' := by
      rintro rfl
      exact absurd hletter (by decide)
    have hreduce := reduce_of_normalize_join hc hnames hbase hslash hsplit hrooted hother
    have hway : stepCount way = distance names baseNames := by
      have hne := fun name hmem =>
        (ne_nil_and_isTail_up up.length (ne_nil_and_isTail hdownPlain) name hmem).1
      rw [stepCount_intercalate hne (separator_not_mem_up up.length hdownPlain), distance, hup,
        hdown]
      simp [Nat.add_comm]
    rw [hway]
    exact distance_le_of_reduce hbase hreduce

/-- From below a directory to another one that begins alike. -/
theorem relative_shortest_siblings :
    let names := ["foo".toList, "barbaz".toList]
    let baseNames := ["foo".toList, "bar".toList, "x".toList]
    let path := 'C' :: ':' :: separator :: List.intercalate [separator] names
    let base := 'C' :: ':' :: separator :: List.intercalate [separator] baseNames
    Text.isLetter 'C' = true ∧ (∀ name ∈ names, IsPlain name) ∧
      (∀ name ∈ baseNames, IsPlain name) ∧
      ∃ ups down, (∀ name ∈ down, IsPlain name) ∧
        let way := List.intercalate [separator] (List.replicate ups parent ++ down)
        relative path base = .ok way ∧ normalize (join base way) = path ∧
          ∀ other : Text, '/' ∉ other → other.head? ≠ some separator → other[1]? ≠ some ':' →
            normalize (join base other) = path → stepCount way ≤ stepCount other := by
  intro names baseNames path base
  have hletter : Text.isLetter 'C' = true := by decide
  have hnames : ∀ name ∈ names, IsPlain name := by decide
  have hbase : ∀ name ∈ baseNames, IsPlain name := by decide
  exact ⟨hletter, hnames, hbase, relative_shortest hletter hnames hbase⟩

end LaunchKit.Path
