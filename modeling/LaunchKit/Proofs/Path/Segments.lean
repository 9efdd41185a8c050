import LaunchKit.Path.Relative

/-!
# Relative paths in segments

A path is a sequence of segments between separators, empty ones included. The walk over characters
never forms these segments: it keeps what is left behind the last separator passed, and looks once
more at a separator where one text ends. Here the walk is shown to leave the same rests as taking
away the longest common beginning of the two sequences of segments, for all texts: doubled, leading
and closing separators give empty segments, which are compared like all others.

## Main definitions

* `Path.IsLongestCommon`: the longest common beginning of two sequences of segments.

## Main statements

* `Path.exists_isLongestCommon_dropCommon`: what is left behind the longest common beginning.
* `Path.diverge_eq_map_dropCommon`: the walk over characters leaves the joined rests.
* `Path.relative_of_mismatchCause?_eq_none`: the way in characters is the way in segments.
-/
namespace LaunchKit.Path

/-! ## Segments -/

/-- The first segment of a text is what stands before its first separator. -/
theorem exists_splitOn_eq_cons (text : Text) :
    ∃ others, text.splitOn separator = text.takeWhile (· ≠ separator) :: others := by
  induction text with
  | nil => exact ⟨[], by simp⟩
  | cons c text ih =>
    obtain ⟨others, hothers⟩ := ih
    rw [List.splitOn_cons_eq_if_modifyHead]
    by_cases hc : c = separator
    · exact ⟨text.splitOn separator, by simp [hc]⟩
    · exact ⟨others, by simp [hc, hothers]⟩

/-- No segment holds a separator. -/
theorem separator_not_mem_of_mem_splitOn {text segment : Text}
    (h : segment ∈ text.splitOn separator) : separator ∉ segment :=
  Text.not_mem_of_mem_splitOn h

/-- A joined text has one separator less than segments. -/
theorem count_separator_intercalate {segments : List Text} (hne : segments ≠ [])
    (h : ∀ segment ∈ segments, separator ∉ segment) :
    (List.intercalate [separator] segments).count separator + 1 = segments.length := by
  induction segments with
  | nil => exact absurd rfl hne
  | cons first others ih =>
    have hfirst : first.count separator = 0 := List.count_eq_zero.mpr (h first (by simp))
    cases others with
    | nil => simp [hfirst]
    | cons next others =>
      have hothers := ih (by simp) fun segment hmem => h segment (List.mem_cons_of_mem _ hmem)
      rw [List.intercalate_cons_cons, List.count_append, List.count_append, hfirst]
      simp only [List.count_singleton_self, List.length_cons] at hothers ⊢
      omega

/-- One more segment stands behind a separator. -/
theorem intercalate_append_singleton {names : List Text} (hne : names ≠ []) (last : Text) :
    List.intercalate [separator] (names ++ [last]) =
      List.intercalate [separator] names ++ separator :: last := by
  induction names with
  | nil => exact absurd rfl hne
  | cons name names ih =>
    cases names with
    | nil => simp
    | cons next names =>
      have hnext := ih (by simp)
      rw [List.cons_append] at hnext
      simp [hnext]

/-- Segments that are joined are read again as they are, and the text behind them in segments of
its own. -/
theorem splitOn_intercalate_append {names : List Text}
    (h : ∀ name ∈ names, separator ∉ name) (last : Text) :
    (List.intercalate [separator] (names ++ [last])).splitOn separator =
      names ++ last.splitOn separator := by
  induction names with
  | nil => simp
  | cons name names ih =>
    have hname : separator ∉ name := h name (by simp)
    rw [List.cons_append, List.intercalate_cons_of_ne_nil (by simp), List.append_assoc,
      List.singleton_append, List.splitOn_append_cons_self_of_not_mem hname,
      ih fun other hmem => h other (List.mem_cons_of_mem _ hmem), List.cons_append]

/-! ## The longest common beginning -/

/-- `common` is a common beginning of two sequences, and none is longer. -/
structure IsLongestCommon (common first second : List Text) : Prop where
  left : common <+: first
  right : common <+: second
  longest : ∀ other, other <+: first → other <+: second → other.length ≤ common.length

/-- What is left behind the longest common beginning. -/
theorem exists_isLongestCommon_dropCommon (first second : List Text) :
    ∃ common, IsLongestCommon common first second ∧
      dropCommon first second = (first.drop common.length, second.drop common.length) := by
  induction first generalizing second with
  | nil =>
    refine ⟨[], ⟨by simp, by simp, ?_⟩, by simp [dropCommon]⟩
    intro other hfirst _
    simp [List.prefix_nil.mp hfirst]
  | cons a first ih =>
    cases second with
    | nil =>
      refine ⟨[], ⟨by simp, by simp, ?_⟩, by simp [dropCommon]⟩
      intro other _ hsecond
      simp [List.prefix_nil.mp hsecond]
    | cons b second =>
      by_cases hab : a = b
      · subst hab
        obtain ⟨common, hcommon, hdrop⟩ := ih second
        refine ⟨a :: common, ⟨?_, ?_, ?_⟩, by simp [dropCommon, hdrop]⟩
        · exact List.cons_prefix_cons.mpr ⟨rfl, hcommon.left⟩
        · exact List.cons_prefix_cons.mpr ⟨rfl, hcommon.right⟩
        · intro other hfirst hsecond
          cases other with
          | nil => simp
          | cons c other =>
            have hle := hcommon.longest other (List.cons_prefix_cons.mp hfirst).2
              (List.cons_prefix_cons.mp hsecond).2
            simpa using hle
      · refine ⟨[], ⟨by simp, by simp, ?_⟩, by simp [dropCommon, hab]⟩
        intro other hfirst hsecond
        cases other with
        | nil => simp
        | cons c other =>
          have ha := (List.cons_prefix_cons.mp hfirst).1
          have hb := (List.cons_prefix_cons.mp hsecond).1
          exact absurd (ha.symm.trans hb) hab

/-- A common front is common. -/
theorem dropCommon_append (front first second : List Text) :
    dropCommon (front ++ first) (front ++ second) = dropCommon first second := by
  induction front with
  | nil => rfl
  | cons name front ih => simp [dropCommon, ih]

/-- Both sequences are a common beginning and what is left. -/
theorem exists_append_of_dropCommon (first second : List Text) :
    ∃ common, first = common ++ (dropCommon first second).1 ∧
      second = common ++ (dropCommon first second).2 := by
  obtain ⟨common, hcommon, hdrop⟩ := exists_isLongestCommon_dropCommon first second
  obtain ⟨down, rfl⟩ := hcommon.left
  obtain ⟨up, rfl⟩ := hcommon.right
  exact ⟨common, by simp [hdrop], by simp [hdrop]⟩

/-! ## The walk over characters -/

theorem takeWhile_append_of_not_mem {past : Text} (hpast : separator ∉ past) (text : Text) :
    (past ++ text).takeWhile (· ≠ separator) = past ++ text.takeWhile (· ≠ separator) := by
  apply List.takeWhile_append_of_pos
  intro c hc
  simp only [ne_eq, decide_eq_true_eq]
  intro heq
  exact hpast (heq ▸ hc)

/-- Where the first segments differ, nothing is common. -/
theorem dropCommon_of_first_ne {past path base : Text} (hpast : separator ∉ past)
    (h : path.takeWhile (· ≠ separator) ≠ base.takeWhile (· ≠ separator)) :
    dropCommon ((past ++ path).splitOn separator) ((past ++ base).splitOn separator) =
      ((past ++ path).splitOn separator, (past ++ base).splitOn separator) := by
  obtain ⟨others, hpath⟩ := exists_splitOn_eq_cons (past ++ path)
  obtain ⟨others', hbase⟩ := exists_splitOn_eq_cons (past ++ base)
  have hne : (past ++ path).takeWhile (· ≠ separator) ≠
      (past ++ base).takeWhile (· ≠ separator) := by
    rw [takeWhile_append_of_not_mem hpast, takeWhile_append_of_not_mem hpast]
    intro heq
    exact h (List.append_cancel_left heq)
  rw [hpath, hbase, dropCommon, if_neg hne]

/-- **The walk.** `past` is the part of a segment in which both texts agree so far. What the walk
over characters leaves of two different texts are the joined rests of their segments. -/
theorem diverge_eq_map_dropCommon {past path base : Text} (hpast : separator ∉ past)
    (hne : path ≠ base) :
    diverge (past ++ path) (past ++ base) path base =
      Prod.map (List.intercalate [separator]) (List.intercalate [separator])
        (dropCommon ((past ++ path).splitOn separator) ((past ++ base).splitOn separator)) := by
  induction path generalizing past base with
  | nil =>
    cases base with
    | nil => exact absurd rfl hne
    | cons d base =>
      rw [diverge]
      by_cases hd : d = separator
      · rw [if_pos hd, hd, List.append_nil, List.splitOn_append_cons_self_of_not_mem hpast,
          List.splitOn_eq_singleton hpast, dropCommon, if_pos rfl]
        simp [dropCommon]
      · rw [if_neg hd, dropCommon_of_first_ne hpast (by simp [hd])]
        simp
  | cons c path ih =>
    cases base with
    | nil =>
      rw [diverge]
      by_cases hc : c = separator
      · rw [if_pos hc, hc, List.append_nil, List.splitOn_append_cons_self_of_not_mem hpast,
          List.splitOn_eq_singleton hpast, dropCommon, if_pos rfl]
        simp [dropCommon]
      · rw [if_neg hc, dropCommon_of_first_ne hpast (by simp [hc])]
        simp
    | cons d base =>
      rw [diverge]
      by_cases hcd : c = d
      · have htail : path ≠ base := by
          intro heq
          exact hne (by rw [hcd, heq])
        subst hcd
        rw [if_pos rfl]
        by_cases hc : c = separator
        · rw [if_pos hc, hc, List.splitOn_append_cons_self_of_not_mem hpast,
            List.splitOn_append_cons_self_of_not_mem hpast, dropCommon, if_pos rfl]
          exact ih List.not_mem_nil htail
        · have hlonger : separator ∉ past ++ [c] := by simp [hpast, Ne.symm hc]
          have hih := ih hlonger htail
          rw [List.append_assoc, List.append_assoc] at hih
          rw [if_neg hc]
          exact hih
      · have hfirst : (c :: path).takeWhile (· ≠ separator) ≠
            (d :: base).takeWhile (· ≠ separator) := by
          by_cases hc : c = separator
          · have hd : d ≠ separator := fun hd => hcd (hc.trans hd.symm)
            simp [hc, hd]
          · by_cases hd : d = separator
            · simp [hc, hd]
            · simp [hc, hd, hcd]
        rw [if_neg hcd, dropCommon_of_first_ne hpast hfirst]
        simp

/-- Nothing is left of two equal sequences. -/
theorem dropCommon_self (names : List Text) : dropCommon names names = ([], []) := by
  induction names with
  | nil => rfl
  | cons name names ih => simp [dropCommon, ih]

/-- Steps up, counted over the characters of what is left, are the segments that are left. -/
theorem nameCount_intercalate {segments : List Text}
    (h : ∀ segment ∈ segments, separator ∉ segment) :
    nameCount (List.intercalate [separator] segments) =
      if List.intercalate [separator] segments = [] then 0 else segments.length := by
  rw [nameCount]
  by_cases hempty : List.intercalate [separator] segments = []
  · simp [hempty]
  · have hne : segments ≠ [] := by
      intro heq
      simp [heq] at hempty
    rw [if_neg (by simpa using hempty), if_neg hempty, count_separator_intercalate hne h]

/-- **The way in characters is the way in segments.** -/
theorem relative_of_mismatchCause?_eq_none {path base : Text}
    (h : mismatchCause? path base = none) :
    relative path base = .ok (relativeBySegments path base) := by
  rw [relative, h]
  by_cases heq : path = base
  · subst heq
    simp [relativeBySegments, dropCommon_self, upAndDown]
  · -- The walk begins with nothing passed.
    have hwalk := diverge_eq_map_dropCommon List.not_mem_nil heq
    rw [List.nil_append, List.nil_append] at hwalk
    obtain ⟨common, -, hdrop⟩ :=
      exists_isLongestCommon_dropCommon (path.splitOn separator) (base.splitOn separator)
    have hup : ∀ segment ∈ (base.splitOn separator).drop common.length, separator ∉ segment :=
      fun segment hmem => separator_not_mem_of_mem_splitOn (List.mem_of_mem_drop hmem)
    simp only [if_neg heq, relativeBySegments, hwalk, hdrop, Prod.map_apply]
    rw [nameCount_intercalate hup]

end LaunchKit.Path
