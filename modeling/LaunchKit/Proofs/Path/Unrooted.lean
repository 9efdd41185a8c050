import LaunchKit.Proofs.Path.Form
import LaunchKit.Proofs.Path.Joined
import LaunchKit.Proofs.Path.Resolve
import Mathlib.Algebra.BigOperators.Group.List.Basic
import Mathlib.Tactic.Linarith

/-!
# Relative paths between paths without a root

A path without drive and root may begin with steps up, or be `.`, and the way between two such paths
takes these for names like all others. A step up is undone by no step up, and `.` by nothing, so the
way leads back to the path only where neither is left of the base. What tells is how far down names
lead: a name counts one and a step up minus one, which reduction does not change.

## Main definitions

* `Path.IsRelativeForm`: a converted path without drive, root and colon.
* `Path.descent`: how far down names lead.

## Main statements

* `Path.isRelativeForm_iff_convert`: these are the converted paths without root and colon.
* `Path.descent_reduce`: reduced names lead as far down.
* `Path.normalize_join_relative_iff`: which ways lead back.
-/
namespace LaunchKit.Path

/-- A converted path without drive, root and colon: `.`, or steps up and then plain names. -/
inductive IsRelativeForm : Text → Prop
  | here : IsRelativeForm current
  | names (ups : Nat) {names : List Text} (h : ∀ name ∈ names, IsPlain name)
      (hne : List.replicate ups parent ++ names ≠ []) :
      IsRelativeForm (List.intercalate [separator] (List.replicate ups parent ++ names))

/-! ## Segments -/

theorem isTail_current : IsTail current where
  unrooted := by decide
  no_slash := by decide
  no_colon := by decide

theorem IsRelativeForm.isTail {path : Text} (h : IsRelativeForm path) : IsTail path := by
  cases h with
  | here => exact isTail_current
  | names ups hnames _ =>
    exact isTail_intercalate (ne_nil_and_isTail_up ups (ne_nil_and_isTail hnames))

/-- A segment is `.`, a step up or a plain name. -/
theorem IsRelativeForm.segment {path name : Text} (h : IsRelativeForm path)
    (hmem : name ∈ path.splitOn separator) : name = current ∨ name = parent ∨ IsPlain name := by
  cases h with
  | here => exact Or.inl (List.mem_singleton.mp hmem)
  | names ups hnames hne =>
    rw [List.splitOn_intercalate separator (separator_not_mem_up ups hnames) hne] at hmem
    rcases List.mem_append.mp hmem with hmem | hmem
    · exact Or.inr (Or.inl (List.eq_of_mem_replicate hmem))
    · exact Or.inr (Or.inr (hnames name hmem))

theorem IsRelativeForm.segment_ne_nil {path name : Text} (h : IsRelativeForm path)
    (hmem : name ∈ path.splitOn separator) : name ≠ [] := by
  rcases h.segment hmem with rfl | rfl | hplain
  · decide
  · decide
  · exact hplain.ne_nil

theorem IsRelativeForm.segment_isTail {path name : Text} (h : IsRelativeForm path)
    (hmem : name ∈ path.splitOn separator) : IsTail name := by
  rcases h.segment hmem with rfl | rfl | hplain
  · exact isTail_current
  · exact isTail_parent
  · exact hplain.isTail

/-! ## Converted paths -/

theorem IsRelativeForm.of_isReduced {path : Text} (hslash : '/' ∉ path) (hcolon : ':' ∉ path)
    (h : IsReduced false (path.splitOn separator)) : IsRelativeForm path := by
  obtain ⟨ups, names, heq, hnames⟩ := isReduced_unrooted_iff.mp h
  have hne := List.splitOn_ne_nil separator path
  have hjoin : List.intercalate [separator] (path.splitOn separator) = path :=
    List.intercalate_splitOn separator
  rw [heq] at hne hjoin
  rw [← hjoin]
  refine .names ups (fun name hmem => ?_) hne
  have hsplit : name ∈ path.splitOn separator := heq ▸ List.mem_append_right _ hmem
  exact isPlain_of_isSegment (isSegment_of_mem_splitOn hslash hsplit)
    (fun hc => hcolon (mem_of_mem_splitOn hsplit hc)) (isReduced_rooted_iff.mp hnames name hmem)

/-- Such a path is its own normal form. -/
theorem IsRelativeForm.normalize_eq {path : Text} (h : IsRelativeForm path) :
    normalize path = path := by
  have htail := h.isTail
  refine (normalize_eq_self_iff_of_relative htail.no_slash ?_ htail.unrooted).mpr ?_
  · rw [splitDrive_of_isTail htail]
  · cases h with
    | here => exact Or.inl rfl
    | names ups hnames hne =>
      rw [List.splitOn_intercalate separator (separator_not_mem_up ups hnames) hne]
      refine Or.inr (isReduced_unrooted_iff.mpr ⟨ups, _, rfl, isReduced_rooted_iff.mpr ?_⟩)
      exact fun name hmem =>
        ⟨(hnames name hmem).ne_nil, (hnames name hmem).ne_current, (hnames name hmem).ne_parent⟩

theorem IsRelativeForm.ne_nil {path : Text} (h : IsRelativeForm path) : path ≠ [] := by
  rintro rfl
  exact h.segment_ne_nil List.mem_cons_self rfl

/-- Conversion leaves such a path as it is. -/
theorem IsRelativeForm.windowsForm_eq {path : Text} (h : IsRelativeForm path) :
    windowsForm path = path := by
  have htail := h.isTail
  have hrooted := isRooted_of_isTail htail
  refine (windowsForm_eq_self_iff h.ne_nil htail.no_slash
    (not_isLineEndedDrive_of_unrooted hrooted)).mpr
      ⟨not_isShellDrive_of_unrooted hrooted, ?_, h.normalize_eq⟩
  rintro c - rfl
  exact htail.no_colon (by simp)

/-- **Which paths these are**: what conversion gives without a root and without a colon. -/
theorem isRelativeForm_iff_convert {path : Text} (hnull : '\x00' ∉ path) :
    IsRelativeForm path ↔ path ≠ [] ∧ isRooted path = false ∧ ':' ∉ path ∧
      ∃ source, convert source = .ok path := by
  constructor
  · intro h
    exact ⟨h.ne_nil, isRooted_of_isTail h.isTail, h.isTail.no_colon, path,
      convert_eq_ok_iff.mpr ⟨hnull, h.windowsForm_eq⟩⟩
  · rintro ⟨hne, hrooted, hcolon, source, hsource⟩
    obtain ⟨-, rfl⟩ := convert_eq_ok_iff.mp hsource
    have hslash := slash_not_mem_windowsForm source
    have hsource : source ≠ [] := by
      rintro rfl
      exact hne rfl
    have hform := isNormalForm_windowsForm hsource
    generalize windowsForm source = path at *
    cases hform with
    | current => exact .here
    | relative hreduced => exact .of_isReduced hslash hcolon hreduced
    | share => simp [isRooted, isSeparator] at hrooted
    | root => simp [isRooted, isSeparator] at hrooted
    | driveRoot => simp at hcolon
    | drive => simp at hcolon

/-! ## How far down names lead -/

/-- A name leads one down, a step up one up. -/
def stride (name : Text) : Int :=
  if name = [] ∨ name = current then 0 else if name = parent then -1 else 1

/-- How far down names lead. -/
def descent (names : List Text) : Int := (names.map stride).sum

@[simp] theorem stride_parent : stride parent = -1 := rfl

@[simp] theorem descent_nil : descent [] = 0 := rfl

@[simp] theorem descent_cons (name : Text) (names : List Text) :
    descent (name :: names) = stride name + descent names := by
  simp [descent]

@[simp] theorem descent_append (front names : List Text) :
    descent (front ++ names) = descent front + descent names := by
  simp [descent]

@[simp] theorem descent_reverse (names : List Text) : descent names.reverse = descent names := by
  simp [descent, List.sum_reverse]

@[simp] theorem descent_parents (ups : Nat) : descent (List.replicate ups parent) = -ups := by
  simp [descent]

theorem stride_of_plain {name : Text} (hnil : name ≠ []) (hcurrent : name ≠ current)
    (hparent : name ≠ parent) : stride name = 1 := by
  simp [stride, hnil, hcurrent, hparent]

theorem stride_le (name : Text) : stride name ≤ 1 := by
  rw [stride]
  split
  · decide
  · split <;> decide

theorem descent_le (names : List Text) : descent names ≤ names.length := by
  induction names with
  | nil => simp
  | cons name names ih =>
    have hname := stride_le name
    rw [descent_cons, List.length_cons]
    push_cast
    linarith

/-- Names lead down as far as can be if no step up is among them, and no `.`. -/
theorem ne_of_descent_eq_length {names : List Text} (h : descent names = names.length) :
    ∀ name ∈ names, name ≠ current ∧ name ≠ parent := by
  induction names with
  | nil => simp
  | cons first names ih =>
    have hfirst := stride_le first
    have hnames := descent_le names
    rw [descent_cons, List.length_cons] at h
    push_cast at h
    have hstride : stride first = 1 := by linarith
    have hrest := ih (by linarith)
    intro name hmem
    rcases List.mem_cons.mp hmem with rfl | hmem
    · constructor
      · rintro rfl
        exact absurd hstride (by decide)
      · rintro rfl
        exact absurd hstride (by decide)
    · exact hrest name hmem

/-- One name more leads as far down as it counts: a step up cancels a name, which counted one. -/
theorem descent_push {stack : List Text} (h : IsReduced false stack.reverse) (name : Text) :
    descent (push false stack name) = descent stack + stride name := by
  rw [push.eq_def]
  split
  · next hname => simp [stride, hname]
  · next hname =>
    split
    · next hparent =>
      subst hparent
      cases stack with
      | nil => simp
      | cons last others =>
        dsimp only
        split
        · simp [add_comm]
        · next hlast =>
          have hmem : last ∈ (last :: others).reverse := by simp
          rw [descent_cons, stride_of_plain (h.ne_nil last hmem) (h.ne_current last hmem) hlast,
            stride_parent]
          linarith
    · next hparent =>
      rw [not_or] at hname
      rw [descent_cons, stride_of_plain hname.1 hname.2 hparent, add_comm]

/-- **Reduced names lead as far down.** -/
theorem descent_reduce (names : List Text) : descent (reduce false names) = descent names := by
  have hrun (stack : List Text) (h : IsReduced false stack.reverse) :
      descent (names.foldl (push false) stack) = descent stack + descent names := by
    induction names generalizing stack with
    | nil => simp
    | cons name names ih =>
      rw [List.foldl_cons, ih _ (isReduced_push h name), descent_push h, descent_cons]
      linarith
  rw [reduce, descent_reverse, hrun [] trivial]
  simp

/-! ## Joined paths without a root -/

/-- The text of names without drive and root. -/
def unrootedText (names : List Text) : Text :=
  if names = [] then current else List.intercalate [separator] names

theorem descent_splitOn_unrootedText {names : List Text} (h : ∀ name ∈ names, separator ∉ name) :
    descent ((unrootedText names).splitOn separator) = descent names := by
  rw [unrootedText]
  split
  · next hnil =>
    rw [hnil]
    rfl
  · next hne => rw [List.splitOn_intercalate separator h hne]

theorem normalize_of_isTail {text : Text} (h : IsTail text) :
    normalize text = unrootedText (reduce false (text.splitOn separator)) := by
  simpa [unrootedText] using normalize_append .relative h

theorem isTail_append_path {front path : Text} (hfront : IsTail front) (hpath : IsTail path) :
    IsTail (append front path) where
  unrooted := by
    cases front with
    | nil => exact hpath.unrooted
    | cons c front =>
      obtain ⟨below, hbelow⟩ := exists_append_cons c front path
      rw [hbelow]
      exact hfront.unrooted
  no_slash := not_mem_append_of_ne (by decide) hfront.no_slash hpath.no_slash
  no_colon := not_mem_append_of_ne (by decide) hfront.no_colon hpath.no_colon

/-- Behind other names, the names of such a text are those it was made of: no names at all are
written `.`, which is dropped. -/
theorem reduce_append_unrootedText (rooted : Bool) (front : List Text) {names : List Text}
    (h : ∀ name ∈ names, separator ∉ name) :
    reduce rooted (front ++ (unrootedText names).splitOn separator) =
      reduce rooted (front ++ names) := by
  rw [unrootedText]
  split
  · next hnil =>
    have hcurrent : current.splitOn separator = [current] := rfl
    rw [hnil, hcurrent]
    simp [reduce]
  · next hne => rw [List.splitOn_intercalate separator h hne]

/-- The names that are left make a converted path. -/
theorem isRelativeForm_unrootedText {text : Text} (hslash : '/' ∉ text) (hcolon : ':' ∉ text) :
    IsRelativeForm (unrootedText (reduce false (text.splitOn separator))) := by
  obtain ⟨ups, names, hreduce, hnames⟩ := exists_reduce_eq hslash hcolon
  rw [hreduce, unrootedText]
  split
  · exact .here
  · next hne => exact .names ups hnames hne

/-- A path joined to another one, neither with a root, has the names of both. -/
theorem normalize_join_of_isTail {base way : Text} (hbase : IsTail base) (hway : IsTail way) :
    normalize (join base way) =
      unrootedText (reduce false (base.splitOn separator ++ way.splitOn separator)) := by
  have hjoin : join base way = append base way := by
    rw [join_of_unrooted (splitDrive_of_isTail hbase) (splitDrive_of_isTail hway)
      (isRooted_of_isTail hway)]
    simp [onDrive]
  rw [hjoin, normalize_of_isTail (isTail_append_path hbase hway),
    reduce_splitOn_append false hbase.no_slash]

/-! ## The way between two paths without a root -/

/-- The way goes up once for each segment that is left of the base, whatever segment it is. -/
theorem IsRelativeForm.relativeBySegments_eq {path base : Text} (hbase : IsRelativeForm base) :
    relativeBySegments path base =
      let rests := dropCommon (path.splitOn separator) (base.splitOn separator)
      upAndDown rests.2.length (List.intercalate [separator] rests.1) := by
  obtain ⟨common, -, hdrop⟩ :=
    exists_isLongestCommon_dropCommon (path.splitOn separator) (base.splitOn separator)
  have hup : ∀ name ∈ (base.splitOn separator).drop common.length, name ≠ [] :=
    fun name hmem => hbase.segment_ne_nil (List.mem_of_mem_drop hmem)
  rw [relativeBySegments, hdrop]
  by_cases hnil : (base.splitOn separator).drop common.length = []
  · simp [hnil]
  · simp [intercalate_ne_nil hnil hup]

section Rests

variable {path base : Text} {common up down : List Text}

/-- No separator stands in the segments of the base, of the way and of the path. -/
theorem separator_not_mem_rests (hsplitPath : path.splitOn separator = common ++ down)
    (hsplitBase : base.splitOn separator = common ++ up) :
    ∀ name ∈ common ++ ((up ++ List.replicate up.length parent) ++ down), separator ∉ name := by
  intro name hmem
  have hpath (h : name ∈ common ++ down) : separator ∉ name :=
    separator_not_mem_of_mem_splitOn (hsplitPath ▸ h)
  have hbase (h : name ∈ common ++ up) : separator ∉ name :=
    separator_not_mem_of_mem_splitOn (hsplitBase ▸ h)
  simp only [List.mem_append, List.mem_replicate] at hmem
  rcases hmem with hcommon | (hup | ⟨-, rfl⟩) | hdown
  · exact hpath (List.mem_append_left _ hcommon)
  · exact hbase (List.mem_append_right _ hup)
  · decide
  · exact hpath (List.mem_append_right _ hdown)

/-- The normal form of the way taken from the base. -/
theorem IsRelativeForm.normalize_join_way (hpath : IsRelativeForm path)
    (hbase : IsRelativeForm base) (hsplitPath : path.splitOn separator = common ++ down)
    (hsplitBase : base.splitOn separator = common ++ up) :
    normalize (join base (upAndDown up.length (List.intercalate [separator] down))) =
      unrootedText
        (reduce false (common ++ ((up ++ List.replicate up.length parent) ++ down))) := by
  have hdown (name : Text) (hmem : name ∈ down) : name ≠ [] ∧ IsTail name := by
    have hsplit : name ∈ path.splitOn separator := hsplitPath ▸ List.mem_append_right _ hmem
    exact ⟨hpath.segment_ne_nil hsplit, hpath.segment_isTail hsplit⟩
  have hfree : ∀ name ∈ List.replicate up.length parent ++ down, separator ∉ name := by
    intro name hmem
    refine separator_not_mem_rests hsplitPath hsplitBase name ?_
    rw [List.append_assoc up]
    exact List.mem_append_right _ (List.mem_append_right _ hmem)
  rw [upAndDown_intercalate _ fun name hmem => (hdown name hmem).1,
    normalize_join_of_isTail hbase.isTail (isTail_intercalate (ne_nil_and_isTail_up _ hdown)),
    reduce_append_splitOn false _ hfree, hsplitBase, List.append_assoc, List.append_assoc]

end Rests

/-- **Which ways lead back.** Between two converted paths without root and colon there is a way, and
taken from the base it leads to the path exactly when neither a step up nor `.` is among the
segments that are left of the base behind the longest common beginning. -/
theorem normalize_join_relative_iff {path base : Text} (hpath : IsRelativeForm path)
    (hbase : IsRelativeForm base) :
    ∃ common way, IsLongestCommon common (path.splitOn separator) (base.splitOn separator) ∧
      relative path base = .ok way ∧
      (normalize (join base way) = path ↔
        ∀ name ∈ (base.splitOn separator).drop common.length,
          name ≠ current ∧ name ≠ parent) := by
  obtain ⟨common, hcommon, hdrop⟩ :=
    exists_isLongestCommon_dropCommon (path.splitOn separator) (base.splitOn separator)
  have hcause : mismatchCause? path base = none := by
    simp [mismatchCause?, isAbsolute_of_not_mem hpath.isTail.no_colon,
      isAbsolute_of_not_mem hbase.isTail.no_colon]
  obtain ⟨down, hsplitPath⟩ := hcommon.left
  obtain ⟨up, hsplitBase⟩ := hcommon.right
  have hleft : (base.splitOn separator).drop common.length = up := by
    rw [← hsplitBase, List.drop_left]
  have hway : relativeBySegments path base =
      upAndDown up.length (List.intercalate [separator] down) := by
    rw [hbase.relativeBySegments_eq, hdrop, hleft, ← hsplitPath, List.drop_left]
  refine ⟨common, _, hcommon, relative_of_mismatchCause?_eq_none hcause, ?_⟩
  rw [hway, hpath.normalize_join_way hbase hsplitPath.symm hsplitBase.symm, hleft]
  constructor
  · intro hback
    -- Both sides lead as far down, so what is left of the base leads down once for each segment.
    have hfree (name : Text) (hmem : name ∈
        reduce false (common ++ ((up ++ List.replicate up.length parent) ++ down))) :
        separator ∉ name :=
      separator_not_mem_rests hsplitPath.symm hsplitBase.symm name (mem_of_mem_reduce hmem)
    have hdescent := descent_splitOn_unrootedText hfree
    rw [hback, descent_reduce, ← hsplitPath] at hdescent
    simp only [descent_append, descent_parents] at hdescent
    exact ne_of_descent_eq_length (by linarith)
  · intro hplain
    have hup : ∀ name ∈ up, IsPlain name := by
      intro name hmem
      obtain ⟨hcurrent, hparent⟩ := hplain name hmem
      have hsegment := hbase.segment (hsplitBase ▸ List.mem_append_right _ hmem)
      exact (hsegment.resolve_left hcurrent).resolve_left hparent
    have hreduce : reduce false (common ++ ((up ++ List.replicate up.length parent) ++ down)) =
        reduce false (path.splitOn separator) := by
      rw [← hsplitPath, reduce_append, reduce_append, List.foldl_append,
        foldl_push_up_again false _ hup]
    rw [hreduce, ← normalize_of_isTail hpath.isTail, hpath.normalize_eq]

/-- Below common steps up, with one name in common. -/
theorem normalize_join_relative_iff_siblings :
    let path := "..\\a\\b".toList
    let base := "..\\a\\c\\d".toList
    IsRelativeForm path ∧ IsRelativeForm base ∧
      ∃ common way, IsLongestCommon common (path.splitOn separator) (base.splitOn separator) ∧
        relative path base = .ok way ∧
        (normalize (join base way) = path ↔
          ∀ name ∈ (base.splitOn separator).drop common.length,
            name ≠ current ∧ name ≠ parent) := by
  intro path base
  have hpath : IsRelativeForm path :=
    @IsRelativeForm.names 1 ["a".toList, "b".toList] (by decide) (by decide)
  have hbase : IsRelativeForm base :=
    @IsRelativeForm.names 1 ["a".toList, "c".toList, "d".toList] (by decide) (by decide)
  exact ⟨hpath, hbase, normalize_join_relative_iff hpath hbase⟩

/-- That no step up is left of the base is not enough: a way from `.` begins with a step up that
nothing undoes. -/
theorem exists_join_relative_ne :
    ¬(∀ path base common way, IsRelativeForm path → IsRelativeForm base →
      IsLongestCommon common (path.splitOn separator) (base.splitOn separator) →
      (∀ name ∈ (base.splitOn separator).drop common.length, name ≠ parent) →
      relative path base = .ok way → normalize (join base way) = path) ∧
    relative "a" "." = .ok "..\\a".toList ∧ normalize (join "." "..\\a") = "..\\a".toList := by
  refine ⟨fun h => ?_, rfl, rfl⟩
  have hpath : IsRelativeForm "a" := @IsRelativeForm.names 0 ["a".toList] (by decide) (by decide)
  obtain ⟨common, hcommon, hdrop⟩ :=
    exists_isLongestCommon_dropCommon ("a".toList.splitOn separator) (current.splitOn separator)
  have hrest : (current.splitOn separator).drop common.length = [current] :=
    (congrArg Prod.snd hdrop).symm
  have hnot : ∀ name ∈ (current.splitOn separator).drop common.length, name ≠ parent := by
    rw [hrest]
    decide
  have hback := h "a" current common "..\\a" hpath .here hcommon hnot rfl
  exact absurd hback (by decide)

end LaunchKit.Path
