import LaunchKit.Proofs.Path.Shapes
import LaunchKit.Proofs.Text.Lowered

/-!
# Normal forms in lower case

Lowering keeps separators, colons, `.`, `..` and the opening of the long form, and makes none of
them. So a normal form is taken to one of the same shape. The exception is a drive whose letter is
the dotted capital I: its image has two characters, and what was a drive becomes the beginning of a
name.

## Main definitions

* `Path.IsDottedForm`: the lowered normal forms whose drive had the dotted capital I.

## Main statements

* `Path.isNormalForm_lower_or`: lowered normal forms.
* `Path.normalize_eq_self_iff_of_isDottedForm`: which of the exceptions are their own normal forms.
-/
namespace LaunchKit.Path

open Text (lower lowerAfter lowerPieces)

theorem endsWords_separator : Text.endsWords separator = true := by decide +kernel

/-! ## Names -/

/-- The names of a lowered text are the lowered names. -/
theorem splitOn_lowerAfter (cased : Bool) (text : Text) :
    (lowerAfter cased text).splitOn separator = lowerPieces cased (text.splitOn separator) := by
  have hne := List.splitOn_ne_nil separator text
  have hfree : ∀ name ∈ lowerPieces cased (text.splitOn separator), separator ∉ name := by
    intro name hmem
    obtain ⟨cased', piece, hpiece, rfl⟩ := Text.exists_of_mem_lowerPieces hmem
    rw [Text.mem_lowerAfter_iff rfl]
    exact separator_not_mem_of_mem_splitOn hpiece
  have hjoin := Text.lowerAfter_intercalate endsWords_separator (text.splitOn separator) cased
  rw [List.intercalate_splitOn] at hjoin
  rw [hjoin, List.splitOn_intercalate separator hfree (Text.lowerPieces_ne_nil hne)]

theorem isReduced_lowerAfter_cons {rooted cased : Bool} {name : Text} {names lowered : List Text}
    (h : ∀ rooted, IsReduced rooted lowered ↔ IsReduced rooted names) :
    IsReduced rooted (lowerAfter cased name :: lowered) ↔ IsReduced rooted (name :: names) := by
  have hparent : lowerAfter cased name = parent ↔ name = parent :=
    Text.lowerAfter_eq_iff_of_marks rfl
  have hcurrent : lowerAfter cased name = current ↔ name = current :=
    Text.lowerAfter_eq_iff_of_marks rfl
  by_cases hname : name = parent
  · rw [hparent.mpr hname, hname, isReduced_parent_cons, isReduced_parent_cons, h]
  · have hname' : lowerAfter cased name ≠ parent := fun heq => hname (hparent.mp heq)
    rw [isReduced_cons_of_ne hname, isReduced_cons_of_ne hname', h, ne_eq, ne_eq,
      Text.lowerAfter_eq_nil_iff, hcurrent]

/-- **Lowered names are reduced when the names are.** -/
theorem isReduced_map_lower {rooted : Bool} {names : List Text} :
    IsReduced rooted (names.map lower) ↔ IsReduced rooted names := by
  induction names generalizing rooted with
  | nil => rfl
  | cons name names ih => exact isReduced_lowerAfter_cons fun _ => ih

theorem isReduced_lowerPieces {rooted cased : Bool} {names : List Text} :
    IsReduced rooted (lowerPieces cased names) ↔ IsReduced rooted names := by
  cases names with
  | nil => rfl
  | cons name names => exact isReduced_lowerAfter_cons fun _ => isReduced_map_lower

theorem eq_nil_or_isReduced_lowerAfter {rooted : Bool} {text : Text}
    (h : text = [] ∨ IsReduced rooted (text.splitOn separator)) (cased : Bool) :
    lowerAfter cased text = [] ∨
      IsReduced rooted ((lowerAfter cased text).splitOn separator) := by
  rwa [Text.lowerAfter_eq_nil_iff, splitOn_lowerAfter, isReduced_lowerPieces]

/-! ## Shares -/

theorem lower_joinBehind (names : List Text) :
    lower (joinBehind names) = joinBehind (names.map lower) := by
  cases names with
  | nil => rfl
  | cons name names =>
    have hne : name :: names ≠ [] := by simp
    have hjoin := Text.lowerAfter_intercalate endsWords_separator (name :: names) false
    have hcons := Text.lowerAfter_append endsWords_separator []
      (List.intercalate [separator] (name :: names)) false
    rw [List.nil_append, separator_cons_intercalate hne] at hcons
    rw [lower, hcons, lower, hjoin, Text.lowerPieces_false]
    exact separator_cons_intercalate (by simp)

theorem driveCount_map_lower (names : List Text) :
    driveCount (names.map lower) = driveCount names := by
  match names with
  | [] | [_] | [_, _] => rfl
  | first :: second :: _ :: _ =>
    have hfirst : lower first = ['?'] ↔ first = ['?'] :=
      Text.lowerAfter_eq_iff_of_marks rfl
    have hsecond : (lower second).map Char.toUpper = "UNC".toList ↔
        second.map Char.toUpper = "UNC".toList :=
      Text.map_toUpper_lowerAfter_eq_iff rfl
    simp only [List.map_cons, driveCount, hfirst, hsecond]

theorem isNormalShare_map_lower {names : List Text} (h : IsNormalShare names) :
    IsNormalShare (names.map lower) := by
  rw [IsNormalShare, driveCount_map_lower, ← List.map_drop, List.map_eq_nil_iff,
    isReduced_map_lower]
  refine h.imp_right (Or.imp_left fun hempty => ?_)
  rw [hempty]
  rfl

theorem isSegment_lower {name : Text} (h : IsSegment name) : IsSegment (lower name) := by
  intro c hc
  rw [Bool.eq_false_iff]
  intro hsep
  have hmark : Text.isMark c = true := by
    have hc : c = '\\' ∨ c = '/' := by simpa [isSeparator] using hsep
    rcases hc with rfl | rfl <;> rfl
  rw [h c ((Text.mem_lowerAfter_iff hmark).mp hc)] at hsep
  cases hsep

/-! ## Shapes -/

/-- The lowered normal forms whose drive had the dotted capital I. -/
def IsDottedForm (path : Text) : Prop :=
  ∃ rest, path = 'i' :: '\u0307' :: ':' :: rest ∧
    ((∃ below, rest = separator :: below ∧
      (below = [] ∨ IsReduced true (below.splitOn separator))) ∨
      rest = [] ∨ IsReduced false (rest.splitOn separator))

/-- A lowered drive. -/
theorem exists_lower_colon (c : Char) (rest : Text) :
    ∃ image cased, (c ≠ 'İ' → ∃ d, image = [d]) ∧ (c = 'İ' → image = ['i', '\u0307']) ∧
      lower (c :: ':' :: rest) = image ++ ':' :: lowerAfter cased rest := by
  obtain ⟨image, cased, himage, hcons⟩ := Text.exists_lowerAfter_cons false c (':' :: rest)
  have hcolon : Text.isMark ':' = true := rfl
  rw [Text.lowerAfter_cons_of_mark hcolon] at hcons
  exact ⟨image, _, himage.single, himage.dotted, hcons⟩

theorem lowerAfter_separator_cons (cased : Bool) (rest : Text) :
    lowerAfter cased (separator :: rest) = separator :: lower rest :=
  Text.lowerAfter_append endsWords_separator [] rest cased

/-- **Lowered normal forms** are normal forms, or had the dotted capital I for a drive. -/
theorem isNormalForm_lower_or {path : Text} (h : IsNormalForm path) :
    IsNormalForm (lower path) ∨ IsDottedForm (lower path) := by
  cases h with
  | current => exact Or.inl .current
  | @share names hne hsegments hnormal =>
    rw [lower, lowerAfter_separator_cons, lower_joinBehind]
    refine Or.inl (.share (by simpa using hne) ?_ (isNormalShare_map_lower hnormal))
    intro name hmem
    obtain ⟨piece, hpiece, rfl⟩ := List.mem_map.mp hmem
    exact isSegment_lower (hsegments piece hpiece)
  | @driveRoot c rest hrest =>
    obtain ⟨image, cased, hsingle, hdotted, hlower⟩ := exists_lower_colon c (separator :: rest)
    have hnames := eq_nil_or_isReduced_lowerAfter hrest false
    rw [hlower, lowerAfter_separator_cons]
    by_cases hc : c = 'İ'
    · rw [hdotted hc]
      exact Or.inr ⟨_, rfl, Or.inl ⟨_, rfl, hnames⟩⟩
    · obtain ⟨d, rfl⟩ := hsingle hc
      exact Or.inl (.driveRoot hnames)
  | @drive c rest hrest =>
    obtain ⟨image, cased, hsingle, hdotted, hlower⟩ := exists_lower_colon c rest
    have hnames := eq_nil_or_isReduced_lowerAfter hrest cased
    rw [hlower]
    by_cases hc : c = 'İ'
    · rw [hdotted hc]
      exact Or.inr ⟨_, rfl, Or.inr hnames⟩
    · obtain ⟨d, rfl⟩ := hsingle hc
      exact Or.inl (.drive hnames)
  | @root rest hrest =>
    rw [lower, lowerAfter_separator_cons]
    exact Or.inl (.root (eq_nil_or_isReduced_lowerAfter hrest false))
  | relative hreduced =>
    refine Or.inl (.relative ?_)
    rw [lower, splitOn_lowerAfter, isReduced_lowerPieces]
    exact hreduced

/-! ## The dotted capital I -/

theorem splitDrive_dotted (rest : Text) :
    splitDrive ('i' :: '\u0307' :: rest) = ([], 'i' :: '\u0307' :: rest) := by
  simp [splitDrive, isSeparator]

/-- Behind the lowered dotted capital I, the first name has no say. -/
theorem normalize_dotted_eq_self_iff {rest name : Text} {others : List Text} (hslash : '/' ∉ rest)
    (hsplit : rest.splitOn separator = name :: others) :
    normalize ('i' :: '\u0307' :: ':' :: rest) = 'i' :: '\u0307' :: ':' :: rest ↔
      IsReduced true others := by
  have hslash' : '/' ∉ 'i' :: '\u0307' :: ':' :: rest := by simp [hslash]
  have hnames : ('i' :: '\u0307' :: ':' :: rest).splitOn separator =
      ('i' :: '\u0307' :: ':' :: name) :: others :=
    splitOn_cons_of_ne (by decide) (splitOn_cons_of_ne (by decide)
      (splitOn_cons_of_ne (by decide) hsplit))
  have hdrive : (splitDrive ('i' :: '\u0307' :: ':' :: rest)).1 = [] := by rw [splitDrive_dotted]
  rw [normalize_eq_self_iff_of_relative hslash' hdrive (by simp [separator]), hnames,
    isReduced_cons_of_ne (by simp)]
  simp

theorem isReduced_true_iff {names : List Text} (h : IsReduced false names) :
    IsReduced true names ↔ names.head? ≠ some parent := by
  cases names with
  | nil => simp
  | cons name names =>
    by_cases hname : name = parent
    · subst hname
      simp [isReduced_parent_cons]
    · rw [isReduced_cons_of_ne hname] at h ⊢
      simp [hname, h]

/-- **Which of these are their own normal forms**: all but a root alone and two steps up. -/
theorem normalize_eq_self_iff_of_isDottedForm {rest : Text} (hslash : '/' ∉ rest)
    (h : IsDottedForm ('i' :: '\u0307' :: ':' :: rest)) :
    normalize ('i' :: '\u0307' :: ':' :: rest) = 'i' :: '\u0307' :: ':' :: rest ↔
      rest ≠ [separator] ∧ ¬[parent, parent] <+: rest.splitOn separator := by
  obtain ⟨_, heq, h⟩ := h
  obtain rfl : rest = _ := by simpa using heq
  obtain ⟨name, others, hsplit⟩ := exists_splitOn_eq rest
  rw [normalize_dotted_eq_self_iff hslash hsplit]
  rcases h with ⟨below, rfl, hbelow⟩ | rfl | hreduced
  · rw [splitOn_separator_cons, List.cons.injEq] at hsplit
    obtain ⟨rfl, rfl⟩ := hsplit
    have hempty : IsReduced true (below.splitOn separator) ↔ below ≠ [] := by
      rcases hbelow with rfl | hreduced
      · simp [isReduced_cons_of_ne]
      · refine iff_of_true hreduced ?_
        rintro rfl
        exact hreduced.head_ne_nil rfl
    simp [hempty, splitOn_separator_cons]
  · obtain ⟨rfl, rfl⟩ : name = [] ∧ others = [] := by simpa [eq_comm] using hsplit
    simp
  · have hseparator : rest ≠ [separator] := by
      rintro rfl
      exact hreduced.head_ne_nil rfl
    rw [hsplit] at hreduced ⊢
    by_cases hname : name = parent
    · subst hname
      have hothers := (isReduced_parent_cons.mp hreduced).2
      rw [isReduced_true_iff hothers, List.cons_prefix_cons]
      cases others <;> simp [hseparator, eq_comm]
    · rw [List.cons_prefix_cons]
      simp [hreduced.tail_of_ne hname, hseparator, Ne.symm hname]

end LaunchKit.Path
