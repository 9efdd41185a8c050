import LaunchKit.Proofs.Path.Shares

/-!
# The shapes of normal forms

A normal form is `.`, a share, or reduced names behind a drive, behind a root, behind both or behind
nothing. Most of these are their own normal forms. The exception are those that are taken apart in
another way when they are read again: a name that reads like a drive has come first, and `.` stands
behind the drive.

## Main definitions

* `Path.IsNormalForm`: the shapes of normal forms.
* `Path.StartsAtCurrent`: a path with `.` directly behind two characters that read like a drive.

## Main statements

* `Path.isNormalForm_normalize`: normal forms have these shapes.
* `Path.normalize_eq_self_iff_of_isNormalForm`: which of these are their own normal forms.
-/
namespace LaunchKit.Path

/-- The shapes of normal forms. -/
inductive IsNormalForm : Text → Prop
  | current : IsNormalForm current
  | share {names : List Text} (hne : names ≠ []) (h : ∀ name ∈ names, IsSegment name)
      (hnormal : IsNormalShare names) : IsNormalForm (separator :: joinBehind names)
  | driveRoot {c : Char} {rest : Text}
      (h : rest = [] ∨ IsReduced true (rest.splitOn separator)) :
      IsNormalForm (c :: ':' :: separator :: rest)
  | drive {c : Char} {rest : Text} (h : rest = [] ∨ IsReduced false (rest.splitOn separator)) :
      IsNormalForm (c :: ':' :: rest)
  | root {rest : Text} (h : rest = [] ∨ IsReduced true (rest.splitOn separator)) :
      IsNormalForm (separator :: rest)
  | relative {path : Text} (h : IsReduced false (path.splitOn separator)) : IsNormalForm path

/-! ## Reading a text by its first segment -/

theorem splitOn_separator_cons (rest : Text) :
    (separator :: rest).splitOn separator = [] :: rest.splitOn separator := by
  rw [List.splitOn_cons_eq_if_modifyHead, if_pos (by simp)]

theorem splitOn_cons_of_ne {c : Char} (hc : c ≠ separator) {text first : Text}
    {others : List Text} (h : text.splitOn separator = first :: others) :
    (c :: text).splitOn separator = (c :: first) :: others := by
  rw [List.splitOn_cons_eq_if_modifyHead, if_neg (by simpa using hc), h, List.modifyHead_cons]

theorem exists_splitOn_eq (text : Text) :
    ∃ first others, text.splitOn separator = first :: others :=
  List.exists_cons_of_ne_nil (List.splitOn_ne_nil separator text)

/-- Reduced names begin with no separator. -/
theorem head?_ne_separator {rooted : Bool} {text : Text}
    (h : text = [] ∨ IsReduced rooted (text.splitOn separator)) :
    text.head? ≠ some separator := by
  intro hhead
  obtain ⟨rest, rfl⟩ : ∃ rest, text = separator :: rest := List.head?_eq_some_iff.mp hhead
  rcases h with h | h
  · cases h
  · rw [splitOn_separator_cons] at h
    exact h.head_ne_nil rfl

/-- Behind a first name other than a step up, names are reduced as behind a root. -/
theorem IsReduced.tail_of_ne {rooted : Bool} {name : Text} {names : List Text}
    (h : IsReduced rooted (name :: names)) (hname : name ≠ parent) : IsReduced true names :=
  ((isReduced_cons_of_ne hname).mp h).2.2

/-- The first segment is empty when nothing or a separator comes first. -/
theorem splitOn_eq_nil_cons_iff {text : Text} :
    (∃ others, text.splitOn separator = [] :: others) ↔
      text = [] ∨ text.head? = some separator := by
  cases text with
  | nil => simp
  | cons c text =>
    by_cases hc : c = separator
    · simp [hc, splitOn_separator_cons]
    · obtain ⟨first, others, hsplit⟩ := exists_splitOn_eq text
      simp [hc, splitOn_cons_of_ne hc hsplit]

/-- The first segment is `.` when nothing or a separator comes behind it. -/
theorem splitOn_eq_current_cons_iff {text : Text} :
    (∃ others, text.splitOn separator = current :: others) ↔
      ∃ rest, text = '.' :: rest ∧ (rest = [] ∨ rest.head? = some separator) := by
  cases text with
  | nil => simp
  | cons c text =>
    by_cases hc : c = separator
    · simp [hc, splitOn_separator_cons, separator]
    · obtain ⟨first, others, hsplit⟩ := exists_splitOn_eq text
      have hempty : first = [] ↔ text = [] ∨ text.head? = some separator := by
        rw [← splitOn_eq_nil_cons_iff, hsplit]
        simp
      have hcurrent : (∃ others, (c :: text).splitOn separator = current :: others) ↔
          c = '.' ∧ (text = [] ∨ text.head? = some separator) := by
        simp [splitOn_cons_of_ne hc hsplit, hempty]
      rw [hcurrent]
      constructor
      · rintro ⟨rfl, hrest⟩
        exact ⟨text, rfl, hrest⟩
      · rintro ⟨rest, heq, hrest⟩
        obtain ⟨rfl, rfl⟩ := List.cons.inj heq
        exact ⟨rfl, hrest⟩

/-! ## Normal forms have these shapes -/

theorem eq_nil_or_isReduced_intercalate {rooted : Bool} (text : Text) :
    List.intercalate [separator] (reduce rooted (text.splitOn separator)) = [] ∨
      IsReduced rooted ((List.intercalate [separator]
        (reduce rooted (text.splitOn separator))).splitOn separator) := by
  by_cases hnames : reduce rooted (text.splitOn separator) = []
  · exact Or.inl (by rw [hnames]; rfl)
  · exact Or.inr (isReduced_intercalate_reduce hnames)

/-- A path that is no share has no drive or two characters for one. -/
theorem splitDrive_of_not_share {path : Text} (hslash : '/' ∉ path)
    (h : ∀ rest, path ≠ separator :: separator :: rest) :
    splitDrive path = ([], path) ∨ ∃ c rest, path = c :: ':' :: rest := by
  match path with
  | [] | [_] => exact Or.inl rfl
  | c :: d :: rest =>
    by_cases hd : d = ':'
    · exact Or.inr ⟨c, rest, by rw [hd]⟩
    · have hsep : ¬(isSeparator c && isSeparator d) = true := by
        have hc : c ≠ '/' := fun heq => hslash (by simp [heq])
        have hd : d ≠ '/' := fun heq => hslash (by simp [heq])
        simp only [isSeparator, Bool.and_eq_true, Bool.or_eq_true, decide_eq_true_eq, hc, hd,
          or_false]
        rintro ⟨rfl, rfl⟩
        exact h rest rfl
      rw [splitDrive, if_neg hsep, if_neg hd]
      exact Or.inl rfl

/-- **Normal forms have these shapes.** -/
theorem isNormalForm_normalize {path : Text} (hslash : '/' ∉ path) :
    IsNormalForm (normalize path) := by
  by_cases hshare : ∃ rest, path = separator :: separator :: rest
  · obtain ⟨rest, rfl⟩ := hshare
    have hrest : '/' ∉ rest := fun hmem =>
      hslash (List.mem_cons_of_mem _ (List.mem_cons_of_mem _ hmem))
    obtain ⟨names, hne, h, hnormal, heq⟩ :=
      exists_normalize_share (List.splitOn_ne_nil separator rest)
        fun name hmem => isSegment_of_mem_splitOn hrest hmem
    rw [joinBehind_splitOn] at heq
    rw [heq]
    exact .share hne h hnormal
  · rcases splitDrive_of_not_share hslash fun rest heq => hshare ⟨rest, heq⟩ with
      hsplit | ⟨c, rest, rfl⟩
    · by_cases hrooted : path.head? = some separator
      · obtain ⟨rest, rfl⟩ : ∃ rest, path = separator :: rest := List.head?_eq_some_iff.mp hrooted
        rw [normalize_of_rooted hslash hsplit]
        exact .root (eq_nil_or_isReduced_intercalate rest)
      · rw [normalize_of_unrooted hslash hsplit hrooted]
        split
        · exact .current
        · next hnames =>
          have hflag : decide (([] : Text).getLast? = some separator) = false := rfl
          rw [hflag] at hnames
          rw [hflag, List.nil_append]
          exact .relative (isReduced_intercalate_reduce fun hnil => hnames ⟨rfl, hnil⟩)
    · by_cases hrooted : rest.head? = some separator
      · obtain ⟨rest, rfl⟩ : ∃ rest', rest = separator :: rest' := List.head?_eq_some_iff.mp hrooted
        rw [normalize_of_rooted hslash (splitDrive_colon c _)]
        exact .driveRoot (eq_nil_or_isReduced_intercalate rest)
      · rw [normalize_drive hslash hrooted]
        exact .drive (eq_nil_or_isReduced_intercalate rest)

/-! ## Which of them are their own normal forms -/

/-- A path with `.` directly behind two characters that read like a drive. -/
def StartsAtCurrent (path : Text) : Prop :=
  ∃ c rest, path = c :: ':' :: '.' :: rest ∧ (rest = [] ∨ isRooted rest = true)

theorem startsAtCurrent_colon_iff {c : Char} {rest : Text} (hslash : '/' ∉ rest) :
    StartsAtCurrent (c :: ':' :: rest) ↔ ∃ others, rest.splitOn separator = current :: others := by
  rw [splitOn_eq_current_cons_iff]
  constructor
  · rintro ⟨_, below, heq, hbelow⟩
    obtain ⟨-, rfl⟩ : _ ∧ rest = '.' :: below := by simpa using heq
    rw [isRooted_iff_head? fun hmem => hslash (List.mem_cons_of_mem _ hmem)] at hbelow
    exact ⟨below, rfl, hbelow⟩
  · rintro ⟨below, rfl, hbelow⟩
    rw [← isRooted_iff_head? fun hmem => hslash (List.mem_cons_of_mem _ hmem)] at hbelow
    exact ⟨c, below, rfl, hbelow⟩

theorem not_startsAtCurrent {path : Text} (h : ∀ c rest, path ≠ c :: ':' :: rest) :
    ¬StartsAtCurrent path := by
  rintro ⟨c, rest, heq, -⟩
  exact h c _ heq

theorem not_startsAtCurrent_of_splitDrive {path : Text} (h : splitDrive path = ([], path)) :
    ¬StartsAtCurrent path := by
  refine not_startsAtCurrent fun c rest heq => ?_
  rw [heq, splitDrive_colon] at h
  cases h

/-- Names that are reduced behind a first name are reduced behind a drive, unless `.` is what is
left of the first name when it is read as a drive. -/
theorem normalize_colon_eq_self_iff {c : Char} {rest name : Text} {others : List Text}
    (hslash : '/' ∉ c :: ':' :: rest) (hsplit : rest.splitOn separator = name :: others)
    (h : IsReduced true others) :
    normalize (c :: ':' :: rest) = c :: ':' :: rest ↔ ¬StartsAtCurrent (c :: ':' :: rest) := by
  have hbelow : '/' ∉ rest := fun hmem =>
    hslash (List.mem_cons_of_mem _ (List.mem_cons_of_mem _ hmem))
  have hcurrent : StartsAtCurrent (c :: ':' :: rest) ↔ name = current := by
    rw [startsAtCurrent_colon_iff hbelow, hsplit]
    simp
  rw [hcurrent]
  by_cases hname : name = []
  · subst hname
    rcases splitOn_eq_nil_cons_iff.mp ⟨others, hsplit⟩ with rfl | hhead
    · rw [normalize_drive_eq_self_iff hslash (by simp)]
      simp
    · obtain ⟨below, rfl⟩ : ∃ below, rest = separator :: below := List.head?_eq_some_iff.mp hhead
      rw [splitOn_separator_cons, List.cons.injEq] at hsplit
      rw [normalize_eq_self_iff_of_rooted hslash (splitDrive_colon c _), hsplit.2]
      simp [h]
  · have hhead : ¬(rest = [] ∨ rest.head? = some separator) := by
      rw [← splitOn_eq_nil_cons_iff, hsplit]
      simpa using hname
    rw [not_or] at hhead
    rw [normalize_drive_eq_self_iff hslash hhead.2, hsplit]
    by_cases hparent : name = parent
    · subst hparent
      simp [isReduced_parent_cons, h.of_rooted]
    · simp [isReduced_cons_of_ne hparent, hhead.1, hname, h]

/-- **Which normal forms are their own normal forms**: all but those with `.` directly behind two
characters that read like a drive. -/
theorem normalize_eq_self_iff_of_isNormalForm {path : Text} (hslash : '/' ∉ path)
    (h : IsNormalForm path) : normalize path = path ↔ ¬StartsAtCurrent path := by
  cases h with
  | current => exact iff_of_true rfl (not_startsAtCurrent (by simp))
  | @share names hne hsegments hnormal =>
    obtain ⟨name, names, rfl⟩ := List.exists_cons_of_ne_nil hne
    refine iff_of_true ((normalize_share_eq_self_iff hne hsegments).mpr hnormal) ?_
    refine not_startsAtCurrent ?_
    simp [separator]
  | @driveRoot c rest hrest =>
    have hbelow : '/' ∉ separator :: rest := fun hmem =>
      hslash (List.mem_cons_of_mem _ (List.mem_cons_of_mem _ hmem))
    rw [normalize_eq_self_iff_of_rooted hslash (splitDrive_colon c _),
      startsAtCurrent_colon_iff hbelow, splitOn_separator_cons]
    simp [hrest]
  | @drive c rest hrest =>
    have hbelow : '/' ∉ rest := fun hmem =>
      hslash (List.mem_cons_of_mem _ (List.mem_cons_of_mem _ hmem))
    rw [normalize_drive_eq_self_iff hslash (head?_ne_separator hrest),
      startsAtCurrent_colon_iff hbelow]
    refine iff_of_true hrest ?_
    rintro ⟨others, hsplit⟩
    rcases hrest with rfl | hreduced
    · simp at hsplit
    · rw [hsplit] at hreduced
      exact hreduced.head_ne_current rfl
  | @root rest hrest =>
    have hshare (below : Text) : separator :: rest ≠ separator :: separator :: below := by
      intro heq
      rw [List.cons.injEq] at heq
      exact head?_ne_separator hrest (by rw [heq.2]; rfl)
    rcases splitDrive_of_not_share hslash hshare with hsplit | ⟨c, below, heq⟩
    · refine iff_of_true ((normalize_eq_self_iff_of_rooted hslash hsplit).mpr hrest) ?_
      exact not_startsAtCurrent_of_splitDrive hsplit
    · -- The first name begins with a colon, and the root reads like the letter before it.
      obtain ⟨rfl, rfl⟩ := List.cons.inj heq
      obtain ⟨name, others, hnames⟩ := exists_splitOn_eq below
      have hreduced := hrest.resolve_left (by simp)
      rw [splitOn_cons_of_ne (by decide) hnames] at hreduced
      exact normalize_colon_eq_self_iff hslash hnames (hreduced.tail_of_ne (by simp))
  | relative hreduced =>
    have hhead := head?_ne_separator (Or.inr hreduced)
    have hshare (below : Text) : path ≠ separator :: separator :: below := by
      rintro rfl
      exact hhead rfl
    rcases splitDrive_of_not_share hslash hshare with hsplit | ⟨c, below, rfl⟩
    · have hdrive : (splitDrive path).1 = [] := by rw [hsplit]
      refine iff_of_true ?_ (not_startsAtCurrent_of_splitDrive hsplit)
      exact (normalize_eq_self_iff_of_relative hslash hdrive hhead).mpr (Or.inr hreduced)
    · -- The first name reads like a drive.
      obtain ⟨name, others, hnames⟩ := exists_splitOn_eq below
      have hc : c ≠ separator := fun heq => hhead (by rw [heq]; rfl)
      rw [splitOn_cons_of_ne hc (splitOn_cons_of_ne (by decide) hnames)] at hreduced
      exact normalize_colon_eq_self_iff hslash hnames (hreduced.tail_of_ne (by simp))

end LaunchKit.Path
