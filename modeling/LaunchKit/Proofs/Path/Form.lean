import LaunchKit.Proofs.Path.Repeated
import Mathlib.Data.List.InsertIdx

/-!
# The form of converted paths

The way between two paths is found by comparing their texts, which asks for one form on both sides.
Conversion establishes it: behind the drive there are steps up and then plain names, or plain names
behind a single separator, and nothing else; the names stand between single separators, and the
whole is its own normal form. This holds for paths whose only colon, if any, is the second
character, where a drive has it. A colon elsewhere may come to stand there when names cancel out.

## Main definitions

* `Path.IsBelowDrive`: what stands behind the drive of a converted path.

## Main statements

* `Path.isReduced_unrooted_iff`: reduced names are steps up with names behind them.
* `Path.normalize_normalize_of_drive`: a path with a drive has a settled normal form.
* `Path.isBelowDrive_normalize`: what stands behind the drive of a normal form.
* `Path.convert_establishes_form`: the form of converted paths.
-/
namespace LaunchKit.Path

/-- What stands behind the drive of a converted path: steps up and then names, or names behind a
root. -/
inductive IsBelowDrive : Text → Prop
  | unrooted (ups : Nat) {names : List Text} (h : ∀ name ∈ names, IsPlain name) :
      IsBelowDrive (List.intercalate [separator] (List.replicate ups parent ++ names))
  | rooted {names : List Text} (h : ∀ name ∈ names, IsPlain name) :
      IsBelowDrive (separator :: List.intercalate [separator] names)

/-! ## Reduced names in full -/

theorem isReduced_rooted_iff {names : List Text} :
    IsReduced true names ↔ ∀ name ∈ names, name ≠ [] ∧ name ≠ current ∧ name ≠ parent := by
  induction names with
  | nil => simp
  | cons name names ih =>
    by_cases hname : name = parent
    · subst hname
      simp [isReduced_parent_cons]
    · rw [isReduced_cons_of_ne hname, ih]
      simp [hname, and_assoc]

/-- Reduced names are steps up with names behind them. -/
theorem isReduced_unrooted_iff {names : List Text} :
    IsReduced false names ↔
      ∃ ups rest, names = List.replicate ups parent ++ rest ∧ IsReduced true rest := by
  constructor
  · intro h
    induction names with
    | nil => exact ⟨0, [], rfl, trivial⟩
    | cons name names ih =>
      by_cases hname : name = parent
      · obtain ⟨ups, rest, rfl, hrest⟩ := ih h.tail
        exact ⟨ups + 1, rest, by rw [hname, List.replicate_succ, List.cons_append], hrest⟩
      · refine ⟨0, name :: names, rfl, ?_⟩
        rw [isReduced_cons_of_ne hname] at h ⊢
        exact h
  · rintro ⟨ups, rest, rfl, hrest⟩
    induction ups with
    | zero => exact hrest.of_rooted
    | succ ups ih =>
      rw [List.replicate_succ, List.cons_append]
      exact isReduced_parent_cons.mpr ⟨rfl, ih⟩

theorem isPlain_of_isSegment {name : Text} (hsegment : IsSegment name) (hcolon : ':' ∉ name)
    (h : name ≠ [] ∧ name ≠ current ∧ name ≠ parent) : IsPlain name where
  ne_nil := h.1
  ne_current := h.2.1
  ne_parent := h.2.2
  no_separator := hsegment
  no_colon := hcolon

/-- Names that are reduced are plain, steps up apart, if no colon stands in them. -/
theorem isPlain_of_mem_reduce {rooted : Bool} {text name : Text} (hslash : '/' ∉ text)
    (hcolon : ':' ∉ text) (hmem : name ∈ reduce rooted (text.splitOn separator))
    (h : name ≠ [] ∧ name ≠ current ∧ name ≠ parent) : IsPlain name :=
  have hsplit := mem_of_mem_reduce hmem
  isPlain_of_isSegment (isSegment_of_mem_splitOn hslash hsplit)
    (fun hc => hcolon (mem_of_mem_splitOn hsplit hc)) h

/-- Below a root, the names that are left are plain. -/
theorem forall_isPlain_reduce {text : Text} (hslash : '/' ∉ text) (hcolon : ':' ∉ text) :
    ∀ name ∈ reduce true (text.splitOn separator), IsPlain name := by
  intro name hmem
  have hreduced := isReduced_rooted_iff.mp (isReduced_reduce true (text.splitOn separator))
  exact isPlain_of_mem_reduce hslash hcolon hmem (hreduced name hmem)

/-- Without a root, the names that are left are plain behind some steps up. -/
theorem exists_reduce_eq {text : Text} (hslash : '/' ∉ text) (hcolon : ':' ∉ text) :
    ∃ ups names, reduce false (text.splitOn separator) = List.replicate ups parent ++ names ∧
      ∀ name ∈ names, IsPlain name := by
  obtain ⟨ups, names, heq, hnames⟩ :=
    isReduced_unrooted_iff.mp (isReduced_reduce false (text.splitOn separator))
  refine ⟨ups, names, heq, fun name hmem => ?_⟩
  have hleft : name ∈ reduce false (text.splitOn separator) := by
    rw [heq]
    exact List.mem_append_right _ hmem
  exact isPlain_of_mem_reduce hslash hcolon hleft (isReduced_rooted_iff.mp hnames name hmem)

/-! ## What may stand behind a drive -/

theorem nil_mem_splitOn_of_getLast? {text : Text} (h : text.getLast? = some separator) :
    [] ∈ text.splitOn separator := by
  obtain ⟨front, rfl⟩ := List.getLast?_eq_some_iff.mp h
  rw [List.splitOn_append_cons_self]
  simp

/-- Names that are joined end in no separator. -/
theorem getLast?_intercalate_ne {names : List Text} (hne : ∀ name ∈ names, name ≠ [])
    (hfree : ∀ name ∈ names, separator ∉ name) :
    (List.intercalate [separator] names).getLast? ≠ some separator := by
  intro hlast
  have hnil := nil_mem_splitOn_of_getLast? hlast
  by_cases hnames : names = []
  · rw [hnames] at hlast
    cases hlast
  · rw [List.splitOn_intercalate separator hfree hnames] at hnil
    exact hne [] hnil rfl

/-- Only a root that stands alone ends in a separator. -/
theorem IsBelowDrive.eq_of_getLast? {rest : Text} (h : IsBelowDrive rest)
    (hlast : rest.getLast? = some separator) : rest = [separator] := by
  cases h with
  | unrooted ups hnames =>
    have hne : ∀ name ∈ List.replicate ups parent ++ _, name ≠ [] :=
      fun name hmem => (ne_nil_and_isTail_up ups (ne_nil_and_isTail hnames) name hmem).1
    exact absurd hlast (getLast?_intercalate_ne hne (separator_not_mem_up ups hnames))
  | @rooted names hnames =>
    by_cases hnil : names = []
    · rw [hnil]
      rfl
    · have hne : ∀ name ∈ names, name ≠ [] := fun name hmem => (hnames name hmem).ne_nil
      rw [List.getLast?_cons_of_ne_nil (intercalate_ne_nil hnil hne)] at hlast
      exact absurd hlast (getLast?_intercalate_ne hne
        fun name hmem => (hnames name hmem).separator_not_mem)

/-! ## Normal forms -/

theorem slash_not_mem_normalize {path : Text} (hslash : '/' ∉ path) : '/' ∉ normalize path := by
  intro h
  rcases mem_of_mem_normalize hslash h with h | h | h
  · exact hslash h
  · exact absurd h (by decide)
  · exact absurd h (by decide)

theorem colon_not_mem_normalize {path : Text} (hslash : '/' ∉ path) (hcolon : ':' ∉ path) :
    ':' ∉ normalize path := by
  intro h
  rcases mem_of_mem_normalize hslash h with h | h | h
  · exact hcolon h
  · exact absurd h (by decide)
  · exact absurd h (by decide)

/-- A drive of two characters is found again, and the normal form is settled. -/
theorem normalize_normalize_colon {c : Char} {rest : Text} (hslash : '/' ∉ c :: ':' :: rest) :
    normalize (normalize (c :: ':' :: rest)) = normalize (c :: ':' :: rest) := by
  have hslash' := slash_not_mem_normalize hslash
  by_cases hrooted : rest.head? = some separator
  · obtain ⟨below, rfl⟩ : ∃ below, rest = separator :: below := List.head?_eq_some_iff.mp hrooted
    rw [normalize_of_rooted hslash (splitDrive_colon c _)] at hslash' ⊢
    exact (normalize_eq_self_iff_of_rooted hslash' (splitDrive_colon c _)).mpr
      (eq_nil_or_isReduced_intercalate below)
  · rw [normalize_drive hslash hrooted] at hslash' ⊢
    have hreduced := @eq_nil_or_isReduced_intercalate false rest
    exact (normalize_drive_eq_self_iff hslash' (head?_ne_separator hreduced)).mpr hreduced

/-- A share is found again, and the normal form is settled. -/
theorem normalize_normalize_share {rest : Text} (hslash : '/' ∉ rest) :
    normalize (normalize (separator :: separator :: rest)) =
      normalize (separator :: separator :: rest) := by
  obtain ⟨names, hne, hsegments, hnormal, heq⟩ :=
    exists_normalize_share (List.splitOn_ne_nil separator rest)
      fun name hmem => isSegment_of_mem_splitOn hslash hmem
  rw [joinBehind_splitOn] at heq
  rw [heq]
  exact (normalize_share_eq_self_iff hne hsegments).mpr hnormal

/-- **A path with a drive** has a settled normal form. -/
theorem normalize_normalize_of_drive {path : Text} (hslash : '/' ∉ path)
    (hdrive : (splitDrive path).1 ≠ []) : normalize (normalize path) = normalize path := by
  by_cases hshare : ∃ rest, path = separator :: separator :: rest
  · obtain ⟨rest, rfl⟩ := hshare
    exact normalize_normalize_share fun hmem => hslash (by simp [hmem])
  · rcases splitDrive_of_not_share hslash fun rest heq => hshare ⟨rest, heq⟩ with
      hsplit | ⟨c, rest, rfl⟩
    · exact absurd (by rw [hsplit]) hdrive
    · exact normalize_normalize_colon hslash

/-- What stands behind a drive of two characters. -/
theorem isBelowDrive_normalize_colon {c : Char} {rest : Text} (hslash : '/' ∉ c :: ':' :: rest)
    (hcolon : ':' ∉ rest) : IsBelowDrive (splitDrive (normalize (c :: ':' :: rest))).2 := by
  have hrest : '/' ∉ rest := fun hmem => hslash (by simp [hmem])
  by_cases hrooted : rest.head? = some separator
  · obtain ⟨below, rfl⟩ : ∃ below, rest = separator :: below := List.head?_eq_some_iff.mp hrooted
    rw [normalize_of_rooted hslash (splitDrive_colon c _), List.cons_append, List.cons_append,
      List.nil_append, splitDrive_colon]
    exact .rooted (forall_isPlain_reduce (fun hmem => hrest (by simp [hmem]))
      fun hmem => hcolon (by simp [hmem]))
  · obtain ⟨ups, names, hreduce, hnames⟩ := exists_reduce_eq hrest hcolon
    rw [normalize_drive hslash hrooted, splitDrive_colon, hreduce]
    exact .unrooted ups hnames

/-- What stands behind the drive of a share. -/
theorem isBelowDrive_normalize_share {rest : Text} (hslash : '/' ∉ rest) (hcolon : ':' ∉ rest) :
    IsBelowDrive (splitDrive (normalize (separator :: separator :: rest))).2 := by
  have hcolon' : ':' ∉ normalize (separator :: separator :: rest) :=
    colon_not_mem_normalize (by simpa [separator] using hslash) (by simpa [separator] using hcolon)
  obtain ⟨names, hne, hsegments, hnormal, heq⟩ :=
    exists_normalize_share (List.splitOn_ne_nil separator rest)
      fun name hmem => isSegment_of_mem_splitOn hslash hmem
  rw [joinBehind_splitOn] at heq
  rw [heq] at hcolon' ⊢
  rw [splitDrive_share hne hsegments]
  rcases hnormal with hnil | hempty | hreduced
  · rw [hnil]
    exact @IsBelowDrive.unrooted 0 [] (by simp)
  · rw [hempty]
    exact @IsBelowDrive.rooted [] (by simp)
  · by_cases hdrop : names.drop (driveCount names) = []
    · rw [hdrop]
      exact @IsBelowDrive.unrooted 0 [] (by simp)
    · rw [← separator_cons_intercalate hdrop]
      refine .rooted fun name hmem => ?_
      have hname := List.mem_of_mem_drop hmem
      refine isPlain_of_isSegment (hsegments name hname) (fun hc => hcolon' ?_)
        (isReduced_rooted_iff.mp hreduced name hmem)
      exact List.mem_cons_of_mem _
        (List.mem_flatMap.mpr ⟨name, hname, List.mem_cons_of_mem _ hc⟩)

/-- What is left of a path without drive and colon. -/
theorem isBelowDrive_normalize_of_no_drive {path : Text} (hslash : '/' ∉ path)
    (hcolon : ':' ∉ path) (hsplit : splitDrive path = ([], path)) :
    normalize path = current ∨ IsBelowDrive (splitDrive (normalize path)).2 := by
  by_cases hrooted : path.head? = some separator
  · obtain ⟨below, rfl⟩ : ∃ below, path = separator :: below := List.head?_eq_some_iff.mp hrooted
    have hnames := forall_isPlain_reduce (fun hmem => hslash (List.mem_cons_of_mem _ hmem))
      fun hmem => hcolon (List.mem_cons_of_mem _ hmem)
    have htail := isTail_intercalate (ne_nil_and_isTail hnames)
    have hnone := splitDrive_append_separator .none htail
    rw [List.nil_append] at hnone
    rw [normalize_of_rooted hslash hsplit, List.nil_append, hnone]
    exact Or.inr (.rooted hnames)
  · obtain ⟨ups, names, hreduce, hnames⟩ := exists_reduce_eq hslash hcolon
    have hflag : decide (([] : Text).getLast? = some separator) = false := rfl
    rw [normalize_of_unrooted hslash hsplit hrooted, hflag, List.nil_append, hreduce]
    split
    · exact Or.inl rfl
    · have hnamed := ne_nil_and_isTail_up ups (ne_nil_and_isTail hnames)
      rw [splitDrive_of_isTail (isTail_intercalate hnamed)]
      exact Or.inr (.unrooted ups hnames)

/-- **What stands behind the drive of a normal form**, and that it is settled, where no colon stands
but as the second character. -/
theorem isBelowDrive_normalize {path : Text} (hslash : '/' ∉ path)
    (hcolon : ':' ∉ path.eraseIdx 1) :
    normalize (normalize path) = normalize path ∧
      (normalize path = current ∨ IsBelowDrive (splitDrive (normalize path)).2) := by
  by_cases hdrive : ∃ c rest, path = c :: ':' :: rest
  · obtain ⟨c, rest, rfl⟩ := hdrive
    have hrest : ':' ∉ rest := fun hmem => hcolon (by simp [hmem])
    exact ⟨normalize_normalize_colon hslash, Or.inr (isBelowDrive_normalize_colon hslash hrest)⟩
  · have hfree : ':' ∉ path := by
      match path with
      | [] => simp
      | [c] => simpa using hcolon
      | c :: d :: rest =>
        have hd : d ≠ ':' := fun heq => hdrive ⟨c, rest, by rw [heq]⟩
        simpa [Ne.symm hd] using hcolon
    have hsettled : normalize (normalize path) = normalize path := by
      refine (normalize_eq_self_iff_of_isNormalForm (slash_not_mem_normalize hslash)
        (isNormalForm_normalize hslash)).mpr (not_startsAtCurrent fun c rest heq => ?_)
      exact colon_not_mem_normalize hslash hfree (by simp [heq])
    refine ⟨hsettled, ?_⟩
    by_cases hshare : ∃ rest, path = separator :: separator :: rest
    · obtain ⟨rest, rfl⟩ := hshare
      exact Or.inr (isBelowDrive_normalize_share (fun hmem => hslash (by simp [hmem]))
        fun hmem => hfree (by simp [hmem]))
    · rcases splitDrive_of_not_share hslash fun rest heq => hshare ⟨rest, heq⟩ with
        hsplit | hcons
      · exact isBelowDrive_normalize_of_no_drive hslash hfree hsplit
      · exact absurd hcons hdrive

/-! ## Converted paths -/

theorem isNormalForm_windowsForm {path : Text} (hne : path ≠ []) :
    IsNormalForm (windowsForm path) := by
  rw [windowsForm_of_ne_nil hne]
  exact isNormalForm_normalize (slash_not_mem_prepared path)

/-- The rules of conversion put a colon nowhere but in the second place. -/
theorem colon_not_mem_eraseIdx_prepared {path : Text} (h : ':' ∉ path.eraseIdx 1) :
    ':' ∉ (prepared path).eraseIdx 1 := by
  have hback : ':' ∉ (withBackslashes path).eraseIdx 1 := by
    rw [withBackslashes, List.eraseIdx_map]
    intro hmem
    obtain ⟨c, hc, heq⟩ := List.mem_map.mp hmem
    split at heq
    · exact absurd heq (by decide)
    · exact h (heq ▸ hc)
  have hlift : ':' ∉ (liftDrive (withBackslashes path)).eraseIdx 1 := by
    generalize withBackslashes path = text at hback ⊢
    rw [liftDrive.eq_def]
    split
    · next c rest =>
      split
      · next hletter =>
        have hc : ':' ≠ c := by
          rintro rfl
          simp at hletter
        have hrest : ':' ∉ rest := fun hmem => hback (by simp [hmem])
        simpa [hc] using hrest
      · exact hback
    · exact hback
  rw [prepared]
  generalize liftDrive (withBackslashes path) = text at hlift ⊢
  rw [rootDrive.eq_def]
  split
  · split
    · simpa [separator] using hlift
    · exact hlift
  · exact hlift

/-- **The form of converted paths.** A path without a null character and with no colon but as its
second character is converted to one that holds no slash and is its own normal form. Unless it is
`.`, there are steps up and then plain names behind its drive, or plain names behind a separator,
and only such a separator that stands alone comes last. -/
theorem convert_establishes_form {path : Text} (hne : path ≠ []) (hnull : '\x00' ∉ path)
    (hcolon : ':' ∉ path.eraseIdx 1) :
    ∃ result, convert path = .ok result ∧ '/' ∉ result ∧ normalize result = result ∧
      (result = current ∨ IsBelowDrive (splitDrive result).2) ∧
      ((splitDrive result).2.getLast? = some separator → (splitDrive result).2 = [separator]) := by
  have hform := isBelowDrive_normalize (slash_not_mem_prepared path)
    (colon_not_mem_eraseIdx_prepared hcolon)
  rw [← windowsForm_of_ne_nil hne] at hform
  obtain ⟨hsettled, hbelow⟩ := hform
  refine ⟨windowsForm path, convert_eq_ok_iff.mpr ⟨hnull, rfl⟩, slash_not_mem_windowsForm path,
    hsettled, hbelow, fun hlast => ?_⟩
  rcases hbelow with hcurrent | hbelow
  · rw [hcurrent] at hlast
    exact absurd hlast (by decide)
  · exact hbelow.eq_of_getLast? hlast

/-- A drive in the form of shells, with doubled separators and more steps up than names. -/
theorem convert_establishes_form_shell :
    let path := "/c//work/./../../bin//".toList
    path ≠ [] ∧ '\x00' ∉ path ∧ ':' ∉ path.eraseIdx 1 ∧
      ∃ result, convert path = .ok result ∧ '/' ∉ result ∧ normalize result = result ∧
        (result = current ∨ IsBelowDrive (splitDrive result).2) ∧
        ((splitDrive result).2.getLast? = some separator →
          (splitDrive result).2 = [separator]) := by
  intro path
  have hne : path ≠ [] := by decide
  have hnull : '\x00' ∉ path := by decide
  have hcolon : ':' ∉ path.eraseIdx 1 := by decide
  exact ⟨hne, hnull, hcolon, convert_establishes_form hne hnull hcolon⟩

end LaunchKit.Path
