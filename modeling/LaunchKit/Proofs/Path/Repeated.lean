import LaunchKit.Proofs.Path.Absolute
import LaunchKit.Proofs.Path.Folded

/-!
# Converting a second time

The rules of conversion look at a path as it is written, and names are reduced last. So what is left
may be of a form that an earlier rule looks at: a directory of one letter comes first, a drive
stands alone, or `.` is what a name leaves when it is read as a drive. Then converting a second time
gives another path. All other converted paths are left as they are, and so they are in lower case,
but for the dotted capital I, which is no drive any more when it is lowered.

## Main definitions

* `Path.IsReread`: a converted path that is read in another way.

## Main statements

* `Path.windowsForm_eq_self_iff`: which paths conversion leaves as they are.
* `Path.convert_twice_eq_iff`: which converted paths these are.
-/
namespace LaunchKit.Path

open Text (lower)

/-- A converted path that is read in another way the second time. -/
inductive IsReread : Text → Prop
  | shellDrive {path : Text} (h : IsShellDrive path) : IsReread path
  | bareDrive {c : Char} (h : c.isAlpha = true) : IsReread [c, ':']
  | atCurrent {path : Text} (h : StartsAtCurrent path) : IsReread path
  | dottedRoot : IsReread ['i', '\u0307', ':', separator]
  | dottedUp {rest : Text} (h : [parent, parent] <+: rest.splitOn separator) :
      IsReread ('i' :: '\u0307' :: ':' :: rest)

/-! ## Paths that are left as they are -/

/-- **Which paths conversion leaves as they are**: normal forms that begin with no drive in the form
of shells and are no drive alone. -/
theorem windowsForm_eq_self_iff {path : Text} (hne : path ≠ []) (hslash : '/' ∉ path)
    (hline : ¬IsLineEndedDrive path) :
    windowsForm path = path ↔ ¬IsShellDrive path ∧
      (∀ c, c.isAlpha = true → path ≠ [c, ':']) ∧ normalize path = path := by
  have hback := withBackslashes_of_not_mem hslash
  rw [windowsForm_of_ne_nil hne]
  by_cases hshell : IsShellDrive path
  · obtain ⟨c, rest, hc, hprepared⟩ := exists_prepared_of_isShellDrive hshell
    obtain ⟨below, hbelow⟩ : ∃ below, normalize (c :: ':' :: rest) = [c, ':'] ++ below := by
      have happend := exists_normalize_eq_append (hprepared ▸ slash_not_mem_prepared path)
      rw [splitDrive_colon] at happend
      exact happend (by simp)
    rw [hprepared, hbelow]
    refine iff_of_false ?_ fun h => h.1 hshell
    obtain ⟨s, _, _, rfl, hs, -⟩ := hshell
    intro heq
    rw [← (List.cons.inj heq).1] at hs
    rw [isSeparator_of_isLetter (Text.isLetter_of_isAlpha hc)] at hs
    cases hs
  · by_cases hbare : ∃ c, c.isAlpha = true ∧ path = [c, ':']
    · obtain ⟨c, hc, rfl⟩ := hbare
      have hprepared := prepared_of_bareDrive hc hback
      have hnormal : normalize [c, ':', separator] = [c, ':', separator] :=
        (normalize_eq_self_iff_of_rooted (hprepared ▸ slash_not_mem_prepared [c, ':'])
          (splitDrive_colon c _)).mpr (Or.inl rfl)
      rw [hprepared, hnormal]
      exact iff_of_false (by simp) fun h => h.2.1 c hc rfl
    · have hbare : ∀ c, c.isAlpha = true → path ≠ [c, ':'] := fun c hc heq => hbare ⟨c, hc, heq⟩
      have hprepared : prepared path = path := by
        rw [prepared_eq_withBackslashes hshell hline (hback.symm ▸ hbare), hback]
      rw [hprepared]
      exact ⟨fun h => ⟨hshell, hbare, h⟩, fun h => h.2.2⟩

/-! ## Normal forms -/

theorem IsNormalForm.ne_nil {path : Text} (h : IsNormalForm path) : path ≠ [] := by
  rintro rfl
  cases h with
  | relative hreduced => exact hreduced.head_ne_nil rfl

/-- A name with the lowered dotted capital I comes first, and the names behind it are reduced. -/
theorem IsNormalForm.dotted {rest : Text} (h : IsNormalForm ('i' :: '\u0307' :: ':' :: rest)) :
    rest ≠ [separator] ∧ ¬[parent, parent] <+: rest.splitOn separator := by
  generalize hpath : 'i' :: '\u0307' :: ':' :: rest = path at h
  cases h with
  | relative hreduced =>
    subst hpath
    obtain ⟨name, others, hsplit⟩ := exists_splitOn_eq rest
    rw [splitOn_cons_of_ne (by decide) (splitOn_cons_of_ne (by decide)
      (splitOn_cons_of_ne (by decide) hsplit))] at hreduced
    have hothers := hreduced.tail_of_ne (by simp)
    constructor
    · rintro rfl
      rw [splitOn_separator_cons, List.cons.injEq] at hsplit
      rw [← hsplit.2] at hothers
      exact hothers.head_ne_nil rfl
    · rw [hsplit, List.cons_prefix_cons]
      rintro ⟨-, more, rfl⟩
      exact absurd (isReduced_parent_cons.mp hothers).1 (by decide)
  | _ => simp [separator] at hpath

/-- **Normal forms that conversion leaves as they are.** -/
theorem windowsForm_eq_self_iff_of_isNormalForm {path : Text} (hslash : '/' ∉ path)
    (hline : ¬IsLineEndedDrive path) (h : IsNormalForm path) :
    windowsForm path = path ↔ ¬IsReread path := by
  rw [windowsForm_eq_self_iff h.ne_nil hslash hline,
    normalize_eq_self_iff_of_isNormalForm hslash h]
  constructor
  · rintro ⟨hshell, hbare, hcurrent⟩ hreread
    cases hreread with
    | shellDrive hshell' => exact hshell hshell'
    | bareDrive hc => exact hbare _ hc rfl
    | atCurrent hcurrent' => exact hcurrent hcurrent'
    | dottedRoot => exact h.dotted.1 rfl
    | dottedUp hups => exact h.dotted.2 hups
  · intro hreread
    refine ⟨fun hshell => hreread (.shellDrive hshell), ?_,
      fun hcurrent => hreread (.atCurrent hcurrent)⟩
    rintro c hc rfl
    exact hreread (.bareDrive hc)

/-- The same where the dotted capital I was the drive. -/
theorem windowsForm_eq_self_iff_of_isDottedForm {path : Text} (hslash : '/' ∉ path)
    (hline : ¬IsLineEndedDrive path) (h : IsDottedForm path) :
    windowsForm path = path ↔ ¬IsReread path := by
  obtain ⟨rest, rfl, -⟩ := id h
  have hrest : '/' ∉ rest := by
    intro hmem
    exact hslash (by simp [hmem])
  have hshell : ¬IsShellDrive ('i' :: '\u0307' :: ':' :: rest) := by
    rintro ⟨s, c, below, heq, hs, -⟩
    rw [← (List.cons.inj heq).1] at hs
    exact absurd hs (by decide)
  have hcurrent : ¬StartsAtCurrent ('i' :: '\u0307' :: ':' :: rest) :=
    not_startsAtCurrent (by simp)
  rw [windowsForm_eq_self_iff (by simp) hslash hline, normalize_eq_self_iff_of_isDottedForm hrest h]
  constructor
  · rintro ⟨-, -, hroot, hups⟩ hreread
    generalize hpath : 'i' :: '\u0307' :: ':' :: rest = path at *
    cases hreread with
    | shellDrive hshell' => exact hshell hshell'
    | bareDrive hc => simp at hpath
    | atCurrent hcurrent' => exact hcurrent hcurrent'
    | dottedRoot => exact hroot (by simpa using hpath)
    | dottedUp hups' =>
      obtain rfl : rest = _ := by simpa using hpath
      exact hups hups'
  · intro hreread
    refine ⟨hshell, by simp, ?_, fun hups => hreread (.dottedUp hups)⟩
    rintro rfl
    exact hreread .dottedRoot

/-! ## Characters of converted paths -/

theorem mem_of_mem_intercalate_reduce {rooted : Bool} {text : Text} {c : Char}
    (h : c ∈ List.intercalate [separator] (reduce rooted (text.splitOn separator))) :
    c ∈ text ∨ c = separator := by
  rcases mem_of_mem_intercalate h with rfl | ⟨name, hname, hc⟩
  · exact Or.inr rfl
  · exact Or.inl (mem_of_mem_splitOn (mem_of_mem_reduce hname) hc)

/-- Normal forms have no characters of their own but separators and points. -/
theorem mem_of_mem_normalize {path : Text} (hslash : '/' ∉ path) {c : Char}
    (h : c ∈ normalize path) : c ∈ path ∨ c = separator ∨ c = '.' := by
  obtain ⟨drive, rest, hsplit⟩ : ∃ drive rest, splitDrive path = (drive, rest) := ⟨_, _, rfl⟩
  have hpath : path = drive ++ rest := by rw [← splitDrive_append path, hsplit]
  by_cases hrooted : rest.head? = some separator
  · obtain ⟨below, rfl⟩ : ∃ below, rest = separator :: below := List.head?_eq_some_iff.mp hrooted
    rw [normalize_of_rooted hslash hsplit, List.mem_append, List.mem_cons] at h
    rw [hpath, List.mem_append, List.mem_cons]
    rcases h with h | h | h
    · exact Or.inl (Or.inl h)
    · exact Or.inr (Or.inl h)
    · rcases mem_of_mem_intercalate_reduce h with h | h
      · exact Or.inl (Or.inr (Or.inr h))
      · exact Or.inr (Or.inl h)
  · rw [normalize_of_unrooted hslash hsplit hrooted] at h
    by_cases hnothing : drive = [] ∧
        reduce (drive.getLast? = some separator) (rest.splitOn separator) = []
    · rw [if_pos hnothing] at h
      exact Or.inr (Or.inr (List.mem_singleton.mp h))
    · rw [if_neg hnothing] at h
      rw [hpath, List.mem_append]
      rcases List.mem_append.mp h with h | h
      · exact Or.inl (Or.inl h)
      · rcases mem_of_mem_intercalate_reduce h with h | h
        · exact Or.inl (Or.inr h)
        · exact Or.inr (Or.inl h)

/-- Converted paths have no characters of their own but separators, colons and points. -/
theorem mem_of_mem_windowsForm {path : Text} {c : Char} (h : c ∈ windowsForm path) :
    c ∈ path ∨ c = separator ∨ c = ':' ∨ c = '.' := by
  by_cases hne : path = []
  · rw [hne] at h
    cases h
  · rw [windowsForm_of_ne_nil hne] at h
    rcases mem_of_mem_normalize (slash_not_mem_prepared path) h with h | h | h
    · rcases mem_of_mem_prepared h with h | h | h
      · obtain ⟨d, hd, rfl⟩ := List.mem_map.mp h
        split
        · exact Or.inr (Or.inl rfl)
        · exact Or.inl hd
      · exact Or.inr (Or.inr (Or.inl h))
      · exact Or.inr (Or.inl h)
    · exact Or.inr (Or.inl h)
    · exact Or.inr (Or.inr (Or.inr h))

theorem slash_not_mem_windowsForm (path : Text) : '/' ∉ windowsForm path := by
  by_cases hne : path = []
  · rw [hne]
    exact List.not_mem_nil
  · rw [windowsForm_of_ne_nil hne]
    intro h
    rcases mem_of_mem_normalize (slash_not_mem_prepared path) h with h | h | h
    · exact slash_not_mem_prepared path h
    · exact absurd h (by decide)
    · exact absurd h (by decide)

theorem null_not_mem_windowsForm {path : Text} (hnull : '\x00' ∉ path) :
    '\x00' ∉ windowsForm path := by
  intro h
  rcases mem_of_mem_windowsForm h with h | h | h | h
  · exact hnull h
  · exact absurd h (by decide)
  · exact absurd h (by decide)
  · exact absurd h (by decide)

/-- The converted form of a lowered path is lowered. -/
theorem lower_windowsForm_lower (text : Text) :
    lower (windowsForm (lower text)) = windowsForm (lower text) := by
  refine Text.lowerAfter_eq_self_of_isLowered (fun c hc => ?_) false
  rcases mem_of_mem_windowsForm hc with hc | rfl | rfl | rfl
  · exact Text.isLowered_of_mem_lowerAfter hc
  · exact ⟨by decide, rfl⟩
  · exact ⟨by decide, rfl⟩
  · exact ⟨by decide, rfl⟩

/-! ## Converted paths -/

theorem convertFolded_eq {path : Text} (hnull : '\x00' ∉ path) :
    convertFolded path = .ok (lower (windowsForm path)) := by
  rw [convertFolded, convert_eq_ok_iff.mpr ⟨hnull, rfl⟩]
  rfl

theorem not_isReread_nil : ¬IsReread [] := by
  intro h
  cases h with
  | shellDrive h =>
    obtain ⟨s, c, rest, heq, -⟩ := h
    cases heq
  | atCurrent h =>
    obtain ⟨c, rest, heq, -⟩ := h
    cases heq

/-- **Converting a second time** gives another path exactly for the converted paths that are read in
another way, in lower case as well. Nothing is said of a drive in the form of shells with a line end
behind it. -/
theorem convert_twice_eq_iff {path : Text} (hnull : '\x00' ∉ path) :
    (∃ once twice, convert path = .ok once ∧ convert once = .ok twice ∧
      (¬IsLineEndedDrive once → (twice = once ↔ ¬IsReread once))) ∧
    (∃ once twice, convertFolded path = .ok once ∧ convertFolded once = .ok twice ∧
      (¬IsLineEndedDrive once → (twice = once ↔ ¬IsReread once))) := by
  have hslash := slash_not_mem_windowsForm path
  have honce := null_not_mem_windowsForm hnull
  have hfolded : '\x00' ∉ lower (windowsForm path) := by
    rwa [lower, Text.mem_lowerAfter_iff rfl]
  have hslashFolded : '/' ∉ lower (windowsForm path) := by
    rwa [lower, Text.mem_lowerAfter_iff rfl]
  have hform (hne : path ≠ []) : IsNormalForm (windowsForm path) := by
    rw [windowsForm_of_ne_nil hne]
    exact isNormalForm_normalize (slash_not_mem_prepared path)
  refine ⟨⟨_, _, convert_eq_ok_iff.mpr ⟨hnull, rfl⟩, convert_eq_ok_iff.mpr ⟨honce, rfl⟩, ?_⟩,
    ⟨_, _, convertFolded_eq hnull, convertFolded_eq hfolded, ?_⟩⟩
  · intro hline
    by_cases hne : path = []
    · subst hne
      exact iff_of_true rfl not_isReread_nil
    · exact windowsForm_eq_self_iff_of_isNormalForm hslash hline (hform hne)
  · intro hline
    rw [lower_windowsForm_lower]
    by_cases hne : path = []
    · subst hne
      exact iff_of_true rfl not_isReread_nil
    · rcases isNormalForm_lower_or (hform hne) with hlowered | hdotted
      · exact windowsForm_eq_self_iff_of_isNormalForm hslashFolded hline hlowered
      · exact windowsForm_eq_self_iff_of_isDottedForm hslashFolded hline hdotted

/-- A share in mixed case, with names that cancel out. -/
theorem convert_twice_share :
    let path := "//Srv/Data/Old/../New".toList
    '\x00' ∉ path ∧
      (∃ once twice, convert path = .ok once ∧ convert once = .ok twice ∧
        (¬IsLineEndedDrive once → (twice = once ↔ ¬IsReread once))) ∧
      (∃ once twice, convertFolded path = .ok once ∧ convertFolded once = .ok twice ∧
        (¬IsLineEndedDrive once → (twice = once ↔ ¬IsReread once))) := by
  intro path
  have hnull : '\x00' ∉ path := by decide
  exact ⟨hnull, convert_twice_eq_iff hnull⟩

/-- Converted paths that are not left as they are: a directory of one letter comes first, a drive
stands alone, `.` stands behind a drive, and a drive is no drive in lower case. -/
theorem exists_convert_twice_ne :
    ¬(∀ path once, '\x00' ∉ path → convert path = .ok once → convert once = .ok once) ∧
    ¬(∀ path once, '\x00' ∉ path → convertFolded path = .ok once →
      convertFolded once = .ok once) ∧
    (convert "/./c" = .ok "\\c".toList ∧ convert "\\c" = .ok "c:\\".toList) ∧
    (convert "c:x/.." = .ok "c:".toList ∧ convert "c:" = .ok "c:\\".toList) ∧
    (convert "./c:./x" = .ok "c:.\\x".toList ∧ convert "c:.\\x" = .ok "c:x".toList) ∧
    (convertFolded "İ:/" = .ok "i\u0307:\\".toList ∧
      convertFolded "i\u0307:\\" = .ok "i\u0307:".toList) := by
  have hplain : convert "\\c" = .ok "c:\\".toList := rfl
  have hfolded : convertFolded "\\c" = .ok "c:\\".toList := rfl
  refine ⟨fun h => ?_, fun h => ?_, ⟨rfl, rfl⟩, ⟨rfl, rfl⟩, ⟨rfl, rfl⟩, ⟨rfl, rfl⟩⟩
  · have heq := h "/./c" "\\c" (by decide) rfl
    rw [hplain] at heq
    cases heq
  · have heq := h "/./c" "\\c" (by decide) rfl
    rw [hfolded] at heq
    cases heq

end LaunchKit.Path
