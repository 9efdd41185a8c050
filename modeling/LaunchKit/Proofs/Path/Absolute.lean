import LaunchKit.Proofs.Path.Prepared

/-!
# Which converted paths begin with a drive letter

A path is absolute when it begins with a letter and a colon, which is to say that its drive is one
of these two characters. Conversion keeps such a beginning. It makes one in two other cases: from a
first directory of one letter, as shells write drives, and where a name that reads like a drive
comes first because the names before it cancel out. No share and no rooted path becomes absolute.

## Main definitions

* `Path.IsLetterDrive`: a letter and a colon.
* `Path.HidesDrive`: a path whose first name that is left reads like a drive.

## Main statements

* `Path.isAbsolute_iff_isLetterDrive`: a path is absolute if its drive is a letter.
* `Path.isAbsolute_normalize_iff`: when a normal form is absolute.
* `Path.isAbsolute_convert_iff`: when a converted path is absolute.
-/
namespace LaunchKit.Path

/-! ## Drives -/

/-- A letter of any script and a colon. -/
def IsLetterDrive (drive : Text) : Prop := ∃ c, Text.isLetter c = true ∧ drive = [c, ':']

/-- What a drive can be: nothing, two characters with a colon, or the beginning of a share. -/
theorem splitDrive_cases (path : Text) :
    (splitDrive path).1 = [] ∨ (∃ c, (splitDrive path).1 = [c, ':']) ∨
      ∃ s others, isSeparator s = true ∧ (splitDrive path).1 = s :: others := by
  rw [splitDrive.eq_def]
  split
  · next c d rest =>
    split
    · next hsep =>
      rw [Bool.and_eq_true] at hsep
      obtain ⟨length, hlength⟩ : ∃ length, shareLength (c :: d :: rest) = length + 1 :=
        ⟨shareLength (c :: d :: rest) - 1, by rw [shareLength]; omega⟩
      refine Or.inr (Or.inr ⟨c, (d :: rest).take length, hsep.1, ?_⟩)
      rw [hlength, List.splitAt_eq, List.take_succ_cons]
    · split
      · next hd => exact Or.inr (Or.inl ⟨c, by rw [hd]⟩)
      · exact Or.inl rfl
  · exact Or.inl rfl

theorem isAbsolute_eq_false_of_isSeparator {s : Char} (h : isSeparator s = true) (rest : Text) :
    isAbsolute (s :: rest) = false := by
  rw [isAbsolute.eq_def]
  split
  · next c _ heq =>
    rw [← (List.cons.inj heq).1]
    cases hletter : Text.isLetter s with
    | false => rfl
    | true => rw [isSeparator_of_isLetter hletter] at h; cases h
  · rfl

/-- Whether a path is absolute is settled by its drive, if it has one. -/
theorem isAbsolute_drive_append {path drive : Text} (h : (splitDrive path).1 = drive)
    (hne : drive ≠ []) (rest : Text) : isAbsolute (drive ++ rest) = true ↔ IsLetterDrive drive := by
  rcases splitDrive_cases path with hnil | ⟨c, hcolon⟩ | ⟨s, others, hsep, hshare⟩
  · exact absurd (h.symm.trans hnil) hne
  · rw [← h, hcolon]
    constructor
    · intro hletter
      exact ⟨c, hletter, rfl⟩
    · rintro ⟨d, hletter, heq⟩
      rw [(List.cons.inj heq).1]
      exact hletter
  · rw [← h, hshare, List.cons_append, isAbsolute_eq_false_of_isSeparator hsep]
    constructor
    · intro hfalse
      cases hfalse
    · rintro ⟨d, hletter, heq⟩
      rw [(List.cons.inj heq).1, isSeparator_of_isLetter hletter] at hsep
      cases hsep

/-- **A path is absolute if its drive is a letter.** -/
theorem isAbsolute_iff_isLetterDrive (path : Text) :
    isAbsolute path = true ↔ IsLetterDrive (splitDrive path).1 := by
  constructor
  · intro h
    rw [isAbsolute.eq_def] at h
    split at h
    · next c rest => exact ⟨c, h, by rw [splitDrive_colon]⟩
    · cases h
  · rintro ⟨c, hletter, hdrive⟩
    rw [← splitDrive_append path, hdrive]
    exact hletter

/-! ## Normal forms -/

/-- A normal form begins with the drive of the path. -/
theorem exists_normalize_eq_append {path : Text} (hslash : '/' ∉ path)
    (hdrive : (splitDrive path).1 ≠ []) :
    ∃ rest, normalize path = (splitDrive path).1 ++ rest := by
  by_cases hrest : (splitDrive path).2.head? = some separator
  · obtain ⟨rest, hcons⟩ : ∃ rest, (splitDrive path).2 = separator :: rest :=
      List.head?_eq_some_iff.mp hrest
    exact ⟨_, normalize_of_rooted hslash (Prod.ext rfl hcons)⟩
  · refine ⟨_, (normalize_of_unrooted hslash rfl hrest).trans (if_neg ?_)⟩
    exact fun h => hdrive h.1

/-- The first name that is left of a path without drive and root. -/
def firstName? (path : Text) : Option Text :=
  (reduce false ((withBackslashes path).splitOn separator)).head?

/-- A path without drive and root whose first name that is left reads like a drive. -/
def HidesDrive (path : Text) : Prop :=
  (splitDrive path).1 = [] ∧ isRooted path = false ∧
    ∃ name, firstName? path = some name ∧ isAbsolute name = true

/-- Names behind the first one have no say in whether a path is absolute. -/
theorem isAbsolute_intercalate_cons {name : Text} (hne : name ≠ []) (names : List Text) :
    isAbsolute (List.intercalate [separator] (name :: names)) = isAbsolute name := by
  cases names with
  | nil => simp
  | cons next names =>
    rw [List.intercalate_cons_cons, List.append_assoc]
    match name, hne with
    | [c], _ => simp [isAbsolute, separator]
    | c :: d :: rest, _ => by_cases hd : d = ':' <;> simp [isAbsolute, hd]

/-- **When a normal form is absolute**: the path is, or a name that reads like a drive comes
first. -/
theorem isAbsolute_normalize_iff {path : Text} (hslash : '/' ∉ path) :
    isAbsolute (normalize path) = true ↔ isAbsolute path = true ∨ HidesDrive path := by
  by_cases hdrive : (splitDrive path).1 = []
  · have hsplit : splitDrive path = ([], path) := by
      have happend := splitDrive_append path
      rw [hdrive, List.nil_append] at happend
      exact Prod.ext hdrive happend
    have hpath : isAbsolute path = false := by
      rw [Bool.eq_false_iff, ne_eq, isAbsolute_iff_isLetterDrive, hdrive]
      rintro ⟨c, -, heq⟩
      cases heq
    have hcurrent : isAbsolute current = false := rfl
    cases path with
    | nil => simp [HidesDrive, isAbsolute, normalize, splitRoot, withBackslashes, splitDrive,
        reduce, firstName?]
    | cons c rest =>
      by_cases hc : c = separator
      · subst hc
        have hrooted : isRooted (separator :: rest) = true := rfl
        rw [normalize_of_rooted hslash hsplit, List.nil_append,
          isAbsolute_eq_false_of_isSeparator rfl]
        simp [HidesDrive, hrooted, hpath]
      · have hhead : (c :: rest).head? ≠ some separator := by simpa using hc
        have hunrooted : isRooted (c :: rest) = false := by
          rwa [Bool.eq_false_iff, ne_eq, isRooted_iff_head? hslash]
        have hflag : decide (([] : Text).getLast? = some separator) = false := rfl
        rw [normalize_of_unrooted hslash hsplit hhead, hflag, List.nil_append, HidesDrive,
          firstName?, withBackslashes_of_not_mem hslash]
        cases hnames : reduce false ((c :: rest).splitOn separator) with
        | nil => simp [hpath, hcurrent]
        | cons name names =>
          have hreduced := isReduced_reduce false ((c :: rest).splitOn separator)
          rw [hnames] at hreduced
          rw [if_neg (by simp), isAbsolute_intercalate_cons hreduced.head_ne_nil]
          simp [hdrive, hunrooted, hpath]
  · obtain ⟨rest, hrest⟩ := exists_normalize_eq_append hslash hdrive
    rw [hrest, isAbsolute_drive_append rfl hdrive, isAbsolute_iff_isLetterDrive]
    constructor
    · exact Or.inl
    · rintro (h | h)
      · exact h
      · exact absurd h.1 hdrive

/-! ## Change of separators -/

theorem isAbsolute_withBackslashes (path : Text) :
    isAbsolute (withBackslashes path) = isAbsolute path := by
  match path with
  | [] | [_] => simp [withBackslashes, isAbsolute]
  | c :: d :: rest =>
    by_cases hc : c = '/'
    · have hslash : isAbsolute (c :: d :: rest) = false :=
        isAbsolute_eq_false_of_isSeparator (by rw [hc]; rfl) _
      have hback : isAbsolute (withBackslashes (c :: d :: rest)) = false :=
        isAbsolute_eq_false_of_isSeparator (by simp [hc, isSeparator]) _
      rw [hslash, hback]
    · by_cases hd : d = ':'
      · simp [withBackslashes, hc, hd, isAbsolute]
      · have hd' : (if d = '/' then '\\' else d) ≠ ':' := by
          split
          · decide
          · exact hd
        simp [withBackslashes, isAbsolute, hd, hd']

theorem hidesDrive_withBackslashes {path : Text} :
    HidesDrive (withBackslashes path) ↔ HidesDrive path := by
  simp only [HidesDrive, firstName?, withBackslashes_withBackslashes, isRooted_withBackslashes,
    splitDrive_withBackslashes]
  simp [withBackslashes]

/-! ## Converted paths -/

theorem isAbsolute_windowsForm_of_isShellDrive {path : Text} (h : IsShellDrive path) :
    isAbsolute (windowsForm path) = true := by
  have hne : path ≠ [] := by
    rintro rfl
    obtain ⟨s, c, rest, heq, -⟩ := h
    cases heq
  obtain ⟨c, rest, hc, hprepared⟩ := exists_prepared_of_isShellDrive h
  rw [windowsForm_of_ne_nil hne, isAbsolute_normalize_iff (slash_not_mem_prepared path), hprepared]
  exact Or.inl (Text.isLetter_of_isAlpha hc)

/-- **When a converted path is absolute**: the path begins with a drive letter, or with a drive in
the form of shells, or a name that reads like a drive comes first when names cancel out. Nothing is
said of a drive in the form of shells with a line end behind it. -/
theorem isAbsolute_convert_iff {path : Text} (hnull : '\x00' ∉ path)
    (hline : ¬IsLineEndedDrive path) :
    ∃ result, convert path = .ok result ∧
      (isAbsolute result = true ↔
        isAbsolute path = true ∨ IsShellDrive path ∨ HidesDrive path) := by
  refine ⟨windowsForm path, convert_eq_ok_iff.mpr ⟨hnull, rfl⟩, ?_⟩
  by_cases hshell : IsShellDrive path
  · simp [isAbsolute_windowsForm_of_isShellDrive hshell, hshell]
  · by_cases hbare : ∃ c, c.isAlpha = true ∧ withBackslashes path = [c, ':']
    · obtain ⟨c, hc, hpath⟩ := hbare
      have hletter := Text.isLetter_of_isAlpha hc
      have habsolute : isAbsolute path = true := by
        rw [← isAbsolute_withBackslashes, hpath]
        exact hletter
      have hne : path ≠ [] := by
        rintro rfl
        cases hpath
      rw [windowsForm_of_ne_nil hne, isAbsolute_normalize_iff (slash_not_mem_prepared path),
        prepared_of_bareDrive hc hpath]
      exact iff_of_true (Or.inl hletter) (Or.inl habsolute)
    · by_cases hnil : path = []
      · subst hnil
        have hfirst : firstName? [] = none := rfl
        have habsolute : isAbsolute [] = false := rfl
        simp [windowsForm, habsolute, hshell, HidesDrive, hfirst]
      · have hprepared := prepared_eq_withBackslashes hshell hline
          fun c hc heq => hbare ⟨c, hc, heq⟩
        rw [windowsForm_of_ne_nil hnil, isAbsolute_normalize_iff (slash_not_mem_prepared path),
          hprepared, isAbsolute_withBackslashes, hidesDrive_withBackslashes]
        simp [hshell]

/-- Two names cancel out, and a drive is left in front. -/
theorem isAbsolute_convert_hidden :
    let path := "a/../c:/x".toList
    '\x00' ∉ path ∧ ¬IsLineEndedDrive path ∧
      ∃ result, convert path = .ok result ∧
        (isAbsolute result = true ↔
          isAbsolute path = true ∨ IsShellDrive path ∨ HidesDrive path) := by
  intro path
  have hnull : '\x00' ∉ path := by decide
  have hline : ¬IsLineEndedDrive path := by
    rintro ⟨s, c, heq, -⟩
    simp [path] at heq
  exact ⟨hnull, hline, isAbsolute_convert_iff hnull hline⟩

/-- A converted path may be absolute although the path begins neither with a drive letter nor with
a drive in the form of shells: a name may come first that reads like a drive, and a line end behind
a drive in the form of shells is passed over. -/
theorem exists_isAbsolute_convert :
    ¬(∀ path result, '\x00' ∉ path → convert path = .ok result →
      (isAbsolute result = true ↔ isAbsolute path = true ∨ IsShellDrive path)) ∧
    (convert "./c:/x" = .ok "c:\\x".toList ∧ isAbsolute "c:\\x" = true ∧
      ¬(isAbsolute "./c:/x" = true ∨ IsShellDrive "./c:/x")) ∧
    (convert "/c\n" = .ok "c:\n".toList ∧ isAbsolute "c:\n" = true ∧
      ¬(isAbsolute "/c\n" = true ∨ IsShellDrive "/c\n")) := by
  have hhidden : ¬(isAbsolute "./c:/x" = true ∨ IsShellDrive "./c:/x") := by
    rintro (h | ⟨s, c, rest, heq, hs, -⟩)
    · exact absurd h (by decide)
    · simp at heq
      rw [← heq.1] at hs
      exact absurd hs (by decide)
  have hline : ¬(isAbsolute "/c\n" = true ∨ IsShellDrive "/c\n") := by
    rintro (h | ⟨s, c, rest, heq, -, -, hrest⟩)
    · exact absurd h (by decide)
    · simp at heq
      rw [← heq.2.2] at hrest
      exact absurd hrest (by decide)
  refine ⟨fun h => hhidden ?_, ⟨rfl, rfl, hhidden⟩, ⟨rfl, rfl, hline⟩⟩
  exact (h "./c:/x" "c:\\x" (by decide) rfl).mp rfl

end LaunchKit.Path
