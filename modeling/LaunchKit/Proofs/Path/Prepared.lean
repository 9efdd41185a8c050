import LaunchKit.Path.Convert
import LaunchKit.Proofs.Path.Reduced

/-!
# Paths before their names are reduced

Conversion changes the separators of a path, lifts a drive that is written in the form of shells,
and gives a drive that stands alone its root. What comes out is prepared: it holds no slash, and the
normal form is taken of it. All other paths only have their separators changed, which neither the
drive of a path nor any other reading of it depends on.

## Main definitions

* `Path.KeepsDrives`: maps of characters that keep the drive of a path.
* `Path.IsShellDrive`: a drive in the form of shells.
* `Path.prepared`: a path before its names are reduced.

## Main statements

* `Path.KeepsDrives.splitDrive_map`: the drive of a mapped path.
* `Path.splitDrive_withBackslashes`: the drive of a path in the one and the other form.
* `Path.windowsForm_of_ne_nil`: a converted path is the normal form of the prepared one.
* `Path.prepared_eq_withBackslashes`: which paths only have their separators changed.
-/
namespace LaunchKit.Path

/-! ## Change of separators -/

theorem isSeparator_backslash (c : Char) :
    isSeparator (if c = '/' then '\\' else c) = isSeparator c := by
  split
  · next hc => rw [hc]; rfl
  · rfl

/-- No slash is left. -/
theorem slash_not_mem_withBackslashes (path : Text) : '/' ∉ withBackslashes path := by
  rw [withBackslashes, List.mem_map]
  rintro ⟨c, -, hc⟩
  by_cases h : c = '/'
  · rw [if_pos h] at hc
    exact absurd hc (by decide)
  · rw [if_neg h] at hc
    exact h hc

/-- Only backslashes are new. -/
theorem not_mem_withBackslashes {path : Text} {c : Char} (hc : c ≠ '\\') (h : c ∉ path) :
    c ∉ withBackslashes path := by
  rw [withBackslashes, List.mem_map]
  rintro ⟨d, hd, heq⟩
  split at heq
  · exact hc heq.symm
  · exact h (heq ▸ hd)

@[simp] theorem withBackslashes_withBackslashes (path : Text) :
    withBackslashes (withBackslashes path) = withBackslashes path :=
  withBackslashes_of_not_mem (slash_not_mem_withBackslashes path)

theorem isRooted_withBackslashes (path : Text) :
    isRooted (withBackslashes path) = isRooted path := by
  cases path with
  | nil => rfl
  | cons c rest => simpa [isRooted, withBackslashes] using isSeparator_backslash c

/-- A map of characters that keeps all that the drive of a path is found by. -/
structure KeepsDrives (f : Char → Char) : Prop where
  separator : ∀ c, isSeparator (f c) = isSeparator c
  colon : ∀ c, f c = ':' ↔ c = ':'
  opening : ∀ text : Text,
    (withBackslashes (text.map f)).map Char.toUpper = (withBackslashes text).map Char.toUpper

namespace KeepsDrives

variable {f : Char → Char} (hf : KeepsDrives f)
include hf

theorem nameLength_map (text : Text) : nameLength (text.map f) = nameLength text := by
  rw [nameLength, List.takeWhile_map, List.length_map, nameLength]
  simp only [Function.comp_def, hf.separator]

theorem shareLength_map (path : Text) : shareLength (path.map f) = shareLength path := by
  simp only [shareLength, shareOpening, ← List.map_take, ← List.map_drop, hf.opening,
    hf.nameLength_map]

/-- Drive and rest are mapped each by itself. -/
theorem splitDrive_map (path : Text) :
    splitDrive (path.map f) = ((splitDrive path).1.map f, (splitDrive path).2.map f) := by
  match path with
  | [] | [_] => rfl
  | c :: d :: rest =>
    have hlength := hf.shareLength_map (c :: d :: rest)
    rw [List.map_cons, List.map_cons] at hlength ⊢
    rw [splitDrive, splitDrive, hf.separator, hf.separator, hlength]
    split
    · simp [List.splitAt_eq]
    · by_cases hd : d = ':'
      · rw [if_pos hd, if_pos ((hf.colon d).mpr hd)]
        rfl
      · rw [if_neg hd, if_neg fun heq => hd ((hf.colon d).mp heq)]
        rfl

end KeepsDrives

theorem keepsDrives_backslash : KeepsDrives fun c => if c = '/' then '\\' else c where
  separator := isSeparator_backslash
  colon c := by
    by_cases hc : c = '/'
    · simp [hc]
    · simp [hc]
  opening text := congrArg (List.map Char.toUpper) (withBackslashes_withBackslashes text)

/-- Drive and rest do not depend on the form of the separators. -/
theorem splitDrive_withBackslashes (path : Text) :
    splitDrive (withBackslashes path) =
      (withBackslashes (splitDrive path).1, withBackslashes (splitDrive path).2) :=
  keepsDrives_backslash.splitDrive_map path

/-! ## Drives in the form of shells -/

/-- A drive in the form of shells: one separator, and a first directory of one ASCII letter. -/
def IsShellDrive (path : Text) : Prop :=
  ∃ s c rest, path = s :: c :: rest ∧ isSeparator s = true ∧ c.isAlpha = true ∧
    (rest = [] ∨ isRooted rest = true)

/-- The same with a line end, and nothing else, behind the letter. -/
def IsLineEndedDrive (path : Text) : Prop :=
  ∃ s c, path = [s, c, '\n'] ∧ isSeparator s = true ∧ c.isAlpha = true

theorem slash_ne_of_isAlpha {c : Char} (h : c.isAlpha = true) : c ≠ '/' := by
  rintro rfl
  exact absurd h (by decide)

theorem backslash_eq_of_isAlpha {c : Char}
    (h : (if c = '/' then '\\' else c).isAlpha = true) : c ≠ '/' ∧ c.isAlpha = true := by
  split at h
  · exact absurd h (by decide)
  · next hc => exact ⟨hc, h⟩

theorem isShellDrive_withBackslashes {path : Text} :
    IsShellDrive (withBackslashes path) ↔ IsShellDrive path := by
  constructor
  · rintro ⟨s, c, rest, hpath, hs, hc, hrest⟩
    match path with
    | [] | [_] => simp [withBackslashes] at hpath
    | s' :: c' :: rest' =>
      simp only [withBackslashes, List.map_cons, List.cons.injEq] at hpath
      obtain ⟨rfl, rfl, rfl⟩ := hpath
      refine ⟨s', c', rest', rfl, (isSeparator_backslash s').symm.trans hs,
        (backslash_eq_of_isAlpha hc).2, ?_⟩
      rcases hrest with hrest | hrest
      · exact Or.inl (List.map_eq_nil_iff.mp hrest)
      · exact Or.inr ((isRooted_withBackslashes rest').symm.trans hrest)
  · rintro ⟨s, c, rest, rfl, hs, hc, hrest⟩
    refine ⟨_, c, withBackslashes rest, by simp [withBackslashes, slash_ne_of_isAlpha hc],
      (isSeparator_backslash s).trans hs, hc, ?_⟩
    rcases hrest with rfl | hrest
    · exact Or.inl rfl
    · exact Or.inr ((isRooted_withBackslashes rest).trans hrest)

theorem isLineEndedDrive_withBackslashes {path : Text} :
    IsLineEndedDrive (withBackslashes path) ↔ IsLineEndedDrive path := by
  constructor
  · rintro ⟨s, c, hpath, hs, hc⟩
    match path with
    | [] | [_] | [_, _] => simp [withBackslashes] at hpath
    | s' :: c' :: d' :: rest' =>
      simp only [withBackslashes, List.map_cons, List.cons.injEq, List.map_eq_nil_iff] at hpath
      obtain ⟨rfl, rfl, hd, rfl⟩ := hpath
      have hd' : d' = '\n' := by
        by_cases hslash : d' = '/'
        · simp [hslash] at hd
        · simpa [hslash] using hd
      exact ⟨s', c', by rw [hd'], (isSeparator_backslash s').symm.trans hs,
        (backslash_eq_of_isAlpha hc).2⟩
  · rintro ⟨s, c, rfl, hs, hc⟩
    exact ⟨_, c, by simp [withBackslashes, slash_ne_of_isAlpha hc],
      (isSeparator_backslash s).trans hs, hc⟩

/-- A drive in the form of shells is lifted. -/
theorem liftDrive_of_isShellDrive {path : Text} (hslash : '/' ∉ path) (h : IsShellDrive path) :
    ∃ c rest, c.isAlpha = true ∧ path = separator :: c :: rest ∧
      liftDrive path = c :: ':' :: rest := by
  obtain ⟨s, c, rest, rfl, hs, hc, hrest⟩ := h
  have hs' : s = '\\' ∨ s = '/' := by simpa [isSeparator] using hs
  rcases hs' with rfl | rfl
  · refine ⟨c, rest, hc, rfl, ?_⟩
    rcases hrest with rfl | hrest
    · simp [liftDrive, hc]
    · cases rest with
      | nil => cases hrest
      | cons d rest =>
        have hd : d = '\\' ∨ d = '/' := by simpa [isRooted, isSeparator] using hrest
        rcases hd with rfl | rfl
        · simp [liftDrive, hc]
        · exact absurd (by simp) hslash
  · exact absurd (by simp) hslash

/-- All other paths are left as they are, but for those with a line end at the end. -/
theorem liftDrive_eq_self {path : Text} (h : ¬IsShellDrive path) (hline : ¬IsLineEndedDrive path) :
    liftDrive path = path := by
  rw [liftDrive.eq_def]
  split
  · next c rest =>
    rw [if_neg]
    intro hlift
    simp only [Bool.and_eq_true, Bool.or_eq_true, decide_eq_true_eq] at hlift
    obtain ⟨hc, (rfl | rfl) | hrest⟩ := hlift
    · exact h ⟨'\\', c, [], rfl, rfl, hc, Or.inl rfl⟩
    · exact hline ⟨'\\', c, rfl, rfl, hc⟩
    · refine h ⟨'\\', c, rest, rfl, rfl, hc, Or.inr ?_⟩
      rw [isRooted, hrest]
      rfl
  · rfl

/-- Only a drive that stands alone gets its root. -/
theorem rootDrive_eq_self {path : Text} (h : ∀ c, c.isAlpha = true → path ≠ [c, ':']) :
    rootDrive path = path := by
  rw [rootDrive.eq_def]
  split
  · next c => rw [if_neg fun hc => h c hc rfl]
  · rfl

theorem exists_rootDrive_eq (c : Char) (rest : Text) :
    ∃ rest', rootDrive (c :: ':' :: rest) = c :: ':' :: rest' := by
  rw [rootDrive.eq_def]
  split
  · next d heq =>
    obtain ⟨rfl, -⟩ := List.cons.inj heq
    split
    · exact ⟨[separator], rfl⟩
    · exact ⟨[], rfl⟩
  · exact ⟨rest, rfl⟩

/-! ## Prepared paths -/

/-- A path with its separators changed, its drive lifted and rooted, before names are reduced. -/
def prepared (path : Text) : Text := rootDrive (liftDrive (withBackslashes path))

theorem windowsForm_of_ne_nil {path : Text} (h : path ≠ []) :
    windowsForm path = normalize (prepared path) := by
  rw [windowsForm, if_neg (by simpa using h), prepared]

/-- A drive in the form of shells is prepared to two characters that read like a drive. -/
theorem exists_prepared_of_isShellDrive {path : Text} (h : IsShellDrive path) :
    ∃ c rest, c.isAlpha = true ∧ prepared path = c :: ':' :: rest := by
  obtain ⟨c, rest, hc, -, hlift⟩ := liftDrive_of_isShellDrive (slash_not_mem_withBackslashes path)
    (isShellDrive_withBackslashes.mpr h)
  obtain ⟨rest', hroot⟩ := exists_rootDrive_eq c rest
  exact ⟨c, rest', hc, by rw [prepared, hlift, hroot]⟩

/-- A drive that stands alone gets its root. -/
theorem prepared_of_bareDrive {path : Text} {c : Char} (hc : c.isAlpha = true)
    (h : withBackslashes path = [c, ':']) : prepared path = [c, ':', separator] := by
  have hlift : liftDrive [c, ':'] = [c, ':'] := by
    rw [liftDrive.eq_def]
    split
    · next heq =>
      rw [(List.cons.inj heq).1] at hc
      exact absurd hc (by decide)
    · rfl
  rw [prepared, h, hlift, rootDrive, if_pos hc]

theorem mem_of_mem_liftDrive {path : Text} {c : Char} (h : c ∈ liftDrive path) :
    c ∈ path ∨ c = ':' := by
  rw [liftDrive.eq_def] at h
  split at h
  · next d rest =>
    split at h
    · simp only [List.mem_cons] at h ⊢
      rcases h with rfl | rfl | hmem <;> simp_all
    · exact Or.inl h
  · exact Or.inl h

theorem mem_of_mem_rootDrive {path : Text} {c : Char} (h : c ∈ rootDrive path) :
    c ∈ path ∨ c = separator := by
  rw [rootDrive.eq_def] at h
  split at h
  · split at h
    · simp only [List.mem_cons] at h ⊢
      rcases h with rfl | rfl | rfl | hmem <;> simp_all
    · exact Or.inl h
  · exact Or.inl h

/-- The characters of a prepared path. -/
theorem mem_of_mem_prepared {path : Text} {c : Char} (h : c ∈ prepared path) :
    c ∈ withBackslashes path ∨ c = ':' ∨ c = separator := by
  rcases mem_of_mem_rootDrive h with h | rfl
  · rcases mem_of_mem_liftDrive h with h | rfl
    · exact Or.inl h
    · exact Or.inr (Or.inl rfl)
  · exact Or.inr (Or.inr rfl)

theorem slash_not_mem_prepared (path : Text) : '/' ∉ prepared path := by
  intro h
  rcases mem_of_mem_prepared h with h | h | h
  · exact slash_not_mem_withBackslashes path h
  · exact absurd h (by decide)
  · exact absurd h (by decide)

/-- Only a drive in the form of shells or one that stands alone is prepared. -/
theorem prepared_eq_withBackslashes {path : Text} (h : ¬IsShellDrive path)
    (hline : ¬IsLineEndedDrive path)
    (hbare : ∀ c, c.isAlpha = true → withBackslashes path ≠ [c, ':']) :
    prepared path = withBackslashes path := by
  rw [← isShellDrive_withBackslashes] at h
  rw [← isLineEndedDrive_withBackslashes] at hline
  rw [prepared, liftDrive_eq_self h hline, rootDrive_eq_self hbare]

theorem not_isShellDrive_of_unrooted {path : Text} (h : isRooted path = false) :
    ¬IsShellDrive path := by
  rintro ⟨s, c, rest, rfl, hs, -⟩
  simp [isRooted, hs] at h

theorem not_isLineEndedDrive_of_unrooted {path : Text} (h : isRooted path = false) :
    ¬IsLineEndedDrive path := by
  rintro ⟨s, c, rfl, hs, -⟩
  simp [isRooted, hs] at h

end LaunchKit.Path
