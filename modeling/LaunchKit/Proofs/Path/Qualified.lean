import LaunchKit.Proofs.Path.Form
import LaunchKit.Proofs.Path.Joined
import Mathlib.Tactic.SplitIfs

/-!
# Absolute forms

The absolute form of a path is its converted form, where that begins with a drive letter, and else
the normal form of the converted path joined to the directory, which has to be on a drive letter
then. Two things are to be known of what comes out: whether it names a place by itself, and whether
it is settled.

A drive letter alone leaves the directory on the drive open, and the absolute form inherits this
from the converted path, or from the directory when the converted path has neither drive nor root.
All others are qualified. The joined paths are settled, and so are converted paths unless `.` is
what a name leaves when it is read as a drive.

## Main definitions

* `Path.IsQualified`: a path that names a place by itself.
* `Path.IsDriveRelative`: a path that leaves the directory on its drive open.
* `Path.IsRefused`: which paths have no absolute form, and why.

## Main statements

* `Path.convertAbsolute_eq_ok_iff`, `Path.convertAbsolute_eq_error_iff`: which paths have an
  absolute form.
* `Path.normalize_join_colon`: a path joined to a directory on a drive.
* `Path.convertAbsolute_qualified`: the absolute form is settled and qualified, and when not.
-/
namespace LaunchKit.Path

/-- A path that names a place by itself: a root behind a drive letter, or a share. -/
inductive IsQualified : Text → Prop
  | drive {c : Char} {rest : Text} (h : Text.isLetter c = true) :
      IsQualified (c :: ':' :: separator :: rest)
  | share {rest : Text} : IsQualified (separator :: separator :: rest)

/-- A path with a drive letter and no root, which leaves the directory on the drive open. -/
def IsDriveRelative (path : Text) : Prop :=
  isAbsolute path = true ∧ isRooted (splitDrive path).2 = false

/-- A path with a colon behind a character other than a letter. -/
def HasOtherDrive (path : Text) : Prop :=
  ∃ c rest, path = c :: ':' :: rest ∧ isAbsolute path = false

/-- What leaves the directory on the drive of an absolute form open: a path that does, or a
directory that does when the path has neither drive nor root. -/
def LeavesDirectoryOpen (directory path : Text) : Prop :=
  IsDriveRelative (windowsForm path) ∨
    isAbsolute (windowsForm path) = false ∧ isRooted (windowsForm path) = false ∧
      IsDriveRelative (windowsForm directory)

/-- Why a path has no absolute form. The directory is looked at only when the converted path begins
with no drive letter. -/
inductive IsRefused (directory path : Text) : PathError → Prop
  | empty (h : path = []) : IsRefused directory path .empty
  | nullCharacter (h : '\x00' ∈ path) : IsRefused directory path (.nullCharacter path)
  | directoryNullCharacter (hne : path ≠ []) (hnull : '\x00' ∉ path)
      (hpath : isAbsolute (windowsForm path) = false) (h : '\x00' ∈ directory) :
      IsRefused directory path (.nullCharacter directory)
  | notOnDrive (hne : path ≠ []) (hnull : '\x00' ∉ path)
      (hpath : isAbsolute (windowsForm path) = false) (hdirectory : '\x00' ∉ directory)
      (h : isAbsolute (windowsForm directory) = false) :
      IsRefused directory path (.notOnDrive path (windowsForm directory))

/-! ## Which paths have an absolute form -/

/-- The rules in their order. -/
theorem convertAbsolute_eq (directory path : Text) :
    convertAbsolute directory path =
      if path = [] then .error .empty
      else if '\x00' ∈ path then .error (.nullCharacter path)
      else if isAbsolute (windowsForm path) = true then .ok (windowsForm path)
      else if '\x00' ∈ directory then .error (.nullCharacter directory)
      else if isAbsolute (windowsForm directory) = true then
        .ok (normalize (join (windowsForm directory) (windowsForm path)))
      else .error (.notOnDrive path (windowsForm directory)) := by
  unfold convertAbsolute convert
  simp only [List.isEmpty_iff]
  split
  · rfl
  · split
    · rfl
    · change (if isAbsolute (windowsForm path) = true then _ else _) = _
      split
      · rfl
      · split
        · rfl
        · rfl

theorem convertAbsolute_eq_ok_iff {directory path result : Text} :
    convertAbsolute directory path = .ok result ↔ path ≠ [] ∧ '\x00' ∉ path ∧
      (isAbsolute (windowsForm path) = true ∧ windowsForm path = result ∨
        isAbsolute (windowsForm path) = false ∧ '\x00' ∉ directory ∧
          isAbsolute (windowsForm directory) = true ∧
          normalize (join (windowsForm directory) (windowsForm path)) = result) := by
  rw [convertAbsolute_eq]
  split_ifs with hne hnull hpath hdirectory hbase
  · simp [hne]
  · simp [hnull]
  · simp [hne, hnull, hpath]
  · simp [hpath, hdirectory]
  · simp [hne, hnull, hpath, hdirectory, hbase]
  · simp [hpath, hbase]

theorem convertAbsolute_eq_error_iff {directory path : Text} {error : PathError} :
    convertAbsolute directory path = .error error ↔ IsRefused directory path error := by
  rw [convertAbsolute_eq]
  constructor
  · intro h
    split_ifs at h with hne hnull hpath hdirectory hbase
    · obtain rfl := Except.error.inj h
      exact .empty hne
    · obtain rfl := Except.error.inj h
      exact .nullCharacter hnull
    · obtain rfl := Except.error.inj h
      exact .directoryNullCharacter hne hnull (Bool.eq_false_iff.mpr hpath) hdirectory
    · obtain rfl := Except.error.inj h
      exact .notOnDrive hne hnull (Bool.eq_false_iff.mpr hpath) hdirectory
        (Bool.eq_false_iff.mpr hbase)
  · intro h
    cases h with
    | empty hnil => simp [hnil]
    | nullCharacter hnull =>
      have hne : path ≠ [] := List.ne_nil_of_mem hnull
      simp [hne, hnull]
    | directoryNullCharacter hne hnull hpath hdirectory => simp [hne, hnull, hpath, hdirectory]
    | notOnDrive hne hnull hpath hdirectory hbase =>
      simp [hne, hnull, hpath, hdirectory, hbase]

/-! ## What a path with a drive letter names -/

theorem isQualified_colon_iff {c : Char} {rest : Text} (hletter : Text.isLetter c = true)
    (hslash : '/' ∉ rest) : IsQualified (c :: ':' :: rest) ↔ isRooted rest = true := by
  rw [isRooted_iff_head? hslash, List.head?_eq_some_iff]
  constructor
  · rintro ⟨⟩
    exact ⟨_, rfl⟩
  · rintro ⟨below, rfl⟩
    exact .drive hletter

theorem isDriveRelative_colon_iff {c : Char} {rest : Text} (hletter : Text.isLetter c = true) :
    IsDriveRelative (c :: ':' :: rest) ↔ isRooted rest = false := by
  rw [IsDriveRelative, splitDrive_colon]
  simp [isAbsolute, hletter]

/-- A share leaves no directory open. -/
theorem not_isDriveRelative_share (rest : Text) :
    ¬IsDriveRelative (separator :: separator :: rest) := by
  rintro ⟨habsolute, -⟩
  rw [isAbsolute_eq_false_of_isSeparator rfl] at habsolute
  cases habsolute

/-- What a drive letter with a rest behind it names, where an open directory is known by the
rest. -/
theorem isDriveRelative_and_isQualified_iff {c : Char} {rest : Text} {isOpen : Prop}
    (hletter : Text.isLetter c = true) (hslash : '/' ∉ rest)
    (h : isRooted rest = false ↔ isOpen) :
    (IsDriveRelative (c :: ':' :: rest) ↔ isOpen) ∧ (IsQualified (c :: ':' :: rest) ↔ ¬isOpen) := by
  rw [isDriveRelative_colon_iff hletter, isQualified_colon_iff hletter hslash, ← h]
  simp

/-! ## Joined paths -/

/-- A normal form keeps a drive of two characters and the root behind it. -/
theorem exists_normalize_colon {c : Char} {rest : Text} (hslash : '/' ∉ c :: ':' :: rest) :
    ∃ below, normalize (c :: ':' :: rest) = c :: ':' :: below ∧ isRooted below = isRooted rest :=
  ⟨_, normalize_colon hslash, isRooted_driveNames _ fun hmem => hslash (by simp [hmem])⟩

theorem exists_normalize_share_eq {rest : Text} (hslash : '/' ∉ rest) :
    ∃ below, normalize (separator :: separator :: rest) = separator :: separator :: below := by
  obtain ⟨names, hne, -, -, heq⟩ :=
    exists_normalize_share (List.splitOn_ne_nil separator rest)
      fun name hmem => isSegment_of_mem_splitOn hslash hmem
  obtain ⟨name, names, rfl⟩ := List.exists_cons_of_ne_nil hne
  rw [joinBehind_splitOn] at heq
  exact ⟨_, heq⟩

/-- A path joined to a directory on a drive has a drive. -/
theorem splitDrive_join_ne_nil {c : Char} {front path : Text} (hfront : '/' ∉ c :: ':' :: front)
    (hslash : '/' ∉ path) : (splitDrive (join (c :: ':' :: front) path)).1 ≠ [] := by
  have hjoin := slash_not_mem_join hfront hslash
  rcases @join_colon_cases c front path hslash with
    ⟨rest, below, -, heq⟩ | ⟨d, rest, below, -, heq⟩ | ⟨-, heq⟩
  · rw [heq] at hjoin ⊢
    have hbelow : '/' ∉ below := fun hmem => hjoin (by simp [hmem])
    obtain ⟨others, hdrive⟩ := exists_splitDrive_share hbelow
    rw [hdrive]
    exact List.cons_ne_nil _ _
  · rw [heq, splitDrive_colon]
    exact List.cons_ne_nil _ _
  · rw [heq, splitDrive_colon]
    exact List.cons_ne_nil _ _

/-- Its normal form is settled therefore. -/
theorem normalize_normalize_join {c : Char} {front path : Text} (hfront : '/' ∉ c :: ':' :: front)
    (hslash : '/' ∉ path) :
    normalize (normalize (join (c :: ':' :: front) path)) =
      normalize (join (c :: ':' :: front) path) :=
  normalize_normalize_of_drive (slash_not_mem_join hfront hslash)
    (splitDrive_join_ne_nil hfront hslash)

/-- **A path joined to a directory on a drive**: a share stays one, and a path without drive gets
that of the directory and is rooted then if one of the two is. A drive of its own is left alone. -/
theorem normalize_join_colon {c : Char} {front path : Text} (hfront : '/' ∉ c :: ':' :: front)
    (hslash : '/' ∉ path) :
    (∃ rest below, path = separator :: separator :: rest ∧
        normalize (join (c :: ':' :: front) path) = separator :: separator :: below) ∨
      (∃ d rest, path = d :: ':' :: rest) ∨
      ∃ below, normalize (join (c :: ':' :: front) path) = c :: ':' :: below ∧
        isRooted below = (isRooted path || isRooted front) := by
  have hjoin := slash_not_mem_join hfront hslash
  rcases @join_colon_cases c front path hslash with
    ⟨rest, below, rfl, heq⟩ | ⟨d, rest, below, rfl, -⟩ | ⟨-, heq⟩
  · rw [heq] at hjoin ⊢
    have hbelow : '/' ∉ below := fun hmem => hjoin (by simp [hmem])
    obtain ⟨below', hnormal⟩ := exists_normalize_share_eq hbelow
    exact Or.inl ⟨rest, below', rfl, hnormal⟩
  · exact Or.inr (Or.inl ⟨d, rest, rfl⟩)
  · rw [heq] at hjoin ⊢
    obtain ⟨below, hnormal, hrooted⟩ := exists_normalize_colon hjoin
    refine Or.inr (Or.inr ⟨below, hnormal, ?_⟩)
    rw [hrooted]
    split
    · next hpath => rw [hpath, Bool.true_or]
    · next hpath =>
      have hpath := Bool.eq_false_iff.mpr hpath
      rw [isRooted_append hpath, hpath, Bool.false_or]

/-! ## Absolute forms -/

theorem exists_eq_colon_of_isAbsolute {path : Text} (h : isAbsolute path = true) :
    ∃ c rest, path = c :: ':' :: rest ∧ Text.isLetter c = true := by
  obtain ⟨c, hletter, hdrive⟩ := (isAbsolute_iff_isLetterDrive path).mp h
  have happend := splitDrive_append path
  rw [hdrive] at happend
  exact ⟨c, _, happend.symm, hletter⟩

/-- A converted path that begins with a drive letter is kept. -/
theorem isQualified_windowsForm {path : Text} (directory : Text)
    (h : isAbsolute (windowsForm path) = true) :
    (IsDriveRelative (windowsForm path) ↔ LeavesDirectoryOpen directory path) ∧
      (IsQualified (windowsForm path) ↔ ¬LeavesDirectoryOpen directory path) := by
  have hopen : IsDriveRelative (windowsForm path) ↔ LeavesDirectoryOpen directory path := by
    simp [LeavesDirectoryOpen, h]
  obtain ⟨c, rest, hpath, hletter⟩ := exists_eq_colon_of_isAbsolute h
  have hslash := slash_not_mem_windowsForm path
  rw [hpath] at hopen hslash ⊢
  rw [isDriveRelative_colon_iff hletter] at hopen
  exact isDriveRelative_and_isQualified_iff hletter (fun hmem => hslash (by simp [hmem])) hopen

/-- Any other converted path is joined to a directory on a drive. -/
theorem isQualified_normalize_join {directory path result : Text}
    (hpath : isAbsolute (windowsForm path) = false)
    (hdirectory : isAbsolute (windowsForm directory) = true)
    (hresult : normalize (join (windowsForm directory) (windowsForm path)) = result)
    (hother : ¬HasOtherDrive (windowsForm path)) :
    (IsDriveRelative result ↔ LeavesDirectoryOpen directory path) ∧
      (IsQualified result ↔ ¬LeavesDirectoryOpen directory path) := by
  obtain ⟨c, front, hbase, hletter⟩ := exists_eq_colon_of_isAbsolute hdirectory
  have hfront := slash_not_mem_windowsForm directory
  have hslash := slash_not_mem_windowsForm path
  have hopen : LeavesDirectoryOpen directory path ↔
      isRooted (windowsForm path) = false ∧ isRooted front = false := by
    rw [LeavesDirectoryOpen, hbase, isDriveRelative_colon_iff hletter]
    simp [hpath, IsDriveRelative]
  have hslash' : '/' ∉ result := by
    rw [← hresult]
    exact slash_not_mem_normalize (slash_not_mem_join hfront hslash)
  rw [hbase] at hfront hresult
  have hcases := normalize_join_colon hfront hslash
  rw [hresult] at hcases
  rcases hcases with ⟨rest, below, hshare, rfl⟩ | ⟨d, rest, hdrive⟩ | ⟨below, rfl, hrooted⟩
  · have hclosed : ¬LeavesDirectoryOpen directory path := by
      rw [hopen, hshare]
      rintro ⟨hunrooted, -⟩
      cases hunrooted
    exact ⟨iff_of_false (not_isDriveRelative_share below) hclosed, iff_of_true .share hclosed⟩
  · exact absurd ⟨d, rest, hdrive, hpath⟩ hother
  · refine isDriveRelative_and_isQualified_iff hletter (fun hmem => hslash' (by simp [hmem])) ?_
    rw [hopen, hrooted, Bool.or_eq_false_iff]

/-- **Absolute forms.** A path is refused for one of the four reasons, and all others have an
absolute form. It is its own normal form, unless the converted path begins with a drive letter and
has `.` directly behind it. It is qualified, unless the converted path or the directory leaves the
directory on its drive open. Nothing is said of a colon behind a character other than a letter. -/
theorem convertAbsolute_qualified (directory path : Text) :
    (∀ error, convertAbsolute directory path = .error error ↔ IsRefused directory path error) ∧
    ∀ result, convertAbsolute directory path = .ok result →
      (normalize result = result ↔
        ¬(isAbsolute (windowsForm path) = true ∧ StartsAtCurrent (windowsForm path))) ∧
      (¬HasOtherDrive (windowsForm path) →
        (IsDriveRelative result ↔ LeavesDirectoryOpen directory path) ∧
        (IsQualified result ↔ ¬LeavesDirectoryOpen directory path)) := by
  refine ⟨fun error => convertAbsolute_eq_error_iff, fun result hresult => ?_⟩
  obtain ⟨hne, -, ⟨hpath, rfl⟩ | ⟨hpath, -, hdirectory, hjoin⟩⟩ :=
    convertAbsolute_eq_ok_iff.mp hresult
  · refine ⟨?_, fun _ => isQualified_windowsForm directory hpath⟩
    rw [normalize_eq_self_iff_of_isNormalForm (slash_not_mem_windowsForm path)
      (isNormalForm_windowsForm hne)]
    simp [hpath]
  · refine ⟨?_, isQualified_normalize_join hpath hdirectory hjoin⟩
    obtain ⟨c, front, hbase, -⟩ := exists_eq_colon_of_isAbsolute hdirectory
    have hfront := slash_not_mem_windowsForm directory
    rw [hbase] at hfront hjoin
    have hsettled := normalize_normalize_join hfront (slash_not_mem_windowsForm path)
    rw [hjoin] at hsettled
    exact iff_of_true hsettled (by simp [hpath])

/-- A path with steps up against a directory in the form of shells. -/
theorem convertAbsolute_qualified_up :
    let directory := "/d/work/src".toList
    let path := "./../out//x".toList
    (∀ error, convertAbsolute directory path = .error error ↔ IsRefused directory path error) ∧
    convertAbsolute directory path = .ok "d:\\work\\out\\x".toList ∧
    ¬HasOtherDrive (windowsForm path) ∧
    (normalize "d:\\work\\out\\x" = "d:\\work\\out\\x".toList ↔
      ¬(isAbsolute (windowsForm path) = true ∧ StartsAtCurrent (windowsForm path))) ∧
    (IsDriveRelative "d:\\work\\out\\x" ↔ LeavesDirectoryOpen directory path) ∧
    (IsQualified "d:\\work\\out\\x" ↔ ¬LeavesDirectoryOpen directory path) := by
  intro directory path
  have hresult : convertAbsolute directory path = .ok "d:\\work\\out\\x".toList := by
    decide +kernel
  have hother : ¬HasOtherDrive (windowsForm path) := by
    have hpath : windowsForm path = "..\\out\\x".toList := rfl
    rintro ⟨c, rest, heq, -⟩
    rw [hpath] at heq
    simp at heq
  obtain ⟨hrefused, hform⟩ := convertAbsolute_qualified directory path
  obtain ⟨hnormal, hqualified⟩ := hform _ hresult
  exact ⟨hrefused, hresult, hother, hnormal, hqualified hother⟩

/-- Absolute forms that are not qualified, because the path or the directory leaves the directory on
its drive open or because the drive is no letter, and one that is not its own normal form. -/
theorem exists_convertAbsolute_not_qualified :
    ¬(∀ directory path result, convertAbsolute directory path = .ok result →
      IsQualified result) ∧
    ¬(∀ directory path result, convertAbsolute directory path = .ok result →
      normalize result = result) ∧
    convertAbsolute "D:\\work" "c:x" = .ok "c:x".toList ∧ ¬IsQualified "c:x" ∧
    convertAbsolute "D:work" "x" = .ok "D:work\\x".toList ∧ ¬IsQualified "D:work\\x" ∧
    convertAbsolute "D:\\work" "1:x" = .ok "1:x".toList ∧ ¬IsQualified "1:x" ∧
      isAbsolute "1:x" = false ∧
    convertAbsolute "D:\\work" "./c:./x" = .ok "c:.\\x".toList ∧
      normalize "c:.\\x" = "c:x".toList := by
  have hpath : convertAbsolute "D:\\work" "c:x" = .ok "c:x".toList := rfl
  have hdirectory : convertAbsolute "D:work" "x" = .ok "D:work\\x".toList := rfl
  have hcurrent : convertAbsolute "D:\\work" "./c:./x" = .ok "c:.\\x".toList := rfl
  have hnormal : normalize "c:.\\x" = "c:x".toList := rfl
  have hother : convertAbsolute "D:\\work" "1:x" = .ok "1:x".toList := rfl
  have hforeign : ¬IsQualified "1:x" := by
    rintro ⟨⟩
  have hopen : ¬IsQualified "c:x" := by
    rintro ⟨⟩
  have hopen' : ¬IsQualified "D:work\\x" := by
    rintro ⟨⟩
  refine ⟨fun h => hopen (h _ _ _ hpath), fun h => ?_, hpath, hopen, hdirectory, hopen', hother,
    hforeign, rfl, hcurrent, hnormal⟩
  have heq := (h _ _ _ hcurrent).symm.trans hnormal
  exact absurd heq (by decide)

end LaunchKit.Path
