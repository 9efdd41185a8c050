import LaunchKit.Proofs.Path.Absolute
import LaunchKit.Proofs.Path.Relative

/-!
# Which paths have no way between them

Two paths may have different roots: different drives, or one drive with a separator behind it on one
side only. Only drive letters are told apart. Where a drive letter stands on one side and another
drive or none on the other, there is no way. Roots that differ in anything else, two shares say, or
a rooted path and a relative one, are compared like all other text.

## Main definitions

* `Path.rootOf`: the drive of a path, and whether a separator stands behind it.

## Main statements

* `Path.mismatchCause?_eq_none_iff_drive`: no drive letter stands against another drive.
* `Path.mismatch_iff_of_rootOf_ne`: which converted paths with different roots have no way.
-/
namespace LaunchKit.Path

/-- The drive of a path, and whether a separator stands behind it. -/
def rootOf (path : Text) : Text × Bool := ((splitDrive path).1, isRooted (splitDrive path).2)

/-- Two drive letters are the same if the paths begin alike. -/
theorem head?_eq_iff_of_isLetterDrive {path base : Text}
    (hpath : IsLetterDrive (splitDrive path).1) (hbase : IsLetterDrive (splitDrive base).1) :
    path.head? = base.head? ↔ (splitDrive path).1 = (splitDrive base).1 := by
  obtain ⟨c, -, hc⟩ := hpath
  obtain ⟨d, -, hd⟩ := hbase
  have hpathHead : path.head? = some c := by
    rw [← splitDrive_append path, hc]
    rfl
  have hbaseHead : base.head? = some d := by
    rw [← splitDrive_append base, hd]
    rfl
  rw [hpathHead, hbaseHead, hc, hd]
  simp

/-- **No way is refused** unless a drive letter stands against another drive or none. -/
theorem mismatchCause?_eq_none_iff_drive {path base : Text} :
    mismatchCause? path base = none ↔
      ((splitDrive path).1 ≠ (splitDrive base).1 →
        ¬IsLetterDrive (splitDrive path).1 ∧ ¬IsLetterDrive (splitDrive base).1) := by
  rw [mismatchCause?_eq_none_iff]
  by_cases hpath : IsLetterDrive (splitDrive path).1
  · have hpathAbsolute := (isAbsolute_iff_isLetterDrive path).mpr hpath
    by_cases hbase : IsLetterDrive (splitDrive base).1
    · have hbaseAbsolute := (isAbsolute_iff_isLetterDrive base).mpr hbase
      simp [hpathAbsolute, hbaseAbsolute, head?_eq_iff_of_isLetterDrive hpath hbase, hpath]
    · have hbaseRelative : isAbsolute base = false := by
        rw [Bool.eq_false_iff, ne_eq, isAbsolute_iff_isLetterDrive]
        exact hbase
      have hne : (splitDrive path).1 ≠ (splitDrive base).1 := fun heq => hbase (heq ▸ hpath)
      simp [hpathAbsolute, hbaseRelative, hne, hpath]
  · have hpathRelative : isAbsolute path = false := by
      rw [Bool.eq_false_iff, ne_eq, isAbsolute_iff_isLetterDrive]
      exact hpath
    by_cases hbase : IsLetterDrive (splitDrive base).1
    · have hbaseAbsolute := (isAbsolute_iff_isLetterDrive base).mpr hbase
      have hne : (splitDrive path).1 ≠ (splitDrive base).1 := fun heq => hpath (heq ▸ hbase)
      simp [hpathRelative, hbaseAbsolute, hne, hbase]
    · have hbaseRelative : isAbsolute base = false := by
        rw [Bool.eq_false_iff, ne_eq, isAbsolute_iff_isLetterDrive]
        exact hbase
      simp [hpathRelative, hbaseRelative, hpath, hbase]

/-- A mismatch is the only failure, and it has a cause. -/
theorem exists_mismatch_iff {path base : Text} :
    (∃ cause, relative path base = .error ⟨cause, path, base⟩) ↔
      (splitDrive path).1 ≠ (splitDrive base).1 ∧
        (IsLetterDrive (splitDrive path).1 ∨ IsLetterDrive (splitDrive base).1) := by
  have hcauses : (∃ cause, relative path base = .error ⟨cause, path, base⟩) ↔
      mismatchCause? path base ≠ none := by
    constructor
    · rintro ⟨cause, herror⟩
      obtain ⟨_, hcause, -⟩ := relative_eq_error_iff.mp herror
      simp [hcause]
    · intro hne
      obtain ⟨cause, hcause⟩ := Option.ne_none_iff_exists'.mp hne
      exact ⟨cause, relative_eq_error_iff.mpr ⟨cause, hcause, rfl⟩⟩
  rw [hcauses, ne_eq, mismatchCause?_eq_none_iff_drive, Classical.not_imp,
    Classical.not_and_iff_not_or_not, Classical.not_not, Classical.not_not]

/-- **Paths with different roots.** Of two converted paths with different roots there is no way from
one to the other exactly when their drives differ and one of them at least is a drive letter. All
others have a way, and so have all paths with one root. -/
theorem mismatch_iff_of_rootOf_ne {p b : Text} (hp : '\x00' ∉ p) (hb : '\x00' ∉ b) :
    ∃ path base, convert p = .ok path ∧ convert b = .ok base ∧
      (rootOf path ≠ rootOf base →
        ((∃ cause, relative path base = .error ⟨cause, path, base⟩) ↔
          (splitDrive path).1 ≠ (splitDrive base).1 ∧
            (IsLetterDrive (splitDrive path).1 ∨ IsLetterDrive (splitDrive base).1))) ∧
      (rootOf path = rootOf base → ∃ way, relative path base = .ok way) := by
  refine ⟨windowsForm p, windowsForm b, convert_eq_ok_iff.mpr ⟨hp, rfl⟩,
    convert_eq_ok_iff.mpr ⟨hb, rfl⟩, fun _ => exists_mismatch_iff, fun hroot => ?_⟩
  have hdrive := congrArg Prod.fst hroot
  cases hrelative : relative (windowsForm p) (windowsForm b) with
  | ok way => exact ⟨way, rfl⟩
  | error mismatch =>
    obtain ⟨cause, -, rfl⟩ := relative_eq_error_iff.mp hrelative
    exact absurd hdrive (exists_mismatch_iff.mp ⟨cause, hrelative⟩).1

/-- A share against a drive letter. -/
theorem mismatch_iff_share_letter :
    let p := "//srv/data/x".toList
    let b := "/c/work".toList
    '\x00' ∉ p ∧ '\x00' ∉ b ∧
      ∃ path base, convert p = .ok path ∧ convert b = .ok base ∧
        (rootOf path ≠ rootOf base →
          ((∃ cause, relative path base = .error ⟨cause, path, base⟩) ↔
            (splitDrive path).1 ≠ (splitDrive base).1 ∧
              (IsLetterDrive (splitDrive path).1 ∨ IsLetterDrive (splitDrive base).1))) ∧
        (rootOf path = rootOf base → ∃ way, relative path base = .ok way) := by
  intro p b
  have hp : '\x00' ∉ p := by decide
  have hb : '\x00' ∉ b := by decide
  exact ⟨hp, hb, mismatch_iff_of_rootOf_ne hp hb⟩

/-- Different roots alone are no mismatch: a rooted path and a relative one, two shares, and one
drive with and without a separator behind it have a way between them. -/
theorem exists_way_of_rootOf_ne :
    ¬(∀ p b path base, p ≠ [] → b ≠ [] → '\x00' ∉ p → '\x00' ∉ b →
      convert p = .ok path → convert b = .ok base → rootOf path ≠ rootOf base →
        ∃ cause, relative path base = .error ⟨cause, path, base⟩) ∧
    relative "\\foo" "bar" = .ok "..\\\\foo".toList ∧
    relative "\\\\a\\b\\x" "\\\\c\\d\\y" = .ok "..\\..\\..\\a\\b\\x".toList ∧
    relative "c:\\x" "c:y" = .ok "..\\c:\\x".toList := by
  refine ⟨fun h => ?_, rfl, rfl, rfl⟩
  obtain ⟨cause, herror⟩ := h "/foo" "bar" "\\foo" "bar" (by decide) (by decide) (by decide)
    (by decide) rfl rfl (by decide)
  have hway : relative "\\foo" "bar" = .ok "..\\\\foo".toList := rfl
  rw [hway] at herror
  cases herror

end LaunchKit.Path
