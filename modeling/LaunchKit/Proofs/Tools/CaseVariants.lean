import LaunchKit.Proofs.Path.Recased
import LaunchKit.Proofs.Tools.ErrorAnswers

/-!
# Answers for paths that differ in case

With case folded, the tool for relative paths works on the converted paths in lower case, and on
nothing else of what it was given: the answer, the line for the error stream and the record are all
made of these. Two calls whose paths differ in the case of ASCII letters cannot be told apart.

A path that cannot be converted would be told in the answer as it was given. Without a null
character there is no such path.

## Main statements

* `Tools.relateConverted_eq_of_isCaseVariant`: the report about two paths.
* `Tools.relativePath_eq_of_isCaseVariant`: the tool.
-/
namespace LaunchKit.Tools

open Text (IsCaseVariant)

variable {path path' base base' : Text}

/-- Both paths are converted to the same in lower case. -/
theorem convertBoth_eq_of_isCaseVariant (hpath : IsCaseVariant path path')
    (hbase : IsCaseVariant base base') (hnull : '\x00' ∉ path) (hnull' : '\x00' ∉ base) :
    convertBoth true path' base' = convertBoth true path base := by
  have hfirst := Path.convertFolded_eq_of_isCaseVariant hpath hnull
  have hsecond := Path.convertFolded_eq_of_isCaseVariant hbase hnull'
  simp only [convertBoth, if_true, hfirst, hsecond]

/-- The report about two paths is the same. -/
theorem relateConverted_eq_of_isCaseVariant (hpath : IsCaseVariant path path')
    (hbase : IsCaseVariant base base') (hnull : '\x00' ∉ path) (hnull' : '\x00' ∉ base) :
    relateConverted true path' base' = relateConverted true path base := by
  rw [relateConverted, relateConverted, convertBoth_eq_of_isCaseVariant hpath hbase hnull hnull']

/-- What the tool leaves, with case folded: the report about the two paths behind the records of
the settings. -/
theorem relativePath_of_lowercasePaths {environment : Environment} {cache : SettingsCache}
    (hfolds : (cache.fetch environment).1.lowercasePaths = true) (path base : Text) :
    relativePath environment path base true cache =
      ((relateConverted true path base).after (cache.fetch environment).2.1,
        (cache.fetch environment).2.2) := by
  have hrun : relativePath environment path base true cache =
      ((relateConverted (cache.fetch environment).1.lowercasePaths path base).after
        (cache.fetch environment).2.1, (cache.fetch environment).2.2) := rfl
  rw [hrun, hfolds]

/-- **Two calls of the tool that differ in the case of ASCII letters** give one answer, one text for
the error stream and the same records, whatever the settings are that fold case. The records of
loading the settings, and the settings that are kept, do not depend on the paths at all. -/
theorem relativePath_eq_of_isCaseVariant (hpath : IsCaseVariant path path')
    (hbase : IsCaseVariant base base') (hnull : '\x00' ∉ path) (hnull' : '\x00' ∉ base) :
    ∃ answer records diagnostics, ∀ (environment : Environment) (cache : SettingsCache),
      (cache.fetch environment).1.lowercasePaths = true →
        relativePath environment path base true cache =
            (⟨.ok answer, (cache.fetch environment).2.1 ++ records, diagnostics⟩,
              (cache.fetch environment).2.2) ∧
          relativePath environment path' base' true cache =
            (⟨.ok answer, (cache.fetch environment).2.1 ++ records, diagnostics⟩,
              (cache.fetch environment).2.2) := by
  have hsame := relateConverted_eq_of_isCaseVariant hpath hbase hnull hnull'
  obtain ⟨answer, hanswer, -⟩ := isError_relateConverted_iff path base
  cases hreport : relateConverted true path base with
  | mk outcome records diagnostics =>
    rw [hreport] at hanswer hsame
    cases hanswer
    refine ⟨answer, records, diagnostics, fun environment cache hfolds => ?_⟩
    rw [relativePath_of_lowercasePaths hfolds, relativePath_of_lowercasePaths hfolds, hsame,
      hreport]
    exact ⟨rfl, rfl⟩

/-- Two directories in two spellings each, for the settings of an environment that says nothing. -/
theorem relativePath_eq_of_isCaseVariant_drive :
    let environment : Environment := ⟨[]⟩
    (SettingsCache.fetch none environment).1.lowercasePaths = true ∧
      ∃ answer records diagnostics kept,
        relativePath environment "/C/ΟΔΟΣ/Old" "c:\\Work" true none =
            (⟨.ok answer, records, diagnostics⟩, kept) ∧
          relativePath environment "/c/ΟΔΟΣ/oLD" "C:\\wORK" true none =
            (⟨.ok answer, records, diagnostics⟩, kept) := by
  intro environment
  have hfolds : (SettingsCache.fetch none environment).1.lowercasePaths = true := by
    decide +kernel
  have hpath : IsCaseVariant "/C/ΟΔΟΣ/Old" "/c/ΟΔΟΣ/oLD" := by decide
  have hbase : IsCaseVariant "c:\\Work" "C:\\wORK" := by decide
  obtain ⟨answer, records, diagnostics, hrun⟩ :=
    relativePath_eq_of_isCaseVariant hpath hbase (by decide) (by decide)
  exact ⟨hfolds, answer, _, diagnostics, _, hrun environment none hfolds⟩

end LaunchKit.Tools
