import LaunchKit.Proofs.CommandLine.Distinct
import LaunchKit.Proofs.Outcome
import LaunchKit.Proofs.Path.Shares
import LaunchKit.Proofs.Text.Lowered
import LaunchKit.Tools

/-!
# Answers that tell of errors

A tool answers with a text in any case, so a client can tell an error from a result by nothing but
its beginning. A written argument cannot be mistaken for an error: where it holds the blank that an
error has, it is opened by a quote. A command line can, but only when its first argument spells the
beginning of an error and another one follows. A way between folded paths has no capital letter.

## Main definitions

* `Tools.IsError`: an answer that a client takes for an error.

## Main statements

* `IsQuoting.isError_append_iff`: what is taken for an error behind a written argument.
* `Path.mem_of_mem_relative`: the characters of a way.
* `Tools.isError_answer_iff`: which answers of the tools are taken for errors.
-/
namespace LaunchKit

namespace Tools

/-- What every error begins with. -/
def errorOpening : Text := "Error: "

/-- The word before the blank of that. -/
def errorWord : Text := "Error:"

/-- An answer that a client takes for an error. -/
def IsError (answer : Text) : Prop := errorOpening <+: answer

theorem isError_errorAnswer (message : Text) : IsError (errorAnswer message) :=
  List.prefix_append _ _

theorem IsError.head? {answer : Text} (h : IsError answer) : answer.head? = some 'E' := by
  obtain ⟨rest, rfl⟩ := h
  rfl

theorem IsError.takeWhile {answer : Text} (h : IsError answer) :
    answer.takeWhile (· ≠ ' ') = errorWord := by
  obtain ⟨rest, rfl⟩ := h
  rfl

end Tools

/-! ## Arguments and command lines -/

open Tools

namespace IsQuoting

variable {write : Text → Text} {IsQuoted : Text → Prop}

/-- A line is taken for an error when its first argument is written as the word before the blank,
and there is another one. -/
theorem isError_append_iff (h : IsQuoting write IsQuoted) {argument rest : Text}
    (hrest : IsBreak rest) :
    IsError (write argument ++ rest) ↔ write argument = errorWord ∧ rest ≠ [] := by
  constructor
  · intro herror
    have hbare : ¬IsQuoted argument := by
      rw [← h.head?_append_iff argument rest, herror.head?]
      decide
    have hword : write argument = errorWord := by
      rw [← h.takeWhile_append hbare hrest, herror.takeWhile]
    refine ⟨hword, fun hnil => ?_⟩
    rw [hnil, List.append_nil, hword] at herror
    exact absurd herror.length_le (by decide)
  · rintro ⟨hword, hne⟩
    obtain ⟨c, rest, rfl⟩ := List.exists_cons_of_ne_nil hne
    have hc : c = ' ' := hrest c rfl
    rw [hword, hc]
    exact ⟨rest, rfl⟩

/-- An argument alone is never taken for an error. -/
theorem not_isError (h : IsQuoting write IsQuoted) (argument : Text) :
    ¬IsError (write argument) := by
  intro herror
  rw [← List.append_nil (write argument)] at herror
  exact ((h.isError_append_iff isBreak_nil).mp herror).2 rfl

/-- Only one argument is written as the word that is written as itself. -/
theorem eq_errorWord_iff (h : IsQuoting write IsQuoted) (hself : write errorWord = errorWord)
    (argument : Text) : write argument = errorWord ↔ argument = errorWord := by
  refine ⟨fun heq => ?_, fun heq => heq ▸ hself⟩
  refine (h.append_inj isBreak_nil isBreak_nil ?_).1
  rw [heq, hself]

end IsQuoting

namespace Style

theorem escape_errorWord (style : Style) : style.escape errorWord = errorWord := by
  cases style <;> decide

theorem isError_commandLine_iff (style : Style) (arguments : List Text) :
    IsError (style.commandLine arguments) ↔
      ∃ second others, arguments = errorWord :: second :: others := by
  cases arguments with
  | nil =>
    refine iff_of_false (fun herror => ?_) (by simp)
    cases herror.head?
  | cons first others =>
    rw [commandLine_cons, style.isQuoting_escape.isError_append_iff (style.isBreak_behind others),
      style.isQuoting_escape.eq_errorWord_iff style.escape_errorWord]
    cases others <;> simp

/-- Which names are names of styles. -/
theorem named_cases (name : Text) :
    (∃ style, named name = .ok style) ∧ (name = "windows".toList ∨ name = "bash".toList) ∨
      named name = .error ⟨name⟩ ∧ name ≠ "windows".toList ∧ name ≠ "bash".toList := by
  by_cases hwindows : name = "windows".toList
  · exact Or.inl ⟨⟨.windows, hwindows ▸ named_name .windows⟩, Or.inl hwindows⟩
  · by_cases hbash : name = "bash".toList
    · exact Or.inl ⟨⟨.bash, hbash ▸ named_name .bash⟩, Or.inr hbash⟩
    · have hnone : all.find? (fun style => style.name == name) = none := by
        refine List.find?_eq_none.mpr fun style _ heq => ?_
        cases style with
        | windows => exact hwindows (beq_iff_eq.mp heq).symm
        | bash => exact hbash (beq_iff_eq.mp heq).symm
      refine Or.inr ⟨?_, hwindows, hbash⟩
      rw [named, hnone]

end Style

/-! ## Ways -/

/-- The characters of a way are those of the path, apart from steps up and separators. -/
theorem Path.mem_of_mem_relative {path base way : Text} (h : relative path base = .ok way)
    {c : Char} (hc : c ∈ way) : c ∈ path ∨ c = '.' ∨ c = separator := by
  have hnone : mismatchCause? path base = none := by
    cases hcause : mismatchCause? path base with
    | none => rfl
    | some cause =>
      rw [relative, hcause] at h
      cases h
  rw [relative_of_mismatchCause?_eq_none hnone] at h
  obtain ⟨common, hpath, -⟩ :=
    exists_append_of_dropCommon (path.splitOn separator) (base.splitOn separator)
  rw [← Except.ok.inj h] at hc
  simp only [relativeBySegments, upAndDown] at hc
  rcases mem_of_mem_intercalate hc with hsep | ⟨part, hpart, hmem⟩
  · exact Or.inr (Or.inr hsep)
  rcases List.mem_append.mp hpart with hup | hdown
  · rw [List.eq_of_mem_replicate hup] at hmem
    have hdot : c = '.' := by simpa [parent] using hmem
    exact Or.inr (Or.inl hdot)
  · split at hdown
    · cases hdown
    · rw [List.mem_singleton.mp hdown] at hmem
      rcases mem_of_mem_intercalate hmem with hsep | ⟨name, hname, hmem⟩
      · exact Or.inr (Or.inr hsep)
      · have hsegment : name ∈ path.splitOn separator := by
          rw [hpath]
          exact List.mem_append_right common hname
        exact Or.inl (mem_of_mem_splitOn hsegment hmem)

theorem Text.capital_not_mem_lower (text : Text) : 'E' ∉ lower text := fun h =>
  absurd (isLowered_of_mem_lowerAfter h).2 (by decide)

namespace Tools

/-- A way between folded paths is not taken for an error. -/
theorem not_isError_relative {path base way : Text}
    (h : Path.relative (Text.lower path) base = .ok way) : ¬IsError way := by
  intro herror
  rcases Path.mem_of_mem_relative h (List.mem_of_mem_head? herror.head?) with hmem | hdot | hsep
  · exact Text.capital_not_mem_lower path hmem
  · exact absurd hdot (by decide)
  · exact absurd hsep (by decide)

/-- What keeps the tool for relative paths from finding a way between folded paths: one of them
cannot be converted, or they do not belong together. -/
def Fails (path base : Text) : Prop :=
  (∃ error, Path.convertFolded path = .error error ∨ Path.convertFolded base = .error error) ∨
    ∃ path' base' mismatch, Path.convertFolded path = .ok path' ∧
      Path.convertFolded base = .ok base' ∧ Path.relative path' base' = .error mismatch

/-- Both paths are converted, or one of them is not. -/
theorem convertBoth_cases (path base : Text) :
    (∃ error, convertBoth true path base = .error error ∧
      (Path.convertFolded path = .error error ∨ Path.convertFolded base = .error error)) ∨
    ∃ path' base', convertBoth true path base = .ok (path', base') ∧
      Path.convertFolded path = .ok path' ∧ Path.convertFolded base = .ok base' := by
  have hboth : convertBoth true path base = (Path.convertFolded path >>= fun path' =>
      Path.convertFolded base >>= fun base' => .ok (path', base')) := rfl
  rw [hboth]
  cases hpath : Path.convertFolded path with
  | error error => exact Or.inl ⟨error, rfl, Or.inl rfl⟩
  | ok path' =>
    cases hbase : Path.convertFolded base with
    | error error => exact Or.inl ⟨error, rfl, Or.inr rfl⟩
    | ok base' => exact Or.inr ⟨path', base', rfl, rfl, rfl⟩

/-- What is converted with case folded is in lower case. -/
theorem exists_lower_eq {path folded : Text} (h : Path.convertFolded path = .ok folded) :
    ∃ converted, Text.lower converted = folded := by
  obtain ⟨converted, -, hlower⟩ := map_eq_ok_iff.mp h
  exact ⟨converted, hlower⟩

/-- The answer about two folded paths is taken for an error when it is one. -/
theorem isError_relateConverted_iff (path base : Text) :
    ∃ answer, (relateConverted true path base).outcome = .ok answer ∧
      (IsError answer ↔ Fails path base) := by
  rw [relateConverted]
  rcases convertBoth_cases path base with
    ⟨error, hboth, herror⟩ | ⟨path', base', hboth, hpath, hbase⟩
  · rw [hboth]
    exact ⟨_, rfl, iff_of_true (isError_errorAnswer _) (Or.inl ⟨error, herror⟩)⟩
  · rw [hboth]
    dsimp only
    rw [relatePaths]
    cases hway : Path.relative path' base' with
    | error mismatch =>
      refine ⟨_, rfl, iff_of_true (isError_errorAnswer _) ?_⟩
      exact Or.inr ⟨path', base', mismatch, hpath, hbase, hway⟩
    | ok way =>
      obtain ⟨converted, rfl⟩ := exists_lower_eq hpath
      refine ⟨way, rfl, iff_of_false (not_isError_relative hway) ?_⟩
      rintro (⟨error, hfailed | hfailed⟩ |
        ⟨path'', base'', mismatch, hpath', hbase', hfailed⟩)
      · rw [hpath] at hfailed
        cases hfailed
      · rw [hbase] at hfailed
        cases hfailed
      · rw [hpath] at hpath'
        rw [hbase] at hbase'
        cases hpath'
        cases hbase'
        rw [hway] at hfailed
        cases hfailed

/-! ## All answers -/

/-- **Which answers are taken for errors.** Of an argument, those for a style that does not exist.
Of a command line, those as well, and the lines that begin with an argument that spells the
beginning of an error and go on with another. Of two paths that are converted with case folded,
those that tell of a conversion that failed or of paths that do not belong together; the tool
answers in any case. -/
theorem isError_answer_iff :
    (∀ argument style, IsError (escapeArgument argument style) ↔
      style ≠ "windows".toList ∧ style ≠ "bash".toList) ∧
    (∀ arguments style, IsError (commandLine arguments style) ↔
      (style ≠ "windows".toList ∧ style ≠ "bash".toList) ∨
        ∃ second others, arguments = errorWord :: second :: others) ∧
    ∀ environment (cache : SettingsCache) path base,
      (cache.fetch environment).1.lowercasePaths = true →
        ∃ answer, (relativePath environment path base true cache).1.outcome = .ok answer ∧
          (IsError answer ↔ Fails path base) := by
  refine ⟨fun argument name => ?_, fun arguments name => ?_,
    fun environment cache path base h => ?_⟩
  · rw [escapeArgument]
    rcases Style.named_cases name with ⟨⟨style, hstyle⟩, hname⟩ | ⟨hunknown, hname⟩
    · rw [hstyle]
      refine iff_of_false (style.isQuoting_escape.not_isError argument) fun hne => ?_
      exact hname.elim hne.1 hne.2
    · rw [hunknown]
      exact iff_of_true (isError_errorAnswer _) hname
  · rw [commandLine]
    rcases Style.named_cases name with ⟨⟨style, hstyle⟩, hname⟩ | ⟨hunknown, hname⟩
    · rw [hstyle]
      have hknown : ¬(name ≠ "windows".toList ∧ name ≠ "bash".toList) := fun hne =>
        hname.elim hne.1 hne.2
      rw [or_iff_right hknown]
      exact style.isError_commandLine_iff arguments
    · rw [hunknown]
      exact iff_of_true (isError_errorAnswer _) (Or.inl hname)
  · have hanswer : (relativePath environment path base true cache).1.outcome =
        (relateConverted (cache.fetch environment).1.lowercasePaths path base).outcome := rfl
    rw [hanswer, h]
    exact isError_relateConverted_iff path base

/-- Two drives do not belong together, and the settings that the environment describes fold case. -/
theorem isError_answer_iff_folded :
    let environment : Environment := ⟨[("LAUNCHER_LOWERCASE_PATHS", "yes")]⟩
    (SettingsCache.fetch none environment).1.lowercasePaths = true ∧
      ∃ answer, (relativePath environment "C:\\a" "D:\\b" true none).1.outcome = .ok answer ∧
        IsError answer := by
  intro environment
  have hfolds : (SettingsCache.fetch none environment).1.lowercasePaths = true := by
    decide +kernel
  refine ⟨hfolds, ?_⟩
  obtain ⟨answer, hanswer, herror⟩ :=
    isError_answer_iff.2.2 environment none "C:\\a" "D:\\b" hfolds
  refine ⟨answer, hanswer, herror.mpr (Or.inr ?_)⟩
  exact ⟨"c:\\a", "d:\\b", _, rfl, rfl, rfl⟩

end Tools
end LaunchKit
