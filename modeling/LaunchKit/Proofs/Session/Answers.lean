import LaunchKit.Proofs.Path.Repeated
import LaunchKit.Proofs.Template.Shown
import LaunchKit.Session

/-!
# What the tool for relative paths leaves

The tool answers in any case, and there are three kinds of answers: a path could not be converted,
the two paths do not belong together, or there is a way from one to the other. Each has effects of
its own, by which it can be told from the others: the second is the only one that writes to the
error stream, and the third the only one that logs a record itself. Beyond that a call changes
nothing in its session, apart from settings that a conversion asks for and that are loaded then.

## Main definitions

* `Tools.comparedForm`: the form in which two paths are compared.
* `Tools.refusalReport`, `Tools.mismatchReport`, `Tools.wayReport`: the three kinds of answers.
* `Tools.reported`: what a call reports, apart from loading settings.

## Main statements

* `Tools.reported_eq_refusalReport_iff`, `Tools.reported_eq_mismatchReport_iff`,
  `Tools.reported_eq_wayReport_iff`: when each answer is given.
* `Session.relativePath_answers`: the tool in a session.
-/
namespace LaunchKit

/-- A mismatch as a value: no more than its message is ever shown of it. -/
def Mismatch.toValue (mismatch : Mismatch) : Value :=
  .object (Kind.rejection .inputMismatch).name mismatch.message none

namespace Tools

/-! ## Kinds of answers -/

/-- The form in which the tool compares paths: their Windows form, in lower case or not, or the form
that they have. -/
def comparedForm (normalize fold : Bool) (path : Text) : Text :=
  if normalize then
    if fold then Text.lower (Path.windowsForm path) else Path.windowsForm path
  else path

/-- A path with a null character is told in the answer, and nowhere else. -/
def refusalReport (path : Text) : Report Text :=
  ⟨.ok ("Error: ".toList ++ (PathError.nullCharacter path).message), [], []⟩

/-- Two paths that do not belong together are told in the answer, and on the error stream. -/
def mismatchReport (mismatch : Mismatch) : Report Text :=
  ⟨.ok ("Error: ".toList ++ mismatch.message), [],
    "LAUNCHER ERROR: ".toList ++ mismatch.message ++ ['\n']⟩

/-- A way is the answer, and is logged in one record for debugging. -/
def wayReport (path base way : Text) : Report Text := ⟨.ok way, [foundRecord path base way], []⟩

/-- One cause is told from the other, whatever the paths are. -/
theorem mismatchReport_inj {path base : Text} {cause cause' : MismatchCause}
    (h : mismatchReport ⟨cause, path, base⟩ = mismatchReport ⟨cause', path, base⟩) :
    cause = cause' := by
  have hline := List.append_cancel_right (congrArg Report.diagnostics h)
  have htext : cause.message ++ "\npath = ".toList ++ path ++ "\nbase = ".toList ++ base =
      cause'.message ++ "\npath = ".toList ++ path ++ "\nbase = ".toList ++ base :=
    List.append_cancel_left hline
  have hmessage : cause.message = cause'.message := by simpa using htext
  have hne : MismatchCause.onlyOneAbsolute.message ≠ MismatchCause.differentDrives.message := by
    decide
  match cause, cause' with
  | .onlyOneAbsolute, .onlyOneAbsolute => rfl
  | .onlyOneAbsolute, .differentDrives => exact absurd hmessage hne
  | .differentDrives, .onlyOneAbsolute => exact absurd hmessage.symm hne
  | .differentDrives, .differentDrives => rfl

theorem mismatchReport_ne_wayReport (mismatch : Mismatch) (path base way : Text) :
    mismatchReport mismatch ≠ wayReport path base way := fun h => nomatch congrArg Report.records h

theorem refusalReport_ne_mismatchReport (refused : Text) (mismatch : Mismatch) :
    refusalReport refused ≠ mismatchReport mismatch := fun h =>
  nomatch congrArg Report.diagnostics h

theorem refusalReport_ne_wayReport (refused path base way : Text) :
    refusalReport refused ≠ wayReport path base way := fun h => nomatch congrArg Report.records h

/-! ## Two paths that are compared -/

/-- Two paths are related in one of two ways. -/
theorem relatePaths_cases (path base : Text) :
    (∃ cause, Path.relative path base = .error ⟨cause, path, base⟩ ∧
      relatePaths path base = mismatchReport ⟨cause, path, base⟩) ∨
    ∃ way, Path.relative path base = .ok way ∧ relatePaths path base = wayReport path base way := by
  cases hway : Path.relative path base with
  | error mismatch =>
    obtain ⟨cause, -, rfl⟩ := Path.relative_eq_error_iff.mp hway
    refine Or.inl ⟨cause, rfl, ?_⟩
    rw [relatePaths, hway]
    rfl
  | ok way =>
    refine Or.inr ⟨way, rfl, ?_⟩
    rw [relatePaths, hway]
    rfl

theorem relatePaths_eq_mismatchReport_iff {path base : Text} {cause : MismatchCause} :
    relatePaths path base = mismatchReport ⟨cause, path, base⟩ ↔
      Path.relative path base = .error ⟨cause, path, base⟩ := by
  rcases relatePaths_cases path base with ⟨cause', hway, hreport⟩ | ⟨way, hway, hreport⟩
  · rw [hway, hreport]
    constructor
    · intro h
      rw [mismatchReport_inj h]
    · intro h
      rw [Except.error.inj h]
  · rw [hway, hreport]
    exact iff_of_false (mismatchReport_ne_wayReport _ _ _ _).symm nofun

theorem relatePaths_eq_wayReport_iff {path base way : Text} :
    relatePaths path base = wayReport path base way ↔ Path.relative path base = .ok way := by
  rcases relatePaths_cases path base with ⟨cause, hway, hreport⟩ | ⟨way', hway, hreport⟩
  · rw [hway, hreport]
    exact iff_of_false (mismatchReport_ne_wayReport _ _ _ _) nofun
  · rw [hway, hreport]
    constructor
    · intro h
      rw [Except.ok.inj (congrArg Report.outcome h)]
    · intro h
      rw [Except.ok.inj h]

theorem relatePaths_ne_refusalReport (path base refused : Text) :
    relatePaths path base ≠ refusalReport refused := by
  rcases relatePaths_cases path base with ⟨cause, -, hreport⟩ | ⟨way, -, hreport⟩
  · rw [hreport]
    exact (refusalReport_ne_mismatchReport _ _).symm
  · rw [hreport]
    exact (refusalReport_ne_wayReport _ _ _ _).symm

/-! ## A call of the tool -/

/-- Paths that cannot be compared: they are to be converted, and one of them holds a null
character. -/
def IsRefused (normalize : Bool) (path base : Text) : Prop :=
  normalize = true ∧ ('\x00' ∈ path ∨ '\x00' ∈ base)

instance (normalize : Bool) (path base : Text) : Decidable (IsRefused normalize path base) :=
  inferInstanceAs (Decidable (_ ∧ _))

/-- What a call reports, apart from loading settings. -/
def reported (normalize fold : Bool) (path base : Text) : Report Text :=
  if IsRefused normalize path base then refusalReport (if '\x00' ∈ path then path else base)
  else relatePaths (comparedForm normalize fold path) (comparedForm normalize fold base)

/-- A path is converted to the form in which it is compared, unless it holds a null character. -/
theorem convert_comparedForm {path : Text} (hnull : '\x00' ∉ path) (fold : Bool) :
    (if fold then Path.convertFolded else Path.convert) path =
      .ok (comparedForm true fold path) := by
  cases fold with
  | true => exact Path.convertFolded_eq hnull
  | false => exact Path.convert_eq_ok_iff.mpr ⟨hnull, rfl⟩

theorem convert_of_null {path : Text} (hnull : '\x00' ∈ path) (fold : Bool) :
    (if fold then Path.convertFolded else Path.convert) path = .error (.nullCharacter path) := by
  have hconvert : Path.convert path = .error (.nullCharacter path) := if_pos hnull
  cases fold with
  | true =>
    change (Path.convert path).map Text.lower = _
    rw [hconvert]
    rfl
  | false => exact hconvert

theorem relateConverted_eq_reported (fold : Bool) (path base : Text) :
    relateConverted fold path base = reported true fold path base := by
  have hboth : convertBoth fold path base =
      ((if fold then Path.convertFolded else Path.convert) path >>= fun path' =>
        (if fold then Path.convertFolded else Path.convert) base >>= fun base' =>
          .ok (path', base')) := rfl
  rw [relateConverted, hboth, reported]
  by_cases hpath : '\x00' ∈ path
  · have hrefused : IsRefused true path base := ⟨rfl, Or.inl hpath⟩
    rw [convert_of_null hpath, if_pos hrefused, if_pos hpath]
    rfl
  · rw [convert_comparedForm hpath, if_neg hpath]
    by_cases hbase : '\x00' ∈ base
    · have hrefused : IsRefused true path base := ⟨rfl, Or.inr hbase⟩
      rw [convert_of_null hbase, if_pos hrefused]
      rfl
    · have hcompared : ¬IsRefused true path base := fun h => h.2.elim hpath hbase
      rw [convert_comparedForm hbase, if_neg hcompared]
      rfl

variable {normalize fold : Bool} {path base : Text}

/-- **A path is refused** exactly when it is to be converted and holds a null character. -/
theorem reported_eq_refusalReport_iff :
    reported normalize fold path base = refusalReport (if '\x00' ∈ path then path else base) ↔
      IsRefused normalize path base := by
  rw [reported]
  by_cases h : IsRefused normalize path base
  · rw [if_pos h]
    exact iff_of_true rfl h
  · rw [if_neg h]
    exact iff_of_false (relatePaths_ne_refusalReport _ _ _) h

/-- **Two paths are told not to belong together** exactly when they are compared and do not. -/
theorem reported_eq_mismatchReport_iff {cause : MismatchCause} :
    let path' := comparedForm normalize fold path
    let base' := comparedForm normalize fold base
    reported normalize fold path base = mismatchReport ⟨cause, path', base'⟩ ↔
      ¬IsRefused normalize path base ∧
        Path.relative path' base' = .error ⟨cause, path', base'⟩ := by
  intro path' base'
  rw [reported]
  by_cases h : IsRefused normalize path base
  · rw [if_pos h]
    exact iff_of_false (refusalReport_ne_mismatchReport _ _) fun hboth => hboth.1 h
  · rw [if_neg h, and_iff_right h]
    exact relatePaths_eq_mismatchReport_iff

/-- **A way is answered** exactly when the paths are compared and there is this way. -/
theorem reported_eq_wayReport_iff {way : Text} :
    let path' := comparedForm normalize fold path
    let base' := comparedForm normalize fold base
    reported normalize fold path base = wayReport path' base' way ↔
      ¬IsRefused normalize path base ∧ Path.relative path' base' = .ok way := by
  intro path' base'
  rw [reported]
  by_cases h : IsRefused normalize path base
  · rw [if_pos h]
    exact iff_of_false (refusalReport_ne_wayReport _ _ _ _) fun hboth => hboth.1 h
  · rw [if_neg h, and_iff_right h]
    exact relatePaths_eq_wayReport_iff

/-- A call answers in any case. -/
theorem exists_outcome_reported (normalize fold : Bool) (path base : Text) :
    ∃ answer, (reported normalize fold path base).outcome = .ok answer := by
  rw [reported]
  split
  · exact ⟨_, rfl⟩
  · rcases relatePaths_cases (comparedForm normalize fold path) (comparedForm normalize fold base)
      with ⟨cause, -, hreport⟩ | ⟨way, -, hreport⟩
    · rw [hreport]
      exact ⟨_, rfl⟩
    · rw [hreport]
      exact ⟨_, rfl⟩

/-! ## Templates -/

/-- A mismatch on the error stream, by the template of all errors. -/
theorem print_toValue [Room] (mismatch : Mismatch) :
    Diagnostics.print "%s" [mismatch.toValue] =
      ⟨.ok (), [], (mismatchReport mismatch).diagnostics⟩ :=
  Diagnostics.print_display (Value.display_object _ _ _)

open Template in

/-- The record of a way is its template, with the texts in their places. -/
theorem expand_foundRecord [Room] (path base way : Text) :
    ∃ text, expand "Relative path from %s to %s: %r"
        (.sequence [.text base, .text path, .text way]) = .ok text ∧
      (foundRecord path base way).message = .ok text := by
  have hparse : parse "Relative path from %s to %s: %r" =
      "Relative path from ".toList.map .literal ++
        .directive { conversion := some 's', place := 20 } :: (" to ".toList.map .literal ++
          .directive { conversion := some 's', place := 26 } :: (": ".toList.map .literal ++
            [.directive { conversion := some 'r', place := 30 }])) := by decide
  let arguments : TemplateArguments := .sequence [.text base, .text path, .text way]
  have hend := expandPieces_directive
    (expandDirective_of_convert (convert_literal (Value.literal_text way) 30) [])
    (rfl : expandPieces arguments [] [] = .ok ([], []))
  have hpath := expandPieces_directive
    (expandDirective_of_convert (convert_display (Value.display_text path) 26) [.text way])
    (expandPieces_literals hend ": ".toList)
  have hbase := expandPieces_directive
    (expandDirective_of_convert (convert_display (Value.display_text base) 20)
      [.text path, .text way])
    (expandPieces_literals hpath " to ".toList)
  have hpieces := expandPieces_literals hbase "Relative path from ".toList
  rw [← hparse] at hpieces
  refine ⟨_, expand_of_expandPieces hpieces, ?_⟩
  rw [foundRecord, Record.message_saying]
  simp

end Tools

namespace Session

open Tools

/-- A call in a session: what it reports behind the warnings of loading settings, and the session
with the settings that were loaded. -/
theorem relativePath_eq (session : Session) (path base : Text) (normalize : Bool) :
    let loaded := Settings.ofEnvironment session.environment
    let loads := normalize && session.cache.isNone
    relativePath path base normalize session =
      (session.log.filter
        ((reported normalize (session.cache.getD loaded.1).lowercasePaths path base).after
          (if loads then loaded.2 else [])),
        { session with cache := if loads then some loaded.1 else session.cache }) := by
  intro loaded loads
  cases normalize with
  | false =>
    have hreported (fold : Bool) : reported false fold path base = relatePaths path base :=
      if_neg fun h => nomatch h.1
    rw [hreported]
    rfl
  | true =>
    have hrun : relativePath path base true session =
        (session.log.filter ((relateConverted
            (session.cache.fetch session.environment).1.lowercasePaths path base).after
          (session.cache.fetch session.environment).2.1),
          { session with cache := (session.cache.fetch session.environment).2.2 }) := rfl
    rw [hrun, relateConverted_eq_reported]
    obtain ⟨environment, cache⟩ := session
    cases cache <;> rfl

/-- **The tool for relative paths** answers in any session and changes nothing there, but for
settings that were not in use: where paths are to be converted, they are loaded from the environment
and kept. Behind the warnings of that stands one of three reports. A null character in a path that
is to be converted is told in the answer alone. Paths that do not belong together, in the form in
which they are compared, are told in the answer and on the error stream in the same words. Otherwise
the way between them is the answer, and is logged in one record. The report says which it is, not
the answer, since a way may read like an error. The line of the error stream and the record are
those of their templates, whatever signs the paths hold. -/
theorem relativePath_answers [Room] (session : Session) (path base : Text) (normalize : Bool) :
    let loaded := Settings.ofEnvironment session.environment
    let loads := normalize && session.cache.isNone
    let form := comparedForm normalize (session.cache.getD loaded.1).lowercasePaths
    ∃ report,
      relativePath path base normalize session =
        (session.log.filter (report.after (if loads then loaded.2 else [])),
          { session with cache := if loads then some loaded.1 else session.cache }) ∧
      (∃ answer, report.outcome = .ok answer) ∧
      (report = refusalReport (if '\x00' ∈ path then path else base) ↔
        IsRefused normalize path base) ∧
      (∀ cause, report = mismatchReport ⟨cause, form path, form base⟩ ↔
        ¬IsRefused normalize path base ∧
          Path.relative (form path) (form base) = .error ⟨cause, form path, form base⟩) ∧
      (∀ way, report = wayReport (form path) (form base) way ↔
        ¬IsRefused normalize path base ∧ Path.relative (form path) (form base) = .ok way) ∧
      (∀ cause, let mismatch : Mismatch := ⟨cause, form path, form base⟩
        Diagnostics.print "%s" [mismatch.toValue] =
          ⟨.ok (), [], (mismatchReport mismatch).diagnostics⟩) ∧
      ∀ way, ∃ text, Template.expand "Relative path from %s to %s: %r"
          (.sequence [.text (form base), .text (form path), .text way]) = .ok text ∧
        (foundRecord (form path) (form base) way).message = .ok text := by
  intro loaded loads form
  exact ⟨reported normalize (session.cache.getD loaded.1).lowercasePaths path base,
    relativePath_eq session path base normalize, exists_outcome_reported _ _ _ _,
    reported_eq_refusalReport_iff, fun cause => reported_eq_mismatchReport_iff,
    fun way => reported_eq_wayReport_iff, fun cause => print_toValue _,
    fun way => expand_foundRecord _ _ way⟩

end Session
end LaunchKit
