import LaunchKit.Failure.Basic

/-!
# Log records and reports

Nothing in this library writes to a log or to a stream. An operation returns, beside its outcome,
the records that it logged, in order, and the text that it sent to the error stream; whoever runs
it decides what becomes of them.

The message of a record is written when the record is shown, and may then turn out to have no
written form. Whether whoever logs the record gets to know is up to the logger.

## Main definitions

* `Level`, `Source`, `Record`: log records.
* `Record.message`: what a record says.
* `Logger`: which records are shown, and which failures to write them are raised.
* `Report`: an outcome with its records and its diagnostics.
* `Report.logging`: a report behind which a record is logged.
-/
namespace LaunchKit

/-- The weight of a record. -/
inductive Level where
  | debug
  | info
  | warning
  | error
  deriving DecidableEq, Repr

/-- The name of a level. -/
def Level.name : Level → Text
  | .debug => "DEBUG"
  | .info => "INFO"
  | .warning => "WARNING"
  | .error => "ERROR"

/-- The number of a level, by which records are filtered. -/
def Level.number : Level → Int
  | .debug => 10
  | .info => 20
  | .warning => 30
  | .error => 40

/-- The part of the program that logs. -/
inductive Source where
  | settings
  | environment
  | files
  | tools
  | errors
  | calls
  | server
  | entry
  deriving DecidableEq, Repr

/-- The name under which a part of the program logs. -/
def Source.name : Source → Text
  | .settings => "launcher_mcp.config.settings"
  | .environment => "launcher_mcp.utils.env"
  | .files => "launcher_mcp.utils.fs"
  | .tools => "launcher_mcp.tools.launcher"
  | .errors => "launcher_mcp.middleware.errors"
  | .calls => "launcher_mcp.middleware.logging"
  | .server => "launcher_mcp.server"
  | .entry => "launcher_mcp.__main__"

/-- One log record. Its message opens with words that are known when it is logged; what comes behind
them is written when it is shown. -/
structure Record where
  level : Level
  source : Source
  opening : Text
  rest : Except RenderError Text := .ok []

namespace Record

/-- The record of a message that is known when it is logged. -/
def saying (level : Level) (source : Source) (message : Text) : Record :=
  ⟨level, source, message, .ok []⟩

/-- What a record says. -/
def message (record : Record) : Except RenderError Text := (record.opening ++ ·) <$> record.rest

@[simp] theorem message_saying (level : Level) (source : Source) (message : Text) :
    (saying level source message).message = .ok message :=
  congrArg Except.ok (List.append_nil message)

end Record

/-! ## Loggers -/

/-- What becomes of records: which of them are shown, and which failures to write a message are
raised where the record is logged. Other failures to write one are overlooked. -/
structure Logger where
  shows : Record → Bool
  raises : RenderError → Bool

/-- The failure that logging a record raises, if it does. -/
def Logger.failure? (logger : Logger) (record : Record) : Option Failure :=
  match record.message with
  | .ok _ => none
  | .error error =>
    if logger.shows record && logger.raises error then some error.toFailure else none

/-- A message that can be written raises nothing. -/
theorem Logger.failure?_of_message_eq_ok (logger : Logger) {record : Record} {message : Text}
    (h : record.message = .ok message) : logger.failure? record = none := by
  rw [Logger.failure?, h]

/-! ## Reports -/

/-- A name as records show it, for what may come without one. -/
def shownName (name : Option Text) : Text := name.getD "None"

/-- What an operation leaves: its outcome, its log records in order, and its diagnostics. -/
structure Report (α : Type) where
  outcome : Except Failure α
  records : List Record := []
  diagnostics : Text := []

namespace Report

variable {α : Type}

/-- A result, and nothing else. -/
def ofResult (result : α) : Report α := ⟨.ok result, [], []⟩

/-- A failure, and nothing else. -/
def ofFailure (failure : Failure) : Report α := ⟨.error failure, [], []⟩

/-- The report behind records that were logged before. -/
def after (report : Report α) (records : List Record) : Report α :=
  { report with records := records ++ report.records }

/-- The report with records that are logged behind it. -/
def followedBy (report : Report α) (records : List Record) : Report α :=
  { report with records := report.records ++ records }

/-- The report with a failure in the place of its outcome. -/
def replacedBy (report : Report α) (failure : Failure) : Report α :=
  { report with outcome := .error failure }

/-- The report behind which a record is logged. What logging raises takes the place of the
outcome. -/
def logging (report : Report α) (logger : Logger) (record : Record) : Report α :=
  match logger.failure? record with
  | none => report.followedBy [record]
  | some failure => (report.followedBy [record]).replacedBy failure

@[simp] theorem records_after (report : Report α) (records : List Record) :
    (report.after records).records = records ++ report.records := rfl

@[simp] theorem records_followedBy (report : Report α) (records : List Record) :
    (report.followedBy records).records = report.records ++ records := rfl

/-- A record is logged, whether its message can be written or not. -/
@[simp] theorem records_logging (report : Report α) (logger : Logger) (record : Record) :
    (report.logging logger record).records = report.records ++ [record] := by
  unfold logging
  split <;> rfl

/-- Logging that raises nothing adds the record. -/
theorem logging_of_failure?_eq_none (report : Report α) {logger : Logger} {record : Record}
    (h : logger.failure? record = none) :
    report.logging logger record = report.followedBy [record] := by
  rw [logging, h]

end Report
end LaunchKit
