import LaunchKit.Failure.System
import LaunchKit.Log
import LaunchKit.Template.Expand

/-!
# Diagnostics

Errors that are no failures of the operation at hand are reported on the error stream, one line
each; a fatal error ends the program behind its line. A failure of the operating system is kept
until somebody asks for it, and is then told in short.

## Main definitions

* `Diagnostics.line`: a line of the error stream.
* `Diagnostics.print`, `Diagnostics.die`: a report, and a report that ends the program.
* `Diagnostics.describe`: a failure of the system in short.
-/
namespace LaunchKit.Diagnostics

/-- What stands in front of every error on the error stream. -/
def opening : Text := "LAUNCHER ERROR: "

/-- A line of the error stream. -/
def line (message : Text) : Text := opening ++ message ++ ['\n']

variable [Room]

/-- The message of a template. Without arguments the template is the message. -/
def message (template : Text) (arguments : List Value) : Except TemplateError Text :=
  if arguments.isEmpty then .ok template else Template.expand template (.sequence arguments)

/-- Report an error and go on. -/
def print (template : Text) (arguments : List Value) : Report Unit :=
  match message template arguments with
  | .ok message => ⟨.ok (), [], line message⟩
  | .error error => .ofFailure error.toFailure

/-- The end of a program that says it went wrong. -/
def ending : Failure := .saying .programEnd "1"

/-- Report an error and end the program. -/
def die (template : Text) (arguments : List Value) : Report Unit :=
  let report := print template arguments
  match report.outcome with
  | .ok _ => { report with outcome := .error ending }
  | .error _ => report

/-- A failure of the system in short; nothing is said of no failure. -/
def describe : Option Failure → Except Failure Text
  | none => .ok []
  | some failure => failure.describe

end LaunchKit.Diagnostics
