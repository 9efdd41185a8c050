import LaunchKit.Calendar
import LaunchKit.Console.Highlight
import LaunchKit.Failure.Trace
import LaunchKit.Template.Expand

/-!
# Log lines

A log entry is shown on one line: the time of day with milliseconds and the date, the level, the
component and the message, between bars. A failure that is attached follows on lines of its own.

## Main definitions

* `Console.Entry`: what is logged.
* `Console.levelLook`: the name and the appearance of a level.
* `Console.line`: the line of an entry.
-/
namespace LaunchKit.Console

/-- What is logged: by whom, how heavy, the template of the message with its arguments, the time in
seconds and milliseconds, and a failure. Any number may serve as a level, and any value as a
template by the text that displays it. -/
structure Entry where
  name : Text
  level : Value
  template : Value
  arguments : List Value := []
  seconds : Int
  milliseconds : Number := .whole 0
  failure : Option Failure := none

/-- The levels that have a name, with their names and appearances. -/
def knownLevels : List (Int × String × Paint) :=
  [(50, "CRITICAL", alarm), (40, "ERROR", brightRed), (30, "WARNING", brightYellow),
    (20, "INFO", brightGreen), (10, "DEBUG", brightBlack), (0, "NOTSET", white)]

variable [Room]

/-- The numbers of the levels by their names, of which two are names of one level. -/
def levelNumbers : List (String × Int) :=
  [("CRITICAL", 50), ("FATAL", 50), ("ERROR", 40), ("WARN", 30), ("WARNING", 30), ("INFO", 20),
    ("DEBUG", 10), ("NOTSET", 0)]

/-- The number of the level that a value names. -/
def levelNumber? : Value → Option Int
  | .text name => (levelNumbers.find? fun known => known.1.toList == name).map Prod.snd
  | _ => none

/-- What fills the name of a level that has none. -/
def levelArguments : Value → List Value
  | .tuple items => items
  | level => [level]

/-- The name and the appearance of a level. A level that is given by its name is called by its
number, and one without a name by what displays it. -/
def levelLook (level : Value) : Except Failure (Text × Paint) :=
  match level.noKey?, knownLevels.find? fun known => level.sameKey (.int known.1) with
  | some className, _ => .error (.unhashable className)
  | none, some (_, name, paint) => .ok (name.toList, paint)
  | none, none =>
    match levelNumber? level with
    | some n => .ok (Numeral.ofInt n, white)
    | none => do
      let shown := Template.expand "Level %s" (.sequence (levelArguments level))
      return (← shown.mapError TemplateError.toFailure, white)

/-- The beginning of the names of this program's components, which is not shown. -/
def packageOpening : Text := "launcher_mcp."

/-- The appearances of the components whose names begin so. -/
def componentPaints : List (String × Paint) :=
  [("launcher_mcp.server", brightCyan), ("launcher_mcp.tools", brightBlue),
    ("launcher_mcp.middleware", yellow), ("launcher_mcp.config", green),
    ("launcher_mcp.utils", cyan)]

/-- The appearance of a component. -/
def componentPaint (name : Text) : Paint :=
  let found := componentPaints.find? fun entry => (Text.dropOpening? entry.1 name).isSome
  (found.map Prod.snd).getD white

/-- The name of a component as it is shown. -/
def componentName (name : Text) : Text := (Text.dropOpening? packageOpening name).getD name

/-- The whole part of a count of milliseconds, in three digits or more. -/
def millisecondText (milliseconds : Number) : Except Failure Text := do
  let value : Value := match milliseconds with
    | .whole n => .int n
    | .real x => .float x
  let n ← (Template.wholePart 'd' value).mapError TemplateError.toFailure
  let digits ← (Value.writtenInt n.natAbs).mapError RenderError.toFailure
  return if n < 0 then '-' :: Text.padLeft '0' 2 digits else Text.padLeft '0' 3 digits

/-- The time of an entry in a zone: `HH:MM:SS.mmm MM/DD`. -/
def timestamp (zone : Calendar.Zone) (entry : Entry) : Except Failure Text := do
  let moment ← (Calendar.moment entry.seconds zone).mapError Calendar.Unshowable.toFailure
  let milliseconds ← millisecondText entry.milliseconds
  return moment.clock ++ '.' :: milliseconds ++ ' ' :: moment.date

/-- The message of an entry. Without arguments the template is the message. -/
def Entry.message (entry : Entry) : Except Failure Text := do
  let template ← entry.template.display.mapError RenderError.toFailure
  if entry.arguments.isEmpty then return template
  else
    Except.mapError TemplateError.toFailure
      (Template.expand template (Template.argumentsOf entry.arguments))

/-- The line of an entry in a zone. -/
def line (useColors : Bool) (zone : Calendar.Zone) (entry : Entry) : Except Failure Text := do
  let (levelName, levelPaint) ← levelLook entry.level
  let time ← timestamp zone entry
  let message ← entry.message
  let bar := ' ' :: paintIf useColors dim ['|'] ++ [' ']
  let level := paintIf useColors levelPaint (Text.padRight 8 levelName)
  let component :=
    paintIf useColors (componentPaint entry.name) (Text.padRight 20 (componentName entry.name))
  let body := paintIf useColors dim time ++ bar ++ level ++ bar ++ component ++ bar ++
    highlight useColors message
  match entry.failure with
  | none => return body
  | some failure => return body ++ '\n' :: (← failure.report)

end LaunchKit.Console
