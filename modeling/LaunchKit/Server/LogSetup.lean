import LaunchKit.Log
import LaunchKit.Server.LogNames
import LaunchKit.Settings

/-!
# The setup of the log

Which records are shown, and where. The settings name the level from which on records count; a name
that means nothing to the log leaves the usual level, and one that means no level is refused.
The first setup adds the handler that writes to the terminal, later ones keep it as it is. The logs
of the libraries that the server is made of are always kept quiet.

## Main definitions

* `LogSetup`: the state of the log.
* `LogSetup.levelOf`: the level of a name.
* `LogSetup.configure`: the setup for given settings.
* `LogSetup.filter`: the records that are shown.
* `LogSetup.logger`: the logger.
-/
namespace LaunchKit

/-- The state of the log: its level, whether each of its handlers writes in colour, and whether
records are handed on. -/
structure LogSetup where
  level : Threshold := .number Level.debug.number
  handlers : List Bool := []
  propagate : Bool := true

namespace LogSetup

/-! ## Levels by name -/

/-- The level of a name. A name that means nothing to the log leaves the usual level. -/
def levelOf (name : Text) : Except NoLevel Threshold :=
  match LogName.find? name with
  | some (.level threshold) => .ok threshold
  | some (.other noLevel) => .error noLevel
  | none => .ok (.number Level.info.number)

/-! ## Setup -/

/-- The names of the logs that are kept quiet. -/
def quietLogs : List Text :=
  ["uvicorn", "uvicorn.access", "uvicorn.error", "httpx", "httpcore", "fastmcp", "starlette",
    "anyio"].map String.toList

/-- The level of the logs that are kept quiet. -/
def quietLevel : Int := Level.warning.number

/-- The setup for given settings, with an error stream that is a terminal or is none. -/
def configure (setup : LogSetup) (settings : Settings) (isTerminal : Bool) :
    Except NoLevel LogSetup := do
  let level ← levelOf settings.logLevel
  if setup.handlers.isEmpty then
    return ⟨level, [settings.logColors && isTerminal], false⟩
  else return { setup with level }

/-! ## Filtering -/

/-- The level that counts: a log without one takes the level of the logs above it. -/
def effectiveLevel (setup : LogSetup) : Int :=
  if setup.level.toInt = 0 then Level.warning.number else setup.level.toInt

/-- Whether a record is shown. -/
def shows (setup : LogSetup) (record : Record) : Bool :=
  setup.effectiveLevel ≤ record.level.number

/-- The logger that a setup makes. A message that is nested too deeply to be written is raised by
whatever writes it; other failures to write one are reported where the log is written. -/
def logger (setup : LogSetup) : Logger :=
  { shows := setup.shows
    raises := fun
      | .nestedTooDeeply _ => true
      | .tooManyDigits => false }

/-- The report without the records that are not shown. -/
def filter {α : Type} (setup : LogSetup) (report : Report α) : Report α :=
  { report with records := report.records.filter setup.shows }

end LogSetup
end LaunchKit
