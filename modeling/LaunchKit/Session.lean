import LaunchKit.Diagnostics
import LaunchKit.FileTree.Delete
import LaunchKit.Server.Handlers
import LaunchKit.Server.Launch
import LaunchKit.Server.LogSetup
import LaunchKit.Tools

/-!
# Sessions

What one process remembers between operations, and the operations that remember or recall
something. All that depends on its arguments alone is not here. The records of an operation pass
through the setup of the log that is in force.

## Main definitions

* `Session`: what is remembered.
* `Session.shown`: a report as the log shows it.
* `Session.loadSettings`, `Session.settings`, …: the operations.
-/
namespace LaunchKit

/-- A refused conversion, as a failure. -/
def PathError.toFailure (error : PathError) : Failure :=
  .saying (.rejection .pathConversion) error.message

/-- What a process remembers: its environment, the settings in use, the last failure of the system,
the error tally, the setup of the log, and the files. -/
structure Session where
  environment : Environment := {}
  cache : SettingsCache := none
  lastFailure : Option Failure := none
  includeTrace : Bool := false
  tally : ErrorTally := {}
  log : LogSetup := {}
  files : FileTree := {}

namespace Session

variable {α : Type}

/-- The report as the log shows it. -/
def shown (report : Report α) : StateM Session (Report α) := fun session =>
  (session.log.filter report, session)

/-! ## Environment -/

/-- Set variables by the system. -/
def putVariables (entries : List (RawText × RawText)) :
    StateM Session (Report Unit) := fun session =>
  let (outcome, environment) := session.environment.putAll entries
  (⟨outcome.mapError Environment.StoreError.toFailure, [], []⟩, { session with environment })

/-- Remove a variable. -/
def eraseVariable (name : RawText) : StateM Session (Report Unit) := fun session =>
  let (outcome, environment) := session.environment.remove name
  (⟨outcome.mapError Environment.StoreError.toFailure, [], []⟩, { session with environment })

/-- Set a variable within the limits. -/
def assignVariable (name value : RawText) : StateM Session (Report Bool) := fun session =>
  let (report, environment) := session.environment.assign name value
  shown report { session with environment }

/-- The value of a variable within the limits. -/
def readVariable (name : RawText) : StateM Session (Report (Option RawText)) := do
  shown ((← get).environment.read name)

/-! ## Settings -/

/-- The settings of the environment with further variables, whatever settings are in use. -/
def loadSettings (entries : List (RawText × RawText)) : StateM Session (Report Settings) := do
  let stored ← putVariables entries
  match stored.outcome with
  | .error failure => return .ofFailure failure
  | .ok _ =>
    let (settings, records) := Settings.ofEnvironment (← get).environment
    shown ((Report.ofResult settings).after records)

/-- The settings in use. -/
def settings : StateM Session (Report Settings) := fun session =>
  let (settings, records, cache) := session.cache.fetch session.environment
  shown ((Report.ofResult settings).after records) { session with cache }

/-- Use these settings from now on. -/
def useSettings (settings : Settings) : StateM Session (Report Unit) := fun session =>
  (.ofResult (), { session with cache := some settings })

/-- Load the settings again when they are asked for next. -/
def forgetSettings : StateM Session (Report Unit) := fun session =>
  (.ofResult (), { session with cache := none })

/-! ## Failures of the system -/

/-- Remember a failure, or forget the last one. -/
def remember (failure : Option Failure) : StateM Session (Report Unit) := fun session =>
  (.ofResult (), { session with lastFailure := failure })

/-- A failure in short, or else the last one. -/
def describeFailure [Room] (failure : Option Failure) :
    StateM Session (Report Text) := fun session =>
  (⟨Diagnostics.describe (failure.or session.lastFailure), [], []⟩, session)

/-! ## Files -/

/-- Whether a path leads to an entry of a kind. -/
def existsAs (kind : EntryKind) (path : RawText) : StateM Session (Report Bool) := fun session =>
  (.ofResult (session.files.existsAs kind path), session)

/-- Delete an entry of a kind and remember a refusal. -/
def delete (kind : EntryKind) (path : RawText) : StateM Session (Report Bool) := fun session =>
  let (report, files, refusal) := session.files.delete kind path
  shown report { session with files, lastFailure := refusal.or session.lastFailure }

/-- The absolute form of a path with respect to a directory, or else the working directory. The
latter is asked for only where it is needed, and may be one that was removed. -/
def absolutePath (directory : Option Text) (path : Text) : StateM Session (Except Failure Text) :=
  fun session =>
    let answer (directory : Text) := Path.convertAbsolute directory path
    let answer := match directory, session.files.workingPath with
      | some directory, _ => (answer directory).mapError PathError.toFailure
      | none, .ok directory =>
        (answer (RawText.decode directory).shown).mapError PathError.toFailure
      | none, .error error => (answer []).mapError fun
        | .notOnDrive .. => .ofSystem error.code error.reason none
        | refused => refused.toFailure
    (answer, session)

/-! ## Handlers -/

/-- The report of a handler that does nothing but return or fail. -/
def handlerReport (outcome : Except Failure Value) : Report Value :=
  ⟨outcome.mapError Failure.leavingTask, [], []⟩

/-- A tool call under a call log. -/
def logCall [Room] (log : CallLog) (timing : Timing) (call : ToolCall)
    (outcome : Except Failure Value) : StateM Session (Report Value) := do
  let logger := (← get).log.logger
  shown (← log.call logger timing call fun _ => return handlerReport outcome)

/-- A message under a call log. -/
def logMessage (log : CallLog) (timing : Timing) (method : Option Text)
    (outcome : Except Failure Value) : StateM Session (Report Value) := do
  shown (← log.message timing method (return handlerReport outcome))

/-- Start a new error tally. -/
def newTally (includeTrace : Bool) : StateM Session (Report Unit) := fun session =>
  (.ofResult (), { session with includeTrace, tally := {} })

/-- Empty the error tally. -/
def resetTally : StateM Session (Report Unit) := fun session =>
  (.ofResult (), { session with tally := {} })

/-- The counts of the error tally. -/
def tallied : StateM Session (Report (List (Text × Nat))) := fun session =>
  (.ofResult session.tally.counts, session)

/-- A message under the error tally. -/
def tallyMessage [Room] (method : Option Text) (outcome : Except Failure Value) :
    StateM Session (Report Value) := fun session =>
  let next : StateT ErrorTally Id (Report Value) := return handlerReport outcome
  let message := ErrorTally.message session.includeTrace session.log.logger method next
  let (report, tally) := message.run session.tally
  shown report { session with tally }

/-! ## Tools and servers -/

/-- The tool for relative paths. -/
def relativePath (path base : Text) (normalize : Bool) : StateM Session (Report Text) :=
  fun session =>
    let (report, cache) :=
      Tools.relativePath session.environment path base normalize session.cache
    shown report { session with cache }

/-- Set up the log, which has these texts under its names or shows them so. -/
def configureLog (shown : Text → Text) (settings : Settings) (isTerminal : Bool) :
    StateM Session (Report LogSetup) := fun session =>
  match session.log.configure settings isTerminal with
  | .ok log => (.ofResult log, { session with log })
  | .error refused => (.ofFailure (refused.toFailure shown), session)

/-- Show the records from a level on. -/
def setLevel (level : Level) : StateM Session Unit :=
  modify fun session => { session with log := { session.log with level := .number level.number } }

/-- A server for the given settings, or else for those in use. -/
def createServer (given : Option Settings) : StateM Session (Report Server) := do
  let loaded ← match given with
    | some settings => pure (.ofResult settings)
    | none => settings
  match loaded.outcome with
  | .error failure => return (Report.ofFailure failure).after loaded.records
  | .ok settings => return (← shown (Server.create settings)).after loaded.records

/-- The answer of a server to whether it is healthy. -/
def checkHealth (client : Option Text) : StateM Session (Report Text) :=
  shown (Server.checkHealth client)

/-- Run a server. -/
def start : StateM Session (Report Launch) := fun session =>
  let (report, cache) := Launch.start session.environment session.cache
  shown report { session with cache }

end Session
end LaunchKit
