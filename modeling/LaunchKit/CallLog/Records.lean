import LaunchKit.CallLog.Wording

/-!
# The call log around a handler

A handler takes a request in some monad and leaves a report. The call log stands before it: it
writes a record when a tool is called, hands the call on, and writes another record when the
handler has returned or failed. A signal passes without a record. Other messages than calls get
records of less weight, and each message is logged in one of the two ways only.

Rendering may fail on hostile values, and so may the measuring of a call by a hostile clock. What
fails before the call prevents it, and what fails behind it takes the place of its outcome. So does
what a logger raises that cannot write the failure of a tool.

## Main definitions

* `Timing`, `Duration`: the two readings of the clock around a call, and what is told of them.
* `ToolCall`: a tool with its arguments.
* `CallLog.opening`, `CallLog.settle`: what is logged before and behind a call.
* `CallLog.call`, `CallLog.message`: the log around a handler.
-/
namespace LaunchKit

/-- The readings of a clock before and behind a call, in seconds. -/
structure Timing where
  started : Number
  stopped : Number

/-- The milliseconds between the readings. -/
def Timing.milliseconds (timing : Timing) : Except Failure Number := do
  (← timing.stopped.minus timing.started).times (.whole 1000)

/-- The readings of a clock that stands still. -/
def Timing.still : Timing := ⟨.real (.zero false), .real (.zero false)⟩

/-- The duration of a call as it is logged. -/
structure Duration where
  isSlow : Bool
  text : Text
  deriving DecidableEq, Repr

/-- A call of a tool. A call that names none goes to an unknown one. Arguments are a mapping or
nothing. -/
structure ToolCall where
  name : Option Text := some "unknown"
  arguments : Value := .null

/-- The method of tool calls. -/
def toolCallMethod : Text := "tools/call"

namespace CallLog

/-! ## Records -/

/-- A record of the call log. -/
def record (level : Level) (message : Text) : Record := .saying level .calls message

/-- A payload in a record of its own. -/
def payloadRecord (label : String) (shown : Text) : Record :=
  record .debug ("    ".toList ++ label.toList ++ ": ".toList ++ shown)

/-- The record of a call, with its arguments as they are shown. -/
def callRecord (call : ToolCall) (shown : Text) : Record :=
  record .info (">>> TOOL: " ++ shownName call.name ++ shown)

/-- The duration between the readings of a clock. -/
def duration (log : CallLog) (timing : Timing) : Except Failure Duration := do
  let milliseconds ← timing.milliseconds
  return ⟨log.isSlow milliseconds, ← log.durationText milliseconds⟩

/-- The record of a result. A slow call weighs more. -/
def resultRecord (call : ToolCall) (duration : Duration) (result : Value) : Record :=
  record (if duration.isSlow then .warning else .info)
    ("<<< TOOL: " ++ shownName call.name ++ " -> ".toList ++ summary result ++ " [".toList ++
      duration.text ++ "]".toList)

/-- The record of a failed call. What the failure says is written with the record. -/
def failureRecord (call : ToolCall) (duration : Duration) (failure : Failure) : Record :=
  { level := .error
    source := .calls
    opening :=
      "!!! TOOL: " ++ shownName call.name ++ " -> ".toList ++ failure.kind.name ++ ": ".toList
    rest := (· ++ " [".toList ++ duration.text ++ "]".toList) <$> failure.text }

/-- The record of another message. -/
def messageRecord (method : Option Text) : Record :=
  record .debug (">>> MCP: " ++ shownName method)

/-- The record of another message that was handled. -/
def handledRecord (method : Option Text) (duration : Duration) : Record :=
  record .debug ("<<< MCP: " ++ shownName method ++ " [".toList ++ duration.text ++ "]".toList)

/-- Readings that are floating point numbers always have a duration. -/
@[simp] theorem duration_real (log : CallLog) (started stopped : Binary64) :
    log.duration ⟨.real started, .real stopped⟩ =
      let milliseconds := (stopped.sub started).mul (Binary64.ofFraction false 1000 1)
      .ok ⟨log.isSlow (.real milliseconds), log.took milliseconds⟩ := rfl

/-! ## Tool calls -/

variable [Room]

/-- Log a payload, if payloads are logged. -/
def logPayload (log : CallLog) (label : String) (payload : Value) : Report Unit :=
  if log.payloads then
    match log.truncated payload with
    | .ok shown => (Report.ofResult ()).after [payloadRecord label shown]
    | .error failure => .ofFailure failure
  else .ofResult ()

/-- What is logged before a call. -/
def opening (log : CallLog) (call : ToolCall) : Report Unit :=
  match argumentsText call.arguments with
  | .error failure => .ofFailure failure
  | .ok shown =>
    let payload :=
      if call.arguments.isPresent then log.logPayload "Args" call.arguments else .ofResult ()
    payload.after [callRecord call shown]

/-- The report of a handler with what is logged behind it. -/
def settle (log : CallLog) (logger : Logger) (timing : Timing) (call : ToolCall)
    (report : Report Value) : Report Value :=
  match report.outcome with
  | .ok result =>
    match log.duration timing with
    | .error failure => report.replacedBy failure
    | .ok duration =>
      let payload := if result.isNull then .ofResult () else log.logPayload "Result" result
      let report := report.followedBy (resultRecord call duration result :: payload.records)
      { report with outcome := payload.outcome.map fun _ => result }
  | .error failure =>
    if failure.kind.isSignal then report
    else
      match log.duration timing with
      | .error failure => report.replacedBy failure
      | .ok duration => report.logging logger (failureRecord call duration failure)

/-- The log around a handler of tool calls. -/
def call {m : Type → Type} [Monad m] (log : CallLog) (logger : Logger) (timing : Timing)
    (call : ToolCall) (next : ToolCall → m (Report Value)) : m (Report Value) :=
  let before := log.opening call
  match before.outcome with
  | .error failure => return ⟨.error failure, before.records, []⟩
  | .ok _ => return (log.settle logger timing call (← next call)).after before.records

omit [Room]

/-! ## Other messages -/

/-- The log around a handler of messages, which leaves tool calls alone. -/
def message {m : Type → Type} [Monad m] (log : CallLog) (timing : Timing) (method : Option Text)
    (next : m (Report Value)) : m (Report Value) :=
  if method = some toolCallMethod then next
  else do
    let report := (← next).after [messageRecord method]
    match report.outcome with
    | .ok _ =>
      match log.duration timing with
      | .error failure => return report.replacedBy failure
      | .ok duration => return report.followedBy [handledRecord method duration]
    | .error _ => return report

end CallLog
end LaunchKit
