import LaunchKit.CallLog.Records
import LaunchKit.Proofs.Outcome

/-!
# What the call log logs

The call log stands before the handlers of tool calls and before those of other messages. What it
logs of a message depends on its configuration and on the outcome alone: one record when the message
arrives, one when it has been handled, and payloads where they are wanted. A failure of a tool is
logged unless it is a signal, even if what it says cannot be written, and a result weighs more when
its record ends in the mark of slow calls. No message is logged in both places.

## Main definitions

* `CallLog.Opens`, `CallLog.Says`: a record of a level that begins with some words, and one that can
  also be written.
* `CallLog.AreOpening`, `CallLog.IsClosing`: what is logged before and behind a call.
* `CallLog.handled`: what is logged around another message.

## Main statements

* `CallLog.message_logged`: the records of all messages.
-/
namespace LaunchKit.CallLog

/-! ## Records -/

/-- A record of the call log at a level, which begins with some words. -/
structure Opens (level : Level) (words : Text) (record : Record) : Prop where
  level_eq : record.level = level
  source_eq : record.source = .calls
  isPrefix : words <+: record.opening

/-- A record that begins with some words and can be written. -/
structure Says (level : Level) (words : Text) (record : Record) : Prop
    extends Opens level words record where
  written : ∃ text, record.message = .ok text

/-- A record begins with the words that it was made of first. -/
theorem says_record (level : Level) (words rest : Text) :
    Says level words (record level (words ++ rest)) :=
  ⟨⟨rfl, rfl, List.prefix_append words rest⟩, _, Record.message_saying ..⟩

/-- What a record says, if it can be written, begins with the words. -/
theorem Opens.isPrefix_message {level : Level} {words : Text} {record : Record}
    (h : Opens level words record) {text : Text} (htext : record.message = .ok text) :
    words <+: text := by
  obtain ⟨rest, -, rfl⟩ := map_eq_ok_iff.mp htext
  exact h.isPrefix.trans (List.prefix_append _ _)

/-- One such record where it is wanted, and none where it is not. -/
structure OneIf (wanted : Prop) (IsSuch : Record → Prop) (records : List Record) : Prop where
  one : wanted → ∃ record, records = [record] ∧ IsSuch record
  none : ¬wanted → records = []

/-- What the record of a slow call ends in. -/
def slowMark : Text := "SLOW!]"

/-- The record of a result weighs more when it ends in the mark of slow calls, and only then. -/
def IsResultRecord (record : Record) : Prop :=
  ∃ text, record.message = .ok text ∧
    Opens (if slowMark <:+ text then .warning else .info) "<<< TOOL: " record

/-- What is logged before a call: the call, and behind it arguments that are there, as a payload. -/
def AreOpening (log : CallLog) (arguments : Value) (records : List Record) : Prop :=
  ∃ first payload, records = first :: payload ∧ Says .info ">>> TOOL: " first ∧
    OneIf (log.payloads = true ∧ arguments.isPresent = true) (Says .debug "    Args: ") payload

/-- What is logged behind a call: a result, and behind it what is not nothing, as a payload; or a
failure that is no signal. -/
inductive IsClosing (log : CallLog) : Except Failure Value → List Record → Prop where
  | result {result : Value} {first : Record} {payload : List Record} (hfirst : IsResultRecord first)
      (hpayload : OneIf (log.payloads = true ∧ result.isNull = false)
        (Says .debug "    Result: ") payload) :
      IsClosing log (.ok result) (first :: payload)
  | failure {failure : Failure} {record : Record} (hkind : failure.kind.isSignal = false)
      (hrecord : Opens .error "!!! TOOL: " record) : IsClosing log (.error failure) [record]
  | signal {failure : Failure} (hkind : failure.kind.isSignal = true) :
      IsClosing log (.error failure) []

/-- The slow mark tells slow calls from others: a duration that is not slow ends in its unit. -/
theorem slowMark_suffix_iff (log : CallLog) (milliseconds : Binary64) (front : Text) :
    slowMark <:+ front ++ log.took milliseconds ++ "]".toList ↔
      log.isSlow (.real milliseconds) = true := by
  have hmark : slowMark = "SLO".toList ++ "W!]".toList := rfl
  rw [took, tookText, hmark]
  cases log.isSlow (.real milliseconds) with
  | true =>
    refine iff_of_true ⟨front ++ milliseconds.fixedText 1 false ++ "ms ".toList, ?_⟩ rfl
    simp
  | false =>
    refine iff_of_false ?_ Bool.false_ne_true
    rintro ⟨before, heq⟩
    have hends : (before ++ "SLO".toList) ++ "W!]".toList =
        (front ++ milliseconds.fixedText 1 false) ++ "ms]".toList := by
      simpa using heq
    have hlast := List.append_inj_right' hends rfl
    exact absurd hlast (by decide)

/-- **The record of a result.** -/
theorem isResultRecord_resultRecord (log : CallLog) (milliseconds : Binary64) (call : ToolCall)
    (result : Value) :
    IsResultRecord
      (resultRecord call ⟨log.isSlow (.real milliseconds), log.took milliseconds⟩ result) := by
  let front : Text := "<<< TOOL: ".toList ++ shownName call.name ++ " -> ".toList ++
    summary result ++ " [".toList
  have hmark := slowMark_suffix_iff log milliseconds front
  refine ⟨_, Record.message_saying .., ?_, rfl, ?_⟩
  · rw [resultRecord, record]
    change (if _ then Level.warning else .info) = _
    by_cases hslow : log.isSlow (.real milliseconds) = true
    · rw [if_pos hslow, if_pos (hmark.mpr hslow)]
    · rw [if_neg hslow, if_neg fun h => hslow (hmark.mp h)]
  · rw [resultRecord, record, Record.saying]
    simp only [List.append_assoc]
    exact List.prefix_append _ _

/-- **The record of a failure** is one, whether what the failure says can be written or not. -/
theorem opens_failureRecord (call : ToolCall) (duration : Duration) (failure : Failure) :
    Opens .error "!!! TOOL: " (failureRecord call duration failure) := by
  refine ⟨rfl, rfl, ?_⟩
  rw [failureRecord]
  simp only [List.append_assoc]
  exact List.prefix_append _ _

/-! ## Payloads -/

variable [Room]

/-- A payload that can be logged, if payloads are. -/
def CanLog (log : CallLog) (payload : Value) : Prop :=
  log.payloads = true → ∃ shown, log.truncated payload = .ok shown

/-- **A payload that can be logged** leaves one record, if payloads are logged. -/
theorem CanLog.exists_logPayload {log : CallLog} {payload : Value} (h : log.CanLog payload)
    (label : String) :
    ∃ records, log.logPayload label payload = ⟨.ok (), records, []⟩ ∧
      OneIf (log.payloads = true) (Says .debug ("    ".toList ++ label.toList ++ ": ".toList))
        records := by
  rw [logPayload]
  cases hpayloads : log.payloads with
  | false => exact ⟨[], rfl, fun hwanted => absurd hwanted Bool.false_ne_true, fun _ => rfl⟩
  | true =>
    obtain ⟨shown, hshown⟩ := h hpayloads
    have hsays : Says .debug ("    ".toList ++ label.toList ++ ": ".toList)
        (payloadRecord label shown) := says_record _ _ _
    rw [if_pos rfl, hshown]
    exact ⟨_, rfl, fun _ => ⟨_, rfl, hsays⟩, fun h => absurd rfl h⟩

/-! ## Before a call -/

/-- The arguments of a call can be shown, and logged as a payload. -/
structure CanOpen (log : CallLog) (arguments : Value) : Prop where
  line : ∃ shown, argumentsText arguments = .ok shown
  payload : arguments.isPresent = true → log.CanLog arguments

/-- **Before a call.** -/
theorem CanOpen.exists_opening {log : CallLog} {call : ToolCall}
    (h : log.CanOpen call.arguments) :
    ∃ records, log.opening call = ⟨.ok (), records, []⟩ ∧
      log.AreOpening call.arguments records := by
  obtain ⟨shown, hshown⟩ := h.line
  have hfirst : Says .info ">>> TOOL: " (callRecord call shown) := by
    rw [callRecord, List.append_assoc]
    exact says_record _ _ _
  rw [opening, hshown]
  dsimp only
  by_cases hpresent : call.arguments.isPresent = true
  · obtain ⟨payload, hlogged, hpayload⟩ := (h.payload hpresent).exists_logPayload "Args"
    rw [if_pos hpresent, hlogged]
    exact ⟨_, rfl, _, payload, rfl, hfirst, fun hwanted => hpayload.one hwanted.1,
      fun hnot => hpayload.none fun hpayloads => hnot ⟨hpayloads, hpresent⟩⟩
  · rw [if_neg hpresent]
    exact ⟨_, rfl, _, [], rfl, hfirst, fun hwanted => absurd hwanted.2 hpresent, fun _ => rfl⟩

/-! ## Behind a call -/

/-- **Behind a call.** -/
theorem exists_isClosing (log : CallLog) (logger : Logger) (started stopped : Binary64)
    (call : ToolCall) {report : Report Value}
    (h : ∀ result, report.outcome = .ok result → result.isNull = false → log.CanLog result) :
    ∃ records, log.IsClosing report.outcome records ∧
      (log.settle logger ⟨.real started, .real stopped⟩ call report).records =
        report.records ++ records := by
  obtain ⟨outcome, reported, diagnostics⟩ := report
  rw [settle, duration_real]
  cases outcome with
  | error failure =>
    dsimp only
    cases hkind : failure.kind.isSignal with
    | true => exact ⟨[], .signal hkind, (List.append_nil _).symm⟩
    | false =>
      exact ⟨_, .failure hkind (opens_failureRecord call _ failure), Report.records_logging ..⟩
  | ok result =>
    dsimp only
    have hfirst := isResultRecord_resultRecord log
      ((stopped.sub started).mul (Binary64.ofFraction false 1000 1)) call result
    cases hnull : result.isNull with
    | true =>
      exact ⟨_, .result hfirst ⟨fun hwanted => absurd hwanted.2 (by simp [hnull]), fun _ => rfl⟩,
        rfl⟩
    | false =>
      obtain ⟨payload, hlogged, hpayload⟩ := (h result rfl hnull).exists_logPayload "Result"
      rw [if_neg Bool.false_ne_true, hlogged]
      exact ⟨_, .result hfirst ⟨fun hwanted => hpayload.one hwanted.1,
        fun hnot => hpayload.none fun hpayloads => hnot ⟨hpayloads, hnull⟩⟩, rfl⟩

omit [Room]

/-! ## Other messages -/

/-- What is logged around another message: a record when it arrives, and one when a result of it is
handed on. -/
def handled (method : Option Text) (duration : Duration) (report : Report Value) : Report Value :=
  let report := report.after [messageRecord method]
  if report.outcome.isOk then report.followedBy [handledRecord method duration] else report

/-- **The log around another message** adds to the report of its handler. -/
theorem message_eq {method : Option Text} (hmethod : method ≠ some toolCallMethod) (log : CallLog)
    (started stopped : Binary64) {m : Type → Type} [Monad m] (next : m (Report Value)) :
    log.message ⟨.real started, .real stopped⟩ method next = do
      let milliseconds := (stopped.sub started).mul (Binary64.ofFraction false 1000 1)
      return handled method ⟨log.isSlow (.real milliseconds), log.took milliseconds⟩ (← next) := by
  rw [message, if_neg hmethod]
  refine congrArg (next >>= ·) (funext fun report => ?_)
  obtain ⟨outcome, reported, diagnostics⟩ := report
  cases outcome <;> rfl

/-- The records around another message. -/
theorem exists_records_handled (method : Option Text) (duration : Duration)
    (report : Report Value) :
    ∃ first behind, (handled method duration report).records = first :: report.records ++ behind ∧
      Says .debug ">>> MCP: " first ∧
      OneIf (∃ result, report.outcome = .ok result) (Says .debug "<<< MCP: ") behind := by
  obtain ⟨outcome, reported, diagnostics⟩ := report
  have hfirst : Says .debug ">>> MCP: " (messageRecord method) := says_record _ _ _
  cases outcome with
  | error failure =>
    refine ⟨_, [], (List.append_nil _).symm, hfirst, ?_, fun _ => rfl⟩
    rintro ⟨_, heq⟩
    cases heq
  | ok result =>
    have hlast : Says .debug "<<< MCP: " (handledRecord method duration) := by
      rw [handledRecord]
      simp only [List.append_assoc]
      exact says_record _ _ _
    exact ⟨_, _, rfl, hfirst, fun _ => ⟨_, rfl, hlast⟩, fun hnot => absurd ⟨result, rfl⟩ hnot⟩

/-! ## All messages -/

/-- **What is logged of all messages.** A call of which arguments and result can be shown is logged
when it arrives and when it has ended, in the records of a call alone: where other messages are
logged, calls pass. Another message is logged when it arrives, and once more when a result of it is
handed on. -/
theorem message_logged [Room] (log : CallLog) (logger : Logger) (started stopped : Binary64) :
    let timing : Timing := ⟨.real started, .real stopped⟩
    (∀ call : ToolCall, log.CanOpen call.arguments →
      ∃ (before : List Record) (finish : Report Value → Report Value),
        log.AreOpening call.arguments before ∧
        (∀ (m : Type → Type) [Monad m] (next : ToolCall → m (Report Value)),
          log.call logger timing call next = do return finish (← next call)) ∧
        ∀ report : Report Value,
          (∀ result, report.outcome = .ok result → result.isNull = false → log.CanLog result) →
          ∃ behind, log.IsClosing report.outcome behind ∧
            (finish report).records = before ++ report.records ++ behind) ∧
    (∀ (m : Type → Type) [Monad m] (next : m (Report Value)),
      log.message timing (some toolCallMethod) next = next) ∧
    ∀ method, method ≠ some toolCallMethod →
      ∃ finish : Report Value → Report Value,
        (∀ (m : Type → Type) [Monad m] (next : m (Report Value)),
          log.message timing method next = do return finish (← next)) ∧
        ∀ report : Report Value, ∃ first behind,
          (finish report).records = first :: report.records ++ behind ∧
          Says .debug ">>> MCP: " first ∧
          OneIf (∃ result, report.outcome = .ok result) (Says .debug "<<< MCP: ") behind := by
  intro timing
  refine ⟨fun call hcall => ?_, fun m _ next => ?_, fun method hmethod => ?_⟩
  · obtain ⟨before, hopening, hbefore⟩ := hcall.exists_opening
    refine ⟨before, fun report => (log.settle logger timing call report).after before, hbefore,
      ?_, ?_⟩
    · intro m _ next
      rw [CallLog.call, hopening]
    · intro report hresult
      obtain ⟨behind, hbehind, hrecords⟩ := exists_isClosing log logger started stopped call hresult
      refine ⟨behind, hbehind, ?_⟩
      rw [Report.records_after, hrecords, List.append_assoc]
  · rw [message, if_pos rfl]
  · exact ⟨_, fun m _ next => message_eq hmethod log started stopped next,
      exists_records_handled method _⟩

/-- Payloads are logged, of a call that is slow from the start. -/
theorem message_logged_payloads :
    let _ : Room := ⟨1000, 1000, by decide⟩
    let logger : Logger := ⟨fun _ => true, fun _ => true⟩
    let log : CallLog := { payloads := true, slowThreshold := .real (.zero false) }
    let call : ToolCall := ⟨some "t", .dict [(.text "a", .text "b")]⟩
    log.CanOpen call.arguments ∧ log.CanLog (.text "r") ∧
      ∃ (before : List Record) (finish : Report Value → Report Value) (behind : List Record),
        log.AreOpening call.arguments before ∧ log.IsClosing (.ok (.text "r")) behind ∧
        (log.call logger .still call fun _ =>
          (pure (.ofResult (.text "r")) : Id (Report Value))).run =
            finish (.ofResult (.text "r")) ∧
        (finish (.ofResult (.text "r"))).records = before ++ behind := by
  intro _ logger log call
  have hopen : log.CanOpen call.arguments := by
    exact ⟨⟨_, rfl⟩, fun _ _ => ⟨_, rfl⟩⟩
  have hresult : log.CanLog (.text "r") := fun _ => ⟨_, rfl⟩
  obtain ⟨before, finish, hbefore, hcall, hfinish⟩ :=
    (message_logged log logger (.zero false) (.zero false)).1 call hopen
  obtain ⟨behind, hbehind, hrecords⟩ := hfinish (.ofResult (.text "r")) fun result houtcome _ => by
    cases houtcome
    exact hresult
  have hrun := hcall Id fun _ => pure (.ofResult (.text "r"))
  refine ⟨hopen, hresult, before, finish, behind, hbefore, hbehind, congrArg Id.run hrun, ?_⟩
  simpa [Report.ofResult] using hrecords

end LaunchKit.CallLog
