import LaunchKit.CallLog.Records
import LaunchKit.Failure.Build
import LaunchKit.Proofs.Value.Written

/-!
# When the call log is transparent

The call log renders the arguments before it hands a call on, and the result behind it when payloads
are logged. A failure is rendered by the logger, behind the call. Where all that is rendered can be
written, and the limit of payloads is a whole number, the handler is called once with the call that
came in, and its outcome is passed on as it is. A value that cannot be written is not kept from
doing harm: an argument prevents the call, a result is replaced by the failure of its rendering, and
so is a failure, if the logger raises that.

## Main definitions

* `CallLog.CanShow`: arguments that can be rendered.
* `CallLog.CanPass`: an outcome that can be rendered.

## Main statements

* `CallLog.call_transparent`: the call log around a handler, for values that can be written.
* `CallLog.call_of_not_isWritable`: an argument that cannot be written prevents the call.
* `CallLog.settle_of_payload_eq_error`: a result that cannot be written is replaced.
* `CallLog.settle_of_text_eq_error`: a failure that cannot be written is replaced, if this is
  raised.
-/
namespace LaunchKit.CallLog

open Value (IsEncodable IsWritable)

/-! ## Records of failures -/

/-- The record of a failure raises nothing if the failure can be written or the logger does not
raise that it cannot. -/
theorem failure?_failureRecord {logger : Logger} (call : ToolCall) (duration : Duration)
    {failure : Failure} (h : ∀ error, failure.text = .error error → logger.raises error = false) :
    logger.failure? (failureRecord call duration failure) = none := by
  cases htext : failure.text with
  | ok text =>
    have hmessage : ∃ message, (failureRecord call duration failure).message = .ok message := by
      rw [failureRecord, htext]
      exact ⟨_, rfl⟩
    obtain ⟨message, hmessage⟩ := hmessage
    exact logger.failure?_of_message_eq_ok hmessage
  | error error =>
    have hmessage : (failureRecord call duration failure).message = .error error := by
      rw [failureRecord, htext]
      rfl
    simp [Logger.failure?, hmessage, h error htext]

variable [Room]

/-! ## Arguments -/

/-- Cutting a text does not change whether it can be written. -/
theorem isWritable_shortened {value : Value} : IsWritable (shortened value) ↔ IsWritable value := by
  cases value with
  | text s =>
    have htext (s : Text) : IsWritable (.text s) :=
      Value.literal_eq_ok_iff.mp ⟨_, Value.literal_text s⟩
    rw [shortened]
    split <;> exact iff_of_true (htext _) (htext _)
  | _ => rfl

/-- An argument is shown when its name and the argument can be written. -/
theorem argumentText_eq_ok_iff {name argument : Value} :
    (∃ text, argumentText name argument = .ok text) ↔ IsWritable name ∧ IsWritable argument := by
  have hrest (shown : Text) :
      (∃ last, ((shortened argument).literal >>= fun text => pure (shown ++ '=' :: text)) =
        .ok last) ↔ IsWritable argument := by
    rw [← isWritable_shortened, ← Value.literal_eq_ok_iff]
    exact exists_bind_eq_ok_iff_of_forall fun _ => ⟨_, rfl⟩
  rw [argumentText, exists_bind_eq_ok_iff]
  simp only [hrest, exists_and_right, Value.display_eq_ok_iff]

/-- **Which arguments are shown**: those of which all names and values can be written. -/
theorem argumentsText_eq_ok_iff {entries : List (Value × Value)} :
    (∃ shown, argumentsText (.dict entries) = .ok shown) ↔
      ∀ entry ∈ entries, IsWritable entry.1 ∧ IsWritable entry.2 := by
  rw [argumentsText, argumentEntries]
  refine (exists_bind_eq_ok_iff_of_forall fun _ => ⟨_, rfl⟩).trans ?_
  rw [exists_mapError_eq_ok_iff, exists_mapM_eq_ok_iff]
  simp only [argumentText_eq_ok_iff]

/-! ## Payloads -/

theorem exists_logPayload {log : CallLog} {limit : Int} (hlimit : log.payloadLimit = .whole limit)
    (label : String) {payload : Value} (h : log.payloads = true → IsEncodable payload) :
    ∃ records, log.logPayload label payload = ⟨.ok (), records, []⟩ := by
  rw [logPayload]
  cases hpayloads : log.payloads with
  | false => exact ⟨[], rfl⟩
  | true =>
    obtain ⟨shown, hshown⟩ := (h hpayloads).exists_payload
    have hlimited : log.truncated payload = log.limited shown := by
      rw [truncated, hshown]
      rfl
    have htruncated : log.truncated payload = .ok (cut limit shown) := by
      rw [hlimited, limited, hlimit]
    rw [if_pos rfl, htruncated]
    exact ⟨_, rfl⟩

/-! ## Before and behind a call -/

/-- The arguments of a call: nothing, or a mapping of which all names and values can be written, and
the mapping as a whole where it is logged as a payload. -/
structure CanShow (log : CallLog) (arguments : Value) : Prop where
  shape : arguments = .null ∨ ∃ entries, arguments = .dict entries
  line : ∀ entry ∈ arguments.entries, IsWritable entry.1 ∧ IsWritable entry.2
  payload : log.payloads = true → IsEncodable arguments

/-- The outcome of a call: a result that can be written where it is logged as a payload, or a signal,
or a failure that can be written unless the logger does not raise the failure to write it. -/
structure CanPass (log : CallLog) (logger : Logger) (outcome : Except Failure Value) : Prop where
  payload : log.payloads = true → ∀ result, outcome = .ok result → IsEncodable result
  failure : ∀ failure error, outcome = .error failure → failure.text = .error error →
    failure.kind.isSignal = true ∨ logger.raises error = false

/-- **Before a call** nothing fails when the arguments can be shown. -/
theorem exists_opening {log : CallLog} {limit : Int} (hlimit : log.payloadLimit = .whole limit)
    {call : ToolCall} (h : log.CanShow call.arguments) :
    ∃ records, log.opening call = ⟨.ok (), records, []⟩ := by
  obtain ⟨shown, hshown⟩ : ∃ shown, argumentsText call.arguments = .ok shown := by
    rcases h.shape with hnull | ⟨entries, hdict⟩
    · rw [hnull]
      exact ⟨_, rfl⟩
    · have hline := h.line
      rw [hdict] at hline ⊢
      exact argumentsText_eq_ok_iff.mpr hline
  obtain ⟨records, hrecords⟩ := exists_logPayload hlimit "Args" h.payload
  rw [opening, hshown, hrecords]
  dsimp only
  split <;> exact ⟨_, rfl⟩

/-- **Behind a call** the outcome is passed on, with more records behind those of the handler. -/
theorem exists_settle {log : CallLog} {limit : Int} (hlimit : log.payloadLimit = .whole limit)
    {logger : Logger} (started stopped : Binary64) (call : ToolCall) {report : Report Value}
    (h : log.CanPass logger report.outcome) :
    ∃ records, log.settle logger ⟨.real started, .real stopped⟩ call report =
      report.followedBy records := by
  obtain ⟨outcome, reported, diagnostics⟩ := report
  rw [settle, duration_real]
  cases outcome with
  | error failure =>
    dsimp only
    split
    · exact ⟨[], by rw [Report.followedBy, List.append_nil]⟩
    · next hsignal =>
      refine ⟨_, Report.logging_of_failure?_eq_none _ (failure?_failureRecord call _ ?_)⟩
      exact fun error htext => (h.failure failure error rfl htext).resolve_left hsignal
  | ok result =>
    obtain ⟨records, hrecords⟩ :=
      exists_logPayload hlimit "Result" fun hpayloads => h.payload hpayloads result rfl
    dsimp only
    rw [hrecords]
    split <;> exact ⟨_, rfl⟩

/-! ## Around a call -/

/-- **The call log around a handler.** When the arguments can be shown, and the limit of payloads is
a whole number, the handler is called once, with the call that came in, and of its report outcome
and diagnostics stay as they are. A result of which the payload is logged has to be one that can be
written, and a failure that the logger has to write, too. -/
theorem call_transparent {log : CallLog} {limit : Int} (hlimit : log.payloadLimit = .whole limit)
    (logger : Logger) (started stopped : Binary64) {call : ToolCall}
    (harguments : log.CanShow call.arguments) :
    ∃ finish : Report Value → Report Value,
      (∀ (m : Type → Type) [Monad m] (next : ToolCall → m (Report Value)),
        log.call logger ⟨.real started, .real stopped⟩ call next =
          do return finish (← next call)) ∧
      ∀ report : Report Value, log.CanPass logger report.outcome →
        (finish report).outcome = report.outcome ∧
        (finish report).diagnostics = report.diagnostics ∧
        ∃ before behind, (finish report).records = before ++ report.records ++ behind := by
  obtain ⟨before, hopening⟩ := exists_opening hlimit harguments
  refine ⟨fun report => (log.settle logger ⟨.real started, .real stopped⟩ call report).after before,
    ?_, ?_⟩
  · intro m _ next
    rw [CallLog.call, hopening]
  · intro report hreport
    obtain ⟨behind, hsettle⟩ := exists_settle hlimit started stopped call hreport
    dsimp only
    rw [hsettle]
    exact ⟨rfl, rfl, before, behind, by simp⟩

omit [Room]

/-- Payloads are logged, of a call with a number in a list. -/
theorem call_transparent_payloads :
    let _ : Room := ⟨1000, 1000, by decide⟩
    let logger : Logger := ⟨fun _ => true, fun _ => true⟩
    let log : CallLog := { payloads := true, payloadLimit := .whole (-1) }
    let call : ToolCall := ⟨some "t", .dict [(.text "a", .list [.int 5, .text "b"])]⟩
    log.payloadLimit = .whole (-1) ∧ log.CanShow call.arguments ∧
      log.CanPass logger (.error (.saying .badValue "bad")) ∧
      ∃ finish : Report Value → Report Value,
        (∀ (m : Type → Type) [Monad m] (next : ToolCall → m (Report Value)),
          log.call logger ⟨.real (.zero false), .real .nan⟩ call next =
            do return finish (← next call)) ∧
        ∀ report : Report Value, log.CanPass logger report.outcome →
          (finish report).outcome = report.outcome ∧
          (finish report).diagnostics = report.diagnostics ∧
          ∃ before behind, (finish report).records = before ++ report.records ++ behind := by
  intro _ logger log call
  have hlimit : log.payloadLimit = .whole (-1) := rfl
  have hencodable : IsEncodable call.arguments := by
    have hwholes : call.arguments.wholes = [5] := rfl
    refine ⟨⟨by decide, ?_⟩, by decide⟩
    rw [hwholes, List.forall_mem_singleton, Value.IsShort]
    decide +kernel
  have harguments : log.CanShow call.arguments :=
    ⟨Or.inr ⟨_, rfl⟩, fun _ hmem => hencodable.of_mem hmem, fun _ => hencodable⟩
  have hpass : log.CanPass logger (.error (.saying .badValue "bad")) := by
    refine ⟨fun _ _ houtcome => (nomatch houtcome), fun failure error houtcome htext => ?_⟩
    obtain rfl := Except.error.inj houtcome
    cases htext
  exact ⟨hlimit, harguments, hpass, call_transparent hlimit logger (.zero false) .nan harguments⟩

/-! ## Values that do harm -/

/-- **An argument that cannot be written prevents the call**, whatever the configuration: no handler
is called. -/
theorem call_of_not_isWritable [Room] (log : CallLog) (logger : Logger) (timing : Timing)
    {call : ToolCall} {entries : List (Value × Value)} (harguments : call.arguments = .dict entries)
    {entry : Value × Value} (hmem : entry ∈ entries)
    (h : ¬(IsWritable entry.1 ∧ IsWritable entry.2)) :
    ∃ failure : Failure, ∀ (m : Type → Type) [Monad m] (next : ToolCall → m (Report Value)),
      log.call logger timing call next = pure ⟨.error failure, [], []⟩ := by
  cases hshown : argumentsText (.dict entries) with
  | ok shown => exact absurd (argumentsText_eq_ok_iff.mp ⟨shown, hshown⟩ entry hmem) h
  | error failure =>
    refine ⟨failure, ?_⟩
    intro m _ next
    rw [CallLog.call, opening, harguments, hshown]
    rfl

/-- **A result that cannot be written is replaced** by the failure of its rendering. -/
theorem settle_of_payload_eq_error [Room] {log : CallLog} (hpayloads : log.payloads = true)
    (logger : Logger) (started stopped : Binary64) (call : ToolCall) {report : Report Value}
    {result : Value} (houtcome : report.outcome = .ok result) (hnull : result.isNull = false)
    {error : RenderError} (h : result.payload = .error error) :
    (log.settle logger ⟨.real started, .real stopped⟩ call report).outcome =
      .error error.toFailure := by
  have htruncated : log.truncated result = .error error.toFailure := by
    rw [truncated, h]
    rfl
  rw [settle, houtcome, duration_real]
  simp only [hnull, logPayload, hpayloads, htruncated]
  rfl

/-- **A failure that cannot be written is replaced** by the failure of its rendering, by a logger
that shows its record and raises that. -/
theorem settle_of_text_eq_error [Room] (log : CallLog) {logger : Logger}
    (hshows : ∀ record, logger.shows record = true) (started stopped : Binary64) (call : ToolCall)
    {report : Report Value} {failure : Failure} (houtcome : report.outcome = .error failure)
    (hsignal : failure.kind.isSignal = false) {error : RenderError}
    (htext : failure.text = .error error) (hraises : logger.raises error = true) :
    (log.settle logger ⟨.real started, .real stopped⟩ call report).outcome =
      .error error.toFailure := by
  have hmessage (duration : Duration) :
      (failureRecord call duration failure).message = .error error := by
    rw [failureRecord, htext]
    rfl
  have hfailure (duration : Duration) :
      logger.failure? (failureRecord call duration failure) = some error.toFailure := by
    simp [Logger.failure?, hmessage, hshows, hraises]
  rw [settle, houtcome, duration_real]
  simp only [hsignal, Report.logging, hfailure]
  rfl

/-! ## Values that are nested too deeply -/

section Nested

variable [Room] {n : Nat}

/-- An argument that is nested too deeply prevents a call. -/
theorem exists_call_nested (logger : Logger) (hn : Room.literal ≤ n) :
    ∃ failure, ∀ (m : Type → Type) [Monad m] (next : ToolCall → m (Report Value)),
      ({} : CallLog).call logger .still
        ⟨some "t", .dict [(.text "a", Value.nested n (.text "x"))]⟩ next =
          pure ⟨.error failure, [], []⟩ :=
  call_of_not_isWritable {} logger .still rfl List.mem_cons_self
    fun h => Value.not_isWritable_nested hn _ h.2

/-- A result that is nested too deeply is replaced when payloads are logged. -/
theorem outcome_settle_nested (logger : Logger) (hn : Room.json < n) :
    (({ payloads := true } : CallLog).settle logger .still {}
      (.ofResult (Value.nested n (.text "x")))).outcome =
        .error (RenderError.nestedTooDeeply .json).toFailure := by
  have hnested : (Value.nested n (.text "x")).json =
      .error (.notRendered (.nestedTooDeeply .json)) :=
    Value.jsonWithin_nested hn _
  have hnull : (Value.nested n (.text "x")).isNull = false := by
    cases n <;> rfl
  refine settle_of_payload_eq_error rfl logger _ _ _ rfl hnull ?_
  rw [Value.payload, hnested]

/-- A failure of which the detail is nested too deeply cannot be written. -/
theorem exists_build_nested (hn : Room.literal ≤ n) :
    ∃ error, Failure.build "ValueError" [Value.nested n (.text "x")] 0 =
      .ok { kind := .badValue, text := .error error } := by
  obtain ⟨error, herror⟩ : ∃ error, (Value.nested n (.text "x")).display = .error error := by
    cases hdisplay : (Value.nested n (.text "x")).display with
    | ok text =>
      have hwritable := Value.display_eq_ok_iff.mp ⟨text, hdisplay⟩
      exact absurd hwritable (Value.not_isWritable_nested hn _)
    | error error => exact ⟨error, rfl⟩
  have hrecipe : Recipe.named "ValueError" = .plain := by decide
  have hargument : Failure.argumentsText [Value.nested n (.text "x")] = .error error := herror
  refine ⟨error, ?_⟩
  rw [Failure.build, hrecipe, hargument]
  rfl

end Nested

/-- Arguments that are nested too deeply prevent a call, a result that is nested too deeply is
replaced when payloads are logged, and so is a failure by a logger that raises this. -/
theorem exists_not_transparent :
    (∀ [Room] (logger : Logger),
      ¬∀ (log : CallLog) (timing : Timing) (call : ToolCall)
        (next : ToolCall → Id (Report Value)),
        (call.arguments = .null ∨ ∃ entries, call.arguments = .dict entries) →
          (log.call logger timing call next).run.outcome = (next call).run.outcome) ∧
    ∀ [Room] (logger : Logger) (n : Nat), Room.literal ≤ n → Room.json < n →
      (∃ failure, ∀ (m : Type → Type) [Monad m] (next : ToolCall → m (Report Value)),
        ({} : CallLog).call logger .still
          ⟨some "t", .dict [(.text "a", Value.nested n (.text "x"))]⟩ next =
            pure ⟨.error failure, [], []⟩) ∧
      (({ payloads := true } : CallLog).settle logger .still {}
        (.ofResult (Value.nested n (.text "x")))).outcome =
          .error (RenderError.nestedTooDeeply .json).toFailure ∧
      ((∀ record, logger.shows record = true) → (∀ error, logger.raises error = true) →
        ∃ failure error, Failure.build "ValueError" [Value.nested n (.text "x")] 0 = .ok failure ∧
          (({} : CallLog).settle logger .still {} (.ofFailure failure)).outcome =
            .error (RenderError.toFailure error)) := by
  refine ⟨fun logger h => ?_, fun logger n hliteral hjson =>
    ⟨exists_call_nested logger hliteral, outcome_settle_nested logger hjson,
      fun hshows hraises => ?_⟩⟩
  · obtain ⟨failure, hfailure⟩ := exists_call_nested logger Nat.le.refl
    have heq := h {} .still
      ⟨some "t", .dict [(.text "a", Value.nested Room.literal (.text "x"))]⟩
      (fun _ => pure (.ofResult .null)) (Or.inr ⟨_, rfl⟩)
    rw [hfailure] at heq
    cases heq
  · obtain ⟨error, hbuild⟩ := exists_build_nested hliteral
    exact ⟨_, error, hbuild,
      settle_of_text_eq_error {} hshows _ _ _ rfl rfl rfl (hraises error)⟩

end LaunchKit.CallLog
