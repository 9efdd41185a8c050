import LaunchKit.ErrorTally
import LaunchKit.Failure.Build

/-!
# Runs of an error tally

Calls under one error tally may overlap: each arrives, waits for its handler while others arrive and
end, and is settled when its handler has ended. In between the counts may be emptied and read. What
is read is the count of all failures since the counts were last emptied, in whatever order the calls
arrived and ended. What a caller gets is what the handler left, with one record for a failure that
is no signal, as long as this failure can be recorded. A failure whose trace fails cannot: another
failure takes its place.

## Main definitions

* `ErrorTally.Event`: what is seen of a tally from outside.
* `ErrorTally.Step`, `ErrorTally.Run`: one event, and any number of them.
* `ErrorTally.failures`: the failures since the counts were last emptied.
* `ErrorTally.CanRecord`, `ErrorTally.IsFaithful`: which failures can be recorded, and what a caller
  gets then.

## Main statements

* `ErrorTally.isTallyOf_of_run`: the counts after any run.
* `ErrorTally.run_tells`: what is read and what callers get, in any run.
* `ErrorTally.settle_of_trace_eq_error`: a failure whose trace fails.
-/
namespace LaunchKit.ErrorTally

/-! ## Counts -/

/-- The counts have one entry for each name, and tell how often it occurs. -/
structure IsTallyOf (counts : List (Text × Nat)) (names : List Text) : Prop where
  nodup : (counts.map Prod.fst).Nodup
  lookup : ∀ name, counts.lookup name = if name ∈ names then some (names.count name) else none

theorem mem_map_fst_increment {name other : Text} {counts : List (Text × Nat)}
    (h : other ∈ (increment name counts).map Prod.fst) :
    other = name ∨ other ∈ counts.map Prod.fst := by
  induction counts with
  | nil => simpa [increment] using h
  | cons entry counts ih =>
    obtain ⟨known, n⟩ := entry
    rw [increment] at h
    split at h
    · exact Or.inr (by simpa using h)
    · rw [List.map_cons, List.mem_cons] at h ⊢
      rcases h with heq | hmem
      · exact Or.inr (Or.inl heq)
      · exact (ih hmem).imp_right Or.inr

theorem nodup_increment {name : Text} {counts : List (Text × Nat)}
    (h : (counts.map Prod.fst).Nodup) : ((increment name counts).map Prod.fst).Nodup := by
  induction counts with
  | nil => simp [increment]
  | cons entry counts ih =>
    obtain ⟨known, n⟩ := entry
    rw [List.map_cons, List.nodup_cons] at h
    rw [increment]
    split
    · exact List.nodup_cons.mpr h
    · next hne =>
      refine List.nodup_cons.mpr ⟨fun hmem => ?_, ih h.2⟩
      rcases mem_map_fst_increment hmem with heq | hknown
      · exact hne heq
      · exact h.1 hknown

/-- Counting one more name. -/
theorem IsTallyOf.increment {counts : List (Text × Nat)} {names : List Text}
    (h : IsTallyOf counts names) (name : Text) :
    IsTallyOf (increment name counts) (name :: names) := by
  refine ⟨nodup_increment h.nodup, fun other => ?_⟩
  rw [lookup_increment, h.lookup, h.lookup]
  by_cases heq : other = name
  · subst heq
    by_cases hmem : other ∈ names <;> simp [hmem, List.count_eq_zero_of_not_mem]
  · have hne : name ≠ other := Ne.symm heq
    simp [heq, hne]

/-! ## Events -/

variable {α : Type}

/-- What is seen of a tally: a call arrives, the handler of a call ends with a report and the caller
gets an answer, the counts are emptied, or they are read. -/
inductive Event (α : Type) where
  | arrival (call : Nat) (method : Option Text)
  | completion (call : Nat) (report answer : Report α)
  | reset
  | reading (counts : List (Text × Nat))

/-- A call whose handler has not ended, with the tally as it was when the call arrived. -/
structure Pending where
  call : Nat
  method : Option Text
  arrived : ErrorTally

/-- A tally with the calls under it. -/
structure Watch where
  tally : ErrorTally := {}
  pending : List Pending := []

/-- The name under which the outcome of a handler is counted, if it is. -/
def counted? (report : Report α) : Option Text :=
  match report.outcome with
  | .ok _ => none
  | .error failure => if failure.kind.isSignal then none else some failure.kind.name

/-- Whether an event empties the counts. -/
def Event.isReset : Event α → Bool
  | .reset => true
  | _ => false

/-- The name that an event adds to the counts. -/
def Event.counted? : Event α → Option Text
  | .completion _ report _ => ErrorTally.counted? report
  | _ => none

/-- The names of the failures since the counts were last emptied. -/
def failures (history : List (Event α)) : List Text :=
  (history.takeWhile (!·.isReset)).filterMap Event.counted?

theorem counted?_eq_some_iff {report : Report α} {name : Text} :
    counted? report = some name ↔
      ∃ failure, report.outcome = .error failure ∧ failure.kind.isSignal = false ∧
        failure.kind.name = name := by
  rw [counted?]
  cases report.outcome with
  | ok _ => simp
  | error failure => cases hsignal : failure.kind.isSignal <;> simp [hsignal]

/-! ## Records -/

/-- The weight of the record of a failure. -/
theorem level_record (method : Option Text) (failure : Failure) (note : Text) :
    (record method failure note).source = .errors ∧
      (record method failure note).level =
        if failure.kind.isRejection then .warning else .error := by
  rw [record]
  split <;> exact ⟨rfl, rfl⟩

/-- The message of a failure that says something can be written. -/
theorem exists_message_record (method : Option Text) {failure : Failure} {text : Text}
    (h : failure.text = .ok text) (note : Text) :
    ∃ message, (record method failure note).message = .ok message := by
  rw [record, h]
  split <;> exact ⟨_, rfl⟩

/-! ## Steps and runs -/

variable [Room] {includeTrace : Bool}

/-- The end of a call whose handler has ended with a report, while others have made the tally what
it is. -/
def ending (includeTrace : Bool) (logger : Logger) (pending : Pending) (tally : ErrorTally)
    (report : Report α) : Report α × ErrorTally :=
  let handler : StateT ErrorTally Id (Report α) := fun _ => (report, tally)
  (message includeTrace logger pending.method handler).run pending.arrived

/-- Only the tally at the end of a call counts. -/
theorem ending_eq_settle (logger : Logger) (pending : Pending) (tally : ErrorTally)
    (report : Report α) :
    ending includeTrace logger pending tally report =
      settle includeTrace logger pending.method tally report := rfl

/-- One event. Any call that has arrived may be the next to end, with any report and under any
logger. -/
inductive Step (includeTrace : Bool) : Watch → Event α → Watch → Prop where
  | arrival (watch : Watch) (call : Nat) (method : Option Text)
      (hfresh : ∀ pending ∈ watch.pending, pending.call ≠ call) :
      Step includeTrace watch (.arrival call method)
        { watch with pending := ⟨call, method, watch.tally⟩ :: watch.pending }
  | completion (watch : Watch) {pending : Pending} (hmem : pending ∈ watch.pending)
      (logger : Logger) (report : Report α) :
      Step includeTrace watch
        (.completion pending.call report (ending includeTrace logger pending watch.tally report).1)
        ⟨(ending includeTrace logger pending watch.tally report).2,
          watch.pending.filter (·.call ≠ pending.call)⟩
  | reset (watch : Watch) : Step includeTrace watch .reset { watch with tally := {} }
  | reading (watch : Watch) : Step includeTrace watch (.reading watch.tally.counts) watch

/-- Any number of events since a tally was made, the latest first. -/
inductive Run (includeTrace : Bool) : List (Event α) → Watch → Prop where
  | start : Run includeTrace [] {}
  | step {history : List (Event α)} {watch next : Watch} {event : Event α}
      (hrun : Run includeTrace history watch) (hstep : Step includeTrace watch event next) :
      Run includeTrace (event :: history) next

/-- An outcome that is not counted is left alone. -/
theorem settle_of_counted?_eq_none (logger : Logger) (method : Option Text) (tally : ErrorTally)
    {report : Report α} (h : counted? report = none) :
    settle includeTrace logger method tally report = (report, tally) := by
  rw [counted?] at h
  rw [settle]
  cases houtcome : report.outcome with
  | ok _ => rfl
  | error failure =>
    rw [houtcome] at h
    cases hsignal : failure.kind.isSignal <;> simp_all

/-- A failure that is no signal is recorded and counted. -/
theorem settle_of_failure (logger : Logger) (method : Option Text) (tally : ErrorTally)
    {report : Report α} {failure : Failure} (houtcome : report.outcome = .error failure)
    (hsignal : failure.kind.isSignal = false) :
    settle includeTrace logger method tally report =
      (recorded includeTrace logger method report failure, tally.add failure.kind.name) := by
  simp [settle, houtcome, hsignal]

/-- One event keeps the counts right. -/
theorem IsTallyOf.step {history : List (Event α)} {watch next : Watch} {event : Event α}
    (h : IsTallyOf watch.tally.counts (failures history))
    (hstep : Step includeTrace watch event next) :
    IsTallyOf next.tally.counts (failures (event :: history)) := by
  cases hstep with
  | arrival => exact h
  | reset => exact ⟨List.nodup_nil, fun _ => rfl⟩
  | reading => exact h
  | @completion pending hmem logger report =>
    rw [ending_eq_settle]
    cases hcounted : counted? report with
    | none =>
      have hfailures (answer : Report α) :
          failures (.completion pending.call report answer :: history) = failures history := by
        simp [failures, Event.isReset, Event.counted?, hcounted]
      rw [hfailures, settle_of_counted?_eq_none _ _ _ hcounted]
      exact h
    | some name =>
      obtain ⟨failure, houtcome, hsignal, rfl⟩ := counted?_eq_some_iff.mp hcounted
      have hfailures (answer : Report α) :
          failures (.completion pending.call report answer :: history) =
            failure.kind.name :: failures history := by
        simp [failures, Event.isReset, Event.counted?, hcounted]
      rw [hfailures, settle_of_failure _ _ _ houtcome hsignal]
      exact h.increment failure.kind.name

/-- **The counts after any run** are those of the failures since they were last emptied. -/
theorem isTallyOf_of_run {history : List (Event α)} {watch : Watch}
    (hrun : Run includeTrace history watch) :
    IsTallyOf watch.tally.counts (failures history) := by
  induction hrun with
  | start => exact ⟨List.nodup_nil, fun _ => rfl⟩
  | step _ hstep ih => exact ih.step hstep

/-- What was read in a run was the state of the counts then. -/
theorem isTallyOf_of_reading {later earlier : List (Event α)} {counts : List (Text × Nat)}
    {watch : Watch} (hrun : Run includeTrace (later ++ .reading counts :: earlier) watch) :
    IsTallyOf counts (failures earlier) := by
  induction later generalizing watch with
  | nil =>
    cases hrun with
    | step hearlier hstep =>
      cases hstep
      exact isTallyOf_of_run hearlier
  | cons event later ih =>
    cases hrun with
    | step hrest _ => exact ih hrest

/-! ## Answers -/

/-- A failure that can be recorded: what it says can be written, and so can its trace where it is
wanted. -/
structure CanRecord (includeTrace : Bool) (failure : Failure) : Prop where
  text : ∃ text, failure.text = .ok text
  trace : includeTrace = true → failure.kind.isRejection = false →
    ∃ text, failure.trace = .ok text

/-- A caller gets what the handler has left, and of a failure that is counted there is one more
record. -/
structure IsFaithful (report answer : Report α) : Prop where
  outcome : answer.outcome = report.outcome
  diagnostics : answer.diagnostics = report.diagnostics
  silent : counted? report = none → answer.records = report.records
  recorded : ∀ failure, report.outcome = .error failure → failure.kind.isSignal = false →
    ∃ record, answer.records = report.records ++ [record] ∧ record.source = .errors ∧
      record.level = if failure.kind.isRejection then .warning else .error

theorem CanRecord.exists_traceNote {failure : Failure} (h : CanRecord includeTrace failure) :
    ∃ note, traceNote includeTrace failure = .ok note := by
  rw [traceNote]
  split
  · next hwanted =>
    rw [Bool.and_eq_true, Bool.not_eq_true'] at hwanted
    obtain ⟨text, htext⟩ := h.trace hwanted.1 hwanted.2
    exact ⟨'\n' :: text, by rw [htext]; rfl⟩
  · exact ⟨[], rfl⟩

/-- **The answer of a call** whose failure, if it is one that is counted, can be recorded. -/
theorem isFaithful_settle (logger : Logger) (method : Option Text) (tally : ErrorTally)
    {report : Report α}
    (h : ∀ failure, report.outcome = .error failure → failure.kind.isSignal = false →
      CanRecord includeTrace failure) :
    IsFaithful report (settle includeTrace logger method tally report).1 := by
  cases hcounted : counted? report with
  | none =>
    rw [settle_of_counted?_eq_none _ _ _ hcounted]
    refine ⟨rfl, rfl, fun _ => rfl, fun failure houtcome hsignal => ?_⟩
    have hname := counted?_eq_some_iff.mpr ⟨failure, houtcome, hsignal, rfl⟩
    rw [hcounted] at hname
    cases hname
  | some name =>
    obtain ⟨failure, houtcome, hsignal, -⟩ := counted?_eq_some_iff.mp hcounted
    have hcan := h failure houtcome hsignal
    obtain ⟨note, hnote⟩ := hcan.exists_traceNote
    obtain ⟨text, htext⟩ := hcan.text
    obtain ⟨message, hmessage⟩ := exists_message_record method htext note
    have hanswer : recorded includeTrace logger method report failure =
        report.followedBy [record method failure note] := by
      rw [recorded, hnote]
      exact report.logging_of_failure?_eq_none (logger.failure?_of_message_eq_ok hmessage)
    rw [settle_of_failure _ _ _ houtcome hsignal, hanswer]
    refine ⟨rfl, rfl, fun hnone => ?_, fun other hother _ => ?_⟩
    · rw [hcounted] at hnone
      cases hnone
    · rw [houtcome] at hother
      cases hother
      exact ⟨_, rfl, level_record method failure note⟩

/-- **Any run of a tally.** What is read tells, for each name, how many handlers have ended with a
failure of that name since the counts were last emptied, signals left out. A caller gets what the
handler has left; one record tells of a failure that is counted, as a warning where the input is to
blame, and none of anything else. Only a failure that can be recorded is told in this way. -/
theorem run_tells {history : List (Event α)} {watch : Watch}
    (hrun : Run includeTrace history watch) :
    (∀ later counts earlier, history = later ++ .reading counts :: earlier →
      IsTallyOf counts (failures earlier)) ∧
    ∀ call report answer, .completion call report answer ∈ history →
      (∀ failure, report.outcome = .error failure → failure.kind.isSignal = false →
        CanRecord includeTrace failure) →
      IsFaithful report answer := by
  constructor
  · rintro later counts earlier rfl
    exact isTallyOf_of_reading hrun
  · intro call report answer hmem hcan
    induction hrun with
    | start => cases hmem
    | step _ hstep ih =>
      rcases List.mem_cons.mp hmem with rfl | hearlier
      · cases hstep
        exact isFaithful_settle _ _ _ hcan
      · exact ih hearlier

omit [Room]

/-- Two calls of which the later one ends first, and the counts are emptied in between. -/
theorem run_tells_crossing :
    let _ : Room := ⟨1000, 1000, by decide⟩
    let logger : Logger := ⟨fun _ => true, fun _ => true⟩
    let early : Report Unit := .ofFailure (.saying .badValue "bad")
    let late : Report Unit := .ofFailure (.saying (.rejection .pathConversion) "no path")
    let history : List (Event Unit) :=
      [.reading [("PathConversionError", 1)],
        .completion 0 late (ending true logger ⟨0, some "tools/call", {}⟩ {} late).1,
        .reset,
        .completion 1 early (ending true logger ⟨1, none, {}⟩ {} early).1,
        .arrival 1 none,
        .arrival 0 (some "tools/call")]
    ∃ watch, Run true history watch ∧
      (∀ later counts earlier, history = later ++ .reading counts :: earlier →
        IsTallyOf counts (failures earlier)) ∧
      ∀ call report answer, .completion call report answer ∈ history →
        (∀ failure, report.outcome = .error failure → failure.kind.isSignal = false →
          CanRecord true failure) →
        IsFaithful report answer := by
  intro _ logger early late history
  let first : Pending := ⟨0, some "tools/call", {}⟩
  let second : Pending := ⟨1, none, {}⟩
  have harrived : Run true ([.arrival 1 none, .arrival 0 (some "tools/call")] : List (Event Unit))
      { pending := [second, first] } :=
    .step (.step .start (.arrival {} 0 _ nofun)) (.arrival _ 1 none (by simp))
  have hsecond : second ∈ (⟨{}, [second, first]⟩ : Watch).pending := List.mem_cons_self
  have hearly : Step true ⟨{}, [second, first]⟩ _ ⟨⟨[("ValueError", 1)]⟩, [first]⟩ :=
    Step.completion ⟨{}, [second, first]⟩ hsecond logger early
  have hfirst : first ∈ (⟨{}, [first]⟩ : Watch).pending := List.mem_cons_self
  have hlate : Step true ⟨{}, [first]⟩ _ ⟨⟨[("PathConversionError", 1)]⟩, []⟩ :=
    Step.completion ⟨{}, [first]⟩ hfirst logger late
  have hrun : Run true history ⟨⟨[("PathConversionError", 1)]⟩, []⟩ :=
    .step (.step (.step (.step harrived hearly) (.reset _)) hlate) (.reading _)
  exact ⟨_, hrun, run_tells hrun⟩

/-! ## Failures that cannot be recorded -/

/-- **A failure whose trace fails** is counted, but there is no record of it, and the caller gets
what kept it from being traced. -/
theorem settle_of_trace_eq_error [Room] (logger : Logger) (method : Option Text)
    (tally : ErrorTally) {report : Report α} {failure other : Failure} (houtcome : report.outcome = .error failure)
    (hsignal : failure.kind.isSignal = false) (hrejection : failure.kind.isRejection = false)
    (htrace : failure.trace = .error other) :
    settle true logger method tally report =
      (report.replacedBy other, tally.add failure.kind.name) := by
  have hnote : traceNote true failure = .error other := by
    rw [traceNote, hrejection, htrace]
    rfl
  rw [settle_of_failure _ _ _ houtcome hsignal, recorded, hnote]

/-- A failure in a source whose line is no text does not reach the caller when traces are wanted:
another failure does, and there is no record. -/
theorem exists_not_faithful :
    (∀ [Room], ¬∀ (includeTrace : Bool) (history : List (Event Unit)) (watch : Watch),
      Run includeTrace history watch → ∀ call report answer,
        .completion call report answer ∈ history → answer.outcome = report.outcome) ∧
    ∀ [Room] (logger : Logger), ∃ failure, Failure.build "SyntaxError"
        [.text "bad", .list [.text "f.py", .null, .null, .int 7]] 0 = .ok failure ∧
      settle true logger (some "tools/call") {} (Report.ofFailure failure : Report Unit) =
        (.ofFailure (.noDetail "int" "rstrip"), ⟨[("SyntaxError", 1)]⟩) := by
  let failure : Failure :=
    { kind := .named "SyntaxError"
      text := .ok "bad (f.py)"
      source := some { message := .text "bad", file := .text "f.py", text := .int 7 } }
  let report : Report Unit := .ofFailure failure
  have hbuild [Room] : Failure.build "SyntaxError"
      [.text "bad", .list [.text "f.py", .null, .null, .int 7]] 0 = .ok failure := rfl
  have htrace [Room] : failure.trace = .error (.noDetail "int" "rstrip") := rfl
  have hsettle [Room] (logger : Logger) (method : Option Text) (tally : ErrorTally) :
      settle true logger method tally report =
        (.ofFailure (.noDetail "int" "rstrip"), tally.add "SyntaxError") :=
    settle_of_trace_eq_error logger method tally rfl rfl rfl htrace
  refine ⟨?_, fun logger => ⟨failure, hbuild, hsettle logger _ _⟩⟩
  intro _ h
  let logger : Logger := ⟨fun _ => true, fun _ => true⟩
  let pending : Pending := ⟨0, none, {}⟩
  have hpending : pending ∈ (⟨{}, [pending]⟩ : Watch).pending := List.mem_cons_self
  have hstep : Step true ⟨{}, [pending]⟩ _ _ :=
    Step.completion ⟨{}, [pending]⟩ hpending logger report
  have hrun : Run true
      [.completion 0 report (ending true logger pending {} report).1, .arrival 0 none] _ :=
    .step (.step .start (.arrival {} 0 none nofun)) hstep
  have houtcome := h true _ _ hrun 0 report _ List.mem_cons_self
  rw [ending_eq_settle, hsettle] at houtcome
  have hkind : Kind.missingDetail = Kind.named "SyntaxError" :=
    congrArg Failure.kind (Except.error.inj houtcome)
  exact absurd hkind (by decide)

end LaunchKit.ErrorTally
