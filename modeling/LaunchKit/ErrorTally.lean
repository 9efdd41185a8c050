import LaunchKit.Failure.Trace
import LaunchKit.Log

/-!
# The error tally

The outermost handler counts the failures of the others by their kinds and logs each of them, a
rejection as a warning and a fault as an error, with a trace if traces are wanted. It neither stops
a failure nor changes it, unless the trace or the logging of it fails in its turn, and it does not
look at signals. The count is touched only when a handler has ended, so that calls may overlap in
any way.

## Main definitions

* `ErrorTally`: how many failures of each kind there were.
* `ErrorTally.add`: one more.
* `ErrorTally.settle`: the end of one handler, with the count behind it.
* `ErrorTally.message`: the tally around a handler.
-/
namespace LaunchKit

/-- The counts of failures by the names of their kinds, in the order of their first failures. -/
structure ErrorTally where
  counts : List (Text × Nat) := []
  deriving DecidableEq, Repr

namespace ErrorTally

/-! ## Counting -/

/-- The counts with one more of a name. -/
def increment (name : Text) : List (Text × Nat) → List (Text × Nat)
  | [] => [(name, 1)]
  | (known, n) :: counts =>
    if known = name then (known, n + 1) :: counts else (known, n) :: increment name counts

/-- The tally with one more failure of a kind. -/
def add (tally : ErrorTally) (name : Text) : ErrorTally := ⟨increment name tally.counts⟩

/-- Counting one kind does not touch another. -/
theorem lookup_increment (name other : Text) (counts : List (Text × Nat)) :
    (increment name counts).lookup other =
      if other = name then some ((counts.lookup name).getD 0 + 1) else counts.lookup other := by
  induction counts with
  | nil =>
    by_cases h : other = name
    · simp [increment, h]
    · simp [increment, List.lookup_cons, beq_eq_false_iff_ne.2 h, h]
  | cons entry counts ih =>
    obtain ⟨known, n⟩ := entry
    by_cases hk : known = name
    · subst hk
      by_cases h : other = known
      · simp [increment, h]
      · simp [increment, List.lookup_cons, beq_eq_false_iff_ne.2 h, h]
    · by_cases h : other = known
      · subst h
        simp [increment, hk]
      · rw [increment, if_neg hk, List.lookup_cons, beq_eq_false_iff_ne.2 h, ih, List.lookup_cons,
          List.lookup_cons, beq_eq_false_iff_ne.2 h, beq_eq_false_iff_ne.2 (Ne.symm hk)]

/-! ## The end of a handler -/

/-- The record of a failure in a message, with a note behind what the failure says. Rejections go
without the note. -/
def record (method : Option Text) (failure : Failure) (note : Text) : Record :=
  let described := shownName method ++ ": ".toList ++ failure.kind.name ++ ": ".toList
  if failure.kind.isRejection then
    { level := .warning, source := .errors, opening := "Rejected " ++ described
      rest := failure.text }
  else
    { level := .error, source := .errors, opening := "Error in " ++ described
      rest := (· ++ note) <$> failure.text }

variable [Room] {α : Type}

/-- What a record shows behind a failure: its trace, if traces are wanted. -/
def traceNote (includeTrace : Bool) (failure : Failure) : Except Failure Text :=
  if includeTrace && !failure.kind.isRejection then ('\n' :: ·) <$> failure.trace else .ok []

/-- The report of a handler that has failed, with the record of its failure. A trace that fails
takes the place of the failure. -/
def recorded (includeTrace : Bool) (logger : Logger) (method : Option Text) (report : Report α)
    (failure : Failure) : Report α :=
  match traceNote includeTrace failure with
  | .ok note => report.logging logger (record method failure note)
  | .error failure => report.replacedBy failure

/-- The report of a handler that has ended, with the record of its failure, and the tally behind
it. -/
def settle (includeTrace : Bool) (logger : Logger) (method : Option Text) (tally : ErrorTally)
    (report : Report α) : Report α × ErrorTally :=
  match report.outcome with
  | .ok _ => (report, tally)
  | .error failure =>
    if failure.kind.isSignal then (report, tally)
    else (recorded includeTrace logger method report failure, tally.add failure.kind.name)

/-- The tally around a handler, which may itself run under it. -/
def message {m : Type → Type} [Monad m] (includeTrace : Bool) (logger : Logger)
    (method : Option Text) (next : StateT ErrorTally m (Report α)) :
    StateT ErrorTally m (Report α) := do
  let report ← next
  modifyGet fun tally => settle includeTrace logger method tally report

end ErrorTally
end LaunchKit
