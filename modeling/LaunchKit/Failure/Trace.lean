import LaunchKit.Failure.Source

/-!
# Traces

A report tells a failure by the qualified name of its kind and by what it says. A trace leads to a
failure, here from nowhere: it has an opening and the last line of the report, behind the trace of
the cause if there is one.

## Main definitions

* `Failure.summary`: a failure on a line of its own.
* `Failure.report`: a failure as it is attached to a log entry.
* `Failure.trace`: the trace of a failure.
* `Failure.leavingTask`: a failure as it leaves a suspended computation.
-/
namespace LaunchKit.Failure

variable [Room]

/-! ## Reports -/

/-- What a summary shows of what the failure says. A summary never fails. -/
def shownText (failure : Failure) : Text :=
  match failure.text with
  | .ok text => text
  | .error _ => "<exception str() failed>"

/-- What a failure says behind its qualified name; what says nothing is not set off. -/
def summary (failure : Failure) : Text :=
  if failure.shownText.isEmpty then failure.kind.qualifiedName
  else failure.kind.qualifiedName ++ ": ".toList ++ failure.shownText

/-- The lines of a report before the last one, and the last one. A failure in a source has a report
of its own, which may fail. -/
def reportLines (failure : Failure) : Except Failure (List Text × Text) :=
  match failure.source with
  | none => .ok ([], failure.summary)
  | some detail => detail.report failure.kind.qualifiedName

/-- A failure as it is attached to a log entry. -/
def report (failure : Failure) : Except Failure Text := do
  let (lines, last) ← failure.reportLines
  return lines.flatMap (· ++ ['\n']) ++ last

/-! ## Traces -/

/-- The beginning of a trace. -/
def traceOpening : Text := "Traceback (most recent call last):\n"

/-- What stands between the trace of a cause and the trace of what it led to. -/
def causeBorder : Text :=
  "\n\nThe above exception was the direct cause of the following exception:\n\n"

/-- The trace of a failure behind the trace of its cause. It does not show where a failure was. -/
def trace (failure : Failure) : Except Failure Text := do
  let (_, last) ← failure.reportLines
  let own := traceOpening ++ last ++ ['\n']
  return match failure.cause with
    | none => own
    | some cause => traceOpening ++ cause ++ causeBorder ++ own

omit [Room]

/-! ## Tasks -/

/-- A failure as it leaves a suspended computation: the end of an iteration may not cross that
border and becomes the cause of a fault. -/
def leavingTask (failure : Failure) : Failure :=
  if failure.kind = .iterationEnd then
    { saying .programFault "coroutine raised StopIteration" with cause := some failure.summary }
  else failure

end LaunchKit.Failure
