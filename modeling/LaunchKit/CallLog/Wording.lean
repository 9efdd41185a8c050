import LaunchKit.Log
import LaunchKit.Value.Json

/-!
# The wording of the call log

What the call log says about the arguments, the result and the duration of a call. Arguments stand
in the line of the call itself, so each is shown as a literal and long texts are cut first; whole
payloads go to lines of their own, in JSON, cut at a limit. None of it may be long, and none of it
is needed to make the call.

## Main definitions

* `CallLog`: the configuration.
* `CallLog.truncated`: a payload, cut at the limit.
* `CallLog.argumentsText`: arguments in the line of a call.
* `CallLog.durationText`: a duration, with a mark on slow calls.
* `CallLog.summary`: a result in a few words.
-/
namespace LaunchKit

/-- The configuration of the call log: whether payloads are logged and how much of them, and the
milliseconds from which a call is slow. -/
structure CallLog where
  payloads : Bool := false
  payloadLimit : Number := .whole 1000
  slowThreshold : Number := .real (Binary64.ofFraction false 1000 1)

namespace CallLog

/-! ## Payloads -/

/-- The mark behind a payload that was cut. -/
def cutMark : Text := "... [truncated]"

/-- A text, cut at a limit. -/
def cut (limit : Int) (text : Text) : Text :=
  if limit < text.length then Text.clip limit text ++ cutMark else text

/-- A text, cut at the limit of payloads. A limit that is no whole number cannot be cut at. -/
def limited (log : CallLog) (text : Text) : Except Failure Text :=
  match log.payloadLimit with
  | .whole limit => .ok (cut limit text)
  | .real limit =>
    let length : Number := .whole text.length
    if (Number.real limit).le length && !length.le (.real limit) then .error .noPlace else .ok text

variable [Room]

/-- A payload, cut at the limit. -/
def truncated (log : CallLog) (payload : Value) : Except Failure Text := do
  log.limited (← payload.payload.mapError RenderError.toFailure)

/-! ## Arguments -/

/-- How much of a text argument is shown. -/
def shownLength : Nat := 50

/-- An argument as it is shown: a long text is cut. -/
def shortened : Value → Value
  | .text s =>
    if shownLength < s.length then .text (s.take shownLength ++ "...".toList) else .text s
  | value => value

/-- One argument behind its name. -/
def argumentText (name argument : Value) : Except RenderError Text := do
  let shown ← name.display
  return shown ++ '=' :: (← (shortened argument).literal)

/-- The entries of arguments. Nothing and what is empty have none. -/
def argumentEntries : Value → Except Failure (List (Value × Value))
  | .dict entries => .ok entries
  | arguments =>
    if arguments.isPresent then .error (.noDetail arguments.typeName "items") else .ok []

/-- Arguments as they are shown behind the name of a tool. -/
def argumentsText (arguments : Value) : Except Failure Text := do
  let entries ← argumentEntries arguments
  let shown := entries.mapM fun entry => argumentText entry.1 entry.2
  return Text.commaList '(' ')' (← shown.mapError RenderError.toFailure)

omit [Room]

/-! ## Durations -/

/-- Whether a duration makes a call slow. -/
def isSlow (log : CallLog) (milliseconds : Number) : Bool := log.slowThreshold.le milliseconds

/-- A duration with one decimal place, and a mark when it is slow. -/
def tookText (slow : Bool) (milliseconds : Binary64) : Text :=
  milliseconds.fixedText 1 false ++ (if slow then "ms SLOW!" else "ms")

/-- The duration of a call. -/
def took (log : CallLog) (milliseconds : Binary64) : Text :=
  tookText (log.isSlow (.real milliseconds)) milliseconds

/-- A duration that may be a whole number, which has to be converted. -/
def durationText (log : CallLog) (milliseconds : Number) : Except Failure Text :=
  match milliseconds.toBinary64? with
  | some x => .ok (tookText (log.isSlow milliseconds) x)
  | none => .error .tooLarge

/-! ## Results -/

/-- A count with what is counted. -/
def counted (n : Nat) (what : String) : Text := Numeral.ofNat n ++ ' ' :: what.toList

/-- A result in a few words: its size, for what has one, or the name of its class. -/
def summary : Value → Text
  | .null => "null"
  | .text s => counted s.length "chars"
  | .list items => counted items.length "items"
  | .tuple items => counted items.length "items"
  | .object _ _ (some content) =>
    match content.items? with
    | some items => counted items.length "content item(s)"
    | none => "content"
  | value => value.typeName

/-- No limit of zero or more lets a text grow by more than the mark. -/
theorem length_cut_le {limit : Int} (h : 0 ≤ limit) (text : Text) :
    ((cut limit text).length : Int) ≤ limit + cutMark.length := by
  have hclip : (Text.clip limit text).length ≤ limit.toNat := by
    rw [Text.clip, if_neg (by omega)]
    exact List.length_take_le ..
  unfold cut
  split
  · rw [List.length_append]
    omega
  · omega

example :
    ({} : CallLog).took (Binary64.ofFraction false 1234567 1000) = "1234.6ms SLOW!".toList := by
  decide +kernel

end CallLog
end LaunchKit
