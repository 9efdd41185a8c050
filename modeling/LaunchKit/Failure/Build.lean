import LaunchKit.Failure.Coding
import LaunchKit.Failure.Source
import LaunchKit.Failure.System

/-!
# Failures by name

A failure can be made from the name of its kind and arguments. Most kinds take any arguments and say
nothing, the one argument, or all of them. Some kinds take what they describe, and making one of
them from anything else is a failure in its turn: system failures take a code and a reason,
mismatches a message and two paths, encoding failures the text and the place of the defect, source
failures a message and a place in a source, groups a message and further failures.

## Main definitions

* `Recipe`: the ways to make a failure, by the name of its kind.
* `Failure.build`: the failure of a named kind, made from arguments.
* `Failure.raised`: what is raised when a failure has yet to be made.
-/
namespace LaunchKit

/-! ## Arguments -/

/-- The failure of a count of arguments that has to be exact. -/
def badCount (maker : String) (wanted given : Nat) : Failure :=
  .unsuitable (maker.toList ++ " takes exactly ".toList ++ Numeral.ofNat wanted ++
    " arguments (".toList ++ Numeral.ofNat given ++ " given)".toList)

/-- The failure of an argument that is no text. -/
def textWanted (opening : String) (place : Nat) (given : Value) : Failure :=
  let shown : Text := match given with
    | .null => "None"
    | given => given.typeName
  .unsuitable (opening.toList ++ "argument ".toList ++ Numeral.ofNat place ++
    " must be str, not ".toList ++ shown)

/-- The text that an argument is. -/
def Value.asText (place : Nat) : Value → Except Failure Text
  | .text s => .ok s
  | given => .error (textWanted "" place given)

/-- The whole number that an argument is. -/
def Value.asWhole (given : Value) : Except Failure Int :=
  match wholeCode? given with
  | some n => .ok n
  | none =>
    .error (.unsuitable
      ('\'' :: given.typeName ++ "' object cannot be interpreted as an integer".toList))

/-- The position that an argument is. -/
def Value.asPosition (given : Value) : Except Failure Int := do
  let n ← given.asWhole
  if isCount n then return n
  else throw (.saying .outOfRange "Python int too large to convert to C ssize_t")

/-- What a value yields one by one, if it does. -/
def Value.elements? : Value → Option (List Value)
  | .text s => some (s.map fun c => .text [c])
  | .bytes bs => some (bs.map fun byte => .int byte.toNat)
  | .list items => some items
  | .tuple items => some items
  | .dict entries => some (entries.map Prod.fst)
  | _ => none

/-! ## Recipes -/

/-- The ways to make a failure. -/
inductive Recipe where
  | plain
  | key
  | system
  | mismatch
  | decoding
  | encoding
  | translating
  | source
  | group
  deriving DecidableEq, Repr

/-- The kinds that are made in a way of their own. -/
def Recipe.special : List (String × Recipe) :=
  [("KeyError", .key), ("InputMismatchError", .mismatch), ("UnicodeDecodeError", .decoding),
    ("UnicodeEncodeError", .encoding), ("UnicodeTranslateError", .translating),
    ("SyntaxError", .source), ("IndentationError", .source), ("TabError", .source),
    ("BaseExceptionGroup", .group), ("ExceptionGroup", .group)]

/-- The way to make a failure of a named kind. -/
def Recipe.named (name : Text) : Recipe :=
  if isSystemName name then .system
  else ((special.find? fun entry => entry.1.toList == name).map Prod.snd).getD .plain

namespace Failure

variable [Room]

/-- What a failure with any arguments says: nothing, the one argument, or all of them. -/
def argumentsText : List Value → Except RenderError Text
  | [] => .ok []
  | [only] => only.display
  | arguments => (Value.tuple arguments).literal

/-! ## System failures -/

/-- The files among the arguments of a system failure: the third and the fifth. -/
def filesOf : List Value → SystemFiles
  | [] => .none
  | .null :: _ => .none
  | [file, _, .null] => .one file
  | [file, _, target] => .pair file target
  | file :: _ => .one file

/-- The third argument of a blocked operation is a count when it is a number, and has to be one that
counts characters. -/
def checkCount (given : Value) : Except Failure Unit := do
  if !isCount (← given.asWhole) then throw (.noCount .badValue given.typeName)

/-- The files that a system failure of a kind is about. -/
def systemFiles (kindName : Text) (arguments : List Value) : Except Failure SystemFiles :=
  match arguments with
  | count :: _ =>
    if kindName = "BlockingIOError".toList ∧ count.number?.isSome then do
      checkCount count
      return .none
    else .ok (filesOf arguments)
  | [] => .ok .none

/-- A system failure. With two to five arguments the first two are the code and the reason. -/
def buildSystem (name : Text) (arguments : List Value) : Except Failure Failure :=
  let vague : Failure :=
    { kind := .named (systemKindName name .null)
      text := argumentsText arguments
      system := some {} }
  match arguments with
  | code :: reason :: more =>
    if 3 < more.length then .ok vague
    else do
      return .ofDetail name code reason (← systemFiles (systemKindName name code) more)
  | _ => .ok vague

/-! ## Mismatches -/

/-- A mismatch, which shows its message and its paths on lines of their own. It is written at
once. -/
def buildMismatch (arguments : List Value) : Except Failure Failure :=
  let maker : Text := "InputMismatchError.__init__() "
  match arguments with
  | [message, path, base] => Except.mapError RenderError.toFailure do
    let lines := (← message.display) ++ "\npath = ".toList ++ (← path.display)
    return .saying (.rejection .inputMismatch) (lines ++ "\nbase = ".toList ++ (← base.display))
  | [] =>
    .error (.unsuitable (maker ++
      "missing 3 required positional arguments: 'message', 'path', and 'base'".toList))
  | [_] =>
    .error (.unsuitable (maker ++
      "missing 2 required positional arguments: 'path' and 'base'".toList))
  | [_, _] =>
    .error (.unsuitable (maker ++ "missing 1 required positional argument: 'base'".toList))
  | _ =>
    .error (.unsuitable (maker ++ "takes 4 positional arguments but ".toList ++
      Numeral.ofNat (arguments.length + 1) ++ " were given".toList))

/-! ## Encodings -/

/-- Bytes that are no text in an encoding. -/
def buildDecoding : List Value → Except Failure Failure
  | [encoding, units, start, stop, reason] => do
    let encoding ← encoding.asText 1
    let (start, stop) := (← start.asPosition, ← stop.asPosition)
    let reason ← reason.asText 5
    match units with
    | .bytes units =>
      let place := defectText "byte" ((only? units start stop).map byteText) start stop
      return .saying (.named "UnicodeDecodeError")
        (codecText encoding "decode" ++ place ++ ": ".toList ++ reason)
    | units =>
      throw (.unsuitable ("a bytes-like object is required, not '" ++ units.typeName ++ ['\'']))
  | arguments => .error (badCount "function" 5 arguments.length)

/-- A text that an encoding cannot express. -/
def buildEncoding : List Value → Except Failure Failure
  | [encoding, units, start, stop, reason] => do
    let encoding ← encoding.asText 1
    let units ← units.asText 2
    let (start, stop) := (← start.asPosition, ← stop.asPosition)
    let reason ← reason.asText 5
    let only := (only? units start stop).map fun c => pointText (.character c)
    let place := defectText "character" only start stop
    return .saying (.named "UnicodeEncodeError")
      (codecText encoding "encode" ++ place ++ ": ".toList ++ reason)
  | arguments => .error (badCount "function" 5 arguments.length)

/-- A text with a character that has no counterpart. -/
def buildTranslating : List Value → Except Failure Failure
  | [units, start, stop, reason] => do
    let units ← units.asText 1
    let (start, stop) := (← start.asPosition, ← stop.asPosition)
    let reason ← reason.asText 4
    let only := (only? units start stop).map fun c => pointText (.character c)
    let place := defectText "character" only start stop
    return .saying (.named "UnicodeTranslateError")
      ("can't translate ".toList ++ place ++ ": ".toList ++ reason)
  | arguments => .error (badCount "function" 4 arguments.length)

/-! ## Sources -/

/-- The details of a failure in a source: a file, a line, an offset and a text, and the line and the
offset of the end or neither. -/
def sourceDetail (message details : Value) : Except Failure SourceDetail :=
  match details.elements? with
  | none => .error (.unsuitable ('\'' :: details.typeName ++ "' object is not iterable".toList))
  | some [file, line, offset, text] => .ok { message, file, line, offset, text }
  | some [_, _, _, _, _] =>
    .error (.unsuitable "end_offset must be provided when end_lineno is provided")
  | some [file, line, offset, text, endLine, endOffset] =>
    .ok { message, file, line, offset, text, endLine, endOffset }
  | some items =>
    let bound := if items.length < 4 then "least 4" else "most 6"
    .error (.unsuitable ("function takes at " ++ bound.toList ++ " arguments (".toList ++
      Numeral.ofNat items.length ++ " given)".toList))

/-- A failure in a source. With two arguments the second one gives the details. -/
def buildSource (name : Text) (arguments : List Value) : Except Failure Failure := do
  let detail ← match arguments with
    | [message, details] => sourceDetail message details
    | arguments => pure { message := arguments.headD .null }
  return {
    kind := .named name
    text := (· ++ detail.place) <$> detail.message.display
    source := some detail }

/-! ## Groups -/

/-- Whether a value is a sequence. -/
def isSequence : Value → Bool
  | .text _ => true
  | .bytes _ => true
  | .list _ => true
  | .tuple _ => true
  | _ => false

/-- A group of failures. No value is a failure, so that none can be made from values. -/
def refuseGroup (arguments : List Value) : Failure :=
  let maker := "BaseExceptionGroup.__new__()"
  match arguments with
  | [.text _, members] =>
    if !isSequence members then .unsuitable "second argument (exceptions) must be a sequence"
    else if !members.isPresent then
      .saying .badValue "second argument (exceptions) must be a non-empty sequence"
    else .saying .badValue "Item 0 of second argument (exceptions) is not an exception"
  | [message, _] => textWanted (maker ++ " ") 1 message
  | _ => badCount maker 2 arguments.length

/-! ## All kinds -/

/-- The failure of a named kind, made from arguments, and then given a foreign code. A missing key
is shown as a literal. -/
def build (name : Text) (arguments : List Value) (foreignCode : Int) : Except Failure Failure := do
  let failure ← match Recipe.named name with
    | .plain => pure { kind := .named name, text := argumentsText arguments }
    | .key =>
      let text := match arguments with
        | [only] => only.literal
        | _ => argumentsText arguments
      pure { kind := .named name, text }
    | .system => buildSystem name arguments
    | .mismatch => buildMismatch arguments
    | .decoding => buildDecoding arguments
    | .encoding => buildEncoding arguments
    | .translating => buildTranslating arguments
    | .source => buildSource name arguments
    | .group => throw (refuseGroup arguments)
  return { failure with foreignCode }

/-- What is raised in place of a failure that is still to be made: the failure, or else what kept
it from being made. -/
def raised (made : Except Failure Failure) : Failure :=
  match made with
  | .ok failure => failure
  | .error failure => failure

end Failure
end LaunchKit
