import LaunchKit.Failure.Basic
import LaunchKit.Text.Blank

/-!
# Failures in a source

A failure in a source is told in short with the end of its file's path and its line. Its report is
longer: the file and the line, the text of the line without its indentation, a mark under the part
of the text that is meant, and the message. Details may be anything, and a report of details that
do not go together fails.

## Main definitions

* `SourceDetail.place`: the place behind the message, in short.
* `SourceDetail.span`: where the marked part of a line begins and ends.
* `SourceDetail.mark`: the mark under a text.
* `SourceDetail.report`: the lines of the report.
-/
namespace LaunchKit.SourceDetail

/-! ## In short -/

/-- The name of a file at the end of its path. -/
def fileName (path : Text) : Text := (path.reverse.takeWhile (· ≠ '/')).reverse

/-- The number of a line; one that is too large is shown as -1. -/
def lineText (line : Int) : Text :=
  "line ".toList ++ Numeral.ofInt (if isCount line then line else -1)

/-- The place as far as its file is a text and its line is a whole number. -/
def place (detail : SourceDetail) : Text :=
  match detail.file, detail.line with
  | .text path, .int line =>
    " (".toList ++ fileName path ++ ", ".toList ++ lineText line ++ [')']
  | .text path, _ => " (".toList ++ fileName path ++ [')']
  | _, .int line => " (".toList ++ lineText line ++ [')']
  | _, _ => []

/-! ## The marked part -/

/-- The refusal to reckon with what is no number. -/
def refusal (sign : Char) (value : Value) : Failure :=
  let mixed := "unsupported operand type(s) for ".toList ++ sign :: ": '".toList ++
    value.typeName ++ "' and 'int'".toList
  let joined := "can only concatenate ".toList ++ value.typeName ++ " (not \"int\") to ".toList ++
    value.typeName
  .unsuitable <|
    if sign ≠ '+' then mixed
    else match value with
      | .text _ => joined
      | .list _ => joined
      | .tuple _ => joined
      | .bytes _ => "can't concat int to bytes"
      | _ => mixed

/-- The number that a value is, to reckon with. -/
def operand (sign : Char) (value : Value) : Except Failure Number :=
  match value.number? with
  | some n => .ok n
  | none => .error (refusal sign value)

/-- Whether a value is a number equal to another. -/
def isNumber (n : Int) (value : Value) : Bool := value.sameKey (.int n)

/-- Whether a value is a number that equals nothing, itself included. -/
def isNoNumber : Value → Bool
  | .float .nan => true
  | _ => false

/-- Where the marked part begins and ends, counted from one. Without an end, or with an end at its
beginning, the part is one character. -/
def span (offset endOffset : Value) : Except Failure (Number × Number) := do
  if let some className := endOffset.noKey? then
    throw (.unhashable className)
  let hasEnd : Bool := match endOffset with
    | .null => false
    | given => !isNumber 0 given
  let stop := if hasEnd then endOffset else offset
  let isEmpty := if hasEnd then stop.sameKey offset else !isNoNumber offset
  if isEmpty || isNumber (-1) stop then
    let start ← operand '+' offset
    return (start, ← start.minus (.whole (-1)))
  else return (← operand '-' offset, ← operand '-' stop)

/-- A position in a line, counted from zero in the line without its indentation. -/
def position (indentation : Nat) (offset : Number) : Except Failure Number := do
  (← offset.minus (.whole 1)).minus (.whole indentation)

/-- So many marks. -/
def carets (length : Number) : Except Failure Text :=
  match length with
  | .real _ => .error (.unsuitable "can't multiply sequence by non-int of type 'float'")
  | .whole n =>
    if !isCount n then .error (.noCount .outOfRange "int")
    else if Text.lengthLimit ≤ n.toNat then .error (.saying .outOfMemory [])
    else .ok (List.replicate n.toNat '^')

/-- The mark under a text that stood behind an indentation. There is none if the marked part begins
before the text. Blanks of the text are kept, for the mark to stand under what is marked. -/
def mark (indentation : Nat) (text : Text) (span : Number × Number) :
    Except Failure (Option Text) := do
  let start ← position indentation span.1
  let stop ← position indentation span.2
  if !(Number.whole 0).le start then return none
  match start with
  | .real _ => throw .noPlace
  | .whole n =>
    let margin := (text.take n.toNat).map fun c => if Text.isBlank c then c else ' '
    return some (margin ++ (← carets (← stop.minus start)))

/-! ## The report -/

variable [Room]

/-- A detail as it is shown. -/
def shown (value : Value) : Except Failure Text := value.display.mapError RenderError.toFailure

/-- A detail as it is shown, if it is known. -/
def shown? : Value → Except Failure (Option Text)
  | .null => .ok none
  | value => some <$> shown value

/-- The line that names a file and a line of it. -/
def placeLine (file : Value) (line : Text) : Except Failure Text := do
  let file ← if file.isPresent then shown file else pure "<string>".toList
  return "  File \"".toList ++ file ++ "\", line ".toList ++ line

/-- The file behind the message, which names it where the line is not known. -/
def fileNote (file : Value) : Except Failure Text := do
  return match ← shown? file with
    | none => []
    | some file => " (".toList ++ file ++ [')']

/-- The text of a line. -/
def lineOf : Value → Except Failure Text
  | .text s => .ok s
  | .bytes _ => .error (.unsuitable "a bytes-like object is required, not 'str'")
  | value => .error (.noDetail value.typeName "rstrip")

/-- Whether a character at the beginning of a line belongs to its indentation. -/
def isIndentation (c : Char) : Bool := c = ' ' || c = '\n' || c = '\x0c'

/-- A line of a report that is set in. -/
def setIn (text : Text) : Text := "    ".toList ++ text

/-- The lines that show the text, and the mark where one is wanted. -/
def textLines (detail : SourceDetail) : Except Failure (List Text) := do
  if detail.text.isNull then return []
  let line := ((← lineOf detail.text).reverse.dropWhile (· = '\n')).reverse
  let text := line.dropWhile isIndentation
  if detail.offset.isNull then return [setIn text]
  let span ← span detail.offset detail.endOffset
  let mark ← mark (line.length - text.length) text span
  return setIn text :: (mark.map setIn).toList

/-- The message as a report shows it. -/
def messageText (message : Value) : Except Failure Text :=
  if message.isPresent then shown message else .ok "<no detail available>"

/-- The report of a failure of this name: the lines that show where it is, and the last line. -/
def report (detail : SourceDetail) (name : Text) : Except Failure (List Text × Text) := do
  let line ← shown? detail.line
  let _ ← shown? detail.endLine
  let (opening, note) ← match line with
    | some line => (fun opening => ([opening], [])) <$> placeLine detail.file line
    | none => (fun note => ([], note)) <$> fileNote detail.file
  let lines ← textLines detail
  let message ← messageText detail.message
  return (opening ++ lines, name ++ ": ".toList ++ message ++ note)

end LaunchKit.SourceDetail
