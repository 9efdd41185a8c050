import LaunchKit.Failure.Basic
import LaunchKit.Template.Basic

/-!
# Expanded templates

The directives of a template are replaced in order by their arguments. The arguments are a
sequence, of which each directive takes the next and all must be taken, or a mapping, of which a
directive takes the value of its key. A width or a precision that is taken from the arguments
comes before the argument of the directive itself.

## Main definitions

* `TemplateError`: why a template cannot be expanded.
* `TemplateArguments`: a sequence or a mapping.
* `Template.expand`: the text of a template with arguments.
-/
namespace LaunchKit

/-- Why a template could not be expanded. -/
inductive TemplateError where
  | notEnoughArguments
  | unusedArguments
  | incomplete
  | incompleteKey
  | mappingRequired
  | missingKey (key : Text)
  | unknownConversion (letter : Char) (place : Nat)
  | extentNotWhole
  | widthTooBig
  | precisionTooBig
  | widthOutOfRange
  | precisionOutOfRange
  | precisionTooLarge
  | notWhole (letter : Char) (typeName : Text)
  | notReal (letter : Char) (typeName : Text)
  | notFloat (typeName : Text)
  | floatOutOfRange
  | wholePartOfNan
  | wholePartOfInfinity
  | notCharacter
  | characterOutOfRange
  | outOfMemory
  | notRendered (error : RenderError)
  deriving DecidableEq, Repr

namespace TemplateError

/-- The wording of an error. -/
def message : TemplateError → Text
  | .notEnoughArguments => "not enough arguments for format string"
  | .unusedArguments => "not all arguments converted during string formatting"
  | .incomplete => "incomplete format"
  | .incompleteKey => "incomplete format key"
  | .mappingRequired => "format requires a mapping"
  | .missingKey key => Text.quoted key
  | .unknownConversion letter place =>
    let shown := if 31 ≤ letter.toNat ∧ letter.toNat ≤ 126 then letter else '?'
    "unsupported format character '" ++ shown :: "' (0x".toList ++ Nat.toDigits 16 letter.toNat ++
      ") at index ".toList ++ Numeral.ofNat place
  | .extentNotWhole => "* wants int"
  | .widthTooBig => "width too big"
  | .precisionTooBig => "precision too big"
  | .widthOutOfRange => "Python int too large to convert to C ssize_t"
  | .precisionOutOfRange => "Python int too large to convert to C int"
  | .precisionTooLarge => "precision too large"
  | .notWhole letter typeName =>
    '%' :: letter :: " format: an integer is required, not ".toList ++ typeName
  | .notReal letter typeName =>
    '%' :: letter :: " format: a real number is required, not ".toList ++ typeName
  | .notFloat typeName => "must be real number, not " ++ typeName
  | .floatOutOfRange => "int too large to convert to float"
  | .wholePartOfNan => "cannot convert float NaN to integer"
  | .wholePartOfInfinity => "cannot convert float infinity to integer"
  | .notCharacter => "%c requires int or char"
  | .characterOutOfRange => "%c arg not in range(0x110000)"
  | .outOfMemory => []
  | .notRendered error => error.message

/-- The kind of failure that an error is. -/
def kind : TemplateError → Kind
  | .notEnoughArguments => .badType
  | .unusedArguments => .badType
  | .mappingRequired => .badType
  | .extentNotWhole => .badType
  | .notWhole _ _ => .badType
  | .notReal _ _ => .badType
  | .notFloat _ => .badType
  | .notCharacter => .badType
  | .missingKey _ => .missingKey
  | .widthOutOfRange => .outOfRange
  | .precisionOutOfRange => .outOfRange
  | .precisionTooLarge => .outOfRange
  | .floatOutOfRange => .outOfRange
  | .wholePartOfInfinity => .outOfRange
  | .characterOutOfRange => .outOfRange
  | .outOfMemory => .outOfMemory
  | .notRendered error => error.toFailure.kind
  | _ => .badValue

/-- An error as a failure. -/
def toFailure (error : TemplateError) : Failure := .saying error.kind error.message

end TemplateError

/-- What the directives take their arguments from. -/
inductive TemplateArguments where
  | sequence (values : List Value)
  | mapping (entries : List (Value × Value))

namespace Template

/-! ## Taking arguments -/

/-- The largest width and the largest precision. -/
def widthLimit : Nat := 0x7FFFFFFFFFFFFFFF

def precisionLimit : Nat := 0x7FFFFFFF

/-- A rendering that a conversion borrows. -/
def borrowed (rendering : Except RenderError Text) : Except TemplateError Text :=
  rendering.mapError .notRendered

/-- The next of the arguments that wait. -/
def next : List Value → Except TemplateError (Value × List Value)
  | [] => .error .notEnoughArguments
  | value :: waiting => .ok (value, waiting)

/-- The whole number that an argument gives for a width or a precision. -/
def extentOf : Value → Except TemplateError Int
  | .int n => .ok n
  | .bool b => .ok (if b then 1 else 0)
  | _ => .error .extentNotWhole

/-- The arguments that wait once the key of a directive has been looked up. A key puts its value in
the place of all that waited. -/
def selectKey (arguments : TemplateArguments) (key : KeyPart) (waiting : List Value) :
    Except TemplateError (List Value) :=
  match key, arguments with
  | .absent, _ => .ok waiting
  | _, .sequence _ => .error .mappingRequired
  | .unclosed, .mapping _ => .error .incompleteKey
  | .named key, .mapping entries =>
    match Value.lookup (.text key) entries with
    | some value => .ok [value]
    | none => .error (.missingKey key)

/-- The width of a directive and its flags; a negative width from the arguments aligns left. -/
def takeWidth (d : Directive) (waiting : List Value) :
    Except TemplateError (Option Nat × Flags × List Value) :=
  match d.width with
  | .absent => .ok (none, d.flags, waiting)
  | .given n => if widthLimit < n then .error .widthTooBig else .ok (some n, d.flags, waiting)
  | .argument => do
    let (value, waiting) ← next waiting
    let n ← extentOf value
    if n < -widthLimit - 1 ∨ widthLimit < n then throw .widthOutOfRange
    return (some n.natAbs, if n < 0 then { d.flags with left := true } else d.flags, waiting)

/-- The precision of a directive; a negative one from the arguments is zero. -/
def takePrecision (d : Directive) (waiting : List Value) :
    Except TemplateError (Option Nat × List Value) :=
  match d.precision with
  | .absent => .ok (none, waiting)
  | .given n => if precisionLimit < n then .error .precisionTooBig else .ok (some n, waiting)
  | .argument => do
    let (value, waiting) ← next waiting
    let n ← extentOf value
    if n < -precisionLimit - 1 ∨ precisionLimit < n then throw .precisionOutOfRange
    return (some n.toNat, waiting)

/-! ## Layout -/

/-- A converted argument: its sign, the mark of its base and its body. -/
structure Converted where
  sign : Text := []
  mark : Text := []
  body : Text
  numeric : Bool := false

/-- The sign of a number, in which a flag may ask for a plus or a blank before what is not
negative. -/
def signOf (flags : Flags) (negative : Bool) : Text :=
  if negative then ['-'] else if flags.plus then ['+'] else if flags.blank then [' '] else []

/-- A converted argument in its column. Zeros fill a number between its sign and its digits, unless
it is aligned left. -/
def layout (flags : Flags) (width : Option Nat) (c : Converted) : Text :=
  let used := c.sign.length + c.mark.length + c.body.length
  let fill := width.getD 0 - used
  if flags.left then c.sign ++ c.mark ++ c.body ++ List.replicate fill ' '
  else if c.numeric && flags.zeros then c.sign ++ c.mark ++ List.replicate fill '0' ++ c.body
  else List.replicate fill ' ' ++ c.sign ++ c.mark ++ c.body

/-! ## Conversions -/

/-- A text, cut at the precision. -/
def convertText (precision : Option Nat) (text : Text) : Converted :=
  { body := match precision with
      | some n => text.take n
      | none => text }

/-- The whole number that an argument of a decimal conversion stands for. -/
def wholePart (letter : Char) : Value → Except TemplateError Int
  | .int n => .ok n
  | .bool b => .ok (if b then 1 else 0)
  | .float .nan => .error .wholePartOfNan
  | .float (.infinite _) => .error .wholePartOfInfinity
  | .float (.finite negative coefficient exponent) =>
    .ok (Binary64.truncate negative coefficient exponent)
  | value => .error (.notReal letter value.typeName)

/-- A number in digits, at least as many as the precision says. -/
def convertDigits (flags : Flags) (precision : Option Nat) (negative : Bool) (mark digits : Text) :
    Except TemplateError Converted :=
  if precision.any (precisionLimit - 3 < ·) then .error .precisionTooLarge
  else .ok
    { sign := signOf flags negative
      mark := if flags.alternate then mark else []
      body := Text.padLeft '0' (precision.getD 0) digits
      numeric := true }

/-- A decimal conversion. -/
def convertDecimal (flags : Flags) (precision : Option Nat) (letter : Char) (value : Value) :
    Except TemplateError Converted := do
  let n ← wholePart letter value
  let digits ← borrowed (Value.writtenInt n.natAbs)
  convertDigits flags precision (n < 0) [] digits

/-- A conversion to base eight or sixteen, which takes whole numbers only. -/
def convertBase (flags : Flags) (precision : Option Nat) (letter : Char) (value : Value) :
    Except TemplateError Converted := do
  let n ← match value with
    | .int n => .ok n
    | .bool b => .ok (if b then 1 else 0)
    | value => .error (.notWhole letter value.typeName)
  let digits := Nat.toDigits (if letter = 'o' then 8 else 16) n.natAbs
  let digits := if letter = 'X' then digits.map Char.toUpper else digits
  convertDigits flags precision (n < 0) ['0', letter] digits

/-- A conversion to a floating point form. -/
def convertFloat (flags : Flags) (precision : Option Nat) (letter : Char) (value : Value) :
    Except TemplateError Converted := do
  let x ← match value.number? with
    | none => .error (.notFloat value.typeName)
    | some number => match number.toBinary64? with
      | some x => .ok x
      | none => .error .floatOutOfRange
  let places := precision.getD 6
  let shown := match letter.toLower with
    | 'e' => x.scientificText places flags.alternate
    | 'f' => x.fixedText places flags.alternate
    | _ => x.generalText places flags.alternate
  let shown := if letter.isUpper then shown.map Char.toUpper else shown
  return {
    sign := signOf flags x.isNegative
    body := if x.isNegative then shown.drop 1 else shown
    numeric := true }

/-- A conversion to one character. -/
def convertCharacter (value : Value) : Except TemplateError Converted :=
  let ofPoint (n : Int) : Except TemplateError Converted :=
    if n < 0 ∨ 0x110000 ≤ n then .error .characterOutOfRange
    else .ok { body := [Char.ofNat n.toNat] }
  match value with
  | .text [c] => .ok { body := [c] }
  | .int n => ofPoint n
  | .bool b => ofPoint (if b then 1 else 0)
  | _ => .error .notCharacter

variable [Room]

/-- The conversion of a letter. -/
def convert (flags : Flags) (precision : Option Nat) (letter : Char) (place : Nat) (value : Value) :
    Except TemplateError Converted := do
  if letter = 's' then return convertText precision (← borrowed value.display)
  else if letter = 'r' then return convertText precision (← borrowed value.literal)
  else if letter = 'a' then
    return convertText precision (Text.escapeBeyondAscii (← borrowed value.literal))
  else if letter ∈ ['d', 'i', 'u'] then convertDecimal flags precision letter value
  else if letter ∈ ['o', 'x', 'X'] then convertBase flags precision letter value
  else if letter ∈ ['e', 'E', 'f', 'F', 'g', 'G'] then convertFloat flags precision letter value
  else if letter = 'c' then convertCharacter value
  else throw (.unknownConversion letter place)

/-! ## Expansion -/

/-- The text of a directive, and the arguments that wait behind it. -/
def expandDirective (arguments : TemplateArguments) (d : Directive) (waiting : List Value) :
    Except TemplateError (Text × List Value) := do
  let waiting ← selectKey arguments d.key waiting
  let (width, flags, waiting) ← takeWidth d waiting
  let (precision, waiting) ← takePrecision d waiting
  match d.conversion with
  | none => throw .incomplete
  | some letter =>
    let (value, waiting) ← next waiting
    let converted ← convert flags precision letter d.place value
    if Text.lengthLimit ≤ width.getD 0 then throw .outOfMemory
    return (layout flags width converted, waiting)

/-- The text of the pieces, and the arguments that are left. -/
def expandPieces (arguments : TemplateArguments) :
    List Piece → List Value → Except TemplateError (Text × List Value)
  | [], waiting => .ok ([], waiting)
  | .literal c :: pieces, waiting => do
    let (rest, waiting) ← expandPieces arguments pieces waiting
    return (c :: rest, waiting)
  | .directive d :: pieces, waiting => do
    let (shown, waiting) ← expandDirective arguments d waiting
    let (rest, waiting) ← expandPieces arguments pieces waiting
    return (shown ++ rest, waiting)

/-- The text of a template. A sequence of arguments must be used up; a mapping, which is itself the
one argument of directives without a key, need not. -/
def expand (template : Text) (arguments : TemplateArguments) : Except TemplateError Text :=
  match arguments with
  | .sequence values => do
    let (shown, left) ← expandPieces arguments (parse template) values
    if left.isEmpty then return shown else throw .unusedArguments
  | .mapping entries => do
    let (shown, _) ← expandPieces arguments (parse template) [.dict entries]
    return shown

/-- The arguments of a log message or of a diagnostic: one mapping that is not empty serves by its
keys, all else in sequence. -/
def argumentsOf : List Value → TemplateArguments
  | [.dict (entry :: entries)] => .mapping (entry :: entries)
  | values => .sequence values

end Template
end LaunchKit
