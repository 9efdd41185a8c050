import LaunchKit.Failure.Kind
import LaunchKit.Value.Literal

/-!
# Failures

A failure is what a handler raises instead of returning a result: its kind and what it says. What
it says is written only when somebody asks, and may then turn out to have no written form; nobody
who merely passes a failure on needs to know.

## Main definitions

* `Failure`: a kind and a text, with what is known of the failure besides.
* `Failure.told`: what is answered to whoever gets the failure.
* `Failure.unsuitable`, `Failure.tooLarge`: failures that many operations share.
* `Number.minus`, `Number.times`: arithmetic that may fail.
-/
namespace LaunchKit

/-- What a failure of the operating system was made with: its code and its reason, or nothing. -/
structure SystemDetail where
  code : Value := .null
  reason : Value := .null

/-- What a failure in a source was made with: its message, the file, the line and the place in the
line where it begins, the text of the line, and the line and the place in it where it ends. -/
structure SourceDetail where
  message : Value := .null
  file : Value := .null
  line : Value := .null
  offset : Value := .null
  text : Value := .null
  endLine : Value := .null
  endOffset : Value := .null

/-- What a handler raises: its kind and what it says. A failure of the operating system and a
failure in a source have details of their own. Any failure may have been given a code of another
system, which is zero otherwise, and may have been caused by another one, of which a report is
kept. -/
structure Failure where
  kind : Kind
  text : Except RenderError Text
  system : Option SystemDetail := none
  source : Option SourceDetail := none
  foreignCode : Int := 0
  cause : Option Text := none

namespace Failure

/-- A failure of a kind that says this. -/
def saying (kind : Kind) (text : Text) : Failure := { kind, text := .ok text }

/-- The failure of an operation on what it is not made for. -/
def unsuitable (text : Text) : Failure := .saying .badType text

/-- The failure of asking something of a class for a detail that it does not have. -/
def noDetail (className : Text) (detail : String) : Failure :=
  .saying .missingDetail
    ('\'' :: className ++ "' object has no attribute '".toList ++ detail.toList ++ ['\''])

/-- The failure of looking for what cannot be a key of a mapping. -/
def unhashable (className : Text) : Failure :=
  .unsuitable ("unhashable type: '" ++ className ++ ['\''])

/-- The failure of a place in a sequence that is no whole number. -/
def noPlace : Failure :=
  .unsuitable "slice indices must be integers or None or have an __index__ method"

/-- The failure of a whole number that is too large for a conversion. -/
def tooLarge : Failure := .saying .outOfRange "int too large to convert to float"

end Failure

/-- A failed rendering, as a failure. -/
def RenderError.toFailure (error : RenderError) : Failure :=
  match error with
  | .tooManyDigits => .saying .badValue error.message
  | .nestedTooDeeply _ => .saying .tooDeep error.message

namespace Failure

/-! ## What is told -/

/-- The kind and the text that are answered to whoever gets the failure. Of a failure without a
written form the failed rendering is told. -/
def told (failure : Failure) : Kind × Text :=
  match failure.text with
  | .ok text => (failure.kind, text)
  | .error error => (error.toFailure.kind, error.message)

/-- What is told of a failure that says something. -/
@[simp] theorem told_saying (kind : Kind) (text : Text) :
    (saying kind text).told = (kind, text) := rfl

end Failure

/-! ## Numbers -/

/-- The positions in a sequence are below this number. -/
def positionLimit : Int := 0x8000000000000000

/-- Whether a whole number may count the items of a sequence. -/
def isCount (n : Int) : Bool := -positionLimit ≤ n && n < positionLimit

/-- The failure of a number of a class that counts nothing, as one of a kind. -/
def Failure.noCount (kind : Kind) (className : Text) : Failure :=
  .saying kind ("cannot fit '" ++ className ++ "' into an index-sized integer".toList)

/-- The difference of two numbers. -/
def Number.minus (a b : Number) : Except Failure Number :=
  match a.sub? b with
  | some difference => .ok difference
  | none => .error .tooLarge

/-- The product of two numbers. -/
def Number.times (a b : Number) : Except Failure Number :=
  match a.mul? b with
  | some product => .ok product
  | none => .error .tooLarge

end LaunchKit
