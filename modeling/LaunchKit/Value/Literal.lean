import LaunchKit.Number.Decimal
import LaunchKit.Text.Quoted
import LaunchKit.Value.Basic

/-!
# Values as literals

The written form of a value that shows its structure: quoted texts, lists in brackets, tuples in
parentheses, mappings in braces. Writing fails on a number with too many digits and on a value
that is nested too deeply, which is what keeps it from running forever on hostile arguments.

## Main definitions

* `RenderError`: why a value has no written form.
* `Room`: how deeply nested a value may be.
* `Value.literal`: the written form.
* `Value.display`: the form for reading, in which a text stands for itself.
-/
namespace LaunchKit

/-- The two forms in which values are written. -/
inductive WrittenForm where
  | literal
  | json
  deriving DecidableEq, Repr

/-- Why a value could not be written. -/
inductive RenderError where
  | tooManyDigits
  | nestedTooDeeply (form : WrittenForm)
  deriving DecidableEq, Repr

/-- The wording of a failed rendering. -/
def RenderError.message : RenderError → Text
  | .tooManyDigits =>
    "Exceeds the limit (4300 digits) for integer string conversion; " ++
      "use sys.set_int_max_str_digits() to increase the limit".toList
  | .nestedTooDeeply .literal =>
    "maximum recursion depth exceeded while getting the repr of an object"
  | .nestedTooDeeply .json => "maximum recursion depth exceeded while encoding a JSON object"

/-- How many levels of a value there is room to write, as a literal and in JSON. Both are up to the
machine and to how deep in calls the writing begins. What is not nested at all has room. -/
class Room where
  literal : Nat
  json : Nat
  literal_pos : 0 < literal

namespace Value

/-- A whole number within the limit of digits. -/
def writtenInt (n : Int) : Except RenderError Text :=
  match Numeral.ofInt? n with
  | some digits => .ok digits
  | none => .error .tooManyDigits

mutual

/-- The literal of a value of at most so many levels. -/
def literalWithin : (room : Nat) → Value → Except RenderError Text
  | 0, _ => .error (.nestedTooDeeply .literal)
  | _ + 1, .null => .ok "None"
  | _ + 1, .bool b => .ok (if b then "True".toList else "False".toList)
  | _ + 1, .int n => writtenInt n
  | _ + 1, .float x => .ok x.shortestText
  | _ + 1, .text s => .ok (Text.quoted s)
  | _ + 1, .bytes bs => .ok (Text.quotedBytes bs)
  | room + 1, .list items => do
    return Text.commaList '[' ']' (← literalsWithin room items)
  | room + 1, .tuple items => do
    match ← literalsWithin room items with
    | [only] => return '(' :: only ++ ",)".toList
    | parts => return Text.commaList '(' ')' parts
  | room + 1, .dict entries => do
    return Text.commaList '\x7b' '\x7d' (← entryLiteralsWithin room entries)
  | _ + 1, .object _ shown _ => .ok shown

/-- The literals of a sequence of values, up to the first that has none. -/
def literalsWithin : (room : Nat) → List Value → Except RenderError (List Text)
  | _, [] => .ok []
  | room, item :: items => do
    let part ← literalWithin room item
    let parts ← literalsWithin room items
    return part :: parts

/-- The literals of the entries of a mapping. -/
def entryLiteralsWithin : (room : Nat) → List (Value × Value) → Except RenderError (List Text)
  | _, [] => .ok []
  | room, (key, value) :: entries => do
    let keyPart ← literalWithin room key
    let valuePart ← literalWithin room value
    let parts ← entryLiteralsWithin room entries
    return (keyPart ++ ": ".toList ++ valuePart) :: parts

end

variable [Room]

/-- The literal of a value. -/
def literal (value : Value) : Except RenderError Text := literalWithin Room.literal value

/-- The value for reading: a text stands for itself, all else is shown as its literal. -/
def display : Value → Except RenderError Text
  | .text s => .ok s
  | value => value.literal

@[simp] theorem display_text (s : Text) : display (.text s) = .ok s := rfl

@[simp] theorem literal_text (s : Text) : literal (.text s) = .ok (Text.quoted s) := by
  obtain ⟨room, hroom⟩ := Nat.exists_eq_add_one.mpr Room.literal_pos
  rw [literal, hroom, literalWithin]

/-- An object is shown by the text that it shows itself by. -/
@[simp] theorem display_object (kind shown : Text) (content : Option Value) :
    display (.object kind shown content) = .ok shown := by
  obtain ⟨room, hroom⟩ := Nat.exists_eq_add_one.mpr Room.literal_pos
  rw [display, literal, hroom, literalWithin]
  exact fun _ heq => nomatch heq

end Value
end LaunchKit
