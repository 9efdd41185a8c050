import LaunchKit.Value.Literal

/-!
# Values as JSON

The JSON form of a value, in ASCII: texts escape everything outside the visible ASCII characters
by units of sixteen bits, tuples are arrays, what JSON cannot express is replaced by the text that
displays it. A mapping with a key that is no text, number, truth value or null has no JSON form.

## Main definitions

* `Text.jsonQuoted`: a text as a JSON string.
* `JsonError`: why a value has no JSON form.
* `Value.json`: the JSON form.
* `Value.payload`: the JSON form or, failing that, the displayed form.
-/
namespace LaunchKit

namespace Text

/-- One unit of sixteen bits, escaped. -/
def unitEscape (unit : Nat) : Text := '\\' :: 'u' :: hexDigits 4 unit

/-- One character of a JSON string. A character beyond the basic plane takes two units. -/
def jsonChar (c : Char) : Text :=
  if c = '"' ∨ c = '\\' then ['\\', c]
  else if c = '\n' then ['\\', 'n']
  else if c = '\r' then ['\\', 'r']
  else if c = '\t' then ['\\', 't']
  else if c = '\x08' then ['\\', 'b']
  else if c = '\x0c' then ['\\', 'f']
  else if 0x20 ≤ c.toNat ∧ c.toNat < 0x7F then [c]
  else if c.toNat < 0x10000 then unitEscape c.toNat
  else
    unitEscape (0xD800 + (c.toNat - 0x10000) / 0x400) ++
      unitEscape (0xDC00 + (c.toNat - 0x10000) % 0x400)

/-- A text as a JSON string. -/
def jsonQuoted (text : Text) : Text := '"' :: text.flatMap jsonChar ++ ['"']

end Text

/-- Why a value has no JSON form. -/
inductive JsonError where
  | unsupportedKey (typeName : Text)
  | notRendered (error : RenderError)

namespace Value

/-- A floating point number in JSON, where the special values have names of their own. -/
def jsonFloat : Binary64 → Text
  | .nan => "NaN"
  | .infinite negative => if negative then "-Infinity" else "Infinity"
  | x => x.shortestText

/-- A rendering that JSON borrows. -/
def borrowed (rendering : Except RenderError Text) : Except JsonError Text :=
  rendering.mapError .notRendered

/-- The key of a member, not yet quoted. -/
def jsonKey : Value → Except JsonError Text
  | .text s => .ok s
  | .null => .ok "null"
  | .bool b => .ok (if b then "true".toList else "false".toList)
  | .int n => borrowed (writtenInt n)
  | .float x => .ok (jsonFloat x)
  | key => .error (.unsupportedKey key.typeName)

mutual

/-- The JSON form of a value with at most so many levels of arrays and objects. -/
def jsonWithin : (room : Nat) → Value → Except JsonError Text
  | _, .null => .ok "null"
  | _, .bool b => .ok (if b then "true".toList else "false".toList)
  | _, .int n => borrowed (writtenInt n)
  | _, .float x => .ok (jsonFloat x)
  | _, .text s => .ok (Text.jsonQuoted s)
  | _, .bytes bs => .ok (Text.jsonQuoted (Text.quotedBytes bs))
  | 0, .list _ => .error (.notRendered (.nestedTooDeeply .json))
  | room + 1, .list items => do return Text.commaList '[' ']' (← jsonItemsWithin room items)
  | 0, .tuple _ => .error (.notRendered (.nestedTooDeeply .json))
  | room + 1, .tuple items => do return Text.commaList '[' ']' (← jsonItemsWithin room items)
  | 0, .dict _ => .error (.notRendered (.nestedTooDeeply .json))
  | room + 1, .dict entries => do
    return Text.commaList '\x7b' '\x7d' (← jsonMembersWithin room entries)
  | _, .object _ shown _ => .ok (Text.jsonQuoted shown)

/-- The JSON forms of a sequence of values. -/
def jsonItemsWithin : (room : Nat) → List Value → Except JsonError (List Text)
  | _, [] => .ok []
  | room, item :: items => do
    let part ← jsonWithin room item
    let parts ← jsonItemsWithin room items
    return part :: parts

/-- The members of an object, in the order of the entries. -/
def jsonMembersWithin : (room : Nat) → List (Value × Value) → Except JsonError (List Text)
  | _, [] => .ok []
  | room, (key, value) :: entries => do
    let name ← jsonKey key
    let part ← jsonWithin room value
    let parts ← jsonMembersWithin room entries
    return (Text.jsonQuoted name ++ ": ".toList ++ part) :: parts

end

variable [Room]

/-- The JSON form of a value. -/
def json (value : Value) : Except JsonError Text := jsonWithin Room.json value

/-- The JSON form or, where a key or a number has none, the displayed form, which may fail in its
turn. A value that is nested too deeply for JSON is not tried again. -/
def payload (value : Value) : Except RenderError Text :=
  match value.json with
  | .ok form => .ok form
  | .error (.notRendered (.nestedTooDeeply place)) => .error (.nestedTooDeeply place)
  | .error _ => value.display

end Value
end LaunchKit
