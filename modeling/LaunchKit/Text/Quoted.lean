import LaunchKit.Text.Printable

/-!
# Quoted texts

Three written forms of a text, each on one line whatever the text holds. A *quoted* text stands
between single quotes, or between double quotes when it holds a single quote and no double one;
what is not printable is escaped by its code point. An *ASCII* quoted text escapes every character
beyond ASCII as well. Bytes are quoted in the same manner behind the letter `b`.

## Main definitions

* `Text.hexDigits`: a number in a fixed count of hexadecimal digits.
* `Text.quoted`, `Text.quotedBytes`: the two written forms.
* `Text.escapeBeyondAscii`: the further step to the ASCII form.
-/
namespace LaunchKit.Text

/-- The lower-case hexadecimal digit of a number below sixteen. -/
def hexDigit (d : Nat) : Char := if d < 10 then Char.ofNat (0x30 + d) else Char.ofNat (0x57 + d)

/-- The last `count` hexadecimal digits of a number, the most significant first. -/
def hexDigits : (count : Nat) → Nat → Text
  | 0, _ => []
  | count + 1, n => hexDigits count (n / 16) ++ [hexDigit (n % 16)]

/-- A code point in the shortest of the three escape forms that holds it. -/
def pointEscape (point : Nat) : Text :=
  if point < 0x100 then '\\' :: 'x' :: hexDigits 2 point
  else if point < 0x10000 then '\\' :: 'u' :: hexDigits 4 point
  else '\\' :: 'U' :: hexDigits 8 point

/-- The mark to quote with: double only when that saves an escape. -/
def quoteMark (text : Text) : Char :=
  if '\'' ∈ text ∧ '"' ∉ text then '"' else '\''

/-- One character between quotes. -/
def quotedChar (mark c : Char) : Text :=
  if c = mark ∨ c = '\\' then ['\\', c]
  else if c = '\n' then ['\\', 'n']
  else if c = '\r' then ['\\', 'r']
  else if c = '\t' then ['\\', 't']
  else if isPrintable c then [c]
  else pointEscape c.toNat

/-- The quoted form of a text. -/
def quoted (text : Text) : Text :=
  let mark := quoteMark text
  mark :: text.flatMap (quotedChar mark) ++ [mark]

/-- A written form with the characters beyond ASCII escaped too. -/
def escapeBeyondAscii (text : Text) : Text :=
  text.flatMap fun c => if c.toNat < 128 then [c] else pointEscape c.toNat

/-- One byte between quotes: visible ASCII is kept. -/
def quotedByte (mark : Char) (byte : UInt8) : Text :=
  let c := Char.ofNat byte.toNat
  if byte < 128 then quotedChar mark c else pointEscape byte.toNat

/-- The quoted form of a sequence of bytes. -/
def quotedBytes (bytes : List UInt8) : Text :=
  let mark := quoteMark (bytes.map fun byte => Char.ofNat byte.toNat)
  'b' :: mark :: bytes.flatMap (quotedByte mark) ++ [mark]

example : quoted "it's" = "\"it's\"".toList := by decide
example : quoted "a\x1b\u00a0" = "'a\\x1b\\xa0'".toList := by decide

/-- A list of texts between brackets or braces, separated by commas. -/
def commaList (opening closing : Char) (parts : List Text) : Text :=
  opening :: List.intercalate ", ".toList parts ++ [closing]

end LaunchKit.Text
