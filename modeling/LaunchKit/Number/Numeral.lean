import LaunchKit.Number.Binary64
import LaunchKit.Text.Blank
import LaunchKit.Text.DecimalDigit

/-!
# Numerals

Whole numbers written in decimal digits, and texts read as numbers. Reading is generous: the digits
may be those of any script, a single underscore may stand between two of them, one sign may stand
before them and margin around all of it. A whole number of more than `digitLimit` digits is refused
in both directions, which bounds the time they take.

## Main definitions

* `Numeral.digitLimit`: the largest count of digits.
* `Numeral.ofInt`, `Numeral.ofInt?`: the written form, without and with the limit.
* `Numeral.read?`: the whole number that a text stands for.
* `Numeral.readBinary64?`: the floating point number that a text stands for.
-/
namespace LaunchKit.Numeral

/-- The largest count of digits of a number that is written or read. -/
def digitLimit : Nat := 4300

/-! ## Writing -/

/-- The decimal digits of a natural number. -/
def ofNat (n : Nat) : Text := Nat.toDigits 10 n

/-- The decimal form of a whole number, a negative one behind a hyphen. -/
def ofInt (n : Int) : Text :=
  if n < 0 then '-' :: ofNat n.natAbs else ofNat n.natAbs

/-- The decimal form, unless it has too many digits. -/
def ofInt? (n : Int) : Option Text :=
  if n.natAbs < Nat.pow 10 digitLimit then some (ofInt n) else none

/-! ## Reading -/

/-- The values of the digits, with single underscores between them. The flag tells whether a digit
stands before the text: neither the start nor an underscore may be followed by an underscore or by
the end. -/
def digitValues? (afterDigit : Bool) : Text → Option (List Nat)
  | [] => if afterDigit then some [] else none
  | c :: rest =>
    match Text.decimalDigit? c with
    | some value => (digitValues? true rest).map (value :: ·)
    | none => if afterDigit && c = '_' then digitValues? false rest else none

/-- The number written by the values of its digits, the most significant first. -/
def ofDigitValues (values : List Nat) : Nat :=
  values.foldl (fun n value => n * 10 + value) 0

/-- An unsigned numeral within the limit. Leading zeros count as digits, underscores do not. -/
def readNat? (text : Text) : Option Nat :=
  match digitValues? false text with
  | some values => if values.length ≤ digitLimit then some (ofDigitValues values) else none
  | none => none

/-- A numeral with an optional sign. -/
def readSigned? : Text → Option Int
  | '-' :: rest => (readNat? rest).map fun n => -(n : Int)
  | '+' :: rest => (readNat? rest).map Int.ofNat
  | text => (readNat? text).map Int.ofNat

/-- The whole number that a text stands for, margin on both sides left out. -/
def read? (text : Text) : Option Int := readSigned? (Text.trimMargin text)

/-- The text with the usual digits in place of others and without the underscores between digits.
The flag tells whether a digit stands before the text. -/
def plainDigits? (afterDigit : Bool) : Text → Option Text
  | [] => some []
  | c :: rest =>
    match Text.decimalDigit? c with
    | some value => (plainDigits? true rest).map (Char.ofNat (0x30 + value) :: ·)
    | none =>
      if c ≠ '_' then (plainDigits? false rest).map (c :: ·)
      else if afterDigit && rest.head?.any Text.isDecimalDigit then plainDigits? false rest
      else none

/-- The floating point number that a text stands for, margin on both sides left out. -/
def readBinary64? (text : Text) : Option Binary64 :=
  (plainDigits? false (Text.trimMargin text)).bind Binary64.parse?

example : read? " +1_000\n" = some 1000 ∧ read? "1__0" = none ∧ read? "- 5" = none := by decide
example : plainDigits? false "1_0.٣" = some "10.3".toList ∧ plainDigits? false "1_.0" = none := by
  decide
example : read? "٣" = some 3 ∧ read? "" = none ∧ read? "5_" = none := by decide

end LaunchKit.Numeral
