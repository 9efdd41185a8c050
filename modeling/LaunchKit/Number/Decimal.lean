import LaunchKit.Number.Binary64
import LaunchKit.Number.Numeral

/-!
# Decimal forms of floating point numbers

A finite number is shown by decimal digits and the place of the point. Which digits are chosen is
one question, how they are laid out another.

* The *shortest* digits are the fewest that read back as the same number; of two candidates of
  that length the nearer is taken, and the even one on a tie.
* A *fixed* form has a given count of places after the point, a *scientific* form a given count of
  significant digits; both round the exact value, a tie going to the even neighbour.

## Main definitions

* `Decimal`: digits and the place of the point.
* `Decimal.shortest`, `Decimal.significant`: the choice of digits.
* `Binary64.shortestText`: the short written form, positional from 0.0001 up to below 10^16.
* `Binary64.fixedText`, `Binary64.scientificText`, `Binary64.generalText`: the forms with a given
  precision.
-/
namespace LaunchKit

/-- The number `0.d₁d₂…dₙ * 10 ^ point`, where the `count` digits are those of `digits`. -/
structure Decimal where
  digits : Nat
  count : Nat
  point : Int
  deriving DecidableEq, Repr

namespace Decimal

/-- The digits as a text of `count` characters. -/
def text (d : Decimal) : Text := Text.padLeft '0' d.count (Numeral.ofNat d.digits)

/-- The digits without zeros at the end, at least one being kept. -/
def trim (d : Decimal) : Decimal := go d.count d
where
  /-- Drop one zero at a time. -/
  go : Nat → Decimal → Decimal
    | 0, d => d
    | fuel + 1, d =>
      if 1 < d.count ∧ d.digits % 10 = 0 then
        go fuel { d with digits := d.digits / 10, count := d.count - 1 }
      else d

/-- The point of a positive fraction: the least `k` with `n / d < 10 ^ k`. The search starts from
an estimate by binary logarithms that is never too large. -/
def pointOf (numerator denominator : Nat) : Int :=
  let bits : Int := Int.ofNat numerator.log2 - Int.ofNat denominator.log2 - 1
  search 4 (Int.fdiv (bits * 30102) 100000 - 1)
where
  /-- Count up to the first power of ten above the fraction. -/
  search : Nat → Int → Int
    | 0, k => k
    | fuel + 1, k =>
      let (n, d) := scaled 10 numerator denominator (-k)
      if n < d then k else search fuel (k + 1)

/-! ## Choice of the digits -/

/-- The value of a fraction in `count` significant digits, rounded half to even. -/
def significant (numerator denominator count : Nat) : Decimal :=
  if numerator = 0 then ⟨0, count, 1⟩
  else
    let point := pointOf numerator denominator
    let (n, d) := scaled 10 numerator denominator (count - point)
    let digits := roundHalfEven n d
    if digits = Nat.pow 10 count then ⟨Nat.pow 10 (count - 1), count, point + 1⟩
    else ⟨digits, count, point⟩

/-- The reals that are read as one number: the bounds are fractions over a common denominator, and
they belong to it or not together. -/
structure Interval where
  low : Nat
  high : Nat
  denominator : Nat
  closed : Bool

/-- The reals that round to a positive number. Below a power of two the neighbours stand twice as
close. -/
def interval (coefficient : Nat) (exponent : Int) : Interval :=
  let atPower := coefficient = Nat.pow 2 52 ∧ Binary64.leastExponent < exponent
  let low := if atPower then 4 * coefficient - 1 else 4 * coefficient - 2
  let (unit, denominator) := scaled 2 1 4 exponent
  ⟨low * unit, (4 * coefficient + 2) * unit, denominator, coefficient % 2 = 0⟩

/-- Whether a fraction lies in the interval. -/
def Interval.contains (i : Interval) (numerator denominator : Nat) : Bool :=
  let low := i.low * denominator
  let high := i.high * denominator
  let value := numerator * i.denominator
  if i.closed then low ≤ value && value ≤ high else low < value && value < high

/-- The nearer of the two grid points around a positive number that read back as it, if one does.
The grid holds the numbers of `count` digits with the given point. -/
def gridPoint? (coefficient : Nat) (exponent : Int) (point : Int) (count : Nat) : Option Nat :=
  let (n, d) := Binary64.fraction coefficient exponent
  let (n, d) := scaled 10 n d (count - point)
  let below := n / d
  let nearest := roundHalfEven n d
  let other := if nearest = below then below + 1 else below
  let fits (digits : Nat) : Bool :=
    let (a, b) := scaled 10 digits 1 (point - count)
    (interval coefficient exponent).contains a b
  if fits nearest then some nearest else if fits other then some other else none

/-- The first of the digit counts `count`, `count + 1`, … that reads back. Seventeen digits always
do, so the last grid needs no test. -/
def shortestFrom (coefficient : Nat) (exponent point : Int) : (fuel count : Nat) → Decimal
  | 0, count =>
    let (n, d) := Binary64.fraction coefficient exponent
    significant n d count
  | fuel + 1, count =>
    match gridPoint? coefficient exponent point count with
    | some digits =>
      if digits = Nat.pow 10 count then ⟨Nat.pow 10 (count - 1), count, point + 1⟩
      else ⟨digits, count, point⟩
    | none => shortestFrom coefficient exponent point fuel (count + 1)

/-- The fewest digits that read back as the number. -/
def shortest (coefficient : Nat) (exponent : Int) : Decimal :=
  if coefficient = 0 then ⟨0, 1, 1⟩
  else
    let (n, d) := Binary64.fraction coefficient exponent
    trim (shortestFrom coefficient exponent (pointOf n d) 16 1)

/-! ## Layout -/

/-- Digits and point without an exponent. At least one digit stands before the point; `padded`
adds `.0` to a whole number. -/
def positional (d : Decimal) (padded : Bool) : Text :=
  let digits := d.text
  if d.point ≤ 0 then "0." ++ List.replicate d.point.natAbs '0' ++ digits
  else if d.count ≤ d.point.toNat then
    digits ++ List.replicate (d.point.toNat - d.count) '0' ++ (if padded then ".0".toList else [])
  else digits.take d.point.toNat ++ '.' :: digits.drop d.point.toNat

/-- A power of ten behind its letter, with a sign and at least two digits. -/
def exponentText (letter : Char) (exponent : Int) : Text :=
  letter :: (if exponent < 0 then '-' else '+') ::
    Text.padLeft '0' 2 (Numeral.ofNat exponent.natAbs)

/-- One digit, the point, the other digits and the power of ten. The point is left out when no
digit follows, unless `keepPoint` is set. -/
def scientific (d : Decimal) (keepPoint : Bool) : Text :=
  let digits := d.text
  digits.take 1 ++ (if 1 < d.count ∨ keepPoint then '.' :: digits.drop 1 else []) ++
    exponentText 'e' (d.point - 1)

end Decimal

namespace Binary64

/-- The text of a number with a sign, where infinities and the value that is no number have
names. -/
def signedText (x : Binary64) (body : Nat → Int → Text) : Text :=
  let sign : Text := if x.isNegative then ['-'] else []
  match x with
  | .nan => "nan"
  | .infinite _ => sign ++ "inf".toList
  | .finite _ coefficient exponent => sign ++ body coefficient exponent

/-- The shortest form that reads back: positional from 0.0001 up to below 10^16, where a whole
number ends in `.0`, and with a power of ten elsewhere. -/
def shortestText (x : Binary64) : Text :=
  x.signedText fun coefficient exponent =>
    let d := Decimal.shortest coefficient exponent
    if -4 < d.point ∧ d.point ≤ 16 then d.positional true else d.scientific false

/-- The digits of a fraction with so many places after the point. -/
def fixedDigits (places : Nat) (keepPoint : Bool) (numerator denominator : Nat) : Text :=
  let digits := Text.padLeft '0' (places + 1)
    (Numeral.ofNat (roundHalfEven (numerator * Nat.pow 10 places) denominator))
  let whole := digits.take (digits.length - places)
  if places = 0 ∧ !keepPoint then whole else whole ++ '.' :: digits.drop (digits.length - places)

/-- The form with a fixed count of places after the point. -/
def fixedText (places : Nat) (keepPoint : Bool) (x : Binary64) : Text :=
  x.signedText fun coefficient exponent =>
    let (n, d) := fraction coefficient exponent
    fixedDigits places keepPoint n d

/-- The form with one digit before the point and a power of ten. -/
def scientificText (places : Nat) (keepPoint : Bool) (x : Binary64) : Text :=
  x.signedText fun coefficient exponent =>
    let (n, d) := fraction coefficient exponent
    (Decimal.significant n d (places + 1)).scientific keepPoint

/-- The shorter of the two forms for a count of significant digits: a power of ten is written when
it is below -4 or not below that count. Zeros at the end are dropped unless `keepZeros` is set. -/
def generalText (digits : Nat) (keepZeros : Bool) (x : Binary64) : Text :=
  x.signedText fun coefficient exponent =>
    let count := max digits 1
    let (n, d) := fraction coefficient exponent
    let full := Decimal.significant n d count
    let shown := if keepZeros then full else full.trim
    if -4 < full.point ∧ full.point ≤ count then
      let body := shown.positional false
      if keepZeros ∧ '.' ∉ body then body ++ ['.'] else body
    else shown.scientific keepZeros

end Binary64
end LaunchKit
