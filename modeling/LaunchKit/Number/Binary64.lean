import LaunchKit.Text.Basic

/-!
# Binary floating point numbers

Numbers of the double precision format: a coefficient of at most 53 bits times a power of two, a
sign, two infinities and one value that is no number. Each operation computes the exact result and
rounds it once, to the nearest representable number and to an even coefficient on a tie.

## Main definitions

* `Binary64`: the numbers.
* `Binary64.ofFraction`: the representable number nearest to a fraction.
* `Binary64.ofInt?`: conversion of a whole number, which may be out of range.
* `Binary64.sub`, `Binary64.mul`, `Binary64.le`: arithmetic and order.
* `Binary64.parse?`: a decimal numeral read as a number.
-/
namespace LaunchKit

/-- A double precision number. A finite one is plus or minus `coefficient * 2 ^ exponent`, where
the coefficient has 53 bits unless the exponent is the least one. -/
inductive Binary64 where
  | nan
  | infinite (negative : Bool)
  | finite (negative : Bool) (coefficient : Nat) (exponent : Int)
  deriving DecidableEq, Repr

/-- The whole number nearest to a fraction, an even one on a tie. -/
def roundHalfEven (numerator denominator : Nat) : Nat :=
  let quotient := numerator / denominator
  let twice := 2 * (numerator % denominator)
  if twice < denominator then quotient
  else if denominator < twice then quotient + 1
  else if quotient % 2 = 0 then quotient else quotient + 1

/-- A fraction times a power of a base, as a numerator and a denominator. -/
def scaled (base numerator denominator : Nat) (exponent : Int) : Nat × Nat :=
  if exponent < 0 then (numerator, denominator * base.pow exponent.natAbs)
  else (numerator * base.pow exponent.toNat, denominator)

namespace Binary64

/-- The bits of a full coefficient. -/
def precision : Nat := 53

/-- The exponents of the smallest and of the largest numbers. -/
def leastExponent : Int := -1074

def greatestExponent : Int := 971

/-- Zero of either sign. -/
def zero (negative : Bool) : Binary64 := .finite negative 0 leastExponent

/-- The largest power of two at or below a fraction, as an exponent. -/
def magnitude (numerator denominator : Nat) : Int :=
  let guess : Int := Int.ofNat numerator.log2 - Int.ofNat denominator.log2
  let (n, d) := scaled 2 numerator denominator (-guess)
  if n < d then guess - 1 else guess

/-- The representable number nearest to plus or minus `numerator / denominator`. -/
def ofFraction (negative : Bool) (numerator denominator : Nat) : Binary64 :=
  if numerator = 0 ∨ denominator = 0 then zero negative
  else
    let exponent := max (magnitude numerator denominator - 52) leastExponent
    let (n, d) := scaled 2 numerator denominator (-exponent)
    let coefficient := roundHalfEven n d
    let (coefficient, exponent) :=
      if coefficient = Nat.pow 2 precision then (coefficient / 2, exponent + 1)
      else (coefficient, exponent)
    if greatestExponent < exponent then .infinite negative
    else .finite negative coefficient exponent

/-- A whole number, rounded; `none` when it is too large for the format. -/
def ofInt? (n : Int) : Option Binary64 :=
  match ofFraction (n < 0) n.natAbs 1 with
  | .finite negative coefficient exponent => some (.finite negative coefficient exponent)
  | _ => none

/-! ## Parts of a number -/

/-- The sign bit. -/
def isNegative : Binary64 → Bool
  | .nan => false
  | .infinite negative => negative
  | .finite negative _ _ => negative

/-- The absolute value of a finite number as a fraction. -/
def fraction (coefficient : Nat) (exponent : Int) : Nat × Nat := scaled 2 coefficient 1 exponent

/-- The whole part of a finite number, rounded toward zero. -/
def truncate (negative : Bool) (coefficient : Nat) (exponent : Int) : Int :=
  let (n, d) := fraction coefficient exponent
  if negative then -(Int.ofNat (n / d)) else Int.ofNat (n / d)

/-- A finite number as a signed multiple of the least power of two. -/
def units (negative : Bool) (coefficient : Nat) (exponent : Int) : Int :=
  let n := Int.ofNat (coefficient * Nat.pow 2 (exponent - leastExponent).toNat)
  if negative then -n else n

/-- The number with so many units, rounded. -/
def ofUnits (negativeZero : Bool) (n : Int) : Binary64 :=
  if n = 0 then zero negativeZero
  else ofFraction (n < 0) n.natAbs (Nat.pow 2 leastExponent.natAbs)

/-! ## Arithmetic and order -/

/-- The difference, rounded. A difference of equal numbers is a positive zero, except that
nothing taken from a negative zero leaves it. -/
def sub : Binary64 → Binary64 → Binary64
  | .nan, _ => .nan
  | _, .nan => .nan
  | .infinite a, .infinite b => if a = b then .nan else .infinite a
  | .infinite a, _ => .infinite a
  | _, .infinite b => .infinite (!b)
  | .finite s m p, .finite t n q =>
    ofUnits (s && m = 0 && !t && n = 0) (units s m p - units t n q)

/-- The product, rounded. -/
def mul : Binary64 → Binary64 → Binary64
  | .nan, _ => .nan
  | _, .nan => .nan
  | .infinite a, .infinite b => .infinite (a != b)
  | .infinite a, .finite t n _ => if n = 0 then .nan else .infinite (a != t)
  | .finite s m _, .infinite b => if m = 0 then .nan else .infinite (s != b)
  | .finite s m p, .finite t n q =>
    let (numerator, denominator) := scaled 2 (m * n) 1 (p + q)
    ofFraction (s != t) numerator denominator

/-- Order of the values: zeros are equal, and nothing is comparable to a value that is no number. -/
def le : Binary64 → Binary64 → Bool
  | .nan, _ => false
  | _, .nan => false
  | .infinite a, .infinite b => a || !b
  | .infinite a, _ => a
  | _, .infinite b => !b
  | .finite s m p, .finite t n q => units s m p ≤ units t n q

/-! ## Reading -/

/-- The digits in front of a text, as a number and their count, and the rest. -/
def spanDigits (text : Text) : Nat × Nat × Text :=
  let digits := text.takeWhile Char.isDigit
  (Nat.ofDigitChars 10 digits 0, digits.length, text.dropWhile Char.isDigit)

/-- A decimal exponent: `e`, an optional sign and digits; nothing stands for zero. -/
def parseExponent? : Text → Option Int
  | [] => some 0
  | c :: rest =>
    if c = 'e' ∨ c = 'E' then
      let (negative, rest) := match rest with
        | '-' :: rest => (true, rest)
        | '+' :: rest => (false, rest)
        | rest => (false, rest)
      match spanDigits rest with
      | (n, count, []) => if count = 0 then none else some (if negative then -n else n)
      | _ => none
    else none

/-- A whole number times a power of ten, rounded. Beyond four hundred places on either side the
result is an infinity or zero, whatever the digits. -/
def ofDecimal (negative : Bool) (digits count : Nat) (exponent : Int) : Binary64 :=
  if digits = 0 ∨ exponent + count < -400 then zero negative
  else if 400 < exponent then .infinite negative
  else
    let (n, d) := scaled 10 digits 1 exponent
    ofFraction negative n d

/-- An unsigned decimal numeral with an optional point and an optional exponent. -/
def parseUnsigned? (negative : Bool) (text : Text) : Option Binary64 :=
  let (whole, wholeCount, rest) := spanDigits text
  let (part, partCount, rest) := match rest with
    | '.' :: rest => spanDigits rest
    | rest => (0, 0, rest)
  if wholeCount + partCount = 0 then none
  else (parseExponent? rest).map fun exponent =>
    ofDecimal negative (whole * Nat.pow 10 partCount + part) (wholeCount + partCount)
      (exponent - partCount)

/-- A decimal numeral, an infinity or `nan`, with an optional sign. -/
def parse? (text : Text) : Option Binary64 :=
  let (negative, body) := match text with
    | '-' :: rest => (true, rest)
    | '+' :: rest => (false, rest)
    | rest => (false, rest)
  let name := body.map Char.toLower
  if name = "nan".toList then some .nan
  else if name = "inf".toList ∨ name = "infinity".toList then some (.infinite negative)
  else parseUnsigned? negative body

example : ofInt? (2 ^ 53 + 1) = some (.finite false (2 ^ 52) 1) := by decide
example : ofInt? (10 ^ 400) = none := by decide +kernel

end Binary64
end LaunchKit
