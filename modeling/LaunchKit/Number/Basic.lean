import LaunchKit.Number.Binary64

/-!
# Numbers

A number is whole, without bound, or a double precision number. Comparison between the two kinds
is exact; only a conversion rounds, and it fails where the whole number is too large.

## Main definitions

* `Number`: the two kinds.
* `Number.le`, `Number.same`: exact comparison.
* `Number.toBinary64?`: conversion.
* `Number.sub?`, `Number.mul?`: arithmetic.
-/
namespace LaunchKit

/-- A whole number or a double precision number. -/
inductive Number where
  | whole (n : Int)
  | real (x : Binary64)
  deriving DecidableEq, Repr

namespace Number

/-- A whole number as a multiple of the least power of two. -/
def wholeUnits (n : Int) : Int := n * Int.ofNat (Nat.pow 2 Binary64.leastExponent.natAbs)

/-- Order of the values; nothing is comparable to a value that is no number. -/
def le : Number → Number → Bool
  | .whole m, .whole n => m ≤ n
  | .real x, .real y => x.le y
  | .whole _, .real .nan => false
  | .whole _, .real (.infinite negative) => !negative
  | .whole m, .real (.finite s c e) => wholeUnits m ≤ Binary64.units s c e
  | .real .nan, .whole _ => false
  | .real (.infinite negative), .whole _ => negative
  | .real (.finite s c e), .whole n => Binary64.units s c e ≤ wholeUnits n

/-- Whether two numbers have one value. -/
def same (a b : Number) : Bool := a.le b && b.le a

/-- The nearest double precision number; `none` when a whole number is too large. -/
def toBinary64? : Number → Option Binary64
  | .whole n => Binary64.ofInt? n
  | .real x => some x

/-- The difference. Of two whole numbers it is exact; otherwise both are converted first, which a
whole number may be too large for. -/
def sub? : Number → Number → Option Number
  | .whole m, .whole n => some (.whole (m - n))
  | a, b => return .real ((← a.toBinary64?).sub (← b.toBinary64?))

/-- The product, with the same conversions. -/
def mul? : Number → Number → Option Number
  | .whole m, .whole n => some (.whole (m * n))
  | a, b => return .real ((← a.toBinary64?).mul (← b.toBinary64?))

end Number
end LaunchKit
