import LaunchKit.Number.Binary64

/-!
# Which whole numbers have a floating point number

A whole number is rounded to 53 bits. It has no floating point number when what it is rounded to
reaches `2 ^ 1024`, which happens from the middle between that power and the largest number below
it: there the tie goes up, because the coefficient below is odd.

## Main definitions

* `Binary64.wholeLimit`: the least whole number that is too large.

## Main statements

* `lt_roundHalfEven_iff`: when rounding goes beyond an odd number.
* `Binary64.ofInt?_eq_none_iff`: the whole numbers that are too large.
-/
namespace LaunchKit

/-! ## Rounding -/

theorem le_roundHalfEven (numerator denominator : Nat) :
    numerator / denominator ≤ roundHalfEven numerator denominator := by
  rw [roundHalfEven]
  repeat' split
  all_goals omega

theorem roundHalfEven_le (numerator denominator : Nat) :
    roundHalfEven numerator denominator ≤ numerator / denominator + 1 := by
  rw [roundHalfEven]
  repeat' split
  all_goals omega

/-- **Beyond an odd number**, rounding goes from the middle on. -/
theorem lt_roundHalfEven_iff {numerator denominator odd : Nat} (hpositive : 0 < denominator)
    (hodd : odd % 2 = 1) :
    odd < roundHalfEven numerator denominator ↔
      2 * (denominator * odd) + denominator ≤ 2 * numerator := by
  have hsum := Nat.div_add_mod numerator denominator
  have hrest := Nat.mod_lt numerator hpositive
  rcases Nat.lt_trichotomy (numerator / denominator) odd with hlt | heq | hgt
  · have hmul : denominator * (numerator / denominator + 1) ≤ denominator * odd :=
      Nat.mul_le_mul_left _ hlt
    have hle := roundHalfEven_le numerator denominator
    rw [Nat.mul_add] at hmul
    omega
  · rw [roundHalfEven, heq]
    rw [heq] at hsum
    repeat' split
    all_goals omega
  · have hmul : denominator * (odd + 1) ≤ denominator * (numerator / denominator) :=
      Nat.mul_le_mul_left _ hgt
    have hle := le_roundHalfEven numerator denominator
    rw [Nat.mul_add] at hmul
    omega

namespace Binary64

/-! ## Range -/

/-- A negative power of the base goes into the denominator. -/
theorem scaled_neg {base numerator denominator k : Nat} (hpositive : 0 < k) :
    scaled base numerator denominator (-(k : Int)) = (numerator, denominator * base.pow k) := by
  rw [scaled, if_pos (by omega), Int.natAbs_neg, Int.natAbs_natCast]

theorem magnitude_whole {n : Nat} (hne : n ≠ 0) : magnitude n 1 = n.log2 := by
  have hle : Nat.pow 2 n.log2 ≤ n := Nat.log2_self_le hne
  have hguess : Int.ofNat n.log2 - Int.ofNat (Nat.log2 1) = n.log2 := by
    have hlog : Nat.log2 1 = 0 := by decide
    rw [hlog]
    exact Int.sub_zero _
  have hscaled : scaled 2 n 1 (-(n.log2 : Int)) = (n, Nat.pow 2 n.log2) := by
    rcases Nat.eq_zero_or_pos n.log2 with hzero | hpositive
    · rw [hzero]
      exact congrArg (·, 1) (Nat.mul_one n)
    · rw [scaled_neg hpositive, Nat.one_mul]
  rw [magnitude, hguess, hscaled]
  exact if_neg (by omega)

/-- The exponent at which a fraction is rounded. -/
def roundingExponent (numerator denominator : Nat) : Int :=
  max (magnitude numerator denominator - 52) leastExponent

/-- The coefficient that a fraction is rounded to, before it is carried. -/
def roundedCoefficient (numerator denominator : Nat) : Nat :=
  let fraction := scaled 2 numerator denominator (-roundingExponent numerator denominator)
  roundHalfEven fraction.1 fraction.2

/-- A fraction is too large when its exponent is, or when it has the largest exponent and is
carried. -/
theorem ofInt?_eq_none_iff_roundingExponent {n : Int} (hne : n ≠ 0) :
    ofInt? n = none ↔
      greatestExponent < roundingExponent n.natAbs 1 ∨
        roundingExponent n.natAbs 1 = greatestExponent ∧
          roundedCoefficient n.natAbs 1 = Nat.pow 2 precision := by
  have hfraction : ofFraction (n < 0) n.natAbs 1 =
      let carried :=
        if roundedCoefficient n.natAbs 1 = Nat.pow 2 precision then
          (roundedCoefficient n.natAbs 1 / 2, roundingExponent n.natAbs 1 + 1)
        else (roundedCoefficient n.natAbs 1, roundingExponent n.natAbs 1)
      if greatestExponent < carried.2 then .infinite (n < 0)
      else .finite (n < 0) carried.1 carried.2 :=
    if_neg (by omega)
  rw [ofInt?, hfraction]
  by_cases hcarried : roundedCoefficient n.natAbs 1 = Nat.pow 2 precision
  · rw [if_pos hcarried]
    dsimp only
    by_cases hexponent : greatestExponent < roundingExponent n.natAbs 1 + 1
    · rw [if_pos hexponent]
      exact iff_of_true rfl (by omega)
    · rw [if_neg hexponent]
      exact iff_of_false nofun (by omega)
  · rw [if_neg hcarried]
    dsimp only
    by_cases hexponent : greatestExponent < roundingExponent n.natAbs 1
    · rw [if_pos hexponent]
      exact iff_of_true rfl (by omega)
    · rw [if_neg hexponent]
      exact iff_of_false nofun (by omega)

/-- The least whole number that is too large: the middle between the largest number and the power of
two above it. -/
def wholeLimit : Nat := Nat.pow 2 1024 - Nat.pow 2 970

/-- **The whole numbers that are too large** are those from the middle between the largest number
and the power of two above it. -/
theorem ofInt?_eq_none_iff {n : Int} : ofInt? n = none ↔ wholeLimit ≤ n.natAbs := by
  have hpow (m : Nat) : Nat.pow 2 m = 2 ^ m := rfl
  -- All powers in terms of half of the last place of the largest number, which is `2 ^ k`.
  obtain ⟨k, hk⟩ : ∃ k, k = 970 := ⟨970, rfl⟩
  have hplace : 2 ^ (k + 1) = 2 * 2 ^ k := Nat.pow_succ'
  have hlast : 2 ^ 1023 = 2 ^ 53 * 2 ^ k := by
    rw [show 1023 = 53 + k by omega, Nat.pow_add]
  have hbound : 2 ^ 1024 = 2 ^ 54 * 2 ^ k := by
    rw [show 1024 = 54 + k by omega, Nat.pow_add]
  have hpositive : 0 < 2 ^ k := Nat.two_pow_pos k
  rw [wholeLimit, ← hk, show 1024 = 54 + k by omega, hpow, hpow, Nat.pow_add]
  generalize 2 ^ k = half at hplace hlast hbound hpositive ⊢
  by_cases hzero : n = 0
  · refine iff_of_false ?_ (by omega)
    rw [hzero]
    nofun
  have hne : n.natAbs ≠ 0 := by omega
  have hexponent : roundingExponent n.natAbs 1 = max (n.natAbs.log2 - 52 : Int) (-1074) := by
    rw [roundingExponent, magnitude_whole hne]
    rfl
  have habove : 1024 ≤ n.natAbs.log2 ↔ 2 ^ 54 * half ≤ n.natAbs := by
    rw [Nat.le_log2 hne, hbound]
  have hbelow : 1023 ≤ n.natAbs.log2 ↔ 2 ^ 53 * half ≤ n.natAbs := by
    rw [Nat.le_log2 hne, hlast]
  rw [ofInt?_eq_none_iff_roundingExponent hzero, hexponent, greatestExponent]
  rcases Nat.lt_trichotomy n.natAbs.log2 1023 with hlt | heq | hgt
  · exact iff_of_false (by omega) (by omega)
  · have hcoefficient : roundedCoefficient n.natAbs 1 = roundHalfEven n.natAbs (2 * half) := by
      have hscaled : scaled 2 n.natAbs 1 (-971) = (n.natAbs, 2 * half) := by
        have hexponent : (-971 : Int) = -((k + 1 : Nat) : Int) := by omega
        rw [hexponent, scaled_neg (by omega), Nat.one_mul, hpow, hplace]
      have hgreatest : roundingExponent n.natAbs 1 = 971 := by omega
      rw [roundedCoefficient, hgreatest, hscaled]
    have hle := roundHalfEven_le n.natAbs (2 * half)
    have hquotient : n.natAbs / (2 * half) < 2 ^ 53 :=
      Nat.div_lt_of_lt_mul (by omega)
    have hlt : 2 ^ 53 - 1 < roundHalfEven n.natAbs (2 * half) ↔
        2 * (2 * half * (2 ^ 53 - 1)) + 2 * half ≤ 2 * n.natAbs :=
      lt_roundHalfEven_iff (by omega) (by decide)
    have hprecision : Nat.pow 2 precision = 2 ^ 53 := rfl
    rw [hcoefficient, hprecision]
    constructor
    · rintro (h | ⟨-, h⟩)
      · omega
      · rw [h] at hlt
        omega
    · intro h
      refine Or.inr ⟨by omega, ?_⟩
      have hcarried := hlt.mpr (by omega)
      omega
  · exact iff_of_true (by omega) (by omega)

end Binary64
end LaunchKit
