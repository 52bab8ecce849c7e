-- The binary number nearest to a quotient of whole numbers, in the precision of floating point
-- numbers; of two equally near ones the even one. Everything is computed on whole numbers.
import Stencil.Decimal.Shortest

namespace Stencil

/-- A quotient rounded to the nearest whole number, a half to the even neighbour. -/
def nearestQuotient (num den : Nat) : Nat :=
  let below := num / den
  let rest := num % den
  if 2 * rest < den || (2 * rest = den && below % 2 = 0) then below else below + 1

/-- The least exponent of a floating point number. -/
def Binary.leastExponent : Int := -1074

/-- A quotient to a power of two: numerator and denominator of `num / den / 2 ^ exponent`. -/
def scaledQuotient (num den : Nat) (exponent : Int) : Nat × Nat :=
  (num * twoTo (-exponent).toNat, den * twoTo exponent.toNat)

/-- The exponent of the last place of a quotient that has 53 places, or the least exponent. -/
def lastPlace (num den : Nat) : Int :=
  let guess : Int := (num.log2 : Int) - den.log2 - 53
  let (n, d) := scaledQuotient num den guess
  max Binary.leastExponent (if n / d < twoTo 53 then guess else guess + 1)

/-- The binary number nearest to a quotient. -/
def Binary.nearest (num den : Nat) : Binary :=
  let exponent := lastPlace num den
  let (n, d) := scaledQuotient num den exponent
  ⟨nearestQuotient n d, exponent⟩

/-- The bits of infinity. -/
def infinityBits : Nat := 2047 * twoTo 52

/-- The floating point number that a binary number is, whose mantissa has 53 places or whose
exponent is the least one; what is too large is infinite. -/
def Binary.toFloat (x : Binary) : Float :=
  let bits : Nat := (x.exponent - leastExponent).toNat * twoTo 52 + x.mantissa
  Float.ofBits (min bits infinityBits).toUInt64

/-- The floating point number nearest to a quotient with a positive denominator. -/
def floatQuotient (num : Int) (den : Nat) : Float :=
  let size := if num = 0 then 0.0 else (Binary.nearest num.natAbs den).toFloat
  if num < 0 then -size else size

/-- A quotient is rounded by at most one half. -/
theorem nearestQuotient_near (num den : Nat) (h : 0 < den) :
    2 * (nearestQuotient num den * den) ≤ 2 * num + den ∧
      2 * num ≤ 2 * (nearestQuotient num den * den) + den := by
  have split : den * (num / den) + num % den = num := Nat.div_add_mod num den
  have small := Nat.mod_lt num h
  have comm := Nat.mul_comm den (num / den)
  have next : (num / den + 1) * den = num / den * den + den := Nat.succ_mul _ _
  unfold nearestQuotient
  simp only
  split
  · rename_i c
    simp only [Bool.or_eq_true, Bool.and_eq_true, decide_eq_true_eq] at c
    omega
  · rename_i c
    simp only [Bool.or_eq_true, Bool.and_eq_true, decide_eq_true_eq, not_or] at c
    omega

end Stencil
