/-
# Decimals and the doubles they round to

A decimal is a whole number of powers of ten, exactly. `Decimal.code` is the
double nearest to it. Decimals far outside the range of doubles are recognised
by their size, so that no power of ten larger than the input allows is formed.

Key definitions: `Decimal`, `Decimal.code`, `Decimal.trim`.
-/
import Calculator.Double

namespace Calculator

/-- The number `digits` · 10 ^ `exponent`. -/
structure Decimal where
  digits : Nat
  exponent : Int
  deriving DecidableEq, Repr

namespace Decimal

open Double

/-- The numerator of a decimal in steps. -/
def numerator (d : Decimal) : Nat := d.digits * 10 ^ d.exponent.toNat * 2 ^ scale

def denominator (d : Decimal) : Nat := 10 ^ (-d.exponent).toNat

/-- The code of the nearest double: a decimal from 10^311 on is infinite, one
below 10^-330 is zero. -/
def code (d : Decimal) : Nat :=
  if d.digits = 0 then 0
  else if 310 < d.exponent then infinityCode
  else if d.exponent + d.digits.log2 + 1 < -330 then 0
  else nearestCode d.numerator d.denominator

/-- No decimal rounds to a NaN. -/
theorem code_le (d : Decimal) : d.code ≤ infinityCode := by
  unfold code
  split
  · exact Nat.zero_le _
  · split
    · exact Nat.le_refl _
    · split
      · exact Nat.zero_le _
      · exact Nat.min_le_left _ _

/-- The same number without the zeros that end its digits. -/
def trim (d : Decimal) : Decimal :=
  if d.digits ≠ 0 ∧ d.digits % 10 = 0 then trim ⟨d.digits / 10, d.exponent + 1⟩ else d
  termination_by d.digits

end Decimal

end Calculator
