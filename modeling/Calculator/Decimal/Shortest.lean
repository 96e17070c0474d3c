/-
# The shortest decimal of a double

The shortest decimal that reads back as a double has the fewest digits, and of
those with as few the one nearest to the double's value. On the grid of n-digit
decimals only the two neighbours of the value can be that one, and both are
tried with the reader itself (`Decimal.code`): so a result reads back by the
very test that chose it, and the exact expansion stands in where no grid of
seventeen digits has a hit.

Key definitions: `Decimal.onGrid?`, `Decimal.exact`, `Decimal.shortest`.
-/
import Calculator.Decimal

namespace Calculator.Decimal

open Double

/-- The value of `s` steps in units of 10 ^ `e`, as a quotient. -/
def unitsNum (s : Nat) (e : Int) : Nat := s * 10 ^ (-e).toNat

def unitsDen (e : Int) : Nat := 10 ^ e.toNat * 2 ^ scale

/-- How many digits the whole part of a value has; for a value below one, minus the
number of zeros between the point and its first digit, as its reciprocal shows. -/
def magnitude (s : Nat) : Int :=
  if 2 ^ scale ≤ s then (Nat.toDigits 10 (s / 2 ^ scale)).length
  else 1 - (Nat.toDigits 10 ((2 ^ scale - 1) / s)).length

/-- The neighbour of a double on the grid of 10 ^ `e` that reads back as it, the
nearer of two, and of two as near the larger. -/
def onGrid? (c : Nat) (e : Int) : Option Decimal :=
  let num := unitsNum (steps c) e
  let den := unitsDen e
  let below := trim ⟨num / den, e⟩
  let above := trim ⟨num / den + 1, e⟩
  if below.code = c ∧ (above.code ≠ c ∨ 2 * (num % den) < den) then some below
  else if above.code = c then some above
  else none

/-- All digits of a double: a power of 1/2 is one of 5 over one of 10. -/
def exact (c : Nat) : Decimal := ⟨steps c * 5 ^ scale, -scale⟩

/-- The shortest decimal that reads back as the double of a finite code. -/
def shortest (c : Nat) : Decimal :=
  let whole := magnitude (steps c)
  ((List.range 17).findSome? fun n : Nat => onGrid? c (whole - (n + 1))).getD (exact c)

theorem code_of_onGrid? {c : Nat} {e : Int} {d : Decimal} (h : onGrid? c e = some d) :
    d.code = c := by
  simp only [onGrid?] at h
  split at h
  · next hb => exact Option.some.inj h ▸ hb.1
  · split at h
    · next ha => exact Option.some.inj h ▸ ha
    · cases h

theorem numerator_exact (c : Nat) : (exact c).numerator = steps c * 10 ^ scale := by
  show steps c * 5 ^ scale * 10 ^ (-(scale : Int)).toNat * 2 ^ scale = _
  rw [show (-(scale : Int)).toNat = 0 from Int.toNat_of_nonpos (by omega), Nat.pow_zero,
    Nat.mul_one, Nat.mul_assoc, ← Nat.mul_pow]

theorem denominator_exact (c : Nat) : (exact c).denominator = 1 * 10 ^ scale := by
  show 10 ^ (- -(scale : Int)).toNat = _
  rw [Int.neg_neg, Int.toNat_natCast, Nat.one_mul]

theorem code_exact {c : Nat} (h0 : c ≠ 0) (hc : c ≤ infinityCode) : (exact c).code = c := by
  have h5 : 2 ^ scale ≤ (exact c).digits :=
    Nat.le_trans (Nat.pow_le_pow_left (by omega) scale) (Nat.le_mul_of_pos_left _ (steps_pos h0))
  have hd : (exact c).digits ≠ 0 := by have := Nat.two_pow_pos scale; omega
  have hl : scale ≤ (exact c).digits.log2 := (Nat.le_log2 hd).2 h5
  have he : (exact c).exponent = -(scale : Int) := rfl
  unfold code
  rw [if_neg hd, if_neg (by omega), if_neg (by omega), numerator_exact, denominator_exact,
    nearestCode_mul_right _ _ (Nat.pow_pos (by omega)), nearestCode_steps hc]

/-- The shortest decimal of a double reads back as it. -/
theorem code_shortest {c : Nat} (h0 : c ≠ 0) (hc : c ≤ infinityCode) : (shortest c).code = c := by
  have hget : ∀ o : Option Decimal, (∀ d, o = some d → d.code = c) → (o.getD (exact c)).code = c
    | none, _ => code_exact h0 hc
    | some d, h => h d rfl
  refine hget _ fun d h => ?_
  obtain ⟨n, -, hn⟩ := List.exists_of_findSome?_eq_some h
  exact code_of_onGrid? hn

end Calculator.Decimal
