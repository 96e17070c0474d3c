/-
# Doubles as whole numbers of steps

A double without its sign is a code below 2^63, and codes are in the order of
the values. Counted in steps of 2^-1074, the least positive double, every finite
double is a whole number (`steps`), so nothing below needs a fraction or a
signed exponent: the nearest double of a quotient is found by one division
(`nearestCode`), ties to the even code.

Not covered: signs beyond the sign bit, and what the arithmetic operations do.

Key definitions: `scale`, `code`, `ofCode`, `steps`, `nearestCode`, `natural?`,
`trunc`.
-/

-- powers of natural numbers are those of the core library, whatever else is imported
attribute [instance (high + 1), default_instance (high + 1)] instPowNat

namespace Calculator.Double

/-- A step is 2^-`scale`, the least positive double. -/
def scale : Nat := 1074

/-- The code of an infinity; the codes above it are NaNs. -/
def infinityCode : Nat := 0x7FF * 2 ^ 52

/-- The code of the NaN that reading gives. -/
def nanCode : Nat := infinityCode + 2 ^ 51

/-- The bits of a double without the sign bit. -/
def code (x : Float) : Nat := x.toBits.toNat % 2 ^ 63

def isNegative (x : Float) : Bool := 2 ^ 63 ≤ x.toBits.toNat

/-- The double with a sign and a code below 2^63. -/
def ofCode (negative : Bool) (c : Nat) : Float :=
  Float.ofBits (UInt64.ofNat (if negative then 2 ^ 63 + c else c))

/-- The value of a finite code, in steps. -/
def steps (c : Nat) : Nat :=
  if c < 2 ^ 52 then c else (2 ^ 52 + c % 2 ^ 52) * 2 ^ (c / 2 ^ 52 - 1)

/-- The whole number nearest to a quotient, a tie going to the even one. -/
def roundHalfEven (num den : Nat) : Nat :=
  let q := num / den
  let r := num % den
  if 2 * r < den then q else if den < 2 * r then q + 1 else q + q % 2

/-- The code of the double nearest to `num / den` steps. Above the largest finite
double it is the infinity. A carry out of the 53 digits moves to the next power
of two by itself, as codes are in the order of the values. -/
def nearestCode (num den : Nat) : Nat :=
  let shift := (num / den).log2 - 52
  min infinityCode (shift * 2 ^ 52 + roundHalfEven num (den * 2 ^ shift))

/-- The natural number that a double is, minus zero being zero. -/
def natural? (x : Float) : Option Nat :=
  if code x = 0 then some 0
  else if isNegative x || infinityCode ≤ code x then none
  else if steps (code x) % 2 ^ scale = 0 then some (steps (code x) / 2 ^ scale)
  else none

/-- The code of one. -/
def oneCode : Nat := 1023 * 2 ^ 52

/-- A code without the digits behind the point. -/
def truncCode (c : Nat) : Nat :=
  if c < oneCode then 0 else c - c % 2 ^ (1075 - c / 2 ^ 52)

/-- The whole part of a double, with its sign; infinities and NaNs stay as they are. -/
def trunc (x : Float) : Float := ofCode (isNegative x) (truncCode (code x))

/-- What a double has behind the point; a NaN for infinities and NaNs. -/
def fract (x : Float) : Float := x - trunc x

/-- The whole part of a double as a word of 64 bits without sign, if it is one. -/
def word? (x : Float) : Option Nat := (natural? (trunc x)).filter (· < 2 ^ 64)

theorem roundHalfEven_mul_right (num : Nat) {den k : Nat} (hk : 0 < k) :
    roundHalfEven (num * k) (den * k) = roundHalfEven num den := by
  have h₁ : 2 * (num % den * k) < den * k ↔ 2 * (num % den) < den := by
    rw [← Nat.mul_assoc]; exact Nat.mul_lt_mul_right hk
  have h₂ : den * k < 2 * (num % den * k) ↔ den < 2 * (num % den) := by
    rw [← Nat.mul_assoc]; exact Nat.mul_lt_mul_right hk
  simp only [roundHalfEven, Nat.mul_div_mul_right _ _ hk, Nat.mul_mod_mul_right, h₁, h₂]

/-- Only the quotient matters. -/
theorem nearestCode_mul_right (num den : Nat) {k : Nat} (hk : 0 < k) :
    nearestCode (num * k) (den * k) = nearestCode num den := by
  simp only [nearestCode, Nat.mul_div_mul_right _ _ hk, Nat.mul_right_comm den k,
    roundHalfEven_mul_right _ hk]

theorem roundHalfEven_mul_self (n : Nat) {den : Nat} (h : 0 < den) :
    roundHalfEven (n * den) den = n := by
  simp [roundHalfEven, Nat.mul_div_cancel _ h, h]

theorem log2_mul_two_pow {m : Nat} (h₁ : 2 ^ 52 ≤ m) (h₂ : m < 2 ^ 53) (e : Nat) :
    (m * 2 ^ e).log2 = 52 + e := by
  have hp : 0 < 2 ^ e := Nat.two_pow_pos e
  rw [Nat.log2_eq_iff (Nat.mul_ne_zero (by omega) (by omega))]
  constructor
  · rw [Nat.pow_add]
    exact Nat.mul_le_mul_right _ h₁
  · rw [show 52 + e + 1 = 53 + e by omega, Nat.pow_add]
    exact Nat.mul_lt_mul_of_pos_right h₂ hp

theorem steps_pos {c : Nat} (h : c ≠ 0) : 0 < steps c := by
  unfold steps
  split
  · omega
  · exact Nat.mul_pos (by omega) (Nat.two_pow_pos _)

/-- A double is the nearest one to its own value. -/
theorem nearestCode_steps {c : Nat} (hc : c ≤ infinityCode) : nearestCode (steps c) 1 = c := by
  by_cases h : c < 2 ^ 52
  · have hl : c.log2 - 52 = 0 := by
      rcases Nat.eq_zero_or_pos c with rfl | hp
      · rfl
      · have := (Nat.log2_lt (Nat.ne_of_gt hp)).2 h
        omega
    have hr := roundHalfEven_mul_self c Nat.one_pos
    rw [Nat.mul_one] at hr
    simp only [nearestCode, steps, if_pos h, Nat.div_one, hl, Nat.pow_zero, Nat.mul_one, hr,
      Nat.zero_mul, Nat.zero_add]
    exact Nat.min_eq_right hc
  · have hm : 2 ^ 52 + c % 2 ^ 52 < 2 ^ 53 := by omega
    have hl := log2_mul_two_pow (Nat.le_add_right ..) hm (c / 2 ^ 52 - 1)
    have hs : 52 + (c / 2 ^ 52 - 1) - 52 = c / 2 ^ 52 - 1 := by omega
    simp only [nearestCode, steps, if_neg h, Nat.div_one, hl, hs, Nat.one_mul,
      roundHalfEven_mul_self _ (Nat.two_pow_pos _)]
    omega

end Calculator.Double
