/-
# Doubles as signs and codes

A double is made of its sign bit and its code (`ofCode_code`), and what the two
stand for (`meaning`) is what it unpacks to. So negation turns the sign around
(`neg_eq`), and the tests for finiteness, for zero and for being below zero read
the sign and the code.

Not covered: the order of doubles other than against zero.

Key definitions: `meaning`.
-/
import Mathlib
import Calculator.Double

namespace Calculator.Double

open Float.Model Float.Model.UnpackedFloat

/-! ### The bits of a sign and a code -/

/-- The bits with a sign and a code below 2^63. -/
def signed (negative : Bool) (c : Nat) : Nat := if negative then 2 ^ 63 + c else c

section Signed

variable {negative : Bool} {c : Nat}

theorem signed_lt (hc : c < 2 ^ 63) : signed negative c < 2 ^ 64 := by
  unfold signed
  split <;> omega

theorem le_signed (hc : c < 2 ^ 63) : decide (2 ^ 63 ≤ signed negative c) = negative := by
  cases negative with
  | false => exact decide_eq_false (Nat.not_le_of_lt hc)
  | true => exact decide_eq_true (Nat.le_add_right _ _)

theorem signed_mod (hc : c < 2 ^ 63) : signed negative c % 2 ^ 63 = c := by
  unfold signed
  split <;> omega

theorem lt_of_le_infinityCode (hc : c ≤ infinityCode) : c < 2 ^ 63 :=
  Nat.lt_of_le_of_lt hc (by decide)

end Signed

/-! ### What a sign and a code stand for -/

def sign (negative : Bool) : Sign := if negative then .negative else .positive

/-- What a sign and a code stand for. -/
def meaning (negative : Bool) (c : Nat) : UnpackedFloat :=
  if infinityCode < c then .notANumber
  else if c = infinityCode then .infinity (sign negative)
  else if h : c = 0 then .zero (sign negative)
  else if c < 2 ^ 52 then .finite (sign negative) c (-1074) (Nat.pos_of_ne_zero h)
  else .finite (sign negative) (2 ^ 52 + c % 2 ^ 52) (c / 2 ^ 52 - 1075) (by omega)

theorem neg_meaning (negative : Bool) (c : Nat) :
    (meaning negative c).neg = meaning (!negative) c := by
  unfold meaning
  repeat' split
  all_goals cases negative <;> rfl

/-! ### Unpacking -/

section Unpack

variable (b : BitVec Format.binary64.numBits)

theorem toNat_unpackMantissa : (unpackMantissa b).toNat = b.toNat % 2 ^ 63 % 2 ^ 52 := by
  rw [unpackMantissa_def, BitVec.extractLsb'_toNat, Nat.shiftRight_zero]
  show b.toNat % 2 ^ 52 = _
  omega

theorem toNat_unpackExponent : (unpackExponent b).toNat = b.toNat % 2 ^ 63 / 2 ^ 52 := by
  rw [unpackExponent_def, BitVec.extractLsb'_toNat, Nat.shiftRight_eq_div_pow]
  show b.toNat / 2 ^ 52 % 2 ^ 11 = _
  omega

theorem ofBitVec_unpackSign : Sign.ofBitVec (unpackSign b) = sign (2 ^ 63 ≤ b.toNat) := by
  have hb : b.toNat < 2 ^ 64 := b.isLt
  have ht : (unpackSign b).toNat = b.toNat / 2 ^ 63 % 2 := by
    rw [unpackSign_def, BitVec.extractLsb'_toNat, Nat.shiftRight_eq_div_pow]
    rfl
  have h0 : unpackSign b = 0#1 ↔ ¬ 2 ^ 63 ≤ b.toNat := by
    rw [← BitVec.toNat_inj, ht, BitVec.toNat_ofNat]
    omega
  unfold Sign.ofBitVec sign
  by_cases h : 2 ^ 63 ≤ b.toNat
  · rw [if_neg fun hz => h0.mp hz h, if_pos (decide_eq_true h)]
  · rw [if_pos (h0.mpr h), decide_eq_false h, if_neg Bool.false_ne_true]

/-- Bits unpack to what their sign and their code stand for. -/
theorem unpack_eq_meaning :
    UnpackedFloat.unpack Format.binary64 b = meaning (2 ^ 63 ≤ b.toNat) (b.toNat % 2 ^ 63) := by
  have hm := toNat_unpackMantissa b
  have he := toNat_unpackExponent b
  have hone : (1#1 ++ unpackMantissa b).toNat = 2 ^ 52 + b.toNat % 2 ^ 63 % 2 ^ 52 := by
    rw [BitVec.toNat_append, ← Nat.shiftLeft_add_eq_or_of_lt (unpackMantissa b).isLt, hm]
    rfl
  have hc : b.toNat % 2 ^ 63 < 2 ^ 63 := Nat.mod_lt _ (by omega)
  generalize b.toNat % 2 ^ 63 = c at hm he hone hc ⊢
  -- the three tests on the fields, as tests on the code
  have hm0 : unpackMantissa b = 0#_ ↔ c % 2 ^ 52 = 0 := by
    rw [← BitVec.toNat_inj, hm]
    exact Iff.rfl
  have he0 : unpackExponent b = 0#_ ↔ c < 2 ^ 52 := by
    rw [← BitVec.toNat_inj, he]
    exact Nat.div_eq_zero_iff_lt (by omega)
  have he1 : unpackExponent b = -1#_ ↔ 2047 * 2 ^ 52 ≤ c := by
    rw [← BitVec.toNat_inj, he]
    show c / 2 ^ 52 = 2047 ↔ _
    omega
  unfold UnpackedFloat.unpack meaning infinityCode
  simp only [ofBitVec_unpackSign, hm0, he0, he1, hone, hm, he]
  by_cases h1 : 2047 * 2 ^ 52 ≤ c
  · by_cases hz : c % 2 ^ 52 = 0
    · rw [if_pos h1, if_pos hz, if_neg (by omega), if_pos (by omega)]
    · rw [if_pos h1, if_neg hz, if_pos (by omega)]
  · rw [if_neg h1, if_neg (by omega : ¬ 0x7FF * 2 ^ 52 < c),
      if_neg (by omega : ¬ c = 0x7FF * 2 ^ 52)]
    by_cases h0 : c < 2 ^ 52
    · by_cases hz : c = 0
      · rw [if_pos h0, dif_pos (by omega), dif_pos hz]
      · rw [if_pos h0, dif_neg (by omega), dif_neg hz, if_pos h0]
        congr 1
        · omega
        · rw [Nat.div_eq_of_lt h0]
          rfl
    · rw [if_neg h0, dif_neg (by omega), if_neg h0]
      congr 1

end Unpack

/-! ### The sign and the code of a double -/

section Code

variable (x : Float)

theorem code_lt : code x < 2 ^ 63 := Nat.mod_lt _ (by omega)

theorem toNat_toBits : x.toBits.toNat = signed (isNegative x) (code x) := by
  have hx : x.toBits.toNat < 2 ^ 64 := x.toBits.toNat_lt
  unfold signed isNegative code
  simp only [decide_eq_true_eq]
  split <;> omega

/-- A double is made of its sign and its code. -/
theorem ofCode_code : ofCode (isNegative x) (code x) = x := by
  have h : UInt64.ofNat (signed (isNegative x) (code x)) = x.toBits := by
    rw [← toNat_toBits, UInt64.ofNat_toNat]
  exact (congrArg Float.ofBits h).trans (Float.ofBits_toBits x)

theorem unpack_toModel : x.toModel.unpack = meaning (isNegative x) (code x) :=
  unpack_eq_meaning _

theorem toNat_ofNat_signed (negative : Bool) {c : Nat} (hc : c < 2 ^ 63) :
    (UInt64.ofNat (signed negative c)).toNat = signed negative c :=
  Nat.mod_eq_of_lt (signed_lt hc)

theorem ofCode_eq (negative : Bool) {c : Nat} (hc : c < 2 ^ 63) :
    ofCode negative c = .ofModel (.pack (meaning negative c)) := by
  have hu := unpack_eq_meaning (UInt64.ofNat (signed negative c)).toBitVec
  rw [UInt64.toNat_toBitVec, toNat_ofNat_signed negative hc, le_signed hc, signed_mod hc] at hu
  rw [← hu]
  rfl

/-- Only a NaN loses some of its bits. -/
theorem toNat_toBits_ofCode (negative : Bool) {c : Nat} (hc : c ≤ infinityCode) :
    (ofCode negative c).toBits.toNat = signed negative c := by
  have hb := toNat_ofNat_signed negative (lt_of_le_infinityCode hc)
  have hm := toNat_unpackMantissa (UInt64.ofNat (signed negative c)).toBitVec
  have he := toNat_unpackExponent (UInt64.ofNat (signed negative c)).toBitVec
  rw [UInt64.toNat_toBitVec, hb, signed_mod (lt_of_le_infinityCode hc)] at hm he
  have hn : @isNaNBits Format.binary64 (UInt64.ofNat (signed negative c)).toBitVec = false := by
    unfold infinityCode at hc
    refine decide_eq_false fun h => ?_
    have h1 : c / 2 ^ 52 = 2047 := by rw [← he, h.1]; rfl
    have h2 : c % 2 ^ 52 ≠ 0 := fun h0 => h.2 (BitVec.toNat_inj.mp (hm.trans h0))
    omega
  have hp := @pack_unpack Format.binary64 (UInt64.ofNat (signed negative c)).toBitVec (by decide)
  rw [hn, if_neg Bool.false_ne_true] at hp
  exact (congrArg BitVec.toNat hp).trans hb

theorem code_ofCode (negative : Bool) {c : Nat} (hc : c ≤ infinityCode) :
    code (ofCode negative c) = c := by
  rw [code, toNat_toBits_ofCode negative hc, signed_mod (lt_of_le_infinityCode hc)]

theorem isNegative_ofCode (negative : Bool) {c : Nat} (hc : c ≤ infinityCode) :
    isNegative (ofCode negative c) = negative := by
  rw [isNegative, toNat_toBits_ofCode negative hc, le_signed (lt_of_le_infinityCode hc)]

/-- Negation turns the sign around and keeps the code. -/
theorem neg_eq : -x = ofCode (!isNegative x) (code x) := by
  show Float.ofModel (.pack x.toModel.unpack.neg) = _
  rw [unpack_toModel, neg_meaning, ofCode_eq _ (code_lt x)]

theorem neg_ofCode {c : Nat} (hc : c ≤ infinityCode) : -ofCode false c = ofCode true c := by
  rw [neg_eq, isNegative_ofCode _ hc, code_ofCode _ hc, Bool.not_false]

theorem zero_eq : (0 : Float) = ofCode false 0 := by decide +kernel

/-- All NaNs are one double. -/
theorem eq_nan (h : infinityCode < code x) : x = ofCode false nanCode := by
  have hmeaning : ∀ {negative : Bool} {c : Nat}, infinityCode < c →
      meaning negative c = .notANumber := fun hc => if_pos hc
  rw [← ofCode_code x, ofCode_eq _ (code_lt x), hmeaning h, ofCode_eq _ (by decide),
    hmeaning (by decide)]

end Code

/-! ### Tests on a double -/

section Tests

variable {x : Float}

theorem isFinite_iff : x.isFinite = true ↔ code x < infinityCode := by
  show x.toModel.unpack.isFinite = true ↔ _
  rw [unpack_toModel]
  unfold meaning
  repeat' split
  all_goals simp only [UnpackedFloat.isFinite, true_iff, Bool.false_eq_true, false_iff]
  all_goals omega

theorem isNaN_iff : x.isNaN = true ↔ infinityCode < code x := by
  show x.toModel.unpack.isNaN = true ↔ _
  rw [unpack_toModel]
  unfold meaning
  repeat' split
  all_goals simp only [UnpackedFloat.isNaN, true_iff, Bool.false_eq_true, false_iff]
  all_goals omega

theorem unpack_zero : (0 : Float).toModel.unpack = .zero .positive := by
  rw [unpack_toModel, zero_eq, isNegative_ofCode _ (by decide), code_ofCode _ (by decide)]
  rfl

theorem compare_zero (hx : x.isFinite = true) :
    x.toModel.unpack.compare (0 : Float).toModel.unpack =
      some (if code x = 0 then .eq else if isNegative x then .lt else .gt) := by
  rw [isFinite_iff] at hx
  rw [unpack_zero, unpack_toModel]
  unfold meaning
  rw [if_neg (by omega), if_neg (by omega)]
  by_cases h0 : code x = 0
  · rw [dif_pos h0, if_pos h0]
    rfl
  · rw [dif_neg h0, if_neg h0]
    cases isNegative x <;> split <;> rfl

theorem lt_zero_iff (hx : x.isFinite = true) : x < 0 ↔ isNegative x = true ∧ code x ≠ 0 := by
  have h : x < 0 ↔ (x.toModel.unpack.compare (0 : Float).toModel.unpack == some .lt) = true :=
    decide_eq_true_iff
  rw [h, compare_zero hx]
  by_cases h0 : code x = 0 <;> cases isNegative x <;> simp [h0]

/-- Only the zeros are equal to zero. -/
theorem beq_zero_iff : (x == 0) = true ↔ code x = 0 := by
  show (x.toModel.unpack.compare (0 : Float).toModel.unpack == some .eq) = true ↔ _
  by_cases hx : x.isFinite = true
  · rw [compare_zero hx]
    by_cases h0 : code x = 0 <;> cases isNegative x <;> simp [h0]
  · rw [isFinite_iff, Nat.not_lt] at hx
    refine iff_of_false ?_ (Nat.ne_of_gt (Nat.lt_of_lt_of_le (by decide) hx))
    rw [unpack_zero, unpack_toModel]
    unfold meaning
    split_ifs
    · exact Bool.false_ne_true
    · cases isNegative x <;> exact Bool.false_ne_true
    all_goals omega

theorem beq_self (hx : x.isFinite = true) : (x == x) = true := by
  rw [Float.beq_self_iff]
  rintro rfl
  exact absurd hx (by decide +kernel)

end Tests

end Calculator.Double
