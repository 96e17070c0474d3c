/-
# Whole numbers among the doubles

Truncation leaves a double alone if and only if it is a whole number (`truncCode_eq_self_iff`). The
difference of two finite doubles of one sign is zero only if they have one code, as rounding gives
no zero. So what a double has behind the point is zero for whole numbers and for these alone
(`fract_beq_zero_iff`): infinities and NaNs have a NaN there. In terms of values, the natural number
that a double is, is what it is worth (`natural?_eq_some_iff`).

Key definitions: `value?`.
-/
import Calculator.Proofs.Rounding

namespace Calculator.Double

open Float.Model Float.Model.UnpackedFloat

/-! ### Finite doubles -/

/-- A finite double other than zero has a mantissa and an exponent, and these give its steps. -/
theorem exists_meaning_finite (negative : Bool) {c : Nat} (h0 : c ≠ 0) (hc : c < infinityCode) :
    ∃ m e hm, meaning negative c = .finite (sign negative) m e hm ∧ m < 2 ^ 53 ∧ -1074 ≤ e ∧
      steps c = m * 2 ^ (e + 1074).toNat := by
  unfold meaning steps
  rw [if_neg (Nat.not_lt_of_gt hc), if_neg (Nat.ne_of_lt hc), dif_neg h0]
  by_cases h : c < 2 ^ 52
  · rw [if_pos h, if_pos h]
    exact ⟨_, _, _, rfl, by omega, Int.le_refl _, (Nat.mul_one c).symm⟩
  · rw [if_neg h, if_neg h]
    refine ⟨_, _, _, rfl, by omega, by omega, ?_⟩
    have he : ((c : Int) / 2 ^ 52 - 1075 + 1074).toNat = c / 2 ^ 52 - 1 := by omega
    exact congrArg _ (congrArg _ he.symm)

theorem steps_inj {c d : Nat} (hc : c ≤ infinityCode) (hd : d ≤ infinityCode) :
    steps c = steps d ↔ c = d := by
  refine ⟨fun h => ?_, congrArg steps⟩
  rw [← nearestCode_steps hc, h, nearestCode_steps hd]

theorem steps_lt_of_lt_oneCode {c : Nat} (h : c < oneCode) : steps c < 2 ^ scale := by
  have hscale : scale = 1074 := rfl
  unfold oneCode at h
  unfold steps
  split_ifs with h52
  · exact Nat.lt_of_lt_of_le h52 (Nat.pow_le_pow_right (by decide) (by decide))
  · calc (2 ^ 52 + c % 2 ^ 52) * 2 ^ (c / 2 ^ 52 - 1)
        < 2 ^ 53 * 2 ^ (c / 2 ^ 52 - 1) :=
          Nat.mul_lt_mul_of_pos_right (by omega) (Nat.two_pow_pos _)
      _ = 2 ^ (53 + (c / 2 ^ 52 - 1)) := (Nat.pow_add ..).symm
      _ ≤ 2 ^ scale := Nat.pow_le_pow_right (by decide) (by omega)

/-! ### Truncation -/

theorem truncCode_le (c : Nat) : truncCode c ≤ c := by
  unfold truncCode
  split_ifs
  · exact Nat.zero_le c
  · exact Nat.sub_le _ _

/-- Whole numbers are what truncation leaves alone. -/
theorem truncCode_eq_self_iff {c : Nat} : truncCode c = c ↔ steps c % 2 ^ scale = 0 := by
  have hscale : scale = 1074 := rfl
  unfold truncCode
  by_cases hone : c < oneCode
  · rw [if_pos hone, Nat.mod_eq_of_lt (steps_lt_of_lt_oneCode hone)]
    constructor
    · rintro rfl
      rfl
    · intro h
      by_contra h0
      exact absurd h (Nat.ne_of_gt (steps_pos fun hc => h0 hc.symm))
  rw [if_neg hone]
  unfold oneCode at hone
  rw [show steps c = (2 ^ 52 + c % 2 ^ 52) * 2 ^ (c / 2 ^ 52 - 1) from if_neg (by omega)]
  -- the digits behind the point
  generalize hk : 1075 - c / 2 ^ 52 = k
  have hself : c - c % 2 ^ k = c ↔ c % 2 ^ k = 0 := by
    have := Nat.mod_le c (2 ^ k)
    omega
  rw [hself]
  by_cases hlarge : k = 0
  · rw [show c / 2 ^ 52 - 1 = scale + (c / 2 ^ 52 - 1075) by omega, Nat.pow_add, ← Nat.mul_assoc,
      Nat.mul_right_comm, Nat.mul_mod_left, hlarge, Nat.pow_zero, Nat.mod_one]
  · have hdvd : 2 ^ k ∣ 2 ^ 52 := Nat.pow_dvd_pow 2 (by omega)
    rw [show scale = k + (c / 2 ^ 52 - 1) by omega, Nat.pow_add, Nat.mul_mod_mul_right,
      Nat.add_mod, Nat.mod_eq_zero_of_dvd hdvd, Nat.zero_add, Nat.mod_mod,
      Nat.mod_mod_of_dvd _ hdvd, Nat.mul_eq_zero, or_iff_left (Nat.ne_of_gt (Nat.two_pow_pos _))]

theorem trunc_eq_self {x : Float} (h : truncCode (code x) = code x) : trunc x = x := by
  rw [trunc, h, ofCode_code]

theorem trunc_of_le {x : Float} (hx : infinityCode ≤ code x) : trunc x = x := by
  refine trunc_eq_self ?_
  unfold infinityCode at hx
  unfold truncCode oneCode
  rw [if_neg (by omega), show 1075 - code x / 2 ^ 52 = 0 by omega, Nat.pow_zero, Nat.mod_one]
  rfl

/-! ### Differences -/

/-- Rounding a number other than zero gives no zero. -/
theorem code_normalize_ne_zero {M : Int} (hM : M ≠ 0) {e : Int} (he : -1074 ≤ e) :
    code (.ofModel (.pack (UnpackedFloat.normalize Format.binary64 M e .positive))) ≠ 0 := by
  have hround : ∃ negative m e' hm, UnpackedFloat.normalize Format.binary64 M e .positive =
      .finite (sign negative) m e' hm ∧ m < 2 ^ 53 ∧ -1074 ≤ e' := by
    unfold UnpackedFloat.normalize
    rcases Int.lt_or_gt_of_ne hM with h | h
    · rw [Int.compare_eq_lt.mpr h]
      exact ⟨true, exists_round .negative (by omega) he⟩
    · rw [Int.compare_eq_gt.mpr h]
      exact ⟨false, exists_round .positive (by omega) he⟩
  obtain ⟨negative, m, e', hm, hround, hlt, he'⟩ := hround
  rw [hround, pack_finite negative hm hlt he', code_ofCode negative (packCode_le e' hlt)]
  exact packCode_ne_zero hm he'

theorem shiftLeft_mul_two_pow {m : Nat} {e f : Int} (hf : -1074 ≤ f) (hfe : f ≤ e) :
    m <<< (e - f).toNat * 2 ^ (f + 1074).toNat = m * 2 ^ (e + 1074).toNat := by
  rw [Nat.shiftLeft_eq, Nat.mul_assoc, ← Nat.pow_add]
  congr 2
  omega

/-- Two finite doubles of one sign differ unless they have one code. -/
theorem code_sub_ne_zero (negative : Bool) {c d : Nat} (hd : d < c) (hc : c < infinityCode) :
    code (ofCode negative c - ofCode negative d) ≠ 0 := by
  have hc' : c ≤ infinityCode := Nat.le_of_lt hc
  have hd' : d ≤ infinityCode := Nat.le_of_lt (Nat.lt_trans hd hc)
  obtain ⟨m, e, hm, hmeaning, hlt, he, hsteps⟩ :=
    exists_meaning_finite negative (Nat.ne_of_gt (Nat.zero_lt_of_lt hd)) hc
  show code (.ofModel (.pack (.sub Format.binary64 (ofCode negative c).toModel.unpack
    (ofCode negative d).toModel.unpack))) ≠ 0
  rw [unpack_ofCode negative hc', unpack_ofCode negative hd', hmeaning]
  by_cases h0 : d = 0
  · subst h0
    show code (.ofModel (.pack (.finite (sign negative) m e hm))) ≠ 0
    rw [← hmeaning, ← ofCode_eq negative (lt_of_le_infinityCode hc'), code_ofCode negative hc']
    omega
  obtain ⟨m', e', hm', hmeaning', -, he', hsteps'⟩ :=
    exists_meaning_finite negative h0 (Nat.lt_trans hd hc)
  rw [hmeaning']
  -- with the smaller exponent for both, the mantissas are as different as the steps
  have hmin : -1074 ≤ min e e' := le_min he he'
  have hne : m <<< (e - min e e').toNat ≠ m' <<< (e' - min e e').toNat := fun h => by
    rw [← shiftLeft_mul_two_pow hmin (min_le_left e e')] at hsteps
    rw [← shiftLeft_mul_two_pow hmin (min_le_right e e')] at hsteps'
    rw [h, ← hsteps', steps_inj hc' hd'] at hsteps
    omega
  refine code_normalize_ne_zero (e := min e e') ?_ hmin
  show (sign negative).apply (m <<< (e - min e e').toNat) -
    (sign negative).apply (m' <<< (e' - min e e').toNat) ≠ 0
  cases negative with
  | false =>
    show ((m <<< (e - min e e').toNat : Nat) : Int) - (m' <<< (e' - min e e').toNat : Nat) ≠ 0
    omega
  | true =>
    show -((m <<< (e - min e e').toNat : Nat) : Int) - -(m' <<< (e' - min e e').toNat : Nat) ≠ 0
    omega

theorem code_sub_self {x : Float} (hx : code x < infinityCode) : code (x - x) = 0 := by
  have hfinite : x.toModel.unpack.isFinite = true := isFinite_iff.mpr hx
  have hzero : UnpackedFloat.sub Format.binary64 x.toModel.unpack x.toModel.unpack =
      .zero .positive := by
    generalize x.toModel.unpack = u at hfinite ⊢
    cases u with
    | infinity s => exact absurd hfinite Bool.false_ne_true
    | notANumber => exact absurd hfinite Bool.false_ne_true
    | zero s => cases s <;> rfl
    | finite s m e hm =>
      simp only [UnpackedFloat.sub, Int.sub_self]
      rfl
  show code (.ofModel (.pack (.sub Format.binary64 x.toModel.unpack x.toModel.unpack))) = 0
  rw [hzero]
  decide +kernel

/-- The difference of an infinity or a NaN with itself is a NaN. -/
theorem code_sub_self_of_le {x : Float} (hx : infinityCode ≤ code x) : code (x - x) ≠ 0 := by
  rcases Nat.eq_or_lt_of_le hx with h | h
  · rw [← ofCode_code x, ← h]
    generalize isNegative x = negative
    cases negative <;> decide +kernel
  · rw [eq_nan x h]
    decide +kernel

/-- Whole numbers have nothing behind the point; infinities and NaNs have a NaN there. -/
theorem fract_beq_zero_iff {x : Float} : (fract x == 0) = true ↔
    code x < infinityCode ∧ steps (code x) % 2 ^ scale = 0 := by
  rw [beq_zero_iff, ← truncCode_eq_self_iff]
  by_cases hx : code x < infinityCode
  · rw [and_iff_right hx]
    constructor
    · intro h
      by_contra hne
      have hfract : fract x = ofCode (isNegative x) (code x) -
          ofCode (isNegative x) (truncCode (code x)) := by
        rw [ofCode_code]
        rfl
      rw [hfract] at h
      exact code_sub_ne_zero _ (Nat.lt_of_le_of_ne (truncCode_le _) hne) hx h
    · intro h
      rw [fract, trunc_eq_self h]
      exact code_sub_self hx
  · rw [Nat.not_lt] at hx
    refine iff_of_false ?_ fun h => Nat.not_lt_of_le hx h.1
    rw [fract, trunc_of_le hx]
    exact code_sub_self_of_le hx

/-! ### Values -/

/-- What a double is worth; infinities and NaNs are worth nothing. -/
def value? (x : Float) : Option ℚ :=
  match x.toModel.unpack with
  | .zero _ => some 0
  | .finite s m e _ => some ((s.apply m : ℚ) * 2 ^ e)
  | _ => none

theorem cast_apply (s : Sign) (n : Nat) : (s.apply n : ℚ) = s.apply 1 * n := by
  cases s <;> simp [Sign.apply]

theorem value?_of_lt {x : Float} (hx : code x < infinityCode) :
    value? x = some (((sign (isNegative x)).apply (steps (code x)) : ℚ) / 2 ^ scale) := by
  unfold value?
  rw [unpack_toModel]
  by_cases h0 : code x = 0
  · rw [h0, cast_apply, show steps 0 = 0 from rfl, Nat.cast_zero, mul_zero, zero_div]
    rfl
  obtain ⟨m, e, hm, hmeaning, -, he, hsteps⟩ := exists_meaning_finite (isNegative x) h0 hx
  have hpow : (2 : ℚ) ^ e = 2 ^ (e + 1074).toNat / 2 ^ scale := by
    rw [eq_div_iff (by positivity), ← zpow_natCast, ← zpow_natCast, ← zpow_add₀ two_ne_zero,
      Int.toNat_of_nonneg (by omega)]
    rfl
  rw [hmeaning, hsteps, cast_apply _ (m * _), Nat.cast_mul, Nat.cast_pow, Nat.cast_ofNat,
    ← mul_assoc, ← cast_apply, mul_div_assoc, ← hpow]

theorem value?_of_le {x : Float} (hx : infinityCode ≤ code x) : value? x = none := by
  unfold value?
  rw [unpack_toModel]
  rcases Nat.eq_or_lt_of_le hx with h | h
  · rw [← h]
    rfl
  · rw [show meaning (isNegative x) (code x) = .notANumber from if_pos h]

/-- Every finite double is worth something, and nothing else is. -/
theorem isSome_value? (x : Float) : (value? x).isSome = x.isFinite := by
  rw [Bool.eq_iff_iff, isFinite_iff]
  rcases Nat.lt_or_ge (code x) infinityCode with hx | hx
  · rw [value?_of_lt hx]
    exact iff_of_true rfl hx
  · rw [value?_of_le hx]
    exact iff_of_false Bool.false_ne_true (Nat.not_lt_of_le hx)

theorem ite_quotient_eq_some_iff {k unit n : Nat} (hunit : 0 < unit) :
    (if k % unit = 0 then some (k / unit) else none) = some n ↔ k = n * unit := by
  constructor
  · intro h
    split_ifs at h with hmod
    obtain rfl := Option.some.inj h
    exact (Nat.div_mul_cancel (Nat.dvd_of_mod_eq_zero hmod)).symm
  · rintro rfl
    rw [Nat.mul_mod_left, if_pos rfl, Nat.mul_div_cancel n hunit]

/-- The natural number that a double is, is what it is worth. -/
theorem natural?_eq_some_iff {x : Float} {n : Nat} :
    natural? x = some n ↔ value? x = some (n : ℚ) := by
  unfold natural?
  rcases Nat.lt_or_ge (code x) infinityCode with hx | hx
  · have hvalue : value? x = some (n : ℚ) ↔
        (sign (isNegative x)).apply (steps (code x)) = (n * 2 ^ scale : Nat) := by
      rw [value?_of_lt hx, Option.some_inj, div_eq_iff (by positivity), ← @Int.cast_inj ℚ]
      push_cast
      rfl
    have hpos : 0 < 2 ^ scale := Nat.two_pow_pos scale
    rw [hvalue]
    generalize 2 ^ scale = unit at hpos ⊢
    by_cases h0 : code x = 0
    · have hzero : (sign (isNegative x)).apply (steps 0) = (0 : Nat) := by
        cases isNegative x <;> rfl
      rw [if_pos h0, h0, Option.some_inj, hzero, Int.natCast_inj, zero_eq_mul,
        or_iff_left (Nat.ne_of_gt hpos), eq_comm]
    have hk : 0 < steps (code x) := steps_pos h0
    generalize steps (code x) = k at hk ⊢
    rw [if_neg h0, decide_eq_false (Nat.not_le_of_lt hx), Bool.or_false]
    cases isNegative x with
    | false =>
      rw [if_neg Bool.false_ne_true]
      show _ ↔ (k : Int) = (n * unit : Nat)
      rw [Int.natCast_inj]
      exact ite_quotient_eq_some_iff hpos
    | true =>
      rw [if_pos rfl]
      refine iff_of_false nofun ?_
      show ¬ -(k : Int) = (n * unit : Nat)
      omega
  · have h0 : code x ≠ 0 := Nat.ne_of_gt (Nat.lt_of_lt_of_le (by decide) hx)
    rw [value?_of_le hx, if_neg h0, if_pos (by rw [decide_eq_true hx, Bool.or_true])]
    exact iff_of_false nofun nofun

end Calculator.Double
