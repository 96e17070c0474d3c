/-
# Rounding to doubles

A positive mantissa whose exponent is not below that of a step is rounded to a positive mantissa of
at most 53 digits, and one of 53 digits or more to exactly 53 (`exists_roundWithAccuracy`). So such
a value does not become zero, and what was at least one stays so. Products of doubles that are at
least one are at least one (`AtLeastOne.mul`), every positive natural number is at least one as a
double (`atLeastOne_ofNat`), and infinity times any of these is infinity (`infinity_mul`).

Not covered: which of its two neighbours a value is rounded to.

Key definitions: `packCode`, `AtLeastOne`, `infinity`.
-/
import Calculator.Proofs.DoubleBits

namespace Calculator.Double

open Float.Model Float.Model.UnpackedFloat

/-! ### Shifting and rounding -/

theorem mantissa_shiftRight (em : ExtendedMantissa) (n : Nat) :
    (em >>> n).mantissa = em.mantissa / 2 ^ n := by
  induction n with
  | zero => exact (Nat.div_one _).symm
  | succ n ih =>
    show (em >>> n).mantissa / 2 = _
    rw [ih, Nat.div_div_eq_div_mul, Nat.pow_succ]

theorem le_roundedMantissa (em : ExtendedMantissa) : em.mantissa ≤ em.roundedMantissa := by
  rcases em with ⟨m, r, s⟩
  cases r <;> cases s
  · exact Nat.le_refl m
  · exact Nat.le_refl m
  · exact Nat.le_add_right m _
  · exact Nat.le_add_right m _

theorem targetExponent_eq (M : Nat) (e : Int) :
    Format.binary64.targetExponent (totalExponent M e) = max (M.log2 + e - 52) (-1074) := by
  have h : Format.binary64.targetExponent (totalExponent M e) =
    max (M.log2 + 1 + e - 53) (-1074) := rfl
  rw [h]
  congr 1
  omega

/-- A shift to the exponent that rounding aims at keeps a mantissa positive and cuts it to 53
digits, which are all there if there were as many before. -/
theorem shift_bounds {M : Nat} (hM : 0 < M) {e : Int} (he : -1074 ≤ e) {k : Nat}
    (hk : k = (Format.binary64.targetExponent (totalExponent M e) - e).toNat) :
    0 < M / 2 ^ k ∧ M / 2 ^ k < 2 ^ 53 ∧ (2 ^ 52 ≤ M → 2 ^ 52 ≤ M / 2 ^ k ∧ k = M.log2 - 52) := by
  rw [targetExponent_eq] at hk
  have hlow := Nat.log2_self_le (Nat.ne_of_gt hM)
  have hhigh := @Nat.lt_log2_self M
  by_cases hL : 52 ≤ M.log2
  · have hkL : k = M.log2 - 52 := by omega
    rw [show M.log2 = 52 + k by omega, Nat.pow_add] at hlow
    rw [show M.log2 + 1 = 53 + k by omega, Nat.pow_add] at hhigh
    have hpos : 0 < 2 ^ k := Nat.two_pow_pos k
    have h52 : 2 ^ 52 ≤ M / 2 ^ k := (Nat.le_div_iff_mul_le hpos).mpr hlow
    exact ⟨by omega, (Nat.div_lt_iff_lt_mul hpos).mpr hhigh, fun _ => ⟨h52, hkL⟩⟩
  · have hk0 : k = 0 := by omega
    have hM52 : M < 2 ^ 52 := (Nat.log2_lt (Nat.ne_of_gt hM)).mp (by omega)
    rw [hk0, Nat.pow_zero, Nat.div_one]
    exact ⟨hM, by omega, fun h => absurd h (by omega)⟩

/-- Rounding keeps a mantissa positive, and one of 53 digits or more on its magnitude. -/
theorem exists_roundWithAccuracy (s : Sign) {M : Nat} (hM : 0 < M) {e : Int} (he : -1074 ≤ e) :
    ∃ m e' hm, roundWithAccuracy Format.binary64 s M e .exact = .finite s m e' hm ∧
      m < 2 ^ 53 ∧ e ≤ e' ∧ (2 ^ 52 ≤ M → 2 ^ 52 ≤ m ∧ M.log2 + e ≤ e' + 52) := by
  obtain ⟨hq, -, hnormal⟩ := shift_bounds hM he rfl
  unfold roundWithAccuracy shiftToTargetExponent shiftToExponent
  simp only [mantissa_shiftRight, ExtendedMantissa.ofMantissaAndAccuracy]
  generalize (Format.binary64.targetExponent (totalExponent M e) - e).toNat = k at hq hnormal ⊢
  have hR : M / 2 ^ k ≤ ((⟨M, false, false⟩ : ExtendedMantissa) >>> k).roundedMantissa := by
    rw [← mantissa_shiftRight ⟨M, false, false⟩ k]
    exact le_roundedMantissa _
  -- the second shift takes back a carry into a 54th digit
  obtain ⟨hpos, hlt, hstay⟩ := shift_bounds (Nat.lt_of_lt_of_le hq hR)
    (show -1074 ≤ e + (k : Int) by omega) rfl
  rw [dif_neg (Nat.ne_of_gt hpos)]
  refine ⟨_, _, hpos, rfl, hlt, by omega, fun h => ?_⟩
  obtain ⟨h52, hkM⟩ := hnormal h
  exact ⟨(hstay (Nat.le_trans h52 hR)).1, by omega⟩

theorem round_eq (s : Sign) (M : Nat) (e : Int) : round Format.binary64 s M e =
    roundWithAccuracy Format.binary64 s
      (M <<< (e - Format.binary64.targetExponent (totalExponent M e)).toNat)
      (e - (e - Format.binary64.targetExponent (totalExponent M e)).toNat) .exact := rfl

theorem exists_round (s : Sign) {M : Nat} (hM : 0 < M) {e : Int} (he : -1074 ≤ e) :
    ∃ m e' hm, round Format.binary64 s M e = .finite s m e' hm ∧ m < 2 ^ 53 ∧ -1074 ≤ e' := by
  rw [round_eq, targetExponent_eq]
  have hpos : 0 < M <<< (e - max (M.log2 + e - 52) (-1074)).toNat := by
    rw [Nat.shiftLeft_eq]
    exact Nat.mul_pos hM (Nat.two_pow_pos _)
  obtain ⟨m, e', hm, hround, hlt, hle, -⟩ := exists_roundWithAccuracy s hpos
    (show -1074 ≤ e - ((e - max (M.log2 + e - 52) (-1074)).toNat : Int) by omega)
  exact ⟨m, e', hm, hround, hlt, by omega⟩

/-! ### Packing -/

theorem toNat_packComponents (negative : Bool) (e : BitVec 11) (m : BitVec 52) :
    (packComponents Format.binary64 (sign negative) e m).toNat =
      signed negative (e.toNat * 2 ^ 52 + m.toNat) := by
  unfold packComponents signed
  rw [BitVec.toNat_append, ← Nat.shiftLeft_add_eq_or_of_lt m.isLt, BitVec.toNat_append,
    ← Nat.shiftLeft_add_eq_or_of_lt e.isLt, Nat.shiftLeft_eq, Nat.shiftLeft_eq]
  cases negative with
  | false =>
    show (0 * 2 ^ 11 + _) * 2 ^ 52 + _ = _
    rw [if_neg Bool.false_ne_true]
    omega
  | true =>
    show (1 * 2 ^ 11 + _) * 2 ^ 52 + _ = _
    rw [if_pos rfl]
    omega

theorem toNat_packedInfinity (negative : Bool) :
    (packedInfinity Format.binary64 (sign negative)).toNat = signed negative infinityCode := by
  cases negative <;> decide +kernel

/-- The code that a rounded mantissa with its exponent is packed to. -/
def packCode (m : Nat) (e : Int) : Nat :=
  if 972 ≤ e then infinityCode
  else if 2 ^ 52 ≤ m then (e + 1075).toNat * 2 ^ 52 + m % 2 ^ 52
  else m

theorem packCode_le {m : Nat} (e : Int) (hlt : m < 2 ^ 53) : packCode m e ≤ infinityCode := by
  unfold packCode infinityCode
  split_ifs <;> omega

theorem packCode_ne_zero {m : Nat} {e : Int} (hm : 0 < m) (he : -1074 ≤ e) : packCode m e ≠ 0 := by
  unfold packCode
  split_ifs
  · decide
  · omega
  · omega

theorem toNat_pack_finite (negative : Bool) {m : Nat} {e : Int} (hm : 0 < m) (hlt : m < 2 ^ 53)
    (he : -1074 ≤ e) : (UnpackedFloat.pack Format.binary64 (.finite (sign negative) m e hm)).toNat =
      signed negative (packCode m e) := by
  have hnormal : m.log2 + 1 = 53 ↔ 2 ^ 52 ≤ m := by
    have hlog : m.log2 < 53 := (Nat.log2_lt (Nat.ne_of_gt hm)).mpr hlt
    rw [← not_lt, ← Nat.log2_lt (Nat.ne_of_gt hm)]
    omega
  unfold UnpackedFloat.pack packCode
  show BitVec.toNat (if 2 ^ 11 ≤ (e + 1023 + 52).toNat + 1 then _
    else if m.log2 + 1 = 53 then _ else _) = _
  by_cases hlarge : 972 ≤ e
  · rw [if_pos (by omega), if_pos hlarge]
    exact toNat_packedInfinity negative
  rw [if_neg (by omega), if_neg hlarge]
  by_cases h52 : 2 ^ 52 ≤ m
  · rw [if_pos (hnormal.mpr h52), if_pos h52, toNat_packComponents]
    show signed negative ((e + 1023 + 52).toNat % 2 ^ 11 * 2 ^ 52 + m % 2 ^ 52) = _
    rw [Nat.mod_eq_of_lt (by omega), show e + 1023 + 52 = e + 1075 by omega]
  · rw [if_neg (mt hnormal.mp h52), if_neg h52, toNat_packComponents]
    show signed negative (0 * 2 ^ 52 + m % 2 ^ 52) = _
    rw [Nat.zero_mul, Nat.zero_add, Nat.mod_eq_of_lt (by omega)]

theorem pack_finite (negative : Bool) {m : Nat} {e : Int} (hm : 0 < m) (hlt : m < 2 ^ 53)
    (he : -1074 ≤ e) : Float.ofModel (.pack (.finite (sign negative) m e hm)) =
      ofCode negative (packCode m e) := by
  have h : UInt64.ofNat (signed negative (packCode m e)) =
      (Float.ofModel (.pack (.finite (sign negative) m e hm))).toBits := by
    rw [← toNat_pack_finite negative hm hlt he]
    exact UInt64.ofNat_toNat
  exact ((congrArg Float.ofBits h).trans (Float.ofBits_toBits _)).symm

theorem unpack_ofCode (negative : Bool) {c : Nat} (hc : c ≤ infinityCode) :
    (ofCode negative c).toModel.unpack = meaning negative c := by
  rw [unpack_toModel, isNegative_ofCode negative hc, code_ofCode negative hc]

/-! ### Doubles that are at least one -/

/-- The double is one or above it. -/
structure AtLeastOne (x : Float) : Prop where
  nonneg : isNegative x = false
  one_le : oneCode ≤ code x
  le_infinity : code x ≤ infinityCode

theorem atLeastOne_ofCode {c : Nat} (h : oneCode ≤ c) (h' : c ≤ infinityCode) :
    AtLeastOne (ofCode false c) := by
  have hcode := code_ofCode false h'
  exact ⟨isNegative_ofCode false h', hcode.symm ▸ h, hcode.symm ▸ h'⟩

/-- What is at least one is infinite, or has 53 digits and at most 52 of them behind the point. -/
theorem AtLeastOne.unpack {x : Float} (h : AtLeastOne x) :
    x.toModel.unpack = .infinity .positive ∨
      ∃ m e hm, x.toModel.unpack = .finite .positive m e hm ∧ 2 ^ 52 ≤ m ∧ -52 ≤ e := by
  obtain ⟨hpos, hone, hinf⟩ := h
  have hlow : 2 ^ 52 ≤ code x := Nat.le_trans (by decide) hone
  rw [unpack_toModel, hpos]
  unfold meaning
  rw [if_neg (Nat.not_lt_of_le hinf)]
  by_cases hx : code x = infinityCode
  · exact .inl (if_pos hx)
  · rw [if_neg hx, dif_neg (by omega), if_neg (by omega)]
    unfold oneCode at hone
    exact .inr ⟨_, _, _, rfl, Nat.le_add_right _ _, by omega⟩

theorem atLeastOne_round {M : Nat} {e : Int} (hM : 2 ^ 52 ≤ M) (he : -1074 ≤ e)
    (hone : 0 ≤ M.log2 + e) :
    AtLeastOne (.ofModel (.pack (roundWithAccuracy Format.binary64 .positive M e .exact))) := by
  obtain ⟨m, e', hm, hround, hlt, hlow, hnormal⟩ :=
    exists_roundWithAccuracy .positive (Nat.lt_of_lt_of_le (Nat.two_pow_pos 52) hM) he
  obtain ⟨h52, he'⟩ := hnormal hM
  rw [hround]
  have hpack := pack_finite false hm hlt (show -1074 ≤ e' by omega)
  refine hpack ▸ atLeastOne_ofCode ?_ (packCode_le e' hlt)
  unfold packCode
  split_ifs
  · decide
  · unfold oneCode
    omega

/-! ### Products -/

def infinity : Float := ofCode false infinityCode

theorem infinity_eq : infinity = .ofModel (.pack (.infinity .positive)) :=
  ofCode_eq false (by decide)

theorem unpack_infinity : infinity.toModel.unpack = .infinity .positive :=
  (unpack_ofCode false (Nat.le_refl _)).trans
    ((if_neg (Nat.lt_irrefl _)).trans (if_pos rfl))

/-- Infinity times what is at least one is infinity. -/
theorem infinity_mul {x : Float} (hx : AtLeastOne x) : infinity * x = infinity := by
  show Float.ofModel (.pack (.mul Format.binary64 infinity.toModel.unpack x.toModel.unpack)) = _
  rw [unpack_infinity, infinity_eq]
  obtain hx | ⟨m, e, hm, hx, -, -⟩ := hx.unpack <;> rw [hx] <;> rfl

theorem AtLeastOne.mul {x y : Float} (hx : AtLeastOne x) (hy : AtLeastOne y) :
    AtLeastOne (x * y) := by
  have hinfinity : AtLeastOne (.ofModel (.pack (.infinity .positive))) :=
    infinity_eq ▸ atLeastOne_ofCode (by decide) (Nat.le_refl _)
  show AtLeastOne (.ofModel (.pack (.mul Format.binary64 x.toModel.unpack y.toModel.unpack)))
  obtain hx | ⟨m, e, hm, hx, h52, he⟩ := hx.unpack <;>
    obtain hy | ⟨m', e', hm', hy, h52', he'⟩ := hy.unpack <;> rw [hx, hy]
  · exact hinfinity
  · exact hinfinity
  · exact hinfinity
  · have hM : 2 ^ 52 * 2 ^ 52 ≤ m * m' := Nat.mul_le_mul h52 h52'
    have hlog : 104 ≤ (m * m').log2 := (Nat.le_log2 (by omega)).mpr hM
    exact atLeastOne_round (by omega) (by omega) (by omega)

/-! ### Natural numbers -/

section Natural

variable {n : Nat} (hn : 0 < n)

include hn

theorem log2_shiftLeft (k : Nat) : (n <<< k).log2 = n.log2 + k := by
  have hpos : 0 < 2 ^ k := Nat.two_pow_pos k
  rw [Nat.shiftLeft_eq, Nat.log2_eq_iff (Nat.ne_of_gt (Nat.mul_pos hn hpos)), Nat.pow_add]
  refine ⟨Nat.mul_le_mul_right _ (Nat.log2_self_le (Nat.ne_of_gt hn)), ?_⟩
  rw [show n.log2 + k + 1 = n.log2 + 1 + k by omega, Nat.pow_add]
  exact Nat.mul_lt_mul_of_pos_right Nat.lt_log2_self hpos

/-- A natural number is rounded with enough zeros behind its digits. -/
theorem atLeastOne_round_shiftLeft {k : Nat} (hk : 52 ≤ n.log2 + k) (hk' : k ≤ 1074) :
    AtLeastOne (.ofModel (.pack
      (roundWithAccuracy Format.binary64 .positive (n <<< k) (-k) .exact))) := by
  have hlog := log2_shiftLeft hn k
  have hne : n <<< k ≠ 0 := fun h => by
    rw [h] at hlog
    have : Nat.log2 0 = 0 := rfl
    omega
  exact atLeastOne_round ((Nat.le_log2 hne).mp (by omega)) (by omega) (by omega)

theorem atLeastOne_toFloat (h : n < 2 ^ 53) : AtLeastOne n.toUInt64.toFloat := by
  have hword : n.toUInt64.toNat = n := Nat.mod_eq_of_lt (by omega)
  have hpos : compare (n : Int) 0 = .gt := Int.compare_eq_gt.mpr (by omega)
  show AtLeastOne (.ofModel (.pack
    (UnpackedFloat.normalize Format.binary64 (n.toUInt64.toNat : Int) 0 .positive)))
  rw [hword, UnpackedFloat.normalize, hpos]
  show AtLeastOne (.ofModel (.pack (round Format.binary64 .positive n 0)))
  rw [round_eq, targetExponent_eq, Int.zero_sub, Int.zero_sub]
  exact atLeastOne_round_shiftLeft hn (by omega) (by omega)

theorem atLeastOne_ofScientific : AtLeastOne (.ofModel (Float.Model.ofScientific n 0)) := by
  have hmul : UnpackedFloat.ofScientific Format.binary64 n 0 =
      roundWithAccuracy Format.binary64 .positive (n <<< 53 * 1) (-53 + 0) .exact := by
    have hpow : (0 : Int) ≤ 2 ^ Format.binary64.exponentBits := by decide
    unfold UnpackedFloat.ofScientific
    rw [dif_neg (by omega), if_neg (by decide), if_neg (by omega), if_pos (Int.le_refl 0)]
    rfl
  show AtLeastOne (.ofModel (.pack (UnpackedFloat.ofScientific Format.binary64 n 0)))
  rw [hmul, Nat.mul_one, Int.add_zero]
  exact atLeastOne_round_shiftLeft hn (by omega) (by omega)

/-- Every positive natural number is at least one as a double. -/
theorem atLeastOne_ofNat : AtLeastOne (Float.ofNat n) := by
  have hone : AtLeastOne (Float.ofBits 0x3FF0000000000000) :=
    ⟨by decide +kernel, by decide +kernel, by decide +kernel⟩
  show AtLeastOne (Float.ofScientific n false 0)
  unfold Float.ofScientific
  by_cases h : n < 2 ^ 53
  · rw [dif_pos ⟨h, Nat.zero_le _⟩]
    exact (atLeastOne_toFloat hn h).mul hone
  · rw [dif_neg fun hsmall => h hsmall.1]
    exact atLeastOne_ofScientific hn

end Natural

end Calculator.Double
