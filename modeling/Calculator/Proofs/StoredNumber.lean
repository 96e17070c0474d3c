/-
# Stored numbers read back

A double is stored by the digits that the screen shows, with a point and a zero
behind a whole number, its sign in front even if it is zero, and the words for
infinity and NaN. Where a double is to be read each of these texts gives the
double itself (`readFraction?_writeChars`): not one bit is lost, as there is only
one NaN.

Key definitions: `Numeral.signChars`.
-/
import Calculator.Proofs.ScreenText
import Calculator.Storage.Number

namespace Calculator

open Double Numeral Lexeme

/-! ### The digits of a stored number -/

namespace Numeral

/-- A zero behind the point does not change a decimal. -/
theorem code_point_zero (n : Nat) : Decimal.code ⟨10 * n, -1⟩ = Decimal.code ⟨n, 0⟩ := by
  by_cases hn : n = 0
  · simp [Decimal.code, hn]
  · have hnum : Decimal.numerator ⟨10 * n, -1⟩ = Decimal.numerator ⟨n, 0⟩ * 10 := by
      have hexp : (-1 : Int).toNat = (0 : Int).toNat := rfl
      rw [Decimal.numerator, Decimal.numerator, hexp, Nat.mul_comm 10 n, Nat.mul_right_comm n 10,
        Nat.mul_right_comm _ 10]
    have hden : Decimal.denominator ⟨10 * n, -1⟩ = Decimal.denominator ⟨n, 0⟩ * 10 := rfl
    unfold Decimal.code
    rw [if_neg (by simp; omega), if_neg (by simp), if_neg (by simp), if_neg hn,
      if_neg (by simp), if_neg (by simp; omega), hnum, hden, nearestCode_mul_right _ _ (by omega)]

theorem isNumberChar_of_mem_withPoint {n : Nat} :
    ∀ c ∈ withPoint (digits n), isNumberChar c = true := by
  unfold withPoint
  split
  · exact isNumberChar_of_mem_digits
  · exact List.forall_mem_append.mpr ⟨isNumberChar_of_mem_digits, by simp [isNumberChar]⟩

theorem code_readDecimal?_withPoint {n : Nat} (h : n < infinityCode) :
    (readDecimal? (withPoint (digits n))).map Decimal.code = some n := by
  have hread := code_readDecimal?_digits h
  unfold withPoint
  split
  next => exact hread
  next hp =>
    have hdigits : ∀ c ∈ digits n, c.isDigit = true := by
      intro c hc
      have hnum := isNumberChar_of_mem_digits c hc
      rw [isNumberChar, Bool.or_eq_true, beq_iff_eq] at hnum
      refine hnum.resolve_right fun hdot => hp ?_
      rw [List.contains_iff_mem, ← hdot]
      exact hc
    rw [readDecimal?_whole (digits_ne_nil n) hdigits] at hread
    rw [readDecimal?_point (digits n) ['0'] (digits_ne_nil n) hdigits (by simp),
      Nat.ofDigitChars_append]
    have hzero : Nat.ofDigitChars 10 ['0'] (Nat.ofDigitChars 10 (digits n) 0) =
        10 * Nat.ofDigitChars 10 (digits n) 0 := Nat.ofDigitChars_replicate_zero (n := 1)
    rw [hzero]
    rw [Option.map_some] at hread ⊢
    rw [← hread]
    exact congrArg some (code_point_zero _)

theorem readCode?_withPoint {n : Nat} (h : n < infinityCode) :
    readCode? (withPoint (digits n)) = some n := by
  rw [readCode?_of_isNumberChar isNumberChar_of_mem_withPoint, code_readDecimal?_withPoint h]

theorem withPoint_ne_nil (n : Nat) : withPoint (digits n) ≠ [] := by
  unfold withPoint
  split
  · exact digits_ne_nil n
  · simp

/-- The sign of a stored number. -/
def signChars (negative : Bool) : List Char := if negative then ['-'] else []

/-- The three forms of a stored number: NaN, an infinity, and digits with a point. -/
theorem writeChars_stored (x : Float) :
    (infinityCode < code x ∧ writeChars stored x = "NaN".toList) ∨
    (code x = infinityCode ∧ writeChars stored x = signChars (isNegative x) ++ "inf".toList) ∨
    (code x < infinityCode ∧
      writeChars stored x = signChars (isNegative x) ++ withPoint (digits (code x))) := by
  unfold writeChars signChars
  rcases Nat.lt_trichotomy (code x) infinityCode with h | h | h
  · refine .inr (.inr ⟨h, ?_⟩)
    rw [if_neg (by omega)]
    simp [stored, Nat.ne_of_lt h]
  · refine .inr (.inl ⟨h, ?_⟩)
    rw [if_neg (by omega)]
    simp [stored, h]
  · exact .inl ⟨h, if_pos h⟩

end Numeral

/-! ### Reading it -/

namespace Storage.Number

/-- A sign, digits and points have no other reading than as a decimal. -/
theorem readFraction?_digits {cs : List Char} {c : Nat} (negative : Bool) (hne : cs ≠ [])
    (hcs : ∀ d ∈ cs, isNumberChar d = true) (hread : readCode? cs = some c) :
    readFraction? (signChars negative ++ cs) = some (ofCode negative c) := by
  obtain ⟨d, ds, rfl⟩ := List.exists_cons_of_ne_nil hne
  have hd := hcs d List.mem_cons_self
  have hplus : d ≠ '+' := by rintro rfl; cases hd
  have hminus : d ≠ '-' := by rintro rfl; cases hd
  have hi : d ≠ 'i' := by rintro rfl; cases hd
  have hN : d ≠ 'N' := by rintro rfl; cases hd
  have hword : readWord? (signChars negative ++ d :: ds) = none := by
    cases negative <;> simp [readWord?, splitSign, signChars, hplus, hminus, hi, hN]
  have hchars : readChars? (signChars negative ++ d :: ds) = some (ofCode negative c) := by
    cases negative <;> simp [readChars?, signChars, hplus, hminus, hread]
  have hscore : '_' ∉ signChars negative ++ d :: ds := by
    have hnum : '_' ∉ d :: ds := fun h => by cases hcs '_' h
    cases negative <;> simpa [signChars] using hnum
  have hfraction : ∀ e ∈ signChars negative ++ d :: ds, isFractionChar e = true := by
    refine List.forall_mem_append.mpr ⟨?_, fun e he => ?_⟩
    · cases negative <;> simp [signChars, isFractionChar]
    · have hnum := hcs e he
      rw [isNumberChar, Bool.or_eq_true] at hnum
      rcases hnum with h | h <;> simp [isFractionChar, h]
  have hfront : readFront? (signChars negative ++ d :: ds) = some (ofCode negative c, []) := by
    simp [readFront?, hword, List.takeWhile_eq_self_iff.mpr hfraction,
      List.dropWhile_eq_nil_iff.mpr hfraction, dropUnderscores?_of_not_mem hscore, hchars]
  simp [readFraction?, readFractionOf?, hfront]

/-- Where a double is to be read, the stored text of one is it. -/
theorem readFraction?_writeChars (x : Float) : readFraction? (writeChars stored x) = some x := by
  rcases writeChars_stored x with ⟨hc, hw⟩ | ⟨hc, hw⟩ | ⟨hc, hw⟩
  · rw [hw, eq_nan x hc]
    rfl
  · have hx := ofCode_code x
    rw [hc] at hx
    rw [hw, ← hx]
    cases isNegative x <;> decide +kernel
  · rw [hw, readFraction?_digits _ (withPoint_ne_nil _) isNumberChar_of_mem_withPoint
      (readCode?_withPoint hc), ofCode_code]

end Storage.Number

end Calculator
