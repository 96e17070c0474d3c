/-
# Written numerals read back

Reading the text of a finite double gives the double's code again. The digits
of a shortest decimal read back by the choice of that decimal
(`Decimal.code_shortest`); what is left is that its positional text spells the
same number, wherever the point falls.

Not covered: the sign in front, and the texts of infinity and NaN.

Key theorems: `code_readDecimal?_positional`, `code_readDecimal?_digits`.
-/
import Calculator.Decimal.Numeral

namespace Calculator.Numeral

open Double

theorem isDigit_of_mem_replicate {n : Nat} {c : Char} (h : c ∈ List.replicate n '0') :
    c.isDigit = true := by
  rw [List.eq_of_mem_replicate h]
  rfl

theorem span_digits (ds rest : List Char) (h : ∀ c ∈ ds, c.isDigit = true)
    (hr : ∀ c, rest.head? = some c → c.isDigit = false) :
    (ds ++ rest).takeWhile Char.isDigit = ds ∧ (ds ++ rest).dropWhile Char.isDigit = rest := by
  rw [List.takeWhile_append_of_pos h, List.dropWhile_append_of_pos h]
  cases rest with
  | nil => simp
  | cons c r => simp [hr c rfl]

theorem readDecimal?_whole {ds : List Char} (hne : ds ≠ []) (h : ∀ c ∈ ds, c.isDigit = true) :
    readDecimal? ds = some ⟨Nat.ofDigitChars 10 ds 0, 0⟩ := by
  obtain ⟨h₁, h₂⟩ := span_digits ds [] h (by simp)
  rw [List.append_nil] at h₁ h₂
  simp [readDecimal?, h₁, h₂, hne, readExponent?]

theorem readDecimal?_point (ds fs : List Char) (hne : ds ≠ []) (h : ∀ c ∈ ds, c.isDigit = true)
    (hf : ∀ c ∈ fs, c.isDigit = true) :
    readDecimal? (ds ++ '.' :: fs) = some ⟨Nat.ofDigitChars 10 (ds ++ fs) 0, -fs.length⟩ := by
  obtain ⟨h₁, h₂⟩ := span_digits ds ('.' :: fs) h (by rintro c ⟨⟩; rfl)
  obtain ⟨h₃, h₄⟩ := span_digits fs [] hf (by simp)
  rw [List.append_nil] at h₃ h₄
  simp [readDecimal?, h₁, h₂, h₃, h₄, hne, readExponent?]

theorem exponent_le_of_code_lt {n : Nat} {e : Int} (hn : n ≠ 0)
    (h : Decimal.code ⟨n, e⟩ < infinityCode) : e ≤ 310 := by
  refine Int.not_lt.mp fun he => Nat.ne_of_lt h ?_
  rw [Decimal.code, if_neg hn, if_pos he]

/-- A decimal below infinity stays the same when the zeros of its exponent are written out. -/
theorem code_zeros {n : Nat} {e : Int} (h0 : 0 ≤ e) (h : Decimal.code ⟨n, e⟩ < infinityCode) :
    Decimal.code ⟨10 ^ e.toNat * n, 0⟩ = Decimal.code ⟨n, e⟩ := by
  by_cases hn : n = 0
  · simp [Decimal.code, hn]
  have he : e ≤ 310 := exponent_le_of_code_lt hn h
  have hz : 10 ^ e.toNat * n ≠ 0 :=
    Nat.mul_ne_zero (Nat.ne_of_gt (Nat.pow_pos (by decide))) hn
  have hnone : (-e).toNat = 0 := Int.toNat_of_nonpos (by omega)
  simp only [Decimal.code, hn, hz, Decimal.numerator, Decimal.denominator, hnone, if_false]
  rw [if_neg (by omega), if_neg (by omega), if_neg (by omega), if_neg (by omega)]
  simp [Nat.mul_comm]

/-- A decimal below infinity is written as itself. -/
theorem code_readDecimal?_positional {d : Decimal} (h : d.code < infinityCode) :
    (readDecimal? (positional d)).map Decimal.code = some d.code := by
  obtain ⟨n, e⟩ := d
  have hds : ∀ c ∈ Nat.toDigits 10 n, c.isDigit = true := fun _ hc =>
    Nat.isDigit_of_mem_toDigits (by decide) (by decide) hc
  have hne : Nat.toDigits 10 n ≠ [] := Nat.toDigits_ne_nil
  simp only [positional]
  split
  · next he =>
    rw [readDecimal?_whole (by simp [hne]) fun c hc =>
        (List.mem_append.1 hc).elim (hds c) isDigit_of_mem_replicate,
      Nat.ofDigitChars_append, Nat.ofDigitChars_ten_toDigits, Nat.ofDigitChars_replicate_zero,
      Option.map_some, Option.some.injEq]
    exact code_zeros he h
  · next he =>
    split
    · next hp =>
      have hlen : ((Nat.toDigits 10 n).length + e).toNat < (Nat.toDigits 10 n).length := by omega
      rw [readDecimal?_point _ _ (by simp [hne]; omega)
        (fun c hc => hds c (List.mem_of_mem_take hc)) (fun c hc => hds c (List.mem_of_mem_drop hc)),
        List.take_append_drop, Nat.ofDigitChars_ten_toDigits, List.length_drop, Option.map_some,
        Option.some.injEq]
      congr 2
      omega
    · next hp =>
      have hz := readDecimal?_point ['0']
        (List.replicate (-((Nat.toDigits 10 n).length + e)).toNat '0' ++ Nat.toDigits 10 n)
        (by simp) (by simp)
        (fun c hc => (List.mem_append.1 hc).elim isDigit_of_mem_replicate (hds c))
      rw [List.singleton_append] at hz
      rw [hz, List.singleton_append, Nat.ofDigitChars_cons, Nat.ofDigitChars_append,
        show 10 * 0 + ('0'.toNat - '0'.toNat) = 0 from rfl, Nat.ofDigitChars_replicate_zero,
        Nat.mul_zero, Nat.ofDigitChars_ten_toDigits, List.length_append, List.length_replicate,
        Option.map_some, Option.some.injEq]
      congr 2
      omega

theorem code_readDecimal?_digits {c : Nat} (h : c < infinityCode) :
    (readDecimal? (digits c)).map Decimal.code = some c := by
  by_cases h0 : c = 0
  · subst h0
    rw [digits, if_pos rfl, readDecimal?_whole (by simp) (by simp)]
    rfl
  · have hc := Decimal.code_shortest h0 (Nat.le_of_lt h)
    rw [digits, if_neg h0, code_readDecimal?_positional (hc.symm ▸ h), hc]

end Calculator.Numeral
