/-
# The texts of doubles on the screen

The screen shows a finite double as digits with at most one point, and a minus
sign in front if it is below zero (`writeChars_screen`). The digits are one
number token (`scan_write`), which reads back as the double without its sign
(`read?_digits`), and nothing in the text is a blank (`trim_write`).

Minus zero is shown without its sign, so what the screen says of it is plus zero
(`shown`).

Key definitions: `Numeral.shown`, `Numeral.writtenTokens`.
-/
import Calculator.Decimal.ReadBack
import Calculator.Proofs.DoubleBits
import Calculator.Proofs.Scanning

namespace Calculator.Numeral

open Double Lexeme

/-! ### Digits and points -/

theorem isNumberChar_of_isDigit {c : Char} (h : c.isDigit = true) : isNumberChar c = true := by
  simp [isNumberChar, h]

theorem isNumberChar_of_mem_positional {d : Decimal} :
    ∀ c ∈ positional d, isNumberChar c = true := by
  have hds : ∀ c ∈ Nat.toDigits 10 d.digits, isNumberChar c = true := fun c hc =>
    isNumberChar_of_isDigit (Nat.isDigit_of_mem_toDigits (by decide) (by decide) hc)
  have hz : ∀ n, ∀ c ∈ List.replicate n '0', isNumberChar c = true := fun n c hc =>
    isNumberChar_of_isDigit (isDigit_of_mem_replicate hc)
  unfold positional
  simp only
  split
  · exact List.forall_mem_append.mpr ⟨hds, hz _⟩
  · split
    · refine List.forall_mem_append.mpr ⟨fun c hc => hds c (List.mem_of_mem_take hc), ?_⟩
      exact List.forall_mem_cons.mpr ⟨rfl, fun c hc => hds c (List.mem_of_mem_drop hc)⟩
    · refine List.forall_mem_cons.mpr ⟨rfl, List.forall_mem_cons.mpr ⟨rfl, ?_⟩⟩
      exact List.forall_mem_append.mpr ⟨hz _, hds⟩

theorem isNumberChar_of_mem_digits {n : Nat} : ∀ c ∈ digits n, isNumberChar c = true := by
  unfold digits
  split
  · simp [isNumberChar]
  · exact isNumberChar_of_mem_positional

theorem positional_ne_nil (d : Decimal) : positional d ≠ [] := by
  have h : Nat.toDigits 10 d.digits ≠ [] := Nat.toDigits_ne_nil
  unfold positional
  simp only
  split
  · simp [h]
  · split <;> simp

theorem digits_ne_nil (n : Nat) : digits n ≠ [] := by
  unfold digits
  split
  · simp
  · exact positional_ne_nil _

theorem toLower_of_isNumberChar {c : Char} (h : isNumberChar c = true) : c.toLower = c := by
  refine Char.toLower_eq_of_not_isUpper fun hupper => ?_
  have hdigit := toNat_of_isNumberChar h
  have hletter := isUpper_iff.mp hupper
  omega

/-- Digits and points are none of the words. -/
theorem readCode?_of_isNumberChar {cs : List Char} (hcs : ∀ c ∈ cs, isNumberChar c = true) :
    readCode? cs = (readDecimal? cs).map Decimal.code := by
  have hw : cs.map Char.toLower = cs := by
    rw [List.map_congr_left fun c hc => toLower_of_isNumberChar (hcs c hc)]
    exact List.map_id cs
  have hword : ∀ w : List Char, (∃ c ∈ w, isNumberChar c = false) → cs ≠ w := by
    rintro w ⟨c, hm, hc⟩ rfl
    rw [hcs c hm] at hc
    cases hc
  have h₁ : cs ≠ "inf".toList := hword _ ⟨'i', by decide, by decide⟩
  have h₂ : cs ≠ "infinity".toList := hword _ ⟨'i', by decide, by decide⟩
  have h₃ : cs ≠ "nan".toList := hword _ ⟨'n', by decide, by decide⟩
  simp only [readCode?, hw, h₁, h₂, h₃, decide_false, Bool.or_self, Bool.false_eq_true, ite_false]

theorem read?_of_isNumberChar {cs : List Char} (hcs : ∀ c ∈ cs, isNumberChar c = true) :
    read? (String.ofList cs) = (readDecimal? cs).map fun d => ofCode false d.code := by
  have h := readCode?_of_isNumberChar hcs
  rw [read?, String.toList_ofList]
  unfold readChars?
  split
  · exact absurd (hcs '-' List.mem_cons_self) (by decide)
  · exact absurd (hcs '+' List.mem_cons_self) (by decide)
  · rw [h, Option.map_map]
    rfl

theorem read?_digits {n : Nat} (h : n < infinityCode) :
    read? (String.ofList (digits n)) = some (ofCode false n) := by
  have hd := congrArg (Option.map (ofCode false)) (code_readDecimal?_digits h)
  rw [Option.map_map] at hd
  rw [read?_of_isNumberChar isNumberChar_of_mem_digits]
  exact hd

/-! ### The text of a double -/

/-- The screen shows a sign in front of the digits of what is below zero. -/
theorem writeChars_screen {x : Float} (hx : x.isFinite = true) :
    writeChars screen x = if x < 0 then '-' :: digits (code x) else digits (code x) := by
  have hc := isFinite_iff.mp hx
  have hn : ¬ infinityCode < code x := by omega
  have hi : ¬ code x = infinityCode := by omega
  have hs : (isNegative x && (screen.signedZero || code x != 0)) = decide (x < 0) := by
    rw [Bool.eq_iff_iff, decide_eq_true_iff, lt_zero_iff hx, Bool.and_eq_true, bne_iff_ne.symm]
    rfl
  have hp : ¬ screen.pointed = true := by decide
  rw [writeChars, if_neg hn]
  simp only [if_neg hi, if_neg hp, hs]
  by_cases h : x < 0 <;> simp [h]

/-- The texts of the doubles that are not finite. -/
theorem write_of_not_isFinite (style : Style) {x : Float} (hx : x.isFinite = false) :
    (x.isNaN = true ∧ write style x = "NaN") ∨
      (x.isNaN = false ∧ (write style x = "inf" ∨ write style x = "-inf")) := by
  have hc : ¬ code x < infinityCode := fun h => by
    rw [isFinite_iff.mpr h] at hx
    cases hx
  by_cases hn : infinityCode < code x
  · exact .inl ⟨isNaN_iff.mpr hn, by rw [write, writeChars, if_pos hn]; rfl⟩
  · have hi : code x = infinityCode := by omega
    refine .inr ⟨?_, ?_⟩
    · rw [← Bool.not_eq_true, isNaN_iff]
      exact hn
    · rw [write, writeChars, if_neg hn]
      simp only [hi, ite_true]
      split
      · exact .inr rfl
      · exact .inl rfl

/-! ### What the screen says -/

/-- The double that the screen says of a finite one: zero has no sign. -/
def shown (x : Float) : Float := if x == 0 then 0 else x

theorem write_shown {x : Float} (hx : x.isFinite = true) :
    write screen (shown x) = write screen x := by
  have hlt := lt_zero_iff hx
  unfold shown
  by_cases h : x == 0
  · have h0 := beq_zero_iff.mp h
    have hw : writeChars screen x = digits 0 := by
      rw [writeChars_screen hx, if_neg (fun hn => (hlt.mp hn).2 h0), h0]
    rw [if_pos h, write, write, hw]
    decide +kernel
  · rw [if_neg h]

theorem shown_beq {x : Float} (hx : x.isFinite = true) : (shown x == x) = true := by
  unfold shown
  by_cases h : x == 0
  · have h0 := beq_zero_iff.mp h
    have hx0 := ofCode_code x
    rw [if_pos h, ← hx0, h0]
    cases isNegative x <;> decide +kernel
  · rw [if_neg h]
    exact beq_self hx

/-! ### Reading the text -/

/-- The tokens of the text of a finite double. -/
def writtenTokens (x : Float) : List Token :=
  let text := String.ofList (digits (code x))
  if x < 0 then [⟨.symbol '-', 0⟩, ⟨.number text, 1⟩] else [⟨.number text, 0⟩]

theorem scan_write {x : Float} (hx : x.isFinite = true) :
    Token.scan (write screen x) = .ok (writtenTokens x) := by
  have hd := fun pos => Token.scanFrom_number pos (digits_ne_nil (code x))
    isNumberChar_of_mem_digits
  rw [Token.scan, write, String.toList_ofList, writeChars_screen hx, writtenTokens]
  split
  · rw [Token.scanFrom, hd]
    rfl
  · exact hd 0

theorem trim_write {x : Float} (hx : x.isFinite = true) :
    Text.trim (write screen x) = write screen x := by
  have hd : ∀ c ∈ digits (code x), Text.isBlank c = false := fun c hc =>
    Token.isBlank_of_isNumberChar (isNumberChar_of_mem_digits c hc)
  rw [Text.trim, write, String.toList_ofList, Text.trimChars_of_not_blank]
  rw [writeChars_screen hx]
  split
  · exact List.forall_mem_cons.mpr ⟨rfl, hd⟩
  · exact hd

end Calculator.Numeral
