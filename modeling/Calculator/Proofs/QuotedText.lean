/-
# Quoted text reads back

Whatever its characters are, a text in quotation marks is read as itself, and the
reading stops behind the closing mark (`readText?_quote`). One character is read
from its escape, over any rest (`readParts?_escape`); of the three kinds of
escape only the one by a code point needs an argument, which is that hexadecimal
digits spell their number (`ofHex?_toDigits`) and end at the brace.

Not covered: what else the reader accepts.
-/
import Calculator.Proofs.Scanning
import Calculator.Text.Quoted

namespace Calculator.Text.Quoted

/-! ### Hexadecimal digits -/

theorem hexValue?_digitChar {d : Nat} (hd : d < 16) : hexValue? (Nat.digitChar d) = some d := by
  have hall : ∀ d < 16, hexValue? (Nat.digitChar d) = some d := by decide
  exact hall d hd

theorem ofHex?_concat (cs : List Char) {d : Nat} (hd : d < 16) :
    ofHex? (cs ++ [Nat.digitChar d]) = (ofHex? cs).map (16 * · + d) := by
  unfold ofHex?
  rw [List.mapM_append]
  cases hcs : cs.mapM hexValue? with
  | none => rfl
  | some ds => simp [hexValue?_digitChar hd, List.foldl_append]

/-- The digits of a number spell it. -/
theorem ofHex?_toDigits (n : Nat) : ofHex? (Nat.toDigits 16 n) = some n := by
  induction n using Nat.strongRecOn with
  | ind n ih =>
    rw [Nat.toDigits_eq_if (by omega)]
    split
    next hn =>
      have h := ofHex?_concat [] hn
      rw [List.nil_append] at h
      rw [h]
      simp [ofHex?]
    next hn =>
      rw [ofHex?_concat _ (Nat.mod_lt n (by omega)), ih (n / 16) (by omega), Option.map_some,
        Nat.div_add_mod]

theorem exists_digit_of_mem {n : Nat} {c : Char} (h : c ∈ Nat.toDigits 16 n) :
    ∃ d < 16, c = Nat.digitChar d := by
  induction n using Nat.strongRecOn with
  | ind n ih =>
    rw [Nat.toDigits_eq_if (by omega)] at h
    split at h
    next hn => exact ⟨n, hn, List.mem_singleton.mp h⟩
    next hn =>
      rcases List.mem_append.mp h with h | h
      · exact ih (n / 16) (by omega) h
      · exact ⟨n % 16, Nat.mod_lt n (by omega), List.mem_singleton.mp h⟩

/-- No digit is a closing brace. -/
theorem ne_brace_of_mem {n : Nat} {c : Char} (h : c ∈ Nat.toDigits 16 n) :
    (c != '\x7d') = true := by
  have hall : ∀ d < 16, (Nat.digitChar d != '\x7d') = true := by decide
  obtain ⟨d, hd, rfl⟩ := exists_digit_of_mem h
  exact hall d hd

theorem charOf?_toNat (c : Char) : charOf? c.toNat = some c := by
  have hv : c.toNat.isValidChar := c.valid
  unfold charOf?
  rw [dif_pos hv]
  rfl

/-! ### One character -/

/-- A code point in braces is read as its character. -/
theorem readEscape?_codePoint (c : Char) (rest : List Char) :
    readEscape? ('u' :: '\x7b' :: (Nat.toDigits 16 c.toNat ++ '\x7d' :: rest)) =
      some (.char c, rest) := by
  have hstop : ∀ d, ('\x7d' :: rest).head? = some d → (d != '\x7d') = false := fun d hd => by
    obtain rfl := Option.some.inj hd
    rfl
  obtain ⟨ht, hd⟩ := Token.span_append hstop (Nat.toDigits 16 c.toNat)
  rw [List.takeWhile_eq_self_iff.mpr fun d hd => ne_brace_of_mem hd] at ht
  rw [List.dropWhile_eq_nil_iff.mpr fun d hd => ne_brace_of_mem hd, List.nil_append] at hd
  have hne : (Nat.toDigits 16 c.toNat).isEmpty = false :=
    List.isEmpty_eq_false_iff.mpr Nat.toDigits_ne_nil
  have hlen : ¬ 6 < (Nat.toDigits 16 c.toNat).length := by
    have hc : c.toNat < 0xd800 ∨ 0xdfff < c.toNat ∧ c.toNat < 0x110000 := c.valid
    rw [Nat.not_lt, Nat.length_toDigits_le_iff (by omega) (by omega)]
    omega
  simp only [readEscape?, ht, hd, hne, hlen, decide_false, Bool.or_self, Bool.false_eq_true,
    ite_false, ofHex?_toDigits, Option.bind_some, charOf?_toNat, Option.map_some]

theorem readParts?_backslash {p : Part} {cs rest : List Char}
    (h : readEscape? cs = some (p, rest)) (hlen : rest.length < cs.length) :
    readParts? ('\\' :: cs) = (readParts? rest).map fun q => (p :: q.1, q.2) := by
  rw [readParts?, h]
  simp only [if_pos hlen]

theorem readParts?_plain {c : Char} (hq : c ≠ '"') (hb : c ≠ '\\') (rest : List Char) :
    readParts? (c :: rest) = (readParts? rest).map fun q => (.char c :: q.1, q.2) := by
  rw [readParts?]
  · exact hq
  · exact hb

/-- The escape of a character is read as the character. -/
theorem readParts?_escape (c : Char) (rest : List Char) :
    readParts? (escape storedMarks c ++ rest) =
      (readParts? rest).map fun q => (.char c :: q.1, q.2) := by
  unfold escape
  cases hs : shortEscape? c with
  | some letter =>
    unfold shortEscape? at hs
    split at hs
    all_goals cases hs
    all_goals exact readParts?_backslash rfl (Nat.lt_succ_self _)
  | none =>
    have hb : c ≠ '\\' := by
      rintro rfl
      cases hs
    simp only
    split
    next hm =>
      have hc : c = '"' ∨ c = '\'' := by simpa [storedMarks] using hm
      rcases hc with rfl | rfl
      all_goals exact readParts?_backslash rfl (Nat.lt_succ_self _)
    next hm =>
      have hq : c ≠ '"' := by
        rintro rfl
        exact hm rfl
      split
      next => exact readParts?_plain hq hb rest
      next =>
        simp only [List.cons_append, List.append_assoc, List.nil_append]
        exact readParts?_backslash (readEscape?_codePoint c rest) (by simp; omega)

/-! ### The text -/

theorem readParts?_flatMap (cs rest : List Char) :
    readParts? (cs.flatMap (escape storedMarks) ++ '"' :: rest) = some (cs.map .char, rest) := by
  induction cs with
  | nil => rw [List.flatMap_nil, List.nil_append, readParts?]; rfl
  | cons c cs ih =>
    rw [List.flatMap_cons, List.append_assoc, readParts?_escape, ih]
    rfl

theorem joinParts?_map_char (cs : List Char) : joinParts? [] (cs.map .char) = some cs := by
  induction cs with
  | nil => decide +kernel
  | cons c cs ih =>
    rw [List.map_cons, joinParts?, ih]
    rfl

/-- What is behind an opening mark is read as the text that was quoted. -/
theorem readText?_quote (cs rest : List Char) :
    readText? (cs.flatMap (escape storedMarks) ++ '"' :: rest) = some (cs, rest) := by
  unfold readText?
  rw [readParts?_flatMap]
  simp [joinParts?_map_char]

end Calculator.Text.Quoted
