/-
# Evaluating a result again

A result goes back into the entry as a text. That text has a derivation tree,
a number or the negation of one, and by the compilation of trees it evaluates
to what the screen says (`calculate_write`); an infinity or a NaN gives a name
that means nothing. So evaluating a finite result again succeeds and leaves the
entry as it is.

Key theorems: `calculate_write`, `Session.evaluate_evaluate`.
-/
import Calculator.Proofs.Compilation
import Calculator.Proofs.ScreenText
import Calculator.Session

namespace Calculator

open Double Numeral

/-! ### Evaluating the text of a double -/

/-- The tree of the text of a finite double. -/
def numberTree {n : Nat} (hn : n < infinityCode) : Phrase false .atom :=
  .number (String.ofList (digits n)) (ofCode false n) (read?_digits hn)

def writtenTree {x : Float} (hx : x.isFinite = true) : Phrase false .sum :=
  let e := numberTree (isFinite_iff.mp hx)
  .ofProduct (.ofPower (.ofFactorial (.ofNegation (if x < 0 then .neg (.ofAtom e) else .ofAtom e))))

theorem lexemes_writtenTree {x : Float} (hx : x.isFinite = true) :
    (writtenTokens x).map Token.lexeme = (writtenTree hx).lexemes := by
  unfold writtenTokens writtenTree
  by_cases h : x < 0 <;> simp only [h, ite_true, ite_false] <;> rfl

theorem value_writtenTree (mode : AngleMode) {x : Float} (hx : x.isFinite = true) :
    (writtenTree hx).value mode = .ok (shown x) := by
  have hc := Nat.le_of_lt (isFinite_iff.mp hx)
  have hlt := lt_zero_iff hx
  have hzero : (x == 0) = true ↔ code x = 0 := beq_zero_iff
  have hsame := ofCode_code x
  have hv : ∀ e : Phrase false .negation,
      Phrase.value mode (.ofProduct (.ofPower (.ofFactorial (.ofNegation e)))) = e.value mode :=
    fun _ => rfl
  unfold writtenTree shown
  rw [hv]
  by_cases h : x < 0
  · obtain ⟨hn, h0⟩ := hlt.mp h
    rw [hn] at hsame
    rw [if_pos h, if_neg (fun hz => h0 (hzero.mp hz))]
    show Except.ok (-ofCode false (code x)) = _
    rw [neg_ofCode hc, hsame]
  · rw [if_neg h]
    show Except.ok (ofCode false (code x)) = _
    by_cases h0 : code x = 0
    · rw [if_pos (hzero.mpr h0), h0, ← zero_eq]
    · have hn : isNegative x = false := by
        rw [← Bool.not_eq_true]
        exact fun hn => h (hlt.mpr ⟨hn, h0⟩)
      rw [hn] at hsame
      rw [if_neg (fun hz => h0 (hzero.mp hz)), hsame]

theorem calculate_write (mode : AngleMode) {x : Float} (hx : x.isFinite = true) :
    calculate mode (write screen x) = .ok (shown x) :=
  calculate_eq_ok_iff.mpr ⟨_, _, scan_write hx, (writtenTree hx).ofTokens (lexemes_writtenTree hx),
    ((writtenTree hx).eval_items mode).trans (value_writtenTree mode hx)⟩

theorem calculate_write_of_not_isFinite (mode : AngleMode) {x : Float} (hx : x.isFinite = false) :
    calculate mode (write screen x) =
      .error (.unknownName (if x.isNaN then "nan" else "inf")) := by
  rcases write_of_not_isFinite screen hx with ⟨hn, hw⟩ | ⟨hn, hw | hw⟩
  all_goals rw [hw, hn]
  all_goals cases mode <;> decide +kernel

/-! ### Evaluating twice -/

namespace Session

/-- A finite result is the next expression, in the mode it was computed in. -/
theorem evaluate_of_finite {s : Session} {answer : Answer}
    (h : Calculator.evaluate s.mode s.expression = .ok answer)
    (hx : answer.value.isFinite = true) :
    s.evaluate.mode = s.mode ∧ s.evaluate.entry = write screen answer.value ∧
      s.evaluate.expression = write screen answer.value := by
  obtain ⟨hm, -, -, he, -⟩ := evaluate_of_ok h
  exact ⟨hm, he, by rw [expression, he, trim_write hx]⟩

/-- After a finite result the entry stays as it is when it is evaluated again. -/
theorem evaluate_evaluate {s : Session} {answer : Answer}
    (h : Calculator.evaluate s.mode s.expression = .ok answer)
    (hx : answer.value.isFinite = true) :
    s.evaluate.evaluate.failed = false ∧ s.evaluate.evaluate.entry = s.evaluate.entry ∧
      s.evaluate.evaluate.history.entries.head? =
        some ⟨s.evaluate.entry, shown answer.value⟩ := by
  obtain ⟨hm, he, ht⟩ := evaluate_of_finite h hx
  obtain ⟨again, ha, hv⟩ := map_eq_ok (calculate_write s.mode hx)
  rw [← hm, ← ht] at ha
  obtain ⟨-, hf, -, he', hh⟩ := evaluate_of_ok ha
  rw [hv, write_shown hx, ← he] at he'
  rw [hv, ht, ← he] at hh
  refine ⟨hf, he', ?_⟩
  rw [hh]
  rfl

end Session

/-! ### What the screen shows -/

/-- The screen's text of a finite double is one number, with a minus sign in
front if the double is below zero, and evaluates to the double; the texts of the
others are unknown names. So evaluating a finite result again leaves it as it is. -/
theorem shown_evaluates :
    (∀ (mode : AngleMode) (x : Float),
      (x.isFinite = true →
        (∃ text, Token.scan (write screen x) = .ok
          (if x < 0 then [⟨.symbol '-', 0⟩, ⟨.number text, 1⟩] else [⟨.number text, 0⟩])) ∧
        calculate mode (write screen x) = .ok (shown x)) ∧
      (x.isFinite = false → calculate mode (write screen x) =
        .error (.unknownName (if x.isNaN then "nan" else "inf")))) ∧
    ∀ (s : Session) (answer : Answer), evaluate s.mode s.expression = .ok answer →
      answer.value.isFinite = true →
        (shown answer.value == answer.value) = true ∧
        calculate s.evaluate.mode s.evaluate.expression = .ok (shown answer.value) ∧
        s.evaluate.evaluate.failed = false ∧ s.evaluate.evaluate.entry = s.evaluate.entry ∧
        s.evaluate.evaluate.history.entries.head? =
          some ⟨s.evaluate.entry, shown answer.value⟩ := by
  refine ⟨fun mode x => ⟨fun hx => ?_, fun hx => ?_⟩, fun s answer h hx => ?_⟩
  · exact ⟨⟨_, scan_write hx⟩, calculate_write mode hx⟩
  · exact calculate_write_of_not_isFinite mode hx
  · obtain ⟨hm, -, ht⟩ := Session.evaluate_of_finite h hx
    refine ⟨shown_beq hx, ?_, Session.evaluate_evaluate h hx⟩
    rw [hm, ht]
    exact calculate_write s.mode hx

/-- The result of `1-3` is entered with its sign, and stays. -/
theorem shown_evaluates_difference :
    (∃ text, Token.scan "-2" = .ok [⟨.symbol '-', 0⟩, ⟨.number text, 1⟩]) ∧
    calculate .degrees "inf" = .error (.unknownName "inf") ∧
    (Session.fresh.insert "1-3").evaluate.evaluate.history.entries.head? = some ⟨"-2", -2⟩ := by
  have htwo : write screen (-2) = "-2" := by decide +kernel
  have hneg : (-2 : Float) < 0 := by decide +kernel
  have hinf : write screen (1 / 0) = "inf" := by decide +kernel
  have hnan : (1 / 0 : Float).isNaN = false := by decide +kernel
  have hvalue : evaluate .degrees "1-3" = .ok ⟨-2, ⟨"1 - 3", "1 3 -"⟩⟩ := by decide +kernel
  have hentry : (Session.fresh.insert "1-3").evaluate.entry = "-2" := by decide +kernel
  have hshown : shown (-2) = -2 := by decide +kernel
  have hscan := ((shown_evaluates.1 .degrees (-2)).1 (by decide +kernel)).1
  have hname := (shown_evaluates.1 .degrees (1 / 0)).2 (by decide +kernel)
  have hsession := shown_evaluates.2 (Session.fresh.insert "1-3") _ hvalue (by decide +kernel)
  simp only [htwo, if_pos hneg] at hscan
  rw [hinf, hnan] at hname
  rw [hentry, hshown] at hsession
  exact ⟨hscan, hname, hsession.2.2.2.2⟩

end Calculator
