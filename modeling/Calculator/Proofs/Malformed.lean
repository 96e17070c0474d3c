/-
# Malformed expressions

The ordering lets an operator stand where an operand has to come, and leaves it
to the machine to find out that a value is missing. Without commas the machine
always does: an expression that no derivation tree spells runs short of a value
somewhere, or has a factorial refused before (`refused_of_not_spelled`).

With commas it need not. A comma leaves one value more than is wanted, and an
operator without one of its operands takes one: `(1,*2)` is two. The exact
condition for an expression with commas to have a value is that as many
operands are missing as there are commas, and that no item comes too early
(`comma_outcome`).

Key definitions: `Compensates`.
-/
import Calculator.Evaluation
import Calculator.Proofs.Compilation
import Calculator.Proofs.Derivation
import Calculator.Proofs.Scanning

namespace Calculator

open Rpn

/-- As many operands are missing as there are commas, no item of the postfix
order comes before the values it takes, and no factorial refuses its operand. -/
def Compensates (mode : AngleMode) (ts : List Token) (items : List Item) : Prop :=
  missing (ts.map Token.lexeme) = (ts.map Token.lexeme).count (.symbol ',') ∧
  (∃ depth, depthAfter 0 items = .ok depth) ∧
  eval mode items ≠ .error .factorialDomain

/-- The ends of an evaluation: a value, a refused factorial, an item that runs
short, or too many values, one more for each comma that no missing operand makes
up for. -/
theorem eval_outcome (mode : AngleMode) {ts : List Token} {items : List Item}
    (h : ofTokens ts = .ok items) :
    (Compensates mode ts items ∧ ∃ x, eval mode items = .ok x) ∨
    eval mode items = .error .factorialDomain ∨
    (∃ item ∈ items, eval mode items = .error (.tooFewOperands item.text)) ∨
    ∃ n, 1 < n ∧ n + missing (ts.map Token.lexeme) =
      1 + (ts.map Token.lexeme).count (.symbol ',') ∧ eval mode items = .error (.leftover n) := by
  rcases eval_cases mode items with he | he
  · exact .inr (.inl he)
  unfold shape at he
  cases hd : depthAfter 0 items with
  | error fault =>
    rw [hd] at he
    obtain ⟨item, hm, rfl⟩ := depthAfter_error hd
    exact .inr (.inr (.inl ⟨item, hm, he⟩))
  | ok depth =>
    obtain ⟨hw, hp⟩ := depth_add_missing h hd
    simp only [hd] at he
    by_cases h1 : depth = 1
    · rw [if_pos h1] at he
      obtain ⟨x, hx⟩ := he
      refine .inl ⟨⟨by omega, ⟨depth, hd⟩, ?_⟩, x, hx⟩
      rw [hx]
      simp
    · rw [if_neg h1] at he
      exact .inr (.inr (.inr ⟨depth, by omega, hw, he⟩))

/-- An expression has a value exactly if it compensates its commas. -/
theorem eval_ok_iff {mode : AngleMode} {ts : List Token} {items : List Item}
    (h : ofTokens ts = .ok items) : (∃ x, eval mode items = .ok x) ↔ Compensates mode ts items := by
  constructor
  · rintro ⟨x, hx⟩
    rcases eval_outcome mode h with ⟨hc, -⟩ | he | ⟨_, _, he⟩ | ⟨_, _, _, he⟩
    · exact hc
    all_goals rw [hx] at he; cases he
  · rintro ⟨hm, ⟨depth, hd⟩, hf⟩
    have hw := (depth_add_missing h hd).1
    have h1 : depth = 1 := by omega
    have he := (eval_cases mode items).resolve_left hf
    simpa [shape, hd, h1] using he

/-- An expression with commas has a value exactly if it compensates them, and then
it lacks an operand: one with all its operands is refused. -/
theorem comma_outcome (mode : AngleMode) :
    (∀ ts items, .symbol ',' ∈ ts.map Token.lexeme → ofTokens ts = .ok items →
      ((∃ x, eval mode items = .ok x) ↔
        Compensates mode ts items ∧ 0 < missing (ts.map Token.lexeme))) ∧
    ∀ s : String, ',' ∈ s.toList →
      ((∃ x, calculate mode s = .ok x) ↔
        ∃ ts items, Token.scan s = .ok ts ∧ ofTokens ts = .ok items ∧
          Compensates mode ts items ∧ 0 < missing (ts.map Token.lexeme)) := by
  have hpos : ∀ {ts items}, .symbol ',' ∈ ts.map Token.lexeme → Compensates mode ts items →
      0 < missing (ts.map Token.lexeme) := fun hm hc => by
    rw [hc.1]
    exact List.count_pos_iff.mpr hm
  have htokens : ∀ ts items, .symbol ',' ∈ ts.map Token.lexeme → ofTokens ts = .ok items →
      ((∃ x, eval mode items = .ok x) ↔
        Compensates mode ts items ∧ 0 < missing (ts.map Token.lexeme)) := fun ts items hm hi => by
    rw [eval_ok_iff hi]
    exact ⟨fun hc => ⟨hc, hpos hm hc⟩, fun hc => hc.1⟩
  refine ⟨htokens, fun s hs => ?_⟩
  have hcomma : ∀ {ts}, Token.scan s = .ok ts → .symbol ',' ∈ ts.map Token.lexeme := fun ht => by
    rw [← List.count_pos_iff, Token.count_comma_of_scan ht]
    exact List.count_pos_iff.mpr hs
  constructor
  · rintro ⟨x, hx⟩
    obtain ⟨ts, items, ht, hi, he⟩ := calculate_eq_ok_iff.mp hx
    exact ⟨ts, items, ht, hi, (htokens ts items (hcomma ht) hi).mp ⟨x, he⟩⟩
  · rintro ⟨ts, items, ht, hi, hc⟩
    obtain ⟨x, hx⟩ := (htokens ts items (hcomma ht) hi).mpr hc
    exact ⟨x, calculate_eq_ok_iff.mpr ⟨ts, items, ht, hi, hx⟩⟩

/-- The value that the comma adds is the one that the product lacks. -/
theorem comma_outcome_compensated :
    ',' ∈ "(1,*2)".toList ∧ ∃ x, calculate .degrees "(1,*2)" = .ok x := by
  have hs : ',' ∈ "(1,*2)".toList := by decide
  refine ⟨hs, ((comma_outcome .degrees).2 "(1,*2)" hs).mpr
    ⟨[⟨.symbol '(', 0⟩, ⟨.number "1", 1⟩, ⟨.symbol ',', 2⟩, ⟨.symbol '*', 3⟩, ⟨.number "2", 4⟩,
        ⟨.symbol ')', 5⟩],
      [.number 1, .number 2, .operator (.binary .mul)], ?_, ?_, ⟨?_, ⟨1, ?_⟩, ?_⟩, ?_⟩⟩
  all_goals decide +kernel

/-- Without commas, an expression that has a postfix order but no derivation tree
runs short of a value or has a factorial refused. -/
theorem refused_of_not_spelled (mode : AngleMode) {ts : List Token} {items : List Item}
    (hc : .symbol ',' ∉ ts.map Token.lexeme) (h : ofTokens ts = .ok items) :
    ((∃ x, eval mode items = .ok x) → ∃ e : Phrase false .sum, e.lexemes = ts.map Token.lexeme) ∧
    ((¬ ∃ e : Phrase false .sum, e.lexemes = ts.map Token.lexeme) →
      eval mode items = .error .factorialDomain ∨
      ∃ item ∈ items, eval mode items = .error (.tooFewOperands item.text)) := by
  have hspelled : missing (ts.map Token.lexeme) = 0 → Spelled false .sum (ts.map Token.lexeme) :=
    fun hm => spelled_of_ofTokens h hm fun hi => absurd hi hc
  have hcount := List.count_eq_zero.mpr hc
  rcases eval_outcome mode h with ⟨⟨hm, -⟩, -⟩ | he | ⟨item, hi, he⟩ | ⟨n, hn, hw, -⟩
  · have := hspelled (hm.trans hcount)
    exact ⟨fun _ => this, fun hs => absurd this hs⟩
  · exact ⟨fun ⟨x, hx⟩ => (by rw [hx] at he; cases he), fun _ => .inl he⟩
  · exact ⟨fun ⟨x, hx⟩ => (by rw [hx] at he; cases he), fun _ => .inr ⟨item, hi, he⟩⟩
  · omega

/-- In `2*+3` the product lacks its right operand, and no tree can have it that way. -/
theorem refused_of_not_spelled_product :
    (¬ ∃ e : Phrase false .sum, e.lexemes = [.number "2", .symbol '*', .symbol '+', .number "3"]) ∧
    ∃ item ∈ [Item.number 2, .operator (.binary .mul), .number 3, .operator (.binary .add)],
      eval .degrees [.number 2, .operator (.binary .mul), .number 3, .operator (.binary .add)] =
        .error (.tooFewOperands item.text) := by
  have hc : .symbol ',' ∉ [⟨.number "2", 0⟩, ⟨.symbol '*', 1⟩, ⟨.symbol '+', 2⟩,
      ⟨.number "3", 3⟩].map Token.lexeme := by decide
  have hi : ofTokens [⟨.number "2", 0⟩, ⟨.symbol '*', 1⟩, ⟨.symbol '+', 2⟩, ⟨.number "3", 3⟩] =
    .ok [.number 2, .operator (.binary .mul), .number 3, .operator (.binary .add)] := by
    decide +kernel
  have he : eval .degrees [.number 2, .operator (.binary .mul), .number 3,
    .operator (.binary .add)] = .error (.tooFewOperands "*") := by decide +kernel
  -- a tree would have these items, and its value would be one or a refused factorial
  have hs : ¬ ∃ e : Phrase false .sum,
      e.lexemes = [.number "2", .symbol '*', .symbol '+', .number "3"] := by
    rintro ⟨e, hl⟩
    have ho : ofTokens [⟨.number "2", 0⟩, ⟨.symbol '*', 1⟩, ⟨.symbol '+', 2⟩, ⟨.number "3", 3⟩] =
      .ok e.items := e.ofTokens hl.symm
    rw [← Except.ok.inj (ho.symm.trans hi), e.eval_items] at he
    rcases e.value_cases .degrees with ⟨x, hx, -⟩ | ⟨hx, -⟩
    all_goals rw [hx] at he; cases he
  exact ⟨hs, ((refused_of_not_spelled .degrees hc hi).2 hs).resolve_left (by decide +kernel)⟩

end Calculator
