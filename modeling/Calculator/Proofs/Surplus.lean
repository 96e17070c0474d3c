/-
# Values that are left over

Functions take one argument, so what stands before a comma is a value that nothing takes. Trees of
the grammar with commas, however nested, have items that never run short, and they leave one value
and one more for each comma (`Phrase.depthAfter_items`). Where operands are missing some of these
values are taken after all, so an expression that leaves `n` values has at least `n - 1` commas
(`leftover_of_commas`).

Key theorems: `Phrase.depthAfter_items`, `leftover_of_commas`.
-/
import Calculator.Proofs.Locality
import Calculator.Proofs.Malformed
import Calculator.Proofs.Stages

namespace Calculator

open Rpn

namespace Phrase

variable {commas : Bool} {r : Rank}

/-- The items of two trees and the operator that joins them, whatever is there before them. -/
theorem depthAfter_binary {is js : List Item} {k m : Nat}
    (hl : ∀ depth, depthAfter depth is = .ok (depth + k + 1))
    (hr : ∀ depth, depthAfter depth js = .ok (depth + m + 1)) (op : BinaryOp) (depth : Nat) :
    depthAfter depth (is ++ js ++ [.operator (.binary op)]) = .ok (depth + (k + m) + 1) := by
  have hneed : ¬ depth + k + 1 + m + 1 < 2 := by omega
  have hleft : depth + k + 1 + m + 1 - 2 + 1 = depth + (k + m) + 1 := by omega
  simp only [depthAfter_append, hl, hr, depthAfter, Item.need, Operator.arity, if_neg hneed, hleft]

/-- The items of a tree and an item that takes one value. -/
theorem depthAfter_unary {is : List Item} {k : Nat}
    (h : ∀ depth, depthAfter depth is = .ok (depth + k + 1)) {item : Item} (hitem : item.need = 1)
    (depth : Nat) : depthAfter depth (is ++ [item]) = .ok (depth + k + 1) := by
  have hneed : ¬ depth + k + 1 < 1 := by omega
  simp only [depthAfter_append, h, depthAfter, hitem, if_neg hneed, Nat.add_sub_cancel]

/-- The items of a tree never run short, and leave one value and one more for each comma. -/
theorem depthAfter_items (e : Phrase commas r) (depth : Nat) :
    depthAfter depth e.items = .ok (depth + e.commaCount + 1) := by
  induction e generalizing depth with
  | one _ ih | ofProduct _ ih | ofPower _ ih | ofFactorial _ ih | ofNegation _ ih | ofAtom _ ih
  | group _ ih => exact ih depth
  | more _ es e ih ih' =>
    have hcount : depth + es.commaCount + 1 + e.commaCount + 1 =
        depth + (es.commaCount + 1 + e.commaCount) + 1 := by omega
    simp only [items, commaCount, depthAfter_append, ih, ih', hcount]
  | add _ _ ih ih' | sub _ _ ih ih' | mul _ _ ih ih' | div _ _ ih ih' | pow _ _ ih ih' =>
    exact depthAfter_binary ih ih' _ depth
  | factorial _ ih | neg _ ih | call _ _ ih => exact depthAfter_unary ih rfl depth
  | number _ _ | constant _ _ => rfl

theorem shape_items (e : Phrase commas r) (h : 0 < e.commaCount) :
    shape e.items = .error (.leftover (e.commaCount + 1)) := by
  have hone : e.commaCount + 1 ≠ 1 := by omega
  simp only [shape, depthAfter_items, Nat.zero_add, if_neg hone]

end Phrase

/-- A text with too many values has been read and ordered. -/
theorem exists_items_of_leftover {mode : AngleMode} {s : String} {n : Nat}
    (h : calculate mode s = .error (.leftover n)) :
    ∃ ts items, Token.scan s = .ok ts ∧ ofTokens ts = .ok items ∧
      eval mode items = .error (.leftover n) := by
  rw [calculate_eq] at h
  rcases bind_eq_error h with hscan | ⟨ts, hscan, hlater⟩
  · cases Token.stage_of_scanFrom_error hscan
  · rcases bind_eq_error hlater with hitems | ⟨items, hitems, hvalue⟩
    · cases stage_of_ofTokens_error hitems (Token.known_of_scan hscan)
    · exact ⟨ts, items, hscan, hitems, hvalue⟩

/-- A text that leaves `n` values leaves at least two and has at least `n - 1` commas; and tokens
that spell a tree with `k` commas, one or more, have its postfix order, which leaves `k + 1` values
unless a factorial refuses its operand. -/
theorem leftover_of_commas (mode : AngleMode) :
    (∀ s n, calculate mode s = .error (.leftover n) → 2 ≤ n ∧ n - 1 ≤ s.toList.count ',') ∧
    ∀ (e : Phrase true .sum) (ts : List Token), ts.map Token.lexeme = e.lexemes →
      ∀ k, e.lexemes.count (.symbol ',') = k → 1 ≤ k →
        ofTokens ts = .ok e.items ∧
        (FactorialRefused mode e.items ∧ eval mode e.items = .error .factorialDomain ∨
          ¬ FactorialRefused mode e.items ∧ eval mode e.items = .error (.leftover (k + 1))) := by
  constructor
  · intro s n h
    obtain ⟨ts, items, hscan, hitems, hvalue⟩ := exists_items_of_leftover h
    rw [← Token.count_comma_of_scan hscan]
    rcases eval_outcome mode hitems with ⟨-, x, hx⟩ | he | ⟨item, -, he⟩ | ⟨m, hm, hcount, he⟩
    · cases hvalue.symm.trans hx
    · cases hvalue.symm.trans he
    · cases hvalue.symm.trans he
    · cases hvalue.symm.trans he
      omega
  · intro e ts hts k hk hpos
    rw [e.count_comma] at hk
    subst hk
    refine ⟨e.ofTokens hts, ?_⟩
    by_cases hrefused : FactorialRefused mode e.items
    · exact .inl ⟨hrefused, eval_eq_factorialDomain_iff.mpr hrefused⟩
    · have hshape := (eval_of_not_refused hrefused).trans (e.shape_items hpos)
      exact .inr ⟨hrefused, map_eq_error hshape⟩

/-- The root takes one of two values, and `((1,2)!,3)` leaves three, as its factorial takes two. -/
theorem leftover_of_commas_nested :
    (calculate .degrees "sqrt(1,2)" = .error (.leftover 2) ∧
      2 - 1 ≤ "sqrt(1,2)".toList.count ',') ∧
    eval .degrees [.number 1, .number 2, .operator (.unary .factorial), .number 3] =
      .error (.leftover (2 + 1)) := by
  have hroot : calculate .degrees "sqrt(1,2)" = .error (.leftover 2) := by decide +kernel
  refine ⟨⟨hroot, ((leftover_of_commas .degrees).1 _ 2 hroot).2⟩, ?_⟩
  have hone : Numeral.read? "1" = some 1 := by decide +kernel
  have htwo : Numeral.read? "2" = some 2 := by decide +kernel
  have hthree : Numeral.read? "3" = some 3 := by decide +kernel
  have hnatural : eval .degrees [.number 1, .number 2, .operator (.unary .factorial),
    .number 3] ≠ .error .factorialDomain := by decide +kernel
  let one : Phrase true .sum :=
    (Phrase.number "1" 1 hone).ofAtom.ofNegation.ofFactorial.ofPower.ofProduct
  let two : Phrase true .sum :=
    (Phrase.number "2" 2 htwo).ofAtom.ofNegation.ofFactorial.ofPower.ofProduct
  let three : Phrase true .sum :=
    (Phrase.number "3" 3 hthree).ofAtom.ofNegation.ofFactorial.ofPower.ofProduct
  let both : Phrase true .sum :=
    (Phrase.more rfl (.one one) two).group.ofAtom.ofNegation.factorial.ofFactorial.ofPower.ofProduct
  have h := (leftover_of_commas .degrees).2
    (Phrase.more rfl (.one both) three).group.ofAtom.ofNegation.ofFactorial.ofPower.ofProduct
    [⟨.symbol '(', 0⟩, ⟨.symbol '(', 1⟩, ⟨.number "1", 2⟩, ⟨.symbol ',', 3⟩, ⟨.number "2", 4⟩,
      ⟨.symbol ')', 5⟩, ⟨.symbol '!', 6⟩, ⟨.symbol ',', 7⟩, ⟨.number "3", 8⟩, ⟨.symbol ')', 9⟩]
    rfl 2 (by rfl) (by decide)
  rcases h.2 with ⟨-, hrefused⟩ | ⟨-, hleft⟩
  · exact absurd hrefused hnatural
  · exact hleft

end Calculator
