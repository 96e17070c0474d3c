/-
# Going on with a result

An operand, that is a literal, something in parentheses or the negation of an
operand, counts for what follows it only through its value: two operands of the
same value, each followed by the same operator and the same text, give the same
result, a fault included (`Phrase.continued_alike`). That is so because no
operator binds tighter than a negation: the first operator behind an operand
sends out all that the operand left waiting (`Phrase.runs_operand`), so the state
behind that operator does not depend on the operand.

The screen's text of a finite double is an operand, its sign included, and so is
an expression in parentheses. Hence going on with a result from the screen is the
same as computing it all at once, whatever follows and however malformed it is
(`continued_eq_parenthesized`).

Key definitions: `continuing`.
-/
import Calculator.Proofs.Malformed
import Calculator.Proofs.Places
import Calculator.Proofs.Reentry

namespace Calculator

open Rpn Token Numeral

/-- The symbols of the operators that may follow an operand. -/
def continuing : List Char := ['+', '-', '*', '/', '^', '!']

theorem operatorAt?_continuing {c : Char} (hc : c ∈ continuing) :
    ∃ op, operatorAt? .value c = some op ∧ op.fixity ≠ .before := by
  simp only [continuing, List.mem_cons, List.not_mem_nil, or_false] at hc
  rcases hc with rfl | rfl | rfl | rfl | rfl | rfl
  all_goals exact ⟨_, rfl, by decide⟩

/-- An operator that follows an operand sends out the negations before it. -/
theorem neg_yieldsTo {op o : Operator} (hop : op.fixity ≠ .before)
    (ho : o ∈ Rank.negation.operators) : (Waiting.operator o).yieldsTo op = true := by
  obtain rfl := List.mem_singleton.mp ho
  rcases op with b | u
  · cases b <;> rfl
  · cases u with
    | neg => exact absurd rfl hop
    | factorial => rfl

/-! ### Operands of the same value -/

namespace Phrase

/-- An operand and the operator behind it send out the items of the operand, and nothing but
the operator is left waiting. -/
theorem runs_operand (n : Phrase false .negation) {c : Char} {op : Operator}
    (hop : operatorAt? .value c = some op) (hf : op.fixity ≠ .before) :
    Runs .initial (n.lexemes ++ [.symbol c]) n.items ⟨[.operator op], .ofOperator op⟩ := by
  have hfirm : Firm .sum State.initial.waiting :=
    ⟨fun _ _ => rfl, fun h => (by cases h), fun f => by simp [State.initial]⟩
  obtain ⟨out, pending, hrun, hp, he⟩ :=
    n.settles .initial rfl (hfirm.mono (by decide) (by decide))
  have hm := Moves.operator (s := ⟨pending ++ State.initial.waiting, .value⟩) hop (by simp)
  rw [pushOperator_pending hp hfirm op.mem_all fun o ho => neg_yieldsTo hf ho] at hm
  rw [← he]
  exact hrun.append (.single hm)

/-- The postfix order of an operand and what follows it. -/
theorem ofTokens_operand (n : Phrase false .negation) {ts us : List Token} {t : Token} {c : Char}
    {op : Operator} (hts : ts.map lexeme = n.lexemes) (ht : t.lexeme = .symbol c)
    (hop : operatorAt? .value c = some op) (hf : op.fixity ≠ .before) :
    Rpn.ofTokens (ts ++ t :: us) =
      (itemsFrom ⟨[.operator op], .ofOperator op⟩ us).map (n.items ++ ·) := by
  have hrun : run .initial (ts ++ [t]) = .ok (n.items, ⟨[.operator op], .ofOperator op⟩) :=
    run_of_runs (n.runs_operand hop hf) (by simp [hts, ht])
  rw [ofTokens_eq_itemsFrom (by simp), ← itemsFrom_append hrun, List.append_assoc,
    List.singleton_append]

/-- What an operand and the items behind it evaluate to depends on the operand's value. -/
theorem eval_operand (mode : AngleMode) (n : Phrase false .negation) (items : List Item) :
    eval mode (n.items ++ items) =
      (n.value mode).bind fun x => (runOn mode items [x]).bind verdict := by
  rw [eval, n.runOn_items]
  cases n.value mode with
  | error fault => rfl
  | ok x => simp only [Except.bind]; cases runOn mode items [x] <;> rfl

/-- Two operands of the same value can be continued alike. -/
theorem continued_alike (mode : AngleMode) {n m : Phrase false .negation}
    (hv : n.value mode = m.value mode) {ts ts' us us' : List Token} {c : Char}
    (hc : c ∈ continuing) (p p' : Nat) (hts : ts.map lexeme = n.lexemes)
    (hts' : ts'.map lexeme = m.lexemes) (hus : SameLexemes us us') :
    Alike Eq ((Rpn.ofTokens (ts ++ ⟨.symbol c, p⟩ :: us)).bind (eval mode))
      ((Rpn.ofTokens (ts' ++ ⟨.symbol c, p'⟩ :: us')).bind (eval mode)) := by
  obtain ⟨op, hop, hf⟩ := operatorAt?_continuing hc
  have hmap : ∀ (is : List Item) (x : Except Fault (List Item)),
      (x.map (is ++ ·)).bind (eval mode) = x.bind fun js => eval mode (is ++ js) := by
    intro is x
    cases x <;> rfl
  rw [n.ofTokens_operand hts rfl hop hf, m.ofTokens_operand hts' rfl hop hf, hmap, hmap]
  refine (itemsFrom_alike _ hus).bind fun is is' his => ?_
  subst his
  rw [n.eval_operand, m.eval_operand, hv]
  exact .refl _

end Phrase

/-! ### Results and expressions as operands -/

/-- The screen's text of a finite double is an operand. -/
theorem exists_operand_written (mode : AngleMode) {x : Float} (hx : x.isFinite = true) :
    ∃ n : Phrase false .negation, (writtenTokens x).map lexeme = n.lexemes ∧
      n.value mode = .ok (shown x) :=
  ⟨_, lexemes_writtenTree hx, value_writtenTree mode hx⟩

/-- An expression without commas that has a value is an operand in parentheses. -/
theorem exists_operand_parenthesized {mode : AngleMode} {ts : List Token} {items : List Item}
    {x : Float} (hc : .symbol ',' ∉ ts.map lexeme) (hi : ofTokens ts = .ok items)
    (hx : eval mode items = .ok x) :
    ∃ n : Phrase false .negation,
      n.lexemes = .symbol '(' :: (ts.map lexeme ++ [.symbol ')']) ∧ n.value mode = .ok x := by
  have hm : missing (ts.map lexeme) = 0 := by
    rw [((eval_ok_iff hi).mp ⟨x, hx⟩).1]
    exact List.count_eq_zero.mpr hc
  have hspelled : Spelled false .sum (ts.map lexeme) :=
    spelled_of_ofTokens hi hm fun h => absurd h hc
  obtain ⟨e, he⟩ := hspelled
  have hitems : items = e.items := Except.ok.inj (hi.symm.trans (e.ofTokens he.symm))
  refine ⟨.ofAtom (.group (.one e)), ?_, ?_⟩
  · rw [← he]
    rfl
  · rw [hitems, e.eval_items] at hx
    exact hx

/-- Only minus zero is shown as another double. -/
theorem shown_eq_self {x : Float} (hz : x ≠ -0) : shown x = x := by
  have hsame := Double.ofCode_code x
  unfold shown
  by_cases h : x == 0
  · rw [if_pos h]
    rw [Double.beq_zero_iff.mp h] at hsame
    cases hn : Double.isNegative x with
    | false =>
      rw [hn] at hsame
      rw [← hsame, Double.zero_eq]
    | true =>
      rw [hn] at hsame
      rw [← hsame, Double.zero_eq, Double.neg_ofCode (by decide)] at hz
      exact absurd rfl hz
  · rw [if_neg h]

/-! ### Texts -/

theorem isSymbolChar_of_continuing {c : Char} (hc : c ∈ continuing) :
    Lexeme.isSymbolChar c = true := by
  simp only [continuing, List.mem_cons, List.not_mem_nil, or_false] at hc
  rcases hc with rfl | rfl | rfl | rfl | rfl | rfl
  all_goals rfl

/-- A text that has tokens, and one behind it that starts with a symbol. -/
theorem scan_append_symbol {e s : String} {ts : List Token} {c : Char} {r : List Char}
    (hc : Lexeme.isSymbolChar c = true) (hs : s.toList = c :: r) (h : Token.scan e = .ok ts) :
    Token.scan (e ++ s) =
      (scanFrom (e.toList.length + 1) r).map fun us =>
        ts ++ ⟨.symbol c, e.toList.length⟩ :: us := by
  have hends : ∀ d, (c :: r).head? = some d →
      Lexeme.isNumberChar d = false ∧ Lexeme.isNameChar d = false := by
    intro d hd
    obtain rfl := Option.some.inj hd
    exact (class_of_isSymbolChar hc).2
  rw [Token.scan, String.toList_append, hs, scanFrom_append h hends, scanFrom_symbol hc,
    Nat.zero_add]
  cases scanFrom (e.toList.length + 1) r <;> rfl

theorem scan_parenthesized {e : String} {ts : List Token} (h : Token.scan e = .ok ts) :
    ∃ us, Token.scan ("(" ++ e ++ ")") = .ok us ∧
      us.map lexeme = .symbol '(' :: (ts.map lexeme ++ [.symbol ')']) := by
  have halike := scanFrom_alike 0 1 e.toList
  rw [show scanFrom 0 e.toList = .ok ts from h] at halike
  obtain ⟨vs, hvs, hsame⟩ := halike.exists_ok
  have hends : ∀ d, [')'].head? = some d →
      Lexeme.isNumberChar d = false ∧ Lexeme.isNameChar d = false := by
    intro d hd
    obtain rfl := Option.some.inj hd
    exact ⟨rfl, rfl⟩
  have hlist : ("(" ++ e ++ ")").toList = '(' :: (e.toList ++ [')']) := by simp
  refine ⟨⟨.symbol '(', 0⟩ :: (vs ++ [⟨.symbol ')', 1 + e.toList.length⟩]), ?_, ?_⟩
  · rw [Token.scan, hlist, scanFrom_symbol rfl, scanFrom_append hvs hends, scanFrom_symbol rfl,
      scanFrom]
    rfl
  · rw [hsame]
    simp

/-- What is made of an operand of a text and what follows it. -/
theorem calculate_append_symbol (mode : AngleMode) {e s : String} {ts : List Token} {c : Char}
    {r : List Char} (hc : Lexeme.isSymbolChar c = true) (hs : s.toList = c :: r)
    (h : Token.scan e = .ok ts) :
    calculate mode (e ++ s) =
      (scanFrom (e.toList.length + 1) r).bind fun us =>
        (ofTokens (ts ++ ⟨.symbol c, e.toList.length⟩ :: us)).bind (eval mode) := by
  rw [calculate_eq, scan_append_symbol hc hs h]
  cases scanFrom (e.toList.length + 1) r <;> rfl

/-- Going on with a finite result as the screen shows it gives what going on with the expression
in parentheses gives, whatever operator and text follow. -/
theorem continued_eq_parenthesized (mode : AngleMode) {e : String} {x : Float} (s : String)
    (hc : ',' ∉ e.toList) (he : calculate mode e = .ok x) (hx : x.isFinite = true) (hz : x ≠ -0)
    (hs : ∃ c ∈ continuing, s.toList.head? = some c) :
    (calculate mode (write screen x ++ s)).mapError Fault.forgetPosition =
      (calculate mode ("(" ++ e ++ ")" ++ s)).mapError Fault.forgetPosition := by
  obtain ⟨c, hcont, hhead⟩ := hs
  obtain ⟨r, hr⟩ := List.head?_eq_some_iff.mp hhead
  obtain ⟨ts, items, hts, hi, hv⟩ := calculate_eq_ok_iff.mp he
  have hcomma : .symbol ',' ∉ ts.map lexeme := by
    rw [← List.count_eq_zero, count_comma_of_scan hts]
    exact List.count_eq_zero.mpr hc
  obtain ⟨n, hn, hnv⟩ := exists_operand_written mode hx
  obtain ⟨m, hm, hmv⟩ := exists_operand_parenthesized hcomma hi hv
  obtain ⟨ps, hps, hpl⟩ := scan_parenthesized hts
  have hvalue : n.value mode = m.value mode := by
    rw [hnv, hmv, shown_eq_self hz]
  have hsymbol := isSymbolChar_of_continuing hcont
  rw [calculate_append_symbol mode hsymbol hr (scan_write hx),
    calculate_append_symbol mode hsymbol hr hps]
  refine ((scanFrom_alike _ _ r).bind fun us us' hus => ?_).forgetPosition_eq
  exact Phrase.continued_alike mode hvalue hcont _ _ hn (hpl.trans hm.symm) hus

/-- The factorial of the result of `1-3` is that of minus two as a whole, and refused. -/
theorem continued_eq_parenthesized_difference :
    ',' ∉ "1-3".toList ∧ calculate .degrees "1-3" = .ok (-2) ∧
    calculate .degrees ("-2" ++ "!") = .error .factorialDomain ∧
    (calculate .degrees ("-2" ++ "!")).mapError Fault.forgetPosition =
      (calculate .degrees ("(" ++ "1-3" ++ ")" ++ "!")).mapError Fault.forgetPosition := by
  have hc : ',' ∉ "1-3".toList := by decide
  have he : calculate .degrees "1-3" = .ok (-2) := by decide +kernel
  have hw : write screen (-2) = "-2" := by decide +kernel
  have h := continued_eq_parenthesized .degrees "!" hc he (by decide +kernel) (by decide +kernel)
    ⟨'!', by decide, rfl⟩
  rw [hw] at h
  exact ⟨hc, he, by decide +kernel, h⟩

end Calculator
