/-
# A fault names the stage that failed

The stage of a fault is read off its cause, and a cause is raised in several
places. Each of these places lies in the stage that the cause belongs to, with
one exception: the ordering reports a symbol that is none of the nine as a
foreign character (`run_error`). The lexer makes no such symbol
(`known_of_scan`), so for a text the stage of the fault is the stage that
failed, and the log has a line for each stage before it
(`failed_stage_of_fault`).

Key definitions: `Token.Known`, `Stage.Fails`, `Stage.linesBefore`.
-/
import Calculator.Evaluation
import Calculator.Proofs.Places

namespace Calculator

/-! ### Reading -/

namespace Token

open Lexeme

/-- The token is no symbol outside the nine. -/
def Known (t : Token) : Prop := ∀ c, t.lexeme = .symbol c → isSymbolChar c = true

/-- The lexer only makes the nine symbols. -/
theorem known_of_scan {s : String} {ts : List Token} (h : scan s = .ok ts) :
    ∀ t ∈ ts, t.Known := by
  intro t ht c hc
  obtain ⟨-, d, -, -, -, hfirst⟩ := standsIn_of_scanFrom h t ht
  rw [hc] at hfirst
  exact hfirst.2

end Token

/-! ### Ordering -/

namespace Rpn

theorem stage_of_refuses? {b : Before} {t : Token} {fault : Fault}
    (h : b.refuses? t = some fault) : fault.stage = .syntactic := by
  unfold Before.refuses? at h
  split at h <;> cases h <;> rfl

/-- A symbol without an operator is a parenthesis, a comma, or unknown. -/
theorem bracket_of_operatorAt?_eq_none {b : Before} {c : Char} (h : operatorAt? b c = none)
    (hc : Lexeme.isSymbolChar c = true) : c = '(' ∨ c = ')' ∨ c = ',' := by
  have hall : ∀ c ∈ Lexeme.symbols, Operator.ofChar? c = none → c = '(' ∨ c = ')' ∨ c = ',' :=
    List.all_iff_forall_prop.mp (by decide)
  exact hall c (List.contains_iff_mem.mp hc) (Option.map_eq_none_iff.mp h)

/-- A step fails for a reason of the syntax, or at an unknown symbol. -/
theorem step_error {s : State} {t : Token} {fault : Fault} (h : step s t = .error fault) :
    fault.stage = .syntactic ∨ ¬ t.Known := by
  unfold step at h
  split at h
  next refusal hr =>
    cases h
    exact .inl (stage_of_refuses? hr)
  next =>
    split at h
    next text ht =>
      cases hx : Numeral.read? text with
      | none => rw [hx] at h; cases h; exact .inl rfl
      | some x => rw [hx] at h; cases h
    next name ht =>
      split at h <;> cases h
      exact .inl rfl
    next => cases h
    next =>
      split at h <;> cases h
      exact .inl rfl
    next =>
      split at h <;> cases h
      exact .inl rfl
    next c hopen hclose hcomma ht =>
      split at h
      next => cases h
      next hop =>
        -- the one place where the ordering speaks of a foreign character
        refine .inr fun hknown => ?_
        rcases bracket_of_operatorAt?_eq_none hop (hknown c ht) with rfl | rfl | rfl
        · exact hopen rfl
        · exact hclose rfl
        · exact hcomma rfl

theorem run_error : ∀ {ts : List Token} {s : State} {fault : Fault},
    run s ts = .error fault → (∀ t ∈ ts, t.Known) → fault.stage = .syntactic
  | [], s, fault, h, _ => by cases h
  | t :: ts, s, fault, h, hknown => by
    obtain ⟨ht, hts⟩ := List.forall_mem_cons.mp hknown
    rw [run_cons] at h
    rcases bind_eq_error h with hstep | ⟨r, -, hlater⟩
    · exact (step_error hstep).resolve_right (not_not_intro ht)
    · exact run_error (map_eq_error hlater) hts

theorem stage_of_finish_error {s : State} {fault : Fault} (h : finish s = .error fault) :
    fault.stage = .syntactic := by
  unfold finish at h
  split at h
  · cases h
    rfl
  · split at h <;> cases h
    rfl

theorem stage_of_ofTokens_error {ts : List Token} {fault : Fault}
    (h : ofTokens ts = .error fault) (hknown : ∀ t ∈ ts, t.Known) : fault.stage = .syntactic := by
  by_cases hts : ts = []
  · subst hts
    cases h
    rfl
  · rw [ofTokens_eq_itemsFrom hts, itemsFrom] at h
    rcases bind_eq_error h with hrun | ⟨r, -, hlater⟩
    · exact run_error hrun hknown
    · exact stage_of_finish_error (map_eq_error hlater)

/-! ### Running -/

theorem stage_of_runOn_error {mode : AngleMode} {items : List Item} {stack : List Float}
    {fault : Fault} (h : runOn mode items stack = .error fault) : fault.stage = .arithmetic := by
  obtain ⟨front, item, rest, stack', -, -, hfail⟩ := runOn_eq_error_iff.mp h
  exact stage_of_exec_error hfail

theorem stage_of_verdict_error {stack : List Float} {fault : Fault}
    (h : verdict stack = .error fault) : fault.stage = .arithmetic := by
  rw [eq_leftover_of_verdict h]
  rfl

theorem stage_of_eval_error {mode : AngleMode} {items : List Item} {fault : Fault}
    (h : eval mode items = .error fault) : fault.stage = .arithmetic := by
  rw [eval_eq] at h
  rcases bind_eq_error h with hrun | ⟨stack, -, hverdict⟩
  · exact stage_of_runOn_error hrun
  · exact stage_of_verdict_error hverdict

end Rpn

/-! ### Evaluating -/

/-- The stage fails on a text, and those before it do not. -/
def Stage.Fails (mode : AngleMode) (s : String) : Stage → Prop
  | .lexical => ∃ fault, Token.scan s = .error fault
  | .syntactic => ∃ ts fault, Token.scan s = .ok ts ∧ Rpn.ofTokens ts = .error fault
  | .arithmetic => ∃ ts items fault, Token.scan s = .ok ts ∧ Rpn.ofTokens ts = .ok items ∧
      Rpn.eval mode items = .error fault

/-- How many stages come before. -/
def Stage.linesBefore : Stage → Nat
  | .lexical => 0
  | .syntactic => 1
  | .arithmetic => 2

/-- The number of lines of a log that have the lowest level. -/
def Log.debugCount (lines : List Log.Line) : Nat := lines.countP (·.level = .debug)

namespace Stage

variable {mode : AngleMode} {s : String} {g g' : Stage}

theorem linesBefore_inj (h : g.linesBefore = g'.linesBefore) : g = g' := by
  cases g <;> cases g' <;> simp_all [linesBefore]

theorem linesBefore_lt_three (g : Stage) : g.linesBefore < 3 := by
  cases g <;> decide

/-- A stage that fails raises a fault of its own, and only those before it have logged. -/
theorem Fails.fault (h : g.Fails mode s) :
    (∃ fault, evaluate mode s = .error fault ∧ fault.stage = g) ∧
      Log.debugCount (evaluationLog mode s) = g.linesBefore := by
  cases g with
  | lexical =>
    obtain ⟨fault, hscan⟩ := h
    have htrace : Trace.of mode s = .unread fault := by
      simp only [Trace.of, hscan]
    rw [evaluate, evaluationLog, htrace]
    exact ⟨⟨fault, rfl, Token.stage_of_scanFrom_error hscan⟩, rfl⟩
  | syntactic =>
    obtain ⟨ts, fault, hscan, hitems⟩ := h
    have htrace : Trace.of mode s = .unordered ts fault := by
      simp only [Trace.of, hscan, hitems]
    have hstage := Rpn.stage_of_ofTokens_error hitems (Token.known_of_scan hscan)
    rw [evaluate, evaluationLog, htrace]
    exact ⟨⟨fault, rfl, hstage⟩, rfl⟩
  | arithmetic =>
    obtain ⟨ts, items, fault, hscan, hitems, hvalue⟩ := h
    have htrace : Trace.of mode s = .unvalued ts items fault := by
      simp only [Trace.of, hscan, hitems, hvalue]
    rw [evaluate, evaluationLog, htrace]
    exact ⟨⟨fault, rfl, Rpn.stage_of_eval_error hvalue⟩, rfl⟩

/-- Either a stage fails or there is a value, and all three have logged. -/
theorem fails_or_ok (mode : AngleMode) (s : String) :
    (∃ g : Stage, g.Fails mode s) ∨
      ((∃ answer, evaluate mode s = .ok answer) ∧
        Log.debugCount (evaluationLog mode s) = 3) := by
  cases hscan : Token.scan s with
  | error fault => exact .inl ⟨.lexical, fault, hscan⟩
  | ok ts =>
    cases hitems : Rpn.ofTokens ts with
    | error fault => exact .inl ⟨.syntactic, ts, fault, hscan, hitems⟩
    | ok items =>
      cases hvalue : Rpn.eval mode items with
      | error fault => exact .inl ⟨.arithmetic, ts, items, fault, hscan, hitems, hvalue⟩
      | ok x =>
        have htrace : Trace.of mode s = .valued ts items x := by
          simp only [Trace.of, hscan, hitems, hvalue]
        rw [evaluate, evaluationLog, htrace]
        exact .inr ⟨⟨_, rfl⟩, rfl⟩

theorem fails_iff {g : Stage} :
    (∃ fault, evaluate mode s = .error fault ∧ fault.stage = g) ↔ g.Fails mode s := by
  refine ⟨?_, fun hg => hg.fault.1⟩
  rintro ⟨fault, hfault, rfl⟩
  rcases fails_or_ok mode s with ⟨g, hg⟩ | ⟨⟨answer, hok⟩, -⟩
  · obtain ⟨⟨fault', hfault', hstage⟩, -⟩ := hg.fault
    obtain rfl : fault = fault' := Except.error.inj (hfault.symm.trans hfault')
    exact hstage ▸ hg
  · cases hfault.symm.trans hok

theorem fails_iff_debugCount {g : Stage} :
    g.Fails mode s ↔ Log.debugCount (evaluationLog mode s) = g.linesBefore := by
  refine ⟨fun hg => hg.fault.2, fun hcount => ?_⟩
  rcases fails_or_ok mode s with ⟨g', hg'⟩ | ⟨-, hthree⟩
  · obtain rfl : g = g' := linesBefore_inj (hcount.symm.trans hg'.fault.2)
    exact hg'
  · have := linesBefore_lt_three g
    omega

theorem ok_iff_debugCount :
    (∃ answer, evaluate mode s = .ok answer) ↔ Log.debugCount (evaluationLog mode s) = 3 := by
  rcases fails_or_ok mode s with ⟨g, hg⟩ | ⟨hok, hthree⟩
  · obtain ⟨⟨fault, hfault, -⟩, hcount⟩ := hg.fault
    have hlt := linesBefore_lt_three g
    refine iff_of_false ?_ (by omega)
    rintro ⟨answer, hok⟩
    cases hfault.symm.trans hok
  · exact iff_of_true hok hthree

/-- The ordering knows every symbol that the lexer makes. -/
theorem step_ne_unexpectedChar {ts : List Token} (hscan : Token.scan s = .ok ts) {t : Token}
    (ht : t ∈ ts) (state : Rpn.State) (pos : Nat) (c : Char) :
    Rpn.step state t ≠ .error (.unexpectedChar pos c) := by
  intro hstep
  rcases Rpn.step_error hstep with hstage | hunknown
  · cases hstage
  · exact hunknown (Token.known_of_scan hscan t ht)

/-- The stage of the fault is the stage that failed, which the number of lines in the log tells as
well; and the ordering never comes upon a symbol that it does not know. -/
theorem failed_stage_of_fault (mode : AngleMode) (s : String) :
    (∀ g : Stage,
      ((∃ fault, evaluate mode s = .error fault ∧ fault.stage = g) ↔ g.Fails mode s) ∧
      (g.Fails mode s ↔ Log.debugCount (evaluationLog mode s) = g.linesBefore)) ∧
    ((∃ answer, evaluate mode s = .ok answer) ↔ Log.debugCount (evaluationLog mode s) = 3) ∧
    ∀ ts, Token.scan s = .ok ts → ∀ t ∈ ts, ∀ (state : Rpn.State) (pos : Nat) (c : Char),
      Rpn.step state t ≠ .error (.unexpectedChar pos c) :=
  ⟨fun _ => ⟨fails_iff, fails_iff_debugCount⟩, ok_iff_debugCount,
    fun _ hscan _ ht => step_ne_unexpectedChar hscan ht⟩

end Stage

end Calculator
