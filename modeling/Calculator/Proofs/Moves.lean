/-
# What one token does to the ordering

Every token that the ordering accepts makes one of six moves, and which one it
makes, what goes out and what is left waiting depend on the token's lexeme
alone: its position only shows in faults (`step_eq_ok_iff`). A run over tokens
is then a sequence of moves over their lexemes (`run_eq_ok_iff`), and what the
ordering makes of a whole list is what such a sequence sends out, followed by
all that still waits (`ofTokens_eq_ok_iff`). Nothing after this opens `step`.

Key definitions: `Rpn.Moves`, `Rpn.Runs`, `Rpn.State.Closed`.
-/
import Mathlib.Data.List.TakeWhile
import Calculator.Rpn.Ordering

namespace Calculator.Rpn

/-- The value that a number or a constant stands for. -/
def literal? : Lexeme → Option Float
  | .number text => Numeral.read? text
  | .name name => constant? name
  | .symbol _ => none

/-- The move that a lexeme makes: what it sends out and the state it leaves. -/
inductive Moves (s : State) : Lexeme → List Item → State → Prop
  | literal {l : Lexeme} {x : Float} (value : literal? l = some x)
    (awaits : s.before.awaitsOperand = true) :
    Moves s l [.number x] { s with before := .value }
  | function {f : Function} (awaits : s.before.awaitsOperand = true) :
    Moves s (.name f.name) [] ⟨.function f :: s.waiting, .function f⟩
  | opening (before : s.before.awaitsOperand = true ∨ ∃ f, s.before = .function f) :
    Moves s (.symbol '(') [] ⟨.paren :: s.waiting, .openParen⟩
  | closing {above below : List Waiting} (before : s.before = .value ∨ s.before = .start)
    (waiting : s.waiting = above ++ .paren :: below) (inner : .paren ∉ above) :
    Moves s (.symbol ')') (released above ++ (takeCall below).1) ⟨(takeCall below).2, .value⟩
  | comma {above below : List Waiting} (before : s.before = .value)
    (waiting : s.waiting = above ++ .paren :: below) (inner : .paren ∉ above) :
    Moves s (.symbol ',') (released above) ⟨.paren :: below, .comma⟩
  | operator {c : Char} {op : Operator} (sign : operatorAt? s.before c = some op)
    (before : ∀ f, s.before ≠ .function f) :
    Moves s (.symbol c) (pushOperator s op).1 (pushOperator s op).2

/-- Moves one after the other, with all that they send out. -/
inductive Runs : State → List Lexeme → List Item → State → Prop
  | nil (s : State) : Runs s [] [] s
  | cons {s s' s'' : State} {l : Lexeme} {ls : List Lexeme} {out later : List Item}
    (first : Moves s l out s') (rest : Runs s' ls later s'') : Runs s (l :: ls) (out ++ later) s''

/-- Nothing is left open: no parenthesis, and no function without its own. -/
structure State.Closed (s : State) : Prop where
  before : ∀ f, s.before ≠ .function f
  waiting : .paren ∉ s.waiting

theorem released_append (ws vs : List Waiting) :
    released (ws ++ vs) = released ws ++ released vs := List.filterMap_append

/-! ### The stack around its nearest parenthesis -/

theorem isParen_eq_true {w : Waiting} : w.isParen = true ↔ w = .paren := by
  cases w <;> simp [Waiting.isParen]

theorem isParen_eq_false {w : Waiting} : w.isParen = false ↔ w ≠ .paren := by
  cases w <;> simp [Waiting.isParen]

theorem State.above_append_fromParen (s : State) : s.above ++ s.fromParen = s.waiting :=
  List.takeWhile_append_dropWhile

theorem State.paren_notMem_above (s : State) : .paren ∉ s.above := fun hp => by
  cases List.mem_takeWhile_imp hp

/-- The nearest parenthesis splits the stack in one way. -/
theorem split_at_paren {s : State} {above below : List Waiting} {w : Waiting} :
    s.above = above ∧ s.fromParen = w :: below ↔
      w = .paren ∧ s.waiting = above ++ .paren :: below ∧ .paren ∉ above := by
  constructor
  · rintro ⟨rfl, h⟩
    have hw : w = .paren := by
      have hhead := List.head?_dropWhile_not (fun w : Waiting => !w.isParen) s.waiting
      rw [show s.waiting.dropWhile (fun w => !w.isParen) = w :: below from h] at hhead
      simpa [isParen_eq_true] using hhead
    refine ⟨hw, ?_, s.paren_notMem_above⟩
    rw [← hw, ← h, s.above_append_fromParen]
  · rintro ⟨rfl, hw, ha⟩
    have hall : ∀ x ∈ above, (!x.isParen) = true := fun x hx => by
      rw [Bool.not_eq_true', isParen_eq_false]
      exact fun he => ha (he ▸ hx)
    rw [State.above, State.fromParen, hw, List.takeWhile_append_of_pos hall,
      List.dropWhile_append_of_pos hall]
    simp [Waiting.isParen]

/-- Only operators yield to an operator. -/
theorem eq_operator_of_yieldsTo {w : Waiting} {op : Operator} (h : w.yieldsTo op = true) :
    ∃ top, w = .operator top := by
  cases w with
  | operator top => exact ⟨top, rfl⟩
  | paren | function _ => cases h

/-- An operator that comes in leaves the stack from the nearest parenthesis on as it is. -/
theorem fromParen_pushOperator (s : State) (op : Operator) :
    (pushOperator s op).2.fromParen = s.fromParen := by
  have hyields : ∀ w ∈ s.waiting.takeWhile (·.yieldsTo op), (!w.isParen) = true := by
    intro w hw
    obtain ⟨top, rfl⟩ := eq_operator_of_yieldsTo (List.mem_takeWhile_imp hw)
    rfl
  calc (pushOperator s op).2.fromParen
      = (s.waiting.dropWhile (·.yieldsTo op)).dropWhile (!·.isParen) := rfl
    _ = (s.waiting.takeWhile (·.yieldsTo op) ++ s.waiting.dropWhile (·.yieldsTo op)).dropWhile
          (!·.isParen) := (List.dropWhile_append_of_pos hyields).symm
    _ = s.fromParen := by rw [List.takeWhile_append_dropWhile, State.fromParen]

/-! ### Moves and steps -/

/-- The lexemes that may follow, whatever they mean. -/
def Before.Allows (b : Before) : Lexeme → Prop
  | .number _ | .name _ => b.awaitsOperand = true
  | .symbol '(' => b.awaitsOperand = true ∨ ∃ f, b = .function f
  | .symbol ')' => b = .value ∨ b = .start
  | .symbol ',' => b = .value
  | .symbol _ => ∀ f, b ≠ .function f

theorem allows_symbol {b : Before} {c : Char} (h₁ : c ≠ '(') (h₂ : c ≠ ')') (h₃ : c ≠ ',') :
    b.Allows (.symbol c) ↔ ∀ f, b ≠ .function f := by
  simp [Before.Allows]

theorem refuses?_eq_none_iff {b : Before} {t : Token} :
    b.refuses? t = none ↔ b.Allows t.lexeme := by
  obtain ⟨l, p⟩ := t
  match l with
  | .number _ | .name _ | .symbol '(' | .symbol ')' | .symbol ',' =>
    cases b <;> simp [Before.refuses?, Before.Allows, Before.awaitsOperand]
  | .symbol c =>
    by_cases h₁ : c = '('
    · subst h₁
      cases b <;> simp [Before.refuses?, Before.Allows, Before.awaitsOperand]
    by_cases h₂ : c = ')'
    · subst h₂
      cases b <;> simp [Before.refuses?, Before.Allows]
    by_cases h₃ : c = ','
    · subst h₃
      cases b <;> simp [Before.refuses?, Before.Allows]
    rw [allows_symbol h₁ h₂ h₃]
    cases b <;> simp [Before.refuses?, h₁, h₂, h₃]

/-- A symbol that is an operator is no parenthesis and no comma. -/
theorem ne_of_operatorAt? {b : Before} {c : Char} {op : Operator} (h : operatorAt? b c = some op) :
    c ≠ '(' ∧ c ≠ ')' ∧ c ≠ ',' := by
  refine ⟨?_, ?_, ?_⟩ <;> rintro rfl <;> simp [operatorAt?, Operator.ofChar?] at h

/-- The operators in their places: a minus sign where an operand has to come, a
factorial, and the operators between two operands. -/
theorem operatorAt?_cases {b : Before} {c : Char} {op : Operator} (h : operatorAt? b c = some op) :
    (c = '-' ∧ b.awaitsOperand = true ∧ op = .unary .neg) ∨
    (c = '!' ∧ op = .unary .factorial) ∨
    ∃ o, op = .binary o ∧ Operator.ofChar? c = some (.binary o) ∧
      (c = '-' → b.awaitsOperand = false) := by
  obtain ⟨o, ho, rfl⟩ := Option.map_eq_some_iff.mp h
  by_cases hm : c = '-'
  · subst hm
    cases ho
    cases hb : b.awaitsOperand <;> simp [Operator.ofChar?]
  · have hne : o ≠ .binary .sub := by
      rintro rfl
      unfold Operator.ofChar? at ho
      split at ho <;> cases ho
      exact hm rfl
    rw [if_neg fun hs => hne hs.1]
    cases o with
    | binary o => exact .inr (.inr ⟨o, rfl, ho, fun hc => absurd hc hm⟩)
    | unary u =>
      unfold Operator.ofChar? at ho
      split at ho <;> cases ho
      exact .inr (.inl ⟨rfl, rfl⟩)

theorem step_of_moves {s s' : State} {t : Token} {out : List Item}
    (h : Moves s t.lexeme out s') : step s t = .ok (out, s') := by
  obtain ⟨l, p⟩ := t
  simp only at h
  cases h with
  | literal value awaits =>
    cases l with
    | number text =>
      have hr : s.before.refuses? ⟨.number text, p⟩ = none := refuses?_eq_none_iff.mpr awaits
      simp only [literal?] at value
      simp [step, hr, value]
    | name name =>
      have hr : s.before.refuses? ⟨.name name, p⟩ = none := refuses?_eq_none_iff.mpr awaits
      simp only [literal?] at value
      simp [step, hr, value]
    | symbol c => cases value
  | @function f awaits =>
    have hr : s.before.refuses? ⟨.name f.name, p⟩ = none := refuses?_eq_none_iff.mpr awaits
    simp [step, hr, constant?_name, Function.ofName?_name]
  | opening before =>
    have hr : s.before.refuses? ⟨.symbol '(', p⟩ = none := refuses?_eq_none_iff.mpr before
    simp [step, hr]
  | @closing above below before waiting inner =>
    have hr : s.before.refuses? ⟨.symbol ')', p⟩ = none := refuses?_eq_none_iff.mpr before
    obtain ⟨ha, hf⟩ := split_at_paren.mpr ⟨rfl, waiting, inner⟩
    simp [step, hr, ha, hf]
  | @comma above below before waiting inner =>
    have hr : s.before.refuses? ⟨.symbol ',', p⟩ = none := refuses?_eq_none_iff.mpr before
    obtain ⟨ha, hf⟩ := split_at_paren.mpr ⟨rfl, waiting, inner⟩
    simp [step, hr, ha, hf]
  | @operator c op sign before =>
    obtain ⟨h₁, h₂, h₃⟩ := ne_of_operatorAt? sign
    have hr : s.before.refuses? ⟨.symbol c, p⟩ = none :=
      refuses?_eq_none_iff.mpr ((allows_symbol h₁ h₂ h₃).mpr before)
    simp [step, hr, sign]

theorem moves_of_step {s s' : State} {t : Token} {out : List Item}
    (h : step s t = .ok (out, s')) : Moves s t.lexeme out s' := by
  obtain ⟨l, p⟩ := t
  unfold step at h
  split at h
  · cases h
  next hr =>
    have ha := refuses?_eq_none_iff.mp hr
    cases l with
    | number text =>
      cases hx : Numeral.read? text with
      | none => simp [hx] at h
      | some x =>
        simp only [hx, Except.ok.injEq, Prod.mk.injEq] at h
        obtain ⟨rfl, rfl⟩ := h
        exact .literal hx ha
    | name name =>
      cases hx : constant? name with
      | some x =>
        simp only [hx, Except.ok.injEq, Prod.mk.injEq] at h
        obtain ⟨rfl, rfl⟩ := h
        exact .literal hx ha
      | none =>
        cases hf : Function.ofName? name with
        | none => simp [hx, hf] at h
        | some f =>
          simp only [hx, hf, Except.ok.injEq, Prod.mk.injEq] at h
          obtain ⟨rfl, rfl⟩ := h
          rw [← Function.name_of_ofName? hf]
          exact .function ha
    | symbol c =>
      by_cases h₁ : c = '('
      · subst h₁
        simp only [Except.ok.injEq, Prod.mk.injEq] at h
        obtain ⟨rfl, rfl⟩ := h
        exact .opening ha
      by_cases h₂ : c = ')'
      · subst h₂
        cases hf : s.fromParen with
        | nil => simp [hf] at h
        | cons w below =>
          simp only [hf, Except.ok.injEq, Prod.mk.injEq] at h
          obtain ⟨rfl, rfl⟩ := h
          obtain ⟨-, hw, hi⟩ := split_at_paren.mp ⟨rfl, hf⟩
          exact .closing ha hw hi
      by_cases h₃ : c = ','
      · subst h₃
        cases hf : s.fromParen with
        | nil => simp [hf] at h
        | cons w below =>
          simp only [hf, Except.ok.injEq, Prod.mk.injEq] at h
          obtain ⟨rfl, rfl⟩ := h
          obtain ⟨rfl, hw, hi⟩ := split_at_paren.mp ⟨rfl, hf⟩
          exact .comma ha hw hi
      cases hop : operatorAt? s.before c with
      | none => simp [hop] at h
      | some op =>
        simp only [hop, Except.ok.injEq] at h
        have hm := Moves.operator hop ((allows_symbol h₁ h₂ h₃).mp ha)
        rwa [h] at hm

theorem step_eq_ok_iff {s s' : State} {t : Token} {out : List Item} :
    step s t = .ok (out, s') ↔ Moves s t.lexeme out s' := ⟨moves_of_step, step_of_moves⟩

/-! ### Sequences of moves and runs -/

theorem run_of_runs {s s' : State} {ls : List Lexeme} {out : List Item} (h : Runs s ls out s') :
    ∀ {ts : List Token}, ts.map Token.lexeme = ls → run s ts = .ok (out, s') := by
  induction h with
  | nil s =>
    intro ts hts
    rw [List.map_eq_nil_iff.mp hts]
    rfl
  | cons first rest ih =>
    intro ts hts
    obtain ⟨t, us, rfl, rfl, hus⟩ := List.map_eq_cons_iff.mp hts
    simp only [run, step_of_moves first, ih hus]

theorem runs_of_run : ∀ {ts : List Token} {s s' : State} {out : List Item},
    run s ts = .ok (out, s') → Runs s (ts.map Token.lexeme) out s'
  | [], s, s', out, h => by
    simp only [run, Except.ok.injEq, Prod.mk.injEq] at h
    obtain ⟨rfl, rfl⟩ := h
    exact .nil s
  | t :: ts, s, s', out, h => by
    simp only [run] at h
    split at h
    · cases h
    next out₁ s₁ h₁ =>
      split at h
      · cases h
      next later s₂ h₂ =>
        simp only [Except.ok.injEq, Prod.mk.injEq] at h
        obtain ⟨rfl, rfl⟩ := h
        exact .cons (moves_of_step h₁) (runs_of_run h₂)

theorem run_eq_ok_iff {s s' : State} {ts : List Token} {out : List Item} :
    run s ts = .ok (out, s') ↔ Runs s (ts.map Token.lexeme) out s' :=
  ⟨runs_of_run, fun h => run_of_runs h rfl⟩

theorem Runs.single {s s' : State} {l : Lexeme} {out : List Item} (h : Moves s l out s') :
    Runs s [l] out s' := by
  have := Runs.cons h (.nil s')
  rwa [List.append_nil] at this

/-- A move that sends nothing out. -/
theorem Runs.silent {s s' s'' : State} {l : Lexeme} {ls : List Lexeme} {later : List Item}
    (h : Moves s l [] s') (rest : Runs s' ls later s'') : Runs s (l :: ls) later s'' := .cons h rest

theorem Runs.append {s s' s'' : State} {ls ms : List Lexeme} {out later : List Item}
    (h : Runs s ls out s') (h' : Runs s' ms later s'') :
    Runs s (ls ++ ms) (out ++ later) s'' := by
  induction h with
  | nil => exact h'
  | cons first rest ih =>
    rw [List.cons_append, List.append_assoc]
    exact .cons first (ih h')

theorem Runs.split {s s' : State} {ls ms : List Lexeme} {out : List Item}
    (h : Runs s (ls ++ ms) out s') :
    ∃ s₁ sent later, Runs s ls sent s₁ ∧ Runs s₁ ms later s' ∧ out = sent ++ later := by
  induction ls generalizing s out with
  | nil => exact ⟨s, [], out, .nil s, h, rfl⟩
  | cons l ls ih =>
    cases h with
    | cons first rest =>
      obtain ⟨s₁, sent, later, hfront, hback, rfl⟩ := ih rest
      exact ⟨s₁, _, later, .cons first hfront, hback, (List.append_assoc ..).symm⟩

theorem Runs.split_last {s s' : State} {ls : List Lexeme} {l : Lexeme} {out : List Item}
    (h : Runs s (ls ++ [l]) out s') : ∃ s₁ sent last, Runs s ls sent s₁ ∧ Moves s₁ l last s' := by
  obtain ⟨s₁, sent, later, hfront, hlast, -⟩ := h.split
  cases hlast with
  | cons move rest =>
    cases rest
    exact ⟨s₁, sent, _, hfront, move⟩

theorem finish_eq_ok_iff {s : State} {later : List Item} :
    finish s = .ok later ↔ s.Closed ∧ later = released s.waiting := by
  have hp : s.waiting.any (·.isParen) = true ↔ .paren ∈ s.waiting := by
    simp [List.any_eq_true, isParen_eq_true]
  unfold finish
  split
  next f hf =>
    exact ⟨fun h => (by cases h), fun h => absurd hf (h.1.before f)⟩
  next hb =>
    split
    next hw =>
      exact ⟨fun h => (by cases h), fun h => absurd (hp.mp hw) h.1.waiting⟩
    next hw =>
      rw [Except.ok.injEq]
      exact ⟨fun h => ⟨⟨hb, fun hm => hw (hp.mpr hm)⟩, h.symm⟩, fun h => h.2.symm⟩

/-- The postfix order is what the moves send out and then what still waits. -/
theorem ofTokens_eq_ok_iff {ts : List Token} {items : List Item} :
    ofTokens ts = .ok items ↔ ts ≠ [] ∧ ∃ out s, Runs .initial (ts.map Token.lexeme) out s ∧
      s.Closed ∧ items = out ++ released s.waiting := by
  simp only [← run_eq_ok_iff]
  unfold ofTokens
  cases ts with
  | nil => simp
  | cons t ts =>
    simp only [List.isEmpty_cons, Bool.false_eq_true, ↓reduceIte, ne_eq, reduceCtorEq,
      not_false_eq_true, true_and]
    cases run .initial (t :: ts) with
    | error fault => simp
    | ok r =>
      obtain ⟨out, s⟩ := r
      simp only [Except.ok.injEq, Prod.mk.injEq, and_assoc]
      cases hf : finish s with
      | error fault =>
        refine ⟨fun h => (by cases h), ?_⟩
        rintro ⟨_, _, rfl, rfl, hc, -⟩
        rw [finish_eq_ok_iff.mpr ⟨hc, rfl⟩] at hf
        cases hf
      | ok later =>
        obtain ⟨hc, rfl⟩ := finish_eq_ok_iff.mp hf
        simp [hc, eq_comm]

end Calculator.Rpn
