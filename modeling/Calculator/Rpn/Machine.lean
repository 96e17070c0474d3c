/-
# The postfix machine

A number goes onto the stack, an operator or a function replaces its operands
by its result, and at the end one value has to be left. The machine stops at
the first item that finds too few values or refuses its operand.

`runOn` is said over any stack, so that runs compose (`runOn_append`) and one that
fails can be cut at the item where it does (`runOn_eq_error_iff`); what an
expression evaluates to is the run on the empty stack (`eval`).

Key definitions: `Rpn.exec`, `Rpn.runOn`, `Rpn.eval`.
-/
import Calculator.Rpn

namespace Calculator.Rpn

/-- The stack, its top first, after one item. -/
def exec (mode : AngleMode) (item : Item) (stack : List Float) : Except Fault (List Float) :=
  match item, stack with
  | .number x, stack => .ok (x :: stack)
  | .operator op, stack => (op.apply stack).mapError Operator.Failure.fault
  | .function f, x :: rest => .ok (f.apply mode x :: rest)
  | .function f, [] => .error (.tooFewOperands f.name)

/-- The stack after items one after the other. -/
def runOn (mode : AngleMode) : List Item → List Float → Except Fault (List Float)
  | [], stack => .ok stack
  | item :: items, stack =>
    match exec mode item stack with
    | .error fault => .error fault
    | .ok stack' => runOn mode items stack'

/-- The only value left. -/
def verdict : List Float → Except Fault Float
  | [x] => .ok x
  | stack => .error (.leftover stack.length)

/-- The value of items in postfix order. -/
def eval (mode : AngleMode) (items : List Item) : Except Fault Float :=
  match runOn mode items [] with
  | .error fault => .error fault
  | .ok stack => verdict stack

theorem runOn_cons (mode : AngleMode) (item : Item) (items : List Item) (stack : List Float) :
    runOn mode (item :: items) stack = (exec mode item stack).bind (runOn mode items) := by
  rw [runOn]
  cases exec mode item stack <;> rfl

theorem eval_eq (mode : AngleMode) (items : List Item) :
    eval mode items = (runOn mode items []).bind verdict := by
  rw [eval]
  cases runOn mode items [] <;> rfl

theorem runOn_append (mode : AngleMode) (p q : List Item) (stack : List Float) :
    runOn mode (p ++ q) stack =
      match runOn mode p stack with
      | .error fault => .error fault
      | .ok stack' => runOn mode q stack' := by
  induction p generalizing stack with
  | nil => rfl
  | cons item p ih =>
    simp only [List.cons_append, runOn]
    cases exec mode item stack with
    | error fault => rfl
    | ok stack' => exact ih stack'

/-- A run that fails does so at one item, up to which it succeeds. -/
theorem runOn_eq_error_iff {mode : AngleMode} {items : List Item} {stack : List Float}
    {fault : Fault} :
    runOn mode items stack = .error fault ↔ ∃ front item rest stack',
      items = front ++ item :: rest ∧ runOn mode front stack = .ok stack' ∧
        exec mode item stack' = .error fault := by
  constructor
  · induction items generalizing stack with
    | nil =>
      intro h
      cases h
    | cons item items ih =>
      intro h
      rw [runOn_cons] at h
      rcases bind_eq_error h with hfail | ⟨middle, hexec, hlater⟩
      · exact ⟨[], item, items, stack, rfl, rfl, hfail⟩
      · obtain ⟨front, last, rest, stack', rfl, hrun, hfail⟩ := ih hlater
        refine ⟨item :: front, last, rest, stack', rfl, ?_, hfail⟩
        rw [runOn_cons, hexec]
        exact hrun
  · rintro ⟨front, item, rest, stack', rfl, hrun, hfail⟩
    rw [runOn_append, hrun]
    simp only
    rw [runOn_cons, hfail]
    rfl

theorem eval_eq_ok_iff {mode : AngleMode} {items : List Item} {x : Float} :
    eval mode items = .ok x ↔ runOn mode items [] = .ok [x] := by
  rw [eval_eq]
  constructor
  · intro h
    obtain ⟨stack, hrun, hverdict⟩ := bind_eq_ok h
    match stack with
    | [y] =>
      cases hverdict
      exact hrun
    | [] | _ :: _ :: _ => cases hverdict
  · intro h
    rw [h]
    rfl

/-- What is left at the end can be refused for its number alone. -/
theorem eq_leftover_of_verdict {stack : List Float} {fault : Fault}
    (h : verdict stack = .error fault) : fault = .leftover stack.length := by
  unfold verdict at h
  split at h
  · cases h
  · exact (Except.error.inj h).symm

theorem stage_of_exec_error {mode : AngleMode} {item : Item} {stack : List Float} {fault : Fault}
    (h : exec mode item stack = .error fault) : fault.stage = .arithmetic := by
  match item, stack with
  | .number x, _ => cases h
  | .operator (.binary b), [] => cases h; rfl
  | .operator (.binary b), [_] => cases h; rfl
  | .operator (.binary b), _ :: _ :: _ => cases h
  | .operator (.unary u), [] => cases h; rfl
  | .operator (.unary .neg), _ :: _ => cases h
  | .operator (.unary .factorial), x :: _ =>
    simp only [exec, Operator.apply, UnaryOp.apply] at h
    cases hf : factorial? x with
    | some y => rw [hf] at h; cases h
    | none => rw [hf] at h; cases h; rfl
  | .function f, [] => cases h; rfl
  | .function f, _ :: _ => cases h

end Calculator.Rpn
