/-
# What a run of the machine looks at

A run looks at the values that it has put on the stack itself and at no others: those below stay
as they are and decide nothing (`runOn_above`). So items that have a value may be replaced by that
value anywhere in a list, also in one that fails (`value_iff_replaceable`).

Of the values that it takes, a run looks only at those that a factorial takes: all others go into
new values and decide nothing either. A run that fails does so at one item (`runOn_eq_error_iff`),
and if that is no factorial that refuses its operand, the result is what the depth scan says
(`outcome_of_shape`). The numbers may then be any others, and so may the angle mode.

Key definitions: `Rpn.FactorialRefused`, `Item.forgetValue`.
-/
import Mathlib.Control.Monad.Basic
import Calculator.Proofs.Factorial
import Calculator.Proofs.StackDepth

namespace Calculator

/-- The item with its value, if it is a number, left out: what lists that differ only in their
numbers share. -/
def Item.forgetValue : Item → Item
  | .number _ => .number 0
  | item => item

namespace Rpn

variable {mode : AngleMode}

/-! ### The values below a run -/

/-- An item that finds the values it needs does the same whatever lies below them. -/
theorem exec_above {item : Item} {stack : List Float} (h : item.need ≤ stack.length)
    (below : List Float) :
    exec mode item (stack ++ below) = (exec mode item stack).map (· ++ below) := by
  match item, stack with
  | .number x, stack => rfl
  | .operator (.binary b), y :: x :: rest => rfl
  | .operator (.unary .neg), x :: rest => rfl
  | .operator (.unary .factorial), x :: rest =>
    simp only [List.cons_append, exec, Operator.apply, UnaryOp.apply]
    cases factorial? x <;> rfl
  | .function f, x :: rest => rfl
  | .operator (.binary b), [] | .operator (.binary b), [_] | .operator (.unary u), []
  | .function f, [] => simp [Item.need, Operator.arity] at h

/-- A run that succeeds on a stack does the same above whatever lies below it. -/
theorem runOn_above : ∀ {items : List Item} {stack stack' : List Float},
    runOn mode items stack = .ok stack' → ∀ below : List Float,
      runOn mode items (stack ++ below) = .ok (stack' ++ below)
  | [], stack, stack', h, below => by
    cases h
    rfl
  | item :: items, stack, stack', h, below => by
    rw [runOn_cons] at h
    obtain ⟨middle, hexec, hlater⟩ := bind_eq_ok h
    have hneed : item.need ≤ stack.length := by
      rcases exec_cases mode item stack with ⟨-, hfail⟩ | ⟨hneed, -⟩
      · cases hexec.symm.trans hfail
      · exact hneed
    calc runOn mode (item :: items) (stack ++ below)
        = ((exec mode item stack).map (· ++ below)).bind (runOn mode items) := by
          rw [runOn_cons, exec_above hneed]
      _ = runOn mode items (middle ++ below) := by rw [hexec]; rfl
      _ = .ok (stack' ++ below) := runOn_above hlater below

/-- Items that have a value put it on any stack, as the value itself would be put there. -/
theorem runOn_of_eval {items : List Item} {x : Float} (h : eval mode items = .ok x)
    (stack : List Float) : runOn mode items stack = runOn mode [.number x] stack :=
  runOn_above (eval_eq_ok_iff.mp h) stack

/-- Items that do the same to every stack may stand for each other. -/
theorem eval_replace {r r' : List Item} (h : ∀ stack, runOn mode r stack = runOn mode r' stack)
    (p q : List Item) : eval mode (p ++ r ++ q) = eval mode (p ++ r' ++ q) := by
  have hfront : runOn mode (p ++ r) [] = runOn mode (p ++ r') [] := by
    rw [runOn_append, runOn_append]
    simp only [h]
  rw [eval_eq, eval_eq, runOn_append mode (p ++ r), hfront, ← runOn_append]

/-- Items have a value exactly if this value may stand for them in every list, whether or not the
list has a value. -/
theorem value_iff_replaceable (mode : AngleMode) (r : List Item) (x : Float) :
    eval mode r = .ok x ↔
      ∀ p q, eval mode (p ++ r ++ q) = eval mode (p ++ [.number x] ++ q) := by
  constructor
  · intro h p q
    exact eval_replace (runOn_of_eval h) p q
  · intro h
    calc eval mode r = eval mode ([] ++ r ++ []) := by rw [List.nil_append, List.append_nil]
      _ = eval mode ([] ++ [.number x] ++ []) := h [] []
      _ = .ok x := rfl

/-! ### The factorial that is refused -/

/-- Only a factorial looks at a value, and it refuses what is no natural number. -/
theorem exec_eq_factorialDomain_iff {item : Item} {stack : List Float} :
    exec mode item stack = .error .factorialDomain ↔
      item = .operator (.unary .factorial) ∧
        ∃ x rest, stack = x :: rest ∧ Double.natural? x = none := by
  constructor
  · intro h
    match item, stack with
    | .operator (.unary .factorial), x :: rest =>
      refine ⟨rfl, x, rest, rfl, ?_⟩
      cases hx : Double.natural? x with
      | none => rfl
      | some n =>
        simp only [exec, Operator.apply, factorial_apply_of_some hx] at h
        cases h
    | .number x, stack => cases h
    | .operator (.binary b), [] | .operator (.binary b), [_] | .operator (.binary b), _ :: _ :: _ =>
      cases h
    | .operator (.unary .neg), _ :: _ | .operator (.unary u), [] => cases h
    | .function f, [] | .function f, _ :: _ => cases h
  · rintro ⟨rfl, x, rest, rfl, hx⟩
    simp [exec, Operator.apply, factorial_apply_of_none hx, Except.mapError]

/-- A factorial that the run comes to finds a value that is no natural number. -/
def FactorialRefused (mode : AngleMode) (items : List Item) : Prop :=
  ∃ front rest x stack, items = front ++ .operator (.unary .factorial) :: rest ∧
    runOn mode front [] = .ok (x :: stack) ∧ Double.natural? x = none

theorem eval_eq_factorialDomain_iff {items : List Item} :
    eval mode items = .error .factorialDomain ↔ FactorialRefused mode items := by
  have hrun : eval mode items = .error .factorialDomain ↔
      runOn mode items [] = .error .factorialDomain := by
    rw [eval_eq]
    constructor
    · intro h
      rcases bind_eq_error h with hfail | ⟨stack, -, hverdict⟩
      · exact hfail
      · cases eq_leftover_of_verdict hverdict
    · intro h
      rw [h]
      rfl
  rw [hrun, runOn_eq_error_iff]
  constructor
  · rintro ⟨front, item, rest, stack', rfl, hfront, hfail⟩
    obtain ⟨rfl, x, stack, rfl, hx⟩ := exec_eq_factorialDomain_iff.mp hfail
    exact ⟨front, rest, x, stack, rfl, hfront, hx⟩
  · rintro ⟨front, rest, x, stack, rfl, hfront, hx⟩
    exact ⟨front, _, rest, x :: stack, rfl, hfront,
      exec_eq_factorialDomain_iff.mpr ⟨rfl, x, stack, rfl, hx⟩⟩

/-! ### What decides the result -/

/-- If no factorial refuses its operand, the result is what the depth scan says, values apart. -/
theorem eval_of_not_refused {items : List Item} (h : ¬ FactorialRefused mode items) :
    (eval mode items).map (fun _ => ()) = shape items := by
  have hcases := (eval_cases mode items).resolve_left (mt eval_eq_factorialDomain_iff.mp h)
  cases hs : shape items with
  | error fault =>
    rw [hs] at hcases
    rw [hcases]
    rfl
  | ok u =>
    rw [hs] at hcases
    obtain ⟨x, hx⟩ := hcases
    rw [hx]
    rfl

/-- The depth scan does not look at numbers. -/
theorem depthAfter_map_forgetValue (depth : Nat) (items : List Item) :
    depthAfter depth (items.map Item.forgetValue) = depthAfter depth items := by
  induction items generalizing depth with
  | nil => rfl
  | cons item items ih =>
    rw [List.map_cons, depthAfter, depthAfter]
    cases item with
    | number x => exact ih (depth + 1)
    | operator _ | function _ => simp only [Item.forgetValue, ih]

theorem shape_map_forgetValue (items : List Item) :
    shape (items.map Item.forgetValue) = shape items := by
  rw [shape, depthAfter_map_forgetValue, ← shape]

/-- A run ends with a refused factorial if it comes to one before an item that runs short, and else
as the depth scan says. So two lists that differ only in their numbers have the same result, values
apart, in any two modes, if neither has a factorial refused. -/
theorem outcome_of_shape (mode : AngleMode) (items : List Item) :
    (eval mode items = .error .factorialDomain ↔ FactorialRefused mode items) ∧
    (¬ FactorialRefused mode items → (eval mode items).map (fun _ => ()) = shape items) ∧
    ∀ (mode' : AngleMode) (items' : List Item),
      items.map Item.forgetValue = items'.map Item.forgetValue →
      eval mode items ≠ .error .factorialDomain → eval mode' items' ≠ .error .factorialDomain →
        (eval mode items).map (fun _ => ()) = (eval mode' items').map (fun _ => ()) := by
  refine ⟨eval_eq_factorialDomain_iff, eval_of_not_refused, ?_⟩
  intro mode' items' hsame h h'
  have hshape : shape items = shape items' := by
    rw [← shape_map_forgetValue, hsame, shape_map_forgetValue]
  have hvalue := eval_of_not_refused (mt eval_eq_factorialDomain_iff.mpr h)
  have hvalue' := eval_of_not_refused (mt eval_eq_factorialDomain_iff.mpr h')
  exact hvalue.trans (hshape.trans hvalue'.symm)

/-- The factorial of pi is refused before the sum runs short; with three in place of pi the sum does
run short, and with any number that has a factorial, in any mode. -/
theorem outcome_of_shape_sum :
    eval .degrees [.number pi, .operator (.unary .factorial), .operator (.binary .add)] =
      .error .factorialDomain ∧
    (eval .degrees [.number 3, .operator (.unary .factorial), .operator (.binary .add)]).map
        (fun _ => ()) = .error (.tooFewOperands "+") ∧
    (eval .degrees [.number 3, .operator (.unary .factorial), .operator (.binary .add)]).map
        (fun _ => ()) =
      (eval .radians [.number 4, .operator (.unary .factorial), .operator (.binary .add)]).map
        (fun _ => ()) := by
  have hpi : Double.natural? pi = none := by decide +kernel
  have hthree : eval .degrees [.number 3, .operator (.unary .factorial),
      .operator (.binary .add)] ≠ .error .factorialDomain := by decide +kernel
  have hfour : eval .radians [.number 4, .operator (.unary .factorial),
      .operator (.binary .add)] ≠ .error .factorialDomain := by decide +kernel
  obtain ⟨hrefused, hshape, hsame⟩ := outcome_of_shape .degrees
    [.number 3, .operator (.unary .factorial), .operator (.binary .add)]
  refine ⟨(outcome_of_shape .degrees _).1.mpr ⟨[.number pi], _, pi, [], rfl, rfl, hpi⟩, ?_, ?_⟩
  · exact hshape (mt hrefused.mpr hthree)
  · exact hsame .radians _ (by simp [Item.forgetValue]) hthree hfour

end Rpn

end Calculator
