/-
# A run follows the depth of its stack

Only a factorial looks at a value before it decides. So a run that no factorial
ends does what the depth scan says: it stops at the first item that needs more
values than there are, or comes to its end with as many as the scan counts
(`runOn_cases`), and the result of an expression is decided by its shape
(`eval_cases`).

Key theorems: `exec_cases`, `runOn_cases`, `eval_cases`.
-/
import Calculator.Rpn.Depth
import Calculator.Rpn.Machine

namespace Calculator.Rpn

/-- An item that finds the values it needs replaces them by one, unless it is a
factorial that refuses its operand. -/
theorem exec_cases (mode : AngleMode) (item : Item) (stack : List Float) :
    (stack.length < item.need ∧ exec mode item stack = .error (.tooFewOperands item.text)) ∨
    (item.need ≤ stack.length ∧
      ((∃ stack', exec mode item stack = .ok stack' ∧
          stack'.length = stack.length - item.need + 1) ∨
        exec mode item stack = .error .factorialDomain)) := by
  match item, stack with
  | .number x, stack => exact .inr ⟨Nat.zero_le _, .inl ⟨_, rfl, rfl⟩⟩
  | .operator (.binary b), [] | .operator (.binary b), [_] | .operator (.unary u), []
  | .function f, [] => exact .inl ⟨by simp [Item.need, Operator.arity], rfl⟩
  | .operator (.binary b), y :: x :: rest =>
    refine .inr ⟨by simp [Item.need, Operator.arity], .inl ⟨_, rfl, ?_⟩⟩
    simp [Item.need, Operator.arity]
  | .operator (.unary .neg), x :: rest | .function f, x :: rest =>
    refine .inr ⟨by simp [Item.need, Operator.arity], .inl ⟨_, rfl, ?_⟩⟩
    simp [Item.need, Operator.arity]
  | .operator (.unary .factorial), x :: rest =>
    refine .inr ⟨by simp [Item.need, Operator.arity], ?_⟩
    simp only [exec, Operator.apply, UnaryOp.apply]
    cases factorial? x with
    | some y => exact .inl ⟨_, rfl, by simp [Item.need, Operator.arity]⟩
    | none => exact .inr rfl

theorem runOn_cases (mode : AngleMode) : ∀ (items : List Item) (stack : List Float),
    runOn mode items stack = .error .factorialDomain ∨
    match depthAfter stack.length items with
    | .error fault => runOn mode items stack = .error fault
    | .ok depth => ∃ stack', runOn mode items stack = .ok stack' ∧ stack'.length = depth
  | [], stack => .inr ⟨stack, rfl, rfl⟩
  | item :: items, stack => by
    rw [runOn, depthAfter]
    rcases exec_cases mode item stack with ⟨hl, he⟩ | ⟨hl, ⟨stack', he, hs⟩ | he⟩
    · rw [he, if_pos hl]
      exact .inr rfl
    · rw [he, if_neg (Nat.not_lt.mpr hl), ← hs]
      exact runOn_cases mode items stack'
    · rw [he]
      exact .inl rfl

/-- Unless a factorial refuses its operand, the shape of the items decides
whether they have a value, and if not why. -/
theorem eval_cases (mode : AngleMode) (items : List Item) :
    eval mode items = .error .factorialDomain ∨
    match shape items with
    | .error fault => eval mode items = .error fault
    | .ok () => ∃ x, eval mode items = .ok x := by
  have h := runOn_cases mode items []
  simp only [List.length_nil] at h
  unfold eval shape
  rcases h with h | h
  · rw [h]
    exact .inl rfl
  · right
    cases hd : depthAfter 0 items with
    | error fault =>
      rw [hd] at h
      simp only [h]
    | ok depth =>
      rw [hd] at h
      obtain ⟨stack, hr, rfl⟩ := h
      simp only [hr]
      match stack with
      | [x] => exact ⟨x, rfl⟩
      | [] | _ :: _ :: _ => simp [verdict]

/-- The scan fails for one reason only. -/
theorem depthAfter_error : ∀ {items : List Item} {depth : Nat} {fault : Fault},
    depthAfter depth items = .error fault → ∃ item ∈ items, fault = .tooFewOperands item.text
  | item :: items, depth, fault, h => by
    rw [depthAfter] at h
    split at h
    · exact ⟨item, List.mem_cons_self .., (Except.error.inj h).symm⟩
    · obtain ⟨item', hm, he⟩ := depthAfter_error h
      exact ⟨item', List.mem_cons_of_mem _ hm, he⟩

/-- Items leave something on the stack. -/
theorem depthAfter_pos : ∀ {items : List Item} {depth depth' : Nat},
    depthAfter depth items = .ok depth' → items ≠ [] → 0 < depth'
  | [], _, _, _, hne => absurd rfl hne
  | [item], depth, depth', h, _ => by
    simp only [depthAfter] at h
    split at h
    · cases h
    · cases h
      omega
  | item :: item' :: items, depth, depth', h, _ => by
    rw [depthAfter] at h
    split at h
    · cases h
    · exact depthAfter_pos h (by simp)

end Calculator.Rpn
