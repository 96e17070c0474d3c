/-
# Values, operands and commas

Every item takes some values off the stack and puts one back, so a run that
comes to its end has left the sum of these differences (`weight`). That sum can
be read off the tokens: it is one value, one more for each comma, and one less
for each operand that is missing (`weight_ofTokens`). An operator without one of
its operands and a comma thus make up for each other, however far apart they
are, as long as no item comes too early for the values it takes.

The reason is that the ordering moves items and never makes or loses one
(`Moves.perm`), and that each token changes what an expression still owes by
what it adds to the weight (`Moves.balance`).

Key definitions: `weight`, `missing`, `made`.
-/
import Calculator.Proofs.Moves
import Calculator.Proofs.StackDepth

namespace Calculator

/-! ### Operands that are missing -/

namespace Lexeme

/-- Whether an operand has to come after it: it opens an expression, or is an
operator with an operand on its right. -/
def opens : Lexeme → Bool
  | .symbol c => c ∈ ['(', ',', '+', '-', '*', '/', '^']
  | _ => false

/-- Whether it is an operator that cannot do without an operand on its left. A
minus sign can: it is a negation then. -/
def leans : Lexeme → Bool
  | .symbol c => c ∈ ['+', '*', '/', '^', '!']
  | _ => false

end Lexeme

namespace Rpn

/-- The operand that is missing before a lexeme, if one has to come there. -/
def gap (awaited : Bool) (l : Lexeme) : Nat := if awaited && l.leans then 1 else 0

/-- The operands that are missing, one of them at the end if it has to come there. -/
def missingFrom (awaited : Bool) : List Lexeme → Nat
  | [] => if awaited then 1 else 0
  | l :: ls => gap awaited l + missingFrom l.opens ls

/-- The operands that are missing in an expression. -/
def missing (ls : List Lexeme) : Nat := missingFrom true ls

/-! ### Items are neither made nor lost -/

/-- The item that a lexeme becomes, if it becomes one. -/
def made (before : Before) (l : Lexeme) : List Item :=
  match literal? l, l with
  | some x, _ => [.number x]
  | none, .name name => (Function.ofName? name).toList.map .function
  | none, .symbol c => (operatorAt? before c).toList.map .operator
  | none, .number _ => []

theorem released_takeCall (ws : List Waiting) :
    (takeCall ws).1 ++ released (takeCall ws).2 = released ws := by
  unfold takeCall
  split <;> rfl

/-- A move sends out and leaves waiting what waited before and its own item. -/
theorem Moves.perm {s s' : State} {l : Lexeme} {out : List Item} (h : Moves s l out s') :
    (out ++ released s'.waiting).Perm (made s.before l ++ released s.waiting) := by
  cases h with
  | literal value _ =>
    simp only [made, value]
    exact .refl _
  | @function f _ =>
    simp only [made, literal?, constant?_name, Function.ofName?_name]
    exact .refl _
  | opening _ => exact .refl _
  | @closing above below _ waiting _ =>
    rw [waiting, released_append, List.append_assoc, released_takeCall]
    exact .refl _
  | @comma above below _ waiting _ =>
    rw [waiting, released_append]
    exact .refl _
  | @operator c op sign _ =>
    simp only [made, literal?, sign]
    have hw := List.takeWhile_append_dropWhile (p := (·.yieldsTo op)) (l := s.waiting)
    conv => rhs; rw [← hw, released_append]
    exact List.perm_middle

/-! ### The weight of items -/

/-- How many values items leave more than they take. -/
def weight : List Item → Int
  | [] => 0
  | i :: is => 1 - i.need + weight is

theorem weight_append : ∀ is js : List Item, weight (is ++ js) = weight is + weight js
  | [], js => by simp [weight]
  | i :: is, js => by simp only [List.cons_append, weight, weight_append is js, Int.add_assoc]

theorem weight_perm {is js : List Item} (h : is.Perm js) : weight is = weight js := by
  induction h with
  | nil => rfl
  | cons i _ ih => rw [weight, weight, ih]
  | swap i j is => simp only [weight, Int.add_left_comm]
  | trans _ _ ih ih' => exact ih.trans ih'

/-- The operand that is still owed after a token: after anything but a value. -/
def Before.owes : Before → Int
  | .value => 0
  | _ => 1

theorem Moves.awaits {s s' : State} {l : Lexeme} {out : List Item} (h : Moves s l out s') :
    s'.before.awaitsOperand = l.opens := by
  cases h with
  | @literal l x value _ =>
    cases l with
    | symbol c => cases value
    | number _ | name _ => rfl
  | function _ | opening _ | closing _ _ _ | comma _ _ _ => rfl
  | @operator c op sign _ =>
    rcases operatorAt?_cases sign with ⟨rfl, -, rfl⟩ | ⟨rfl, rfl⟩ | ⟨o, rfl, ho, -⟩
    · rfl
    · rfl
    · unfold Operator.ofChar? at ho
      split at ho <;> cases ho <;> rfl

theorem Moves.ne_start {s s' : State} {l : Lexeme} {out : List Item} (h : Moves s l out s') :
    s'.before ≠ .start := by
  cases h with
  | @operator c op sign _ =>
    rcases operatorAt?_cases sign with ⟨-, -, rfl⟩ | ⟨-, rfl⟩ | ⟨o, rfl, -, -⟩ <;>
      simp [pushOperator, Before.ofOperator, Operator.fixity]
  | _ => simp

theorem Before.owes_of_awaits {b : Before} (h : b.awaitsOperand = true) : b.owes = 1 := by
  cases b <;> simp_all [Before.awaitsOperand, Before.owes]

/-- Where neither an operand nor the parenthesis of a function has to come, a value is complete. -/
theorem Before.eq_value {b : Before} (h : b.awaitsOperand = false) (hf : ∀ f, b ≠ .function f) :
    b = .value := by
  cases b with
  | value => rfl
  | function f => exact absurd rfl (hf f)
  | _ => cases h

/-- An operator in its place. With an operand awaited only a negation lacks none on its left. -/
theorem weight_operatorAt? {b : Before} {c : Char} {op : Operator}
    (sign : operatorAt? b c = some op) (before : ∀ f, b ≠ .function f) :
    weight [.operator op] + (Before.ofOperator op).owes + gap b.awaitsOperand (.symbol c) =
      b.owes := by
  cases ha : b.awaitsOperand with
  | false =>
    rw [Before.eq_value ha before] at sign ⊢
    rcases operatorAt?_cases sign with ⟨-, hb, -⟩ | ⟨rfl, rfl⟩ | ⟨o, rfl, -, -⟩
    · cases hb
    · rfl
    · simp [weight, Item.need, Operator.arity, Before.ofOperator, Operator.fixity, Before.owes, gap]
  | true =>
    rw [Before.owes_of_awaits ha]
    rcases operatorAt?_cases sign with ⟨rfl, -, rfl⟩ | ⟨rfl, rfl⟩ | ⟨o, rfl, ho, hm⟩
    · rfl
    · rfl
    · unfold Operator.ofChar? at ho
      split at ho <;> cases ho
      case h_2 => simp [ha] at hm
      all_goals rfl

/-- A token lowers what is owed by what its item adds to the weight, where a
missing operand counts as one and a comma asks for one more. -/
theorem Moves.weight_made {s s' : State} {l : Lexeme} {out : List Item} (h : Moves s l out s')
    (hs : s.before = .start → s.waiting = []) :
    weight (made s.before l) + s'.before.owes + gap s.before.awaitsOperand l =
      s.before.owes + [l].count (.symbol ',') := by
  cases h with
  | @literal l x value awaits =>
    rw [Before.owes_of_awaits awaits]
    cases l with
    | symbol c => cases value
    | number _ | name _ =>
      simp only [made, value]
      simp [weight, Item.need, Before.owes, gap, Lexeme.leans]
  | @function f awaits =>
    rw [Before.owes_of_awaits awaits]
    simp [made, literal?, constant?_name, Function.ofName?_name, weight, Item.need, Before.owes,
      gap, Lexeme.leans]
  | opening before =>
    have ho : s.before.owes = 1 := by
      rcases before with hb | ⟨f, hf⟩
      · exact Before.owes_of_awaits hb
      · rw [hf]
        rfl
    rw [ho]
    simp [made, literal?, operatorAt?, Operator.ofChar?, weight, Before.owes, gap,
      Lexeme.leans]
  | closing before waiting _ =>
    rcases before with hb | hb
    · rw [hb]
      rfl
    · rw [hs hb] at waiting
      simp at waiting
  | comma before _ _ =>
    rw [before]
    rfl
  | @operator c op sign before =>
    have hc : Lexeme.symbol c ≠ .symbol ',' := fun he => by
      cases he
      exact (ne_of_operatorAt? sign).2.2 rfl
    simp only [made, literal?, sign, List.count_singleton, beq_iff_eq, if_neg hc]
    exact (weight_operatorAt? sign before).trans (Int.add_zero _).symm

/-- The same for all that is sent out and all that waits. -/
theorem Moves.balance {s s' : State} {l : Lexeme} {out : List Item} (h : Moves s l out s')
    (hs : s.before = .start → s.waiting = []) :
    weight out + weight (released s'.waiting) + s'.before.owes + gap s.before.awaitsOperand l =
      weight (released s.waiting) + s.before.owes + [l].count (.symbol ',') := by
  have hp := weight_perm h.perm
  rw [weight_append, weight_append] at hp
  have := h.weight_made hs
  omega

theorem Runs.balance {s s' : State} {ls : List Lexeme} {out : List Item} (h : Runs s ls out s')
    (hs : s.before = .start → s.waiting = []) (hc : s'.Closed) :
    weight out + weight (released s'.waiting) + missingFrom s.before.awaitsOperand ls =
      weight (released s.waiting) + s.before.owes + ls.count (.symbol ',') := by
  induction h with
  | nil s =>
    cases ha : s.before.awaitsOperand with
    | true => simp [missingFrom, Before.owes_of_awaits ha, weight]
    | false => simp [missingFrom, Before.eq_value ha hc.before, Before.owes, weight]
  | @cons s s' s'' l ls out later first rest ih =>
    have hb := first.balance hs
    have ih := ih (fun he => absurd he first.ne_start) hc
    rw [first.awaits] at ih
    have hcount : (l :: ls).count (.symbol ',') =
        [l].count (.symbol ',') + ls.count (.symbol ',') := by
      rw [← List.count_append, List.singleton_append]
    rw [missingFrom, weight_append, hcount]
    omega

/-- The weight of an expression's items: one value, one more for each comma, and
one less for each operand that is missing. -/
theorem weight_ofTokens {ts : List Token} {items : List Item} (h : ofTokens ts = .ok items) :
    weight items + missing (ts.map Token.lexeme) =
      1 + (ts.map Token.lexeme).count (.symbol ',') := by
  obtain ⟨-, out, s, hrun, hc, rfl⟩ := ofTokens_eq_ok_iff.mp h
  have := hrun.balance (fun _ => rfl) hc
  rw [weight_append]
  exact this.trans (by simp [State.initial, released, weight, Before.owes])

/-! ### Nothing comes of nothing -/

theorem Runs.length_le {s s' : State} {ls : List Lexeme} {out : List Item} (h : Runs s ls out s') :
    (released s.waiting).length ≤ (out ++ released s'.waiting).length := by
  induction h with
  | nil => simp
  | cons first rest ih =>
    have := first.perm.length_eq
    simp only [List.length_append] at *
    omega

/-- Only parentheses have been opened, or nothing at all. -/
def State.Bare (s : State) : Prop :=
  s.before = .start ∧ s.waiting = [] ∨ s.before = .openParen ∧ .paren ∈ s.waiting

/-- An item goes out or waits after the first token that opens no parenthesis. -/
theorem Moves.bare {s s' : State} {l : Lexeme} {out : List Item} (h : Moves s l out s')
    (hs : s.Bare) : s'.Bare ∨ out ++ released s'.waiting ≠ [] := by
  cases h with
  | literal _ _ => exact .inr (by simp)
  | function _ => exact .inr (by simp [released, Waiting.item?])
  | opening _ => exact .inl (.inr ⟨rfl, List.mem_cons_self ..⟩)
  | closing before waiting _ =>
    rcases hs with ⟨-, hw⟩ | ⟨hb, -⟩
    · simp [hw] at waiting
    · rcases before with hb' | hb' <;> rw [hb] at hb' <;> cases hb'
  | comma before _ _ =>
    rcases hs with ⟨hb, -⟩ | ⟨hb, -⟩ <;> rw [hb] at before <;> cases before
  | operator _ _ => exact .inr (by simp [pushOperator, released, Waiting.item?])

theorem Runs.bare {s s' : State} {ls : List Lexeme} {out : List Item} (h : Runs s ls out s')
    (hs : s.Bare) : s'.Bare ∨ out ++ released s'.waiting ≠ [] := by
  induction h with
  | nil => exact .inl hs
  | @cons s s' s'' l ls out later first rest ih =>
    rcases first.bare hs with hb | hne
    · rcases ih hb with hb' | hne
      · exact .inl hb'
      · right
        rw [List.append_assoc]
        exact fun he => hne (List.append_eq_nil_iff.mp he).2
    · right
      intro he
      have := rest.length_le
      simp only [List.append_eq_nil_iff] at he
      simp only [he.1.2, he.2, List.append_nil, List.length_nil, Nat.le_zero_eq,
        List.length_eq_zero_iff] at this
      exact hne (by rw [he.1.1, this]; rfl)

theorem Runs.ne_start {s s' : State} {ls : List Lexeme} {out : List Item} (h : Runs s ls out s')
    (hs : s.before ≠ .start) : s'.before ≠ .start := by
  induction h with
  | nil => exact hs
  | cons first _ ih => exact ih first.ne_start

theorem ofTokens_ne_nil {ts : List Token} {items : List Item} (h : ofTokens ts = .ok items) :
    items ≠ [] := by
  obtain ⟨hts, out, s, hrun, hc, rfl⟩ := ofTokens_eq_ok_iff.mp h
  rcases hrun.bare (.inl ⟨rfl, rfl⟩) with (⟨hb, -⟩ | ⟨-, hw⟩) | hne
  · cases ts with
    | nil => exact absurd rfl hts
    | cons t ts =>
      cases hrun with
      | cons first rest => exact absurd hb (rest.ne_start first.ne_start)
  · exact absurd hw hc.waiting
  · exact hne

/-! ### The depth of the stack -/

/-- Items that never run short change the depth of the stack by their weight. -/
theorem depthAfter_weight : ∀ {items : List Item} {depth depth' : Nat},
    depthAfter depth items = .ok depth' → (depth' : Int) = depth + weight items
  | [], depth, depth', h => by
    cases h
    simp [weight]
  | item :: items, depth, depth', h => by
    rw [depthAfter] at h
    split at h
    · cases h
    · have ih := depthAfter_weight h
      simp only [weight] at ih ⊢
      omega

/-- An expression whose items never run short leaves one value, one more for
each comma, and one less for each missing operand; but at least one. -/
theorem depth_add_missing {ts : List Token} {items : List Item} {depth : Nat}
    (h : ofTokens ts = .ok items) (hd : depthAfter 0 items = .ok depth) :
    depth + missing (ts.map Token.lexeme) =
        1 + (ts.map Token.lexeme).count (.symbol ',') ∧ 0 < depth := by
  have hw := weight_ofTokens h
  have hl := depthAfter_weight hd
  have hp := depthAfter_pos hd (ofTokens_ne_nil h)
  omega

end Rpn

end Calculator
