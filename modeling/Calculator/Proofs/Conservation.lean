/-
# Nothing is lost on the way to postfix order

Items leave the ordering at four places: at once, when an operator comes in, at a comma or a closing
parenthesis, and at the end. At any time, what went out and what still waits are together the items
that the lexemes read so far stand for, in another order (`Runs.perm_written`). Numbers never wait,
so they keep their order (`Runs.numbers`), and every lexeme but parentheses and commas stands for an
item (`Runs.length`). None of this needs an operator to have its operands.

What a lexeme stands for is said here without the states of the ordering. Only of a minus sign it
depends on the lexeme before, and there only on whether that completes a value.

Key definitions: `Lexeme.item?`, `written`, `operatorsOf`.
-/
import Calculator.Proofs.Balance

namespace Calculator

/-! ### Kinds of items and of lexemes -/

namespace Item

def number? : Item → Option Float
  | number x => some x
  | _ => none

def operator? : Item → Option Operator
  | operator op => some op
  | _ => none

def function? : Item → Option Function
  | function f => some f
  | _ => none

end Item

namespace Lexeme

/-- Whether a value is complete behind it: a number, a constant, a closing parenthesis or a
factorial. -/
def completes : Lexeme → Bool
  | number _ => true
  | name n => (constant? n).isSome
  | symbol c => c == ')' || c == '!'

/-- The function that it names. -/
def function? : Lexeme → Option Function
  | name n => Function.ofName? n
  | _ => none

/-- The operator that it stands for: a minus sign behind a complete value subtracts, any other
negates. -/
def operator? (complete : Bool) : Lexeme → Option Operator
  | symbol '-' => some (if complete then .binary .sub else .unary .neg)
  | symbol c => Operator.ofChar? c
  | _ => none

/-- The item that it stands for. -/
def item? (complete : Bool) : Lexeme → Option Item
  | number text => (Numeral.read? text).map .number
  | name n => ((constant? n).map .number).or ((Function.ofName? n).map .function)
  | symbol c => (operator? complete (symbol c)).map .operator

/-- Whether it is a parenthesis or a comma. -/
def separates : Lexeme → Bool
  | symbol c => c ∈ ['(', ')', ',']
  | _ => false

end Lexeme

namespace Rpn

/-- The items that lexemes stand for, in the order in which they are written. -/
def written (complete : Bool) : List Lexeme → List Item
  | [] => []
  | l :: ls => (l.item? complete).toList ++ written l.completes ls

/-- The operators that lexemes stand for, in the order in which they are written. -/
def operatorsOf (complete : Bool) : List Lexeme → List Operator
  | [] => []
  | l :: ls => (l.operator? complete).toList ++ operatorsOf l.completes ls

theorem ofName?_of_constant? {name : String} {x : Float} (h : constant? name = some x) :
    Function.ofName? name = none := by
  cases hf : Function.ofName? name with
  | none => rfl
  | some f =>
    rw [← Function.name_of_ofName? hf, constant?_name] at h
    cases h

theorem function?_item? (complete : Bool) (l : Lexeme) :
    (l.item? complete).bind Item.function? = l.function? := by
  cases l with
  | number text =>
    cases h : Numeral.read? text <;> simp [Lexeme.item?, Lexeme.function?, Item.function?, h]
  | name n =>
    cases hx : constant? n with
    | some x => simp [Lexeme.item?, Lexeme.function?, Item.function?, hx, ofName?_of_constant? hx]
    | none =>
      cases hf : Function.ofName? n <;>
        simp [Lexeme.item?, Lexeme.function?, Item.function?, hx, hf]
  | symbol c =>
    cases h : Lexeme.operator? complete (.symbol c) <;>
      simp [Lexeme.item?, Lexeme.function?, Item.function?, h]

theorem operator?_item? (complete : Bool) (l : Lexeme) :
    (l.item? complete).bind Item.operator? = l.operator? complete := by
  cases l with
  | number text =>
    cases h : Numeral.read? text <;> simp [Lexeme.item?, Lexeme.operator?, Item.operator?, h]
  | name n =>
    cases hx : constant? n <;> cases hf : Function.ofName? n <;>
      simp [Lexeme.item?, Lexeme.operator?, Item.operator?, hx, hf]
  | symbol c =>
    cases h : Lexeme.operator? complete (.symbol c) <;> simp [Lexeme.item?, Item.operator?, h]

/-- The first item of a list, if there is one, and what a selection makes of it. -/
theorem filterMap_toList_append {α β : Type} (g : α → Option β) (x : Option α) (xs : List α) :
    (x.toList ++ xs).filterMap g = (x.bind g).toList ++ xs.filterMap g := by
  cases x with
  | none => rfl
  | some a => cases hg : g a <;> simp [hg]

theorem functions_written (complete : Bool) (ls : List Lexeme) :
    (written complete ls).filterMap Item.function? = ls.filterMap Lexeme.function? := by
  induction ls generalizing complete with
  | nil => rfl
  | cons l ls ih =>
    rw [written, filterMap_toList_append, function?_item?, ih, List.filterMap_cons]
    cases l.function? <;> rfl

theorem operators_written (complete : Bool) (ls : List Lexeme) :
    (written complete ls).filterMap Item.operator? = operatorsOf complete ls := by
  induction ls generalizing complete with
  | nil => rfl
  | cons l ls ih => rw [written, filterMap_toList_append, operator?_item?, ih, operatorsOf]

/-! ### What the state says about the lexeme before -/

/-- The state awaits an operand exactly if no value is complete, or it is that of a function whose
parenthesis has to follow. -/
def Before.Agrees (b : Before) (complete : Bool) : Prop :=
  b.awaitsOperand = !complete ∨ ∃ f, b = .function f

theorem operator?_of_operatorAt? {b : Before} {complete : Bool} {c : Char} {op : Operator}
    (h : operatorAt? b c = some op) (hb : b.awaitsOperand = !complete) :
    Lexeme.operator? complete (.symbol c) = some op := by
  rcases operatorAt?_cases h with ⟨rfl, ha, rfl⟩ | ⟨rfl, rfl⟩ | ⟨o, rfl, ho, hminus⟩
  · have hc : complete = false := by simpa [ha] using hb
    rw [hc]
    rfl
  · rfl
  · by_cases hc : c = '-'
    · subst hc
      have hcomplete : complete = true := by simpa [hminus rfl] using hb
      cases ho
      rw [hcomplete]
      rfl
    · rw [← ho]
      simp [Lexeme.operator?]

/-- A move makes the item that its lexeme stands for. -/
theorem Moves.made_eq {s s' : State} {l : Lexeme} {out : List Item} {complete : Bool}
    (h : Moves s l out s') (hs : s.before.Agrees complete) :
    made s.before l = (l.item? complete).toList := by
  cases h with
  | @literal l x value awaits =>
    cases l with
    | number text =>
      have hread : Numeral.read? text = some x := value
      simp [made, value, Lexeme.item?, hread]
    | name n =>
      have hknown : constant? n = some x := value
      simp [made, value, Lexeme.item?, hknown]
    | symbol c => cases value
  | @function f awaits =>
    simp [made, Lexeme.item?, literal?, constant?_name, Function.ofName?_name]
  | opening _ | closing _ _ _ | comma _ _ _ => rfl
  | @operator c op sign before =>
    have hawaits : s.before.awaitsOperand = !complete := by
      rcases hs with hawaits | ⟨f, hf⟩
      · exact hawaits
      · exact absurd hf (before f)
    have ho := operator?_of_operatorAt? sign hawaits
    simp [made, Lexeme.item?, literal?, sign, ho]

theorem Moves.agrees {s s' : State} {l : Lexeme} {out : List Item} (h : Moves s l out s') :
    s'.before.Agrees l.completes := by
  cases h with
  | @literal l x value awaits =>
    cases l with
    | number _ => exact .inl rfl
    | name n =>
      have hcomplete : Lexeme.completes (.name n) = true := congrArg Option.isSome value
      rw [hcomplete]
      exact .inl rfl
    | symbol _ => cases value
  | @function f awaits => exact .inr ⟨f, rfl⟩
  | opening _ | closing _ _ _ | comma _ _ _ => exact .inl rfl
  | @operator c op sign before =>
    left
    rcases operatorAt?_cases sign with ⟨rfl, -, rfl⟩ | ⟨rfl, rfl⟩ | ⟨o, rfl, ho, -⟩
    · rfl
    · rfl
    · unfold Operator.ofChar? at ho
      split at ho <;> cases ho <;> rfl

/-! ### Runs -/

/-- What goes out and what waits in the end are the items that the lexemes stand for and what waited
before. -/
theorem Runs.perm_written {s s' : State} {ls : List Lexeme} {out : List Item}
    (h : Runs s ls out s') : ∀ {complete : Bool}, s.before.Agrees complete →
      (out ++ released s'.waiting).Perm (written complete ls ++ released s.waiting) := by
  induction h with
  | nil s => exact fun _ => .refl _
  | @cons s s' s'' l ls out later first rest ih =>
    intro complete hs
    have hfirst := first.perm
    rw [first.made_eq hs] at hfirst
    have hlater := ih first.agrees
    calc List.Perm (out ++ later ++ released s''.waiting)
          (out ++ (written l.completes ls ++ released s'.waiting)) := by
            rw [List.append_assoc]
            exact hlater.append_left out
      List.Perm _ (written l.completes ls ++ (out ++ released s'.waiting)) :=
        List.perm_append_comm_assoc ..
      List.Perm _ (written l.completes ls ++ ((l.item? complete).toList ++ released s.waiting)) :=
        hfirst.append_left _
      List.Perm _ ((l.item? complete).toList ++ (written l.completes ls ++ released s.waiting)) :=
        List.perm_append_comm_assoc ..
      _ = written complete (l :: ls) ++ released s.waiting := by rw [written, List.append_assoc]

/-- What waits is no number. -/
theorem numbers_released (ws : List Waiting) : (released ws).filterMap Item.number? = [] := by
  rw [released, List.filterMap_filterMap, List.filterMap_eq_nil_iff]
  intro w _
  cases w <;> rfl

theorem Moves.numbers {s s' : State} {l : Lexeme} {out : List Item} (h : Moves s l out s') :
    out.filterMap Item.number? = (literal? l).toList := by
  cases h with
  | @literal l x value awaits =>
    rw [value]
    rfl
  | @function f awaits =>
    rw [literal?, constant?_name]
    rfl
  | opening _ => rfl
  | @closing above below before waiting inner =>
    have hcall := numbers_released below
    rw [← released_takeCall, List.filterMap_append, List.append_eq_nil_iff] at hcall
    rw [List.filterMap_append, numbers_released, hcall.1]
    rfl
  | comma _ _ _ | operator _ _ => exact numbers_released _

/-- Numbers go out in the order in which they are read. -/
theorem Runs.numbers {s s' : State} {ls : List Lexeme} {out : List Item} (h : Runs s ls out s') :
    out.filterMap Item.number? = ls.filterMap literal? := by
  induction h with
  | nil => rfl
  | @cons s s' s'' l ls out later first rest ih =>
    rw [List.filterMap_append, first.numbers, ih, List.filterMap_cons]
    cases literal? l <;> rfl

theorem Moves.length_made {s s' : State} {l : Lexeme} {out : List Item} (h : Moves s l out s') :
    (made s.before l).length + [l].countP Lexeme.separates = 1 := by
  cases h with
  | @literal l x value awaits =>
    cases l with
    | number _ | name _ => simp [made, value, Lexeme.separates]
    | symbol _ => cases value
  | @function f awaits =>
    simp [made, literal?, constant?_name, Function.ofName?_name, Lexeme.separates]
  | opening _ | closing _ _ _ | comma _ _ _ => rfl
  | @operator c op sign before =>
    obtain ⟨h₁, h₂, h₃⟩ := ne_of_operatorAt? sign
    simp [made, literal?, sign, Lexeme.separates, h₁, h₂, h₃]

/-- Every lexeme but parentheses and commas makes one item. -/
theorem Runs.length {s s' : State} {ls : List Lexeme} {out : List Item} (h : Runs s ls out s') :
    (out ++ released s'.waiting).length + ls.countP Lexeme.separates =
      ls.length + (released s.waiting).length := by
  induction h with
  | nil => simp
  | @cons s s' s'' l ls out later first rest ih =>
    have hperm := first.perm.length_eq
    have hmade := first.length_made
    have hcount : (l :: ls).countP Lexeme.separates =
        [l].countP Lexeme.separates + ls.countP Lexeme.separates := by
      rw [← List.countP_append, List.singleton_append]
    simp only [List.length_append, List.length_cons] at *
    omega

/-- The postfix order of tokens has the numbers of the tokens in the same order and their functions
and operators in another, a minus sign being a subtraction exactly where a value is complete; and it
has an item for each token that is no parenthesis and no comma. -/
theorem items_conserved {ts : List Token} {items : List Item} (h : ofTokens ts = .ok items) :
    items.filterMap Item.number? = (ts.map Token.lexeme).filterMap literal? ∧
    (items.filterMap Item.function?).Perm ((ts.map Token.lexeme).filterMap Lexeme.function?) ∧
    (items.filterMap Item.operator?).Perm (operatorsOf false (ts.map Token.lexeme)) ∧
    items.length + (ts.map Token.lexeme).countP Lexeme.separates = ts.length := by
  obtain ⟨-, out, s, hrun, -, rfl⟩ := ofTokens_eq_ok_iff.mp h
  have hstart : State.initial.before.Agrees false := .inl rfl
  have hperm : (out ++ released s.waiting).Perm (written false (ts.map Token.lexeme)) := by
    have hall := hrun.perm_written hstart
    rwa [show released State.initial.waiting = [] from rfl, List.append_nil] at hall
  refine ⟨?_, ?_, ?_, ?_⟩
  · rw [List.filterMap_append, numbers_released, List.append_nil]
    exact hrun.numbers
  · rw [← functions_written false]
    exact hperm.filterMap _
  · rw [← operators_written]
    exact hperm.filterMap _
  · rw [hrun.length, List.length_map]
    rfl

/-- In `-abs(2-3)` the first minus sign negates and the second subtracts; they go out the other way
round, and the call between them. -/
theorem items_conserved_negated_call :
    ofTokens [⟨.symbol '-', 0⟩, ⟨.name "abs", 1⟩, ⟨.symbol '(', 4⟩, ⟨.number "2", 5⟩,
        ⟨.symbol '-', 6⟩, ⟨.number "3", 7⟩, ⟨.symbol ')', 8⟩] =
      .ok [.number 2, .number 3, .operator (.binary .sub), .function .abs,
        .operator (.unary .neg)] ∧
    [Operator.binary .sub, .unary .neg].Perm
      (operatorsOf false [.symbol '-', .name "abs", .symbol '(', .number "2", .symbol '-',
        .number "3", .symbol ')']) ∧
    5 + [Lexeme.symbol '-', .name "abs", .symbol '(', .number "2", .symbol '-', .number "3",
      .symbol ')'].countP Lexeme.separates = 7 := by
  have h : ofTokens [⟨.symbol '-', 0⟩, ⟨.name "abs", 1⟩, ⟨.symbol '(', 4⟩, ⟨.number "2", 5⟩,
        ⟨.symbol '-', 6⟩, ⟨.number "3", 7⟩, ⟨.symbol ')', 8⟩] =
      .ok [.number 2, .number 3, .operator (.binary .sub), .function .abs,
        .operator (.unary .neg)] := by decide +kernel
  obtain ⟨-, -, hoperators, hlength⟩ := items_conserved h
  exact ⟨h, hoperators, hlength⟩

end Rpn

end Calculator
