/-
# Which token lists have a postfix order

Whether tokens have a postfix order, and if not why, does not depend on the
operators that wait: the kind of the token before and the number of open
parentheses decide. The checker here keeps just these two.

Key definitions: `Checker.State`, `Checker.step`, `Checker.verdict`.
-/
import Calculator.Rpn.Ordering

namespace Calculator.Rpn.Checker

/-- The kind of the token before, and how many parentheses are open. -/
structure State where
  before : Before
  depth : Nat
  deriving DecidableEq

def initial : State := ⟨.start, 0⟩

/-- A value comes next: it needs an operator after another value. -/
def operand (s : State) (t : Token) (next : Except Fault State) : Except Fault State :=
  if s.before = .value then .error (.missingOperator t.position) else next

def number (s : State) (text : String) : Except Fault State :=
  if (Numeral.read? text).isSome then .ok ⟨.value, s.depth⟩ else .error (.badNumber text)

def name (s : State) (name : String) : Except Fault State :=
  if (constant? name).isSome then .ok ⟨.value, s.depth⟩
  else
    match Function.ofName? name with
    | some f => .ok ⟨.function f, s.depth⟩
    | none => .error (.unknownName name)

def close (s : State) (t : Token) : Except Fault State :=
  if s.before = .openParen ∨ s.before = .comma ∨ s.before = .operator then
    .error (.missingOperand t.position)
  else if s.depth = 0 then .error .strayClose
  else .ok ⟨.value, s.depth - 1⟩

def comma (s : State) (t : Token) : Except Fault State :=
  if s.before = .start ∨ s.before = .openParen ∨ s.before = .comma ∨ s.before = .operator then
    .error (.missingOperand t.position)
  else if s.depth = 0 then .error (.strayComma t.position)
  else .ok ⟨.comma, s.depth⟩

/-- An operator may stand anywhere; only a factorial completes a value. -/
def operator (s : State) (t : Token) (c : Char) : Except Fault State :=
  if c = '!' then .ok ⟨.value, s.depth⟩
  else if c = '+' ∨ c = '-' ∨ c = '*' ∨ c = '/' ∨ c = '^' then .ok ⟨.operator, s.depth⟩
  else .error (.unexpectedChar t.position c)

def step (s : State) (t : Token) : Except Fault State :=
  match s.before, t.lexeme with
  | .function _, .symbol '(' => .ok ⟨.openParen, s.depth + 1⟩
  | .function f, _ => .error (.missingParen f.name)
  | _, .number text => operand s t (number s text)
  | _, .name n => operand s t (name s n)
  | _, .symbol '(' => operand s t (.ok ⟨.openParen, s.depth + 1⟩)
  | _, .symbol ')' => close s t
  | _, .symbol ',' => comma s t
  | _, .symbol c => operator s t c

def finish (s : State) : Except Fault Unit :=
  match s.before with
  | .function f => .error (.missingParen f.name)
  | _ => if s.depth = 0 then .ok () else .error .unclosedParen

/-- Why tokens have no postfix order, if they have none. -/
def verdict (ts : List Token) : Except Fault Unit :=
  if ts.isEmpty then .error .noExpression else ts.foldlM step initial >>= finish

end Calculator.Rpn.Checker
