/-
# From tokens to postfix order

Numbers go out as they come; operators, functions and open parentheses wait on
a stack until what follows shows that they are complete. An operator that comes
in sends out those above it on the stack that bind tighter, or as tight if it
is left associative; a parenthesis stops that, and its closing sends out all
that waits above it and the function it belongs to. Each token is also held
against the one before it, so that two values never stand side by side and an
argument is never empty where a comma or a closing parenthesis ends it.

`step` gives the items that one token sends out, `run` collects them, and
`finish` empties the stack at the end.

Not covered: whether the items suffice as operands of one another. `2+` has a
postfix order, and evaluating it fails.

Key definitions: `Rpn.State`, `Rpn.step`, `Rpn.ofTokens`.
-/
import Calculator.Rpn
import Calculator.Token

namespace Calculator.Rpn

/-- What waits on the stack. -/
inductive Waiting
  | paren
  | operator (op : Operator)
  | function (f : Function)
  deriving DecidableEq

namespace Waiting

def isParen : Waiting → Bool
  | paren => true
  | _ => false

/-- The item that it goes out as; a parenthesis goes nowhere. -/
def item? : Waiting → Option Item
  | paren => none
  | operator op => some (.operator op)
  | function f => some (.function f)

/-- Whether it is complete when the operator `op` comes in. -/
def yieldsTo (op : Operator) : Waiting → Bool
  | operator top =>
    op.precedence < top.precedence
      || (op.precedence == top.precedence && op.associativity == .left)
  | _ => false

end Waiting

/-- What the token before was: what may come next depends on nothing else. -/
inductive Before
  | start
  | value
  | operator
  | openParen
  | comma
  | function (f : Function)
  deriving DecidableEq

namespace Before

/-- Whether an operand has to come next, so that a minus sign is a negation. -/
def awaitsOperand : Before → Bool
  | start | operator | openParen | comma => true
  | value | function _ => false

/-- What an operator leaves behind: after a factorial the value is complete. -/
def ofOperator (op : Operator) : Before :=
  match op.fixity with
  | .after => value
  | .before | .between => operator

/-- Why a token may not follow, whatever it means. -/
def refuses? (before : Before) (t : Token) : Option Fault :=
  match before, t.lexeme with
  | function _, .symbol '(' => none
  | function f, _ => some (.missingParen f.name)
  | value, .number _ | value, .name _ | value, .symbol '(' => some (.missingOperator t.position)
  | operator, .symbol ')' | openParen, .symbol ')' | comma, .symbol ')' =>
    some (.missingOperand t.position)
  | start, .symbol ',' | operator, .symbol ',' | openParen, .symbol ',' | comma, .symbol ',' =>
    some (.missingOperand t.position)
  | _, _ => none

end Before

/-- The stack, its top first, and the kind of the token before. -/
structure State where
  waiting : List Waiting
  before : Before
  deriving DecidableEq

namespace State

def initial : State := ⟨[], .start⟩

/-- What waits above the nearest open parenthesis. -/
def above (s : State) : List Waiting := s.waiting.takeWhile (!·.isParen)

/-- The stack from the nearest open parenthesis on, empty if none is open. -/
def fromParen (s : State) : List Waiting := s.waiting.dropWhile (!·.isParen)

end State

/-- The items that a part of the stack goes out as, its top first. -/
def released (ws : List Waiting) : List Item := ws.filterMap Waiting.item?

/-- The call that a closing parenthesis completes, and the stack below it. -/
def takeCall : List Waiting → List Item × List Waiting
  | .function f :: ws => ([.function f], ws)
  | ws => ([], ws)

/-- An operator comes in: the complete ones above go out before it waits. -/
def pushOperator (s : State) (op : Operator) : List Item × State :=
  (released (s.waiting.takeWhile (·.yieldsTo op)),
    ⟨.operator op :: s.waiting.dropWhile (·.yieldsTo op), .ofOperator op⟩)

/-- The operator of a symbol in its place: a minus sign before an operand negates it. -/
def operatorAt? (before : Before) (c : Char) : Option Operator :=
  (Operator.ofChar? c).map fun op =>
    if op = .binary .sub ∧ before.awaitsOperand then .unary .neg else op

/-- The items that a token sends out and the state after it. -/
def step (s : State) (t : Token) : Except Fault (List Item × State) :=
  match s.before.refuses? t with
  | some fault => .error fault
  | none =>
    match t.lexeme with
    | .number text =>
      match Numeral.read? text with
      | some x => .ok ([.number x], { s with before := .value })
      | none => .error (.badNumber text)
    | .name name =>
      match constant? name, Function.ofName? name with
      | some x, _ => .ok ([.number x], { s with before := .value })
      | none, some f => .ok ([], ⟨.function f :: s.waiting, .function f⟩)
      | none, none => .error (.unknownName name)
    | .symbol '(' => .ok ([], ⟨.paren :: s.waiting, .openParen⟩)
    | .symbol ')' =>
      match s.fromParen with
      | [] => .error .strayClose
      | _ :: below =>
        let (call, below) := takeCall below
        .ok (released s.above ++ call, ⟨below, .value⟩)
    | .symbol ',' =>
      match s.fromParen with
      | [] => .error (.strayComma t.position)
      | ws => .ok (released s.above, ⟨ws, .comma⟩)
    | .symbol c =>
      match operatorAt? s.before c with
      | some op => .ok (pushOperator s op)
      | none => .error (.unexpectedChar t.position c)

/-- The items that tokens send out one after the other, and the state after them. -/
def run (s : State) : List Token → Except Fault (List Item × State)
  | [] => .ok ([], s)
  | t :: ts =>
    match step s t with
    | .error fault => .error fault
    | .ok (out, s') =>
      match run s' ts with
      | .error fault => .error fault
      | .ok (later, s'') => .ok (out ++ later, s'')

/-- What is still waiting at the end goes out, unless something is not closed. -/
def finish (s : State) : Except Fault (List Item) :=
  match s.before with
  | .function f => .error (.missingParen f.name)
  | _ => if s.waiting.any (·.isParen) then .error .unclosedParen else .ok (released s.waiting)

/-- The tokens of an expression in postfix order. -/
def ofTokens (ts : List Token) : Except Fault (List Item) :=
  if ts.isEmpty then .error .noExpression
  else
    match run .initial ts with
    | .error fault => .error fault
    | .ok (out, s) =>
      match finish s with
      | .error fault => .error fault
      | .ok later => .ok (out ++ later)

theorem run_cons (s : State) (t : Token) (ts : List Token) :
    run s (t :: ts) = (step s t).bind fun r => (run r.2 ts).map fun q => (r.1 ++ q.1, q.2) := by
  rw [run]
  cases step s t with
  | error fault => rfl
  | ok r => cases hr : run r.2 ts <;> simp [hr, Except.bind, Except.map]

theorem run_append (s : State) (ts us : List Token) :
    run s (ts ++ us) =
      match run s ts with
      | .error fault => .error fault
      | .ok (out, s') =>
        match run s' us with
        | .error fault => .error fault
        | .ok (later, s'') => .ok (out ++ later, s'') := by
  induction ts generalizing s with
  | nil =>
    simp only [List.nil_append, run]
    cases run s us <;> simp
  | cons t ts ih =>
    simp only [List.cons_append, run]
    cases step s t with
    | error fault => rfl
    | ok r =>
      simp only [ih]
      cases run r.2 ts with
      | error fault => rfl
      | ok q =>
        simp only
        cases run q.2 us <;> simp

end Calculator.Rpn
