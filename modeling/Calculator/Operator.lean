/-
# Operators

Five operators stand between two operands; a minus sign before an operand and
the factorial after one take a single operand. The table gives each operator
its precedence and associativity; negation and factorial bind tighter than a
power. Dividing by zero is no fault, the factorial of anything but a natural
number is.

On the stack of a postfix machine (top first) an operator takes its operands
away and puts its result back (`Operator.apply`). Too few operands leave the
stack alone, a refused factorial has already taken its operand.

Key definitions: `Operator`, `Operator.apply`, `factorial?`.
-/
import Calculator.Double
import Calculator.Fault

namespace Calculator

/-! ### The operators and their table -/

inductive BinaryOp
  | add
  | sub
  | mul
  | div
  | pow
  deriving DecidableEq, Repr

inductive UnaryOp
  | neg
  | factorial
  deriving DecidableEq, Repr

inductive Operator
  | binary (op : BinaryOp)
  | unary (op : UnaryOp)
  deriving DecidableEq, Repr

inductive Associativity
  | left
  | right
  deriving DecidableEq, Repr

/-- Where an operator stands with respect to its operands. -/
inductive Fixity
  | before
  | between
  | after
  deriving DecidableEq, Repr

namespace Operator

/-- Every operator once, in the order of the table. -/
def all : List Operator :=
  [.binary .add, .binary .sub, .binary .mul, .binary .div, .binary .pow,
   .unary .factorial, .unary .neg]

theorem mem_all (op : Operator) : op ∈ all := by
  rcases op with b | u
  · cases b <;> decide
  · cases u <;> decide

/-- The operator in texts. Negation has a word of its own, as it shares its sign
with subtraction. -/
def symbol : Operator → String
  | binary .add => "+"
  | binary .sub => "-"
  | binary .mul => "*"
  | binary .div => "/"
  | binary .pow => "^"
  | unary .factorial => "!"
  | unary .neg => "neg"

def precedence : Operator → Nat
  | binary .add | binary .sub => 2
  | binary .mul | binary .div => 3
  | binary .pow => 4
  | unary _ => 5

def associativity : Operator → Associativity
  | binary .pow | unary .neg => .right
  | _ => .left

/-- How many operands an operator takes. -/
def arity : Operator → Nat
  | binary _ => 2
  | unary _ => 1

def fixity : Operator → Fixity
  | binary _ => .between
  | unary .neg => .before
  | unary .factorial => .after

/-- The operator that a symbol stands for; a minus sign is subtraction until its
place says otherwise. -/
def ofChar? : Char → Option Operator
  | '+' => some (binary .add)
  | '-' => some (binary .sub)
  | '*' => some (binary .mul)
  | '/' => some (binary .div)
  | '^' => some (binary .pow)
  | '!' => some (unary .factorial)
  | _ => none

end Operator

/-! ### What they compute -/

/-- The product 1·2·…·n in doubles, from the left. -/
def product (n : Nat) : Float :=
  (List.range' 2 (n - 1)).foldl (fun r i => r * Float.ofNat i) 1

/-- From here on the product is infinite and stays so. -/
def factorialCap : Nat := 171

/-- How far the product of a factorial goes. What is no word of 64 bits is above the cap. -/
def factorialBound (x : Float) : Nat :=
  match Double.word? x with
  | some n => min n factorialCap
  | none => factorialCap

/-- The factorial of a natural number. What infinities and NaNs have behind the point is a NaN,
so they are refused as well. -/
def factorial? (x : Float) : Option Float :=
  if x < 0 || Double.fract x != 0 then none else some (product (factorialBound x))

def BinaryOp.apply : BinaryOp → Float → Float → Float
  | add, x, y => x + y
  | sub, x, y => x - y
  | mul, x, y => x * y
  | div, x, y => x / y
  | pow, x, y => x.pow y

def UnaryOp.apply : UnaryOp → Float → Except Fault Float
  | neg, x => .ok (-x)
  | factorial, x =>
    match factorial? x with
    | some y => .ok y
    | none => .error .factorialDomain

namespace Operator

/-- What a failed operator says and the stack it leaves. -/
structure Failure where
  fault : Fault
  stack : List Float

/-- The stack after an operator, its top first: the top is the right operand. -/
def apply (op : Operator) (stack : List Float) : Except Failure (List Float) :=
  match op, stack with
  | binary b, y :: x :: rest => .ok (b.apply x y :: rest)
  | unary u, x :: rest =>
    match u.apply x with
    | .ok y => .ok (y :: rest)
    | .error f => .error ⟨f, rest⟩
  | op, stack => .error ⟨.tooFewOperands op.symbol, stack⟩

end Operator

end Calculator
