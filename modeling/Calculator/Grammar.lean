/-
# The grammar of expressions

What the calculator means by an expression, said without reading or ordering
tokens: a derivation tree has one rank for each level of precedence, and a
tree of a rank is built from trees of tighter ranks. Sums and products group to
the left and powers to the right; a factorial takes a negation or another
factorial, so `-3!` is the factorial of minus three.

A tree is read in three ways: as the lexemes that spell it, as the items of its
postfix order, and as its value. Parentheses may hold several expressions with
commas between them if the grammar is taken with commas; such a tree has items,
and no value as soon as it has a comma.

Key definitions: `Phrase`, `Phrase.lexemes`, `Phrase.items`, `Phrase.value`,
`Phrase.commaCount`.
-/
import Calculator.Rpn
import Calculator.Token

namespace Calculator

/-- The levels of the grammar, the loosest first. -/
inductive Rank
  | arguments
  | sum
  | product
  | power
  | factorial
  | negation
  | atom
  deriving DecidableEq, Repr

/-- The derivation trees of a rank, with or without commas in parentheses. -/
inductive Phrase (commas : Bool) : Rank → Type
  | one (e : Phrase commas .sum) : Phrase commas .arguments
  | more (allowed : commas = true) (es : Phrase commas .arguments) (e : Phrase commas .sum) :
    Phrase commas .arguments
  | ofProduct (e : Phrase commas .product) : Phrase commas .sum
  | add (l : Phrase commas .sum) (r : Phrase commas .product) : Phrase commas .sum
  | sub (l : Phrase commas .sum) (r : Phrase commas .product) : Phrase commas .sum
  | ofPower (e : Phrase commas .power) : Phrase commas .product
  | mul (l : Phrase commas .product) (r : Phrase commas .power) : Phrase commas .product
  | div (l : Phrase commas .product) (r : Phrase commas .power) : Phrase commas .product
  | ofFactorial (e : Phrase commas .factorial) : Phrase commas .power
  | pow (l : Phrase commas .factorial) (r : Phrase commas .power) : Phrase commas .power
  | ofNegation (e : Phrase commas .negation) : Phrase commas .factorial
  | factorial (e : Phrase commas .factorial) : Phrase commas .factorial
  | ofAtom (e : Phrase commas .atom) : Phrase commas .negation
  | neg (e : Phrase commas .negation) : Phrase commas .negation
  | number (text : String) (x : Float) (reads : Numeral.read? text = some x) : Phrase commas .atom
  | constant (name : String) (x : Float) (known : constant? name = some x) : Phrase commas .atom
  | call (f : Function) (es : Phrase commas .arguments) : Phrase commas .atom
  | group (es : Phrase commas .arguments) : Phrase commas .atom

namespace Phrase

variable {commas : Bool} {r : Rank}

/-- The spelling of a tree. -/
def lexemes : {r : Rank} → Phrase commas r → List Lexeme
  | _, one e => e.lexemes
  | _, more _ es e => es.lexemes ++ .symbol ',' :: e.lexemes
  | _, ofProduct e => e.lexemes
  | _, add l r => l.lexemes ++ .symbol '+' :: r.lexemes
  | _, sub l r => l.lexemes ++ .symbol '-' :: r.lexemes
  | _, ofPower e => e.lexemes
  | _, mul l r => l.lexemes ++ .symbol '*' :: r.lexemes
  | _, div l r => l.lexemes ++ .symbol '/' :: r.lexemes
  | _, ofFactorial e => e.lexemes
  | _, pow l r => l.lexemes ++ .symbol '^' :: r.lexemes
  | _, ofNegation e => e.lexemes
  | _, factorial e => e.lexemes ++ [.symbol '!']
  | _, ofAtom e => e.lexemes
  | _, neg e => .symbol '-' :: e.lexemes
  | _, number text _ _ => [.number text]
  | _, constant name _ _ => [.name name]
  | _, call f es => .name f.name :: .symbol '(' :: (es.lexemes ++ [.symbol ')'])
  | _, group es => .symbol '(' :: (es.lexemes ++ [.symbol ')'])

/-- The postfix order of a tree: what a node combines comes before the node. -/
def items : {r : Rank} → Phrase commas r → List Item
  | _, one e => e.items
  | _, more _ es e => es.items ++ e.items
  | _, ofProduct e => e.items
  | _, add l r => l.items ++ r.items ++ [.operator (.binary .add)]
  | _, sub l r => l.items ++ r.items ++ [.operator (.binary .sub)]
  | _, ofPower e => e.items
  | _, mul l r => l.items ++ r.items ++ [.operator (.binary .mul)]
  | _, div l r => l.items ++ r.items ++ [.operator (.binary .div)]
  | _, ofFactorial e => e.items
  | _, pow l r => l.items ++ r.items ++ [.operator (.binary .pow)]
  | _, ofNegation e => e.items
  | _, factorial e => e.items ++ [.operator (.unary .factorial)]
  | _, ofAtom e => e.items
  | _, neg e => e.items ++ [.operator (.unary .neg)]
  | _, number _ x _ => [.number x]
  | _, constant _ x _ => [.number x]
  | _, call f es => es.items ++ [.function f]
  | _, group es => es.items

/-- How many commas a tree has. -/
def commaCount : {r : Rank} → Phrase commas r → Nat
  | _, one e => e.commaCount
  | _, more _ es e => es.commaCount + 1 + e.commaCount
  | _, add l r | _, sub l r | _, mul l r | _, div l r | _, pow l r => l.commaCount + r.commaCount
  | _, ofProduct e | _, ofPower e | _, ofFactorial e | _, ofNegation e | _, ofAtom e => e.commaCount
  | _, factorial e | _, neg e => e.commaCount
  | _, number .. | _, constant .. => 0
  | _, call _ es | _, group es => es.commaCount

/-- Both operands, the left one first, and what an operator makes of them. -/
def combine (op : BinaryOp) (l r : Except Fault Float) : Except Fault Float := do
  let x ← l
  let y ← r
  return op.apply x y

/-- The value of a tree without commas. Only a factorial can refuse its operand. -/
def value (mode : AngleMode) : {r : Rank} → Phrase false r → Except Fault Float
  | _, one e => e.value mode
  | _, ofProduct e => e.value mode
  | _, add l r => combine .add (l.value mode) (r.value mode)
  | _, sub l r => combine .sub (l.value mode) (r.value mode)
  | _, ofPower e => e.value mode
  | _, mul l r => combine .mul (l.value mode) (r.value mode)
  | _, div l r => combine .div (l.value mode) (r.value mode)
  | _, ofFactorial e => e.value mode
  | _, pow l r => combine .pow (l.value mode) (r.value mode)
  | _, ofNegation e => e.value mode
  | _, factorial e => do UnaryOp.factorial.apply (← e.value mode)
  | _, ofAtom e => e.value mode
  | _, neg e => do UnaryOp.neg.apply (← e.value mode)
  | _, number _ x _ => .ok x
  | _, constant _ x _ => .ok x
  | _, call f es => do return f.apply mode (← es.value mode)
  | _, group es => es.value mode

theorem count_comma (e : Phrase commas r) : e.lexemes.count (.symbol ',') = e.commaCount := by
  induction e <;> simp_all [lexemes, commaCount]
  omega

end Phrase

end Calculator
