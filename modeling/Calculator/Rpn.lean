/-
# Items in postfix order

In postfix order (reverse Polish notation) an operator or a function follows
its operands, so no parentheses are left and precedence plays no part.

Key definitions: `Item`, `Rpn.line`.
-/
import Calculator.Decimal.Numeral
import Calculator.Function
import Calculator.Operator

namespace Calculator

/-- One item of an expression in postfix order. -/
inductive Item
  | number (x : Float)
  | operator (op : Operator)
  | function (f : Function)
  deriving DecidableEq

namespace Item

def text : Item → String
  | number x => Numeral.write Numeral.screen x
  | operator op => op.symbol
  | function f => f.name

/-- How many values an item takes from the stack. -/
def need : Item → Nat
  | number _ => 0
  | operator op => op.arity
  | function _ => 1

end Item

/-- The items on one line, a space between two. -/
def Rpn.line (items : List Item) : String := " ".intercalate (items.map Item.text)

end Calculator
