/-
# Named functions and constants

Ten functions of one argument. The three direct trigonometric functions take
their argument in the unit of the angle mode, the three inverse ones give their
result in it, and the other four do not look at the mode. The natural logarithm
is called ln and the decimal one log.

Key definitions: `Function`, `Function.apply`, `constant?`.
-/
import Calculator.AngleMode

namespace Calculator

inductive Function
  | sin
  | cos
  | tan
  | asin
  | acos
  | atan
  | sqrt
  | ln
  | log
  | abs
  deriving DecidableEq, Repr

namespace Function

/-- Every function once, in the order of the keypad. -/
def all : List Function := [sin, cos, tan, asin, acos, atan, sqrt, ln, log, abs]

def name : Function → String
  | sin => "sin"
  | cos => "cos"
  | tan => "tan"
  | asin => "asin"
  | acos => "acos"
  | atan => "atan"
  | sqrt => "sqrt"
  | ln => "ln"
  | log => "log"
  | abs => "abs"

/-- The function of a name in small letters. -/
def ofName? (s : String) : Option Function := all.find? fun f => f.name == s

/-- Whether the angle mode matters to a function. -/
def isTrigonometric : Function → Bool
  | sin | cos | tan | asin | acos | atan => true
  | sqrt | ln | log | abs => false

def apply (f : Function) (mode : AngleMode) (x : Float) : Float :=
  match f with
  | sin => (mode.toRadians x).sin
  | cos => (mode.toRadians x).cos
  | tan => (mode.toRadians x).tan
  | asin => mode.ofRadians x.asin
  | acos => mode.ofRadians x.acos
  | atan => mode.ofRadians x.atan
  | sqrt => x.sqrt
  | ln => x.log
  | log => x.log10
  | abs => x.abs

theorem apply_mode {f : Function} (h : f.isTrigonometric = false) (m n : AngleMode) (x : Float) :
    f.apply m x = f.apply n x := by
  cases f <;> simp_all [isTrigonometric, apply]

theorem mem_all (f : Function) : f ∈ all := by cases f <;> decide

theorem ofName?_name (f : Function) : ofName? f.name = some f := by cases f <;> rfl

theorem name_of_ofName? {s : String} {f : Function} (h : ofName? s = some f) : f.name = s := by
  simpa using List.find?_some h

end Function

/-- The value of a named constant. -/
def constant? (name : String) : Option Float :=
  if name = "pi" then some pi else if name = "e" then some euler else none

theorem constant?_name (f : Function) : constant? f.name = none := by cases f <;> rfl

end Calculator
