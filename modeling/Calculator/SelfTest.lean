/-
# The self-test

Nine expressions with known values, evaluated when the calculator starts. A
value counts as right if it is within a billionth of the expected one; the
outcome is only logged.

Key definitions: `SelfTest.cases`, `SelfTest.log`.
-/
import Calculator.Evaluation

namespace Calculator.SelfTest

structure Case where
  expression : String
  mode : AngleMode
  expected : Float

def cases : List Case :=
  [⟨"sqrt(9)", .degrees, 3⟩, ⟨"sin(30)", .degrees, 0.5⟩, ⟨"sin(pi/6)", .radians, 0.5⟩,
   ⟨"3!", .degrees, 6⟩, ⟨"log(100)", .degrees, 2⟩, ⟨"ln(e)", .degrees, 1⟩,
   ⟨"2+3*4", .degrees, 14⟩, ⟨"(2+3)*4", .degrees, 20⟩, ⟨"2^3^2", .degrees, 512⟩]

def tolerance : Float := 1e-9

namespace Case

def passes (c : Case) : Bool :=
  match calculate c.mode c.expression with
  | .ok v => (v - c.expected).abs < tolerance
  | .error _ => false

/-- The warning of a case that fails, and none of one that passes. -/
def warnings (c : Case) : List Log.Line :=
  let about := "autotest " ++ Log.subject c.mode c.expression ++ " : "
  let number := Numeral.write Numeral.logged
  match calculate c.mode c.expression with
  | .ok v =>
    if (v - c.expected).abs < tolerance then []
    else [⟨.warn, about ++ "obtenu " ++ number v ++ ", attendu " ++ number c.expected⟩]
  | .error fault => [⟨.warn, about ++ fault.message⟩]

end Case

/-- How many cases pass. -/
def passed : Nat := cases.countP Case.passes

def total : Nat := cases.length

/-- All that the self-test logs. -/
def log : List Log.Line :=
  (cases.flatMap fun c => evaluationLog c.mode c.expression ++ c.warnings)
    ++ [⟨.info, "autotest noyau : " ++ toString passed ++ "/" ++ toString total ++ " réussis"⟩]

end Calculator.SelfTest
