/-
# Angle modes

In degrees an angle is turned into radians before a direct trigonometric
function and back after an inverse one. The order of the two operations is part
of the result's last bit.

Key definitions: `AngleMode`, `AngleMode.toRadians`, `AngleMode.ofRadians`.
-/

namespace Calculator

/-- The double nearest to π. -/
def pi : Float := Float.ofBits 0x400921FB54442D18

/-- The double nearest to Euler's number. -/
def euler : Float := Float.ofBits 0x4005BF0A8B145769

inductive AngleMode
  | degrees
  | radians
  deriving DecidableEq, Repr

namespace AngleMode

instance : Inhabited AngleMode := ⟨degrees⟩

def toggle : AngleMode → AngleMode
  | degrees => radians
  | radians => degrees

/-- The mode as the screen shows it. -/
def label : AngleMode → String
  | degrees => "DEG"
  | radians => "RAD"

/-- The argument of a direct function, in radians. -/
def toRadians : AngleMode → Float → Float
  | degrees, x => x * pi / 180
  | radians, x => x

/-- The result of an inverse function, in the unit of the mode. -/
def ofRadians : AngleMode → Float → Float
  | degrees, x => x * 180 / pi
  | radians, x => x

end AngleMode

end Calculator
