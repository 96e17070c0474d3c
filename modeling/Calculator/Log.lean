/-
# The log

A line of the log has a level and a text. Nothing reads the log back: it is
part of an answer, so that what is logged can be stated beside what is done.

Key definitions: `Log.Level`, `Log.Line`.
-/

namespace Calculator.Log

inductive Level
  | debug
  | info
  | warn
  deriving DecidableEq, Repr

def Level.label : Level → String
  | debug => "DEBUG"
  | info => "INFO"
  | warn => "WARN"

structure Line where
  level : Level
  message : String
  deriving DecidableEq, Repr

end Calculator.Log
