/-
# Evaluating a text

A text is read into tokens, ordered, and run, and stops at the first stage that
fails. A `Trace` keeps what the stages before made: the result of an evaluation
and the lines it logs are both read off it, so one line is logged for each
stage that succeeds.

Key definitions: `Trace.of`, `evaluate`, `calculate`, `evaluationLog`.
-/
import Calculator.Log
import Calculator.Rpn.Machine
import Calculator.Rpn.Ordering
import Calculator.Text.Quoted
import Calculator.Token.Lexer

namespace Calculator

/-- How a result came about, as the screen explains it: the tokens and the postfix order. -/
structure Workings where
  tokens : String := ""
  rpn : String := ""
  deriving DecidableEq, Repr, Inhabited

structure Answer where
  value : Float
  workings : Workings
  deriving DecidableEq

/-- How far an evaluation came, with all that its stages made. -/
inductive Trace
  | unread (fault : Fault)
  | unordered (tokens : List Token) (fault : Fault)
  | unvalued (tokens : List Token) (items : List Item) (fault : Fault)
  | valued (tokens : List Token) (items : List Item) (value : Float)

namespace Trace

def of (mode : AngleMode) (s : String) : Trace :=
  match Token.scan s with
  | .error fault => unread fault
  | .ok tokens =>
    match Rpn.ofTokens tokens with
    | .error fault => unordered tokens fault
    | .ok items =>
      match Rpn.eval mode items with
      | .error fault => unvalued tokens items fault
      | .ok value => valued tokens items value

def result : Trace → Except Fault Answer
  | unread fault | unordered _ fault | unvalued _ _ fault => .error fault
  | valued tokens items value => .ok ⟨value, ⟨Token.line tokens, Rpn.line items⟩⟩

end Trace

/-! ### The log of an evaluation -/

namespace Log

def tokensLine (tokens : List Token) : Line := ⟨.debug, "jetons: " ++ Token.line tokens⟩

def rpnLine (items : List Item) : Line := ⟨.debug, "rpn: " ++ Rpn.line items⟩

/-- An expression and its mode, as the log names them. -/
def subject (mode : AngleMode) (s : String) : String :=
  Text.Quoted.quote Text.Quoted.loggedMarks s ++ " [" ++ mode.label ++ "]"

def valueLine (mode : AngleMode) (s : String) (value : Float) : Line :=
  ⟨.debug, subject mode s ++ " = " ++ Numeral.write Numeral.logged value⟩

end Log

def Trace.log (mode : AngleMode) (s : String) : Trace → List Log.Line
  | unread _ => []
  | unordered tokens _ => [Log.tokensLine tokens]
  | unvalued tokens items _ => [Log.tokensLine tokens, Log.rpnLine items]
  | valued tokens items value =>
    [Log.tokensLine tokens, Log.rpnLine items, Log.valueLine mode s value]

/-- The value of a text with its workings, or the first thing wrong with it. -/
def evaluate (mode : AngleMode) (s : String) : Except Fault Answer := (Trace.of mode s).result

/-- The lines that evaluating a text logs. -/
def evaluationLog (mode : AngleMode) (s : String) : List Log.Line := (Trace.of mode s).log mode s

/-- The value of a text alone. -/
def calculate (mode : AngleMode) (s : String) : Except Fault Float :=
  (evaluate mode s).map Answer.value

theorem evaluate_eq (mode : AngleMode) (s : String) :
    evaluate mode s = do
      let tokens ← Token.scan s
      let items ← Rpn.ofTokens tokens
      let value ← Rpn.eval mode items
      return ⟨value, ⟨Token.line tokens, Rpn.line items⟩⟩ := by
  unfold evaluate Trace.of
  cases Token.scan s with
  | error fault => rfl
  | ok tokens =>
    simp only [bind, Except.bind]
    cases Rpn.ofTokens tokens with
    | error fault => rfl
    | ok items =>
      simp only
      cases Rpn.eval mode items <;> rfl

theorem calculate_eq (mode : AngleMode) (s : String) :
    calculate mode s = (Token.scan s).bind fun ts => (Rpn.ofTokens ts).bind (Rpn.eval mode) := by
  rw [calculate, evaluate_eq]
  cases Token.scan s with
  | error fault => rfl
  | ok ts =>
    simp only [bind, Except.bind]
    cases Rpn.ofTokens ts with
    | error fault => rfl
    | ok items =>
      simp only
      cases Rpn.eval mode items <;> rfl

theorem calculate_eq_ok_iff {mode : AngleMode} {s : String} {x : Float} :
    calculate mode s = .ok x ↔ ∃ ts items, Token.scan s = .ok ts ∧ Rpn.ofTokens ts = .ok items ∧
      Rpn.eval mode items = .ok x := by
  rw [calculate_eq]
  cases Token.scan s with
  | error fault => simp [Except.bind]
  | ok ts => cases hi : Rpn.ofTokens ts <;> simp [Except.bind, hi]

end Calculator
