/-
# A session

A session is the state behind the screen: the entry, the last fault and whether
it stands, the workings of the last result, the angle mode, the history and a
cursor in it. Commands change it; evaluating replaces the entry by its value
and leaves it alone when it fails.

The cursor points at the history entry that the screen shows. Entering text,
clearing and evaluating leave the history; taking back a character does not.

What a command logs is said beside what it does (`Command.log`).

Key definitions: `Session`, `Command`, `Command.apply`.
-/
import Calculator.Evaluation
import Calculator.History

namespace Calculator

structure Session where
  mode : AngleMode := default
  history : History := .empty
  entry : String := ""
  /-- The message of the last fault, until an evaluation succeeds. -/
  message : String := ""
  /-- Whether the screen shows that the last evaluation failed. -/
  failed : Bool := false
  workings : Workings := {}
  /-- The history entry on the screen. -/
  cursor : Option Nat := none
  /-- Whether the entry field is to get the keyboard. -/
  wantsFocus : Bool := true
  deriving DecidableEq

namespace Session

/-- A session at its start. -/
def fresh : Session := {}

/-! ### Entering text -/

def insert (s : Session) (text : String) : Session :=
  { s with entry := s.entry ++ text, failed := false, cursor := none, wantsFocus := true }

/-- Takes the last character of the entry back. -/
def deleteLast (s : Session) : Session :=
  { s with
    entry := String.ofList s.entry.toList.dropLast
    failed := false
    wantsFocus := true }

def clearEntry (s : Session) : Session :=
  { s with entry := "", failed := false, cursor := none, wantsFocus := true }

/-- The entry becomes a text and nothing else changes. -/
def setEntry (s : Session) (text : String) : Session := { s with entry := text }

/-- The entry is typed anew at the keyboard. -/
def type (s : Session) (text : String) : Session :=
  { s with entry := text, failed := false, cursor := none }

/-! ### Evaluating -/

/-- What is evaluated: the entry without the blanks around it. -/
def expression (s : Session) : String := Text.trim s.entry

def evaluate (s : Session) : Session :=
  match Calculator.evaluate s.mode s.expression with
  | .ok answer =>
    { s with
      history := s.history.add ⟨s.expression, answer.value⟩
      entry := Numeral.write Numeral.screen answer.value
      workings := answer.workings
      message := ""
      failed := false
      cursor := none
      wantsFocus := true }
  | .error fault =>
    { s with
      message := fault.message
      failed := true
      workings := {}
      cursor := none
      wantsFocus := true }

theorem evaluate_of_ok {s : Session} {answer : Answer}
    (h : Calculator.evaluate s.mode s.expression = .ok answer) :
    s.evaluate.mode = s.mode ∧ s.evaluate.failed = false ∧ s.evaluate.message = "" ∧
      s.evaluate.entry = Numeral.write Numeral.screen answer.value ∧
      s.evaluate.history = s.history.add ⟨s.expression, answer.value⟩ := by
  unfold Session.evaluate
  rw [h]
  exact ⟨rfl, rfl, rfl, rfl, rfl⟩

/-! ### The angle mode -/

def setMode (s : Session) (mode : AngleMode) : Session :=
  { s with mode := mode, wantsFocus := true }

/-! ### Browsing the history -/

/-- Puts the expression of a history entry back on the screen. -/
def revisit (s : Session) (i : Nat) : Session :=
  match s.history.get? i with
  | some e =>
    { s with entry := e.expression, failed := false, cursor := some i, wantsFocus := true }
  | none => { s with wantsFocus := true }

/-- Goes to the next older entry, and stays at the oldest. -/
def older (s : Session) : Session :=
  let i := match s.cursor with
    | none => 0
    | some i => i + 1
  if i < s.history.length then s.revisit i else s

/-- Goes to the next newer entry, and from the newest to an empty screen. -/
def newer (s : Session) : Session :=
  match s.cursor with
  | none => s
  | some 0 => s.clearEntry
  | some (i + 1) => s.revisit i

theorem older_cases (s : Session) : s.older = s ∨ ∃ i, s.older = s.revisit i := by
  obtain ⟨i, hi⟩ : ∃ i, s.older = if i < s.history.length then s.revisit i else s := by
    unfold older
    cases s.cursor <;> exact ⟨_, rfl⟩
  rw [hi]
  by_cases h : i < s.history.length
  · exact .inr ⟨i, if_pos h⟩
  · exact .inl (if_neg h)

theorem newer_cases (s : Session) :
    s.newer = s ∨ s.newer = s.clearEntry ∨ ∃ i, s.newer = s.revisit i := by
  unfold newer
  split
  · exact .inl rfl
  · exact .inr (.inl rfl)
  · exact .inr (.inr ⟨_, rfl⟩)

def clearHistory (s : Session) : Session :=
  { s with history := .empty, cursor := none, wantsFocus := true }

def unfocus (s : Session) : Session := { s with wantsFocus := false }

/-! ### What happens to the history -/

@[simp] theorem history_revisit (s : Session) (i : Nat) :
    (s.revisit i).history = s.history := by
  unfold revisit
  split <;> rfl

@[simp] theorem history_older (s : Session) : s.older.history = s.history := by
  rcases s.older_cases with h | ⟨i, h⟩ <;> rw [h]
  exact history_revisit s i

@[simp] theorem history_newer (s : Session) : s.newer.history = s.history := by
  rcases s.newer_cases with h | h | ⟨i, h⟩ <;> rw [h]
  · rfl
  · exact history_revisit s i

/-- Evaluating adds the expression with its value, if it has one. -/
theorem history_evaluate (s : Session) :
    s.evaluate.history =
      match calculate s.mode s.expression with
      | .ok x => s.history.add ⟨s.expression, x⟩
      | .error _ => s.history := by
  unfold evaluate calculate
  cases Calculator.evaluate s.mode s.expression <;> rfl

end Session

/-! ### Commands -/

/-- What can be done to a session. -/
inductive Command
  | insert (text : String)
  | deleteLast
  | clearEntry
  | setEntry (text : String)
  | type (text : String)
  | evaluate
  | setMode (mode : AngleMode)
  | toggleMode
  | revisit (i : Nat)
  | older
  | newer
  | clearHistory
  | unfocus
  deriving DecidableEq, Repr

namespace Command

def apply (s : Session) : Command → Session
  | insert text => s.insert text
  | deleteLast => s.deleteLast
  | clearEntry => s.clearEntry
  | setEntry text => s.setEntry text
  | type text => s.type text
  | evaluate => s.evaluate
  | setMode mode => s.setMode mode
  | toggleMode => s.setMode s.mode.toggle
  | revisit i => s.revisit i
  | older => s.older
  | newer => s.newer
  | clearHistory => s.clearHistory
  | unfocus => s.unfocus

end Command

/-! ### The log -/

namespace Log

/-- A change of mode, if it is one. -/
def modeLines (old new : AngleMode) : List Line :=
  if old = new then []
  else [⟨.info, "mode d’angle : " ++ old.label ++ " -> " ++ new.label⟩]

/-- The warning of an evaluation that failed. -/
def faultLine (s : String) (fault : Fault) : Line :=
  ⟨.warn, "évaluation de " ++ Text.Quoted.quote Text.Quoted.loggedMarks s ++ " impossible ("
    ++ fault.stage.label ++ ") : " ++ fault.message⟩

/-- What evaluating a session's entry logs. -/
def sessionLines (s : Session) : List Line :=
  let lines := evaluationLog s.mode s.expression
  match evaluate s.mode s.expression with
  | .ok _ => lines
  | .error fault => lines ++ [faultLine s.expression fault]

end Log

/-- What a command logs when it is applied to a session. -/
def Command.log (s : Session) : Command → List Log.Line
  | .evaluate => Log.sessionLines s
  | .setMode mode => Log.modeLines s.mode mode
  | .toggleMode => Log.modeLines s.mode s.mode.toggle
  | _ => []

end Calculator
