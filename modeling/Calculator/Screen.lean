/-
# The screen

From top to bottom the screen shows the title, the mode and two buttons, the
entry, the keypad, and two panels that fold: the history and the workings. Only
what is on screen can be clicked.

The screen is drawn over and over, from top to bottom, and each part looks at
what the user does when its turn comes (`Screen.pass`). So their order matters.
The entry field gives the keyboard up on a click beside it and on Enter; behind
it the session gets the keyboard for the field if it asks for it; and only then
are the keys looked at that act on the entry while the field has the keyboard.
What is asked for further down is settled by the next pass (`Gesture.apply`).

The history panel is known by its header, which names the number of entries:
each number has a panel of its own, unfolded until its header is clicked.

Key definitions: `Screen`, `Screen.view`, `Screen.pass`, `Gesture.apply`.
-/
import Calculator.Session

namespace Calculator

structure Screen where
  session : Session := .fresh
  /-- Whether the entry field has the keyboard. -/
  focused : Bool := false
  /-- The numbers of entries whose history panel is folded. -/
  folded : List Nat := []
  workingsOpen : Bool := false

namespace Screen

/-! ### What is on screen -/

def title : String := "Calculatrice scientifique"

/-- What the entry field shows while it is empty. -/
def hint : String := "Ex: 2+3*4, sin(30), (-1)!, ln(e)"

def errorText : String := "Erreur"

/-- The keypad, four keys a row. -/
def keypad : List String :=
  ["7", "8", "9", "/",
   "4", "5", "6", "*",
   "1", "2", "3", "-",
   "0", ".", "=", "+",
   "(", ")", "^", "!",
   "pi", "e", "sin", "cos",
   "tan", "asin", "acos", "atan",
   "sqrt", "ln", "log", "abs"]

/-- Whether the history panel of the present number of entries is unfolded. -/
def historyOpen (s : Screen) : Bool := !s.folded.contains s.session.history.length

def historyHeader (s : Screen) : String :=
  "Historique (" ++ toString s.session.history.length ++ ")"

def historyLine (e : Entry) : String :=
  e.expression ++ " = " ++ Numeral.write Numeral.screen e.result

def entryTexts (s : Screen) : List String :=
  [title, s.session.mode.label, "C", "DEL", if s.session.entry = "" then hint else s.session.entry]
    ++ if s.session.failed then [errorText] else []

def historyTexts (s : Screen) : List String :=
  s.historyHeader ::
    if !s.historyOpen then []
    else if s.session.history.isEmpty then ["vide"]
    else s.session.history.entries.map historyLine ++ ["CLR"]

def workingsTexts (s : Screen) : List String :=
  "Démarche" ::
    if s.workingsOpen then
      ["Jetons :", s.session.workings.tokens, "RPN :", s.session.workings.rpn].filter (· ≠ "")
    else []

/-- The texts on screen, in order. -/
def view (s : Screen) : List String :=
  s.entryTexts ++ keypad ++ s.historyTexts ++ s.workingsTexts

/-- The places that explain themselves under the pointer. -/
inductive Spot
  | mode
  | clearEntry
  | deleteLast
  | error
  | clearHistory
  deriving DecidableEq, Repr

/-- The explanation of a place that is on screen. -/
def tooltip? (s : Screen) : Spot → Option String
  | .mode => some "Bascule degrés / radians"
  | .clearEntry => some "Efface l’écran"
  | .deleteLast => some "Efface le dernier caractère"
  | .error => if s.session.failed then some s.session.message else none
  | .clearHistory =>
    if s.historyOpen && !s.session.history.isEmpty then some "Vide l’historique" else none

/-! ### What it does -/

/-- Carries a command out. -/
def perform (s : Screen) (c : Command) : Screen := { s with session := c.apply s.session }

/-- Carries a command out if the entry field has the keyboard. -/
def ifFocused (s : Screen) (c : Command) : Screen := if s.focused then s.perform c else s

/-- Gives the entry field the keyboard if the session asks for it. -/
def grantFocus (s : Screen) : Screen :=
  { s with session := s.session.unfocus, focused := s.focused || s.session.wantsFocus }

/-- Folds or unfolds the history panel of the present number of entries. -/
def toggleHistory (s : Screen) : Screen :=
  let n := s.session.history.length
  { s with folded := if s.folded.contains n then s.folded.erase n else n :: s.folded }

def toggleWorkings (s : Screen) : Screen := { s with workingsOpen := !s.workingsOpen }

/-- What a key of the keypad does. -/
def keyCommand (label : String) : Command :=
  if label = "=" then .evaluate
  else if (Function.ofName? label).isSome then .insert (label ++ "(")
  else .insert label

end Screen

/-- What the user can do at the screen. -/
inductive Gesture
  | look
  | clickMode
  | clickClear
  | clickDelete
  | clickKey (label : String)
  | clickHistory (i : Nat)
  | clickClearHistory
  | clickHistoryHeader
  | clickWorkingsHeader
  | pressEscape
  | pressUp
  | pressDown
  | pressEnter
  | pressCtrlEnter
  | type (text : String)
  | hover (spot : Screen.Spot)
  deriving DecidableEq, Repr

namespace Gesture

/-- Whether it is a click, and so one beside the entry field. -/
def isClick : Gesture → Bool
  | clickMode | clickClear | clickDelete | clickKey _ | clickHistory _ | clickClearHistory
  | clickHistoryHeader | clickWorkingsHeader => true
  | _ => false

/-- Whether what it is aimed at is on screen. -/
def isPossible (s : Screen) : Gesture → Bool
  | clickHistory i => s.historyOpen && decide (i < s.session.history.length)
  | clickClearHistory => s.historyOpen && !s.session.history.isEmpty
  | _ => true

end Gesture

/-! ### One pass over the screen -/

namespace Screen

/-- Above the entry: the three buttons, and Escape, which no part of the screen has to wait for. -/
def passButtons (s : Screen) : Gesture → Screen
  | .clickMode => s.perform .toggleMode
  | .clickClear | .pressEscape => s.perform .clearEntry
  | .clickDelete => s.perform .deleteLast
  | _ => s

/-- The entry field, which is typed into, and gives the keyboard up on Enter and on clicks. -/
def passField (s : Screen) (g : Gesture) : Screen :=
  match g with
  | .type text => s.ifFocused (.type text)
  | .pressEnter => { s with focused := false }
  | g => if g.isClick then { s with focused := false } else s

/-- The keys that act on the entry. -/
def passKeys (s : Screen) : Gesture → Screen
  | .pressEnter | .pressCtrlEnter => s.ifFocused .evaluate
  | .pressUp => s.ifFocused .older
  | .pressDown => s.ifFocused .newer
  | _ => s

/-- Below the entry: the keypad and the two panels. -/
def passPanels (s : Screen) : Gesture → Screen
  | .clickKey label => s.perform (keyCommand label)
  | .clickHistory i => s.perform (.revisit i)
  | .clickClearHistory => s.perform .clearHistory
  | .clickHistoryHeader => s.toggleHistory
  | .clickWorkingsHeader => s.toggleWorkings
  | _ => s

/-- The screen is drawn once, from top to bottom, while a gesture is made. -/
def pass (s : Screen) (g : Gesture) : Screen :=
  ((((s.passButtons g).passField g).grantFocus).passKeys g).passPanels g

/-- The screen when it has been drawn for the first time. -/
def fresh : Screen := ({} : Screen).pass .look

end Screen

namespace Gesture

/-- The screen after a gesture: nothing happens to it unless the gesture is aimed at something on
screen; else it is drawn with the gesture and once more without one. -/
def apply (s : Screen) (g : Gesture) : Screen :=
  if g.isPossible s then (s.pass g).pass .look else s

/-- The texts on screen after a gesture, with the explanation that it brings up last. -/
def viewAfter (s : Screen) (g : Gesture) : List String :=
  let s' := g.apply s
  match g with
  | hover spot => s'.view ++ (s'.tooltip? spot).toList
  | _ => s'.view

end Gesture

/-- The screen after gestures one after the other. -/
def Screen.run (s : Screen) (gs : List Gesture) : Screen := gs.foldl Gesture.apply s

end Calculator
