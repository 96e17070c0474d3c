/-
# A session with its storage

Besides its session a desk has a place for one stored text. Saving writes what
outlives the session there; restoring replaces the session by a fresh one with
what the text says, or by a fresh one alone if there is no text or it is wrong.
A history from a stored text is cut to the entries that are kept.

Key definitions: `Session.restored`, `Desk`, `Request.apply`.
-/
import Calculator.Session
import Calculator.Storage

namespace Calculator

namespace Session

/-- What outlives the session. -/
def saved (s : Session) : Saved := ⟨s.mode, s.history⟩

/-- A fresh session with what an earlier one left. -/
def ofSaved (saved : Saved) : Session :=
  { mode := saved.mode, history := saved.history.bound }

/-- The session that a stored text gives, if there is one. -/
def restored (stored : Option String) : Session := ofSaved ((stored.bind Saved.read?).getD {})

end Session

structure Desk where
  session : Session := .fresh
  stored : Option String := none

namespace Desk

def fresh : Desk := {}

/-- What restoring logs about the session it makes. -/
def restoreLine (s : Session) : Log.Line :=
  ⟨.info, "état restauré : mode " ++ s.mode.label ++ ", " ++ toString s.history.length
    ++ " entrées d’historique"⟩

end Desk

/-- What can be done at a desk. -/
inductive Request
  | command (c : Command)
  | save
  /-- Restores from the storage of the desk. -/
  | restore
  /-- Restores without a storage. -/
  | restoreNothing
  /-- Puts a text into the storage and restores from it. -/
  | restoreText (text : String)

namespace Request

def apply (d : Desk) : Request → Desk
  | command c => { d with session := c.apply d.session }
  | save => { d with stored := some d.session.saved.write }
  | restore => { d with session := .restored d.stored }
  | restoreNothing => { d with session := .restored none }
  | restoreText text => ⟨.restored (some text), some text⟩

/-- What a request logs at a desk. -/
def log (d : Desk) : Request → List Log.Line
  | command c => c.log d.session
  | save => []
  | restore => [Desk.restoreLine (.restored d.stored)]
  | restoreNothing => [Desk.restoreLine (.restored none)]
  | restoreText text => [Desk.restoreLine (.restored (some text))]

end Request

/-- The desk after requests one after the other. -/
def Desk.run (d : Desk) (rs : List Request) : Desk := rs.foldl Request.apply d

end Calculator
