/-
# The history is the front of a log

Beside a desk a ledger can be kept of all expressions that had a value, newest
first and without a bound: evaluating puts one in front, clearing empties it, and
restoring sets it back to what it was when the desk was saved. Whatever was
requested, the history of the desk is the front of that log
(`Desk.history_eq_log`): cutting the history at every step, and once more when it
is restored, loses nothing that would be kept.

Key definitions: `Ledger`, `Ledger.step`, `Ledger.Covers`.
-/
import Calculator.Proofs.Restoring

namespace Calculator

/-- All that was evaluated, newest first, and what of it there was when the desk was saved. -/
structure Ledger where
  log : List Entry := []
  saved : List Entry := []

namespace Ledger

/-- What a request adds to the ledger of a desk or takes from it. -/
def step (l : Ledger) (s : Session) : Request → Ledger
  | .command .evaluate =>
    match calculate s.mode s.expression with
    | .ok x => { l with log := ⟨s.expression, x⟩ :: l.log }
    | .error _ => l
  | .command .clearHistory => { l with log := [] }
  | .save => { l with saved := l.log }
  | .restore => { l with log := l.saved }
  | .restoreNothing => { l with log := [] }
  | .restoreText text =>
    let entries := ((Saved.read? text).getD {}).history.entries
    ⟨entries, entries⟩
  | _ => l

/-- The ledger after requests one after the other. -/
def run (l : Ledger) (d : Desk) : List Request → Ledger
  | [] => l
  | r :: rs => (l.step d.session r).run (r.apply d) rs

/-- The history of a desk, and the one that it would restore, are the front of its ledger. -/
structure Covers (l : Ledger) (d : Desk) : Prop where
  history : d.session.history.entries = l.log.take History.capacity
  stored : (Session.restored d.stored).history.entries = l.saved.take History.capacity

end Ledger

/-! ### Requests that leave the history alone -/

/-- Whether the history may change with a request. -/
def Request.touchesHistory : Request → Bool
  | .command .evaluate | .command .clearHistory => true
  | .restore | .restoreNothing | .restoreText _ => true
  | _ => false

theorem Request.history_apply {r : Request} (d : Desk) (hr : r.touchesHistory = false) :
    (r.apply d).session.history = d.session.history := by
  cases r with
  | command c =>
    cases c with
    | evaluate | clearHistory => cases hr
    | revisit i => exact Session.history_revisit ..
    | older => exact Session.history_older _
    | newer => exact Session.history_newer _
    | _ => rfl
  | save => rfl
  | restore | restoreNothing | restoreText _ => cases hr

theorem Ledger.log_step {r : Request} (l : Ledger) (s : Session)
    (hr : r.touchesHistory = false) : (l.step s r).log = l.log := by
  cases r with
  | command c =>
    cases c with
    | evaluate | clearHistory => cases hr
    | _ => rfl
  | save => rfl
  | restore | restoreNothing | restoreText _ => cases hr

/-- An evaluation that fails leaves the entry, the angle mode and the history. -/
theorem Session.evaluate_of_error {s : Session} {fault : Fault}
    (h : calculate s.mode s.expression = .error fault) :
    s.evaluate.entry = s.entry ∧ s.evaluate.mode = s.mode ∧ s.evaluate.history = s.history := by
  have hfault := map_eq_error h
  unfold Session.evaluate
  rw [hfault]
  exact ⟨rfl, rfl, rfl⟩

namespace Ledger

variable {l : Ledger} {d : Desk}

/-- Cutting a list before something is put in front loses nothing. -/
theorem take_cons_take (n : Nat) (e : Entry) (es : List Entry) :
    (e :: es.take n).take n = (e :: es).take n := by
  cases n with
  | zero => rfl
  | succ n =>
    have hmin : min n (n + 1) = n := Nat.min_eq_left (Nat.le_succ n)
    rw [List.take_succ_cons, List.take_succ_cons, List.take_take, hmin]

theorem covers_fresh : Covers {} Desk.fresh := ⟨rfl, rfl⟩

/-- What an evaluation does to the history it does to the ledger. -/
theorem Covers.evaluate (h : l.Covers d) :
    d.session.evaluate.history.entries =
      (l.step d.session (.command .evaluate)).log.take History.capacity := by
  rw [Session.history_evaluate, step]
  cases calculate d.session.mode d.session.expression with
  | error fault => exact h.history
  | ok x =>
    simp only [History.entries_add, h.history]
    exact take_cons_take ..

/-- A saved history is restored as far as the ledger that was saved covers it. -/
theorem Covers.saved (h : l.Covers d) :
    (Session.restored (some d.session.saved.write)).history.entries =
      l.log.take History.capacity := by
  rw [Session.restored, Option.bind_some, Saved.read?_write]
  show (d.session.history.entries.take History.capacity) = _
  rw [h.history, List.take_take, Nat.min_self]

theorem saved_step_command (l : Ledger) (s : Session) (c : Command) :
    (l.step s (.command c)).saved = l.saved := by
  cases c with
  | evaluate =>
    rw [step]
    cases calculate s.mode s.expression <;> rfl
  | _ => rfl

/-- One request keeps the history the front of the ledger. -/
theorem Covers.step (h : l.Covers d) (r : Request) :
    (l.step d.session r).Covers (r.apply d) := by
  cases r with
  | command c =>
    refine ⟨?_, (l.saved_step_command d.session c).symm ▸ h.stored⟩
    by_cases hc : (Request.command c).touchesHistory = false
    · rw [Request.history_apply d hc, l.log_step d.session hc]
      exact h.history
    · cases c with
      | evaluate => exact h.evaluate
      | clearHistory => rfl
      | _ => exact absurd rfl hc
  | save => exact ⟨h.history, h.saved⟩
  | restore => exact ⟨h.stored, h.stored⟩
  | restoreNothing => exact ⟨rfl, h.stored⟩
  | restoreText text => exact ⟨rfl, rfl⟩

/-- So it is after any number of them. -/
theorem Covers.run (h : l.Covers d) (rs : List Request) : (l.run d rs).Covers (d.run rs) := by
  induction rs generalizing l d with
  | nil => exact h
  | cons r rs ih => exact ih (h.step r)

end Ledger

/-- Whatever was requested, the history is the front of all that was evaluated; it changes with
nothing but evaluating, clearing and restoring, and an evaluation that fails leaves it, the entry
and the angle mode as they are. -/
theorem Desk.history_eq_log (rs : List Request) :
    let d := Desk.fresh.run rs
    d.session.history.entries = (Ledger.run {} .fresh rs).log.take 20 ∧
    d.session.history.length ≤ 20 ∧
    (∀ r : Request, r.touchesHistory = false →
      (r.apply d).session.history = d.session.history) ∧
    ∀ fault : Fault, calculate d.session.mode d.session.expression = .error fault →
      d.session.evaluate.entry = d.session.entry ∧ d.session.evaluate.mode = d.session.mode ∧
        d.session.evaluate.history = d.session.history := by
  intro d
  have hcovers : (Ledger.run {} .fresh rs).Covers d := Ledger.covers_fresh.run rs
  refine ⟨hcovers.history, ?_, fun r hr => r.history_apply d hr, fun fault hfault =>
    Session.evaluate_of_error hfault⟩
  rw [History.length, hcovers.history, List.length_take]
  exact Nat.min_le_left ..

/-- What was saved comes back behind a fault and clearing. -/
theorem Desk.history_eq_log_restored :
    (Desk.fresh.run [.command (.insert "1+1"), .command .evaluate, .save,
      .command (.insert "("), .command .evaluate, .command .clearHistory,
      .restore]).session.history.entries = [⟨"1+1", 2⟩] ∧
    (Desk.fresh.run [.command (.insert "(")]).session.evaluate.entry = "(" := by
  have hlog : (Ledger.run {} .fresh [.command (.insert "1+1"), .command .evaluate, .save,
      .command (.insert "("), .command .evaluate, .command .clearHistory,
      .restore]).log.take 20 = [⟨"1+1", 2⟩] := by decide +kernel
  have hfault : calculate .degrees "(" = .error .unclosedParen := by decide +kernel
  have hentry := (Desk.history_eq_log [.command (.insert "(")]).2.2.2 _ hfault
  exact ⟨(Desk.history_eq_log _).1.trans hlog, hentry.1⟩

end Calculator
