/-
# An entry of the history can be evaluated again

What an evaluation records is the expression without the blanks around it and the
value that it had. Taking blanks off again changes nothing (`trimChars_of_ends`),
so an entry that is brought back to the screen is evaluated as it is listed, and
in the mode it came from it has the value that it is listed with
(`Session.evaluate_revisit`).

That every entry came about that way is said of the ledger, which only an
evaluation writes to (`Ledger.Reproducible.step`); the history is its front, also
after a trip through the storage. A text from elsewhere may list any results, so
restoring one is not covered.

Key definitions: `Entry.Reproducible`, `Ledger.Reproducible`.
-/
import Calculator.Proofs.HistoryLog

namespace Calculator

/-! ### Entries -/

/-- No blank stands at an end of the expression, and in one of the modes it has the result. -/
structure Entry.Reproducible (e : Entry) : Prop where
  first : ∀ c, e.expression.toList.head? = some c → Text.isBlank c = false
  last : ∀ c, e.expression.toList.getLast? = some c → Text.isBlank c = false
  value : ∃ mode, calculate mode e.expression = .ok e.result

theorem reproducible_of_calculate {mode : AngleMode} {s : String} {x : Float}
    (h : calculate mode (Text.trim s) = .ok x) : Entry.Reproducible ⟨Text.trim s, x⟩ := by
  refine ⟨fun c hc => ?_, fun c hc => ?_, mode, h⟩
  · rw [Text.trim, String.toList_ofList] at hc
    exact Text.isBlank_of_head?_trimChars hc
  · rw [Text.trim, String.toList_ofList] at hc
    exact Text.isBlank_of_getLast?_trimChars hc

theorem Entry.Reproducible.trim_expression {e : Entry} (h : e.Reproducible) :
    Text.trim e.expression = e.expression := by
  rw [Text.trim, Text.trimChars_of_ends h.first h.last, String.ofList_toList]

/-- In the right mode, bringing up an entry and evaluating it shows the result that it is listed
with. -/
theorem Session.evaluate_revisit {s : Session} {i : Nat} {e : Entry}
    (hi : s.history.get? i = some e) (he : e.Reproducible) :
    ∃ mode, calculate mode e.expression = .ok e.result ∧
      ((s.setMode mode).revisit i).evaluate.failed = false ∧
      ((s.setMode mode).revisit i).evaluate.message = "" ∧
      ((s.setMode mode).revisit i).evaluate.entry = Numeral.write Numeral.screen e.result := by
  obtain ⟨mode, hvalue⟩ := he.value
  obtain ⟨answer, hanswer, hresult⟩ := map_eq_ok hvalue
  have hup : (s.setMode mode).revisit i =
      { s with
        mode := mode, entry := e.expression, failed := false, cursor := some i,
        wantsFocus := true } := by
    have hget : (s.setMode mode).history.get? i = some e := hi
    rw [revisit, hget]
    rfl
  have hexpression : ((s.setMode mode).revisit i).expression = e.expression := by
    rw [hup]
    exact he.trim_expression
  have hevaluate : Calculator.evaluate ((s.setMode mode).revisit i).mode
      ((s.setMode mode).revisit i).expression = .ok answer := by
    rw [hexpression, hup]
    exact hanswer
  obtain ⟨-, hfailed, hmessage, hentry, -⟩ := Session.evaluate_of_ok hevaluate
  exact ⟨mode, hvalue, hfailed, hmessage, hresult ▸ hentry⟩

/-! ### The ledger -/

namespace Ledger

/-- Every entry of the ledger, and of what of it was saved, can be evaluated again. -/
structure Reproducible (l : Ledger) : Prop where
  log : ∀ e ∈ l.log, e.Reproducible
  saved : ∀ e ∈ l.saved, e.Reproducible

theorem reproducible_empty : Reproducible {} := ⟨by simp, by simp⟩

/-- An evaluation records what can be evaluated again, and nothing else but a foreign text writes
to the ledger. -/
theorem Reproducible.step {l : Ledger} (h : l.Reproducible) (s : Session) {r : Request}
    (hr : ∀ text, r ≠ .restoreText text) : (l.step s r).Reproducible := by
  cases r with
  | command c =>
    cases c with
    | evaluate =>
      unfold Ledger.step
      cases hx : calculate s.mode s.expression with
      | ok x => exact ⟨List.forall_mem_cons.mpr ⟨reproducible_of_calculate hx, h.log⟩, h.saved⟩
      | error fault => exact h
    | clearHistory => exact ⟨by simp [Ledger.step], h.saved⟩
    | _ => exact h
  | save => exact ⟨h.log, h.log⟩
  | restore => exact ⟨h.saved, h.saved⟩
  | restoreNothing => exact ⟨by simp [Ledger.step], h.saved⟩
  | restoreText text => exact absurd rfl (hr text)

theorem Reproducible.run {l : Ledger} (h : l.Reproducible) (d : Desk) {rs : List Request}
    (hrs : ∀ text, .restoreText text ∉ rs) : (l.run d rs).Reproducible := by
  induction rs generalizing l d with
  | nil => exact h
  | cons r rs ih =>
    have hr : ∀ text, r ≠ .restoreText text := fun text hr => hrs text (hr ▸ List.mem_cons_self)
    exact ih (h.step d.session hr) _ fun text hm => hrs text (List.mem_cons_of_mem _ hm)

end Ledger

/-- Whatever was requested, but for restoring a foreign text: no entry of the history has a blank
at an end, and in one of the modes its expression has the result that it is listed with; so
bringing it up and evaluating it in that mode shows this result. -/
theorem Desk.history_reproducible {rs : List Request} (hrs : ∀ text, .restoreText text ∉ rs) :
    let s := (Desk.fresh.run rs).session
    ∀ (i : Nat) (e : Entry), s.history.get? i = some e →
      (∀ c, e.expression.toList.head? = some c → Text.isBlank c = false) ∧
      (∀ c, e.expression.toList.getLast? = some c → Text.isBlank c = false) ∧
      ∃ mode, calculate mode e.expression = .ok e.result ∧
        ((s.setMode mode).revisit i).evaluate.failed = false ∧
        ((s.setMode mode).revisit i).evaluate.message = "" ∧
        ((s.setMode mode).revisit i).evaluate.entry = Numeral.write Numeral.screen e.result := by
  intro s i e hi
  have hcovers : (Ledger.run {} .fresh rs).Covers (Desk.fresh.run rs) :=
    Ledger.covers_fresh.run rs
  have hledger : (Ledger.run {} .fresh rs).Reproducible := Ledger.reproducible_empty.run .fresh hrs
  have hmem : e ∈ s.history.entries := List.mem_of_getElem? hi
  rw [hcovers.history] at hmem
  have he : e.Reproducible := hledger.log e (List.mem_of_mem_take hmem)
  exact ⟨he.first, he.last, Session.evaluate_revisit hi he⟩

/-- An entry from before a change of mode, with blanks around it, behind the storage. -/
theorem Desk.history_reproducible_restored :
    let rs : List Request := [.command (.insert " 1-3 "), .command .evaluate, .save,
      .command .toggleMode, .command .clearHistory, .restore]
    (∀ text, .restoreText text ∉ rs) ∧
    (Desk.fresh.run rs).session.history.get? 0 = some ⟨"1-3", -2⟩ ∧
    ∃ mode, calculate mode "1-3" = .ok (-2) ∧
      (((Desk.fresh.run rs).session.setMode mode).revisit 0).evaluate.entry =
        Numeral.write Numeral.screen (-2) := by
  intro rs
  have hrs : ∀ text, .restoreText text ∉ rs := by simp [rs]
  have hlog : (Ledger.run {} .fresh rs).log.take 20 = [⟨"1-3", -2⟩] := by decide +kernel
  have hget : (Desk.fresh.run rs).session.history.get? 0 = some ⟨"1-3", -2⟩ := by
    rw [History.get?, (Ledger.covers_fresh.run rs).history.trans hlog]
    rfl
  obtain ⟨-, -, mode, hvalue, -, -, hentry⟩ := Desk.history_reproducible hrs 0 _ hget
  exact ⟨hrs, hget, mode, hvalue, hentry⟩

end Calculator
