/-
# What stands beside the entry

A session shows more than its entry: that the last evaluation failed, why, and
how the last result came about. Whatever was requested, these fit the entry and
the history: a fault that stands is one of the text in the entry, and workings
that stand are those of the newest entry of the history, unless the history was
cleared since (`Desk.fault_and_workings_of_run`).

Only evaluating raises a fault or makes workings. All else either takes the mark
of a fault away or leaves it with the entry, and it leaves the message, the
workings and the newest entry of the history alone or clears the history
(`Session.Quiet`).

As in the proof about the cursor, writing the entry directly is not covered.

Key definitions: `Session.Quiet`, `Workings.Explain`, `Session.Coherent`.
-/
import Calculator.Desk
import Calculator.Proofs.Scanning

namespace Calculator

/-! ### Workings -/

/-- The workings are those of a text. -/
def Workings.Explain (w : Workings) (s : String) : Prop :=
  ∃ ts items, Token.scan s = .ok ts ∧ Rpn.ofTokens ts = .ok items ∧
    w = ⟨Token.line ts, Rpn.line items⟩

theorem explain_of_evaluate {mode : AngleMode} {s : String} {answer : Answer}
    (h : evaluate mode s = .ok answer) : answer.workings.Explain s := by
  rw [evaluate_eq] at h
  obtain ⟨ts, hscan, h⟩ := bind_eq_ok h
  obtain ⟨items, hitems, h⟩ := bind_eq_ok h
  obtain ⟨x, -, h⟩ := bind_eq_ok h
  cases h
  exact ⟨ts, items, hscan, hitems, rfl⟩

/-! ### Commands that evaluate nothing -/

namespace Session

/-- What a command does that neither evaluates nor writes the entry directly. -/
structure Quiet (s t : Session) : Prop where
  message : t.message = s.message
  workings : t.workings = s.workings
  history : t.history = s.history ∨ t.history = .empty
  failed : t.failed = false ∨ (t.failed = s.failed ∧ t.entry = s.entry)

theorem Quiet.refl (s : Session) : s.Quiet s := ⟨rfl, rfl, .inl rfl, .inr ⟨rfl, rfl⟩⟩

theorem quiet_revisit (s : Session) (i : Nat) : s.Quiet (s.revisit i) := by
  unfold revisit
  split
  · exact ⟨rfl, rfl, .inl rfl, .inl rfl⟩
  · exact ⟨rfl, rfl, .inl rfl, .inr ⟨rfl, rfl⟩⟩

theorem quiet_older (s : Session) : s.Quiet s.older := by
  rcases s.older_cases with h | ⟨i, h⟩ <;> rw [h]
  · exact .refl s
  · exact s.quiet_revisit i

theorem quiet_newer (s : Session) : s.Quiet s.newer := by
  rcases s.newer_cases with h | h | ⟨i, h⟩ <;> rw [h]
  · exact .refl s
  · exact ⟨rfl, rfl, .inl rfl, .inl rfl⟩
  · exact s.quiet_revisit i

theorem quiet_apply (s : Session) {c : Command} (hc : c ≠ .evaluate)
    (hset : ∀ text, c ≠ .setEntry text) : s.Quiet (c.apply s) := by
  cases c with
  | insert _ | deleteLast | clearEntry | type _ => exact ⟨rfl, rfl, .inl rfl, .inl rfl⟩
  | setMode _ | toggleMode | unfocus => exact ⟨rfl, rfl, .inl rfl, .inr ⟨rfl, rfl⟩⟩
  | clearHistory => exact ⟨rfl, rfl, .inr rfl, .inr ⟨rfl, rfl⟩⟩
  | revisit i => exact s.quiet_revisit i
  | older => exact s.quiet_older
  | newer => exact s.quiet_newer
  | setEntry text => exact absurd rfl (hset text)
  | evaluate => exact absurd rfl hc

/-! ### Fault and workings -/

/-- A fault that stands is one of the entry, and workings that stand are those of the newest
history entry. -/
structure Coherent (s : Session) : Prop where
  fault : s.failed = true →
    ∃ mode fault, calculate mode s.expression = .error fault ∧ s.message = fault.message
  workings : s.workings ≠ {} → s.failed = false ∧ s.message = "" ∧
    (s.history.isEmpty = true ∨
      ∃ e, s.history.get? 0 = some e ∧ s.workings.Explain e.expression)

theorem coherent_ofSaved (saved : Saved) : (ofSaved saved).Coherent := by
  refine ⟨fun h => ?_, fun h => absurd rfl h⟩
  cases h

theorem Coherent.quiet {s t : Session} (h : s.Coherent) (hq : s.Quiet t) : t.Coherent := by
  refine ⟨fun hfailed => ?_, fun hworkings => ?_⟩
  · rcases hq.failed with hf | ⟨hf, hentry⟩
    · rw [hf] at hfailed
      cases hfailed
    · have hexpression : t.expression = s.expression := congrArg Text.trim hentry
      rw [hexpression, hq.message]
      exact h.fault (hf ▸ hfailed)
  · rw [hq.workings] at hworkings ⊢
    obtain ⟨hfailed, hmessage, hnewest⟩ := h.workings hworkings
    refine ⟨?_, hq.message.trans hmessage, ?_⟩
    · rcases hq.failed with hf | ⟨hf, -⟩
      · exact hf
      · exact hf.trans hfailed
    · rcases hq.history with hh | hh
      · rw [hh]
        exact hnewest
      · rw [hh]
        exact .inl rfl

/-- Evaluating makes fault and workings anew. -/
theorem coherent_evaluate (s : Session) : s.evaluate.Coherent := by
  unfold Session.evaluate
  cases hanswer : Calculator.evaluate s.mode s.expression with
  | ok answer =>
    refine ⟨fun h => (by cases h), fun _ => ⟨rfl, rfl, .inr ⟨_, rfl, ?_⟩⟩⟩
    exact explain_of_evaluate hanswer
  | error fault =>
    refine ⟨fun _ => ⟨s.mode, fault, ?_, rfl⟩, fun h => absurd rfl h⟩
    show (Calculator.evaluate s.mode s.expression).map Answer.value = _
    rw [hanswer]
    rfl

theorem Coherent.apply {s : Session} (h : s.Coherent) {c : Command}
    (hset : ∀ text, c ≠ .setEntry text) : (c.apply s).Coherent := by
  by_cases hc : c = .evaluate
  · subst hc
    exact s.coherent_evaluate
  · exact h.quiet (s.quiet_apply hc hset)

end Session

/-! ### Runs -/

namespace Desk

theorem coherent_apply {d : Desk} (h : d.session.Coherent) {r : Request}
    (hset : ∀ text, r ≠ .command (.setEntry text)) : (r.apply d).session.Coherent := by
  cases r with
  | command c => exact h.apply fun text hc => hset text (congrArg Request.command hc)
  | save => exact h
  | restore | restoreNothing | restoreText _ => exact Session.coherent_ofSaved _

theorem coherent_run {d : Desk} (h : d.session.Coherent) {rs : List Request}
    (hset : ∀ text, .command (.setEntry text) ∉ rs) : (d.run rs).session.Coherent := by
  have hstep : ∀ d : Desk, d.session.Coherent → ∀ r ∈ rs, (r.apply d).session.Coherent := by
    intro d hd r hr
    exact coherent_apply hd fun text he => hset text (he ▸ hr)
  exact List.foldlRecOn rs Request.apply h hstep

/-- Whatever was requested, but for writing the entry directly: if the screen says that the
evaluation failed, then the text in the entry fails, in some mode, with the message that is kept;
if it explains a result, then nothing failed, and the result is the newest of the history unless
the history is empty. -/
theorem fault_and_workings_of_run {rs : List Request}
    (hset : ∀ text, .command (.setEntry text) ∉ rs) :
    let s := (Desk.fresh.run rs).session
    (s.failed = true →
      ∃ mode fault, calculate mode s.expression = .error fault ∧ s.message = fault.message) ∧
    (s.workings ≠ {} → s.failed = false ∧ s.message = "" ∧
      (s.history.isEmpty = true ∨
        ∃ e ts items, s.history.get? 0 = some e ∧ Token.scan e.expression = .ok ts ∧
          Rpn.ofTokens ts = .ok items ∧ s.workings = ⟨Token.line ts, Rpn.line items⟩)) := by
  intro s
  have hstart : Desk.fresh.session.Coherent := Session.coherent_ofSaved {}
  have hs : s.Coherent := coherent_run hstart hset
  refine ⟨hs.fault, fun hworkings => ?_⟩
  obtain ⟨hfailed, hmessage, hnewest⟩ := hs.workings hworkings
  refine ⟨hfailed, hmessage, ?_⟩
  rcases hnewest with hempty | ⟨e, he, ts, items, hscan, hitems, hw⟩
  · exact .inl hempty
  · exact .inr ⟨e, ts, items, he, hscan, hitems, hw⟩

/-- A fault stands through a change of mode, and goes when the entry is edited; workings stand
while the screen goes on. -/
theorem fault_and_workings_of_run_toggled :
    let failing : List Request := [.command (.insert "1+"), .command .evaluate,
      .command .toggleMode]
    let working : List Request := [.command (.insert "1+1"), .command .evaluate,
      .command (.insert "0"), .command .deleteLast]
    (∃ mode fault, calculate mode (Desk.fresh.run failing).session.expression = .error fault ∧
      (Desk.fresh.run failing).session.message = fault.message) ∧
    (Desk.fresh.run working).session.failed = false ∧
    ∃ e, (Desk.fresh.run working).session.history.get? 0 = some e ∧
      (Desk.fresh.run working).session.workings.Explain e.expression := by
  intro failing working
  have hfailing : (Desk.fresh.run failing).session.failed = true := by decide +kernel
  have hworking : (Desk.fresh.run working).session.workings ≠ {} := by decide +kernel
  have hlength : (Desk.fresh.run working).session.history.isEmpty = false := by decide +kernel
  have hset : ∀ text,
      .command (.setEntry text) ∉ failing ∧ .command (.setEntry text) ∉ working := by
    simp [failing, working]
  obtain ⟨hfault, -⟩ := fault_and_workings_of_run fun text => (hset text).1
  obtain ⟨-, hexplain⟩ := fault_and_workings_of_run fun text => (hset text).2
  obtain ⟨hfailed, -, hnewest⟩ := hexplain hworking
  rw [hlength] at hnewest
  obtain ⟨e, ts, items, he, hscan, hitems, hw⟩ := hnewest.resolve_left (by decide)
  exact ⟨hfault hfailing, hfailed, e, he, ts, items, hscan, hitems, hw⟩

end Desk

end Calculator
