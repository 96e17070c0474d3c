/-
# What the keys write can be read

Text comes into the entry in many ways: a key writes its label, evaluating writes
a result, deleting cuts what is there, and the history gives back what was
evaluated before, also behind the storage. None of these makes a character that
the lexer does not know if none was there (`Desk.Readable.apply`). So as long as
only readable text is entered, the entry can be read into tokens.

The keypad enters nothing else: with its keys and the other buttons alone, no
evaluation fails at the first stage (`Desk.entry_of_buttons`).

Key definitions: `Text.Readable`, `Request.texts`, `Desk.Readable`, `Button`.
-/
import Calculator.Proofs.HistoryLog
import Calculator.Proofs.ScreenText
import Calculator.Proofs.Stages
import Calculator.Screen

namespace Calculator

open Lexeme

/-! ### Readable texts -/

namespace Text

/-- Every character is a blank or belongs to a token. -/
def Readable (s : String) : Prop := ∀ c ∈ s.toList, isReadable c = true

instance (s : String) : Decidable (Readable s) :=
  List.decidableBAll (fun c => isReadable c = true) s.toList

theorem readable_empty : Readable "" := by decide

theorem readable_append {s t : String} (hs : Readable s) (ht : Readable t) : Readable (s ++ t) := by
  intro c hc
  rw [String.toList_append, List.mem_append] at hc
  exact hc.elim (hs c) (ht c)

/-- Leaving characters out of a text leaves it readable. -/
theorem readable_of_sublist {s : String} (hs : Readable s) {cs : List Char}
    (hcs : cs.Sublist s.toList) : Readable (String.ofList cs) := by
  intro c hc
  rw [String.toList_ofList] at hc
  exact hs c (hcs.subset hc)

theorem readable_trim {s : String} (hs : Readable s) : Readable (trim s) := by
  refine readable_of_sublist hs ?_
  have hback : (trimChars s.toList).Sublist (s.toList.dropWhile isBlank) := by
    rw [trimChars, ← List.reverse_sublist, List.reverse_reverse]
    exact List.dropWhile_sublist _
  exact hback.trans (List.dropWhile_sublist _)

/-- A readable text has tokens. -/
theorem exists_scan {s : String} (hs : Readable s) : ∃ ts, Token.scan s = .ok ts := by
  cases hscan : Token.scan s with
  | ok ts => exact ⟨ts, rfl⟩
  | error f =>
    obtain ⟨front, c, rest, hchars, -, hc, -⟩ := Token.scanFrom_error hscan
    have hmem : c ∈ s.toList := by
      rw [hchars]
      exact List.mem_append_right _ List.mem_cons_self
    rw [hs c hmem] at hc
    cases hc

/-- The texts of doubles are readable. -/
theorem readable_write (x : Float) : Readable (Numeral.write Numeral.screen x) := by
  cases hx : x.isFinite with
  | true =>
    have hdigits : ∀ c ∈ Numeral.digits (Double.code x), isReadable c = true := fun c hc =>
      Token.isReadable_of_isNumberChar (Numeral.isNumberChar_of_mem_digits c hc)
    intro c hc
    rw [Numeral.write, String.toList_ofList, Numeral.writeChars_screen hx] at hc
    by_cases hneg : x < 0
    · rw [if_pos hneg, List.mem_cons] at hc
      rcases hc with rfl | hc
      · decide +kernel
      · exact hdigits c hc
    · rw [if_neg hneg] at hc
      exact hdigits c hc
  | false =>
    rcases Numeral.write_of_not_isFinite Numeral.screen hx with ⟨-, hw⟩ | ⟨-, hw | hw⟩
    all_goals rw [hw]
    all_goals decide +kernel

end Text

/-! ### Sessions -/

namespace Session

/-- The entry is readable, and so is every expression of the history. -/
structure Readable (s : Session) : Prop where
  entry : Text.Readable s.entry
  history : ∀ e ∈ s.history.entries, Text.Readable e.expression

theorem Readable.revisit {s : Session} (h : s.Readable) (i : Nat) : (s.revisit i).Readable := by
  unfold Session.revisit
  split
  next e he => exact ⟨h.history e (List.mem_of_getElem? he), h.history⟩
  next => exact ⟨h.entry, h.history⟩

theorem Readable.older {s : Session} (h : s.Readable) : s.older.Readable := by
  rcases s.older_cases with ho | ⟨i, ho⟩ <;> rw [ho]
  · exact h
  · exact h.revisit i

theorem Readable.clearEntry {s : Session} (h : s.Readable) : s.clearEntry.Readable :=
  ⟨Text.readable_empty, h.history⟩

theorem Readable.newer {s : Session} (h : s.Readable) : s.newer.Readable := by
  rcases s.newer_cases with hn | hn | ⟨i, hn⟩ <;> rw [hn]
  · exact h
  · exact h.clearEntry
  · exact h.revisit i

theorem Readable.evaluate {s : Session} (h : s.Readable) : s.evaluate.Readable := by
  unfold Session.evaluate
  split
  next answer _ =>
    refine ⟨Text.readable_write answer.value, fun e he => ?_⟩
    rcases List.mem_cons.mp (List.mem_of_mem_take he) with rfl | he
    · exact Text.readable_trim h.entry
    · exact h.history e he
  next => exact ⟨h.entry, h.history⟩

end Session

/-! ### What comes into the entry -/

/-- The texts that a request may bring into the entry, now or by way of the history. -/
def Request.texts : Request → List String
  | .command (.insert text) | .command (.setEntry text) | .command (.type text) => [text]
  | .restoreText stored => (Session.restored (some stored)).history.entries.map Entry.expression
  | _ => []

theorem Session.Readable.apply {s : Session} (h : s.Readable) {c : Command}
    (hc : ∀ text ∈ (Request.command c).texts, Text.Readable text) : (c.apply s).Readable := by
  cases c with
  | insert text => exact ⟨Text.readable_append h.entry (hc text List.mem_cons_self), h.history⟩
  | setEntry text | type text => exact ⟨hc text List.mem_cons_self, h.history⟩
  | deleteLast => exact ⟨Text.readable_of_sublist h.entry (List.dropLast_sublist _), h.history⟩
  | clearEntry => exact h.clearEntry
  | evaluate => exact h.evaluate
  | revisit i => exact h.revisit i
  | older => exact h.older
  | newer => exact h.newer
  | clearHistory => exact ⟨h.entry, by simp [Command.apply, Session.clearHistory]⟩
  | setMode _ | toggleMode | unfocus => exact ⟨h.entry, h.history⟩

namespace Desk

/-- The session is readable, and so is the one that would be restored. -/
structure Readable (d : Desk) : Prop where
  session : d.session.Readable
  stored : (Session.restored d.stored).Readable

theorem readable_fresh : Desk.fresh.Readable :=
  ⟨⟨Text.readable_empty, by simp [fresh, Session.fresh]⟩, ⟨Text.readable_empty, nofun⟩⟩

/-- What is saved is as readable as the history. -/
theorem Readable.save {d : Desk} (h : d.Readable) :
    (Session.restored (some d.session.saved.write)).Readable := by
  refine ⟨Text.readable_empty, fun e he => h.session.history e ?_⟩
  rw [Session.restored, Option.bind_some, Saved.read?_write] at he
  exact List.mem_of_mem_take he

theorem Readable.apply {d : Desk} (h : d.Readable) {r : Request}
    (hr : ∀ text ∈ r.texts, Text.Readable text) : (r.apply d).Readable := by
  cases r with
  | command c => exact ⟨h.session.apply hr, h.stored⟩
  | save => exact ⟨h.session, h.save⟩
  | restore => exact ⟨h.stored, h.stored⟩
  | restoreNothing => exact ⟨⟨Text.readable_empty, nofun⟩, h.stored⟩
  | restoreText stored =>
    have hstored : (Session.restored (some stored)).Readable :=
      ⟨Text.readable_empty, fun e he => hr e.expression (List.mem_map_of_mem he)⟩
    exact ⟨hstored, hstored⟩

/-- So it stays readable as long as no request brings anything else. -/
theorem Readable.run {d : Desk} (h : d.Readable) {rs : List Request}
    (hrs : ∀ r ∈ rs, ∀ text ∈ r.texts, Text.Readable text) : (d.run rs).Readable :=
  List.foldlRecOn rs Request.apply h fun _ hd r hr => hd.apply (hrs r hr)

end Desk

/-! ### Buttons -/

/-- What can be done without a keyboard. -/
inductive Button
  | key (label : String) (onKeypad : label ∈ Screen.keypad)
  | delete
  | clear
  | mode
  | revisit (i : Nat)
  | older
  | newer
  | clearHistory
  | save
  | restore

/-- What a button asks for. -/
def Button.request : Button → Request
  | key label _ => .command (Screen.keyCommand label)
  | delete => .command .deleteLast
  | clear => .command .clearEntry
  | mode => .command .toggleMode
  | revisit i => .command (.revisit i)
  | older => .command .older
  | newer => .command .newer
  | clearHistory => .command .clearHistory
  | save => .save
  | restore => .restore

theorem Button.readable_texts (b : Button) : ∀ text ∈ b.request.texts, Text.Readable text := by
  cases b with
  | key label onKeypad =>
    have hall : ∀ label ∈ Screen.keypad, ∀ text ∈ (Request.command (Screen.keyCommand label)).texts,
        Text.Readable text := by decide +kernel
    exact hall label onKeypad
  | _ => nofun

namespace Desk

/-- Whatever buttons were pressed, the entry has tokens, and evaluating it does not fail at the
first stage in either mode. So no evaluation of a run does. -/
theorem entry_of_buttons (bs : List Button) :
    let s := (Desk.fresh.run (bs.map Button.request)).session
    (∃ ts, Token.scan s.entry = .ok ts) ∧
    ∀ mode fault, evaluate mode s.expression = .error fault → fault.stage ≠ .lexical := by
  intro s
  have htexts : ∀ r ∈ bs.map Button.request, ∀ text ∈ r.texts, Text.Readable text := by
    intro r hr
    obtain ⟨b, -, rfl⟩ := List.mem_map.mp hr
    exact b.readable_texts
  have hs : s.Readable := (readable_fresh.run htexts).session
  refine ⟨Text.exists_scan hs.entry, fun mode fault hfault hstage => ?_⟩
  obtain ⟨f, hscan⟩ : Stage.lexical.Fails mode s.expression :=
    Stage.fails_iff.mp ⟨fault, hfault, hstage⟩
  obtain ⟨ts, hok⟩ := Text.exists_scan (Text.readable_trim hs.entry)
  cases hscan.symm.trans hok

/-- A result cut by the delete button is a name: `1 / 0 =` and then `DEL` leave `in`, and evaluating
it fails, but at the second stage. -/
theorem entry_of_buttons_cut_result :
    let bs : List Button := [.key "1" (by decide), .key "/" (by decide), .key "0" (by decide),
      .key "=" (by decide), .delete]
    let s := (Desk.fresh.run (bs.map Button.request)).session
    s.entry = "in" ∧ evaluate .degrees s.expression = .error (.unknownName "in") ∧
    (Fault.unknownName "in").stage ≠ .lexical := by
  intro bs s
  have hfault : evaluate .degrees s.expression = .error (.unknownName "in") := by decide +kernel
  exact ⟨by decide +kernel, hfault, (entry_of_buttons bs).2 .degrees _ hfault⟩

end Desk

end Calculator
