/-
# Whatever text is stored

A stored text may be cut off, come from elsewhere, or hold a history longer than
any session makes. What a text says is stated here without its reader, label by
label (`Saved.Says`): the angle mode and the history may be absent, but what is
there has to be right in all its parts, down to the number of the last entry.
Reading gives just that, or nothing if the text says nothing
(`Saved.read?_eq_some_iff`).

A session restored from a text is fresh but for what the text says, and saving it
brings it back as it is. From then on no history is longer than what is kept
(`Session.restored_text`).

How characters form a value is not told a second time: `Saved.Writes` takes it
from `Piece`, `Extension` and `Datum`.

Key definitions: `Datum.IsRecord`, `Datum.Holds`, `Saved.Says`.
-/
import Calculator.Proofs.HistoryLog

namespace Calculator

open Storage

/-! ### Fields -/

namespace Storage.Datum

/-- The value is a record with these fields. It may carry its own name, which some extensions ask
for. -/
inductive IsRecord (exts : List Extension) (own : String) :
    Datum → List (List Char × Datum) → Prop
  | plain {fields} (h : .explicitStructNames ∉ exts) : IsRecord exts own (record none fields) fields
  | named {fields} : IsRecord exts own (record (some own.toList) fields) fields

/-- What the one field with a label holds, or that there is no such field. -/
def Holds {α : Type} (Is : Datum → α → Prop) (fields : List (List Char × Datum)) (label : String) :
    Option α → Prop
  | some x => ∃ d, valuesOf label fields = [d] ∧ Is d x
  | none => valuesOf label fields = []

theorem fieldsOf?_eq_some_iff {exts : List Extension} {own : String} {d : Datum}
    {fields : List (List Char × Datum)} :
    d.fieldsOf? exts own = some fields ↔ IsRecord exts own d fields := by
  constructor
  · intro h
    unfold fieldsOf? at h
    split at h
    next =>
      by_cases hexts : exts.contains .explicitStructNames = true
      · rw [if_pos hexts] at h
        cases h
      · rw [if_neg hexts] at h
        cases h
        exact .plain fun hmem => hexts (List.contains_iff_mem.mpr hmem)
    next name _ =>
      by_cases hname : name = own.toList
      · rw [if_pos hname] at h
        cases h
        rw [hname]
        exact .named
      · rw [if_neg hname] at h
        cases h
    next => cases h
  · intro h
    cases h with
    | plain hexts => exact if_neg fun hcontains => hexts (List.contains_iff_mem.mp hcontains)
    | named => exact if_pos rfl

section Holds

variable {α : Type} {read? : Datum → Option α} {Is : Datum → α → Prop}
  {fields : List (List Char × Datum)} {label : String} {x : α}

theorem required?_eq_some_iff (hread : ∀ d x, read? d = some x ↔ Is d x) :
    required? fields label read? = some x ↔ Holds Is fields label (some x) := by
  unfold required? Holds
  match valuesOf label fields with
  | [] => simp
  | [d] => simp [hread]
  | _ :: _ :: _ => simp

theorem optional?_eq_some_iff (absent : α) (hread : ∀ d x, read? d = some x ↔ Is d x) :
    optional? fields label absent read? = some x ↔
      ∃ o, Holds Is fields label o ∧ x = o.getD absent := by
  rw [Option.exists]
  unfold optional? Holds
  match valuesOf label fields with
  | [] => simp [eq_comm]
  | [d] => simp [hread]
  | _ :: _ :: _ => simp

end Holds

end Storage.Datum

/-- A list is read item by item. -/
theorem mapM_eq_some_iff {α β : Type} {read? : α → Option β} {Is : α → β → Prop}
    (hread : ∀ a b, read? a = some b ↔ Is a b) {as : List α} {bs : List β} :
    as.mapM read? = some bs ↔ List.Forall₂ Is as bs := by
  induction as generalizing bs with
  | nil => simp [eq_comm]
  | cons a as ih =>
    rw [List.mapM_cons, List.forall₂_cons_left_iff]
    simp [Option.bind_eq_some_iff, hread, ih, @eq_comm _ bs]

/-! ### What a text says

What each value of the record has to be, the labels being those that are written. -/

namespace Saved

open Datum

def IsMode (d : Datum) (mode : AngleMode) : Prop := d = .word (modeWord mode).toList

def IsText (d : Datum) (s : String) : Prop := d = .text s.toList

def IsNumber (d : Datum) (x : Float) : Prop :=
  ∃ cs, d = .numeral cs ∧ Number.readFraction? cs = some x

def IsEntry (exts : List Extension) (d : Datum) (e : Entry) : Prop :=
  ∃ fields, IsRecord exts "EntreeHistorique" d fields ∧
    Holds IsText fields "expression" (some e.expression) ∧
    Holds IsNumber fields "resultat" (some e.result)

def IsList (Is : Datum → Entry → Prop) (d : Datum) (es : List Entry) : Prop :=
  ∃ items, d = .list items ∧ List.Forall₂ Is items es

def IsHistory (exts : List Extension) (d : Datum) (h : History) : Prop :=
  ∃ fields, IsRecord exts "Historique" d fields ∧
    Holds (IsList (IsEntry exts)) fields "entrees" (some h.entries)

/-- The text is a value behind headers with these extensions. -/
def Writes (text : String) (exts : List Extension) (d : Datum) : Prop :=
  ∃ pieces rest, Piece.scan? text.toList = some pieces ∧
    Extension.headers? pieces = some (exts, rest) ∧ Datum.ofPieces? exts rest = some d

/-- What a stored text says about the angle mode and the history, of which both may be absent. -/
def Says (text : String) (mode : Option AngleMode) (history : Option History) : Prop :=
  ∃ exts d fields, Writes text exts d ∧ IsRecord exts "AppCalc" d fields ∧
    Holds IsMode fields "mode_angle" mode ∧ Holds (IsHistory exts) fields "historique" history

/-! ### Reading gives what a text says -/

theorem modeOf?_eq_some_iff (d : Datum) (mode : AngleMode) :
    modeOf? d = some mode ↔ IsMode d mode := by
  constructor
  · intro h
    unfold modeOf? at h
    split at h
    next name =>
      by_cases hdegrees : name = "Degres".toList
      · rw [if_pos hdegrees] at h
        cases h
        exact congrArg Datum.word hdegrees
      · rw [if_neg hdegrees, Option.ite_none_right_eq_some] at h
        obtain ⟨hradians, h⟩ := h
        cases h
        exact congrArg Datum.word hradians
    next => cases h
  · intro h
    rw [h]
    cases mode <;> rfl

theorem string?_eq_some_iff (d : Datum) (s : String) : string? d = some s ↔ IsText d s := by
  cases d with
  | text content =>
    show some (String.ofList content) = some s ↔ Datum.text content = .text s.toList
    rw [Option.some.injEq, Datum.text.injEq, String.ofList_eq]
  | _ => simp [string?, IsText]

theorem float?_eq_some_iff (d : Datum) (x : Float) : float? d = some x ↔ IsNumber d x := by
  cases d <;> simp [float?, IsNumber]

theorem list?_eq_some_iff (d : Datum) (items : List Datum) :
    list? d = some items ↔ d = .list items := by
  cases d <;> simp [list?]

theorem entryOf?_eq_some_iff (exts : List Extension) (d : Datum) (e : Entry) :
    entryOf? exts d = some e ↔ IsEntry exts d e := by
  simp only [entryOf?, Option.bind_eq_bind, Option.bind_eq_some_iff, fieldsOf?_eq_some_iff,
    required?_eq_some_iff string?_eq_some_iff, required?_eq_some_iff float?_eq_some_iff]
  constructor
  · rintro ⟨fields, hrecord, s, hs, x, hx, h⟩
    cases h
    exact ⟨fields, hrecord, hs, hx⟩
  · rintro ⟨fields, hrecord, hs, hx⟩
    exact ⟨fields, hrecord, e.expression, hs, e.result, hx, rfl⟩

theorem historyOf?_eq_some_iff (exts : List Extension) (d : Datum) (h : History) :
    historyOf? exts d = some h ↔ IsHistory exts d h := by
  simp only [historyOf?, Option.bind_eq_bind, Option.bind_eq_some_iff, fieldsOf?_eq_some_iff,
    required?_eq_some_iff list?_eq_some_iff, mapM_eq_some_iff (entryOf?_eq_some_iff exts)]
  constructor
  · rintro ⟨fields, hrecord, items, ⟨d, hd, rfl⟩, es, hes, h⟩
    cases h
    exact ⟨fields, hrecord, _, hd, items, rfl, hes⟩
  · rintro ⟨fields, hrecord, d, hd, items, rfl, hes⟩
    exact ⟨fields, hrecord, items, ⟨_, hd, rfl⟩, h.entries, hes, rfl⟩

/-- Reading a text gives what it says, and what the text leaves out as it is by default. -/
theorem read?_eq_some_iff (text : String) (saved : Saved) :
    read? text = some saved ↔
      ∃ mode history, Says text mode history ∧
        saved = ⟨mode.getD default, history.getD .empty⟩ := by
  simp only [read?, ofDatum?, Option.bind_eq_bind, Option.bind_eq_some_iff,
    fieldsOf?_eq_some_iff, optional?_eq_some_iff _ modeOf?_eq_some_iff,
    optional?_eq_some_iff _ (historyOf?_eq_some_iff _)]
  constructor
  · rintro ⟨pieces, hscan, ⟨exts, rest⟩, hheaders, d, hd, fields, hrecord,
      _, ⟨mode, hmode, rfl⟩, _, ⟨history, hhistory, rfl⟩, h⟩
    cases h
    exact ⟨mode, history, ⟨exts, d, fields, ⟨pieces, rest, hscan, hheaders, hd⟩, hrecord, hmode,
      hhistory⟩, rfl⟩
  · rintro ⟨mode, history, ⟨exts, d, fields, ⟨pieces, rest, hscan, hheaders, hd⟩, hrecord, hmode,
      hhistory⟩, rfl⟩
    exact ⟨pieces, hscan, (exts, rest), hheaders, d, hd, fields, hrecord,
      _, ⟨mode, hmode, rfl⟩, _, ⟨history, hhistory, rfl⟩, rfl⟩

/-- A text that says nothing is one that is not read. -/
theorem read?_eq_none_iff (text : String) :
    read? text = none ↔ ∀ mode history, ¬ Says text mode history := by
  rw [Option.eq_none_iff_forall_ne_some]
  constructor
  · intro h mode history hsays
    exact h _ ((read?_eq_some_iff text _).mpr ⟨mode, history, hsays, rfl⟩)
  · intro h saved hread
    obtain ⟨mode, history, hsays, -⟩ := (read?_eq_some_iff text saved).mp hread
    exact h mode history hsays

end Saved

/-! ### Sessions from a text -/

namespace Session

/-- The history never grows beyond what is kept. -/
theorem length_history_evaluate_le {s : Session} (h : s.history.length ≤ History.capacity) :
    s.evaluate.history.length ≤ History.capacity := by
  rw [history_evaluate]
  split
  · exact History.length_bound_le _
  · exact h

theorem length_history_restored_le (stored : Option String) :
    (restored stored).history.length ≤ History.capacity :=
  History.length_bound_le _

end Session

theorem Request.length_history_apply_le {d : Desk} (r : Request)
    (h : d.session.history.length ≤ History.capacity) :
    (r.apply d).session.history.length ≤ History.capacity := by
  by_cases hr : r.touchesHistory = true
  · cases r with
    | command c =>
      cases c with
      | evaluate => exact Session.length_history_evaluate_le h
      | clearHistory => exact Nat.zero_le _
      | _ => cases hr
    | save => cases hr
    | restore | restoreNothing | restoreText _ => exact Session.length_history_restored_le _
  · rw [r.history_apply d (Bool.eq_false_iff.mpr hr)]
    exact h

theorem Desk.length_history_run_le {d : Desk} (rs : List Request)
    (h : d.session.history.length ≤ History.capacity) :
    (d.run rs).session.history.length ≤ History.capacity := by
  induction rs generalizing d with
  | nil => exact h
  | cons r rs ih => exact ih (r.length_history_apply_le h)

namespace Session

/-- The text of a session restored from a text restores it as it is. -/
theorem restored_write_restored (stored : Option String) :
    restored (some (restored stored).saved.write) = restored stored := by
  have hread : Saved.read? (restored stored).saved.write = some (restored stored).saved :=
    Saved.read?_write _
  rw [restored, Option.bind_some, hread, Option.getD_some]
  simp only [restored, ofSaved, saved, History.bound_bound]

/-- Whatever text is stored, the session restored from it is fresh but for its angle mode and its
history, of which both are as the text says, or neither if it says nothing. Saving and restoring
changes nothing more, and no later history is longer than twenty entries. -/
theorem restored_text (text : String) :
    let s := restored (some text)
    s = { fresh with mode := s.mode, history := s.history } ∧ s.history.length ≤ 20 ∧
    ((∀ mode history, ¬ Saved.Says text mode history) → s = fresh) ∧
    (∀ mode history, Saved.Says text mode history →
      s.mode = mode.getD .degrees ∧
      s.history.entries = (history.getD .empty).entries.take 20) ∧
    ∀ stored, let d : Desk := ⟨s, stored⟩
      (d.run [.save, .restore]).session = s ∧
      ∀ rs, (d.run rs).session.history.length ≤ 20 := by
  intro s
  have hlength : s.history.length ≤ 20 := length_history_restored_le (some text)
  refine ⟨rfl, hlength, fun h => ?_, fun mode history hsays => ?_, fun stored => ⟨?_, fun rs => ?_⟩⟩
  · have hread : Saved.read? text = none := (Saved.read?_eq_none_iff text).mpr h
    show ofSaved ((Saved.read? text).getD {}) = fresh
    rw [hread]
    rfl
  · have hread : Saved.read? text = some ⟨mode.getD default, history.getD .empty⟩ :=
      (Saved.read?_eq_some_iff text _).mpr ⟨mode, history, hsays, rfl⟩
    show (ofSaved ((Saved.read? text).getD {})).mode = _ ∧
      (ofSaved ((Saved.read? text).getD {})).history.entries = _
    rw [hread]
    exact ⟨rfl, rfl⟩
  · exact restored_write_restored (some text)
  · exact Desk.length_history_run_le rs hlength

/-- A text without an angle mode restores its history, and a text with a good angle mode and a bad
history restores neither. -/
theorem restored_text_partly :
    (restored (some "(historique:(entrees:[(resultat:2,expression:\"1+1\",),]))")).history.entries
      = [⟨"1+1", 2⟩] ∧
    restored (some "(mode_angle:Radians,historique:())") = fresh := by
  have hgood : Saved.read? "(historique:(entrees:[(resultat:2,expression:\"1+1\",),]))" =
      some ⟨.degrees, ⟨[⟨"1+1", 2⟩]⟩⟩ := by decide +kernel
  have hbad : Saved.read? "(mode_angle:Radians,historique:())" = none := by decide +kernel
  obtain ⟨mode, history, hsays, hsaved⟩ := (Saved.read?_eq_some_iff _ _).mp hgood
  have hentries := ((restored_text _).2.2.2.1 mode history hsays).2
  have hhistory : history.getD .empty = ⟨[⟨"1+1", 2⟩]⟩ := (congrArg Saved.history hsaved).symm
  rw [hhistory] at hentries
  exact ⟨hentries, (restored_text _).2.2.1 ((Saved.read?_eq_none_iff _).mp hbad)⟩

end Session

end Calculator
