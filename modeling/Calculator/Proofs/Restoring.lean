/-
# What is saved is what is restored

The stored text of a session is read back as the angle mode and the history that
it was written from, entry by entry and bit by bit, however long the history is
and whatever its expressions hold (`Saved.read?_write`). A session that is
restored from it has these two, the history cut to what is kept, and is fresh
otherwise (`Desk.restore_after_save`).

The pieces of the text are those of a record, so it is enough to say which fields
it has (`Saved.fields`): that they can be told apart and how they are read follows
from the same for their values.

Key definitions: `Saved.entryFields`, `Saved.historyFields`, `Saved.fields`.
-/
import Calculator.Desk
import Calculator.Proofs.StoredNumber
import Calculator.Proofs.StoredValues

namespace Calculator

open Storage Datum

namespace Saved

/-! ### Numbers -/

theorem isAlpha_of_isNumeralStart {c : Char} (hc : Piece.isNumeralStart c = true) :
    c.isAlpha = false := by
  obtain ⟨-, -, hword, -⟩ := Piece.class_of_isNumeralStart hc
  rw [Text.isWordStart, Bool.or_eq_false_iff, Bool.or_eq_false_iff] at hword
  exact hword.1.1

/-- A sign, digits and points are a numeral. -/
theorem isPlainNumeral_signed {cs : List Char} (negative : Bool) (hne : cs ≠ [])
    (hcs : ∀ c ∈ cs, Lexeme.isNumberChar c = true) :
    Piece.isPlainNumeral (Numeral.signChars negative ++ cs) = true := by
  obtain ⟨c, cs, rfl⟩ := List.exists_cons_of_ne_nil hne
  have hall : ∀ d ∈ c :: cs, Piece.isNumeralStart d = true ∧ Piece.isNumeralChar d = true := by
    intro d hd
    have hnum := hcs d hd
    rw [Lexeme.isNumberChar, Bool.or_eq_true] at hnum
    rcases hnum with h | h <;> simp [Piece.isNumeralStart, Piece.isNumeralChar, Char.isAlphanum, h]
  have hrest : ∀ d ∈ cs, Piece.isNumeralChar d = true := fun d hd =>
    (hall d (List.mem_cons_of_mem _ hd)).2
  obtain ⟨hstart, hchar⟩ := hall c List.mem_cons_self
  cases negative
  · simpa [Numeral.signChars, Piece.isPlainNumeral, hstart] using hrest
  · simpa [Numeral.signChars, Piece.isPlainNumeral, Piece.isNumeralStart, hchar] using hrest

/-- What starts as a numeral is written as one. -/
theorem number_of_isPlainNumeral {x : Float} {cs : List Char}
    (hcs : Numeral.writeChars Numeral.stored x = cs) (hplain : Piece.isPlainNumeral cs = true) :
    number x = .numeral cs := by
  obtain ⟨c, ds, rfl⟩ : ∃ c ds, cs = c :: ds := by
    match cs with
    | c :: ds => exact ⟨c, ds, rfl⟩
  simp only [Piece.isPlainNumeral, Bool.and_eq_true] at hplain
  simp only [number, hcs, isAlpha_of_isNumeralStart hplain.1, Bool.false_eq_true, if_false]

/-- A stored number is one plain piece: a word for NaN and infinity, or a numeral, which the
negative infinity is because of its sign. -/
theorem number_cases (x : Float) :
    (number x = .word (Numeral.writeChars Numeral.stored x) ∧
      Piece.isPlainWord (Numeral.writeChars Numeral.stored x) = true) ∨
    (number x = .numeral (Numeral.writeChars Numeral.stored x) ∧
      Piece.isPlainNumeral (Numeral.writeChars Numeral.stored x) = true) := by
  rcases Numeral.writeChars_stored x with ⟨-, hw⟩ | ⟨-, hw⟩ | ⟨-, hw⟩
  · refine .inl ⟨?_, by rw [hw]; decide +kernel⟩
    simp only [number, hw]
    rfl
  · cases hneg : Double.isNegative x <;> rw [hneg] at hw
    · refine .inl ⟨?_, by rw [hw]; decide +kernel⟩
      simp only [number, hw]
      rfl
    · rw [hw]
      have hplain : Piece.isPlainNumeral (Numeral.signChars true ++ "inf".toList) = true := by
        decide +kernel
      exact .inr ⟨number_of_isPlainNumeral hw hplain, hplain⟩
  · rw [hw]
    have hplain := isPlainNumeral_signed (Double.isNegative x) (Numeral.withPoint_ne_nil _)
      (Numeral.isNumberChar_of_mem_withPoint (n := Double.code x))
    exact .inr ⟨number_of_isPlainNumeral hw hplain, hplain⟩

theorem reads_number (exts : List Extension) (room : Nat) (x : Float) :
    Reads (value? exts (room + 2) false) [number x]
      (.numeral (Numeral.writeChars Numeral.stored x)) := by
  have hnum := Number.isNumber_of_readFraction? (Number.readFraction?_writeChars x)
  rcases number_cases x with ⟨hx, -⟩ | ⟨hx, -⟩
  · rw [hx]
    exact reads_number_word hnum
  · rw [hx]
    exact reads_numeral hnum

theorem keepsApart_number (x : Float) : KeepsApart [number x] := by
  intro c rest hrest
  rcases number_cases x with ⟨hx, hplain⟩ | ⟨hx, hplain⟩
  · rw [hx]
    exact .word hplain hrest
  · rw [hx]
    exact .numeral hplain hrest

/-! ### The fields that are written -/

def entryFields (e : Entry) : List Field :=
  [⟨"expression", [.text e.expression.toList], .text e.expression.toList⟩,
   ⟨"resultat", [number e.result], .numeral (Numeral.writeChars Numeral.stored e.result)⟩]

def historyFields (h : History) : List Field :=
  [⟨"entrees", listPieces (h.entries.map entryPieces),
    .list (h.entries.map fun e => recordOf (entryFields e))⟩]

def fields (s : Saved) : List Field :=
  [⟨"mode_angle", [word (modeWord s.mode)], .word (modeWord s.mode).toList⟩,
   ⟨"historique", recordPieces (historyFields s.history), recordOf (historyFields s.history)⟩]

theorem entryPieces_eq (e : Entry) : entryPieces e = recordPieces (entryFields e) := rfl

theorem pieces_eq (s : Saved) : s.pieces = recordPieces s.fields := by
  simp [pieces, recordPieces, fields, historyFields, listPieces, commaJoin, Field.write, word]

/-! ### Their pieces -/

theorem reads_modeWord (exts : List Extension) (room : Nat) (mode : AngleMode) :
    Reads (value? exts (room + 2) false) [word (modeWord mode)]
      (.word (modeWord mode).toList) := by
  cases mode
  all_goals exact reads_word (by decide +kernel) (by decide) (by decide)

theorem reads_entry (exts : List Extension) (room : Nat) (e : Entry) :
    Reads (value? exts (room + 4) false) (entryPieces e) (recordOf (entryFields e)) := by
  rw [entryPieces_eq]
  refine reads_record (List.cons_ne_nil _ _) ?_
  simp only [entryFields, List.forall_mem_cons]
  exact ⟨reads_text _, reads_number exts room e.result, by simp⟩

theorem reads_history (exts : List Extension) (room : Nat) (h : History) :
    Reads (value? exts (room + 8) false) (recordPieces (historyFields h))
      (recordOf (historyFields h)) := by
  refine reads_record (List.cons_ne_nil _ _) ?_
  simp only [historyFields, List.forall_mem_cons]
  exact ⟨reads_list _ fun e _ => ⟨reads_entry exts room e, _, _, rfl, by simp⟩, by simp⟩

theorem reads_pieces (exts : List Extension) (room : Nat) (s : Saved) :
    Reads (value? exts (room + 10) false) s.pieces (recordOf s.fields) := by
  rw [pieces_eq]
  refine reads_record (List.cons_ne_nil _ _) ?_
  simp only [fields, List.forall_mem_cons]
  exact ⟨reads_modeWord exts (room + 6) s.mode, reads_history exts room s.history, by simp⟩

theorem keepsApart_entry (e : Entry) : KeepsApart (entryPieces e) := by
  intro c rest hrest
  rw [entryPieces_eq]
  refine apart_record ?_ hrest
  simp only [entryFields, List.forall_mem_cons]
  exact ⟨⟨by decide +kernel, fun c rest hrest => .text _ hrest⟩,
    ⟨by decide +kernel, keepsApart_number e.result⟩, by simp⟩

theorem keepsApart_history (h : History) : KeepsApart (recordPieces (historyFields h)) := by
  intro c rest hrest
  refine apart_record ?_ hrest
  simp only [historyFields, List.forall_mem_cons]
  refine ⟨⟨by decide +kernel, fun c rest hrest => apart_list ?_ hrest⟩, by simp⟩
  intro ps hps
  obtain ⟨e, -, rfl⟩ := List.mem_map.mp hps
  exact keepsApart_entry e

theorem apart_pieces (s : Saved) : Piece.Apart s.pieces := by
  rw [pieces_eq, ← List.append_nil (recordPieces _)]
  refine apart_record ?_ .nil
  simp only [fields, List.forall_mem_cons]
  refine ⟨⟨by decide +kernel, fun c rest hrest => .word ?_ hrest⟩,
    ⟨by decide +kernel, keepsApart_history s.history⟩, by simp⟩
  cases s.mode <;> decide +kernel

/-! ### Their values -/

theorem entryOf?_recordOf (e : Entry) : entryOf? [] (recordOf (entryFields e)) = some e := by
  have hlabels : ((entryFields e).map Field.label).Nodup := by
    show ["expression", "resultat"].Nodup
    decide
  have hexpression : required? ((entryFields e).map Field.entry) "expression" string? =
      some e.expression := by
    refine (required?_label hlabels List.mem_cons_self string?).trans ?_
    rw [string?, String.ofList_toList]
  have hresult : required? ((entryFields e).map Field.entry) "resultat" float? =
      some e.result :=
    (required?_label hlabels (List.mem_cons_of_mem _ List.mem_cons_self) float?).trans
      (Number.readFraction?_writeChars e.result)
  simp only [entryOf?, fieldsOf?_recordOf, hexpression, hresult, Option.bind_eq_bind,
    Option.bind_some]
  rfl

theorem mapM_entryOf? (es : List Entry) :
    (es.map fun e => recordOf (entryFields e)).mapM (entryOf? []) = some es := by
  induction es with
  | nil => rfl
  | cons e es ih =>
    rw [List.map_cons, List.mapM_cons, entryOf?_recordOf, ih]
    rfl

theorem historyOf?_recordOf (h : History) :
    historyOf? [] (recordOf (historyFields h)) = some h := by
  have hlabels : ((historyFields h).map Field.label).Nodup := List.nodup_singleton _
  have hentries : required? ((historyFields h).map Field.entry) "entrees" list? =
      some (h.entries.map fun e => recordOf (entryFields e)) :=
    required?_label hlabels List.mem_cons_self list?
  simp only [historyOf?, fieldsOf?_recordOf, hentries, Option.bind_eq_bind, Option.bind_some,
    mapM_entryOf?]
  rfl

theorem ofDatum?_recordOf (s : Saved) : ofDatum? [] (recordOf s.fields) = some s := by
  have hlabels : (s.fields.map Field.label).Nodup := by
    show ["mode_angle", "historique"].Nodup
    decide
  have hmode : optional? (s.fields.map Field.entry) "mode_angle" default modeOf? =
      some s.mode := by
    refine (optional?_label hlabels List.mem_cons_self default modeOf?).trans ?_
    cases s.mode <;> rfl
  have hhistory : optional? (s.fields.map Field.entry) "historique" .empty (historyOf? []) =
      some s.history :=
    (optional?_label hlabels (List.mem_cons_of_mem _ List.mem_cons_self) .empty _).trans
      (historyOf?_recordOf s.history)
  simp only [ofDatum?, fieldsOf?_recordOf, hmode, hhistory, Option.bind_eq_bind, Option.bind_some]
  rfl

/-- The stored text says what it was written from. -/
theorem read?_write (s : Saved) : read? s.write = some s := by
  have hscan : Piece.scan? s.write.toList = some s.pieces := by
    rw [write, String.toList_ofList]
    exact Piece.scan?_write s.apart_pieces
  have hheaders : Extension.headers? s.pieces = some ([], s.pieces) :=
    Extension.headers?_of_head? (by rw [pieces_eq]; simp [recordPieces])
  -- The text takes ten of the levels that a text may have.
  have hvalue := reads_pieces [] 118 s [] (by simp)
  rw [List.append_nil] at hvalue
  have hdatum : Datum.ofPieces? [] s.pieces = some (recordOf s.fields) := by
    rw [ofPieces?, maxLevels, hvalue]
  simp only [read?, hscan, hheaders, hdatum, Option.bind_eq_bind, Option.bind_some,
    ofDatum?_recordOf]

end Saved

/-- Saving and restoring keeps the angle mode and the newest entries of the history, as they are,
and nothing else. -/
theorem Desk.restore_after_save (d : Desk) :
    (d.run [.save, .restore]).session =
      { Session.fresh with
        mode := d.session.mode
        history := ⟨d.session.history.entries.take 20⟩ } := by
  simp only [Desk.run, List.foldl_cons, List.foldl_nil, Request.apply, Session.restored,
    Option.bind_some, Saved.read?_write, Option.getD_some]
  rfl

end Calculator
