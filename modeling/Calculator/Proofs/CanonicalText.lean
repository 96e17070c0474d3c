/-
# One line of tokens stands for all spellings

Texts whose tokens are the same but for their places are spellings of one expression: they differ
in blanks and in the case of letters only (`solid_of_cut`), and evaluating them gives the same value
with the same workings, or the same fault but for its place (`evaluate_alike`).

The line of the tokens, with a space between two, is one of these spellings (`scan_line`): the space
parts two runs, and no token has a space or a large letter in it. So it is what any spelling becomes
when it is read and written, and reading and writing it again changes nothing.

Key definitions: `Text.solid`.
-/
import Calculator.Evaluation
import Calculator.Proofs.Places
import Calculator.Proofs.ScreenText
import Calculator.Proofs.Slices

namespace Calculator

/-! ### Small letters -/

namespace Lexeme

theorem toLower_of_isSymbolChar {c : Char} (h : isSymbolChar c = true) : c.toLower = c := by
  have hall : ∀ c ∈ symbols, c.toLower = c := List.all_iff_forall_prop.mp (by decide)
  exact hall c (List.contains_iff_mem.mp h)

variable {l : Lexeme} {cs : List Char}

/-- The text of a lexeme is its slice in small letters. -/
theorem SpelledBy.text (h : l.SpelledBy cs) : l.text.toList = cs.map Char.toLower := by
  cases h with
  | number _ digits =>
    rw [List.map_congr_left fun c hc => Numeral.toLower_of_isNumberChar (digits c hc), List.map_id']
    exact String.toList_ofList
  | name _ _ => exact String.toList_ofList
  | @symbol c known =>
    rw [List.map_singleton, toLower_of_isSymbolChar known]
    exact String.toList_singleton c

/-- A lexeme that is spelled in any way is spelled by its own text. -/
theorem SpelledBy.own (h : l.SpelledBy cs) : l.SpelledBy l.text.toList := by
  cases h with
  | number some digits =>
    show SpelledBy _ (String.ofList cs).toList
    rw [String.toList_ofList]
    exact .number some digits
  | name some letters =>
    have hsmall : ofLetters cs = ofLetters (cs.map Char.toLower) := by
      rw [ofLetters, ofLetters, List.map_map,
        List.map_congr_left fun c _ => (Char.toLower_toLower_eq_toLower c).symm]
      rfl
    show SpelledBy (ofLetters cs) (String.ofList (cs.map Char.toLower)).toList
    rw [String.toList_ofList, hsmall]
    refine .name (List.map_eq_nil_iff.not.mpr some) fun c hc => ?_
    obtain ⟨d, hd, rfl⟩ := List.mem_map.mp hc
    exact (Char.isAlpha_toLower_eq_isAlpha d).trans (letters d hd)
  | @symbol c known =>
    show SpelledBy _ (String.singleton c).toList
    rw [String.toList_singleton]
    exact .symbol known

end Lexeme

/-- The characters of a text that are no blanks, in small letters. -/
def Text.solid (cs : List Char) : List Char := (cs.filter (!isBlank ·)).map Char.toLower

namespace Token

open Text Lexeme

/-- Of a text the tokens keep all but blanks and the case of letters. -/
theorem solid_of_cut {pos : Nat} {cs : List Char} {ts : List Token} (h : Cut pos cs ts) :
    solid cs = ts.flatMap fun t => t.text.toList := by
  induction h with
  | nil => rfl
  | @blank pos c cs ts hb _ ih =>
    rw [← ih, solid, List.filter_cons, hb]
    rfl
  | @token pos l slice cs ts spelled parted _ ih =>
    have hall : slice.filter (!isBlank ·) = slice :=
      List.filter_eq_self.mpr fun c hc => by rw [spelled.isBlank c hc]; rfl
    rw [List.flatMap_cons, ← ih, solid, List.filter_append, List.map_append, hall, ← spelled.text]
    rfl

/-! ### The line of the tokens -/

theorem toList_line (ts : List Token) :
    (line ts).toList = [' '].intercalate (ts.map fun t => t.text.toList) := by
  rw [line, String.toList_intercalate, List.map_map]
  rfl

/-- A space parts a slice from whatever stands behind it. -/
theorem parted_space (slice cs : List Char) : Parted slice (' ' :: cs) := by
  intro c d _ hd
  obtain rfl := Option.some.inj hd
  rw [sameRun_comm]
  exact sameRun_of_isBlank (by decide) c

/-- Lexemes that are spelled by their own texts are cut out of these texts with spaces between. -/
theorem exists_cut_intercalate : ∀ {ts : List Token} (pos : Nat),
    (∀ t ∈ ts, t.lexeme.SpelledBy t.text.toList) →
    ∃ us, Cut pos ([' '].intercalate (ts.map fun t => t.text.toList)) us ∧ SameLexemes us ts
  | [], pos, _ => ⟨[], .nil pos, rfl⟩
  | [t], pos, h => by
    have hlast : Parted t.text.toList [] := fun c d _ hd => by cases hd
    refine ⟨[⟨t.lexeme, pos⟩], ?_, rfl⟩
    rw [List.map_singleton, List.intercalate_singleton, ← List.append_nil t.text.toList]
    exact .token (h t List.mem_cons_self) hlast (.nil _)
  | t :: u :: ts, pos, h => by
    obtain ⟨ht, hrest⟩ := List.forall_mem_cons.mp h
    obtain ⟨us, hcut, hsame⟩ := exists_cut_intercalate (pos + t.text.toList.length + 1) hrest
    refine ⟨⟨t.lexeme, pos⟩ :: us, ?_, congrArg (t.lexeme :: ·) hsame⟩
    have hspace : Cut (pos + t.text.toList.length)
        (' ' :: [' '].intercalate ((u :: ts).map fun t => t.text.toList)) us :=
      .blank (by decide) hcut
    rw [List.map_cons, List.map_cons, List.intercalate_cons_cons, List.append_assoc]
    exact .token ht (parted_space _ _) hspace

/-- The line of the tokens of a text is read as the same tokens. -/
theorem scan_line {s : String} {ts : List Token} (h : scan s = .ok ts) :
    ∃ us, scan (line ts) = .ok us ∧ SameLexemes us ts := by
  have hown : ∀ t ∈ ts, t.lexeme.SpelledBy t.text.toList := by
    intro t ht
    obtain ⟨slice, hslice⟩ := (scanFrom_eq_ok_iff.mp h).spelled t ht
    exact hslice.own
  obtain ⟨us, hcut, hsame⟩ := exists_cut_intercalate 0 hown
  refine ⟨us, ?_, hsame⟩
  rw [scan, toList_line]
  exact scanFrom_eq_ok_iff.mpr hcut

end Token

/-! ### Spellings of one expression -/

open Token

/-- Evaluating a text depends on its lexemes alone, places in faults apart. -/
theorem evaluate_alike (mode : AngleMode) {s s' : String} {ts ts' : List Token}
    (hs : scan s = .ok ts) (hs' : scan s' = .ok ts') (h : SameLexemes ts ts') :
    Alike Eq (evaluate mode s) (evaluate mode s') := by
  have hline : line ts = line ts' := line_congr h
  rw [evaluate_eq, evaluate_eq, hs, hs']
  refine (Rpn.ofTokens_alike h).bind fun items items' hitems => ?_
  rw [hitems, hline]
  exact .refl _

/-- The line of the tokens of a text is read as the same tokens, and is their line again. Texts with
the same tokens differ in blanks and in the case of letters only, and give the same value and the
same workings, or the same fault but for its place. -/
theorem line_canonical :
    (∀ s ts, scan s = .ok ts →
      ∃ us, scan (line ts) = .ok us ∧ SameLexemes us ts ∧ line us = line ts) ∧
    ∀ s s' ts ts', scan s = .ok ts → scan s' = .ok ts' → SameLexemes ts ts' →
      Text.solid s.toList = Text.solid s'.toList ∧
      ∀ mode, Alike Eq (evaluate mode s) (evaluate mode s') := by
  refine ⟨fun s ts hs => ?_, fun s s' ts ts' hs hs' hsame => ⟨?_, fun mode => ?_⟩⟩
  · obtain ⟨us, hus, hsame⟩ := scan_line hs
    exact ⟨us, hus, hsame, line_congr hsame⟩
  · have htexts : (ts.map lexeme).flatMap (·.text.toList) =
        (ts'.map lexeme).flatMap (·.text.toList) := congrArg _ hsame
    rw [List.flatMap_map, List.flatMap_map] at htexts
    rw [solid_of_cut (scanFrom_eq_ok_iff.mp hs), solid_of_cut (scanFrom_eq_ok_iff.mp hs')]
    exact htexts
  · exact evaluate_alike mode hs hs' hsame

/-- A space keeps two numbers apart in the line too, and how many there are only shows in the place
of the fault. -/
theorem line_canonical_two_numbers :
    let ts : List Token := [⟨.name "pi", 0⟩, ⟨.symbol '*', 2⟩, ⟨.number "1", 3⟩, ⟨.number ".2", 5⟩]
    let ts' : List Token := [⟨.name "pi", 1⟩, ⟨.symbol '*', 4⟩, ⟨.number "1", 5⟩, ⟨.number ".2", 8⟩]
    scan "PI*1 .2" = .ok ts ∧ scan " pi *1  .2" = .ok ts' ∧ SameLexemes ts ts' ∧
    line ts = "pi * 1 .2" ∧
    (∃ us, scan (line ts) = .ok us ∧ SameLexemes us ts ∧ line us = line ts) ∧
    evaluate .degrees "PI*1 .2" = .error (.missingOperator 5) ∧
    Alike Eq (evaluate .degrees "PI*1 .2") (evaluate .degrees " pi *1  .2") := by
  intro ts ts'
  have hs : scan "PI*1 .2" = .ok ts := by decide +kernel
  have hs' : scan " pi *1  .2" = .ok ts' := by decide +kernel
  have hsame : SameLexemes ts ts' := rfl
  have hfault : evaluate .degrees "PI*1 .2" = .error (.missingOperator 5) := by decide +kernel
  obtain ⟨-, halike⟩ := line_canonical.2 _ _ ts ts' hs hs' hsame
  exact ⟨hs, hs', hsame, by decide +kernel, line_canonical.1 _ ts hs, hfault, halike .degrees⟩

end Calculator
