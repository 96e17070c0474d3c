/-
# Where a fault points

A fault with a place is about one character of the text that was evaluated: a
foreign character, or the first one of the token that the ordering refuses, which
is of the kind that its cause says (`pointsInto_of_evaluate`).

A session evaluates its entry without the blanks around it, and the entry stays
on the screen with them. Blanks in front move all places (`evaluate_trim`), so
the place in a message is one in the entry if and only if no blank stands in front
of it (`Session.place_of_fault`).

Key definitions: `Fault.IsAbout`, `Fault.PointsInto`, `Text.leadingBlanks`.
-/
import Mathlib.Data.List.DropRight
import Calculator.Proofs.Stages
import Calculator.Session

namespace Calculator

open Lexeme

/-! ### What a fault is about -/

namespace Fault

/-- The characters that a fault with a place can be about. -/
def IsAbout (c : Char) : Fault → Prop
  | unexpectedChar _ d => c = d ∧ isReadable c = false
  | missingOperator _ => isNumberChar c = true ∨ isNameChar c = true ∨ c = '('
  | missingOperand _ => c = ')' ∨ c = ','
  | strayComma _ => c = ','
  | _ => False

/-- At the place of a fault stands a character that it can be about, which is the first one of a
token unless it belongs to none. -/
def PointsInto (f : Fault) (s : String) : Prop :=
  ∃ p c, f.position? = some p ∧ s.toList[p]? = some c ∧ f.IsAbout c ∧
    (f.stage = .syntactic → ∃ ts, Token.scan s = .ok ts ∧ ∃ t ∈ ts, t.position = p)

end Fault

/-! ### Tokens that the ordering refuses -/

namespace Rpn

/-- The fault is about the token: it names its place, and what the token starts with. -/
def Refuses (f : Fault) (t : Token) : Prop :=
  f.position? = some t.position ∧ ∀ c, t.lexeme.StartsWith c → f.IsAbout c

theorem refuses_of_refuses? {b : Before} {t : Token} {f : Fault} (h : b.refuses? t = some f)
    (hplace : f.position? ≠ none) : Refuses f t := by
  obtain ⟨l, p⟩ := t
  unfold Before.refuses? at h
  split at h
  all_goals cases h
  case h_2 => exact absurd rfl hplace
  case h_3 hl =>
    cases hl
    exact ⟨rfl, fun c hc => .inl hc.1⟩
  case h_4 hl =>
    cases hl
    exact ⟨rfl, fun c hc => .inr (.inl hc.1)⟩
  case h_5 hl =>
    cases hl
    exact ⟨rfl, fun c hc => .inr (.inr hc.1.symm)⟩
  case h_6 hl | h_7 hl | h_8 hl =>
    cases hl
    exact ⟨rfl, fun c hc => .inl hc.1.symm⟩
  case h_9 hl | h_10 hl | h_11 hl | h_12 hl =>
    cases hl
    exact ⟨rfl, fun c hc => .inr hc.1.symm⟩

/-- A step that fails with a place is about its token, if that is no unknown symbol. -/
theorem refuses_of_step {s : State} {t : Token} {f : Fault} (h : step s t = .error f)
    (hknown : t.Known) (hplace : f.position? ≠ none) : Refuses f t := by
  have hstage : f.stage = .syntactic := (step_error h).resolve_right (not_not_intro hknown)
  unfold step at h
  split at h
  next refusal hr =>
    cases h
    exact refuses_of_refuses? hr hplace
  next =>
    split at h
    next text _ =>
      cases hx : Numeral.read? text <;> rw [hx] at h <;> cases h
      exact absurd rfl hplace
    next name _ =>
      split at h <;> cases h
      exact absurd rfl hplace
    next => cases h
    next =>
      split at h <;> cases h
      exact absurd rfl hplace
    next ht =>
      split at h <;> cases h
      refine ⟨rfl, fun c hc => ?_⟩
      rw [ht] at hc
      exact hc.1.symm
    next =>
      split at h <;> cases h
      cases hstage

/-- So a run that fails with a place is about one of its tokens. -/
theorem refuses_of_run : ∀ {ts : List Token} {s : State} {f : Fault}, run s ts = .error f →
    (∀ t ∈ ts, t.Known) → f.position? ≠ none → ∃ t ∈ ts, Refuses f t
  | [], s, f, h, _, _ => by cases h
  | t :: ts, s, f, h, hknown, hplace => by
    obtain ⟨ht, hts⟩ := List.forall_mem_cons.mp hknown
    rw [run_cons] at h
    rcases bind_eq_error h with hstep | ⟨r, -, hlater⟩
    · exact ⟨t, List.mem_cons_self, refuses_of_step hstep ht hplace⟩
    · obtain ⟨u, hu, hrefuses⟩ := refuses_of_run (map_eq_error hlater) hts hplace
      exact ⟨u, List.mem_cons_of_mem _ hu, hrefuses⟩

theorem refuses_of_ofTokens {ts : List Token} {f : Fault} (h : ofTokens ts = .error f)
    (hknown : ∀ t ∈ ts, t.Known) (hplace : f.position? ≠ none) : ∃ t ∈ ts, Refuses f t := by
  by_cases hts : ts = []
  · subst hts
    cases h
    exact absurd rfl hplace
  · rw [ofTokens_eq_itemsFrom hts, itemsFrom] at h
    rcases bind_eq_error h with hrun | ⟨r, -, hlater⟩
    · exact refuses_of_run hrun hknown hplace
    · exact absurd (position?_of_finish_error (map_eq_error hlater)) hplace

end Rpn

/-! ### Texts -/

theorem Fault.position?_of_arithmetic {f : Fault} (h : f.stage = .arithmetic) :
    f.position? = none := by
  cases f with
  | tooFewOperands _ | factorialDomain | leftover _ => rfl
  | _ => cases h

theorem getElem?_middle {cs front rest : List Char} {c : Char} (h : cs = front ++ c :: rest) :
    cs[front.length]? = some c := by
  rw [h, List.getElem?_append_right (Nat.le_refl _), Nat.sub_self, List.getElem?_cons_zero]

/-- A fault with a place points at what it is about in the text that was evaluated. -/
theorem pointsInto_of_evaluate {mode : AngleMode} {s : String} {f : Fault}
    (h : evaluate mode s = .error f) (hplace : f.position? ≠ none) : f.PointsInto s := by
  rw [evaluate_eq] at h
  rcases bind_eq_error h with hscan | ⟨ts, hscan, h⟩
  · obtain ⟨front, c, rest, hs, -, hc, rfl⟩ := Token.scanFrom_error hscan
    rw [Nat.zero_add]
    exact ⟨front.length, c, rfl, getElem?_middle hs, ⟨rfl, hc⟩, nofun⟩
  rcases bind_eq_error h with hitems | ⟨items, -, h⟩
  · obtain ⟨t, ht, hposition, habout⟩ :=
      Rpn.refuses_of_ofTokens hitems (Token.known_of_scan hscan) hplace
    obtain ⟨front, c, rest, hs, hstands, hfirst⟩ := Token.standsIn_of_scanFrom hscan t ht
    have hchar : s.toList[t.position]? = some c := by
      rw [hstands, Nat.zero_add]
      exact getElem?_middle hs
    exact ⟨t.position, c, hposition, hchar, habout c hfirst, fun _ => ⟨ts, hscan, t, ht, rfl⟩⟩
  rcases bind_eq_error h with heval | ⟨x, -, h⟩
  · exact absurd (Fault.position?_of_arithmetic (Rpn.stage_of_eval_error heval)) hplace
  · cases h

/-! ### Blanks around a text -/

/-- How many blanks stand in front of a text. -/
def Text.leadingBlanks (s : String) : Nat := (s.toList.takeWhile isBlank).length

namespace Token

open Text

/-- Blanks in front of a text are skipped. -/
theorem scanFrom_blanks_append {bs : List Char} (hbs : ∀ b ∈ bs, isBlank b = true) (pos : Nat)
    (cs : List Char) : scanFrom pos (bs ++ cs) = scanFrom (pos + bs.length) cs := by
  induction bs generalizing pos with
  | nil => rfl
  | cons b bs ih =>
    obtain ⟨hb, hbs⟩ := List.forall_mem_cons.mp hbs
    rw [List.cons_append, scanFrom_blank hb, ih hbs, List.length_cons, Nat.add_assoc,
      Nat.add_comm 1]

/-- Blanks behind a text are not seen. -/
theorem scanFrom_append_blanks {bs : List Char} (hbs : ∀ b ∈ bs, isBlank b = true) (pos : Nat)
    (cs : List Char) : scanFrom pos (cs ++ bs) = scanFrom pos cs := by
  have hclass : ∀ c, bs.head? = some c → isNumberChar c = false ∧ isNameChar c = false :=
    fun c hc => class_of_isBlank (hbs c (List.mem_of_head? hc))
  have hnumber : ∀ c, bs.head? = some c → isNumberChar c = false := fun c hc => (hclass c hc).1
  have hname : ∀ c, bs.head? = some c → isNameChar c = false := fun c hc => (hclass c hc).2
  fun_induction scanFrom pos cs with
  | case1 pos =>
    rw [← List.append_nil ([] ++ bs), List.nil_append, scanFrom_blanks_append hbs, scanFrom]
  | case2 pos c cs hb ih => rw [List.cons_append, scanFrom_blank hb, ih]
  | case3 pos c cs hb hn run =>
    rename_i ih
    obtain ⟨ht, hd⟩ := span_append hnumber cs
    rw [List.cons_append, scanFrom_digits hb hn, ht, hd, ih]
  | case4 pos c cs hb hn ha run =>
    rename_i ih
    obtain ⟨ht, hd⟩ := span_append hname cs
    rw [List.cons_append, scanFrom_letters hb hn ha, ht, hd, ih]
  | case5 pos c cs hb hn ha hs ih => rw [List.cons_append, scanFrom_symbol hs, ih]
  | case6 pos c cs hb hn ha hs => rw [List.cons_append, scanFrom_foreign hb hn ha hs]

/-- A text is what is left of it without blanks, with blanks around it. -/
theorem exists_blanks_around (s : String) :
    ∃ front back, s.toList = front ++ (trimChars s.toList ++ back) ∧
      front.length = leadingBlanks s ∧ (∀ b ∈ front, isBlank b = true) ∧
      ∀ b ∈ back, isBlank b = true := by
  refine ⟨s.toList.takeWhile isBlank, (s.toList.dropWhile isBlank).rtakeWhile isBlank, ?_, rfl,
    fun b hb => List.mem_takeWhile_imp hb, fun b hb => List.mem_rtakeWhile_imp hb⟩
  have hback : trimChars s.toList ++ (s.toList.dropWhile isBlank).rtakeWhile isBlank =
      s.toList.dropWhile isBlank := List.rdropWhile_append_rtakeWhile
  rw [hback, List.takeWhile_append_dropWhile]

/-- Blanks around a text move its tokens. -/
theorem scan_trim (s : String) :
    scan s = relocate (leadingBlanks s + ·) (scan (trim s)) := by
  obtain ⟨front, back, hs, hlength, hfront, hback⟩ := exists_blanks_around s
  have hsame : scan (trim s) = scanFrom 0 (trimChars s.toList) := by
    rw [scan, trim, String.toList_ofList]
  calc scan s = scanFrom 0 (front ++ (trimChars s.toList ++ back)) := by rw [scan, ← hs]
    _ = scanFrom (leadingBlanks s) (trimChars s.toList ++ back) := by
      rw [scanFrom_blanks_append hfront, hlength, Nat.zero_add]
    _ = scanFrom (leadingBlanks s + 0) (trimChars s.toList) := scanFrom_append_blanks hback _ _
    _ = relocate (leadingBlanks s + ·) (scan (trim s)) := by rw [scanFrom_add, hsame]

end Token

/-- Blanks around a text move the places of its faults and change nothing else. -/
theorem evaluate_trim (mode : AngleMode) (s : String) :
    evaluate mode s =
      (evaluate mode (Text.trim s)).mapError (Fault.mapPosition (Text.leadingBlanks s + ·)) := by
  rw [evaluate_eq, evaluate_eq, Token.scan_trim]
  cases Token.scan (Text.trim s) with
  | error f => rfl
  | ok ts =>
    have hitems := Rpn.ofTokens_mapPosition (Text.leadingBlanks s + ·) ts
    have hline := Token.line_congr (Token.sameLexemes_mapPosition (Text.leadingBlanks s + ·) ts)
    simp only [Token.relocate, Except.map, Except.mapError, bind, Except.bind, hitems, hline]
    cases Rpn.ofTokens ts with
    | error f => rfl
    | ok items =>
      simp only
      cases hvalue : Rpn.eval mode items with
      | ok x => rfl
      | error f =>
        have hnone := Fault.position?_of_arithmetic (Rpn.stage_of_eval_error hvalue)
        exact congrArg Except.error (Fault.mapPosition_of_position? hnone _).symm

namespace Session

/-- A fault with a place is about a character of the entry, which stands as far behind that place as
there are blanks in front of the entry: it is evaluated without them and kept with them. So the
place is one in the entry if and only if no blank stands in front of it. -/
theorem place_of_fault {s : Session} {fault : Fault}
    (hfault : Calculator.evaluate s.mode s.expression = .error fault)
    (hplace : fault.position? ≠ none) :
    let blanks := Text.leadingBlanks s.entry
    let moved := fault.mapPosition (blanks + ·)
    s.evaluate.entry = s.entry ∧ s.evaluate.message = fault.message ∧
    Calculator.evaluate s.mode s.entry = .error moved ∧ moved.PointsInto s.entry ∧
    (Calculator.evaluate s.mode s.entry = .error fault ↔ blanks = 0) ∧
    (blanks = 0 → fault.PointsInto s.entry) := by
  intro blanks moved
  have hentry : Calculator.evaluate s.mode s.entry = .error moved := by
    rw [evaluate_trim, ← expression, hfault]
    rfl
  have hkept : s.evaluate.entry = s.entry ∧ s.evaluate.message = fault.message := by
    unfold Session.evaluate
    rw [hfault]
    exact ⟨rfl, rfl⟩
  obtain ⟨p, hp⟩ := Option.ne_none_iff_exists'.mp hplace
  have hposition : moved.position? = some (blanks + p) := by
    rw [Fault.position?_mapPosition, hp]
    rfl
  have hpoints : moved.PointsInto s.entry :=
    pointsInto_of_evaluate hentry (by rw [hposition]; exact Option.some_ne_none _)
  have hsame : blanks = 0 → moved = fault := by
    intro h
    have hid : (blanks + ·) = id := funext fun n => by rw [h, Nat.zero_add, id]
    show fault.mapPosition (blanks + ·) = fault
    rw [hid, Fault.mapPosition_id]
  refine ⟨hkept.1, hkept.2, hentry, hpoints, ⟨fun h => ?_, fun h => ?_⟩, fun h => ?_⟩
  · have hmoved : moved = fault := Except.error.inj (hentry.symm.trans h)
    rw [hmoved, hp, Option.some.injEq] at hposition
    omega
  · rw [hentry, hsame h]
  · rw [← hsame h]
    exact hpoints

/-- Behind a blank the message names the place of another character. -/
theorem place_of_fault_blank :
    let s := Session.fresh.insert " 2$"
    Calculator.evaluate s.mode s.expression = .error (.unexpectedChar 1 '$') ∧
    s.evaluate.entry = " 2$" ∧
    s.evaluate.message = "caractère inattendu '$' en position 1" ∧
    (Fault.unexpectedChar 2 '$').PointsInto s.evaluate.entry ∧
    ¬ (Fault.unexpectedChar 1 '$').PointsInto s.evaluate.entry := by
  intro s
  have hfault : Calculator.evaluate s.mode s.expression = .error (.unexpectedChar 1 '$') := by
    decide +kernel
  have hblanks : Text.leadingBlanks s.entry = 1 := by decide +kernel
  obtain ⟨hkept, hmessage, -, hpoints, -⟩ := place_of_fault hfault nofun
  rw [hblanks] at hpoints
  refine ⟨hfault, hkept, hmessage, hkept ▸ hpoints, ?_⟩
  rintro ⟨p, c, hp, hc, ⟨rfl, -⟩, -⟩
  cases hp
  have htwo : s.evaluate.entry.toList[1]? = some '2' := by
    rw [hkept]
    decide +kernel
  rw [htwo] at hc
  exact absurd hc (by decide)

end Session

end Calculator
