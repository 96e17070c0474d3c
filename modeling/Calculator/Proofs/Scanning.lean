/-
# What the lexer keeps

Reading loses nothing that a later stage counts: a comma of the text is a comma
token and the other way round (`count_comma_of_scan`). A text of digits and
points is read as one number (`scanFrom_number`), and nothing in it is a blank.
A text that is followed by something that no run of it can take in is read as if
it stood alone, and the reading goes on behind it (`scanFrom_append`). What stops
the reading is the first character that is of no class (`scanFrom_error`), and what
stands at the place of a token is its first character (`standsIn_of_scanFrom`).

Key definitions: `Lexeme.isReadable`, `Lexeme.StartsWith`, `Token.StandsIn`.
-/
import Mathlib.Data.Bool.AllAny
import Mathlib.Data.List.TakeWhile
import Calculator.Token.Lexer

namespace Calculator

namespace Lexeme

/-- The character is a blank or belongs to a token. -/
def isReadable (c : Char) : Bool :=
  Text.isBlank c || isNumberChar c || isNameChar c || isSymbolChar c

/-- The lexeme starts with the character, a name with its small letter. -/
def StartsWith (c : Char) : Lexeme → Prop
  | number text => isNumberChar c = true ∧ text.toList.head? = some c
  | name text => isNameChar c = true ∧ text.toList.head? = some c.toLower
  | symbol d => d = c ∧ isSymbolChar d = true

theorem startsWith_number {c : Char} (hc : isNumberChar c = true) (cs : List Char) :
    (number (String.ofList (c :: cs))).StartsWith c := by
  refine ⟨hc, ?_⟩
  rw [String.toList_ofList, List.head?_cons]

theorem startsWith_ofLetters {c : Char} (hc : isNameChar c = true) (cs : List Char) :
    (ofLetters (c :: cs)).StartsWith c := by
  refine ⟨hc, ?_⟩
  rw [String.toList_ofList, List.map_cons, List.head?_cons]

/-! ### The codes of characters -/

theorem isUpper_iff {c : Char} : c.isUpper = true ↔ 65 ≤ c.toNat ∧ c.toNat ≤ 90 :=
  decide_eq_true_iff

theorem isLower_iff {c : Char} : c.isLower = true ↔ 97 ≤ c.toNat ∧ c.toNat ≤ 122 :=
  Bool.and_eq_true_iff.trans (and_congr decide_eq_true_iff decide_eq_true_iff)

theorem toNat_of_isNumberChar {c : Char} (h : isNumberChar c = true) :
    46 ≤ c.toNat ∧ c.toNat ≤ 57 := by
  rw [isNumberChar, Bool.or_eq_true, beq_iff_eq] at h
  rcases h with h | rfl
  · have hdigit : 48 ≤ c.toNat ∧ c.toNat ≤ 57 := Char.isDigit_iff_toNat.mp h
    omega
  · decide

theorem toNat_of_isNameChar {c : Char} (h : isNameChar c = true) :
    65 ≤ c.toNat ∧ c.toNat ≤ 122 := by
  have hletter : c.isUpper = true ∨ c.isLower = true := Bool.or_eq_true_iff.mp h
  rw [isUpper_iff, isLower_iff] at hletter
  omega

end Lexeme

namespace Token

open Text Lexeme

/-- A run of characters of a class without the comma, and what follows it. -/
theorem count_comma_run {p : Char → Bool} (hp : p ',' = false) (cs : List Char) :
    (cs.dropWhile p).count ',' = cs.count ',' := by
  have hz : (cs.takeWhile p).count ',' = 0 := List.count_eq_zero.mpr fun hm => by
    have := List.mem_takeWhile_imp hm
    rw [hp] at this
    cases this
  have h := congrArg (List.count ',') (List.takeWhile_append_dropWhile (p := p) (l := cs))
  rwa [List.count_append, hz, Nat.zero_add] at h

theorem count_comma_of_scanFrom {pos : Nat} {cs : List Char} {ts : List Token}
    (h : scanFrom pos cs = .ok ts) : (ts.map lexeme).count (.symbol ',') = cs.count ',' := by
  fun_induction scanFrom pos cs generalizing ts with
  | case1 => cases h; rfl
  | case2 pos c rest hb ih =>
    have hc : c ≠ ',' := by rintro rfl; revert hb; decide
    rw [List.count_cons_of_ne hc]
    exact ih h
  | case3 pos c rest hb hn run =>
    rename_i ih
    obtain ⟨us, hu, rfl⟩ := map_eq_ok h
    have hc : c ≠ ',' := by rintro rfl; revert hn; decide
    rw [List.count_cons_of_ne hc, ← count_comma_run (p := isNumberChar) (by decide), ← ih hu]
    simp
  | case4 pos c rest hb hn ha run =>
    rename_i ih
    obtain ⟨us, hu, rfl⟩ := map_eq_ok h
    have hc : c ≠ ',' := by rintro rfl; revert ha; decide
    rw [List.count_cons_of_ne hc, ← count_comma_run (p := isNameChar) (by decide), ← ih hu]
    simp [ofLetters]
  | case5 pos c rest hb hn ha hs ih =>
    obtain ⟨us, hu, rfl⟩ := map_eq_ok h
    rw [List.map_cons, List.count_cons, List.count_cons, ih hu]
    simp
  | case6 => cases h

/-- A text has as many commas as its tokens. -/
theorem count_comma_of_scan {s : String} {ts : List Token} (h : scan s = .ok ts) :
    (ts.map lexeme).count (.symbol ',') = s.toList.count ',' := count_comma_of_scanFrom h

/-! ### The front of a text -/

section Front

variable {c : Char} {cs : List Char} {pos : Nat}

theorem scanFrom_blank (hb : isBlank c = true) :
    scanFrom pos (c :: cs) = scanFrom (pos + 1) cs := by
  rw [scanFrom, if_pos hb]

theorem scanFrom_digits (hb : ¬ isBlank c = true) (hn : isNumberChar c = true) :
    scanFrom pos (c :: cs) =
      (scanFrom (pos + 1 + (cs.takeWhile isNumberChar).length) (cs.dropWhile isNumberChar)).map
        (⟨.number (String.ofList (c :: cs.takeWhile isNumberChar)), pos⟩ :: ·) := by
  rw [scanFrom, if_neg hb, if_pos hn]

theorem scanFrom_letters (hb : ¬ isBlank c = true) (hn : ¬ isNumberChar c = true)
    (ha : isNameChar c = true) :
    scanFrom pos (c :: cs) =
      (scanFrom (pos + 1 + (cs.takeWhile isNameChar).length) (cs.dropWhile isNameChar)).map
        (⟨ofLetters (c :: cs.takeWhile isNameChar), pos⟩ :: ·) := by
  rw [scanFrom, if_neg hb, if_neg hn, if_pos ha]

/-- A symbol is of no other class. -/
theorem class_of_isSymbolChar (hs : isSymbolChar c = true) :
    isBlank c = false ∧ isNumberChar c = false ∧ isNameChar c = false := by
  -- Through the list: a bounded statement alone may be decided over all characters there are.
  have hall : ∀ c ∈ symbols, isBlank c = false ∧ isNumberChar c = false ∧ isNameChar c = false :=
    List.all_iff_forall_prop.mp (by decide)
  exact hall c (List.contains_iff_mem.mp hs)

theorem scanFrom_symbol (hs : isSymbolChar c = true) :
    scanFrom pos (c :: cs) = (scanFrom (pos + 1) cs).map (⟨.symbol c, pos⟩ :: ·) := by
  obtain ⟨hb, hn, ha⟩ := class_of_isSymbolChar hs
  rw [scanFrom, hb, hn, ha, hs]
  rfl

theorem scanFrom_foreign (hb : ¬ isBlank c = true) (hn : ¬ isNumberChar c = true)
    (ha : ¬ isNameChar c = true) (hs : ¬ isSymbolChar c = true) :
    scanFrom pos (c :: cs) = .error (.unexpectedChar pos c) := by
  rw [scanFrom, if_neg hb, if_neg hn, if_neg ha, if_neg hs]

end Front

/-! ### A text and what follows it -/

/-- A run of characters ends where what follows does not start with one of its class. -/
theorem span_append {p : Char → Bool} {rest : List Char}
    (h : ∀ c, rest.head? = some c → p c = false) (cs : List Char) :
    (cs ++ rest).takeWhile p = cs.takeWhile p ∧
      (cs ++ rest).dropWhile p = cs.dropWhile p ++ rest := by
  have hstop : rest.takeWhile p = [] ∧ rest.dropWhile p = rest := by
    cases rest with
    | nil => exact ⟨rfl, rfl⟩
    | cons c r => simp [h c rfl]
  induction cs with
  | nil => exact hstop
  | cons c cs ih =>
    by_cases hc : p c = true
    · simp [hc, ih]
    · simp [hc]

/-- The place behind a run of characters. -/
theorem place_behind_run (p : Char → Bool) (pos : Nat) (c : Char) (cs : List Char) :
    pos + 1 + (cs.takeWhile p).length + (cs.dropWhile p).length = pos + (c :: cs).length := by
  have h := congrArg List.length (List.takeWhile_append_dropWhile (p := p) (l := cs))
  rw [List.length_append] at h
  rw [List.length_cons]
  omega

theorem map_cons_map_append (t : Token) (us : List Token) (x : Except Fault (List Token)) :
    (x.map (us ++ ·)).map (t :: ·) = x.map ((t :: us) ++ ·) := by
  cases x <;> rfl

theorem map_nil_append (x : Except Fault (List Token)) : x.map ([] ++ ·) = x := by
  cases x <;> rfl

/-- What follows a text is read behind it, if it starts no longer run. -/
theorem scanFrom_append {cs rest : List Char} {pos : Nat} {ts : List Token}
    (h : scanFrom pos cs = .ok ts)
    (hrest : ∀ c, rest.head? = some c → isNumberChar c = false ∧ isNameChar c = false) :
    scanFrom pos (cs ++ rest) = (scanFrom (pos + cs.length) rest).map (ts ++ ·) := by
  have hnumber : ∀ c, rest.head? = some c → isNumberChar c = false := fun c hc => (hrest c hc).1
  have hname : ∀ c, rest.head? = some c → isNameChar c = false := fun c hc => (hrest c hc).2
  fun_induction scanFrom pos cs generalizing ts with
  | case1 pos =>
    cases h
    exact (map_nil_append _).symm
  | case2 pos c cs hb ih =>
    rw [List.cons_append, scanFrom_blank hb, ih h, List.length_cons, Nat.add_right_comm]
    rfl
  | case3 pos c cs hb hn run =>
    rename_i ih
    obtain ⟨us, hu, rfl⟩ := map_eq_ok h
    obtain ⟨ht, hd⟩ := span_append hnumber cs
    rw [List.cons_append, scanFrom_digits hb hn, ht, hd, ih hu,
      place_behind_run isNumberChar pos c cs]
    exact map_cons_map_append _ us _
  | case4 pos c cs hb hn ha run =>
    rename_i ih
    obtain ⟨us, hu, rfl⟩ := map_eq_ok h
    obtain ⟨ht, hd⟩ := span_append hname cs
    rw [List.cons_append, scanFrom_letters hb hn ha, ht, hd, ih hu,
      place_behind_run isNameChar pos c cs]
    exact map_cons_map_append _ us _
  | case5 pos c cs hb hn ha hs ih =>
    obtain ⟨us, hu, rfl⟩ := map_eq_ok h
    rw [List.cons_append, scanFrom_symbol hs, ih hu, List.length_cons, Nat.add_right_comm]
    exact map_cons_map_append _ us _
  | case6 => cases h

/-! ### What stands at a place -/

theorem isReadable_of_isNumberChar {c : Char} (h : isNumberChar c = true) :
    isReadable c = true := by
  simp [isReadable, h]

theorem isReadable_of_isNameChar {c : Char} (h : isNameChar c = true) : isReadable c = true := by
  simp [isReadable, h]

theorem isReadable_of_isSymbolChar {c : Char} (h : isSymbolChar c = true) :
    isReadable c = true := by
  simp [isReadable, h]

/-- A character with the run behind it, in front of what follows them. -/
theorem cons_run_append (p : Char → Bool) (c : Char) (cs : List Char) :
    c :: cs = (c :: cs.takeWhile p) ++ cs.dropWhile p := by
  rw [List.cons_append, List.takeWhile_append_dropWhile]

/-- The fault names the first character of a text that is not readable; the text starts at the
place `pos`. -/
def StoppedBy (pos : Nat) (cs : List Char) (f : Fault) : Prop :=
  ∃ front c rest, cs = front ++ c :: rest ∧ (∀ d ∈ front, isReadable d = true) ∧
    isReadable c = false ∧ f = .unexpectedChar (pos + front.length) c

theorem StoppedBy.behind {cs : List Char} {pos : Nat} {f : Fault} (front : List Char)
    (hfront : ∀ d ∈ front, isReadable d = true) (h : StoppedBy (pos + front.length) cs f) :
    StoppedBy pos (front ++ cs) f := by
  obtain ⟨more, c, rest, rfl, hmore, hc, rfl⟩ := h
  refine ⟨front ++ more, c, rest, (List.append_assoc ..).symm, ?_, hc, ?_⟩
  · exact List.forall_mem_append.mpr ⟨hfront, hmore⟩
  · rw [List.length_append, Nat.add_assoc]

theorem StoppedBy.behind_run {p : Char → Bool} (hp : ∀ d, p d = true → isReadable d = true)
    {c : Char} (hc : isReadable c = true) {cs : List Char} {pos : Nat} {f : Fault}
    (h : StoppedBy (pos + 1 + (cs.takeWhile p).length) (cs.dropWhile p) f) :
    StoppedBy pos (c :: cs) f := by
  rw [cons_run_append p c cs]
  refine .behind _ (List.forall_mem_cons.mpr ⟨hc, fun d hd => hp d (List.mem_takeWhile_imp hd)⟩) ?_
  rwa [List.length_cons, Nat.add_comm _ 1, ← Nat.add_assoc]

/-- Reading stops at the first character that is not readable. -/
theorem scanFrom_error {pos : Nat} {cs : List Char} {f : Fault} (h : scanFrom pos cs = .error f) :
    StoppedBy pos cs f := by
  fun_induction scanFrom pos cs with
  | case1 => cases h
  | case2 pos c cs hb ih =>
    have hc : isReadable c = true := by simp [isReadable, hb]
    exact .behind [c] (by simpa using hc) (ih h)
  | case3 pos c cs hb hn run =>
    rename_i ih
    exact .behind_run (fun d => isReadable_of_isNumberChar) (isReadable_of_isNumberChar hn)
      (ih (map_eq_error h))
  | case4 pos c cs hb hn ha run =>
    rename_i ih
    exact .behind_run (fun d => isReadable_of_isNameChar) (isReadable_of_isNameChar ha)
      (ih (map_eq_error h))
  | case5 pos c cs hb hn ha hs ih =>
    have hc : isReadable c = true := isReadable_of_isSymbolChar hs
    exact .behind [c] (by simpa using hc) (ih (map_eq_error h))
  | case6 pos c cs hb hn ha hs =>
    cases h
    refine ⟨[], c, cs, rfl, by simp, ?_, rfl⟩
    simp [isReadable, hb, hn, ha, hs]

/-- At the token's place stands its first character; the text starts at the place `pos`. -/
def StandsIn (t : Token) (pos : Nat) (cs : List Char) : Prop :=
  ∃ front c rest, cs = front ++ c :: rest ∧ t.position = pos + front.length ∧
    t.lexeme.StartsWith c

theorem StandsIn.behind {t : Token} {cs : List Char} {pos : Nat} (front : List Char)
    (h : t.StandsIn (pos + front.length) cs) : t.StandsIn pos (front ++ cs) := by
  obtain ⟨more, c, rest, rfl, hplace, hc⟩ := h
  refine ⟨front ++ more, c, rest, (List.append_assoc ..).symm, ?_, hc⟩
  rw [hplace, List.length_append, Nat.add_assoc]

theorem StandsIn.behind_run {t : Token} (p : Char → Bool) {c : Char} {cs : List Char} {pos : Nat}
    (h : t.StandsIn (pos + 1 + (cs.takeWhile p).length) (cs.dropWhile p)) :
    t.StandsIn pos (c :: cs) := by
  rw [cons_run_append p c cs]
  refine .behind _ ?_
  rwa [List.length_cons, Nat.add_comm _ 1, ← Nat.add_assoc]

theorem standsIn_cons {l : Lexeme} {c : Char} (h : l.StartsWith c) (pos : Nat) (cs : List Char) :
    StandsIn ⟨l, pos⟩ pos (c :: cs) := ⟨[], c, cs, rfl, rfl, h⟩

/-- Every token stands at its place. -/
theorem standsIn_of_scanFrom {pos : Nat} {cs : List Char} {ts : List Token}
    (h : scanFrom pos cs = .ok ts) : ∀ t ∈ ts, t.StandsIn pos cs := by
  fun_induction scanFrom pos cs generalizing ts with
  | case1 =>
    cases h
    simp
  | case2 pos c cs hb ih => exact fun t ht => .behind [c] (ih h t ht)
  | case3 pos c cs hb hn run =>
    rename_i ih
    obtain ⟨us, hu, rfl⟩ := map_eq_ok h
    exact List.forall_mem_cons.mpr ⟨standsIn_cons (startsWith_number hn run) pos cs,
      fun t ht => .behind_run isNumberChar (ih hu t ht)⟩
  | case4 pos c cs hb hn ha run =>
    rename_i ih
    obtain ⟨us, hu, rfl⟩ := map_eq_ok h
    exact List.forall_mem_cons.mpr ⟨standsIn_cons (startsWith_ofLetters ha run) pos cs,
      fun t ht => .behind_run isNameChar (ih hu t ht)⟩
  | case5 pos c cs hb hn ha hs ih =>
    obtain ⟨us, hu, rfl⟩ := map_eq_ok h
    have hfirst : (Lexeme.symbol c).StartsWith c := ⟨rfl, hs⟩
    exact List.forall_mem_cons.mpr ⟨standsIn_cons hfirst pos cs,
      fun t ht => .behind [c] (ih hu t ht)⟩
  | case6 => cases h

/-! ### Numbers and names -/

theorem isBlank_of_toNat {c : Char} (hl : 32 < c.toNat) (hu : c.toNat < 133) :
    isBlank c = false := by
  simp only [isBlank, blankRanges, List.any_cons, List.any_nil, Bool.or_false,
    Bool.or_eq_false_iff, Bool.and_eq_false_imp, decide_eq_true_eq, decide_eq_false_iff_not]
  omega

theorem isBlank_of_isNumberChar {c : Char} (h : isNumberChar c = true) : isBlank c = false := by
  obtain ⟨hl, hu⟩ := toNat_of_isNumberChar h
  exact isBlank_of_toNat (by omega) (by omega)

theorem isBlank_of_isNameChar {c : Char} (h : isNameChar c = true) : isBlank c = false := by
  obtain ⟨hl, hu⟩ := toNat_of_isNameChar h
  exact isBlank_of_toNat (by omega) (by omega)

/-- A blank is of no other class. -/
theorem class_of_isBlank {c : Char} (h : isBlank c = true) :
    isNumberChar c = false ∧ isNameChar c = false := by
  refine ⟨Bool.eq_false_iff.mpr fun hn => ?_, Bool.eq_false_iff.mpr fun ha => ?_⟩
  · rw [isBlank_of_isNumberChar hn] at h
    cases h
  · rw [isBlank_of_isNameChar ha] at h
    cases h

/-- Digits and points alone are one number. -/
theorem scanFrom_number (pos : Nat) {cs : List Char} (hne : cs ≠ [])
    (hcs : ∀ c ∈ cs, isNumberChar c = true) :
    scanFrom pos cs = .ok [⟨.number (String.ofList cs), pos⟩] := by
  cases cs with
  | nil => exact absurd rfl hne
  | cons c rest =>
    have hc := hcs c List.mem_cons_self
    have hrest : ∀ c ∈ rest, isNumberChar c = true := fun c hm => hcs c (List.mem_cons_of_mem _ hm)
    have hd : rest.dropWhile isNumberChar = [] := List.dropWhile_eq_nil_iff.mpr hrest
    have ht : rest.takeWhile isNumberChar = rest := List.takeWhile_eq_self_iff.mpr hrest
    have hnil : ∀ p, scanFrom p [] = .ok [] := fun p => by rw [scanFrom]
    rw [scanFrom, isBlank_of_isNumberChar hc]
    simp only [Bool.false_eq_true, ite_false, hc, ite_true, hd, ht, hnil]
    rfl

end Token

end Calculator
