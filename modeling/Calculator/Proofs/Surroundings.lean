/-
# What a text shows where its syntax fails

Three faults of the syntax have a place: an operator is missing, an operand is missing, or a comma
stands outside parentheses. Each can be seen in the text without ordering it: in the character at
the place, and in what stands before it (`Fault.ShownBy`). For the ordering knows no more of the
tokens before than the kind of the last one, which its last character tells (`Cut.lastSolid?`), and
how many parentheses are open (`Runs.depth`).

Such a fault is final. The tokens in front of the place end there, so they are the same in every
text that goes on differently, and the token at the place is refused for its kind, which its first
character decides (`step_error_of_startsWith`).

Key definitions: `Text.lastSolid?`, `Text.Balanced`, `Fault.ShownBy`, `Rpn.RefusedFor`.
-/
import Calculator.Proofs.Conservation
import Calculator.Proofs.Derivation
import Calculator.Proofs.Pointing
import Calculator.Proofs.Slices

namespace Calculator

open Lexeme

/-! ### What a text shows -/

namespace Text

/-- The last character that is no blank. -/
def lastSolid? (cs : List Char) : Option Char := cs.reverse.find? fun c => !isBlank c

/-- As many parentheses are closed as opened, and never more of them on the way. -/
structure Balanced (cs : List Char) : Prop where
  whole : cs.count ')' = cs.count '('
  front : ∀ n, (cs.take n).count ')' ≤ (cs.take n).count '('

end Text

namespace Lexeme

/-- An operand can start with the character. -/
def BeginsOperand (c : Char) : Prop := isNumberChar c = true ∨ isNameChar c = true ∨ c = '('

/-- An operand can end with the character. -/
def EndsOperand (c : Char) : Prop :=
  isNumberChar c = true ∨ isNameChar c = true ∨ c = ')' ∨ c = '!'

/-- Behind the character an operand has to come. -/
def AsksForOperand (c : Char) : Prop := c ∈ ['(', ',', '+', '-', '*', '/', '^']

end Lexeme

/-- What the text has at the place of a fault of the syntax and before it. -/
def Fault.ShownBy (s : String) : Fault → Prop
  | missingOperator p => ∃ c d, s.toList[p]? = some c ∧ BeginsOperand c ∧
      Text.lastSolid? (s.toList.take p) = some d ∧ EndsOperand d
  | missingOperand p => ∃ c, s.toList[p]? = some c ∧
      ((c = ')' ∨ c = ',') ∧ (∃ d, Text.lastSolid? (s.toList.take p) = some d ∧ AsksForOperand d) ∨
        c = ',' ∧ Text.lastSolid? (s.toList.take p) = none)
  | strayComma p => s.toList[p]? = some ',' ∧ Text.Balanced (s.toList.take p)
  | _ => False

/-! ### Texts cut in two -/

namespace Token

open Text

theorem Parted.left {xs ys zs : List Char} (h : Parted xs (ys ++ zs)) : Parted xs ys := by
  intro c d hc hd
  refine h c d hc ?_
  rw [List.head?_append, hd]
  rfl

theorem Parted.right {xs ys zs : List Char} (h : Parted (xs ++ ys) zs) : Parted ys zs := by
  intro c d hc hd
  refine h c d ?_ hd
  rw [List.getLast?_append, hc]
  rfl

/-- A border behind two parts is one behind the second, or behind the first if that is empty. -/
theorem Parted.behind {xs ys zs : List Char} (h : Parted ys zs) (hnil : ys = [] → Parted xs zs) :
    Parted (xs ++ ys) zs := by
  rcases List.eq_nil_or_concat ys with rfl | ⟨init, c, rfl⟩
  · rw [List.append_nil]
    exact hnil rfl
  · intro d e hd he
    refine h d e ?_ he
    rw [← hd, List.concat_eq_append, ← List.append_assoc, List.getLast?_concat,
      List.getLast?_concat]

theorem Parted.before {xs ys zs : List Char} (h : Parted xs ys) (hnil : ys = [] → Parted xs zs) :
    Parted xs (ys ++ zs) := by
  cases ys with
  | nil => exact hnil rfl
  | cons c ys => exact h

/-- In front of a token ends the text of the tokens before it. -/
theorem Cut.split {pos : Nat} {cs : List Char} {ts : List Token} (h : Cut pos cs ts) :
    ∀ {us : List Token} {t : Token} {vs : List Token}, ts = us ++ t :: vs →
      ∃ front slice back, cs = front ++ (slice ++ back) ∧ Cut pos front us ∧
        t.position = pos + front.length ∧ t.lexeme.SpelledBy slice ∧ Parted front slice := by
  induction h with
  | nil pos => intro us t vs hts; simp at hts
  | @blank pos c cs ts hb rest ih =>
    intro us t vs hts
    obtain ⟨front, slice, back, rfl, hcut, hplace, spelled, parted⟩ := ih hts
    refine ⟨c :: front, slice, back, rfl, .blank hb hcut, ?_, spelled, ?_⟩
    · rw [hplace, List.length_cons]
      omega
    · show Parted ([c] ++ front) slice
      refine parted.behind fun _ d e hd _ => ?_
      obtain rfl := Option.some.inj hd
      exact sameRun_of_isBlank hb e
  | @token pos l slice₀ cs ts spelled₀ parted₀ rest ih =>
    intro us t vs hts
    cases us with
    | nil =>
      obtain ⟨rfl, rfl⟩ := List.cons.inj hts
      exact ⟨[], slice₀, cs, rfl, .nil pos, rfl, spelled₀, nofun⟩
    | cons u us =>
      obtain ⟨rfl, hrest⟩ := List.cons.inj hts
      obtain ⟨front, slice, back, rfl, hcut, hplace, spelled, parted⟩ := ih hrest
      refine ⟨slice₀ ++ front, slice, back, (List.append_assoc ..).symm,
        .token spelled₀ parted₀.left hcut, ?_, spelled, parted.behind ?_⟩
      · rw [hplace, List.length_append, Nat.add_assoc]
      · rintro rfl
        exact @Parted.left _ slice _ parted₀

/-- Texts that part are cut one after the other. -/
theorem Cut.append {pos : Nat} {front back : List Char} {us vs : List Token} (h : Cut pos front us)
    (h' : Cut (pos + front.length) back vs) (parted : Parted front back) :
    Cut pos (front ++ back) (us ++ vs) := by
  induction h with
  | nil pos => exact h'
  | @blank pos c cs ts hb rest ih =>
    rw [List.length_cons, Nat.add_comm cs.length, ← Nat.add_assoc] at h'
    exact .blank hb (ih h' (@Parted.right [c] _ _ parted))
  | @token pos l slice cs ts spelled parted₀ rest ih =>
    rw [List.length_append, ← Nat.add_assoc] at h'
    rw [List.append_assoc]
    refine .token spelled (parted₀.before ?_) (ih h' parted.right)
    rintro rfl
    rwa [List.append_nil] at parted

/-- A text of readable characters can be cut. -/
theorem exists_cut (pos : Nat) {cs : List Char} (h : ∀ c ∈ cs, isReadable c = true) :
    ∃ ts, Cut pos cs ts := by
  cases hscan : scanFrom pos cs with
  | ok ts => exact ⟨ts, cut_of_scanFrom hscan⟩
  | error f =>
    obtain ⟨front, c, back, rfl, -, hc, -⟩ := scanFrom_error hscan
    rw [h c (List.mem_append_right _ List.mem_cons_self)] at hc
    cases hc

theorem Cut.unique {pos : Nat} {cs : List Char} {ts us : List Token} (h : Cut pos cs ts)
    (h' : Cut pos cs us) : ts = us :=
  Except.ok.inj (h.scanFrom.symm.trans h'.scanFrom)

theorem startsWith_of_spelledBy {l : Lexeme} {c : Char} {cs : List Char}
    (h : l.SpelledBy (c :: cs)) : l.StartsWith c := by
  cases h with
  | number _ digits => exact startsWith_number (digits c List.mem_cons_self) cs
  | name _ letters => exact startsWith_ofLetters (letters c List.mem_cons_self) cs
  | symbol known => exact ⟨rfl, known⟩

/-- Lexemes that start with one character are two numbers, two names, or the same symbol. -/
theorem kind_of_startsWith {l l' : Lexeme} {c : Char} (h : l.StartsWith c) (h' : l'.StartsWith c) :
    (∃ a b, l = .number a ∧ l' = .number b) ∨ (∃ a b, l = .name a ∧ l' = .name b) ∨ l = l' := by
  have hnumber : isNumberChar c = true → isNameChar c = true → False := fun hn ha => by
    rw [isNameChar_of_isNumberChar hn] at ha
    cases ha
  have hsymbol : isSymbolChar c = true → isNumberChar c = false ∧ isNameChar c = false := fun hs =>
    (class_of_isSymbolChar hs).2
  cases l with
  | number a =>
    cases l' with
    | number b => exact .inl ⟨a, b, rfl, rfl⟩
    | name b => exact (hnumber h.1 h'.1).elim
    | symbol d =>
      obtain ⟨rfl, hd⟩ := h'
      exact absurd h.1 (by rw [(hsymbol hd).1]; exact Bool.false_ne_true)
  | name a =>
    cases l' with
    | number b => exact (hnumber h'.1 h.1).elim
    | name b => exact .inr (.inl ⟨a, b, rfl, rfl⟩)
    | symbol d =>
      obtain ⟨rfl, hd⟩ := h'
      exact absurd h.1 (by rw [(hsymbol hd).2]; exact Bool.false_ne_true)
  | symbol d =>
    obtain ⟨rfl, hd⟩ := h
    cases l' with
    | number b => exact absurd h'.1 (by rw [(hsymbol hd).1]; exact Bool.false_ne_true)
    | name b => exact absurd h'.1 (by rw [(hsymbol hd).2]; exact Bool.false_ne_true)
    | symbol e => exact .inr (.inr (congrArg Lexeme.symbol h'.1.symm))

/-- A text that does not start with a blank starts with a token. -/
theorem Cut.exists_first {pos : Nat} {c : Char} {cs : List Char} {ts : List Token}
    (h : Cut pos (c :: cs) ts) (hb : isBlank c = false) :
    ∃ t us, ts = t :: us ∧ t.position = pos ∧ t.lexeme.StartsWith c := by
  generalize hchars : c :: cs = chars at h
  cases h with
  | nil => cases hchars
  | blank hblank =>
    obtain ⟨rfl, -⟩ := List.cons.inj hchars
    rw [hb] at hblank
    cases hblank
  | @token _ l slice _ ts spelled _ _ =>
    obtain ⟨d, run, rfl⟩ := List.exists_cons_of_ne_nil spelled.ne_nil
    obtain ⟨rfl, -⟩ := List.cons.inj hchars
    exact ⟨_, ts, rfl, rfl, startsWith_of_spelledBy spelled⟩

/-- A text that is the same up to the first character of a token, and can be read at all, has the
same tokens before, and at that place one that starts with the same character. -/
theorem exists_same_front {s s' : String} {ts us vs : List Token} {t : Token} {p : Nat}
    (hscan : scan s = .ok ts) (hts : ts = us ++ t :: vs) (hp : t.position = p)
    (hsame : s.toList.take (p + 1) <+: s'.toList) (hscan' : (scan s').isOk = true) :
    ∃ c t' ws, s.toList[p]? = some c ∧ scan s' = .ok (us ++ t' :: ws) ∧ t'.position = p ∧
      t'.lexeme.StartsWith c := by
  obtain ⟨front, slice, back, hchars, hfront, hplace, spelled, parted⟩ :=
    (cut_of_scanFrom hscan).split hts
  obtain ⟨c, run, rfl⟩ := List.exists_cons_of_ne_nil spelled.ne_nil
  rw [hp, Nat.zero_add] at hplace
  subst hplace
  have hchar : s.toList[front.length]? = some c := by
    rw [hchars]
    exact getElem?_middle rfl
  have htake : s.toList.take (front.length + 1) = front ++ [c] := by
    rw [hchars, List.take_length_add_append]
    rfl
  rw [htake] at hsame
  obtain ⟨more, hmore⟩ := hsame
  rw [List.append_assoc, List.singleton_append] at hmore
  obtain ⟨ts', hts'⟩ : ∃ ts', scan s' = .ok ts' := by
    cases hx : scan s' with
    | ok ts' => exact ⟨ts', rfl⟩
    | error f => rw [hx] at hscan'; cases hscan'
  have hcut : Cut 0 (front ++ c :: more) ts' := by
    rw [hmore]
    exact cut_of_scanFrom hts'
  have hreadable : ∀ d ∈ c :: more, isReadable d = true := fun d hd =>
    hcut.isReadable d (List.mem_append_right _ hd)
  obtain ⟨ws, hws⟩ := exists_cut (0 + front.length) hreadable
  have hparted : Parted front (c :: more) := fun d e hd he => parted d e hd he
  obtain rfl := hcut.unique (hfront.append hws hparted)
  obtain ⟨t', ws, rfl, hplace', hfirst⟩ :=
    hws.exists_first (spelled.isBlank c List.mem_cons_self)
  rw [Nat.zero_add] at hplace'
  exact ⟨c, t', ws, hchar, hts', hplace', hfirst⟩

/-! ### What the text of tokens ends with, and its parentheses -/

theorem lastSolid?_append (xs ys : List Char) :
    lastSolid? (xs ++ ys) = (lastSolid? ys).or (lastSolid? xs) := by
  rw [lastSolid?, List.reverse_append, List.find?_append]
  rfl

theorem lastSolid?_of_solid {cs : List Char} (h : ∀ c ∈ cs, isBlank c = false) :
    lastSolid? cs = cs.getLast? := by
  rw [lastSolid?, ← List.head?_reverse]
  cases hr : cs.reverse with
  | nil => rfl
  | cons c rest =>
    have hc : isBlank c = false := h c (List.mem_reverse.mp (hr ▸ List.mem_cons_self))
    rw [List.find?_cons_of_pos (by rw [hc]; rfl), List.head?_cons]

/-- The last character of a text that is no blank is the last one of its last token. -/
theorem Cut.lastSolid? {pos : Nat} {cs : List Char} {ts : List Token} (h : Cut pos cs ts) :
    (ts = [] ∧ Text.lastSolid? cs = none) ∨ ∃ t slice c, ts.getLast? = some t ∧
      t.lexeme.SpelledBy slice ∧ slice.getLast? = some c ∧ Text.lastSolid? cs = some c := by
  induction h with
  | nil => exact .inl ⟨rfl, rfl⟩
  | @blank pos c cs ts hb rest ih =>
    have hskip : Text.lastSolid? (c :: cs) = Text.lastSolid? cs := by
      have hc : Text.lastSolid? [c] = none := List.find?_eq_none.mpr fun d hd => by
        obtain rfl := List.mem_singleton.mp hd
        simp [hb]
      rw [← List.singleton_append, lastSolid?_append, hc, Option.or_none]
    rw [hskip]
    exact ih
  | @token pos l slice cs ts spelled parted rest ih =>
    right
    have hslice := lastSolid?_of_solid spelled.isBlank
    have hlast := List.getLast?_eq_some_getLast spelled.ne_nil
    rw [lastSolid?_append]
    rcases ih with ⟨rfl, hnone⟩ | ⟨t, slice', c, ht, spelled', hc, hsome⟩
    · refine ⟨⟨l, pos⟩, slice, _, rfl, spelled, hlast, ?_⟩
      rw [hnone, Option.none_or, hslice, hlast]
    · refine ⟨t, slice', c, ?_, spelled', hc, ?_⟩
      · rw [List.getLast?_cons, ht]
        rfl
      · rw [hsome, Option.some_or]

/-- A slice has a symbol in it only if it spells that symbol. -/
theorem count_of_spelledBy {l : Lexeme} {slice : List Char} (h : l.SpelledBy slice) {c : Char}
    (hc : isSymbolChar c = true) : slice.count c = [l].count (.symbol c) := by
  obtain ⟨-, hnumber, hname⟩ := class_of_isSymbolChar hc
  cases h with
  | number _ digits =>
    refine (List.count_eq_zero.mpr fun hmem => ?_).trans rfl
    rw [digits c hmem] at hnumber
    cases hnumber
  | name _ letters =>
    refine (List.count_eq_zero.mpr fun hmem => ?_).trans rfl
    rw [letters c hmem] at hname
    cases hname
  | @symbol d _ => by_cases hd : d = c <;> simp [hd]

/-- A slice that is cut short has no symbol in it, for a symbol is one character. -/
theorem count_take_of_spelledBy {l : Lexeme} {slice : List Char} (h : l.SpelledBy slice)
    {n : Nat} (hn : n < slice.length) {c : Char} (hc : isSymbolChar c = true) :
    (slice.take n).count c = 0 := by
  have hle := (List.take_sublist n slice).count_le c
  rw [count_of_spelledBy h hc] at hle
  cases h with
  | number _ _ | name _ _ => exact Nat.le_zero.mp hle
  | symbol _ =>
    rw [List.length_singleton, Nat.lt_one_iff] at hn
    rw [hn]
    rfl

/-- Each front part of a text has the symbols of a front part of its tokens. -/
theorem Cut.exists_front {pos : Nat} {cs : List Char} {ts : List Token} (h : Cut pos cs ts) :
    ∀ n, ∃ us vs, ts = us ++ vs ∧ ∀ c, isSymbolChar c = true →
      (cs.take n).count c = (us.map lexeme).count (.symbol c) := by
  induction h with
  | nil => exact fun n => ⟨[], [], rfl, fun c _ => by rw [List.take_nil]; rfl⟩
  | @blank pos c cs ts hb rest ih =>
    intro n
    cases n with
    | zero => exact ⟨[], ts, rfl, fun d _ => rfl⟩
    | succ n =>
      obtain ⟨us, vs, hts, hcount⟩ := ih n
      refine ⟨us, vs, hts, fun d hd => ?_⟩
      have hne : c ≠ d := by
        rintro rfl
        rw [(class_of_isSymbolChar hd).1] at hb
        cases hb
      rw [List.take_succ_cons, List.count_cons_of_ne hne, hcount d hd]
  | @token pos l slice cs ts spelled parted rest ih =>
    intro n
    by_cases hn : n < slice.length
    · refine ⟨[], ⟨l, pos⟩ :: ts, rfl, fun d hd => ?_⟩
      rw [List.take_append_of_le_length (Nat.le_of_lt hn), count_take_of_spelledBy spelled hn hd]
      rfl
    · obtain ⟨us, vs, rfl, hcount⟩ := ih (n - slice.length)
      refine ⟨⟨l, pos⟩ :: us, vs, rfl, fun d hd => ?_⟩
      calc ((slice ++ cs).take n).count d
          = slice.count d + (cs.take (n - slice.length)).count d := by
            rw [List.take_append, List.take_of_length_le (Nat.le_of_not_lt hn), List.count_append]
        _ = [l].count (.symbol d) + (us.map lexeme).count (.symbol d) := by
            rw [count_of_spelledBy spelled hd, hcount d hd]
        _ = ((⟨l, pos⟩ :: us).map lexeme).count (.symbol d) := List.count_append.symm

/-- A text has the symbols of its tokens. -/
theorem Cut.count_symbol {pos : Nat} {cs : List Char} {ts : List Token} (h : Cut pos cs ts)
    {c : Char} (hc : isSymbolChar c = true) : cs.count c = (ts.map lexeme).count (.symbol c) := by
  induction h with
  | nil => rfl
  | @blank pos d cs ts hb rest ih =>
    have hne : d ≠ c := by
      rintro rfl
      rw [(class_of_isSymbolChar hc).1] at hb
      cases hb
    rw [List.count_cons_of_ne hne, ih]
  | token spelled _ _ ih =>
    rw [List.count_append, count_of_spelledBy spelled hc, ih]
    exact List.count_append.symm

end Token

/-! ### Why a token is refused -/

namespace Rpn

/-- A run that fails does so at one token, up to which it succeeds. -/
theorem run_eq_error_iff {s : State} {ts : List Token} {f : Fault} :
    run s ts = .error f ↔ ∃ us t vs out s', ts = us ++ t :: vs ∧ run s us = .ok (out, s') ∧
      step s' t = .error f := by
  constructor
  · induction ts generalizing s with
    | nil =>
      intro h
      cases h
    | cons t ts ih =>
      intro h
      rw [run_cons] at h
      rcases bind_eq_error h with hfail | ⟨r, hstep, hlater⟩
      · exact ⟨[], t, ts, [], s, rfl, rfl, hfail⟩
      · obtain ⟨us, u, vs, out, s', rfl, hrun, hfail⟩ := ih (map_eq_error hlater)
        refine ⟨t :: us, u, vs, r.1 ++ out, s', rfl, ?_, hfail⟩
        rw [run_cons, hstep]
        show (run r.2 us).map _ = _
        rw [hrun]
        rfl
  · rintro ⟨us, t, vs, out, s', rfl, hrun, hfail⟩
    rw [run_append, hrun]
    simp only
    rw [run_cons, hfail]
    rfl

/-- A fault of the first pass over the tokens is the fault of them all. -/
theorem ofTokens_of_run_error {ts : List Token} {f : Fault} (h : run .initial ts = .error f) :
    ofTokens ts = .error f := by
  have hts : ts ≠ [] := by
    rintro rfl
    cases h
  rw [ofTokens_eq_itemsFrom hts, itemsFrom, h]
  rfl

/-- A fault with a place comes from the pass over the tokens. -/
theorem run_error_of_ofTokens {ts : List Token} {f : Fault} (h : ofTokens ts = .error f)
    (hplace : f.position? ≠ none) : run .initial ts = .error f := by
  by_cases hts : ts = []
  · subst hts
    cases h
    exact absurd rfl hplace
  · rw [ofTokens_eq_itemsFrom hts, itemsFrom] at h
    rcases bind_eq_error h with hrun | ⟨r, -, hlater⟩
    · exact hrun
    · exact absurd (position?_of_finish_error (map_eq_error hlater)) hplace

/-- The reasons to refuse a token that come with its place. -/
inductive RefusedFor (s : State) (t : Token) : Fault → Prop
  | operator (behind : s.before = .value)
    (kind : ∀ c, t.lexeme.StartsWith c → BeginsOperand c) :
    RefusedFor s t (.missingOperator t.position)
  | operand (behind : s.before.awaitsOperand = true)
    (kind : t.lexeme = .symbol ',' ∨ t.lexeme = .symbol ')' ∧ s.before ≠ .start) :
    RefusedFor s t (.missingOperand t.position)
  | comma (outside : s.depth = 0) (kind : t.lexeme = .symbol ',') :
    RefusedFor s t (.strayComma t.position)

theorem refusedFor_of_refuses? {s : State} {t : Token} {f : Fault}
    (h : s.before.refuses? t = some f) (hplace : f.position? ≠ none) : RefusedFor s t f := by
  obtain ⟨ws, b⟩ := s
  change b.refuses? t = some f at h
  unfold Before.refuses? at h
  split at h
  all_goals cases h
  case h_2 => exact absurd rfl hplace
  case h_3 hl =>
    refine .operator rfl fun c hc => ?_
    rw [hl] at hc
    exact .inl hc.1
  case h_4 hl =>
    refine .operator rfl fun c hc => ?_
    rw [hl] at hc
    exact .inr (.inl hc.1)
  case h_5 hl =>
    refine .operator rfl fun c hc => ?_
    rw [hl] at hc
    exact .inr (.inr hc.1.symm)
  case h_6 hl | h_7 hl | h_8 hl => exact .operand rfl (.inr ⟨hl, nofun⟩)
  case h_9 hl | h_10 hl | h_11 hl | h_12 hl => exact .operand rfl (.inl hl)

/-- No parenthesis is open if none is found. -/
theorem depth_of_fromParen {s : State} (h : s.fromParen = []) : s.depth = 0 := by
  rw [depth_eq_count_fromParen, h]
  rfl

theorem refusedFor_of_step {s : State} {t : Token} {f : Fault} (h : step s t = .error f)
    (hknown : t.Known) (hplace : f.position? ≠ none) : RefusedFor s t f := by
  have hstage : f.stage = .syntactic := (step_error h).resolve_right (not_not_intro hknown)
  unfold step at h
  split at h
  next refusal hr =>
    cases h
    exact refusedFor_of_refuses? hr hplace
  next =>
    split at h
    next text _ =>
      cases hx : Numeral.read? text <;> rw [hx] at h <;> cases h
      exact absurd rfl hplace
    next name _ =>
      split at h <;> cases h
      exact absurd rfl hplace
    next => cases h
    next =>
      split at h <;> cases h
      exact absurd rfl hplace
    next ht =>
      split at h
      next hparen =>
        cases h
        exact .comma (depth_of_fromParen hparen) ht
      next => cases h
    next =>
      split at h <;> cases h
      cases hstage

theorem RefusedFor.eq_missingOperator {s : State} {t : Token} {f : Fault} (h : RefusedFor s t f)
    (hsymbol : ∀ c, t.lexeme ≠ .symbol c) :
    s.before = .value ∧ f = .missingOperator t.position := by
  cases h with
  | operator behind _ => exact ⟨behind, rfl⟩
  | operand _ kind => rcases kind with hl | ⟨hl, -⟩ <;> exact absurd hl (hsymbol _)
  | comma _ hl => exact absurd hl (hsymbol _)

theorem step_of_refuses? {s : State} {t : Token} {f : Fault} (h : s.before.refuses? t = some f) :
    step s t = .error f := by
  rw [step, h]

/-- What a token is refused for, with its place, is decided by its first character. -/
theorem step_error_of_startsWith {s : State} {t t' : Token} {f : Fault} {c : Char}
    (h : step s t = .error f) (hrefused : RefusedFor s t f) (hc : t.lexeme.StartsWith c)
    (hc' : t'.lexeme.StartsWith c) (hposition : t'.position = t.position) :
    step s t' = .error f := by
  obtain ⟨l, p⟩ := t
  obtain ⟨l', p'⟩ := t'
  obtain rfl : p' = p := hposition
  rcases Token.kind_of_startsWith hc hc' with ⟨a, b, rfl, rfl⟩ | ⟨a, b, rfl, rfl⟩ | rfl
  · obtain ⟨behind, rfl⟩ := hrefused.eq_missingOperator nofun
    exact step_of_refuses? (by rw [behind]; rfl)
  · obtain ⟨behind, rfl⟩ := hrefused.eq_missingOperator nofun
    exact step_of_refuses? (by rw [behind]; rfl)
  · exact h

/-! ### What the state knows of the tokens before -/

/-- A state is the one from the start, or the last move led to it. -/
theorem Runs.last {s s' : State} {ls : List Lexeme} {out : List Item} (h : Runs s ls out s') :
    (ls = [] ∧ s' = s) ∨ ∃ l s₀ sent, ls.getLast? = some l ∧ Moves s₀ l sent s' := by
  rcases List.eq_nil_or_concat ls with rfl | ⟨front, l, rfl⟩
  · cases h
    exact .inl ⟨rfl, rfl⟩
  · rw [List.concat_eq_append] at h ⊢
    obtain ⟨s₁, sent, last, -, move⟩ := h.split_last
    exact .inr ⟨l, s₁, last, List.getLast?_concat, move⟩

/-- A move opens or closes the parenthesis that it reads, and no other. -/
theorem Moves.depth {s s' : State} {l : Lexeme} {out : List Item} (h : Moves s l out s') :
    s'.depth + [l].count (.symbol ')') = s.depth + [l].count (.symbol '(') := by
  cases h with
  | @literal l x value awaits =>
    cases l with
    | number _ | name _ => rfl
    | symbol _ => cases value
  | function _ => simp [State.depth]
  | opening _ => simp [State.depth]
  | closing _ waiting inner =>
    rw [depth_of_waiting waiting inner]
    simp [State.depth, depth_takeCall]
  | comma _ waiting inner =>
    rw [depth_of_waiting waiting inner]
    simp [State.depth]
  | @operator c op sign before =>
    obtain ⟨hopen, hclose, -⟩ := ne_of_operatorAt? sign
    rw [depth_pushOperator]
    simp [hopen, hclose]

theorem Runs.depth {s s' : State} {ls : List Lexeme} {out : List Item} (h : Runs s ls out s') :
    s'.depth + ls.count (.symbol ')') = s.depth + ls.count (.symbol '(') := by
  induction h with
  | nil => rfl
  | @cons s s' s'' l ls out later first rest ih =>
    have hfirst := first.depth
    have hcount : ∀ m : Lexeme, (l :: ls).count m = [l].count m + ls.count m := fun m => by
      rw [← List.count_append, List.singleton_append]
    rw [hcount, hcount]
    omega

end Rpn

/-! ### Faults and texts -/

theorem endsOperand_of_completes {l : Lexeme} {slice : List Char} {c : Char}
    (spelled : l.SpelledBy slice) (hl : l.completes = true) (hc : slice.getLast? = some c) :
    EndsOperand c := by
  have hmem := List.mem_of_getLast? hc
  cases spelled with
  | number _ digits => exact .inl (digits c hmem)
  | name _ letters => exact .inr (.inl (letters c hmem))
  | symbol _ =>
    obtain rfl := List.mem_singleton.mp hmem
    rw [completes, Bool.or_eq_true, beq_iff_eq, beq_iff_eq] at hl
    exact .inr (.inr hl)

theorem asksForOperand_of_opens {l : Lexeme} {slice : List Char} {c : Char}
    (spelled : l.SpelledBy slice) (hl : l.opens = true) (hc : slice.getLast? = some c) :
    AsksForOperand c := by
  cases spelled with
  | number _ _ | name _ _ => cases hl
  | symbol _ =>
    obtain rfl := List.mem_singleton.mp (List.mem_of_getLast? hc)
    simpa [AsksForOperand, opens] using hl

section Refusal

open Rpn Token

variable {s : String} {front back : List Char} {c : Char} {us : List Token} {out : List Item}
  {state : State}

/-- The last token of the front tells what the state knows of it; without one nothing was read. -/
theorem lastSolid?_of_run (hcut : Cut 0 front us) (hrun : run .initial us = .ok (out, state)) :
    (Text.lastSolid? front = none ∧ state.before = .start) ∨ ∃ d, Text.lastSolid? front = some d ∧
      (state.before = .value → EndsOperand d) ∧
      (state.before.awaitsOperand = true → AsksForOperand d) := by
  rcases hcut.lastSolid? with ⟨rfl, hnone⟩ | ⟨u, slice, d, hu, spelled, hd, hsome⟩
  · cases hrun
    exact .inl ⟨hnone, rfl⟩
  · rcases (runs_of_run hrun).last with ⟨hnil, -⟩ | ⟨l, s₀, sent, hl, move⟩
    · rw [List.map_eq_nil_iff.mp hnil] at hu
      cases hu
    · rw [List.getLast?_map, hu] at hl
      obtain rfl := Option.some.inj hl
      refine .inr ⟨d, hsome, fun hvalue => ?_, fun hawaits => ?_⟩
      · refine endsOperand_of_completes spelled ?_ hd
        rcases move.agrees with hagrees | ⟨f, hf⟩
        · rw [hvalue] at hagrees
          simpa [Before.awaitsOperand] using hagrees
        · rw [hvalue] at hf
          cases hf
      · rw [move.awaits] at hawaits
        exact asksForOperand_of_opens spelled hawaits hd

/-- Where no parenthesis is open the text before has closed all of its own, each behind its opening.
-/
theorem balanced_of_run (hcut : Cut 0 front us) (hrun : run .initial us = .ok (out, state))
    (hdepth : state.depth = 0) : Text.Balanced front := by
  have hopen : isSymbolChar '(' = true := by decide
  have hclose : isSymbolChar ')' = true := by decide
  have hstart : State.initial.depth = 0 := rfl
  have hruns := runs_of_run hrun
  constructor
  · have hcount := hruns.depth
    rw [hcut.count_symbol hopen, hcut.count_symbol hclose]
    omega
  · intro n
    obtain ⟨vs, ws, rfl, hcount⟩ := hcut.exists_front n
    rw [List.map_append] at hruns
    obtain ⟨s₁, sent, later, hfront, -, -⟩ := hruns.split
    have hdepth₁ := hfront.depth
    rw [hcount _ hopen, hcount _ hclose]
    omega

/-- The text shows for what the token behind its front is refused. -/
theorem shownBy_of_refusedFor {t : Token} {f : Fault} (hchars : s.toList = front ++ c :: back)
    (hcut : Cut 0 front us) (hrun : run .initial us = .ok (out, state))
    (hplace : t.position = front.length) (hc : t.lexeme.StartsWith c)
    (hrefused : RefusedFor state t f) : f.ShownBy s := by
  have hchar : s.toList[t.position]? = some c := by
    rw [hplace]
    exact getElem?_middle hchars
  have hfront : s.toList.take t.position = front := by
    rw [hplace, hchars, List.take_left]
  have hlast := lastSolid?_of_run hcut hrun
  cases hrefused with
  | operator behind kind =>
    obtain ⟨-, hstart⟩ | ⟨d, hd, hends, -⟩ := hlast
    · rw [behind] at hstart
      cases hstart
    · exact ⟨c, d, hchar, kind c hc, hfront ▸ hd, hends behind⟩
  | operand behind kind =>
    refine ⟨c, hchar, ?_⟩
    rw [hfront]
    rcases kind with hl | ⟨hl, hmoved⟩
    · rw [hl] at hc
      obtain rfl := hc.1
      rcases hlast with ⟨hnone, -⟩ | ⟨d, hd, -, hasks⟩
      · exact .inr ⟨rfl, hnone⟩
      · exact .inl ⟨.inr rfl, d, hd, hasks behind⟩
    · rw [hl] at hc
      obtain rfl := hc.1
      rcases hlast with ⟨-, hstart⟩ | ⟨d, hd, -, hasks⟩
      · exact absurd hstart hmoved
      · exact .inl ⟨.inl rfl, d, hd, hasks behind⟩
  | comma outside hl =>
    rw [hl] at hc
    obtain rfl := hc.1
    exact ⟨hchar, hfront ▸ balanced_of_run hcut hrun outside⟩

end Refusal

/-- A fault of the syntax comes from the ordering. -/
theorem ofTokens_of_calculate {mode : AngleMode} {s : String} {f : Fault}
    (h : calculate mode s = .error f) (hstage : f.stage = .syntactic) :
    ∃ ts, Token.scan s = .ok ts ∧ Rpn.ofTokens ts = .error f := by
  rw [calculate_eq] at h
  rcases bind_eq_error h with hscan | ⟨ts, hscan, h⟩
  · rw [Token.stage_of_scanFrom_error hscan] at hstage
    cases hstage
  rcases bind_eq_error h with hitems | ⟨items, -, heval⟩
  · exact ⟨ts, hscan, hitems⟩
  · rw [Rpn.stage_of_eval_error heval] at hstage
    cases hstage

/-- A fault of the syntax that has a place is shown by the text there and before, and a token starts
with the character at that place. Every text that is the same up to this character, and can be read
into tokens, fails for the same reason at the same place, whatever comes behind. -/
theorem syntax_fault_shown {mode : AngleMode} {s : String} {f : Fault} {p : Nat}
    (h : calculate mode s = .error f) (hstage : f.stage = .syntactic) (hp : f.position? = some p) :
    f.ShownBy s ∧
    (∃ ts t c, Token.scan s = .ok ts ∧ t ∈ ts ∧ t.position = p ∧ s.toList[p]? = some c ∧
      t.lexeme.StartsWith c) ∧
    ∀ (mode' : AngleMode) (s' : String), s.toList.take (p + 1) <+: s'.toList →
      (Token.scan s').isOk = true → calculate mode' s' = .error f := by
  have hplace : f.position? ≠ none := by
    rw [hp]
    exact Option.some_ne_none p
  obtain ⟨ts, hscan, hitems⟩ := ofTokens_of_calculate h hstage
  obtain ⟨us, t, vs, out, state, rfl, hrun, hfail⟩ :=
    Rpn.run_eq_error_iff.mp (Rpn.run_error_of_ofTokens hitems hplace)
  have ht : t ∈ us ++ t :: vs := List.mem_append_right _ List.mem_cons_self
  have hrefused := Rpn.refusedFor_of_step hfail (Token.known_of_scan hscan t ht) hplace
  obtain rfl : t.position = p := by
    cases hrefused <;> exact Option.some.inj hp
  obtain ⟨front, slice, back, hchars, hcut, hposition, spelled, -⟩ :=
    (Token.cut_of_scanFrom hscan).split rfl
  obtain ⟨c, run, rfl⟩ := List.exists_cons_of_ne_nil spelled.ne_nil
  rw [Nat.zero_add] at hposition
  have hstarts := Token.startsWith_of_spelledBy spelled
  have hchar : s.toList[t.position]? = some c := by
    rw [hposition]
    exact getElem?_middle hchars
  refine ⟨shownBy_of_refusedFor hchars hcut hrun hposition hstarts hrefused,
    ⟨_, t, c, hscan, ht, rfl, hchar, hstarts⟩, fun mode' s' hsame hscan' => ?_⟩
  obtain ⟨d, t', ws, hd, hscan', hposition', hstarts'⟩ :=
    Token.exists_same_front hscan rfl rfl hsame hscan'
  obtain rfl : c = d := Option.some.inj (hchar.symm.trans hd)
  have hfail' := Rpn.step_error_of_startsWith hfail hrefused hstarts hstarts' hposition'
  have hrun' := Rpn.run_eq_error_iff.mpr ⟨us, t', ws, out, state, rfl, hrun, hfail'⟩
  rw [calculate_eq, hscan']
  show (Rpn.ofTokens (us ++ t' :: ws)).bind _ = _
  rw [Rpn.ofTokens_of_run_error hrun']
  rfl

/-- Behind a factorial the constant is refused, and so is any other name that starts there, whatever
is wrong with the text behind it. -/
theorem syntax_fault_shown_constant :
    calculate .degrees "(1 + 2)! pi" = .error (.missingOperator 9) ∧
    (Fault.missingOperator 9).ShownBy "(1 + 2)! pi" ∧
    (∃ ts t c, Token.scan "(1 + 2)! pi" = .ok ts ∧ t ∈ ts ∧ t.position = 9 ∧
      "(1 + 2)! pi".toList[9]? = some c ∧ t.lexeme.StartsWith c) ∧
    calculate .radians "(1 + 2)! pq),,1.2.3" = .error (.missingOperator 9) := by
  have h : calculate .degrees "(1 + 2)! pi" = .error (.missingOperator 9) := by decide +kernel
  obtain ⟨hshown, htoken, hfinal⟩ := syntax_fault_shown h rfl rfl
  exact ⟨h, hshown, htoken, hfinal .radians "(1 + 2)! pq),,1.2.3" (by decide +kernel)
    (by decide +kernel)⟩

end Calculator
