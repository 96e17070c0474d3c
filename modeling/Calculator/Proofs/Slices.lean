/-
# Tokens are slices of their text

A text is cut from the left into blanks and slices. A slice spells a lexeme: digits and points a
number, letters a name, and one of the nine symbols itself; and no run of digits and points or of
letters goes on across its ends. That is all the lexer does (`Token.scanFrom_eq_ok_iff`), whatever
order its tests have.

The same is said of the tokens alone, without going through the text: each of them fits where it
stands, none overlaps another, and the characters that they cover are those that are no blanks. A
text has at most one list of such tokens, and has one unless there is a character in it that belongs
to none (`Token.scan_spec`).

Key definitions: `Lexeme.SpelledBy`, `Token.Parted`, `Token.Cut`, `Token.Tokenizes`.
-/
import Calculator.Proofs.Scanning

namespace Calculator

namespace Lexeme

/-- The characters spell the lexeme. -/
inductive SpelledBy : Lexeme → List Char → Prop
  | number {cs : List Char} (some : cs ≠ []) (digits : ∀ c ∈ cs, isNumberChar c = true) :
    SpelledBy (.number (String.ofList cs)) cs
  | name {cs : List Char} (some : cs ≠ []) (letters : ∀ c ∈ cs, isNameChar c = true) :
    SpelledBy (ofLetters cs) cs
  | symbol {c : Char} (known : isSymbolChar c = true) : SpelledBy (.symbol c) [c]

/-- Two characters side by side belong to one run. -/
def sameRun (c d : Char) : Bool :=
  (isNumberChar c && isNumberChar d) || (isNameChar c && isNameChar d)

variable {l : Lexeme} {cs : List Char}

theorem SpelledBy.ne_nil (h : l.SpelledBy cs) : cs ≠ [] := by
  cases h with
  | number some _ => exact some
  | name some _ => exact some
  | symbol _ => exact List.cons_ne_nil _ _

/-- A name has small letters for its letters, so it is as long as its slice. -/
theorem SpelledBy.length (h : l.SpelledBy cs) : l.text.length = cs.length := by
  cases h with
  | number _ _ => exact String.length_ofList
  | name _ _ =>
    show (String.ofList (cs.map Char.toLower)).length = cs.length
    rw [String.length_ofList, List.length_map]
  | symbol _ => exact String.length_singleton

theorem SpelledBy.isReadable (h : l.SpelledBy cs) : ∀ c ∈ cs, isReadable c = true := by
  intro c hc
  cases h with
  | number _ digits => exact Token.isReadable_of_isNumberChar (digits c hc)
  | name _ letters => exact Token.isReadable_of_isNameChar (letters c hc)
  | symbol known =>
    obtain rfl := List.mem_singleton.mp hc
    exact Token.isReadable_of_isSymbolChar known

theorem SpelledBy.isBlank (h : l.SpelledBy cs) : ∀ c ∈ cs, Text.isBlank c = false := by
  intro c hc
  cases h with
  | number _ digits => exact Token.isBlank_of_isNumberChar (digits c hc)
  | name _ letters => exact Token.isBlank_of_isNameChar (letters c hc)
  | symbol known =>
    obtain rfl := List.mem_singleton.mp hc
    exact (Token.class_of_isSymbolChar known).1

end Lexeme

namespace Token

open Text Lexeme

/-! ### Borders -/

/-- No run goes on across the border of two parts of a text. -/
def Parted (xs ys : List Char) : Prop :=
  ∀ c d, xs.getLast? = some c → ys.head? = some d → sameRun c d = false

theorem sameRun_of_isBlank {c : Char} (h : isBlank c = true) (d : Char) : sameRun c d = false := by
  obtain ⟨hnumber, hname⟩ := class_of_isBlank h
  simp [sameRun, hnumber, hname]

theorem sameRun_of_isSymbolChar {c : Char} (h : isSymbolChar c = true) (d : Char) :
    sameRun c d = false := by
  obtain ⟨-, hnumber, hname⟩ := class_of_isSymbolChar h
  simp [sameRun, hnumber, hname]

theorem sameRun_comm (c d : Char) : sameRun c d = sameRun d c := by
  simp only [sameRun, Bool.and_comm]

/-- A digit or a point is no letter. -/
theorem isNameChar_of_isNumberChar {c : Char} (h : isNumberChar c = true) :
    isNameChar c = false := by
  rw [Bool.eq_false_iff]
  intro hname
  have hdigit := toNat_of_isNumberChar h
  have hletter := toNat_of_isNameChar hname
  omega

theorem sameRun_of_isNumberChar {c : Char} (h : isNumberChar c = true) (d : Char) :
    sameRun c d = isNumberChar d := by
  simp [sameRun, h, isNameChar_of_isNumberChar h]

theorem sameRun_of_isNameChar {c : Char} (h : isNameChar c = true) (d : Char) :
    sameRun c d = isNameChar d := by
  have hnumber : isNumberChar c = false := by
    rw [Bool.eq_false_iff]
    intro hn
    rw [isNameChar_of_isNumberChar hn] at h
    cases h
  simp [sameRun, h, hnumber]

/-! ### Cutting a text -/

/-- A text that starts at the place `pos` is cut into blanks and the slices of its tokens. -/
inductive Cut : Nat → List Char → List Token → Prop
  | nil (pos : Nat) : Cut pos [] []
  | blank {pos : Nat} {c : Char} {cs : List Char} {ts : List Token} (blank : isBlank c = true)
    (rest : Cut (pos + 1) cs ts) : Cut pos (c :: cs) ts
  | token {pos : Nat} {l : Lexeme} {slice cs : List Char} {ts : List Token}
    (spelled : l.SpelledBy slice) (parted : Parted slice cs)
    (rest : Cut (pos + slice.length) cs ts) : Cut pos (slice ++ cs) (⟨l, pos⟩ :: ts)

theorem forall_mem_run {p : Char → Bool} {c : Char} (hc : p c = true) (cs : List Char) :
    ∀ d ∈ c :: cs.takeWhile p, p d = true :=
  List.forall_mem_cons.mpr ⟨hc, fun _ hd => List.mem_takeWhile_imp hd⟩

/-- A run that is as long as it can be has no part of it behind it. -/
theorem parted_run {p : Char → Bool} (hp : ∀ c, p c = true → ∀ d, sameRun c d = p d) {c : Char}
    (hc : p c = true) (cs : List Char) :
    Parted (c :: cs.takeWhile p) (cs.dropWhile p) := by
  intro d e hd he
  have hrun : p d = true := forall_mem_run hc cs d (List.mem_of_getLast? hd)
  have hstop := List.head?_dropWhile_not p cs
  rw [he] at hstop
  rw [hp d hrun e]
  simpa using hstop

/-- A run that is as long as it can be is cut off. -/
theorem Cut.run {p : Char → Bool} (hp : ∀ c, p c = true → ∀ d, sameRun c d = p d) {pos : Nat}
    {c : Char} (hc : p c = true) {cs : List Char} {l : Lexeme}
    (spelled : l.SpelledBy (c :: cs.takeWhile p)) {us : List Token}
    (rest : Cut (pos + 1 + (cs.takeWhile p).length) (cs.dropWhile p) us) :
    Cut pos (c :: cs) (⟨l, pos⟩ :: us) := by
  rw [cons_run_append p c cs]
  refine .token spelled (parted_run hp hc cs) ?_
  rw [List.length_cons, Nat.add_comm _ 1, ← Nat.add_assoc]
  exact rest

/-- What the lexer makes of a text is cut out of it. -/
theorem cut_of_scanFrom {pos : Nat} {cs : List Char} {ts : List Token}
    (h : scanFrom pos cs = .ok ts) : Cut pos cs ts := by
  fun_induction scanFrom pos cs generalizing ts with
  | case1 pos =>
    cases h
    exact .nil pos
  | case2 pos c cs hb ih => exact .blank hb (ih h)
  | case3 pos c cs hb hn run =>
    rename_i ih
    obtain ⟨us, hu, rfl⟩ := map_eq_ok h
    have spelled := SpelledBy.number (List.cons_ne_nil _ _) (forall_mem_run hn cs)
    exact .run (fun _ => sameRun_of_isNumberChar) hn spelled (ih hu)
  | case4 pos c cs hb hn ha run =>
    rename_i ih
    obtain ⟨us, hu, rfl⟩ := map_eq_ok h
    have spelled := SpelledBy.name (List.cons_ne_nil _ _) (forall_mem_run ha cs)
    exact .run (fun _ => sameRun_of_isNameChar) ha spelled (ih hu)
  | case5 pos c cs hb hn ha hs ih =>
    obtain ⟨us, hu, rfl⟩ := map_eq_ok h
    rw [← List.singleton_append]
    refine .token (.symbol hs) (fun d e hd _ => ?_) (ih hu)
    obtain rfl := Option.some.inj hd
    exact sameRun_of_isSymbolChar hs e
  | case6 => cases h

/-- A run that parts from what follows is taken as a whole. -/
theorem span_parted {p : Char → Bool} (hp : ∀ c, p c = true → ∀ d, sameRun c d = p d) {c : Char}
    {run cs : List Char} (hrun : ∀ d ∈ c :: run, p d = true) (h : Parted (c :: run) cs) :
    (run ++ cs).takeWhile p = run ∧ (run ++ cs).dropWhile p = cs := by
  have hstop : ∀ d, cs.head? = some d → p d = false := by
    intro d hd
    have he := List.getLast?_eq_some_getLast (List.cons_ne_nil c run)
    rw [← hp _ (hrun _ (List.mem_of_getLast? he)) d]
    exact h _ d he hd
  obtain ⟨ht, hd⟩ := span_append hstop run
  have hall : ∀ d ∈ run, p d = true := fun d hd => hrun d (List.mem_cons_of_mem _ hd)
  rw [ht, hd, List.takeWhile_eq_self_iff.mpr hall, List.dropWhile_eq_nil_iff.mpr hall]
  exact ⟨rfl, rfl⟩

/-- What can be cut out of a text is what the lexer makes of it. -/
theorem Cut.scanFrom {pos : Nat} {cs : List Char} {ts : List Token} (h : Cut pos cs ts) :
    scanFrom pos cs = .ok ts := by
  induction h with
  | nil pos => rw [Token.scanFrom]
  | blank hb _ ih => rw [scanFrom_blank hb, ih]
  | @token pos l slice cs ts spelled parted rest ih =>
    cases spelled with
    | number some digits =>
      obtain ⟨c, run, rfl⟩ := List.exists_cons_of_ne_nil some
      obtain ⟨hc, -⟩ := List.forall_mem_cons.mp digits
      obtain ⟨ht, hd⟩ := span_parted (fun _ => sameRun_of_isNumberChar) digits parted
      rw [List.length_cons, Nat.add_comm _ 1, ← Nat.add_assoc] at ih
      rw [List.cons_append, scanFrom_digits (by simp [isBlank_of_isNumberChar hc]) hc, ht, hd, ih]
      rfl
    | name some letters =>
      obtain ⟨c, run, rfl⟩ := List.exists_cons_of_ne_nil some
      obtain ⟨hc, -⟩ := List.forall_mem_cons.mp letters
      have hn : ¬ isNumberChar c = true := fun hn => by
        rw [isNameChar_of_isNumberChar hn] at hc
        cases hc
      obtain ⟨ht, hd⟩ := span_parted (fun _ => sameRun_of_isNameChar) letters parted
      rw [List.length_cons, Nat.add_comm _ 1, ← Nat.add_assoc] at ih
      rw [List.cons_append, scanFrom_letters (by simp [isBlank_of_isNameChar hc]) hn hc, ht, hd, ih]
      rfl
    | symbol known =>
      rw [List.singleton_append, scanFrom_symbol known]
      exact congrArg _ ih

theorem scanFrom_eq_ok_iff {pos : Nat} {cs : List Char} {ts : List Token} :
    Token.scanFrom pos cs = .ok ts ↔ Cut pos cs ts :=
  ⟨cut_of_scanFrom, Cut.scanFrom⟩

theorem Cut.spelled {pos : Nat} {cs : List Char} {ts : List Token} (h : Cut pos cs ts) :
    ∀ t ∈ ts, ∃ slice, t.lexeme.SpelledBy slice := by
  induction h with
  | nil => simp
  | blank _ _ ih => exact ih
  | token spelled _ _ ih => exact List.forall_mem_cons.mpr ⟨⟨_, spelled⟩, ih⟩

/-! ### What is said of the tokens -/

/-- The token takes up the place `i` of its text. -/
def Covers (t : Token) (i : Nat) : Prop := t.position ≤ i ∧ i < t.position + t.text.length

/-- A slice of the text, which starts at the place `pos`, spells the token at its place, and no run
goes on across either end of it. -/
def Fits (t : Token) (pos : Nat) (cs : List Char) : Prop :=
  ∃ front slice back, cs = front ++ (slice ++ back) ∧ t.position = pos + front.length ∧
    t.lexeme.SpelledBy slice ∧ Parted front slice ∧ Parted slice back

/-- The tokens fit a text, which starts at the place `pos`, one behind the other, and cover all that
is no blank. -/
structure Tokenizes (pos : Nat) (cs : List Char) (ts : List Token) : Prop where
  fits : ∀ t ∈ ts, t.Fits pos cs
  apart : ts.Pairwise fun t u => t.position + t.text.length ≤ u.position
  covers : ∀ i c, cs[i]? = some c → (isBlank c = false ↔ ∃ t ∈ ts, t.Covers (pos + i))

theorem Fits.text_pos {t : Token} {pos : Nat} {cs : List Char} (h : t.Fits pos cs) :
    0 < t.text.length := by
  obtain ⟨front, slice, back, -, -, spelled, -, -⟩ := h
  rw [text, spelled.length]
  exact List.length_pos_iff.mpr spelled.ne_nil

theorem Fits.le_position {t : Token} {pos : Nat} {cs : List Char} (h : t.Fits pos cs) :
    pos ≤ t.position := by
  obtain ⟨front, slice, back, -, hplace, -, -, -⟩ := h
  rw [hplace]
  exact Nat.le_add_right _ _

/-- What fits a text fits it behind another one, unless a run goes on across the border. -/
theorem Fits.behind {t : Token} {pos : Nat} {before cs : List Char}
    (h : t.Fits (pos + before.length) cs) (hborder : Parted before cs) :
    t.Fits pos (before ++ cs) := by
  obtain ⟨front, slice, back, rfl, hplace, spelled, hfront, hback⟩ := h
  refine ⟨before ++ front, slice, back, (List.append_assoc ..).symm, ?_, spelled, ?_, hback⟩
  · rw [hplace, List.length_append, Nat.add_assoc]
  · intro c d hc hd
    rw [List.getLast?_append, Option.or_eq_some_iff] at hc
    rcases hc with hc | ⟨hnone, hc⟩
    · exact hfront c d hc hd
    · obtain rfl := List.getLast?_eq_none_iff.mp hnone
      refine hborder c d hc ?_
      rw [List.nil_append, List.head?_append, hd]
      rfl

/-- What fits a text behind its first part fits the rest. -/
theorem Fits.within {t : Token} {pos : Nat} {before cs : List Char} (h : t.Fits pos (before ++ cs))
    (hplace : pos + before.length ≤ t.position) : t.Fits (pos + before.length) cs := by
  obtain ⟨front, slice, back, hchars, hposition, spelled, hfront, hback⟩ := h
  have hlength : before.length ≤ front.length := by omega
  have hprefix : before <+: front :=
    List.prefix_of_prefix_length_le ⟨cs, hchars⟩ ⟨slice ++ back, rfl⟩ hlength
  obtain ⟨rest, rfl⟩ := hprefix
  rw [List.append_assoc] at hchars
  refine ⟨rest, slice, back, List.append_cancel_left hchars, ?_, spelled, ?_, hback⟩
  · rw [hposition, List.length_append, Nat.add_assoc]
  · intro c d hc hd
    refine hfront c d ?_ hd
    rw [List.getLast?_append, hc]
    rfl

theorem tokenizes_nil (pos : Nat) : Tokenizes pos [] [] where
  fits := by simp
  apart := .nil
  covers := by simp

theorem Tokenizes.blank {pos : Nat} {c : Char} {cs : List Char} {ts : List Token}
    (hb : isBlank c = true) (h : Tokenizes (pos + 1) cs ts) : Tokenizes pos (c :: cs) ts where
  fits t ht := by
    have hrest : t.Fits (pos + [c].length) cs := h.fits t ht
    refine hrest.behind fun d e hd _ => ?_
    obtain rfl := Option.some.inj hd
    exact sameRun_of_isBlank hb e
  apart := h.apart
  covers i d hd := by
    cases i with
    | zero =>
      obtain rfl := Option.some.inj hd
      have hnone : ¬ ∃ t ∈ ts, t.Covers (pos + 0) := by
        rintro ⟨t, ht, hle, -⟩
        have hplace := (h.fits t ht).le_position
        omega
      rw [hb]
      exact iff_of_false Bool.noConfusion hnone
    | succ i =>
      rw [Nat.add_comm i 1, ← Nat.add_assoc]
      exact h.covers i d hd

theorem Tokenizes.token {pos : Nat} {l : Lexeme} {slice cs : List Char} {ts : List Token}
    (spelled : l.SpelledBy slice) (parted : Parted slice cs)
    (h : Tokenizes (pos + slice.length) cs ts) : Tokenizes pos (slice ++ cs) (⟨l, pos⟩ :: ts) where
  fits := by
    have hfirst : Fits ⟨l, pos⟩ pos (slice ++ cs) :=
      ⟨[], slice, cs, rfl, rfl, spelled, nofun, parted⟩
    exact List.forall_mem_cons.mpr ⟨hfirst, fun t ht => (h.fits t ht).behind parted⟩
  apart := by
    refine List.pairwise_cons.mpr ⟨fun t ht => ?_, h.apart⟩
    show pos + l.text.length ≤ t.position
    rw [spelled.length]
    exact (h.fits t ht).le_position
  covers i c hc := by
    have hlength : (⟨l, pos⟩ : Token).text.length = slice.length := spelled.length
    by_cases hi : i < slice.length
    · have hmem : c ∈ slice := by
        rw [List.getElem?_append_left hi] at hc
        exact List.mem_of_getElem? hc
      have hcover : (⟨l, pos⟩ : Token).Covers (pos + i) := by
        refine ⟨Nat.le_add_right _ _, ?_⟩
        rw [hlength]
        exact Nat.add_lt_add_left hi pos
      simp only [spelled.isBlank c hmem, true_iff]
      exact ⟨_, List.mem_cons_self, hcover⟩
    · obtain ⟨j, rfl⟩ := Nat.exists_eq_add_of_le (Nat.le_of_not_lt hi)
      rw [List.getElem?_append_right (Nat.le_add_right _ _), Nat.add_sub_cancel_left] at hc
      have hpast : ¬ (⟨l, pos⟩ : Token).Covers (pos + (slice.length + j)) := by
        rintro ⟨-, hlt⟩
        rw [hlength] at hlt
        have hplace : pos + (slice.length + j) < pos + slice.length := hlt
        omega
      rw [h.covers j c hc, ← Nat.add_assoc]
      rw [← Nat.add_assoc] at hpast
      simp only [List.mem_cons, exists_eq_or_imp, hpast, false_or]

/-- Cutting a text gives tokens that fit it. -/
theorem Cut.tokenizes {pos : Nat} {cs : List Char} {ts : List Token} (h : Cut pos cs ts) :
    Tokenizes pos cs ts := by
  induction h with
  | nil pos => exact tokenizes_nil pos
  | blank hb _ ih => exact ih.blank hb
  | token spelled parted _ ih => exact ih.token spelled parted

/-- Behind a blank that no token covers, the tokens fit the rest of the text. -/
theorem Tokenizes.behind_blank {pos : Nat} {c : Char} {cs : List Char} {ts : List Token}
    (h : Tokenizes pos (c :: cs) ts) (hb : isBlank c = true) : Tokenizes (pos + 1) cs ts := by
  have hplace : ∀ t ∈ ts, pos + 1 ≤ t.position := by
    intro t ht
    have hle := (h.fits t ht).le_position
    have hpos := (h.fits t ht).text_pos
    by_contra hlt
    have hcover : t.Covers (pos + 0) := ⟨by omega, by omega⟩
    have hsolid := (h.covers 0 c rfl).mpr ⟨t, ht, hcover⟩
    rw [hb] at hsolid
    cases hsolid
  refine ⟨fun t ht => ?_, h.apart, fun i d hd => ?_⟩
  · have hfits : t.Fits pos ([c] ++ cs) := h.fits t ht
    exact hfits.within (hplace t ht)
  · rw [Nat.add_assoc, Nat.add_comm 1 i]
    exact h.covers (i + 1) d hd

/-- At a character that is no blank the first token starts: a later one would start behind it, and
it does not start before the text. -/
theorem Tokenizes.exists_first {pos : Nat} {c : Char} {cs : List Char} {ts : List Token}
    (h : Tokenizes pos (c :: cs) ts) (hb : isBlank c = false) : ∃ l us, ts = ⟨l, pos⟩ :: us := by
  obtain ⟨t, ht, hcover⟩ := (h.covers 0 c rfl).mp hb
  have hstart : t.position = pos := by
    have hle := (h.fits t ht).le_position
    have hge := hcover.1
    omega
  cases ts with
  | nil => cases ht
  | cons u us =>
    rcases List.mem_cons.mp ht with rfl | htu
    · obtain ⟨l, place⟩ := t
      obtain rfl : place = pos := hstart
      exact ⟨l, us, rfl⟩
    · have hlate := (List.pairwise_cons.mp h.apart).1 t htu
      have hu := h.fits u List.mem_cons_self
      have hle := hu.le_position
      have hpos := hu.text_pos
      omega

/-- The others fit what is behind the slice of the first token. -/
theorem Tokenizes.behind_token {pos : Nat} {c : Char} {cs : List Char} {ts : List Token}
    (h : Tokenizes pos (c :: cs) ts) (hb : isBlank c = false) :
    ∃ l slice back us, c :: cs = slice ++ back ∧ ts = ⟨l, pos⟩ :: us ∧ l.SpelledBy slice ∧
      Parted slice back ∧ Tokenizes (pos + slice.length) back us := by
  obtain ⟨l, us, rfl⟩ := h.exists_first hb
  obtain ⟨hbehind, hapart⟩ := List.pairwise_cons.mp h.apart
  obtain ⟨front, slice, back, hchars, hplace, spelled, -, hback⟩ := h.fits _ List.mem_cons_self
  have hfront : front = [] := by
    have hzero : pos = pos + front.length := hplace
    exact List.eq_nil_of_length_eq_zero (by omega)
  subst hfront
  rw [List.nil_append] at hchars
  have hlength : (⟨l, pos⟩ : Token).text.length = slice.length := spelled.length
  have hplaces : ∀ u ∈ us, pos + slice.length ≤ u.position := by
    intro u hu
    rw [← hlength]
    exact hbehind u hu
  refine ⟨l, slice, back, us, hchars, rfl, spelled, hback, fun u hu => ?_, hapart,
    fun i d hd => ?_⟩
  · have hfits : u.Fits pos (slice ++ back) := hchars ▸ h.fits u (List.mem_cons_of_mem _ hu)
    exact hfits.within (hplaces u hu)
  · have hchar : (c :: cs)[slice.length + i]? = some d := by
      rw [hchars, List.getElem?_append_right (Nat.le_add_right _ _), Nat.add_sub_cancel_left]
      exact hd
    have hpast : ¬ (⟨l, pos⟩ : Token).Covers (pos + slice.length + i) := by
      rintro ⟨-, hlt⟩
      rw [hlength] at hlt
      have hlt : pos + slice.length + i < pos + slice.length := hlt
      omega
    rw [h.covers _ d hchar, ← Nat.add_assoc]
    simp only [List.mem_cons, exists_eq_or_imp, hpast, false_or]

/-- Tokens that fit a text can be cut out of it. -/
theorem Tokenizes.cut : ∀ {cs : List Char} {pos : Nat} {ts : List Token},
    Tokenizes pos cs ts → Cut pos cs ts
  | [], pos, ts, h => by
    have hnil : ts = [] := by
      refine List.eq_nil_iff_forall_not_mem.mpr fun t ht => ?_
      obtain ⟨front, slice, back, hchars, -, spelled, -, -⟩ := h.fits t ht
      have hparts := List.append_eq_nil_iff.mp hchars.symm
      exact spelled.ne_nil (List.append_eq_nil_iff.mp hparts.2).1
    rw [hnil]
    exact .nil pos
  | c :: cs, pos, ts, h => by
    cases hb : isBlank c with
    | true => exact .blank hb (h.behind_blank hb).cut
    | false =>
      obtain ⟨l, slice, back, us, hchars, rfl, spelled, parted, hrest⟩ := h.behind_token hb
      have hshorter : back.length < (c :: cs).length := by
        have hpos := List.length_pos_iff.mpr spelled.ne_nil
        rw [hchars, List.length_append]
        omega
      rw [hchars]
      exact .token spelled parted hrest.cut
  termination_by cs => cs.length
  decreasing_by
    · exact hshorter
    · exact Nat.lt_succ_self _

theorem scan_eq_ok_iff {s : String} {ts : List Token} :
    scan s = .ok ts ↔ Tokenizes 0 s.toList ts :=
  scanFrom_eq_ok_iff.trans ⟨Cut.tokenizes, Tokenizes.cut⟩

/-! ### Characters of no class -/

/-- The character at the place `p` belongs to no token and is no blank, and is the first such. -/
def FirstForeign (s : String) (p : Nat) (c : Char) : Prop :=
  s.toList[p]? = some c ∧ isReadable c = false ∧
    ∀ i d, i < p → s.toList[i]? = some d → isReadable d = true

theorem Cut.isReadable {pos : Nat} {cs : List Char} {ts : List Token} (h : Cut pos cs ts) :
    ∀ c ∈ cs, isReadable c = true := by
  induction h with
  | nil => simp
  | blank hb _ ih => exact List.forall_mem_cons.mpr ⟨by simp [Lexeme.isReadable, hb], ih⟩
  | token spelled _ _ ih => exact List.forall_mem_append.mpr ⟨spelled.isReadable, ih⟩

theorem firstForeign_of_scan_error {s : String} {f : Fault} (h : scan s = .error f) :
    ∃ p c, f = .unexpectedChar p c ∧ FirstForeign s p c := by
  obtain ⟨front, c, rest, hchars, hfront, hc, rfl⟩ := scanFrom_error h
  refine ⟨_, c, rfl, ?_, hc, fun i d hi hd => hfront d ?_⟩
  · rw [hchars, Nat.zero_add, List.getElem?_append_right (Nat.le_refl _), Nat.sub_self]
    rfl
  · rw [Nat.zero_add] at hi
    rw [hchars, List.getElem?_append_left hi] at hd
    exact List.mem_of_getElem? hd

theorem FirstForeign.unique {s : String} {p q : Nat} {c d : Char} (h : FirstForeign s p c)
    (h' : FirstForeign s q d) : p = q ∧ c = d := by
  obtain ⟨hc, hforeign, hbefore⟩ := h
  obtain ⟨hd, hforeign', hbefore'⟩ := h'
  rcases Nat.lt_trichotomy p q with hlt | rfl | hlt
  · rw [hbefore' p c hlt hc] at hforeign
    cases hforeign
  · rw [hc] at hd
    exact ⟨rfl, Option.some.inj hd⟩
  · rw [hbefore q d hlt hd] at hforeign'
    cases hforeign'

theorem scan_eq_error_iff {s : String} {p : Nat} {c : Char} :
    scan s = .error (.unexpectedChar p c) ↔ FirstForeign s p c := by
  constructor
  · intro h
    obtain ⟨q, d, hfault, hforeign⟩ := firstForeign_of_scan_error h
    cases hfault
    exact hforeign
  · intro h
    cases hscan : scan s with
    | ok ts =>
      have hreadable := (scanFrom_eq_ok_iff.mp hscan).isReadable c (List.mem_of_getElem? h.1)
      rw [h.2.1] at hreadable
      cases hreadable
    | error f =>
      obtain ⟨q, d, rfl, hforeign⟩ := firstForeign_of_scan_error hscan
      obtain ⟨rfl, rfl⟩ := h.unique hforeign
      rfl

/-- Reading a text fails at its first character that belongs to no token and is no blank, if there
is one. Otherwise it gives the only tokens that fit the text, do not overlap, and cover all but its
blanks; they stand in the order of the text. -/
theorem scan_spec (s : String) :
    (∀ p c, scan s = .error (.unexpectedChar p c) ↔ FirstForeign s p c) ∧
    (∀ ts, scan s = .ok ts ↔ Tokenizes 0 s.toList ts) ∧
    ((∃ p c, FirstForeign s p c) ∨
      ∃ ts, Tokenizes 0 s.toList ts ∧ ts.Pairwise fun t u => t.position < u.position) := by
  refine ⟨fun p c => scan_eq_error_iff, fun ts => scan_eq_ok_iff, ?_⟩
  cases hscan : scan s with
  | error f =>
    obtain ⟨p, c, -, hforeign⟩ := firstForeign_of_scan_error hscan
    exact .inl ⟨p, c, hforeign⟩
  | ok ts =>
    have hts := scan_eq_ok_iff.mp hscan
    refine .inr ⟨ts, hts, hts.apart.imp_of_mem fun {t u} ht _ happart => ?_⟩
    have hpos := (hts.fits t ht).text_pos
    omega

end Token

end Calculator
