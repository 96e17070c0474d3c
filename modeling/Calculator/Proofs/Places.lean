/-
# Places only show in faults

Where a token stands is kept for the messages of faults. When all places are
changed, only those in tokens and faults are: characters that start elsewhere are
read as the same tokens elsewhere (`scanFrom_add`), and tokens elsewhere are put
into the same order (`step_mapPosition`, `ofTokens_mapPosition`).

So, apart from places, what the lexer makes of characters does not depend on where
they stand (`scanFrom_alike`), and what the ordering makes of tokens depends on
their lexemes alone (`run_alike`, `ofTokens_alike`). Both are said by one
relation: two results are alike if both are values that correspond, or both are
the same fault in maybe different places.

Key definitions: `Fault.mapPosition`, `Alike`, `Token.SameLexemes`, `Rpn.itemsFrom`.
-/
import Calculator.Proofs.Moves
import Calculator.Proofs.Scanning

namespace Calculator

/-! ### Changing places -/

namespace Fault

/-- The same cause at another place. -/
def mapPosition (g : Nat → Nat) : Fault → Fault
  | unexpectedChar p c => unexpectedChar (g p) c
  | missingOperator p => missingOperator (g p)
  | missingOperand p => missingOperand (g p)
  | strayComma p => strayComma (g p)
  | f => f

theorem forgetPosition_mapPosition (g : Nat → Nat) (f : Fault) :
    (f.mapPosition g).forgetPosition = f.forgetPosition := by
  cases f <;> rfl

theorem mapPosition_id (f : Fault) : f.mapPosition id = f := by
  cases f <;> rfl

theorem position?_mapPosition (g : Nat → Nat) (f : Fault) :
    (f.mapPosition g).position? = f.position?.map g := by
  cases f <;> rfl

/-- Only a cause with a place is changed. -/
theorem mapPosition_of_position? {f : Fault} (h : f.position? = none) (g : Nat → Nat) :
    f.mapPosition g = f := by
  cases f with
  | unexpectedChar _ _ | missingOperator _ | missingOperand _ | strayComma _ => cases h
  | _ => rfl

end Fault

/-- The same lexeme at another place. -/
def Token.mapPosition (g : Nat → Nat) (t : Token) : Token := ⟨t.lexeme, g t.position⟩

/-- Both are values that correspond, or both are the same fault but for its place. -/
inductive Alike {α β : Type} (R : α → β → Prop) : Except Fault α → Except Fault β → Prop
  | ok {a : α} {b : β} (values : R a b) : Alike R (.ok a) (.ok b)
  | error {f g : Fault} (faults : f.forgetPosition = g.forgetPosition) :
    Alike R (.error f) (.error g)

namespace Alike

variable {α β γ δ : Type} {R : α → β → Prop} {S : γ → δ → Prop}

theorem refl (x : Except Fault α) : Alike Eq x x := by
  cases x with
  | error f => exact .error rfl
  | ok a => exact .ok rfl

theorem map {x : Except Fault α} {y : Except Fault β} {f : α → γ} {g : β → δ} (h : Alike R x y)
    (hfg : ∀ a b, R a b → S (f a) (g b)) : Alike S (x.map f) (y.map g) := by
  cases h with
  | ok values => exact .ok (hfg _ _ values)
  | error faults => exact .error faults

theorem bind {x : Except Fault α} {y : Except Fault β} {f : α → Except Fault γ}
    {g : β → Except Fault δ} (h : Alike R x y) (hfg : ∀ a b, R a b → Alike S (f a) (g b)) :
    Alike S (x.bind f) (y.bind g) := by
  cases h with
  | ok values => exact hfg _ _ values
  | error faults => exact .error faults

/-- What is alike to a value is a value. -/
theorem exists_ok {a : α} {y : Except Fault β} (h : Alike R (.ok a) y) :
    ∃ b, y = .ok b ∧ R a b := by
  cases h with
  | ok values => exact ⟨_, rfl, values⟩

/-- Alike results are equal once their faults have lost their places. -/
theorem forgetPosition_eq {x y : Except Fault α} (h : Alike Eq x y) :
    x.mapError Fault.forgetPosition = y.mapError Fault.forgetPosition := by
  cases h with
  | ok values => exact congrArg Except.ok values
  | error faults => exact congrArg Except.error faults

end Alike

/-! ### Reading tokens -/

namespace Token

/-- The same tokens but for their places. -/
def SameLexemes (ts us : List Token) : Prop := ts.map lexeme = us.map lexeme

theorem sameLexemes_mapPosition (g : Nat → Nat) (ts : List Token) :
    SameLexemes (ts.map (mapPosition g)) ts := by
  rw [SameLexemes, List.map_map]
  rfl

/-- What the lexer made, at other places. -/
def relocate (g : Nat → Nat) (x : Except Fault (List Token)) : Except Fault (List Token) :=
  (x.map (List.map (mapPosition g))).mapError (Fault.mapPosition g)

theorem relocate_map_cons (g : Nat → Nat) (t : Token) (x : Except Fault (List Token)) :
    relocate g (x.map (t :: ·)) = (relocate g x).map (t.mapPosition g :: ·) := by
  cases x <;> rfl

/-- Characters that start `k` places later are read as the same tokens `k` places later. -/
theorem scanFrom_add (k pos : Nat) (cs : List Char) :
    scanFrom (k + pos) cs = relocate (k + ·) (scanFrom pos cs) := by
  have hbehind : ∀ pos n : Nat, k + pos + 1 + n = k + (pos + 1 + n) := by
    intro pos n
    omega
  fun_induction scanFrom pos cs with
  | case1 pos =>
    rw [scanFrom]
    rfl
  | case2 pos c cs hb ih =>
    rw [scanFrom_blank hb]
    exact ih
  | case3 pos c cs hb hn run =>
    rename_i ih
    rw [scanFrom_digits hb hn, relocate_map_cons, hbehind, ih]
    rfl
  | case4 pos c cs hb hn ha run =>
    rename_i ih
    rw [scanFrom_letters hb hn ha, relocate_map_cons, hbehind, ih]
    rfl
  | case5 pos c cs hb hn ha hs ih =>
    rw [scanFrom_symbol hs, relocate_map_cons, Nat.add_assoc, ih]
    rfl
  | case6 pos c cs hb hn ha hs =>
    rw [scanFrom_foreign hb hn ha hs]
    rfl

/-- What characters are read as does not depend on where they stand. -/
theorem scanFrom_alike (pos pos' : Nat) (cs : List Char) :
    Alike SameLexemes (scanFrom pos cs) (scanFrom pos' cs) := by
  have h := scanFrom_add pos 0 cs
  have h' := scanFrom_add pos' 0 cs
  rw [Nat.add_zero] at h h'
  rw [h, h']
  cases scanFrom 0 cs with
  | error f =>
    refine .error ?_
    rw [Fault.forgetPosition_mapPosition, Fault.forgetPosition_mapPosition]
  | ok ts =>
    exact .ok ((sameLexemes_mapPosition _ ts).trans (sameLexemes_mapPosition _ ts).symm)

end Token

/-! ### Ordering tokens -/

namespace Rpn

open Token

theorem refuses?_mapPosition (b : Before) (t : Token) (g : Nat → Nat) :
    b.refuses? (t.mapPosition g) = (b.refuses? t).map (Fault.mapPosition g) := by
  obtain ⟨l, p⟩ := t
  match l with
  | .number _ | .name _ | .symbol '(' | .symbol ')' | .symbol ',' => cases b <;> rfl
  | .symbol c =>
    cases b <;> simp [Before.refuses?, Token.mapPosition] <;> split <;> simp_all [Fault.mapPosition]

theorem step_mapPosition (s : State) (t : Token) (g : Nat → Nat) :
    step s (t.mapPosition g) = (step s t).mapError (Fault.mapPosition g) := by
  have href := refuses?_mapPosition s.before t g
  unfold step
  cases hr : s.before.refuses? t with
  | some f =>
    rw [hr] at href
    rw [href]
    rfl
  | none =>
    rw [hr] at href
    rw [href]
    -- what is left names a place where a comma is outside parentheses or a symbol is unknown
    obtain ⟨l, p⟩ := t
    simp only [Token.mapPosition, Option.map_none]
    split
    case h_1 text => cases Numeral.read? text <;> rfl
    case h_2 name => cases constant? name <;> cases Function.ofName? name <;> rfl
    case h_3 => rfl
    case h_4 | h_5 => cases s.fromParen <;> rfl
    case h_6 c _ _ _ => cases operatorAt? s.before c <;> rfl

theorem step_alike (s : State) (l : Lexeme) (p q : Nat) :
    Alike Eq (step s ⟨l, p⟩) (step s ⟨l, q⟩) := by
  have h : step s ⟨l, q⟩ = (step s ⟨l, p⟩).mapError (Fault.mapPosition fun _ => q) :=
    step_mapPosition s ⟨l, p⟩ fun _ => q
  rw [h]
  cases step s ⟨l, p⟩ with
  | ok r => exact .ok rfl
  | error f => exact .error (Fault.forgetPosition_mapPosition _ f).symm

theorem run_mapPosition (g : Nat → Nat) (s : State) (ts : List Token) :
    run s (ts.map (Token.mapPosition g)) = (run s ts).mapError (Fault.mapPosition g) := by
  induction ts generalizing s with
  | nil => rfl
  | cons t ts ih =>
    rw [List.map_cons, run_cons, run_cons, step_mapPosition]
    cases step s t with
    | error f => rfl
    | ok r =>
      show (run r.2 (ts.map (Token.mapPosition g))).map _ = ((run r.2 ts).map _).mapError _
      rw [ih]
      cases run r.2 ts <;> rfl

/-- A run depends on lexemes alone, places in faults apart. -/
theorem run_alike : ∀ (s : State) {ts us : List Token}, SameLexemes ts us →
    Alike Eq (run s ts) (run s us)
  | s, [], us, h => by
    rw [List.map_eq_nil_iff.mp h.symm]
    exact .refl _
  | s, t :: ts, us, h => by
    obtain ⟨u, vs, rfl, hl, hv⟩ := List.map_eq_cons_iff.mp h.symm
    have hstep : Alike Eq (step s t) (step s u) := by
      obtain ⟨l, p⟩ := t
      obtain ⟨m, q⟩ := u
      obtain rfl : m = l := hl
      exact step_alike s m p q
    rw [run_cons, run_cons]
    refine hstep.bind fun r r' hr => ?_
    subst hr
    exact (run_alike r.2 hv.symm).map fun q q' hq => by rw [hq]

/-- The items that go out from a state on, up to the end of the tokens. -/
def itemsFrom (s : State) (ts : List Token) : Except Fault (List Item) :=
  (run s ts).bind fun r => (finish r.2).map (r.1 ++ ·)

theorem itemsFrom_alike (s : State) {ts us : List Token} (h : SameLexemes ts us) :
    Alike Eq (itemsFrom s ts) (itemsFrom s us) :=
  (run_alike s h).bind fun _ _ hr => hr ▸ .refl _

theorem ofTokens_eq_itemsFrom {ts : List Token} (h : ts ≠ []) :
    ofTokens ts = itemsFrom .initial ts := by
  have he : ts.isEmpty = false := List.isEmpty_eq_false_iff.mpr h
  unfold ofTokens itemsFrom
  rw [he]
  cases run .initial ts with
  | error fault => rfl
  | ok r => cases hf : finish r.2 <;> simp [hf, Except.bind, Except.map]

/-- What is made of tokens depends on their lexemes alone, places in faults apart. -/
theorem ofTokens_alike {ts us : List Token} (h : SameLexemes ts us) :
    Alike Eq (ofTokens ts) (ofTokens us) := by
  by_cases hts : ts = []
  · subst hts
    obtain rfl : us = [] := List.map_eq_nil_iff.mp h.symm
    exact .refl _
  · have hus : us ≠ [] := by
      rintro rfl
      exact hts (List.map_eq_nil_iff.mp h)
    rw [ofTokens_eq_itemsFrom hts, ofTokens_eq_itemsFrom hus]
    exact itemsFrom_alike .initial h

/-- What is left open at the end has no place. -/
theorem position?_of_finish_error {s : State} {f : Fault} (h : finish s = .error f) :
    f.position? = none := by
  unfold finish at h
  split at h
  · cases h
    rfl
  · split at h <;> cases h
    rfl

/-- Tokens at other places are put into the same order. -/
theorem ofTokens_mapPosition (g : Nat → Nat) (ts : List Token) :
    ofTokens (ts.map (Token.mapPosition g)) =
      (ofTokens ts).mapError (Fault.mapPosition g) := by
  cases ts with
  | nil => rfl
  | cons t ts =>
    have hcons : (t :: ts).map (Token.mapPosition g) ≠ [] := List.cons_ne_nil _ _
    rw [ofTokens_eq_itemsFrom hcons, ofTokens_eq_itemsFrom (List.cons_ne_nil t ts), itemsFrom,
      itemsFrom, run_mapPosition]
    cases run .initial (t :: ts) with
    | error f => rfl
    | ok r =>
      show (finish r.2).map _ = ((finish r.2).map _).mapError _
      cases hf : finish r.2 with
      | ok later => rfl
      | error f =>
        have hsame := Fault.mapPosition_of_position? (position?_of_finish_error hf) g
        exact congrArg Except.error hsame.symm

/-- After a run the items go on with those from the state that it leaves. -/
theorem itemsFrom_append {s s' : State} {ts : List Token} {out : List Item}
    (h : run s ts = .ok (out, s')) (us : List Token) :
    itemsFrom s (ts ++ us) = (itemsFrom s' us).map (out ++ ·) := by
  unfold itemsFrom
  rw [run_append, h]
  cases hr : run s' us with
  | error fault => simp [hr, Except.bind, Except.map]
  | ok r => cases hf : finish r.2 <;> simp [hr, hf, Except.bind, Except.map]

end Rpn

end Calculator
