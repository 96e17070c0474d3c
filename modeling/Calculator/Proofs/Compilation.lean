/-
# The ordering and the machine compute derivation trees

The tokens that spell a derivation tree come out in the tree's own postfix
order (`Phrase.ofTokens`), and the machine makes of that order the value of the
tree (`Phrase.eval_items`). Together they say that an expression means what the
grammar says, for every tree, whatever its size: sums and products group to the
left, powers to the right, a negation is tighter than a power, and a factorial
takes the negation before it.

While the ordering reads a phrase, what the phrase sends out and what it leaves
waiting make up its postfix order, and the stack below it does not change
(`Settles`). That needs the stack below to stay put when an operator of the
phrase comes in (`Firm`), and it is what the phrase around grants: it has left
its own operator there, and no operator inside is looser.

Key definitions: `Rank.operators`, `Firm`, `Settles`, `Phrase.Refuses`.
-/
import Calculator.Grammar
import Calculator.Proofs.Factorial
import Calculator.Proofs.Moves
import Calculator.Rpn.Machine

namespace Calculator

/-- The operators that a phrase of a rank may have outside its parentheses. -/
def Rank.operators : Rank → List Operator
  | .arguments | .sum => Operator.all
  | .product =>
    [.binary .mul, .binary .div, .binary .pow, .unary .factorial, .unary .neg]
  | .power => [.binary .pow, .unary .factorial, .unary .neg]
  | .factorial => [.unary .factorial, .unary .neg]
  | .negation => [.unary .neg]
  | .atom => []

namespace Rpn

/-- A stack that stays as it is while a phrase of a rank is read above it. -/
structure Firm (r : Rank) (ws : List Waiting) : Prop where
  stays : ∀ op ∈ r.operators, ws.takeWhile (·.yieldsTo op) = []
  opened : r = .arguments → ws.head? = some .paren
  uncalled : ∀ f, ws.head? ≠ some (.function f)

/-- What a phrase of a rank may leave waiting: operators of its own. -/
def Pending (r : Rank) (ws : List Waiting) : Prop := ∀ w ∈ ws, ∃ op ∈ r.operators, w = .operator op

/-- Above a firm stack the lexemes go out as the items, some of which may still
wait, and leave a value. -/
def Settles (r : Rank) (ls : List Lexeme) (items : List Item) : Prop :=
  ∀ s : State, s.before.awaitsOperand = true → Firm r s.waiting →
    ∃ out pending, Runs s ls out ⟨pending ++ s.waiting, .value⟩ ∧ Pending r pending ∧
      out ++ released pending = items

/-! ### Stacks -/

theorem Firm.mono {r q : Rank} {ws : List Waiting} (h : Firm r ws)
    (hs : q.operators ⊆ r.operators) (hq : q ≠ .arguments) : Firm q ws :=
  ⟨fun op hop => h.stays op (hs hop), fun he => absurd he hq, h.uncalled⟩

/-- A fresh parenthesis is firm for any phrase. -/
theorem firm_paren (r : Rank) (ws : List Waiting) : Firm r (.paren :: ws) :=
  ⟨fun op _ => by simp [Waiting.yieldsTo], fun _ => rfl, fun f => by simp⟩

theorem firm_operator {r : Rank} {op : Operator} (ws : List Waiting) (hr : r ≠ .arguments)
    (h : ∀ o ∈ r.operators, (Waiting.operator op).yieldsTo o = false) :
    Firm r (.operator op :: ws) :=
  ⟨fun o ho => by simp [h o ho], fun he => absurd he hr, fun f => by simp⟩

theorem Pending.mono {r q : Rank} {ws : List Waiting} (h : Pending q ws)
    (hs : q.operators ⊆ r.operators) : Pending r ws := fun w hw => by
  obtain ⟨op, hop, rfl⟩ := h w hw
  exact ⟨op, hs hop, rfl⟩

theorem Pending.paren_not_mem {r : Rank} {ws : List Waiting} (h : Pending r ws) :
    .paren ∉ ws := fun hp => by
  obtain ⟨op, -, he⟩ := h _ hp
  cases he

/-- An operator that comes in after a phrase sends out all that the phrase left
waiting, if each of it yields, and stops at the firm stack below. -/
theorem pushOperator_pending {r q : Rank} {ws pending : List Waiting} {op : Operator}
    {before : Before} (hp : Pending q pending) (hf : Firm r ws) (hop : op ∈ r.operators)
    (hy : ∀ o ∈ q.operators, (Waiting.operator o).yieldsTo op = true) :
    pushOperator ⟨pending ++ ws, before⟩ op =
      (released pending, ⟨.operator op :: ws, .ofOperator op⟩) := by
  have hall : ∀ w ∈ pending, w.yieldsTo op = true := fun w hw => by
    obtain ⟨o, ho, rfl⟩ := hp w hw
    exact hy o ho
  have ht := hf.stays op hop
  have hd : ws.dropWhile (·.yieldsTo op) = ws := by
    have := List.takeWhile_append_dropWhile (p := (·.yieldsTo op)) (l := ws)
    rwa [ht, List.nil_append] at this
  simp only [pushOperator, List.takeWhile_append_of_pos hall, List.dropWhile_append_of_pos hall,
    ht, hd, List.append_nil]

/-! ### One lemma for each way to build a phrase -/

theorem Settles.mono {r q : Rank} {ls : List Lexeme} {items : List Item} (h : Settles q ls items)
    (hs : q.operators ⊆ r.operators) (hq : q ≠ .arguments) : Settles r ls items := by
  intro s hb hf
  obtain ⟨out, pending, hr, hp, he⟩ := h s hb (hf.mono hs hq)
  exact ⟨out, pending, hr, hp.mono hs, he⟩

theorem settles_literal {l : Lexeme} {x : Float} (h : literal? l = some x) :
    Settles .atom [l] [.number x] := fun s hb _ =>
  ⟨[.number x], [], .single (.literal h hb), fun w hw => (by cases hw), rfl⟩

/-- An operator fits between two phrases: what the left one leaves waiting goes
out before it, and it stays below the right one. -/
def Joins (r left : Rank) (op : Operator) (right : Rank) : Prop :=
  (op ∈ r.operators ∧ left ≠ .arguments ∧ right ≠ .arguments) ∧
  (∀ o ∈ left.operators, o ∈ r.operators ∧ (Waiting.operator o).yieldsTo op = true) ∧
  (∀ o ∈ right.operators, o ∈ r.operators ∧ (Waiting.operator op).yieldsTo o = false)

instance (r left : Rank) (op : Operator) (right : Rank) : Decidable (Joins r left op right) :=
  inferInstanceAs (Decidable (_ ∧ _ ∧ _))

theorem Settles.binary {r left right : Rank} {ls ms : List Lexeme} {is js : List Item} {c : Char}
    {op : BinaryOp} (hc : Operator.ofChar? c = some (.binary op))
    (hj : Joins r left (.binary op) right) (hl : Settles left ls is) (hr : Settles right ms js) :
    Settles r (ls ++ .symbol c :: ms) (is ++ js ++ [.operator (.binary op)]) := by
  obtain ⟨⟨hop, hnl, hnr⟩, hleft, hright⟩ := hj
  intro s hb hf
  obtain ⟨out, pending, hrun, hp, rfl⟩ := hl s hb (hf.mono (fun o ho => (hleft o ho).1) hnl)
  have hs : operatorAt? .value c = some (.binary op) := by
    simp [operatorAt?, hc, Before.awaitsOperand]
  have hm := Moves.operator (s := ⟨pending ++ s.waiting, .value⟩) hs (by simp)
  rw [pushOperator_pending hp hf hop fun o ho => (hleft o ho).2] at hm
  obtain ⟨out', pending', hrun', hp', rfl⟩ :=
    hr ⟨.operator (.binary op) :: s.waiting, .operator⟩ rfl
      (firm_operator _ hnr fun o ho => (hright o ho).2)
  refine ⟨out ++ (released pending ++ out'), pending' ++ [.operator (.binary op)], ?_, ?_, ?_⟩
  · rw [List.append_assoc]
    exact hrun.append (.cons hm hrun')
  · intro w hw
    rcases List.mem_append.mp hw with hw | hw
    · exact hp'.mono (fun o ho => (hright o ho).1) w hw
    · exact ⟨.binary op, hop, List.mem_singleton.mp hw⟩
  · rw [released_append]
    simp only [List.append_assoc]
    rfl

theorem Settles.factorial {ls : List Lexeme} {is : List Item} (h : Settles .factorial ls is) :
    Settles .factorial (ls ++ [.symbol '!']) (is ++ [.operator (.unary .factorial)]) := by
  intro s hb hf
  obtain ⟨out, pending, hrun, hp, rfl⟩ := h s hb hf
  have hs : operatorAt? .value '!' = some (.unary .factorial) := rfl
  have hm := Moves.operator (s := ⟨pending ++ s.waiting, .value⟩) hs (by simp)
  rw [pushOperator_pending hp hf (by decide) (by decide)] at hm
  refine ⟨out ++ released pending, [.operator (.unary .factorial)],
    hrun.append (.single hm), ?_, ?_⟩
  · intro w hw
    exact ⟨.unary .factorial, by decide, List.mem_singleton.mp hw⟩
  · rfl

/-- A negation sends nothing out, as it stands before its operand: nothing is
complete there. -/
theorem Settles.neg {ls : List Lexeme} {is : List Item} (h : Settles .negation ls is) :
    Settles .negation (.symbol '-' :: ls) (is ++ [.operator (.unary .neg)]) := by
  intro s hb hf
  have hs : operatorAt? s.before '-' = some (.unary .neg) := by
    simp [operatorAt?, Operator.ofChar?, hb]
  have hn : Pending .atom [] := fun w hw => by cases hw
  have hp : pushOperator s (.unary .neg) =
      ([], ⟨.operator (.unary .neg) :: s.waiting, .operator⟩) :=
    pushOperator_pending hn hf (by decide) (by decide)
  have hm := Moves.operator hs (fun f hf => by rw [hf] at hb; cases hb)
  rw [hp] at hm
  obtain ⟨out, pending, hrun, hp, rfl⟩ := h ⟨.operator (.unary .neg) :: s.waiting, .operator⟩ rfl
    (firm_operator _ (by decide) (by decide))
  refine ⟨out, pending ++ [.operator (.unary .neg)], ?_, ?_, ?_⟩
  · rw [List.append_assoc]
    exact .silent hm hrun
  · intro w hw
    rcases List.mem_append.mp hw with hw | hw
    · exact hp w hw
    · exact ⟨.unary .neg, by decide, List.mem_singleton.mp hw⟩
  · rw [released_append, List.append_assoc]
    rfl

/-- A closing parenthesis sends out what waits inside and the call it completes. -/
theorem Settles.parens {ls : List Lexeme} {is : List Item} (h : Settles .arguments ls is)
    {s : State} (hb : s.before.awaitsOperand = true ∨ ∃ f, s.before = .function f) :
    Runs s (.symbol '(' :: (ls ++ [.symbol ')'])) (is ++ (takeCall s.waiting).1)
      ⟨(takeCall s.waiting).2, .value⟩ := by
  obtain ⟨out, pending, hrun, hp, rfl⟩ := h ⟨.paren :: s.waiting, .openParen⟩ rfl (firm_paren _ _)
  have hclose := Moves.closing (s := ⟨pending ++ .paren :: s.waiting, .value⟩) (.inl rfl) rfl
    hp.paren_not_mem
  rw [List.append_assoc]
  exact .silent (.opening hb) (hrun.append (.single hclose))

theorem Settles.group {ls : List Lexeme} {is : List Item} (h : Settles .arguments ls is) :
    Settles .atom (.symbol '(' :: (ls ++ [.symbol ')'])) is := by
  intro s hb hf
  have hcall : takeCall s.waiting = ([], s.waiting) := by
    unfold takeCall
    split
    next f ws hw => exact absurd (by rw [hw]; rfl) (hf.uncalled f)
    next => rfl
  have hrun := h.parens (s := s) (.inl hb)
  rw [hcall, List.append_nil] at hrun
  exact ⟨is, [], hrun, fun w hw => (by cases hw), List.append_nil is⟩

theorem Settles.call {ls : List Lexeme} {is : List Item} (f : Function)
    (h : Settles .arguments ls is) :
    Settles .atom (.name f.name :: .symbol '(' :: (ls ++ [.symbol ')'])) (is ++ [.function f]) := by
  intro s hb _
  have hrun := h.parens (s := ⟨.function f :: s.waiting, .function f⟩) (.inr ⟨f, rfl⟩)
  exact ⟨is ++ [.function f], [], .silent (.function hb) hrun, fun w hw => (by cases hw),
    List.append_nil _⟩

/-- A comma sends out what waits above the parenthesis, which stays. -/
theorem Settles.comma {ls ms : List Lexeme} {is js : List Item} (h : Settles .arguments ls is)
    (h' : Settles .sum ms js) : Settles .arguments (ls ++ .symbol ',' :: ms) (is ++ js) := by
  intro s hb hf
  obtain ⟨ws, hw⟩ := List.head?_eq_some_iff.mp (hf.opened rfl)
  obtain ⟨out, pending, hrun, hp, rfl⟩ := h s hb hf
  rw [hw] at hrun
  have hm := Moves.comma (s := ⟨pending ++ .paren :: ws, .value⟩) rfl rfl hp.paren_not_mem
  obtain ⟨out', pending', hrun', hp', rfl⟩ := h' ⟨.paren :: ws, .comma⟩ rfl (firm_paren _ _)
  refine ⟨out ++ (released pending ++ out'), pending', ?_, hp', ?_⟩
  · rw [hw]
    exact hrun.append (.cons hm hrun')
  · simp only [List.append_assoc]

end Rpn

/-! ### The postfix order of a tree -/

namespace Phrase

open Rpn

variable {commas : Bool} {r : Rank}

/-- A tree goes out in its postfix order, wherever an operand may stand. -/
theorem settles (e : Phrase commas r) : Settles r e.lexemes e.items := by
  induction e with
  | one _ ih => exact fun s hb hf => ih s hb ⟨hf.stays, fun h => (by cases h), hf.uncalled⟩
  | more _ _ _ ih ih' => exact ih.comma ih'
  | ofProduct _ ih | ofPower _ ih | ofFactorial _ ih | ofNegation _ ih | ofAtom _ ih =>
    exact ih.mono (by decide) (by decide)
  | add _ _ ih ih' | sub _ _ ih ih' | mul _ _ ih ih' | div _ _ ih ih' | pow _ _ ih ih' =>
    exact ih.binary rfl (by decide) ih'
  | factorial _ ih => exact ih.factorial
  | neg _ ih => exact ih.neg
  | number text x reads => exact settles_literal reads
  | constant name x known => exact settles_literal known
  | call f _ ih => exact ih.call f
  | group _ ih => exact ih.group

/-- The ordering of the tokens that spell a tree is the tree's postfix order. -/
theorem ofTokens (e : Phrase commas .sum) {ts : List Token} (h : ts.map Token.lexeme = e.lexemes) :
    Rpn.ofTokens ts = .ok e.items := by
  obtain ⟨out, pending, hrun, hp, he⟩ := e.settles .initial rfl
    ⟨fun _ _ => rfl, fun h => (by cases h), fun f => by simp [State.initial]⟩
  have hw : pending ++ State.initial.waiting = pending := List.append_nil pending
  rw [hw] at hrun
  refine ofTokens_eq_ok_iff.mpr
    ⟨?_, out, _, h ▸ hrun, ⟨fun f => by simp, hp.paren_not_mem⟩, he.symm⟩
  rintro rfl
  rw [← h] at hrun
  cases hrun

/-! ### The value of a tree -/

/-- Some factorial of the tree gets a value that is no natural number. -/
def Refuses (mode : AngleMode) : {r : Rank} → Phrase false r → Prop
  | _, factorial e => e.Refuses mode ∨ ∃ x, e.value mode = .ok x ∧ Double.natural? x = none
  | _, add l r | _, sub l r | _, mul l r | _, div l r | _, pow l r =>
    l.Refuses mode ∨ r.Refuses mode
  | _, one e | _, ofProduct e | _, ofPower e | _, ofFactorial e | _, ofNegation e | _, ofAtom e =>
    e.Refuses mode
  | _, neg e => e.Refuses mode
  | _, call _ es | _, group es => es.Refuses mode
  | _, number .. | _, constant .. => False

/-- A tree has a value, or a factorial in it refuses its operand. -/
theorem value_cases (mode : AngleMode) (e : Phrase false r) :
    (∃ x, e.value mode = .ok x ∧ ¬ e.Refuses mode) ∨
      (e.value mode = .error .factorialDomain ∧ e.Refuses mode) := by
  induction e with
  | one _ ih | ofProduct _ ih | ofPower _ ih | ofFactorial _ ih | ofNegation _ ih | ofAtom _ ih
  | group _ ih => exact ih
  | more allowed => cases allowed
  | add _ _ ih ih' | sub _ _ ih ih' | mul _ _ ih ih' | div _ _ ih ih' | pow _ _ ih ih' =>
    rcases ih with ⟨x, hx, hn⟩ | ⟨hx, hr⟩
    · rcases ih' with ⟨y, hy, hn'⟩ | ⟨hy, hr⟩
      · exact .inl ⟨_, by simp only [value, hx, hy]; rfl, not_or.mpr ⟨hn, hn'⟩⟩
      · exact .inr ⟨by simp only [value, hx, hy]; rfl, .inr hr⟩
    · exact .inr ⟨by simp only [value, hx]; rfl, .inl hr⟩
  | factorial e ih =>
    rcases ih with ⟨x, hx, hn⟩ | ⟨hx, hr⟩
    · cases hk : Double.natural? x with
      | some n =>
        refine .inl ⟨_, by rw [value, hx]; exact factorial_apply_of_some hk, ?_⟩
        rintro (hr | ⟨y, hy, hk'⟩)
        · exact hn hr
        · rw [hx, Except.ok.injEq] at hy
          rw [← hy, hk] at hk'
          cases hk'
      | none =>
        exact .inr ⟨by rw [value, hx]; exact factorial_apply_of_none hk, .inr ⟨x, hx, hk⟩⟩
    · exact .inr ⟨by simp only [value, hx]; rfl, .inl hr⟩
  | neg _ ih | call _ _ ih =>
    rcases ih with ⟨x, hx, hn⟩ | ⟨hx, hr⟩
    · exact .inl ⟨_, by simp only [value, hx]; rfl, hn⟩
    · exact .inr ⟨by simp only [value, hx]; rfl, hr⟩
  | number _ x | constant _ x => exact .inl ⟨x, rfl, id⟩

/-- The items of a tree add its value to the stack, whatever is there and
whatever follows. -/
theorem runOn_items (mode : AngleMode) (e : Phrase false r) (rest : List Item)
    (stack : List Float) :
    runOn mode (e.items ++ rest) stack =
      (e.value mode).bind fun x => runOn mode rest (x :: stack) := by
  induction e generalizing rest stack with
  | one _ ih | ofProduct _ ih | ofPower _ ih | ofFactorial _ ih | ofNegation _ ih | ofAtom _ ih
  | group _ ih => exact ih rest stack
  | more allowed => cases allowed
  | add l r ih ih' | sub l r ih ih' | mul l r ih ih' | div l r ih ih' | pow l r ih ih' =>
    simp only [items, value, List.append_assoc, ih, ih']
    cases l.value mode with
    | error fault => rfl
    | ok x => cases r.value mode <;> rfl
  | factorial e ih =>
    simp only [items, value, List.append_assoc, ih]
    cases e.value mode with
    | error fault => rfl
    | ok x =>
      simp only [bind, Except.bind, List.singleton_append, runOn, exec, Operator.apply]
      cases UnaryOp.factorial.apply x <;> rfl
  | neg e ih | call f e ih =>
    simp only [items, value, List.append_assoc, ih]
    cases e.value mode <;> rfl
  | number _ x | constant _ x => rfl

/-- The machine computes a tree's value from its postfix order. -/
theorem eval_items (mode : AngleMode) (e : Phrase false r) :
    Rpn.eval mode e.items = e.value mode := by
  have h := e.runOn_items mode [] []
  rw [List.append_nil] at h
  rw [Rpn.eval, h]
  cases e.value mode <;> rfl

/-- An expression means what its derivation tree says: its tokens have the tree's
postfix order, whose run gives the tree's value, and the one fault that can
happen is a factorial of something else than a natural number. -/
theorem compiles (e : Phrase false .sum) {ts : List Token} (h : ts.map Token.lexeme = e.lexemes) :
    Rpn.ofTokens ts = .ok e.items ∧ ∀ mode, Rpn.eval mode e.items = e.value mode ∧
      ∀ fault, e.value mode = .error fault ↔ fault = .factorialDomain ∧ e.Refuses mode := by
  refine ⟨e.ofTokens h, fun mode => ⟨e.eval_items mode, fun fault => ?_⟩⟩
  rcases e.value_cases mode with ⟨x, hx, hn⟩ | ⟨hx, hr⟩
  · rw [hx]
    exact ⟨fun he => (by cases he), fun he => absurd he.2 hn⟩
  · rw [hx]
    exact ⟨fun he => ⟨(Except.error.inj he).symm, hr⟩, fun he => by rw [he.1]⟩

/-- `-2^pi!` is a power of minus two, and its exponent is refused. -/
theorem compiles_power_of_negation :
    Rpn.ofTokens [⟨.symbol '-', 0⟩, ⟨.number "2", 1⟩, ⟨.symbol '^', 2⟩, ⟨.name "pi", 3⟩,
        ⟨.symbol '!', 5⟩] =
      .ok [.number 2, .operator (.unary .neg), .number pi, .operator (.unary .factorial),
        .operator (.binary .pow)] ∧
    Rpn.eval .degrees [.number 2, .operator (.unary .neg), .number pi,
        .operator (.unary .factorial), .operator (.binary .pow)] = .error .factorialDomain := by
  have hread : Numeral.read? "2" = some 2 := by decide +kernel
  have hts : [⟨.symbol '-', 0⟩, ⟨.number "2", 1⟩, ⟨.symbol '^', 2⟩, ⟨.name "pi", 3⟩,
      ⟨.symbol '!', 5⟩].map Token.lexeme =
    [.symbol '-', .number "2", .symbol '^', .name "pi", .symbol '!'] := rfl
  have h := compiles (.ofProduct (.ofPower (.pow
    (.ofNegation (.neg (.ofAtom (.number "2" 2 hread))))
    (.ofFactorial (.factorial (.ofNegation (.ofAtom (.constant "pi" pi rfl)))))))) hts
  have hpi : Double.natural? pi = none := by decide +kernel
  refine ⟨h.1, (h.2 .degrees).1.trans (((h.2 .degrees).2 _).mpr ⟨rfl, ?_⟩)⟩
  exact .inr (.inr ⟨pi, rfl, hpi⟩)

end Phrase

end Calculator
