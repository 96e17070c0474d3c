/-
# How things lie on the stack of the ordering

Operators, functions and open parentheses wait on one stack, and a token only looks at its top part.
What makes that enough is how things lie on one another (`Waiting.LiesOn`): on a function only its
parenthesis, and on an operator only one that binds tighter, or the same one again if it is a power
or a negation. Each move keeps this (`Moves.stacked`). The one place where the token before is
needed for it is a negation, which would have to lie on a factorial that is as tight; but a
factorial completes a value, and a minus sign behind a value subtracts.

While a parenthesis waits, the stack below it is the one it was read with, and all parentheses
opened since are closed again (`Runs.exists_opening`). So the function that a closing parenthesis
sends out is the one named in front of the parenthesis that it closes.

Key definitions: `Operator.WaitsOn`, `Waiting.LiesOn`, `Rpn.State.Stacked`, `Rpn.Balanced`,
`Rpn.unclosed`.
-/
import Mathlib.Data.List.Chain
import Calculator.Proofs.Surroundings

namespace Calculator

/-! ### Operators on one another -/

namespace Operator

/-- It may wait on top of the other: it binds tighter, or both are powers or both negations. -/
def WaitsOn (upper lower : Operator) : Prop :=
  lower.precedence < upper.precedence ∨
    upper = lower ∧ (upper = .binary .pow ∨ upper = .unary .neg)

instance (upper lower : Operator) : Decidable (upper.WaitsOn lower) :=
  inferInstanceAs (Decidable (_ ∨ _ ∧ _))

theorem WaitsOn.trans {a b c : Operator} (h : a.WaitsOn b) (h' : b.WaitsOn c) : a.WaitsOn c := by
  rcases h with hlt | ⟨rfl, -⟩
  · rcases h' with hlt' | ⟨rfl, -⟩
    · exact .inl (hlt'.trans hlt)
    · exact .inl hlt
  · exact h'

theorem WaitsOn.precedence_le {upper lower : Operator} (h : upper.WaitsOn lower) :
    lower.precedence ≤ upper.precedence := by
  rcases h with hlt | ⟨rfl, -⟩
  · exact Nat.le_of_lt hlt
  · exact Nat.le_refl _

theorem WaitsOn.eq_of_precedence_eq {upper lower : Operator} (h : upper.WaitsOn lower)
    (heq : lower.precedence = upper.precedence) :
    upper = lower ∧ (upper = .binary .pow ∨ upper = .unary .neg) :=
  h.resolve_left (Nat.not_lt.mpr (Nat.le_of_eq heq.symm))

end Operator

namespace Rpn

namespace Waiting

/-- It may lie directly on the other. -/
def LiesOn : Waiting → Waiting → Prop
  | paren, _ => True
  | _, function _ => False
  | operator upper, operator lower => upper.WaitsOn lower
  | _, _ => True

/-- Nothing binds tighter than a negation. -/
theorem yieldsTo_neg (w : Waiting) : w.yieldsTo (.unary .neg) = false := by
  cases w with
  | paren | function _ => rfl
  | operator op =>
    have htable : ∀ op ∈ Operator.all, (operator op).yieldsTo (.unary .neg) = false := by decide
    exact htable op op.mem_all

/-- An operator comes to lie on one that does not yield to it, unless that is a factorial below a
negation. -/
theorem waitsOn_of_yieldsTo {op top : Operator} (h : (operator top).yieldsTo op = false)
    (hneg : ¬ (op = .unary .neg ∧ top = .unary .factorial)) : op.WaitsOn top := by
  have htable : ∀ op ∈ Operator.all, ∀ top ∈ Operator.all, (operator top).yieldsTo op = false →
      ¬ (op = .unary .neg ∧ top = .unary .factorial) → op.WaitsOn top := by decide
  exact htable op op.mem_all top top.mem_all h hneg

end Waiting

/-! ### The stack after any tokens -/

/-- Everything lies where it may. A function is on top only right after its name, and a factorial
only while a value is complete. -/
structure State.Stacked (s : State) : Prop where
  chain : s.waiting.IsChain Waiting.LiesOn
  function : ∀ f, s.waiting.head? = some (.function f) → s.before = .function f
  factorial : s.waiting.head? = some (.operator (.unary .factorial)) → s.before = .value

theorem stacked_initial : State.initial.Stacked where
  chain := .nil
  function := by simp [State.initial]
  factorial := by simp [State.initial]

/-- On every function lies a parenthesis, unless it was just read. -/
theorem State.Stacked.covered {s : State} (hs : s.Stacked) {up down : List Waiting} {f : Function}
    (h : s.waiting = up ++ .function f :: down) :
    up.getLast? = some .paren ∨ up = [] ∧ s.before = .function f := by
  rcases List.eq_nil_or_concat up with rfl | ⟨init, w, rfl⟩
  · refine .inr ⟨rfl, hs.function f ?_⟩
    rw [h]
    rfl
  · have hchain := hs.chain
    rw [h, List.concat_eq_append, List.append_assoc, List.singleton_append] at hchain
    have hw : w.LiesOn (.function f) := (List.isChain_append_cons_cons.mp hchain).2.1
    cases w with
    | paren => exact .inl (by simp)
    | operator _ | function _ => exact hw.elim

/-- Behind anything but the name of a function only operators wait above the nearest parenthesis. -/
theorem State.Stacked.above {s : State} (hs : s.Stacked) (hb : ∀ f, s.before ≠ .function f) :
    ∀ w ∈ s.above, ∃ op, w = .operator op := by
  intro w hw
  obtain ⟨up, rest, hup⟩ := List.append_of_mem hw
  have hwaiting : s.waiting = up ++ w :: (rest ++ s.fromParen) := by
    rw [← s.above_append_fromParen, hup, List.append_assoc, List.cons_append]
  cases w with
  | operator op => exact ⟨op, rfl⟩
  | paren => exact absurd hw s.paren_notMem_above
  | function f =>
    rcases hs.covered hwaiting with hlast | ⟨-, hf⟩
    · have hmem : .paren ∈ s.above := hup ▸ List.mem_append_left _ (List.mem_of_getLast? hlast)
      exact absurd hmem s.paren_notMem_above
    · exact absurd hf (hb f)

/-- Nothing yields to a negation, so the factorial that it would lie on is on top; but then a value
is complete, and the sign subtracts. -/
theorem State.Stacked.not_neg_on_factorial {s : State} {c : Char} {up down : List Waiting}
    (hs : s.Stacked) (h : s.waiting = up ++ .operator (.unary .factorial) :: down)
    (hyields : ∀ w ∈ up, w.yieldsTo (.unary .neg) = true) :
    operatorAt? s.before c ≠ some (.unary .neg) := by
  intro sign
  have hup : up = [] := List.eq_nil_iff_forall_not_mem.mpr fun w hw =>
    Bool.false_ne_true ((Waiting.yieldsTo_neg w).symm.trans (hyields w hw))
  have hvalue : s.before = .value := hs.factorial (by rw [h, hup]; rfl)
  rcases operatorAt?_cases sign with ⟨-, hawaits, -⟩ | ⟨-, hop⟩ | ⟨o, hop, -⟩
  · rw [hvalue] at hawaits
    cases hawaits
  · cases hop
  · cases hop

/-- Between two operators without a parenthesis between them there are only operators, each waiting
on the next. -/
theorem waitsOn_of_chain : ∀ {mid down : List Waiting} {upper lower : Operator},
    (Waiting.operator upper :: (mid ++ .operator lower :: down)).IsChain Waiting.LiesOn →
    .paren ∉ mid → upper.WaitsOn lower
  | [], _, _, _, h, _ => (List.isChain_cons_cons.mp h).1
  | .paren :: _, _, _, _, _, hm => absurd List.mem_cons_self hm
  | .function _ :: _, _, _, _, h, _ => (List.isChain_cons_cons.mp h).1.elim
  | .operator _ :: _, _, _, _, h, hm =>
    have h := List.isChain_cons_cons.mp h
    have hlower := waitsOn_of_chain h.2 fun hp => hm (List.mem_cons_of_mem _ hp)
    Operator.WaitsOn.trans h.1 hlower

/-- An operator comes to lie on the first that does not yield to it. -/
theorem State.Stacked.pushOperator {s : State} {c : Char} {op : Operator} (hs : s.Stacked)
    (sign : operatorAt? s.before c = some op) (before : ∀ f, s.before ≠ .function f) :
    (pushOperator s op).2.Stacked where
  chain := by
    refine (hs.chain.suffix (List.dropWhile_suffix _)).cons fun w hw => ?_
    have hfirst : s.waiting.find? (fun w => !w.yieldsTo op) = some w := by
      rw [List.find?_not_eq_head?_dropWhile]
      exact hw
    obtain ⟨hstays, up, down, hsplit, hyields⟩ := List.find?_eq_some_iff_append.mp hfirst
    simp only [Bool.not_eq_true', Bool.not_not] at hstays hyields
    cases w with
    | paren => exact trivial
    | function f =>
      rcases hs.covered hsplit with hlast | ⟨-, hf⟩
      · cases hyields _ (List.mem_of_getLast? hlast)
      · exact absurd hf (before f)
    | operator top =>
      refine Waiting.waitsOn_of_yieldsTo hstays ?_
      rintro ⟨rfl, rfl⟩
      exact hs.not_neg_on_factorial hsplit hyields sign
  function := by simp [Rpn.pushOperator]
  factorial := by
    intro h
    obtain rfl : op = .unary .factorial := by simpa [Rpn.pushOperator] using h
    rfl

/-- Without the call at its top a chain still is one, and then no function is on top. -/
theorem chain_takeCall {ws : List Waiting} (h : ws.IsChain Waiting.LiesOn) :
    (takeCall ws).2.IsChain Waiting.LiesOn := by
  unfold takeCall
  split
  · exact h.tail
  · exact h

theorem head?_takeCall {ws : List Waiting} (h : ws.IsChain Waiting.LiesOn) (f : Function) :
    (takeCall ws).2.head? ≠ some (.function f) := by
  intro hf
  unfold takeCall at hf
  split at hf
  · exact (h.rel_head? hf).elim
  next hcall =>
    obtain ⟨vs, rfl⟩ := List.head?_eq_some_iff.mp hf
    exact hcall f vs rfl

theorem Moves.stacked {s s' : State} {l : Lexeme} {out : List Item} (h : Moves s l out s')
    (hs : s.Stacked) : s'.Stacked := by
  have hawaits : s.before.awaitsOperand = true → ∀ f, s.waiting.head? ≠ some (.function f) := by
    intro hb f hf
    rw [hs.function f hf] at hb
    cases hb
  cases h with
  | literal value awaits =>
    exact ⟨hs.chain, fun f hf => absurd hf (hawaits awaits f), fun _ => rfl⟩
  | @function f awaits =>
    refine ⟨hs.chain.cons fun w hw => ?_, fun g hg => ?_, fun h => by cases h⟩
    · cases w with
      | function g => exact absurd hw (hawaits awaits g)
      | paren | operator _ => exact trivial
    · cases hg
      rfl
  | opening before => exact ⟨hs.chain.cons fun _ _ => trivial, by simp, by simp⟩
  | @closing above below before waiting inner =>
    have hchain := hs.chain
    rw [waiting] at hchain
    have hbelow : below.IsChain Waiting.LiesOn := hchain.right_of_append.tail
    exact ⟨chain_takeCall hbelow, fun f hf => absurd hf (head?_takeCall hbelow f), fun _ => rfl⟩
  | @comma above below before waiting inner =>
    have hchain := hs.chain
    rw [waiting] at hchain
    exact ⟨hchain.right_of_append, by simp, by simp⟩
  | operator sign before => exact hs.pushOperator sign before

theorem Runs.stacked {s s' : State} {ls : List Lexeme} {out : List Item} (h : Runs s ls out s')
    (hs : s.Stacked) : s'.Stacked := by
  induction h with
  | nil => exact hs
  | cons first _ ih => exact ih (first.stacked hs)

/-- The name of a function leaves its mark on the state, and nothing else does. -/
theorem Moves.eq_name {s s' : State} {l : Lexeme} {out : List Item} {f : Function}
    (h : Moves s l out s') (hf : s'.before = .function f) : l = .name f.name := by
  cases h with
  | function _ =>
    cases hf
    rfl
  | literal _ _ | opening _ | closing _ _ _ | comma _ _ _ => cases hf
  | operator sign _ =>
    rcases operatorAt?_cases sign with ⟨-, -, rfl⟩ | ⟨-, rfl⟩ | ⟨o, rfl, -, -⟩ <;> cases hf

theorem Runs.getLast?_eq_name {ls : List Lexeme} {out : List Item} {s : State} {f : Function}
    (h : Runs .initial ls out s) (hf : s.before = .function f) :
    ls.getLast? = some (.name f.name) := by
  rcases h.last with ⟨-, rfl⟩ | ⟨l, s₀, sent, hl, move⟩
  · cases hf
  · rw [hl, move.eq_name hf]

/-! ### What goes out -/

theorem released_operators : ∀ {ws : List Waiting}, (∀ w ∈ ws, ∃ op, w = .operator op) →
    ∃ ops : List Operator, released ws = ops.map .operator
  | [], _ => ⟨[], rfl⟩
  | w :: ws, h => by
    obtain ⟨op, rfl⟩ := h w List.mem_cons_self
    obtain ⟨ops, hops⟩ := released_operators fun v hv => h v (List.mem_cons_of_mem _ hv)
    refine ⟨op :: ops, ?_⟩
    rw [List.map_cons, ← hops]
    rfl

theorem function_notMem_released {ws : List Waiting} (h : ∀ w ∈ ws, ∃ op, w = .operator op)
    (f : Function) : .function f ∉ released ws := by
  obtain ⟨ops, hops⟩ := released_operators h
  simp [hops]

/-- A function goes out only at a closing parenthesis, if it lies right below the one that this
closes. -/
theorem Moves.function_mem {s s' : State} {l : Lexeme} {out : List Item} {f : Function}
    (h : Moves s l out s') (hs : s.Stacked) (hf : .function f ∈ out) :
    l = .symbol ')' ∧ ∃ (ops : List Operator) (below : List Waiting),
      out = ops.map .operator ++ [.function f] ∧ s.fromParen = .paren :: .function f :: below := by
  cases h with
  | literal _ _ | function _ | opening _ => simp at hf
  | @closing above below before waiting inner =>
    have hb : ∀ g, s.before ≠ .function g := by
      rintro g hg
      rcases before with hb | hb <;> rw [hb] at hg <;> cases hg
    obtain ⟨rfl, hfrom⟩ := split_at_paren.mpr ⟨rfl, waiting, inner⟩
    obtain ⟨ops, hops⟩ := released_operators (hs.above hb)
    have hcall := (List.mem_append.mp hf).resolve_left (function_notMem_released (hs.above hb) f)
    unfold takeCall at hcall ⊢
    split at hcall
    next g ws =>
      cases List.mem_singleton.mp hcall
      exact ⟨rfl, ops, ws, by rw [hops], hfrom⟩
    next => cases hcall
  | @comma above below before waiting inner =>
    obtain ⟨rfl, -⟩ := split_at_paren.mpr ⟨rfl, waiting, inner⟩
    exact absurd hf (function_notMem_released (hs.above (by simp [before])) f)
  | @operator c op sign before =>
    refine absurd hf (function_notMem_released (fun w hw => ?_) f)
    exact eq_operator_of_yieldsTo (List.mem_takeWhile_imp hw)

/-- At the end only operators go out. -/
theorem function_notMem_of_finish {s : State} {later : List Item} {f : Function} (hs : s.Stacked)
    (h : finish s = .ok later) : .function f ∉ later := by
  obtain ⟨hclosed, rfl⟩ := finish_eq_ok_iff.mp h
  have habove : s.above = s.waiting := List.takeWhile_eq_self_iff.mpr fun w hw => by
    rw [Bool.not_eq_true', isParen_eq_false]
    rintro rfl
    exact hclosed.waiting hw
  rw [← habove]
  exact function_notMem_released (hs.above hclosed.before) f

/-! ### Parentheses in the text and on the stack -/

/-- Each parenthesis among the lexemes has its partner among them. -/
inductive Balanced : List Lexeme → Prop
  | nil : Balanced []
  | other {ls : List Lexeme} {l : Lexeme} (before : Balanced ls) (notOpen : l ≠ .symbol '(')
    (notClose : l ≠ .symbol ')') : Balanced (ls ++ [l])
  | group {ls ms : List Lexeme} (before : Balanced ls) (inner : Balanced ms) :
    Balanced (ls ++ .symbol '(' :: (ms ++ [.symbol ')']))

/-- How many parentheses are open after a lexeme, if so many were before. -/
def openAfter (open₀ : Nat) : Lexeme → Nat
  | .symbol '(' => open₀ + 1
  | .symbol ')' => open₀ - 1
  | _ => open₀

/-- How many parentheses are opened in the lexemes and not closed there. -/
def unclosed (ls : List Lexeme) : Nat := ls.foldl openAfter 0

theorem fromParen_takeCall (ws : List Waiting) (b b' : Before) :
    State.fromParen ⟨(takeCall ws).2, b⟩ = State.fromParen ⟨ws, b'⟩ := by
  unfold takeCall
  split <;> rfl

/-- What a move does to the parentheses that wait: it puts its own on top of all, takes the nearest
one away, or leaves it and all below as they are. -/
theorem Moves.parens {s s' : State} {l : Lexeme} {out : List Item} (h : Moves s l out s') :
    l = .symbol '(' ∧ s'.waiting = .paren :: s.waiting ∨
    (l = .symbol ')' ∧ ∃ below, s.fromParen = .paren :: below ∧ s'.waiting = (takeCall below).2) ∨
    l ≠ .symbol '(' ∧ l ≠ .symbol ')' ∧ s'.fromParen = s.fromParen := by
  cases h with
  | @literal l x value awaits =>
    cases l with
    | number _ | name _ => exact .inr (.inr ⟨nofun, nofun, rfl⟩)
    | symbol _ => cases value
  | function _ => exact .inr (.inr ⟨nofun, nofun, rfl⟩)
  | opening _ => exact .inl ⟨rfl, rfl⟩
  | closing before waiting inner =>
    obtain ⟨-, hfrom⟩ := split_at_paren.mpr ⟨rfl, waiting, inner⟩
    exact .inr (.inl ⟨rfl, _, hfrom, rfl⟩)
  | comma before waiting inner =>
    obtain ⟨-, hfrom⟩ := split_at_paren.mpr ⟨rfl, waiting, inner⟩
    exact .inr (.inr ⟨by simp, by simp, hfrom.symm⟩)
  | operator sign before =>
    obtain ⟨hopen, hclose, -⟩ := ne_of_operatorAt? sign
    exact .inr (.inr ⟨by simp [hopen], by simp [hclose], fromParen_pushOperator s _⟩)

/-- The nearest parenthesis that waits was read with what is below it waiting, and the lexemes since
are balanced. -/
theorem Runs.exists_opening {ls : List Lexeme} {out : List Item} {s : State} {w : Waiting}
    {below : List Waiting} (h : Runs .initial ls out s) (hw : s.fromParen = w :: below) :
    ∃ outer inner sent s₁, ls = outer ++ .symbol '(' :: inner ∧ Balanced inner ∧
      Runs .initial outer sent s₁ ∧ s₁.waiting = below := by
  induction hn : ls.length using Nat.strongRecOn generalizing ls out s w below with
  | ind n ih =>
  rcases List.eq_nil_or_concat ls with rfl | ⟨front, l, rfl⟩
  · cases h
    cases hw
  rw [List.concat_eq_append] at h hn ⊢
  obtain ⟨s₀, sent, last, hfront, move⟩ := h.split_last
  have hshort : front.length < n := by
    rw [← hn, List.length_append]
    exact Nat.lt_succ_self _
  rcases move.parens with ⟨rfl, hpush⟩ | ⟨rfl, below₀, hfrom, hpop⟩ | ⟨hopen, hclose, hsame⟩
  · rw [State.fromParen, hpush] at hw
    obtain ⟨-, rfl⟩ := List.cons.inj hw
    exact ⟨front, [], sent, s₀, rfl, .nil, hfront, rfl⟩
  · -- what is closed lies in front as a whole, behind the parenthesis that is now the nearest
    obtain ⟨outer, inner, sent, s₁, rfl, hinner, houter, hbelow⟩ := ih _ hshort hfront hfrom rfl
    have hnext : s₁.fromParen = w :: below := by
      rw [← hw, State.fromParen, State.fromParen, hpop, hbelow]
      exact (fromParen_takeCall below₀ .start .start).symm
    have hshorter : outer.length < n := by
      rw [List.length_append] at hshort
      omega
    obtain ⟨outer', inner', sent', s₂, rfl, hinner', houter', hbelow'⟩ :=
      ih _ hshorter houter hnext rfl
    exact ⟨outer', _, sent', s₂, by simp, hinner'.group hinner, houter', hbelow'⟩
  · rw [hsame] at hw
    obtain ⟨outer, inner, sent, s₁, rfl, hinner, houter, hbelow⟩ := ih _ hshort hfront hw rfl
    exact ⟨outer, inner ++ [l], sent, s₁, by simp, hinner.other hopen hclose, houter, hbelow⟩

theorem Moves.depth_eq {s s' : State} {l : Lexeme} {out : List Item} (h : Moves s l out s') :
    s'.depth = openAfter s.depth l := by
  have hdepth := h.depth
  cases l with
  | number _ | name _ => exact hdepth
  | symbol c =>
    by_cases hopen : c = '('
    · subst hopen
      exact hdepth
    by_cases hclose : c = ')'
    · subst hclose
      exact Nat.eq_sub_of_add_eq hdepth
    · simpa [openAfter, hopen, hclose] using hdepth

theorem Runs.depth_eq {s s' : State} {ls : List Lexeme} {out : List Item} (h : Runs s ls out s') :
    s'.depth = ls.foldl openAfter s.depth := by
  induction h with
  | nil => rfl
  | cons first _ ih => rw [ih, first.depth_eq, List.foldl_cons]

/-- The function that a token sends out is named in front of the parenthesis that the token closes.
-/
theorem Runs.exists_call {ls : List Lexeme} {out : List Item} {s : State} {f : Function}
    {below : List Waiting} (h : Runs .initial ls out s)
    (hf : s.fromParen = .paren :: .function f :: below) :
    ∃ outer inner, ls = outer ++ .name f.name :: .symbol '(' :: inner ∧ Balanced inner := by
  obtain ⟨outer, inner, sent, s₁, rfl, hinner, houter, hbelow⟩ := h.exists_opening hf
  have hmark : s₁.before = .function f :=
    (houter.stacked stacked_initial).function f (by rw [hbelow]; rfl)
  obtain ⟨before, rfl⟩ := List.getLast?_eq_some_iff.mp (houter.getLast?_eq_name hmark)
  exact ⟨before, inner, by simp, hinner⟩

/-- Right behind the name of a function nothing but a parenthesis is read. -/
theorem step_of_function {s : State} {t : Token} {f : Function} (hf : s.before = .function f)
    (ht : t.lexeme ≠ .symbol '(') : step s t = .error (.missingParen f.name) := by
  refine step_of_refuses? ?_
  obtain ⟨l, p⟩ := t
  rw [hf]
  cases l with
  | number _ | name _ => rfl
  | symbol c =>
    -- this is what sends simp past the branch of the parenthesis
    have hc : c ≠ '(' := fun hc => ht (congrArg Lexeme.symbol hc)
    simp [Before.refuses?]

/-- After any tokens that are read without a fault, each function has its parenthesis right on top,
unless it is on top itself and was just read, and then nothing but that parenthesis may follow. So
what goes out above the nearest parenthesis are operators only, and a function goes out at the
parenthesis that closes its call and nowhere else. Of two operators without a parenthesis between
them the upper one binds no less tight, and as tight only if both are powers or both negations. And
as many parentheses wait as were opened and not closed. -/
theorem waiting_of_run {ts : List Token} {out : List Item} {s : State}
    (h : run .initial ts = .ok (out, s)) :
    (∀ up f down, s.waiting = up ++ .function f :: down → up.getLast? = some .paren ∨
      up = [] ∧ (ts.map Token.lexeme).getLast? = some (.name f.name)) ∧
    ((∀ w ∈ s.above, ∃ op, w = .operator op) ∨
      ∃ f : Function, finish s = .error (.missingParen f.name) ∧
        ∀ t, t.lexeme ≠ .symbol '(' → step s t = .error (.missingParen f.name)) ∧
    (∀ t sent s' f, step s t = .ok (sent, s') → .function f ∈ sent →
      t.lexeme = .symbol ')' ∧ (∃ ops : List Operator, sent = ops.map .operator ++ [.function f]) ∧
      ∃ outer inner, ts.map Token.lexeme = outer ++ .name f.name :: .symbol '(' :: inner ∧
        Balanced inner) ∧
    (∀ later f, finish s = .ok later → .function f ∉ later) ∧
    (∀ up upper mid lower down,
      s.waiting = up ++ .operator upper :: (mid ++ .operator lower :: down) → .paren ∉ mid →
      lower.precedence ≤ upper.precedence ∧ (lower.precedence = upper.precedence →
        upper = lower ∧ (upper = .binary .pow ∨ upper = .unary .neg))) ∧
    s.waiting.count .paren = unclosed (ts.map Token.lexeme) := by
  have hruns := runs_of_run h
  have hs := hruns.stacked stacked_initial
  refine ⟨fun up f down hw => ?_, ?_, fun t sent s' f hstep hf => ?_,
    fun later f hfinish => function_notMem_of_finish hs hfinish,
    fun up upper mid lower down hw hmid => ?_, hruns.depth_eq⟩
  · rcases hs.covered hw with hlast | ⟨hup, hf⟩
    · exact .inl hlast
    · exact .inr ⟨hup, hruns.getLast?_eq_name hf⟩
  · by_cases hb : ∃ f, s.before = .function f
    · obtain ⟨f, hf⟩ := hb
      exact .inr ⟨f, by rw [finish, hf], fun t ht => step_of_function hf ht⟩
    · exact .inl (hs.above (not_exists.mp hb))
  · obtain ⟨ht, ops, below, hsent, hfrom⟩ := (step_eq_ok_iff.mp hstep).function_mem hs hf
    exact ⟨ht, ⟨ops, hsent⟩, hruns.exists_call hfrom⟩
  · have hchain := hs.chain
    rw [hw] at hchain
    have hwaits := waitsOn_of_chain hchain.right_of_append hmid
    exact ⟨hwaits.precedence_le, hwaits.eq_of_precedence_eq⟩

/-- In `-ln(3^4^5!` one power waits on the other and both on the parenthesis of the call, which the
next closing parenthesis completes. -/
theorem waiting_of_run_open_call :
    run .initial [⟨.symbol '-', 0⟩, ⟨.name "ln", 1⟩, ⟨.symbol '(', 3⟩, ⟨.number "3", 4⟩,
        ⟨.symbol '^', 5⟩, ⟨.number "4", 6⟩, ⟨.symbol '^', 7⟩, ⟨.number "5", 8⟩, ⟨.symbol '!', 9⟩] =
      .ok ([.number 3, .number 4, .number 5],
        ⟨[.operator (.unary .factorial), .operator (.binary .pow), .operator (.binary .pow), .paren,
          .function .ln, .operator (.unary .neg)], .value⟩) ∧
    [Waiting.operator (.unary .factorial), .operator (.binary .pow), .operator (.binary .pow),
      .paren].getLast? = some .paren ∧
    (∃ outer inner, [Lexeme.symbol '-', .name "ln", .symbol '(', .number "3", .symbol '^',
        .number "4", .symbol '^', .number "5", .symbol '!'] =
        outer ++ .name "ln" :: .symbol '(' :: inner ∧ Balanced inner) ∧
    (Operator.binary .pow).precedence ≤ (Operator.unary .factorial).precedence ∧
    1 = unclosed [.symbol '-', .name "ln", .symbol '(', .number "3", .symbol '^', .number "4",
      .symbol '^', .number "5", .symbol '!'] := by
  have h : run .initial [⟨.symbol '-', 0⟩, ⟨.name "ln", 1⟩, ⟨.symbol '(', 3⟩, ⟨.number "3", 4⟩,
        ⟨.symbol '^', 5⟩, ⟨.number "4", 6⟩, ⟨.symbol '^', 7⟩, ⟨.number "5", 8⟩, ⟨.symbol '!', 9⟩] =
      .ok ([.number 3, .number 4, .number 5],
        ⟨[.operator (.unary .factorial), .operator (.binary .pow), .operator (.binary .pow), .paren,
          .function .ln, .operator (.unary .neg)], .value⟩) := by decide +kernel
  obtain ⟨hcovered, -, hcalls, -, hordered, hopen⟩ := waiting_of_run h
  have hcall := hcalls ⟨.symbol ')', 10⟩ [.operator (.unary .factorial), .operator (.binary .pow),
    .operator (.binary .pow), .function .ln] ⟨[.operator (.unary .neg)], .value⟩ .ln rfl (by simp)
  exact ⟨h, (hcovered _ .ln [.operator (.unary .neg)] rfl).resolve_right (by simp), hcall.2.2,
    (hordered [] (.unary .factorial) [.operator (.binary .pow)] (.binary .pow) _ rfl (by simp)).1,
    hopen⟩

end Rpn

end Calculator
