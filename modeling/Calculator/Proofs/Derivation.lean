/-
# Expressions without a missing operand have a derivation tree

Tokens that have a postfix order and lack no operand are spelled by a tree of
the grammar (`spelled_of_ofTokens`): with commas in it if they have commas, and
without otherwise.

The tokens are read from the left, and what has been read of the innermost open
parentheses is at any time a complete phrase, or one that any operand completes
(`Progress`). The trees are never taken apart for that: each suffix that a token
may add has a tree again, as it goes to the rightmost phrase of its rank
(`Extends`).

Key definitions: `Spelled`, `Awaiting`, `Progress`.
-/
import Calculator.Grammar
import Calculator.Proofs.Balance

namespace Calculator

/-! ### Spellings and what may follow them -/

section Spelling

variable {commas : Bool} {r : Rank}

/-- The lexemes spell a tree of a rank. -/
def Spelled (commas : Bool) (r : Rank) (ls : List Lexeme) : Prop :=
  ∃ e : Phrase commas r, e.lexemes = ls

/-- The lexemes and any operand after them spell a tree of a rank. -/
def Awaiting (commas : Bool) (r : Rank) (ls : List Lexeme) : Prop :=
  ∀ n : Phrase commas .negation, Spelled commas r (ls ++ n.lexemes)

/-- The lexemes may follow any tree of a rank. -/
def Extends (commas : Bool) (r : Rank) (ls : List Lexeme) : Prop :=
  ∀ e : Phrase commas r, Spelled commas r (e.lexemes ++ ls)

/-- What may follow a last factor may follow a power that ends in it. -/
theorem extends_power {ls : List Lexeme}
    (h : ∀ e : Phrase commas .factorial, Spelled commas .power (e.lexemes ++ ls)) :
    Extends commas .power ls
  | .ofFactorial e => h e
  | .pow l r => by
    obtain ⟨r', hr⟩ := extends_power h r
    exact ⟨.pow l r', by simp [Phrase.lexemes, hr]⟩

theorem extends_product {ls : List Lexeme} (h : Extends commas .power ls) :
    Extends commas .product ls
  | .ofPower e => by
    obtain ⟨e', he⟩ := h e
    exact ⟨.ofPower e', he⟩
  | .mul l r => by
    obtain ⟨r', hr⟩ := h r
    exact ⟨.mul l r', by simp [Phrase.lexemes, hr]⟩
  | .div l r => by
    obtain ⟨r', hr⟩ := h r
    exact ⟨.div l r', by simp [Phrase.lexemes, hr]⟩

theorem extends_sum {ls : List Lexeme} (h : Extends commas .product ls) : Extends commas .sum ls
  | .ofProduct e => by
    obtain ⟨e', he⟩ := h e
    exact ⟨.ofProduct e', he⟩
  | .add l r => by
    obtain ⟨r', hr⟩ := h r
    exact ⟨.add l r', by simp [Phrase.lexemes, hr]⟩
  | .sub l r => by
    obtain ⟨r', hr⟩ := h r
    exact ⟨.sub l r', by simp [Phrase.lexemes, hr]⟩

theorem extends_arguments {ls : List Lexeme} (h : Extends commas .sum ls) :
    Extends commas .arguments ls
  | .one e => by
    obtain ⟨e', he⟩ := h e
    exact ⟨.one e', he⟩
  | .more allowed es e => by
    obtain ⟨e', he⟩ := h e
    exact ⟨.more allowed es e', by simp [Phrase.lexemes, he]⟩

/-- The rank of what is in parentheses of a depth; outside there are no commas. -/
def groupRank : Nat → Rank
  | 0 => .sum
  | _ + 1 => .arguments

theorem extends_groupRank {ls : List Lexeme} (h : Extends commas .sum ls) :
    ∀ d, Extends commas (groupRank d) ls
  | 0 => h
  | _ + 1 => extends_arguments h

theorem extends_factorial : Extends commas .sum [.symbol '!'] :=
  extends_sum (extends_product (extends_power fun e => ⟨.ofFactorial (.factorial e), rfl⟩))

/-- An operator between two operands and its right operand may follow any sum. -/
theorem extends_binary {c : Char} {op : BinaryOp} (h : Operator.ofChar? c = some (.binary op))
    (n : Phrase commas .negation) : Extends commas .sum (.symbol c :: n.lexemes) := by
  unfold Operator.ofChar? at h
  split at h <;> cases h
  · exact fun e => ⟨.add e (.ofPower (.ofFactorial (.ofNegation n))), rfl⟩
  · exact fun e => ⟨.sub e (.ofPower (.ofFactorial (.ofNegation n))), rfl⟩
  · exact extends_sum fun e => ⟨.mul e (.ofFactorial (.ofNegation n)), rfl⟩
  · exact extends_sum fun e => ⟨.div e (.ofFactorial (.ofNegation n)), rfl⟩
  · exact extends_sum (extends_product (extends_power fun e =>
      ⟨.pow e (.ofFactorial (.ofNegation n)), rfl⟩))

theorem awaiting_nil : ∀ d, Awaiting commas (groupRank d) []
  | 0 => fun n => ⟨.ofProduct (.ofPower (.ofFactorial (.ofNegation n))), rfl⟩
  | _ + 1 => fun n => ⟨.one (.ofProduct (.ofPower (.ofFactorial (.ofNegation n)))), rfl⟩

theorem Awaiting.atom {ls ms : List Lexeme} (h : Awaiting commas r ls)
    (ha : Spelled commas .atom ms) : Spelled commas r (ls ++ ms) := by
  obtain ⟨a, rfl⟩ := ha
  exact h (.ofAtom a)

theorem Awaiting.neg {ls : List Lexeme} (h : Awaiting commas r ls) :
    Awaiting commas r (ls ++ [.symbol '-']) := by
  intro n
  rw [List.append_assoc]
  exact h (.neg n)

theorem Spelled.factorial {d : Nat} {ls : List Lexeme} (h : Spelled commas (groupRank d) ls) :
    Spelled commas (groupRank d) (ls ++ [.symbol '!']) := by
  obtain ⟨e, rfl⟩ := h
  exact extends_groupRank extends_factorial d e

theorem Spelled.binary {d : Nat} {ls : List Lexeme} {c : Char} {op : BinaryOp}
    (h : Spelled commas (groupRank d) ls) (hc : Operator.ofChar? c = some (.binary op)) :
    Awaiting commas (groupRank d) (ls ++ [.symbol c]) := by
  obtain ⟨e, rfl⟩ := h
  intro n
  rw [List.append_assoc]
  exact extends_groupRank (extends_binary hc n) d e

theorem Spelled.comma {ls : List Lexeme} (h : Spelled commas .arguments ls)
    (allowed : commas = true) : Awaiting commas .arguments (ls ++ [.symbol ',']) := by
  obtain ⟨es, rfl⟩ := h
  intro n
  rw [List.append_assoc]
  exact ⟨.more allowed es (.ofProduct (.ofPower (.ofFactorial (.ofNegation n)))), rfl⟩

theorem Spelled.group {ls : List Lexeme} (h : Spelled commas .arguments ls) :
    Spelled commas .atom (.symbol '(' :: (ls ++ [.symbol ')'])) := by
  obtain ⟨es, rfl⟩ := h
  exact ⟨.group es, rfl⟩

theorem Spelled.call {ls : List Lexeme} (f : Function) (h : Spelled commas .arguments ls) :
    Spelled commas .atom (.name f.name :: .symbol '(' :: (ls ++ [.symbol ')'])) := by
  obtain ⟨es, rfl⟩ := h
  exact ⟨.call f es, rfl⟩

theorem spelled_literal {l : Lexeme} {x : Float} (h : Rpn.literal? l = some x) :
    Spelled commas .atom [l] := by
  cases l with
  | number text => exact ⟨.number text x h, rfl⟩
  | name name => exact ⟨.constant name x h, rfl⟩
  | symbol c => cases h

end Spelling

namespace Rpn

/-! ### What has been read -/

variable {commas : Bool}

/-- A text up to the parenthesis that opens its innermost group: each group
before stands where an operand has to come. -/
inductive Opening (commas : Bool) : Nat → List Lexeme → Prop
  | start : Opening commas 0 []
  | group {d : Nat} {outer inner : List Lexeme} (before : Opening commas d outer)
    (awaiting : Awaiting commas (groupRank d) inner) :
    Opening commas (d + 1) (outer ++ (inner ++ [.symbol '(']))
  | call {d : Nat} {outer inner : List Lexeme} (f : Function) (before : Opening commas d outer)
    (awaiting : Awaiting commas (groupRank d) inner) :
    Opening commas (d + 1) (outer ++ (inner ++ [.name f.name, .symbol '(']))

/-- What the innermost group holds so far, by the kind of its last token. -/
def Inner (commas : Bool) (r : Rank) (ls : List Lexeme) : Before → Prop
  | .value => Spelled commas r ls
  | .function f => ∃ ms, ls = ms ++ [.name f.name] ∧ Awaiting commas r ms
  | _ => Awaiting commas r ls

/-- How many parentheses are open. -/
def State.depth (s : State) : Nat := s.waiting.count .paren

/-- The lexemes that led to a state lack no operand so far. -/
def Progress (commas : Bool) (s : State) (ls : List Lexeme) : Prop :=
  ∃ outer inner, ls = outer ++ inner ∧ Opening commas s.depth outer ∧
    Inner commas (groupRank s.depth) inner s.before

theorem inner_of_awaits {b : Before} {r : Rank} {ls : List Lexeme} (hb : b.awaitsOperand = true) :
    Inner commas r ls b ↔ Awaiting commas r ls := by
  cases b with
  | value | function _ => cases hb
  | _ => rfl

theorem depth_takeCall (ws : List Waiting) : (takeCall ws).2.count .paren = ws.count .paren := by
  unfold takeCall
  split
  · simp
  · rfl

theorem depth_eq_count_fromParen (s : State) : s.depth = s.fromParen.count .paren := by
  rw [State.depth, ← s.above_append_fromParen, List.count_append,
    List.count_eq_zero.mpr s.paren_notMem_above, Nat.zero_add]

theorem depth_pushOperator (s : State) (op : Operator) : (pushOperator s op).2.depth = s.depth := by
  rw [depth_eq_count_fromParen, fromParen_pushOperator, ← depth_eq_count_fromParen]

/-- The nearest parenthesis is one, and the others are below it. -/
theorem depth_of_waiting {s : State} {above below : List Waiting}
    (waiting : s.waiting = above ++ .paren :: below) (inner : .paren ∉ above) :
    s.depth = below.count .paren + 1 := by
  rw [State.depth, waiting, List.count_append, List.count_eq_zero.mpr inner, List.count_cons_self,
    Nat.zero_add]

/-- An operator goes with what the group holds if it lacks no operand on its left. -/
theorem Inner.operator {d : Nat} {ls : List Lexeme} {b : Before} {c : Char} {op : Operator}
    (h : Inner commas (groupRank d) ls b) (sign : operatorAt? b c = some op)
    (before : ∀ f, b ≠ .function f) (hg : gap b.awaitsOperand (.symbol c) = 0) :
    Inner commas (groupRank d) (ls ++ [.symbol c]) (.ofOperator op) := by
  cases ha : b.awaitsOperand with
  | false =>
    rw [Before.eq_value ha before] at sign h
    rcases operatorAt?_cases sign with ⟨-, hb, -⟩ | ⟨rfl, rfl⟩ | ⟨o, rfl, ho, -⟩
    · cases hb
    · exact h.factorial
    · exact h.binary ho
  | true =>
    rw [inner_of_awaits ha] at h
    rcases operatorAt?_cases sign with ⟨rfl, -, rfl⟩ | ⟨rfl, rfl⟩ | ⟨o, rfl, ho, hm⟩
    · exact h.neg
    · simp [gap, ha, Lexeme.leans] at hg
    · -- where an operand has to come only a minus sign leaves no gap
      unfold Operator.ofChar? at ho
      split at ho <;> cases ho
      case h_2 => simp [ha] at hm
      all_goals simp [gap, ha, Lexeme.leans] at hg

/-- A closing parenthesis turns what the group holds into an atom of the text around it. -/
theorem Opening.close {d : Nat} {outer inner : List Lexeme} (h : Opening commas (d + 1) outer)
    (hi : Spelled commas .arguments inner) :
    ∃ outer' inner', outer ++ (inner ++ [.symbol ')']) = outer' ++ inner' ∧
      Opening commas d outer' ∧ Spelled commas (groupRank d) inner' := by
  cases h with
  | @group _ outer' inner' before awaiting =>
    refine ⟨outer', _, ?_, before, awaiting.atom hi.group⟩
    simp
  | @call _ outer' inner' f before awaiting =>
    refine ⟨outer', _, ?_, before, awaiting.atom (hi.call f)⟩
    simp

/-- A token that lacks no operand before it makes progress. -/
theorem Moves.progress {s s' : State} {l : Lexeme} {out : List Item} {ls : List Lexeme}
    (h : Moves s l out s') (hs : s.before = .start → s.waiting = [])
    (hg : gap s.before.awaitsOperand l = 0) (hc : l = .symbol ',' → commas = true)
    (hp : Progress commas s ls) : Progress commas s' (ls ++ [l]) := by
  obtain ⟨outer, inner, rfl, ho, hi⟩ := hp
  rw [List.append_assoc]
  cases h with
  | literal value awaits =>
    exact ⟨outer, _, rfl, ho, ((inner_of_awaits awaits).mp hi).atom (spelled_literal value)⟩
  | @function f awaits =>
    have hd : State.depth ⟨.function f :: s.waiting, .function f⟩ = s.depth := by simp [State.depth]
    exact ⟨outer, _, rfl, hd ▸ ho, inner, rfl, hd ▸ (inner_of_awaits awaits).mp hi⟩
  | opening before =>
    have hd : State.depth ⟨.paren :: s.waiting, .openParen⟩ = s.depth + 1 := by simp [State.depth]
    refine ⟨outer ++ (inner ++ [.symbol '(']), [], (List.append_nil _).symm, ?_, awaiting_nil _⟩
    rw [hd]
    rcases before with hb | ⟨f, hf⟩
    · exact .group ho ((inner_of_awaits hb).mp hi)
    · rw [hf] at hi
      obtain ⟨ms, rfl, ha⟩ := hi
      have := Opening.call f ho ha
      rwa [List.append_assoc]
  | @closing above below before waiting notin =>
    have hb : s.before = .value := before.resolve_right fun hb => by simp [hs hb] at waiting
    have hd : s.depth = (takeCall below).2.count .paren + 1 := by
      rw [depth_of_waiting waiting notin, depth_takeCall]
    rw [hd] at ho hi
    rw [hb] at hi
    exact ho.close hi
  | @comma above below before waiting notin =>
    have hd : s.depth = below.count .paren + 1 := depth_of_waiting waiting notin
    have hd' : State.depth ⟨.paren :: below, .comma⟩ = below.count .paren + 1 :=
      List.count_cons_self
    rw [before] at hi
    rw [hd] at ho hi
    rw [Progress, hd']
    exact ⟨outer, _, rfl, ho, Spelled.comma hi (hc rfl)⟩
  | @operator c op sign before =>
    rw [Progress, depth_pushOperator s op]
    exact ⟨outer, _, rfl, ho, hi.operator sign before hg⟩

theorem Runs.spelled {s s' : State} {ms : List Lexeme} {out : List Item} (h : Runs s ms out s')
    (hs : s.before = .start → s.waiting = []) (hm : missingFrom s.before.awaitsOperand ms = 0)
    (hc : .symbol ',' ∈ ms → commas = true) (hclosed : s'.Closed) :
    ∀ {ls : List Lexeme}, Progress commas s ls → Spelled commas .sum (ls ++ ms) := by
  induction h with
  | nil s =>
    rintro ls ⟨outer, inner, rfl, ho, hi⟩
    have ha : s.before.awaitsOperand = false := by
      cases ha : s.before.awaitsOperand with
      | false => rfl
      | true => simp [missingFrom, ha] at hm
    have hd : s.depth = 0 := List.count_eq_zero.mpr hclosed.waiting
    rw [hd, Before.eq_value ha hclosed.before] at hi
    rw [hd] at ho
    cases ho
    rw [List.append_nil]
    exact hi
  | @cons s s' s'' l ms out later first rest ih =>
    intro ls hp
    rw [missingFrom] at hm
    have hp' := first.progress hs (by omega) (fun he => hc (he ▸ List.mem_cons_self ..)) hp
    have := ih (fun he => absurd he first.ne_start) (by rw [first.awaits]; omega)
      (fun hi => hc (List.mem_cons_of_mem _ hi)) hclosed hp'
    rwa [List.append_assoc] at this

end Rpn

/-- Tokens that have a postfix order and lack no operand have a derivation tree. -/
theorem spelled_of_ofTokens {commas : Bool} {ts : List Token} {items : List Item}
    (h : Rpn.ofTokens ts = .ok items) (hm : Rpn.missing (ts.map Token.lexeme) = 0)
    (hc : .symbol ',' ∈ ts.map Token.lexeme → commas = true) :
    Spelled commas .sum (ts.map Token.lexeme) := by
  obtain ⟨-, out, s, hrun, hclosed, rfl⟩ := Rpn.ofTokens_eq_ok_iff.mp h
  have hstart : Rpn.Progress commas .initial [] := ⟨[], [], rfl, .start, awaiting_nil 0⟩
  exact hrun.spelled (fun _ => rfl) hm hc hclosed hstart

end Calculator
