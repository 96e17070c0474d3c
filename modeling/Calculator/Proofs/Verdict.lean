/-
# One counter decides whether tokens have a postfix order

The ordering keeps a stack of operators, functions and parentheses. Of all that,
what it accepts depends on the kind of the token before and on the number of
parentheses that wait: with each token a checker that keeps only these two fails
where the ordering fails and for the same reason, and else stays its image
(`checker_step`). So precedence and associativity decide about the order of the
items, and never about whether there is one (`verdict_of_tokens`).

No invariant of the stack is needed for that: the image is taken of any state,
also of one that no tokens lead to.

Key definitions: `Rpn.openParens`, `Rpn.State.image`.
-/
import Calculator.Proofs.Places
import Calculator.Rpn.Checker

namespace Calculator.Rpn

/-! ### Parentheses that wait -/

/-- How many parentheses wait. -/
def openParens (ws : List Waiting) : Nat := ws.countP Waiting.isParen

theorem openParens_paren (ws : List Waiting) : openParens (.paren :: ws) = openParens ws + 1 :=
  List.countP_cons_of_pos rfl

theorem openParens_of_not_paren {w : Waiting} (hw : w.isParen = false) (ws : List Waiting) :
    openParens (w :: ws) = openParens ws :=
  List.countP_cons_of_neg (by rw [hw]; exact Bool.false_ne_true)

theorem openParens_function (f : Function) (ws : List Waiting) :
    openParens (.function f :: ws) = openParens ws := openParens_of_not_paren rfl ws

theorem openParens_eq_zero_iff {ws : List Waiting} :
    openParens ws = 0 ↔ ws.any Waiting.isParen = false := by
  rw [openParens, List.countP_eq_zero, List.any_eq_false]

/-- Above the nearest parenthesis there is none. -/
theorem openParens_fromParen (s : State) : openParens s.fromParen = openParens s.waiting := by
  have habove : s.above.countP Waiting.isParen = 0 := List.countP_eq_zero.mpr fun w hw hp =>
    s.paren_notMem_above (isParen_eq_true.mp hp ▸ hw)
  rw [← s.above_append_fromParen, openParens, openParens, List.countP_append, habove, Nat.zero_add]

theorem openParens_takeCall (ws : List Waiting) : openParens (takeCall ws).2 = openParens ws := by
  unfold takeCall
  split
  · exact (openParens_of_not_paren rfl _).symm
  · rfl

theorem openParens_pushOperator (s : State) (op : Operator) :
    openParens (pushOperator s op).2.waiting = openParens s.waiting := by
  rw [← openParens_fromParen, fromParen_pushOperator, openParens_fromParen]

/-! ### The image of a state -/

/-- What the checker keeps of a state. -/
def State.image (s : State) : Checker.State := ⟨s.before, openParens s.waiting⟩

/-- No parenthesis is found if and only if none is counted. -/
theorem fromParen_eq_nil_iff {s : State} : s.fromParen = [] ↔ s.image.depth = 0 := by
  show _ ↔ openParens s.waiting = 0
  rw [← openParens_fromParen]
  constructor
  · intro h
    rw [h]
    rfl
  · intro h
    cases hf : s.fromParen with
    | nil => rfl
    | cons w below =>
      obtain ⟨rfl, -, -⟩ := split_at_paren.mp ⟨rfl, hf⟩
      rw [hf, openParens_paren] at h
      cases h

/-- The nearest parenthesis is one of those that are counted. -/
theorem openParens_below {s : State} {w : Waiting} {below : List Waiting}
    (h : s.fromParen = w :: below) : openParens below + 1 = s.image.depth := by
  obtain ⟨rfl, -, -⟩ := split_at_paren.mp ⟨rfl, h⟩
  show _ = openParens s.waiting
  rw [← openParens_fromParen, h, openParens_paren]

/-! ### One token -/

/-- What the checker makes of a token is the image of what the ordering makes of it. -/
def Follows (s : State) (t : Token) : Prop :=
  Checker.step s.image t = (step s t).map fun r => r.2.image

variable (s : State) (p : Nat)

/-- What may not follow the token before is refused by both, whatever waits. -/
theorem follows_of_refuses? {t : Token} {f : Fault} (h : s.before.refuses? t = some f) :
    Follows s t := by
  have hstep : step s t = .error f := by rw [step, h]
  have hchecker : Checker.step s.image t = .error f := by
    unfold Before.refuses? at h
    unfold Checker.step State.image
    split at h <;> simp_all [Checker.operand, Checker.close, Checker.comma]
  rw [Follows, hchecker, hstep]
  rfl

theorem follows_number (text : String) : Follows s ⟨.number text, p⟩ := by
  cases hb : s.before with
  | value | function _ => exact follows_of_refuses? s (by rw [hb]; rfl)
  | start | operator | openParen | comma =>
    cases hx : Numeral.read? text <;>
      simp [Follows, State.image, Checker.step, Checker.operand, Checker.number, step,
        Before.refuses?, hb, hx, Except.map]

theorem follows_name (name : String) : Follows s ⟨.name name, p⟩ := by
  cases hb : s.before with
  | value | function _ => exact follows_of_refuses? s (by rw [hb]; rfl)
  | start | operator | openParen | comma =>
    cases hx : constant? name with
    | some x =>
      simp [Follows, State.image, Checker.step, Checker.operand, Checker.name, step,
        Before.refuses?, hb, hx, Except.map]
    | none =>
      cases hf : Function.ofName? name <;>
        simp [Follows, State.image, Checker.step, Checker.operand, Checker.name, step,
          Before.refuses?, hb, hx, hf, Except.map, openParens_function]

theorem follows_open : Follows s ⟨.symbol '(', p⟩ := by
  cases hb : s.before with
  | value => exact follows_of_refuses? s (by rw [hb]; rfl)
  | start | operator | openParen | comma | function _ =>
    simp [Follows, State.image, Checker.step, Checker.operand, step, Before.refuses?, hb,
      Except.map, openParens_paren]

theorem follows_close : Follows s ⟨.symbol ')', p⟩ := by
  cases hb : s.before with
  | operator | openParen | comma | function _ => exact follows_of_refuses? s (by rw [hb]; rfl)
  | value | start =>
    cases hf : s.fromParen with
    | nil =>
      have hdepth : openParens s.waiting = 0 := fromParen_eq_nil_iff.mp hf
      simp [Follows, State.image, Checker.step, Checker.close, step, Before.refuses?, hb, hf,
        hdepth, Except.map]
    | cons w below =>
      have hdepth : openParens s.waiting = openParens below + 1 := (openParens_below hf).symm
      simp [Follows, State.image, Checker.step, Checker.close, step, Before.refuses?, hb, hf,
        hdepth, Except.map, openParens_takeCall]

theorem follows_comma : Follows s ⟨.symbol ',', p⟩ := by
  cases hb : s.before with
  | start | operator | openParen | comma | function _ =>
    exact follows_of_refuses? s (by rw [hb]; rfl)
  | value =>
    cases hf : s.fromParen with
    | nil =>
      have hdepth : openParens s.waiting = 0 := fromParen_eq_nil_iff.mp hf
      simp [Follows, State.image, Checker.step, Checker.comma, step, Before.refuses?, hb, hf,
        hdepth, Except.map]
    | cons w below =>
      have hdepth : openParens s.waiting = openParens below + 1 := (openParens_below hf).symm
      have hparens : openParens (w :: below) = openParens below + 1 := by
        rw [← hf, openParens_fromParen, hdepth]
      simp [Follows, State.image, Checker.step, Checker.comma, step, Before.refuses?, hb, hf,
        hdepth, hparens, Except.map]

/-- Whether a minus sign negates or subtracts does not matter to what may follow it. -/
theorem ofOperator_operatorAt? (b : Before) (c : Char) :
    (operatorAt? b c).map Before.ofOperator = (Operator.ofChar? c).map Before.ofOperator := by
  rw [operatorAt?, Option.map_map]
  refine Option.map_congr fun op _ => ?_
  by_cases hop : op = .binary .sub ∧ b.awaitsOperand = true
  · obtain ⟨rfl, hb⟩ := hop
    simp [hb, Before.ofOperator, Operator.fixity]
  · simp [hop]

/-- The checker's list of operators is the table. -/
theorem checker_operator (s : Checker.State) (t : Token) (c : Char) :
    Checker.operator s t c =
      match Operator.ofChar? c with
      | some op => .ok ⟨.ofOperator op, s.depth⟩
      | none => .error (.unexpectedChar t.position c) := by
  cases hop : Operator.ofChar? c with
  | none =>
    unfold Operator.ofChar? at hop
    split at hop <;> simp_all [Checker.operator]
  | some op =>
    unfold Operator.ofChar? at hop
    split at hop <;> cases hop <;> rfl

theorem follows_operator {c : Char} (h₁ : c ≠ '(') (h₂ : c ≠ ')') (h₃ : c ≠ ',') :
    Follows s ⟨.symbol c, p⟩ := by
  cases hb : s.before with
  | function f =>
    have hrefused : s.before.refuses? ⟨.symbol c, p⟩ = some (.missingParen f.name) := by
      simp [Before.refuses?, hb, h₁]
    exact follows_of_refuses? s hrefused
  | value | start | operator | openParen | comma =>
    have hallowed : s.before.refuses? ⟨.symbol c, p⟩ = none := by
      rw [refuses?_eq_none_iff, allows_symbol h₁ h₂ h₃, hb]
      simp
    have hchecker : Checker.step s.image ⟨.symbol c, p⟩ =
        Checker.operator s.image ⟨.symbol c, p⟩ c := by
      simp [Checker.step, State.image, hb]
    have hkind := ofOperator_operatorAt? s.before c
    rw [Follows, hchecker, checker_operator]
    cases hop : operatorAt? s.before c with
    | none =>
      rw [hop] at hkind
      have hnone := Option.map_eq_none_iff.mp hkind.symm
      simp [step, hallowed, hop, hnone, Except.map]
    | some op =>
      rw [hop] at hkind
      obtain ⟨op', hsome, hsame⟩ := Option.map_eq_some_iff.mp hkind.symm
      have himage : (pushOperator s op).2.image = ⟨.ofOperator op, s.image.depth⟩ :=
        congrArg (Checker.State.mk _) (openParens_pushOperator s op)
      simp [step, hallowed, hop, hsome, hsame, himage, Except.map]

/-- With each token the checker stays the image of the ordering. -/
theorem checker_step (s : State) (t : Token) :
    Checker.step s.image t = (step s t).map fun r => r.2.image := by
  obtain ⟨l, p⟩ := t
  match l with
  | .number text => exact follows_number s p text
  | .name name => exact follows_name s p name
  | .symbol c =>
    by_cases h₁ : c = '('
    · subst h₁
      exact follows_open s p
    by_cases h₂ : c = ')'
    · subst h₂
      exact follows_close s p
    by_cases h₃ : c = ','
    · subst h₃
      exact follows_comma s p
    exact follows_operator s p h₁ h₂ h₃

/-! ### All tokens -/

theorem checker_run (s : State) (ts : List Token) :
    ts.foldlM Checker.step s.image = (run s ts).map fun r => r.2.image := by
  induction ts generalizing s with
  | nil => rfl
  | cons t ts ih =>
    rw [List.foldlM_cons, checker_step, run_cons]
    cases step s t with
    | error fault => rfl
    | ok r =>
      show ts.foldlM Checker.step r.2.image = ((run r.2 ts).map _).map _
      rw [ih r.2]
      cases run r.2 ts <;> rfl

theorem checker_finish (s : State) :
    Checker.finish s.image = (finish s).map fun _ => () := by
  have hopen : openParens s.waiting = 0 ↔ s.waiting.any Waiting.isParen = false :=
    openParens_eq_zero_iff
  cases hb : s.before with
  | function f => simp [Checker.finish, finish, State.image, hb, Except.map]
  | value | start | operator | openParen | comma =>
    cases hw : s.waiting.any Waiting.isParen <;>
      simp [Checker.finish, finish, State.image, hb, hw, hopen, Except.map]

/-- Whether tokens have a postfix order, and if not why, is what the checker says of them, which
keeps the kind of the token before and the number of open parentheses. -/
theorem verdict_of_tokens (ts : List Token) :
    (ofTokens ts).map (fun _ => ()) = Checker.verdict ts := by
  cases ts with
  | nil => rfl
  | cons t ts =>
    have hverdict : Checker.verdict (t :: ts) =
        ((t :: ts).foldlM Checker.step State.initial.image).bind Checker.finish := rfl
    rw [hverdict, checker_run, ofTokens_eq_itemsFrom (List.cons_ne_nil t ts), itemsFrom]
    cases run .initial (t :: ts) with
    | error fault => rfl
    | ok r =>
      show ((finish r.2).map (r.1 ++ ·)).map _ = Checker.finish r.2.image
      rw [checker_finish]
      cases finish r.2 <;> rfl

end Calculator.Rpn
