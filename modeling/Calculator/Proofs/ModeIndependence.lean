/-
# Where the angle mode matters

The mode is an argument of the postfix machine alone, and the machine only hands it on to functions.
So two runs of the same items under two modes go hand in hand for as long as every function in them
does the same under both (`Rpn.runOn_congr`), with faults and refused factorials included; and six
of the ten functions are the only ones that do not. A text has these functions in its postfix order
only if it names them (`Rpn.name_mem_of_function_mem`).

What comes before the machine knows no mode: faults of the first two stages are the same under each,
and so are the workings.

Not covered: that trigonometric functions differ under two modes, which is up to their values.
-/
import Calculator.Proofs.Conservation
import Calculator.Proofs.Stages

namespace Calculator

namespace Rpn

variable {m n : AngleMode}

/-! ### Two runs side by side -/

/-- An item does the same under two modes if it is no function that tells them apart. -/
theorem exec_congr {item : Item}
    (h : ∀ f, item = .function f → ∀ x, f.apply m x = f.apply n x) (stack : List Float) :
    exec m item stack = exec n item stack := by
  cases item with
  | number x => rfl
  | operator op => rfl
  | function f =>
    cases stack with
    | nil => rfl
    | cons x rest =>
      show Except.ok (f.apply m x :: rest) = .ok (f.apply n x :: rest)
      rw [h f rfl x]

theorem runOn_congr {items : List Item}
    (h : ∀ f, .function f ∈ items → ∀ x, f.apply m x = f.apply n x) (stack : List Float) :
    runOn m items stack = runOn n items stack := by
  induction items generalizing stack with
  | nil => rfl
  | cons item items ih =>
    have hitem : exec m item stack = exec n item stack :=
      exec_congr (fun f hf => h f (hf ▸ List.mem_cons_self)) stack
    rw [runOn_cons, runOn_cons, hitem]
    cases exec n item stack with
    | error fault => rfl
    | ok stack' => exact ih (fun f hf => h f (List.mem_cons_of_mem _ hf)) stack'

/-- Without trigonometric functions items have one value, or one fault, under all modes. -/
theorem eval_mode {items : List Item}
    (h : ∀ f, .function f ∈ items → f.isTrigonometric = false) (m n : AngleMode) :
    eval m items = eval n items := by
  rw [eval_eq, eval_eq, runOn_congr fun f hf => Function.apply_mode (h f hf) m n]

/-! ### The functions of a text -/

/-- A function of the postfix order is named by a token. -/
theorem name_mem_of_function_mem {ts : List Token} {items : List Item} {f : Function}
    (h : ofTokens ts = .ok items) (hf : .function f ∈ items) :
    .name f.name ∈ ts.map Token.lexeme := by
  obtain ⟨-, out, s, hrun, -, rfl⟩ := ofTokens_eq_ok_iff.mp h
  have hstart : State.initial.before.Agrees false := .inl rfl
  have hperm := hrun.perm_written hstart
  rw [show released State.initial.waiting = [] from rfl, List.append_nil] at hperm
  have hmem : f ∈ (written false (ts.map Token.lexeme)).filterMap Item.function? :=
    List.mem_filterMap.mpr ⟨_, hperm.mem_iff.mp hf, rfl⟩
  rw [functions_written] at hmem
  obtain ⟨l, hl, hname⟩ := List.mem_filterMap.mp hmem
  cases l with
  | number _ | symbol _ => cases hname
  | name text =>
    rw [Function.name_of_ofName? hname]
    exact hl

end Rpn

/-! ### Texts -/

/-- No token names a trigonometric function. -/
def Token.FreeOfTrigonometry (ts : List Token) : Prop :=
  ∀ f : Function, f.isTrigonometric = true → .name f.name ∉ ts.map Token.lexeme

/-- A text is evaluated without a mode up to its postfix order. -/
theorem evaluate_cases (s : String) :
    (∃ fault, ∀ m, evaluate m s = .error fault) ∨
    ∃ ts items, Token.scan s = .ok ts ∧ Rpn.ofTokens ts = .ok items ∧ ∀ m, evaluate m s =
      (Rpn.eval m items).map fun x => ⟨x, ⟨Token.line ts, Rpn.line items⟩⟩ := by
  cases hscan : Token.scan s with
  | error fault =>
    refine .inl ⟨fault, fun m => ?_⟩
    rw [evaluate_eq, hscan]
    rfl
  | ok ts =>
    cases hitems : Rpn.ofTokens ts with
    | error fault =>
      refine .inl ⟨fault, fun m => ?_⟩
      rw [evaluate_eq, hscan]
      show (Rpn.ofTokens ts).bind _ = _
      rw [hitems]
      rfl
    | ok items =>
      refine .inr ⟨ts, items, rfl, hitems, fun m => ?_⟩
      rw [evaluate_eq, hscan]
      show (Rpn.ofTokens ts).bind _ = _
      rw [hitems]
      show (Rpn.eval m items).bind _ = _
      cases Rpn.eval m items <;> rfl

/-- Items without trigonometric functions have the same value or fault under two modes, well formed
or not, and a text that names none has the same answer. For any text, a fault of its characters or
of its syntax is raised under both modes or under none, and if there are two answers their workings
are the same. -/
theorem mode_indifferent (m n : AngleMode) :
    (∀ items : List Item, (∀ f, .function f ∈ items → f.isTrigonometric = false) →
      Rpn.eval m items = Rpn.eval n items) ∧
    ∀ s : String,
      ((∀ ts, Token.scan s = .ok ts → Token.FreeOfTrigonometry ts) → evaluate m s = evaluate n s) ∧
      (∀ fault : Fault, fault.stage ≠ .arithmetic →
        (evaluate m s = .error fault ↔ evaluate n s = .error fault)) ∧
      ∀ a b : Answer, evaluate m s = .ok a → evaluate n s = .ok b → a.workings = b.workings := by
  refine ⟨fun items h => Rpn.eval_mode h m n, fun s => ?_⟩
  rcases evaluate_cases s with ⟨fault, hfault⟩ | ⟨ts, items, hscan, hitems, hvalue⟩
  · rw [hfault m, hfault n]
    exact ⟨fun _ => rfl, fun _ _ => Iff.rfl, fun a b ha _ => by cases ha⟩
  · refine ⟨fun hplain => ?_, fun fault hstage => ?_, fun a b ha hb => ?_⟩
    · have hitem : ∀ f, .function f ∈ items → f.isTrigonometric = false := fun f hf => by
        rw [Bool.eq_false_iff]
        exact fun htrig => hplain ts hscan f htrig (Rpn.name_mem_of_function_mem hitems hf)
      rw [hvalue m, hvalue n, Rpn.eval_mode hitem m n]
    · have hnone : ∀ k, evaluate k s ≠ .error fault := fun k hk => by
        rw [hvalue k] at hk
        exact hstage (Rpn.stage_of_eval_error (map_eq_error hk))
      exact iff_of_false (hnone m) (hnone n)
    · rw [hvalue m] at ha
      rw [hvalue n] at hb
      obtain ⟨x, -, rfl⟩ := map_eq_ok ha
      obtain ⟨y, -, rfl⟩ := map_eq_ok hb
      rfl

/-- A root and a factorial have one answer under both modes, items that fall short fail under both,
and so does a sine whose parenthesis stays open. -/
theorem mode_indifferent_roots :
    Rpn.eval .radians [.number 9, .function .sqrt, .operator (.binary .add)] =
      .error (.tooFewOperands "+") ∧
    evaluate .radians "sqrt(9)!" = .ok ⟨6, "sqrt ( 9 ) !", "9 sqrt !"⟩ ∧
    evaluate .radians "sin(30" = .error .unclosedParen := by
  obtain ⟨hitems, htext⟩ := mode_indifferent .degrees .radians
  obtain ⟨hplain, -, -⟩ := htext "sqrt(9)!"
  obtain ⟨-, hfault, -⟩ := htext "sin(30"
  refine ⟨?_, ?_, ?_⟩
  · rw [← hitems _ (by simp [Function.isTrigonometric])]
    decide +kernel
  · have hscan : Token.scan "sqrt(9)!" = .ok [⟨.name "sqrt", 0⟩, ⟨.symbol '(', 4⟩, ⟨.number "9", 5⟩,
        ⟨.symbol ')', 6⟩, ⟨.symbol '!', 7⟩] := by decide +kernel
    have hnames : ∀ f ∈ Function.all, f.isTrigonometric = true → Lexeme.name f.name ∉
        [.name "sqrt", .symbol '(', .number "9", .symbol ')', .symbol '!'] := by decide
    have hfree : ∀ ts, Token.scan "sqrt(9)!" = .ok ts → Token.FreeOfTrigonometry ts := by
      intro ts hts
      obtain rfl := Except.ok.inj (hts.symm.trans hscan)
      exact fun f => hnames f f.mem_all
    rw [← hplain hfree]
    decide +kernel
  · exact (hfault .unclosedParen (by decide)).mp (by decide +kernel)

end Calculator
