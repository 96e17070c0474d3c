/-
# Who has the keyboard when Enter is pressed

The entry field gives the keyboard up on Enter while it is drawn, and the key is
looked at behind it. So Enter evaluates nothing: it only takes the keyboard away,
and after it no key but Escape does anything (`enter_outcome`). The key `=` and
Ctrl+Enter evaluate the entry, and the field has the keyboard afterwards. The
session comes out the same only if there is nothing left that evaluating would
change (`Session.Steady`).

Enter would evaluate if the session asked for the keyboard just then, since that
is granted between the field and the keys; but the last pass of every gesture
grants it (`wantsFocus_run`).

Key definitions: `Session.Steady`, `Gesture.needsKeyboard`.
-/
import Calculator.Screen

namespace Calculator

/-! ### Evaluating without a change -/

theorem History.take_cons_eq_self_iff {n : Nat} {e : Entry} {es : List Entry} :
    (e :: es).take n = es ↔ es = List.replicate n e := by
  induction n generalizing es with
  | zero => exact eq_comm
  | succ n ih =>
    cases es with
    | nil => simp [List.replicate_succ]
    | cons a as =>
      rw [List.take_succ_cons, List.replicate_succ, List.cons.injEq, List.cons.injEq]
      constructor
      · rintro ⟨rfl, h⟩
        exact ⟨rfl, ih.mp h⟩
      · rintro ⟨rfl, h⟩
        exact ⟨rfl, ih.mpr h⟩

/-- Adding an entry changes nothing if and only if the history holds nothing else and is full. -/
theorem History.add_eq_self_iff {h : History} {e : Entry} :
    h.add e = h ↔ h.entries = List.replicate capacity e := by
  rw [← take_cons_eq_self_iff]
  constructor
  · intro he
    exact congrArg History.entries he
  · intro he
    exact congrArg History.mk he

namespace Session

theorem unfocus_eq_self {s : Session} (h : s.wantsFocus = false) : s.unfocus = s := by
  cases s
  cases h
  rfl

theorem evaluate_unfocus (s : Session) : s.unfocus.evaluate = s.evaluate := by
  have hexpression : s.unfocus.expression = s.expression := rfl
  have hmode : s.unfocus.mode = s.mode := rfl
  unfold Session.evaluate
  rw [hexpression, hmode]
  cases Calculator.evaluate s.mode s.expression <;> rfl

theorem wantsFocus_evaluate (s : Session) : s.evaluate.wantsFocus = true := by
  unfold Session.evaluate
  cases Calculator.evaluate s.mode s.expression <;> rfl

/-- Nothing is left that evaluating would change: the entry is its own value and the history is
full of it, or the fault that stands is the one that it would raise. -/
def Steady (s : Session) : Prop :=
  s.cursor = none ∧
  match Calculator.evaluate s.mode s.expression with
  | .ok answer =>
    s.history.entries = List.replicate 20 ⟨s.expression, answer.value⟩ ∧
      s.entry = Numeral.write Numeral.screen answer.value ∧ s.workings = answer.workings ∧
      s.message = "" ∧ s.failed = false
  | .error fault => s.message = fault.message ∧ s.failed = true ∧ s.workings = {}

theorem evaluate_eq_self_iff {s : Session} (hs : s.wantsFocus = false) :
    s.evaluate.unfocus = s ↔ s.Steady := by
  unfold Session.evaluate Steady
  cases hanswer : Calculator.evaluate s.mode s.expression with
  | ok answer =>
    simp only
    rw [← History.capacity, ← History.add_eq_self_iff]
    constructor
    · intro h
      exact ⟨(congrArg Session.cursor h).symm, congrArg Session.history h,
        (congrArg Session.entry h).symm, (congrArg Session.workings h).symm,
        (congrArg Session.message h).symm, (congrArg Session.failed h).symm⟩
    · rintro ⟨hcursor, hhistory, hentry, hworkings, hmessage, hfailed⟩
      rw [hhistory, ← hentry, ← hworkings, ← hmessage, ← hfailed, ← hcursor]
      exact unfocus_eq_self hs
  | error fault =>
    simp only
    constructor
    · intro h
      exact ⟨(congrArg Session.cursor h).symm, (congrArg Session.message h).symm,
        (congrArg Session.failed h).symm, (congrArg Session.workings h).symm⟩
    · rintro ⟨hcursor, hmessage, hfailed, hworkings⟩
      rw [← hworkings, ← hmessage, ← hfailed, ← hcursor]
      exact unfocus_eq_self hs

end Session

/-! ### Asking for the keyboard -/

namespace Screen

variable {s : Screen}

theorem grantFocus_of_not_wanted (h : s.session.wantsFocus = false) : s.grantFocus = s := by
  unfold grantFocus
  rw [Session.unfocus_eq_self h, h, Bool.or_false]

theorem grantFocus_of_focused (h : s.focused = true) :
    s.grantFocus = { s with session := s.session.unfocus } := by
  unfold grantFocus
  rw [h, Bool.true_or, ← h]

/-- Between two gestures the session does not ask for the keyboard. -/
theorem wantsFocus_apply (h : s.session.wantsFocus = false) (g : Gesture) :
    (g.apply s).session.wantsFocus = false := by
  unfold Gesture.apply
  by_cases hg : g.isPossible s = true
  · rw [if_pos hg]
    rfl
  · rw [if_neg hg]
    exact h

theorem wantsFocus_run (gs : List Gesture) :
    (Screen.fresh.run gs).session.wantsFocus = false := by
  have hstep : ∀ s : Screen, s.session.wantsFocus = false →
      ∀ g ∈ gs, (g.apply s).session.wantsFocus = false := fun s hs g _ => wantsFocus_apply hs g
  have hfresh : Screen.fresh.session.wantsFocus = false := rfl
  exact List.foldlRecOn gs Gesture.apply hfresh hstep

end Screen

/-! ### The ways to evaluate -/

theorem Screen.grantFocus_perform_evaluate (s : Screen) :
    (s.perform .evaluate).grantFocus =
      { s with session := s.session.evaluate.unfocus, focused := true } := by
  have hwanted : (s.perform .evaluate).session.wantsFocus = true := s.session.wantsFocus_evaluate
  unfold grantFocus
  rw [hwanted, Bool.or_true]
  rfl

namespace Gesture

variable {s : Screen}

theorem apply_equals (hfocused : s.focused = true) :
    (clickKey "=").apply s = { s with session := s.session.evaluate.unfocus } := by
  have hpass : s.pass (clickKey "=") =
      ({ s with focused := false } : Screen).grantFocus.perform .evaluate := rfl
  show (s.pass (clickKey "=")).grantFocus = _
  rw [hpass, Screen.grantFocus_perform_evaluate, ← hfocused]
  unfold Screen.grantFocus
  rw [Session.evaluate_unfocus]

theorem apply_ctrlEnter (hfocused : s.focused = true) :
    pressCtrlEnter.apply s = { s with session := s.session.evaluate.unfocus } := by
  have hpass : s.pass pressCtrlEnter = s.grantFocus.perform .evaluate := by
    show s.grantFocus.ifFocused .evaluate = _
    rw [Screen.grantFocus_of_focused hfocused]
    exact if_pos hfocused
  show (s.pass pressCtrlEnter).grantFocus = _
  rw [hpass, Screen.grantFocus_perform_evaluate, Screen.grantFocus_of_focused hfocused, ← hfocused]
  simp only [Session.evaluate_unfocus]

/-- The field has given the keyboard up before the key is looked at. -/
theorem apply_enter (hsettled : s.session.wantsFocus = false) :
    pressEnter.apply s = { s with focused := false } := by
  have hgrant : ({ s with focused := false } : Screen).grantFocus = { s with focused := false } :=
    Screen.grantFocus_of_not_wanted hsettled
  have hpass : s.pass pressEnter = { s with focused := false } := by
    show ({ s with focused := false } : Screen).grantFocus.ifFocused .evaluate = _
    rw [hgrant]
    rfl
  show (s.pass pressEnter).grantFocus = _
  rw [hpass, hgrant]

/-- A session that asks for the keyboard gets it back in between. -/
theorem apply_enter_of_wanted (hwanted : s.session.wantsFocus = true) :
    pressEnter.apply s = { s with session := s.session.evaluate.unfocus, focused := true } := by
  have hgrant : ({ s with focused := false } : Screen).grantFocus =
      { s with session := s.session.unfocus, focused := true } := by
    unfold Screen.grantFocus
    rw [hwanted, Bool.false_or]
  have hpass : s.pass pressEnter =
      ({ s with session := s.session.unfocus, focused := true } : Screen).perform .evaluate := by
    show ({ s with focused := false } : Screen).grantFocus.ifFocused .evaluate = _
    rw [hgrant]
    rfl
  show (s.pass pressEnter).grantFocus = _
  rw [hpass, Screen.grantFocus_perform_evaluate]
  simp only [Session.evaluate_unfocus]

/-- Whether it does anything only while the entry field has the keyboard. -/
def needsKeyboard : Gesture → Bool
  | pressUp | pressDown | pressEnter | pressCtrlEnter | type _ => true
  | _ => false

theorem apply_of_not_focused (hsettled : s.session.wantsFocus = false)
    (hfocused : s.focused = false) {g : Gesture} (hg : g.needsKeyboard = true) :
    g.apply s = s := by
  have hgrant : s.grantFocus = s := Screen.grantFocus_of_not_wanted hsettled
  have hidle : ∀ c, s.ifFocused c = s := by
    intro c
    unfold Screen.ifFocused
    rw [hfocused]
    rfl
  cases g with
  | pressEnter =>
    rw [apply_enter hsettled, ← hfocused]
  | pressUp | pressDown | pressCtrlEnter =>
    show (s.grantFocus.ifFocused _).grantFocus = s
    rw [hgrant, hidle, hgrant]
  | type text =>
    show (s.ifFocused _).grantFocus.grantFocus = s
    rw [hidle, hgrant, hgrant]
  | _ => cases hg

theorem run_of_not_focused (hsettled : s.session.wantsFocus = false) (hfocused : s.focused = false)
    {gs : List Gesture} (hgs : ∀ g ∈ gs, g.needsKeyboard = true) : s.run gs = s := by
  refine List.foldlRecOn (motive := fun t => t = s) gs Gesture.apply rfl ?_
  rintro t rfl g hg
  exact apply_of_not_focused hsettled hfocused (hgs g hg)

/-- While the entry field has the keyboard, the key `=` and Ctrl+Enter evaluate the entry and leave
it the keyboard. Enter does that only to a session that asks for the keyboard, as none does between
two gestures. To any other it only takes the keyboard away, so that no key that needs it does
anything from then on; the session comes out as with `=` if and only if evaluating has nothing to
change. -/
theorem enter_outcome (hfocused : s.focused = true) :
    (clickKey "=").apply s = { s with session := s.session.evaluate.unfocus } ∧
    pressCtrlEnter.apply s = (clickKey "=").apply s ∧
    (s.session.wantsFocus = true → pressEnter.apply s = (clickKey "=").apply s) ∧
    (s.session.wantsFocus = false →
      pressEnter.apply s = { s with focused := false } ∧
      ((pressEnter.apply s).session = ((clickKey "=").apply s).session ↔ s.session.Steady) ∧
      ∀ gs : List Gesture, (∀ g ∈ gs, g.needsKeyboard = true) →
        (pressEnter.apply s).run gs = pressEnter.apply s) ∧
    ∀ gs : List Gesture, (Screen.fresh.run gs).session.wantsFocus = false := by
  refine ⟨apply_equals hfocused, ?_, fun hwanted => ?_, fun hsettled => ?_, Screen.wantsFocus_run⟩
  · rw [apply_ctrlEnter hfocused, apply_equals hfocused]
  · rw [apply_enter_of_wanted hwanted, apply_equals hfocused, ← hfocused]
  · have henter : pressEnter.apply s = { s with focused := false } := apply_enter hsettled
    refine ⟨henter, ?_, fun gs hgs => ?_⟩
    · rw [henter, apply_equals hfocused, ← Session.evaluate_eq_self_iff hsettled]
      exact eq_comm
    · rw [henter]
      exact run_of_not_focused (s := { s with focused := false }) hsettled rfl hgs

/-- After `1+1` is typed, Enter leaves it in the entry, and `=` makes it two. -/
theorem enter_outcome_typed :
    let s := Screen.fresh.run [type "1+1"]
    s.focused = true ∧ s.session.wantsFocus = false ∧
    (pressEnter.apply s).session.entry = "1+1" ∧ (pressEnter.apply s).focused = false ∧
    ((clickKey "=").apply s).session.entry = "2" ∧ ((clickKey "=").apply s).focused = true ∧
    (pressEnter.apply s).run [pressCtrlEnter] = pressEnter.apply s := by
  intro s
  have hfocused : s.focused = true := by decide +kernel
  obtain ⟨hequals, -, -, hsettled, hrun⟩ := enter_outcome hfocused
  obtain ⟨henter, -, hlost⟩ := hsettled (hrun [type "1+1"])
  have hentry : s.session.evaluate.unfocus.entry = "2" := by decide +kernel
  refine ⟨hfocused, hrun _, ?_, ?_, ?_, ?_, hlost [pressCtrlEnter] (by decide)⟩
  · rw [henter]
    decide +kernel
  · rw [henter]
  · rw [hequals]
    exact hentry
  · rw [hequals]
    exact hfocused

end Gesture

end Calculator
