/-
# What folds and unfolds the history panel

The header of the history panel names the number of entries, and the panel is known by its header.
So there is a panel for each number, and a click on the header folds or unfolds the panel of the
present number alone. No other gesture touches any of them (`panelOpen_apply`), but one that changes
the number of entries brings another panel on screen, which may be open where the last one was
closed. What is on screen is open if and only if its own header was clicked an even number of times
(`historyOpen_of_run`); with one identity for all numbers it would be all clicks that count.

Key definitions: `Screen.panelOpen`, `Screen.headerClicks`.
-/
import Mathlib.Algebra.Group.Nat.Even
import Mathlib.Data.List.Nodup
import Calculator.Screen

namespace Calculator

namespace Screen

/-- The screen of a session when it has been drawn for the first time. -/
def opened (session : Session) : Screen := ({ session := session } : Screen).pass .look

/-- Whether the panel for a history of `n` entries is unfolded. -/
def panelOpen (s : Screen) (n : Nat) : Bool := !s.folded.contains n

/-- How many gestures of a run click the header while it names a number of a given kind. -/
def headerClicks (kind : Nat → Bool) : Screen → List Gesture → Nat
  | _, [] => 0
  | s, g :: gs =>
    (if g = .clickHistoryHeader ∧ kind s.session.history.length = true then 1 else 0) +
      headerClicks kind (g.apply s) gs

/-! ### One gesture -/

variable {s : Screen}

theorem folded_ifFocused (s : Screen) (c : Command) : (s.ifFocused c).folded = s.folded := by
  unfold ifFocused
  split <;> rfl

/-- Only a click on the header folds or unfolds anything. -/
theorem folded_pass (s : Screen) {g : Gesture} (hg : g ≠ .clickHistoryHeader) :
    (s.pass g).folded = s.folded := by
  cases g with
  | clickHistoryHeader => exact absurd rfl hg
  | pressEnter | pressCtrlEnter | pressUp | pressDown => exact folded_ifFocused _ _
  | type text => exact folded_ifFocused s (.type text)
  | _ => rfl

theorem folded_apply (s : Screen) {g : Gesture} (hg : g ≠ .clickHistoryHeader) :
    (g.apply s).folded = s.folded := by
  unfold Gesture.apply
  split
  · rw [folded_pass _ (by simp), folded_pass s hg]
  · rfl

theorem panelOpen_apply (s : Screen) {g : Gesture} (hg : g ≠ .clickHistoryHeader) (n : Nat) :
    (g.apply s).panelOpen n = s.panelOpen n := by
  rw [panelOpen, folded_apply s hg, panelOpen]

theorem folded_apply_header (s : Screen) :
    (Gesture.clickHistoryHeader.apply s).folded =
      if s.folded.contains s.session.history.length then s.folded.erase s.session.history.length
      else s.session.history.length :: s.folded := rfl

/-- No panel is noted twice, so that unfolding one leaves no trace of it. -/
theorem nodup_apply (h : s.folded.Nodup) (g : Gesture) : (g.apply s).folded.Nodup := by
  by_cases hg : g = .clickHistoryHeader
  · rw [hg, folded_apply_header]
    split
    next => exact h.erase _
    next hn => exact List.nodup_cons.mpr ⟨fun hmem => hn (List.contains_iff_mem.mpr hmem), h⟩
  · rw [folded_apply s hg]
    exact h

theorem panelOpen_iff {n : Nat} : s.panelOpen n = true ↔ n ∉ s.folded := by
  rw [panelOpen, Bool.not_eq_true', ← Bool.not_eq_true, List.contains_iff_mem]

/-- A click on the header turns the panel of the present number around, and no other. -/
theorem panelOpen_apply_header (h : s.folded.Nodup) (n : Nat) :
    (Gesture.clickHistoryHeader.apply s).panelOpen n = true ↔
      (s.panelOpen n = true ↔ s.session.history.length ≠ n) := by
  rw [panelOpen_iff, panelOpen_iff, folded_apply_header]
  by_cases hfolded : s.folded.contains s.session.history.length = true
  · have hmem := List.contains_iff_mem.mp hfolded
    rw [if_pos hfolded, h.mem_erase_iff]
    by_cases hn : s.session.history.length = n
    · subst hn
      simp [hmem]
    · simp [hn, Ne.symm hn]
  · have hmem : s.session.history.length ∉ s.folded := fun hm =>
      hfolded (List.contains_iff_mem.mpr hm)
    rw [if_neg hfolded, List.mem_cons]
    by_cases hn : s.session.history.length = n
    · subst hn
      simp [hmem]
    · simp [hn, Ne.symm hn]

/-! ### Runs -/

/-- A panel changes with every click on its own header. -/
theorem panelOpen_run (gs : List Gesture) (h : s.folded.Nodup) (n : Nat) :
    (s.run gs).panelOpen n = true ↔
      (s.panelOpen n = true ↔ Even (headerClicks (· == n) s gs)) := by
  induction gs generalizing s with
  | nil => simp [run, headerClicks]
  | cons g gs ih =>
    have hrun : s.run (g :: gs) = (g.apply s).run gs := rfl
    rw [hrun, ih (nodup_apply h g), headerClicks]
    by_cases hg : g = .clickHistoryHeader
    · subst hg
      rw [panelOpen_apply_header h]
      by_cases hn : s.session.history.length = n
      · simp only [hn, beq_self_eq_true, and_self, if_true, Nat.add_comm 1, Nat.even_add_one]
        tauto
      · simp [hn]
    · rw [panelOpen_apply s hg]
      simp [hg]

/-- Each click on the header is one while it names a number of a kind, or of none of that kind. -/
theorem headerClicks_add_not (kind : Nat → Bool) (s : Screen) (gs : List Gesture) :
    headerClicks kind s gs + headerClicks (fun n => !kind n) s gs =
      gs.count .clickHistoryHeader := by
  induction gs generalizing s with
  | nil => rfl
  | cons g gs ih =>
    rw [headerClicks, headerClicks, List.count_cons, ← ih (g.apply s)]
    by_cases hg : g = .clickHistoryHeader
    · cases kind s.session.history.length <;> simp [hg] <;> omega
    · simp [hg]

/-- After any gestures the history panel is open if and only if its header was clicked an even
number of times while it named the number of entries that it names now. So it is all clicks on the
header that decide if and only if those under other numbers are even in number. No other gesture
folds or unfolds the panel of any number. -/
theorem historyOpen_of_run (session : Session) (gs : List Gesture) :
    let start := opened session
    let s := start.run gs
    let n := s.session.history.length
    let own := headerClicks (fun m => m == n) start gs
    let others := headerClicks (fun m => !(m == n)) start gs
    (s.historyOpen = true ↔ Even own) ∧
    own + others = gs.count .clickHistoryHeader ∧
    ((s.historyOpen = true ↔ Even (gs.count .clickHistoryHeader)) ↔ Even others) ∧
    ∀ g : Gesture, g ≠ .clickHistoryHeader → ∀ m, (g.apply s).panelOpen m = s.panelOpen m := by
  intro start s n own others
  have hstart : start.folded = [] := folded_pass _ nofun
  have hall : own + others = gs.count .clickHistoryHeader := headerClicks_add_not _ start gs
  have hopen : s.historyOpen = true ↔ Even own := by
    have hnodup : start.folded.Nodup := by
      rw [hstart]
      exact List.nodup_nil
    have hfirst : start.panelOpen n = true := by
      rw [panelOpen, hstart]
      rfl
    show s.panelOpen n = true ↔ Even own
    rw [panelOpen_run gs hnodup n, hfirst, eq_self_iff_true, true_iff]
  refine ⟨hopen, hall, ?_, fun g hg m => panelOpen_apply s hg m⟩
  rw [hopen, ← hall, Nat.even_add]
  tauto

/-- The panel is folded by one click while the history is empty, and is open after an evaluation
that nobody clicked for: the click was one under another number. -/
theorem historyOpen_of_run_evaluated :
    let before := opened .fresh |>.run [.clickHistoryHeader, .clickKey "1"]
    let s := opened .fresh |>.run [.clickHistoryHeader, .clickKey "1", .clickKey "="]
    before.historyOpen = false ∧ s.historyOpen = true ∧
    [Gesture.clickHistoryHeader, .clickKey "1", .clickKey "="].count .clickHistoryHeader = 1 ∧
    (∀ n, s.panelOpen n = before.panelOpen n) := by
  intro before s
  obtain ⟨hopen, -, -, -⟩ :=
    historyOpen_of_run .fresh [.clickHistoryHeader, .clickKey "1", .clickKey "="]
  obtain ⟨hopen', -, -, hkept⟩ := historyOpen_of_run .fresh [.clickHistoryHeader, .clickKey "1"]
  refine ⟨?_, hopen.mpr (by decide +kernel), by decide, hkept (.clickKey "=") nofun⟩
  rw [Bool.eq_false_iff]
  exact fun h => absurd (hopen'.mp h) (by decide +kernel)

end Screen

end Calculator
