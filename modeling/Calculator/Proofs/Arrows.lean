/-
# The arrow keys are a counter that stops at both ends

Count the places that the cursor can be at from the newest on: place 0 is the free entry, and
place `p + 1` is history entry `p`. Then the upper arrow adds one to the place, up to the oldest
entry, and the lower arrow takes one away, down to the free entry (`Session.press_eq`). A key that
moves the cursor brings up what is at its new place, and one that does not changes nothing; neither
touches the history, the mode, the last fault or the workings (`Session.place_of_arrows`).

Indices are unbounded here. That the keys never need an index beyond the length of the history, and
never one below zero, is said by a version of them whose arithmetic is checked.

Key definitions: `Arrow.shift`, `Session.place`, `Session.browse`, `Session.browse?`.
-/
import Calculator.Session

namespace Calculator

/-- The two keys that browse the history. -/
inductive Arrow
  | up
  | down
  deriving DecidableEq, Repr

namespace Arrow

def command : Arrow → Command
  | up => .older
  | down => .newer

/-- What a key makes of a place among those of `n` history entries. -/
def shift (n p : Nat) : Arrow → Nat
  | up => min (p + 1) n
  | down => p - 1

end Arrow

namespace Session

/-- The place of the cursor: 0 is the free entry, `p + 1` is history entry `p`. -/
def place (s : Session) : Nat :=
  match s.cursor with
  | none => 0
  | some i => i + 1

/-- The cursor is in the history, if it is anywhere. -/
def Placed (s : Session) : Prop := ∀ i, s.cursor = some i → i < s.history.length

/-- Goes to a place and brings up what is there. -/
def visit (s : Session) : Nat → Session
  | 0 => s.clearEntry
  | p + 1 => s.revisit p

/-- What browsing leaves alone. -/
structure SameRecord (s t : Session) : Prop where
  history : t.history = s.history
  mode : t.mode = s.mode
  message : t.message = s.message
  workings : t.workings = s.workings

def press (s : Session) (a : Arrow) : Session := a.command.apply s

/-- The session after arrow keys one after the other. -/
def browse (s : Session) (as : List Arrow) : Session := as.foldl press s

theorem SameRecord.refl (s : Session) : s.SameRecord s := ⟨rfl, rfl, rfl, rfl⟩

theorem SameRecord.trans {s t u : Session} (h : s.SameRecord t) (h' : t.SameRecord u) :
    s.SameRecord u :=
  ⟨h'.history.trans h.history, h'.mode.trans h.mode, h'.message.trans h.message,
    h'.workings.trans h.workings⟩

theorem Placed.place_le {s : Session} (h : s.Placed) : s.place ≤ s.history.length := by
  unfold place
  cases hc : s.cursor with
  | none => exact Nat.zero_le _
  | some i => exact h i hc

/-! ### Going to a place -/

theorem revisit_of_lt {s : Session} {i : Nat} (h : i < s.history.length) :
    ∃ e, s.history.get? i = some e ∧
      s.revisit i = { s with
        entry := e.expression, failed := false, cursor := some i, wantsFocus := true } := by
  have hget : s.history.get? i = some s.history.entries[i] := List.getElem?_eq_getElem h
  exact ⟨_, hget, by rw [revisit, hget]⟩

/-- What is at a place is brought up: an empty screen, or the expression of the history entry. -/
theorem visit_of_le {s : Session} {p : Nat} (h : p ≤ s.history.length) :
    (s.visit p).place = p ∧ (s.visit p).failed = false ∧ s.SameRecord (s.visit p) ∧
      (p = 0 → (s.visit p).entry = "") ∧
      ∀ q, p = q + 1 → ∃ e, s.history.get? q = some e ∧ (s.visit p).entry = e.expression := by
  cases p with
  | zero => exact ⟨rfl, rfl, ⟨rfl, rfl, rfl, rfl⟩, fun _ => rfl, nofun⟩
  | succ i =>
    obtain ⟨e, hget, hvisit⟩ := revisit_of_lt h
    have hsame : s.visit (i + 1) = s.revisit i := rfl
    rw [hsame, hvisit]
    refine ⟨rfl, rfl, ⟨rfl, rfl, rfl, rfl⟩, nofun, fun q hq => ?_⟩
    obtain rfl : i = q := Nat.succ.inj hq
    exact ⟨e, hget, rfl⟩

/-! ### One key -/

/-- A key goes to the place that it shifts the cursor to, and does nothing where that is the same
place. -/
theorem press_eq {s : Session} (h : s.Placed) (a : Arrow) :
    s.press a =
      if a.shift s.history.length s.place = s.place then s
      else s.visit (a.shift s.history.length s.place) := by
  cases a with
  | up =>
    have holder : s.press .up = if s.place < s.history.length then s.revisit s.place else s := by
      show s.older = _
      unfold older place
      cases s.cursor <;> rfl
    have hle := h.place_le
    rw [holder]
    by_cases hlt : s.place < s.history.length
    · have hshift : Arrow.up.shift s.history.length s.place = s.place + 1 := Nat.min_eq_left hlt
      rw [if_pos hlt, hshift, if_neg (Nat.succ_ne_self _)]
      rfl
    · have hshift : Arrow.up.shift s.history.length s.place = s.place := by
        show min (s.place + 1) s.history.length = s.place
        omega
      rw [if_neg hlt, if_pos hshift]
  | down =>
    show s.newer = _
    unfold newer place Arrow.shift
    rcases s.cursor with _ | _ | i
    · rfl
    · rfl
    · have hmoved : i + 1 + 1 - 1 ≠ i + 1 + 1 := by omega
      simp only [if_neg hmoved]
      rfl

theorem shift_le {s : Session} (h : s.Placed) (a : Arrow) :
    a.shift s.history.length s.place ≤ s.history.length := by
  have hle := h.place_le
  cases a with
  | up => exact Nat.min_le_right _ _
  | down => exact Nat.le_trans (Nat.sub_le _ _) hle

theorem place_press {s : Session} (h : s.Placed) (a : Arrow) :
    (s.press a).place = a.shift s.history.length s.place := by
  rw [press_eq h]
  by_cases hstay : a.shift s.history.length s.place = s.place
  · rw [if_pos hstay, hstay]
  · rw [if_neg hstay]
    exact (visit_of_le (shift_le h a)).1

theorem sameRecord_press {s : Session} (h : s.Placed) (a : Arrow) : s.SameRecord (s.press a) := by
  rw [press_eq h]
  split
  · exact .refl s
  · exact (visit_of_le (shift_le h a)).2.2.1

theorem placed_of_place_le {s : Session} (h : s.place ≤ s.history.length) : s.Placed := by
  intro i hi
  rw [place, hi] at h
  exact h

theorem Placed.press {s : Session} (h : s.Placed) (a : Arrow) : (s.press a).Placed := by
  refine placed_of_place_le ?_
  rw [place_press h, (sameRecord_press h a).history]
  exact shift_le h a

/-! ### Checked indices -/

/-- The next index, if indices go up to `bound`. -/
def succ? (bound i : Nat) : Option Nat := if i < bound then some (i + 1) else none

/-- The index before, which zero does not have. -/
def pred? (i : Nat) : Option Nat := if i = 0 then none else some (i - 1)

/-- `older` with indices up to `bound`. -/
def older? (bound : Nat) (s : Session) : Option Session :=
  (match s.cursor with
    | none => some 0
    | some i => succ? bound i).map fun i => if i < s.history.length then s.revisit i else s

/-- `newer` with indices from zero on. -/
def newer? (s : Session) : Option Session :=
  match s.cursor with
  | none => some s
  | some i => if i = 0 then some s.clearEntry else (pred? i).map s.revisit

def press? (bound : Nat) (s : Session) : Arrow → Option Session
  | .up => s.older? bound
  | .down => s.newer?

/-- The session after arrow keys, if all indices can be computed. -/
def browse? (bound : Nat) (s : Session) : List Arrow → Option Session
  | [] => some s
  | a :: as => (s.press? bound a).bind (browse? bound · as)

/-- Indices up to the length of the history suffice for a key. -/
theorem press?_eq {s : Session} {bound : Nat} (h : s.Placed) (hb : s.history.length ≤ bound)
    (a : Arrow) : s.press? bound a = some (s.press a) := by
  cases a with
  | up =>
    show s.older? bound = some s.older
    unfold older? older
    cases hc : s.cursor with
    | none => rfl
    | some i =>
      have hi : i < bound := Nat.lt_of_lt_of_le (h i hc) hb
      simp only [succ?, if_pos hi, Option.map_some]
  | down =>
    show s.newer? = some s.newer
    unfold newer? newer
    rcases s.cursor with _ | _ | i <;> rfl

/-! ### Any number of keys -/

theorem browse_cons (s : Session) (a : Arrow) (as : List Arrow) :
    s.browse (a :: as) = (s.press a).browse as := rfl

theorem Placed.browse {s : Session} (h : s.Placed) (as : List Arrow) :
    (s.browse as).Placed ∧ s.SameRecord (s.browse as) ∧
      (s.browse as).place = as.foldl (Arrow.shift s.history.length) s.place := by
  induction as generalizing s with
  | nil => exact ⟨h, .refl s, rfl⟩
  | cons a as ih =>
    have hkept := sameRecord_press h a
    obtain ⟨hplaced, hlater, hplace⟩ := ih (h.press a)
    rw [hkept.history, place_press h] at hplace
    exact ⟨hplaced, hkept.trans hlater, hplace⟩

theorem browse?_eq {s : Session} {bound : Nat} (h : s.Placed) (hb : s.history.length ≤ bound)
    (as : List Arrow) : s.browse? bound as = some (s.browse as) := by
  induction as generalizing s with
  | nil => rfl
  | cons a as ih =>
    rw [browse?, press?_eq h hb, Option.bind_some, browse_cons]
    refine ih (h.press a) ?_
    rw [(sameRecord_press h a).history]
    exact hb

/-- After any arrow keys the cursor is where counting up and down between the free entry and the
oldest history entry ends. Each further key brings up what is at the place that it moves the cursor
to, and changes nothing if it does not move it. All that is no part of browsing stays as it was, and
no index beyond the length of the history is ever computed, nor one below zero. -/
theorem place_of_arrows {s : Session} (hs : ∀ i, s.cursor = some i → i < s.history.length)
    (as : List Arrow) :
    let n := s.history.length
    let t := s.browse as
    t.place = as.foldl (Arrow.shift n) s.place ∧
    (t.history = s.history ∧ t.mode = s.mode ∧ t.message = s.message ∧ t.workings = s.workings) ∧
    (∀ a : Arrow,
      let u := t.press a
      (u.place = t.place → u = t) ∧
      (u.place ≠ t.place → u.failed = false ∧
        (u.place = 0 → t.place = 1 ∧ u.entry = "") ∧
        ∀ p, u.place = p + 1 → ∃ e, s.history.get? p = some e ∧ u.entry = e.expression)) ∧
    ∀ bound, n ≤ bound → s.browse? bound as = some t := by
  intro n t
  obtain ⟨hplaced, hkept, hplace⟩ := Placed.browse hs as
  refine ⟨hplace, ⟨hkept.history, hkept.mode, hkept.message, hkept.workings⟩, fun a => ?_,
    fun bound hb => browse?_eq hs hb as⟩
  intro u
  have hshift : u.place = a.shift t.history.length t.place := place_press hplaced a
  have hpress : u = if a.shift t.history.length t.place = t.place then t
      else t.visit (a.shift t.history.length t.place) := press_eq hplaced a
  rw [← hshift] at hpress
  refine ⟨fun hstay => by rw [hpress, if_pos hstay], fun hmove => ?_⟩
  have hvisit : u = t.visit u.place := by
    rw [if_neg hmove] at hpress
    exact hpress
  have hle : u.place ≤ t.history.length := hshift ▸ shift_le hplaced a
  obtain ⟨-, hfailed, -, hempty, hentry⟩ := visit_of_le hle
  rw [← hvisit] at hfailed hempty hentry
  refine ⟨hfailed, fun hzero => ⟨?_, hempty hzero⟩, fun p hp => ?_⟩
  · -- the upper arrow only leads to the free entry where nothing else is
    have ht : t.place ≤ t.history.length := hplaced.place_le
    cases a with
    | up =>
      have hup : u.place = min (t.place + 1) t.history.length := hshift
      omega
    | down =>
      have hdown : u.place = t.place - 1 := hshift
      omega
  · rw [← hkept.history]
    exact hentry p hp

/-- From the oldest of two entries the upper arrow leads nowhere; the lower one then leads to the
newest entry, to the empty screen, and no further. -/
theorem place_of_arrows_turned :
    let s : Session :=
      { entry := "1+1", history := ⟨[⟨"2*3", 6⟩, ⟨"1+1", 2⟩]⟩, cursor := some 1 }
    (∀ i, s.cursor = some i → i < s.history.length) ∧
    s.browse [.up] = s ∧ (s.browse [.up, .down]).entry = "2*3" ∧
    (s.browse [.up, .down, .down, .down]).place = 0 ∧
    s.browse? 2 [.up, .down, .down, .down] = some (s.browse [.up, .down, .down, .down]) := by
  intro s
  have hs : ∀ i, s.cursor = some i → i < s.history.length := by
    intro i hi
    obtain rfl : 1 = i := Option.some.inj hi
    decide
  obtain ⟨-, -, hfirst, -⟩ := place_of_arrows hs []
  obtain ⟨-, -, hsecond, -⟩ := place_of_arrows hs [.up]
  obtain ⟨hplace, -, -, hchecked⟩ := place_of_arrows hs [.up, .down, .down, .down]
  obtain ⟨-, -, hentry⟩ := (hsecond .down).2 (by decide)
  obtain ⟨e, he, hdown⟩ := hentry 0 (by decide)
  refine ⟨hs, (hfirst .up).1 (by decide), ?_, hplace, hchecked 2 (by decide)⟩
  obtain rfl : ⟨"2*3", 6⟩ = e := Option.some.inj he
  exact hdown

end Session

end Calculator
