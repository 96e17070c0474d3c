/-
# The screen under the cursor

While the cursor is on a history entry, the screen holds the expression of that
entry, but for the characters that were taken back since it was brought up:
taking back a character is the one way to edit the screen that does not leave the
history. So the screen and the cursor agree if and only if nothing was taken back
or there was nothing to take (`Desk.entry_of_cursor`).

Of all that can be requested, only writing the entry directly is not covered: it
changes the screen behind the back of the cursor.

Key definitions: `Request.takenBack`, `Request.Outcome`, `Session.Shows`.
-/
import Calculator.Desk

namespace Calculator

/-- A text without its last characters, `k` of them. -/
def Text.withoutLast (k : Nat) (s : String) : String :=
  String.ofList (s.toList.take (s.toList.length - k))

namespace Text

theorem withoutLast_zero (s : String) : withoutLast 0 s = s := by
  rw [withoutLast, Nat.sub_zero, List.take_length, String.ofList_toList]

/-- Taking back one more character. -/
theorem dropLast_withoutLast (k : Nat) (s : String) :
    String.ofList (withoutLast k s).toList.dropLast = withoutLast (k + 1) s := by
  rw [withoutLast, withoutLast, String.toList_ofList, List.dropLast_eq_take, List.length_take,
    List.take_take]
  congr 2
  omega

theorem withoutLast_eq_self_iff {k : Nat} {s : String} :
    withoutLast k s = s ↔ k = 0 ∨ s = "" := by
  constructor
  · intro h
    have hlen := congrArg (fun t => t.toList.length) h
    simp only [withoutLast, String.toList_ofList, List.length_take] at hlen
    by_cases hk : k = 0
    · exact .inl hk
    · refine .inr (String.toList_inj.mp (List.eq_nil_of_length_eq_zero ?_))
      omega
  · rintro (rfl | rfl)
    · exact withoutLast_zero s
    · simp [withoutLast]

end Text

namespace Session

/-- Beyond the history there is nothing to bring up. -/
theorem revisit_of_length_le {s : Session} {i : Nat} (h : s.history.length ≤ i) :
    s.revisit i = { s with wantsFocus := true } := by
  have hnone : s.history.get? i = none := List.getElem?_eq_none h
  rw [revisit, hnone]

/-- The screen holds the entry under the cursor without its last `k` characters. -/
def Shows (s : Session) (k : Nat) : Prop :=
  ∀ i, s.cursor = some i →
    ∃ e, s.history.get? i = some e ∧ s.entry = Text.withoutLast k e.expression

theorem shows_of_cursor_none {s : Session} (h : s.cursor = none) (k : Nat) : s.Shows k := by
  intro i hi
  rw [h] at hi
  cases hi

theorem shows_revisit {s : Session} {i : Nat} (h : i < s.history.length) :
    (s.revisit i).Shows 0 := by
  have hsome : s.history.get? i = some s.history.entries[i] := List.getElem?_eq_getElem h
  intro j hj
  rw [revisit, hsome] at hj ⊢
  obtain rfl := Option.some.inj hj
  exact ⟨_, hsome, (Text.withoutLast_zero _).symm⟩

theorem Shows.deleteLast {s : Session} {k : Nat} (h : s.Shows k) : s.deleteLast.Shows (k + 1) := by
  intro i hi
  obtain ⟨e, he, hentry⟩ := h i hi
  refine ⟨e, he, ?_⟩
  rw [← Text.dropLast_withoutLast, ← hentry]
  rfl

end Session

/-! ### What a request does to the screen and the cursor -/

namespace Request

/-- The history entry that a request asks for. -/
def target? (s : Session) : Request → Option Nat
  | command (.revisit i) => some i
  | command .older =>
    match s.cursor with
    | none => some 0
    | some i => some (i + 1)
  | command .newer =>
    match s.cursor with
    | some (i + 1) => some i
    | _ => none
  | _ => none

/-- The number of characters that are missing behind a request, if `k` were before it: none when it
brings up the entry that it asks for. -/
def takenBack (s : Session) (k : Nat) : Request → Nat
  | command .deleteLast => k + 1
  | r =>
    match r.target? s with
    | some i => if i < s.history.length then 0 else k
    | none => k

/-- The session of a desk comes out of a request that does not write the entry directly in one of
four ways: an entry is brought up, a character is taken back, the history is left, or neither
screen nor cursor change. -/
inductive Outcome (s : Session) : Request → Session → Prop
  | broughtUp {r : Request} {i : Nat} (h : i < s.history.length) (hk : ∀ k, r.takenBack s k = 0) :
    Outcome s r (s.revisit i)
  | tookBack : Outcome s (command .deleteLast) s.deleteLast
  | left {r : Request} {t : Session} (h : t.cursor = none) : Outcome s r t
  | kept {r : Request} {t : Session} (he : t.entry = s.entry) (hc : t.cursor = s.cursor)
    (hh : t.history = s.history) (hk : ∀ k, r.takenBack s k = k) : Outcome s r t

theorem takenBack_of_target {s : Session} {r : Request} {i : Nat} (ht : r.target? s = some i)
    (k : Nat) : r.takenBack s k = if i < s.history.length then 0 else k := by
  have hk : r.takenBack s k =
      match r.target? s with
      | some i => if i < s.history.length then 0 else k
      | none => k := by
    cases r with
    | command c =>
      cases c with
      | deleteLast => cases ht
      | _ => rfl
    | _ => rfl
  rw [hk, ht]

/-- Asking for an entry brings it up or changes neither screen nor cursor. -/
theorem outcome_of_target {s t : Session} {r : Request} {i : Nat} (ht : r.target? s = some i)
    (hin : i < s.history.length → t = s.revisit i)
    (hout : s.history.length ≤ i →
      t.entry = s.entry ∧ t.cursor = s.cursor ∧ t.history = s.history) :
    Outcome s r t := by
  by_cases hi : i < s.history.length
  · rw [hin hi]
    exact .broughtUp hi fun k => by rw [takenBack_of_target ht, if_pos hi]
  · obtain ⟨he, hc, hh⟩ := hout (Nat.le_of_not_lt hi)
    exact .kept he hc hh fun k => by rw [takenBack_of_target ht, if_neg hi]

theorem outcome_revisit {s : Session} {r : Request} {i : Nat} (ht : r.target? s = some i) :
    Outcome s r (s.revisit i) := by
  refine outcome_of_target ht (fun _ => rfl) fun hi => ?_
  rw [Session.revisit_of_length_le hi]
  exact ⟨rfl, rfl, rfl⟩

theorem outcome_older (s : Session) : Outcome s (command .older) s.older := by
  obtain ⟨i, ht, hi⟩ : ∃ i, (command .older).target? s = some i ∧
      s.older = if i < s.history.length then s.revisit i else s := by
    unfold target? Session.older
    cases s.cursor <;> exact ⟨_, rfl, rfl⟩
  refine outcome_of_target ht (fun hlt => ?_) fun hle => ?_
  · rw [hi, if_pos hlt]
  · rw [hi, if_neg (Nat.not_lt.mpr hle)]
    exact ⟨rfl, rfl, rfl⟩

theorem outcome_newer (s : Session) : Outcome s (command .newer) s.newer := by
  unfold Session.newer
  rcases hc : s.cursor with _ | _ | i
  · exact .left hc
  · exact .left rfl
  · exact outcome_revisit (by rw [target?, hc])

theorem outcome_apply (d : Desk) {r : Request} (hr : ∀ text, r ≠ command (.setEntry text)) :
    Outcome d.session r (r.apply d).session := by
  cases r with
  | command c =>
    cases c with
    | insert _ | clearEntry | type _ | clearHistory => exact .left rfl
    | deleteLast => exact .tookBack
    | setEntry text => exact absurd rfl (hr text)
    | evaluate =>
      refine .left ?_
      show d.session.evaluate.cursor = none
      unfold Session.evaluate
      split <;> rfl
    | setMode _ | toggleMode | unfocus => exact .kept rfl rfl rfl fun _ => rfl
    | revisit i => exact outcome_revisit rfl
    | older => exact outcome_older d.session
    | newer => exact outcome_newer d.session
  | save => exact .kept rfl rfl rfl fun _ => rfl
  | restore | restoreNothing | restoreText _ => exact .left rfl

/-- One request keeps the screen to the entry under the cursor. -/
theorem Outcome.shows {s t : Session} {r : Request} {k : Nat} (ho : Outcome s r t)
    (h : s.Shows k) : t.Shows (r.takenBack s k) := by
  cases ho with
  | broughtUp hi hk =>
    rw [hk]
    exact Session.shows_revisit hi
  | tookBack => exact h.deleteLast
  | left hc => exact Session.shows_of_cursor_none hc _
  | kept he hc hh hk =>
    rw [hk]
    intro i hi
    rw [hc] at hi
    rw [he, hh]
    exact h i hi

end Request

namespace Desk

/-- The number of characters that are missing after requests, if `k` were before them. -/
def takenBack (d : Desk) (k : Nat) : List Request → Nat
  | [] => k
  | r :: rs => (r.apply d).takenBack (r.takenBack d.session k) rs

/-- So do any number of requests. -/
theorem shows_run {d : Desk} {k : Nat} {rs : List Request} (h : d.session.Shows k)
    (hrs : ∀ text, .command (.setEntry text) ∉ rs) :
    (d.run rs).session.Shows (d.takenBack k rs) := by
  induction rs generalizing d k with
  | nil => exact h
  | cons r rs ih =>
    have hr : ∀ text, r ≠ .command (.setEntry text) := fun text hr =>
      hrs text (hr ▸ List.mem_cons_self)
    have hrest : ∀ text, .command (.setEntry text) ∉ rs := fun text ht =>
      hrs text (List.mem_cons_of_mem _ ht)
    exact ih ((Request.outcome_apply d hr).shows h) hrest

/-- Whatever was requested, but for writing the entry directly: the cursor is on an entry of the
history, and the screen holds its expression without the characters that were taken back since it
was brought up. They are the same if and only if there are no such characters. -/
theorem entry_of_cursor {rs : List Request} (hrs : ∀ text, .command (.setEntry text) ∉ rs)
    {i : Nat} (hi : (Desk.fresh.run rs).session.cursor = some i) :
    i < (Desk.fresh.run rs).session.history.length ∧
    ∃ e, (Desk.fresh.run rs).session.history.get? i = some e ∧
      (Desk.fresh.run rs).session.entry =
        Text.withoutLast (Desk.fresh.takenBack 0 rs) e.expression ∧
      ((Desk.fresh.run rs).session.entry = e.expression ↔
        Desk.fresh.takenBack 0 rs = 0 ∨ e.expression = "") := by
  have hshows : (Desk.fresh.run rs).session.Shows (Desk.fresh.takenBack 0 rs) :=
    shows_run (Session.shows_of_cursor_none rfl 0) hrs
  obtain ⟨e, he, hentry⟩ := hshows i hi
  obtain ⟨hlt, -⟩ := List.getElem?_eq_some_iff.mp he
  refine ⟨hlt, e, he, hentry, ?_⟩
  rw [hentry]
  exact Text.withoutLast_eq_self_iff

/-- A character taken back leaves the cursor where it is. -/
theorem entry_of_cursor_deleteLast :
    let rs : List Request := [.command (.insert "1+1"), .command .evaluate,
      .command (.revisit 0), .command .deleteLast]
    (∀ text, .command (.setEntry text) ∉ rs) ∧ (Desk.fresh.run rs).session.cursor = some 0 ∧
    (Desk.fresh.run rs).session.entry = "1+" ∧
    ∃ e, (Desk.fresh.run rs).session.history.get? 0 = some e ∧
      (Desk.fresh.run rs).session.entry ≠ e.expression := by
  intro rs
  have hrs : ∀ text, .command (.setEntry text) ∉ rs := by simp [rs]
  have hcursor : (Desk.fresh.run rs).session.cursor = some 0 := by decide +kernel
  have hentry : (Desk.fresh.run rs).session.entry = "1+" := by decide +kernel
  have hback : Desk.fresh.takenBack 0 rs = 1 := by decide +kernel
  obtain ⟨-, e, he, -, hsame⟩ := entry_of_cursor hrs hcursor
  refine ⟨hrs, hcursor, hentry, e, he, fun h => ?_⟩
  rcases hsame.mp h with hzero | hempty
  · rw [hback] at hzero
    cases hzero
  · rw [h, hempty] at hentry
    exact absurd hentry (by decide)

end Desk

end Calculator
