/-
# The history

The newest evaluations, newest first. Adding keeps at most twenty of them; a
history from elsewhere may be longer until it is bounded.

Key definitions: `History`, `History.add`, `History.bound`.
-/

namespace Calculator

/-- An expression that was evaluated, and its value. -/
structure Entry where
  expression : String
  result : Float
  deriving DecidableEq

structure History where
  entries : List Entry := []
  deriving DecidableEq

namespace History

/-- How many entries are kept. -/
def capacity : Nat := 20

def empty : History := ⟨[]⟩

def length (h : History) : Nat := h.entries.length

def isEmpty (h : History) : Bool := h.entries.isEmpty

/-- The entry with an index, the newest being number zero. -/
def get? (h : History) (i : Nat) : Option Entry := h.entries[i]?

/-- The newest entries, as many as are kept. -/
def bound (h : History) : History := ⟨h.entries.take capacity⟩

def add (h : History) (e : Entry) : History := bound ⟨e :: h.entries⟩

@[simp] theorem entries_empty : empty.entries = [] := rfl

@[simp] theorem entries_bound (h : History) : h.bound.entries = h.entries.take capacity := rfl

@[simp] theorem entries_add (h : History) (e : Entry) :
    (h.add e).entries = (e :: h.entries).take capacity := rfl

theorem length_bound_le (h : History) : h.bound.length ≤ capacity := by
  simp only [length, entries_bound, List.length_take]
  exact Nat.min_le_left ..

theorem bound_bound (h : History) : h.bound.bound = h.bound := by
  simp [bound, List.take_take]

end History

end Calculator
