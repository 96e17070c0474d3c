/-
# What the shape of items says about their run

A run fails for lack of values, or leaves too many, by the number of values on
the stack alone: each item needs some and leaves one. Only a factorial that
refuses its operand depends on the values themselves.

Key definitions: `Rpn.depthAfter`, `Rpn.shape`.
-/
import Calculator.Rpn

namespace Calculator.Rpn

/-- How many values are there after items that start with `depth` of them, or the
first item that needs more than there are. -/
def depthAfter (depth : Nat) : List Item → Except Fault Nat
  | [] => .ok depth
  | item :: items =>
    if depth < item.need then .error (.tooFewOperands item.text)
    else depthAfter (depth - item.need + 1) items

/-- What a run says if no factorial refuses its operand. -/
def shape (items : List Item) : Except Fault Unit :=
  match depthAfter 0 items with
  | .error fault => .error fault
  | .ok depth => if depth = 1 then .ok () else .error (.leftover depth)

theorem depthAfter_append (depth : Nat) (p q : List Item) :
    depthAfter depth (p ++ q) =
      match depthAfter depth p with
      | .error fault => .error fault
      | .ok depth' => depthAfter depth' q := by
  induction p generalizing depth with
  | nil => rfl
  | cons item p ih =>
    simp only [List.cons_append, depthAfter]
    split
    · rfl
    · exact ih _

end Calculator.Rpn
