/-
# Extensions of the stored notation

In front of its value a stored text may enable extensions, in headers such as
`#![enable(implicit_some)]`, one after the other and each with one or more
names. A name that is none makes the whole text unreadable.

Key definitions: `Extension`, `Extension.headers?`.
-/
import Calculator.Storage.Piece

namespace Calculator.Storage

inductive Extension
  /-- Changes nothing in the values that are stored here. -/
  | unwrapNewtypes
  /-- A value may be marked as present without parentheses. -/
  | implicitSome
  /-- What is marked as present may be the content of a group without its own parentheses. -/
  | unwrapVariantNewtypes
  /-- A record has to carry its name. -/
  | explicitStructNames
  deriving DecidableEq, Repr

namespace Extension

def all : List Extension :=
  [unwrapNewtypes, implicitSome, unwrapVariantNewtypes, explicitStructNames]

def name : Extension → String
  | unwrapNewtypes => "unwrap_newtypes"
  | implicitSome => "implicit_some"
  | unwrapVariantNewtypes => "unwrap_variant_newtypes"
  | explicitStructNames => "explicit_struct_names"

def ofPiece? (p : Piece) : Option Extension :=
  p.name?.bind fun cs => all.find? (·.name.toList == cs)

/-- One or more names with commas between them, up to a closing parenthesis. -/
def names? : List Piece → Option (List Extension × List Piece)
  | p :: .mark ')' :: r => (ofPiece? p).map fun e => ([e], r)
  | p :: .mark ',' :: .mark ')' :: r => (ofPiece? p).map fun e => ([e], r)
  | p :: .mark ',' :: r => do
    let e ← ofPiece? p
    let (es, r) ← names? r
    return (e :: es, r)
  | _ => none

/-- A header behind its hash. -/
def header? : List Piece → Option (List Extension × List Piece)
  | .mark '!' :: .mark '[' :: .word w :: .mark '(' :: r =>
    if w = "enable".toList then
      match names? r with
      | some (es, .mark ']' :: r) => some (es, r)
      | _ => none
    else none
  | _ => none

/-- The extensions of all headers, and the pieces behind them. -/
def headers? (ps : List Piece) : Option (List Extension × List Piece) :=
  match ps with
  | .mark '#' :: r =>
    match header? r with
    | some (es, rest) =>
      if rest.length < r.length then (headers? rest).map fun (fs, rest) => (es ++ fs, rest)
      else none
    | none => none
  | ps => some ([], ps)
  termination_by ps.length
  decreasing_by simp only [List.length_cons]; omega

theorem headers?_of_head? {ps : List Piece} (h : ps.head? ≠ some (.mark '#')) :
    headers? ps = some ([], ps) := by
  match ps with
  | [] => rw [headers?]; simp
  | p :: r =>
    rw [headers?]
    rintro _ ⟨⟩
    exact h rfl

end Extension

end Calculator.Storage
