/-
# Values of the stored notation

Pieces form words, numbers, texts, lists in square brackets, maps in braces, and
groups in parentheses, which hold either labelled fields or bare values and may
carry a name in front. Items are separated by commas, of which one may end the
sequence. The word Some marks a value as present.

Values nest to a limited depth, counted in levels: what has items takes one
level for itself and one more for each item, a value marked as present takes
one.

Key definitions: `Datum`, `Datum.value?`, `Datum.ofPieces?`.
-/
import Calculator.Storage.Extension
import Calculator.Storage.Number

namespace Calculator.Storage

inductive Datum
  | word (name : List Char)
  | numeral (text : List Char)
  | text (content : List Char)
  | char (c : Char)
  | bytes (content : List UInt8)
  | byte (b : UInt8)
  | list (items : List Datum)
  | map (entries : List (Datum × Datum))
  | tuple (name : Option (List Char)) (items : List Datum)
  | record (name : Option (List Char)) (fields : List (List Char × Datum))
  | present (value : Datum)

/-- What reads something at the front of pieces and gives what follows it. -/
abbrev Reader (α : Type) := List Piece → Option (α × List Piece)

namespace Datum

/-! ### Sequences and groups -/

/-- Items up to a closing mark, separated by commas; at most `fuel` of them. -/
def sequence? {α : Type} (item? : Reader α) (close : Char) : Nat → Reader (List α)
  | 0, _ => none
  | fuel + 1, ps =>
    if ps.head? = some (.mark close) then some ([], ps.tail)
    else
      match item? ps with
      | none => none
      | some (x, .mark c :: r) =>
        if c = ',' then (sequence? item? close fuel r).map fun (xs, r) => (x :: xs, r)
        else if c = close then some ([x], r)
        else none
      | some _ => none

/-- All the items up to a closing mark: there are no more of them than pieces. -/
def items? {α : Type} (item? : Reader α) (close : Char) : Reader (List α) :=
  fun ps => sequence? item? close (ps.length + 1) ps

/-- A label, a colon and what `value?` reads. -/
def labelled? {α : Type} (value? : Reader α) : Reader (List Char × α)
  | p :: .mark ':' :: r => do
    let label ← p.name?
    let (x, r) ← value? r
    return ((label, x), r)
  | _ => none

/-- Two values with a colon between them. -/
def paired? {α : Type} (value? : Reader α) : Reader (α × α) := fun ps =>
  match value? ps with
  | some (k, .mark ':' :: r) => (value? r).map fun (x, r) => ((k, x), r)
  | _ => none

/-- Whether a group holds fields: a label comes first, or nothing is in it. -/
def startsFields : List Piece → Bool
  | .mark ')' :: _ => true
  | p :: .mark ':' :: _ => p.name?.isSome
  | _ => false

/-- A group behind its opening parenthesis. -/
def group? (value? : Reader Datum) (name : Option (List Char)) : Reader Datum := fun ps =>
  if startsFields ps then
    (items? (labelled? value?) ')' ps).map fun (fields, r) => (record name fields, r)
  else (items? value? ')' ps).map fun (values, r) => (tuple name values, r)

/-! ### Values marked as present -/

def presentWord : String := "Some"

/-- One value and the closing parenthesis, with or without a comma between them. -/
def enclosed? (value? : Reader Datum) : Reader Datum := fun ps =>
  match value? ps with
  | some (d, .mark ')' :: r) => some (present d, r)
  | some (d, .mark ',' :: .mark ')' :: r) => some (present d, r)
  | _ => none

/-- Whether a comma stands between two values, `depth` brackets being open around them. -/
def hasSeveral (depth : Nat) : List Piece → Bool
  | .mark c :: r =>
    if c = '(' ∨ c = '[' ∨ c = '\x7b' then hasSeveral (depth + 1) r
    else if c = ')' ∨ c = ']' ∨ c = '\x7d' then
      match depth with
      | 0 => false
      | d + 1 => hasSeveral d r
    else if c = ',' ∧ depth = 0 then r.head? != some (.mark ')')
    else hasSeveral depth r
  | _ :: r => hasSeveral depth r
  | [] => false

/-- A group that shares the parentheses of the mark. The closing one is left. -/
def unwrapped? (value? : Reader Datum) : Reader Datum := fun ps =>
  (group? value? none ps).map fun (d, r) => (d, .mark ')' :: r)

/-- What is marked as present, behind the mark. Whether a group may go without parentheses of its
own is up to the extensions. -/
def marked? (exts : List Extension) (value? : Bool → Reader Datum) : Reader Datum
  | .mark '(' :: r => enclosed? (value? (exts.contains .unwrapVariantNewtypes)) r
  | r =>
    if exts.contains .implicitSome then (value? false r).map fun (d, r) => (present d, r)
    else none

/-! ### Values -/

/-- Words with a meaning of their own, which carry no group. -/
def constants : List String := ["true", "false", "None"]

/-- What reads the values inside a value: its items, and what it marks as present. -/
structure Inner where
  item? : Reader Datum
  marked? : Bool → Reader Datum

/-- A name with the group that it may carry. -/
def named? (inner : Option Inner) (name : List Char) : Reader Datum
  | .mark '(' :: r => inner.bind fun i => group? i.item? (some name) r
  | r => some (word name, r)

/-- A value in which other values are read by `inner`, if they may be there at all. -/
def front? (exts : List Extension) (inner : Option Inner) : Reader Datum
  | .text content :: r => some (text content, r)
  | .char c :: r => some (char c, r)
  | .bytes content :: r => some (bytes content, r)
  | .byte b :: r => some (byte b, r)
  | .numeral cs :: r => if Number.isNumber cs then some (numeral cs, r) else none
  | .hashed name :: r => named? inner name r
  | .word name :: r =>
    if Number.isNumber name then some (numeral name, r)
    else if constants.any (·.toList == name) then some (word name, r)
    else if name = presentWord.toList then inner.bind fun i => marked? exts i.marked? r
    else named? inner name r
  | .mark '(' :: .mark ')' :: r => some (record none [], r)
  | .mark '(' :: r => inner.bind fun i => group? i.item? none r
  | .mark '[' :: r => inner.bind fun i => (items? i.item? ']' r).map fun (xs, r) => (list xs, r)
  | .mark '\x7b' :: r =>
    inner.bind fun i => (items? (paired? i.item?) '\x7d' r).map fun (es, r) => (map es, r)
  | _ => none

/-- A value that nests at most `room` levels deep. If it is `bare` it stands behind the mark of a
present value and may be nothing, or a group without parentheses of its own. -/
def value? (exts : List Extension) : Nat → Bool → Reader Datum
  | 0, bare, ps => read none bare ps
  | 1, bare, ps => read (some ⟨fun _ => none, value? exts 0⟩) bare ps
  | room + 2, bare, ps => read (some ⟨value? exts room false, value? exts (room + 1)⟩) bare ps
where
  read (inner : Option Inner) (bare : Bool) (ps : List Piece) : Option (Datum × List Piece) :=
    if bare && ps.head? == some (.mark ')') then some (record none [], ps)
    else if bare && (startsFields ps || hasSeveral 0 ps) then
      inner.bind fun i => unwrapped? i.item? ps
    else front? exts inner ps

/-- How many levels a text may have. -/
def maxLevels : Nat := 128

/-- The value that pieces form together. -/
def ofPieces? (exts : List Extension) (ps : List Piece) : Option Datum :=
  match value? exts maxLevels false ps with
  | some (d, []) => some d
  | _ => none

/-! ### Taking values apart -/

/-- The fields of a group, if it is a record and carries no name other than its own. Whether it
may go without a name is up to the extensions. -/
def fieldsOf? (exts : List Extension) (own : String) : Datum → Option (List (List Char × Datum))
  | record none fields => if exts.contains .explicitStructNames then none else some fields
  | record (some name) fields => if name = own.toList then some fields else none
  | _ => none

/-- The values that a label has in a list of fields. -/
def valuesOf (label : String) (fields : List (List Char × Datum)) : List Datum :=
  (fields.filter fun f => f.1 = label.toList).map Prod.snd

/-- What a field that may be missing holds: `absent` without it, nothing if it is there twice. -/
def optional? {α : Type} (fields : List (List Char × Datum)) (label : String) (absent : α)
    (read? : Datum → Option α) : Option α :=
  match valuesOf label fields with
  | [] => some absent
  | [d] => read? d
  | _ => none

/-- What a field that has to be there once holds. -/
def required? {α : Type} (fields : List (List Char × Datum)) (label : String)
    (read? : Datum → Option α) : Option α :=
  match valuesOf label fields with
  | [d] => read? d
  | _ => none

def float? : Datum → Option Float
  | numeral cs => Number.readFraction? cs
  | _ => none

def string? : Datum → Option String
  | text content => some (String.ofList content)
  | _ => none

def list? : Datum → Option (List Datum)
  | list items => some items
  | _ => none

end Datum

end Calculator.Storage
