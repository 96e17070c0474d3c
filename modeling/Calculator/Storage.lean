/-
# The stored text

What outlives a session is its angle mode and its history, as one record
without blanks. Reading it is lenient about blanks, order, missing and unknown
fields, and strict about all else: a text that is wrong anywhere gives nothing,
not a part.

Key definitions: `Saved`, `Saved.write`, `Saved.read?`.
-/
import Calculator.AngleMode
import Calculator.History
import Calculator.Storage.Datum

namespace Calculator

/-- What a session leaves behind. -/
structure Saved where
  mode : AngleMode := default
  history : History := .empty
  deriving DecidableEq

namespace Saved

open Storage

/-! ### Writing -/

def modeWord : AngleMode → String
  | .degrees => "Degres"
  | .radians => "Radians"

def word (s : String) : Piece := .word s.toList

/-- A double as a piece: infinity and NaN are words. -/
def number (x : Float) : Piece :=
  match Numeral.writeChars Numeral.stored x with
  | c :: cs => if c.isAlpha then .word (c :: cs) else .numeral (c :: cs)
  | [] => .numeral []

def entryPieces (e : Entry) : List Piece :=
  [.mark '(', word "expression", .mark ':', .text e.expression.toList, .mark ',',
   word "resultat", .mark ':', number e.result, .mark ')']

/-- Lists of pieces with a comma between two. -/
def commaJoin : List (List Piece) → List Piece
  | [] => []
  | [ps] => ps
  | ps :: rest => ps ++ .mark ',' :: commaJoin rest

def pieces (s : Saved) : List Piece :=
  [.mark '(', word "mode_angle", .mark ':', word (modeWord s.mode), .mark ',',
   word "historique", .mark ':', .mark '(', word "entrees", .mark ':', .mark '[']
    ++ commaJoin (s.history.entries.map entryPieces)
    ++ [.mark ']', .mark ')', .mark ')']

def write (s : Saved) : String := String.ofList (s.pieces.flatMap Piece.write)

/-! ### Reading

Each record may carry its own name in front, and no other. -/

def modeOf? : Datum → Option AngleMode
  | .word name =>
    if name = "Degres".toList then some .degrees
    else if name = "Radians".toList then some .radians
    else none
  | _ => none

def entryOf? (exts : List Extension) (d : Datum) : Option Entry := do
  let fields ← d.fieldsOf? exts "EntreeHistorique"
  let expression ← Datum.required? fields "expression" Datum.string?
  let result ← Datum.required? fields "resultat" Datum.float?
  return ⟨expression, result⟩

def historyOf? (exts : List Extension) (d : Datum) : Option History := do
  let fields ← d.fieldsOf? exts "Historique"
  let items ← Datum.required? fields "entrees" Datum.list?
  return ⟨← items.mapM (entryOf? exts)⟩

def ofDatum? (exts : List Extension) (d : Datum) : Option Saved := do
  let fields ← d.fieldsOf? exts "AppCalc"
  let mode ← Datum.optional? fields "mode_angle" default modeOf?
  let history ← Datum.optional? fields "historique" .empty (historyOf? exts)
  return ⟨mode, history⟩

/-- What a stored text says, if it is right in all its parts. -/
def read? (s : String) : Option Saved := do
  let pieces ← Piece.scan? s.toList
  let (exts, pieces) ← Extension.headers? pieces
  let datum ← Datum.ofPieces? exts pieces
  ofDatum? exts datum

end Saved

end Calculator
