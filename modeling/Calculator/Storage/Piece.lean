/-
# Pieces of the stored text

The stored text is a record in a notation of its own: marks, words, numerals,
and texts, characters and bytes in quotation marks, with blanks and comments
between them. Here a text is cut into those pieces. A piece that starts with a digit, a point or a
sign goes on as far as a numeral could, so that a malformed one is seen whole.

Not decided here: what a numeral means, and how pieces form a value.

Key definitions: `Piece`, `Piece.scan?`.
-/
import Calculator.Text.Quoted
import Calculator.Text.Word

namespace Calculator.Storage

open Text

inductive Piece
  | mark (c : Char)
  | word (name : List Char)
  /-- A name behind a hash, which never has a meaning of its own. -/
  | hashed (name : List Char)
  | numeral (text : List Char)
  | text (content : List Char)
  | char (c : Char)
  | bytes (content : List UInt8)
  | byte (b : UInt8)
  deriving DecidableEq

namespace Piece

/-- The brackets and separators. -/
def marks : List Char := ['(', ')', '[', ']', '\x7b', '\x7d', ':', ',', '#', '!']

/-- The name that a piece is, spelled in either way. -/
def name? : Piece → Option (List Char)
  | word name | hashed name => some name
  | _ => none

/-- The blanks of the notation: the characters with the property Pattern_White_Space. -/
def isGap (c : Char) : Bool :=
  [' ', '\t', '\n', '\r', '\x0b', '\x0c', '\u0085', '\u200e', '\u200f', '\u2028',
    '\u2029'].contains c

def isNumeralStart (c : Char) : Bool := c.isDigit || c == '.' || c == '+' || c == '-'

def isNumeralChar (c : Char) : Bool := c.isAlphanum || c == '.' || c == '+' || c == '-' || c == '_'

/-- What follows a comment between slash-stars, which nest: `depth` more of them are open. -/
def skipComment? (depth : Nat) : List Char → Option (List Char)
  | '/' :: '*' :: r => skipComment? (depth + 1) r
  | '*' :: '/' :: r =>
    match depth with
    | 0 => some r
    | d + 1 => skipComment? d r
  | _ :: r => skipComment? depth r
  | [] => none

/-- The quoted character behind its opening mark, and what follows it. -/
def readChar? : List Char → Option (Char × List Char)
  | '\\' :: r =>
    match Quoted.readEscape? r with
    | some (.char c, '\'' :: rest) => some (c, rest)
    | some (.byte b, '\'' :: rest) => if b < 128 then some (Char.ofNat b.toNat, rest) else none
    | _ => none
  | c :: '\'' :: rest => some (c, rest)
  | _ => none

/-- The quoted byte behind its opening mark, and what follows it. -/
def readByte? : List Char → Option (UInt8 × List Char)
  | '\\' :: 'u' :: _ => none
  | '\\' :: r =>
    match Quoted.readEscape? r with
    | some (.char c, '\'' :: rest) => some (UInt8.ofNat c.toNat, rest)
    | some (.byte b, '\'' :: rest) => some (b, rest)
    | _ => none
  | c :: '\'' :: rest => if c.toNat < 128 then some (UInt8.ofNat c.toNat, rest) else none
  | _ => none

/-- A text that ends with a quotation mark and `hashes`, without escapes. -/
def readRaw? (hashes : Nat) : List Char → Option (List Char × List Char)
  | [] => none
  | c :: r =>
    if c = '"' ∧ r.take hashes = List.replicate hashes '#' then some ([], r.drop hashes)
    else (readRaw? hashes r).map fun (content, rest) => (c :: content, rest)

/-- What stands at the front of a text. -/
inductive Front
  | nothing
  | gap (rest : List Char)
  | piece (p : Piece) (rest : List Char)
  | malformed

/-- What a text that may have been read in full is at the front. -/
def frontOf {α : Type} (piece : α → Piece) : Option (α × List Char) → Front
  | some (content, rest) => .piece (piece content) rest
  | none => .malformed

/-- The characters of a name behind a hash. -/
def isHashedChar (c : Char) : Bool := isWordChar c || c == '.' || c == '+' || c == '-'

/-- A text without escapes from its hashes on, if it has that form. -/
def readHashes? (cs : List Char) : Option (List Char × List Char) :=
  match cs.dropWhile (· == '#') with
  | '"' :: body => readRaw? (cs.takeWhile (· == '#')).length body
  | _ => none

/-- The name behind one hash, or a text without escapes behind any number of them. -/
def hashedFront : List Char → Front
  | '#' :: c :: r =>
    if isHashedChar c then
      .piece (.hashed (c :: r.takeWhile isHashedChar)) (r.dropWhile isHashedChar)
    else frontOf .text (readHashes? ('#' :: c :: r))
  | cs => frontOf .text (readHashes? cs)

def front (cs : List Char) : Front :=
  match cs with
  | [] => .nothing
  | '/' :: '/' :: r => .gap (r.dropWhile (· != '\n'))
  | '/' :: '*' :: r =>
    match skipComment? 0 r with
    | some rest => .gap rest
    | none => .malformed
  | '"' :: r => frontOf .text (Quoted.readText? r)
  | '\'' :: r => frontOf .char (readChar? r)
  | 'r' :: '#' :: r => hashedFront ('#' :: r)
  | 'r' :: '"' :: r => hashedFront ('"' :: r)
  | 'b' :: '"' :: r => frontOf .bytes (Quoted.readBytes? r)
  | 'b' :: '\'' :: r => frontOf .byte (readByte? r)
  | 'b' :: 'r' :: '#' :: r => frontOf (.bytes <| Quoted.utf8 ·) (readHashes? ('#' :: r))
  | 'b' :: 'r' :: '"' :: r => frontOf (.bytes <| Quoted.utf8 ·) (readHashes? ('"' :: r))
  | c :: r =>
    if isGap c then .gap r
    else if marks.contains c then .piece (.mark c) r
    else if isWordStart c then .piece (.word (c :: r.takeWhile isWordChar)) (r.dropWhile isWordChar)
    else if isNumeralStart c then
      .piece (.numeral (c :: r.takeWhile isNumeralChar)) (r.dropWhile isNumeralChar)
    else .malformed

/-- The pieces of a text, unless a place in it starts none. -/
def scan? (cs : List Char) : Option (List Piece) :=
  match front cs with
  | .nothing => some []
  | .malformed => none
  | .gap rest => if rest.length < cs.length then scan? rest else none
  | .piece p rest => if rest.length < cs.length then (scan? rest).map (p :: ·) else none
  termination_by cs.length

/-- The compact spelling of a piece. -/
def write : Piece → List Char
  | mark c => [c]
  | word name => name
  | hashed name => 'r' :: '#' :: name
  | numeral cs => cs
  | text content => Quoted.quoteChars Quoted.storedMarks content
  | char c => '\'' :: (Quoted.escape Quoted.storedMarks c ++ ['\''])
  | bytes content => 'b' :: '"' :: (content.flatMap Quoted.escapeByte ++ ['"'])
  | byte b => 'b' :: '\'' :: (Quoted.escapeByte b ++ ['\''])

end Piece

end Calculator.Storage
