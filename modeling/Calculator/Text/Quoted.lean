/-
# Quoted text

Between two quotation marks a character stands for itself unless it is a
quotation mark, a backslash or not printable. A few of those have an escape of
one letter, the others are written by their code point in hexadecimal. The log
and the stored text differ only in which quotation marks they escape.

Reading takes both, and also `\x` with two digits, which gives one byte of
UTF-8, and any character as itself.

Key definitions: `Quoted.quote`, `Quoted.readText?`.
-/
import Calculator.Text.Printable

namespace Calculator.Text.Quoted

/-! ### Writing -/

/-- The quotation marks that the log escapes. -/
def loggedMarks : List Char := ['"']

/-- The quotation marks that stored text escapes. -/
def storedMarks : List Char := ['"', '\'']

/-- The letter of a short escape. -/
def shortEscape? : Char → Option Char
  | '\x00' => some '0'
  | '\t' => some 't'
  | '\n' => some 'n'
  | '\r' => some 'r'
  | '\\' => some '\\'
  | _ => none

def escape (marks : List Char) (c : Char) : List Char :=
  match shortEscape? c with
  | some letter => ['\\', letter]
  | none =>
    if marks.contains c then ['\\', c]
    else if isPrintable c then [c]
    else '\\' :: 'u' :: '\x7b' :: (Nat.toDigits 16 c.toNat ++ ['\x7d'])

/-- A text between quotation marks. -/
def quoteChars (marks : List Char) (cs : List Char) : List Char :=
  '"' :: (cs.flatMap (escape marks) ++ ['"'])

def quote (marks : List Char) (s : String) : String := String.ofList (quoteChars marks s.toList)

/-- A byte by its two hexadecimal digits. -/
def escapeByte (b : UInt8) : List Char :=
  ['\\', 'x', Nat.digitChar (b.toNat / 16), Nat.digitChar (b.toNat % 16)]

/-! ### Reading -/

def hexValue? (c : Char) : Option Nat :=
  if c.isDigit then some (c.toNat - '0'.toNat)
  else if 'a' ≤ c ∧ c ≤ 'f' then some (c.toNat - 'a'.toNat + 10)
  else if 'A' ≤ c ∧ c ≤ 'F' then some (c.toNat - 'A'.toNat + 10)
  else none

/-- The number that hexadecimal digits spell, in either case. -/
def ofHex? (cs : List Char) : Option Nat :=
  (cs.mapM hexValue?).map fun ds => ds.foldl (fun n d => 16 * n + d) 0

/-- What a place in quoted text gives: a character, or one byte of one. -/
inductive Part
  | char (c : Char)
  | byte (b : UInt8)
  deriving DecidableEq

/-- The character of a code point. -/
def charOf? (n : Nat) : Option Char :=
  if h : n.isValidChar then some (Char.ofNatAux n h) else none

/-- What follows a backslash, and the rest. -/
def readEscape? : List Char → Option (Part × List Char)
  | '0' :: r => some (.char '\x00', r)
  | 't' :: r => some (.char '\t', r)
  | 'n' :: r => some (.char '\n', r)
  | 'r' :: r => some (.char '\r', r)
  | '\\' :: r => some (.char '\\', r)
  | '"' :: r => some (.char '"', r)
  | '\'' :: r => some (.char '\'', r)
  | 'x' :: a :: b :: r => (ofHex? [a, b]).map fun n => (.byte (UInt8.ofNat n), r)
  | 'u' :: '\x7b' :: r =>
    let ds := r.takeWhile (· != '\x7d')
    match r.dropWhile (· != '\x7d') with
    | _ :: rest =>
      if ds.isEmpty || 6 < ds.length then none
      else ((ofHex? ds).bind charOf?).map fun c => (.char c, rest)
    | [] => none
  | _ => none

/-- The parts up to the closing quotation mark, and what follows it. -/
def readParts? (cs : List Char) : Option (List Part × List Char) :=
  match cs with
  | [] => none
  | '"' :: rest => some ([], rest)
  | '\\' :: r =>
    match readEscape? r with
    | none => none
    | some (p, rest) =>
      if rest.length < r.length then (readParts? rest).map fun (ps, rest) => (p :: ps, rest)
      else none
  | c :: r => (readParts? r).map fun (ps, rest) => (.char c :: ps, rest)
  termination_by cs.length
  decreasing_by all_goals simp only [List.length_cons]; omega

/-- The bytes of characters in UTF-8. -/
def utf8 (cs : List Char) : List UInt8 := cs.flatMap String.utf8EncodeChar

/-- The characters of bytes in UTF-8. -/
def ofBytes? (bs : List UInt8) : Option (List Char) :=
  (String.fromUTF8? ⟨bs.toArray⟩).map String.toList

/-- The text of parts: bytes side by side have to spell whole characters. -/
def joinParts? (pending : List UInt8) : List Part → Option (List Char)
  | [] => ofBytes? pending
  | .byte b :: ps => joinParts? (pending ++ [b]) ps
  | .char c :: ps => do
    let before ← if pending.isEmpty then some [] else ofBytes? pending
    let after ← joinParts? [] ps
    return before ++ c :: after

/-- The text from behind an opening quotation mark up to the closing one, and
what follows it. -/
def readText? (cs : List Char) : Option (List Char × List Char) := do
  let (ps, rest) ← readParts? cs
  let text ← joinParts? [] ps
  return (text, rest)

/-- The bytes of parts: a character stands for its own. -/
def bytesOf (ps : List Part) : List UInt8 :=
  ps.flatMap fun p =>
    match p with
    | .char c => String.utf8EncodeChar c
    | .byte b => [b]

/-- The same for bytes, which need not spell characters. -/
def readBytes? (cs : List Char) : Option (List UInt8 × List Char) :=
  (readParts? cs).map fun (ps, rest) => (bytesOf ps, rest)

end Calculator.Text.Quoted
