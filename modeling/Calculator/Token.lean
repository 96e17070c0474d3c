/-
# Tokens

A token is a number as it was written, a name in small letters, or one symbol,
with the place of its first character. Whether a number is well formed and
whether a name means anything is decided later, so a token may hold any text.

Key definitions: `Lexeme`, `Token`, `Token.line`.
-/

namespace Calculator

/-- What a token says, without its place. -/
inductive Lexeme
  | number (text : String)
  | name (text : String)
  | symbol (char : Char)
  deriving DecidableEq, Repr

def Lexeme.text : Lexeme → String
  | number text => text
  | name text => text
  | symbol c => String.singleton c

/-- A lexeme and the index of its first character in the text it was read from. -/
structure Token where
  lexeme : Lexeme
  position : Nat
  deriving DecidableEq, Repr

namespace Token

def text (t : Token) : String := t.lexeme.text

/-- The tokens on one line, a space between two. -/
def line (ts : List Token) : String := " ".intercalate (ts.map text)

theorem line_congr {ts us : List Token} (h : ts.map lexeme = us.map lexeme) :
    line ts = line us := by
  have h' : ts.map (Lexeme.text ∘ lexeme) = us.map (Lexeme.text ∘ lexeme) := by
    rw [← List.map_map, ← List.map_map, h]
  exact congrArg (" ".intercalate ·) h'

end Token

end Calculator
