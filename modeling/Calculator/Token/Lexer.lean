/-
# Reading tokens

Left to right: a blank is skipped, a run of digits and points is a number, a
run of ASCII letters is a name, one of nine symbols stands for itself, and the
first other character stops the reading with its place. Runs are as long as
they can be, so `1.2.3` is one number and `ab12` is a name and a number.

Not decided here: whether a number can be read and whether a name is known.

Key definitions: `Token.scanFrom`, `Token.scan`.
-/
import Calculator.Fault
import Calculator.Text.Blank
import Calculator.Token

namespace Calculator

namespace Lexeme

/-- The symbols that the calculator knows, parentheses and comma included. -/
def symbols : List Char := ['+', '-', '*', '/', '^', '(', ')', '!', ',']

def isNumberChar (c : Char) : Bool := c.isDigit || c == '.'

def isNameChar (c : Char) : Bool := c.isAlpha

def isSymbolChar (c : Char) : Bool := symbols.contains c

/-- The name that a run of letters spells, in small letters. -/
def ofLetters (cs : List Char) : Lexeme := .name (String.ofList (cs.map Char.toLower))

end Lexeme

namespace Token

open Text Lexeme

/-- Reads the tokens of `cs`, whose first character has the index `pos`. -/
def scanFrom (pos : Nat) (cs : List Char) : Except Fault (List Token) :=
  match cs with
  | [] => .ok []
  | c :: rest =>
    if isBlank c then scanFrom (pos + 1) rest
    else if isNumberChar c then
      let run := rest.takeWhile isNumberChar
      (scanFrom (pos + 1 + run.length) (rest.dropWhile isNumberChar)).map
        (⟨.number (String.ofList (c :: run)), pos⟩ :: ·)
    else if isNameChar c then
      let run := rest.takeWhile isNameChar
      (scanFrom (pos + 1 + run.length) (rest.dropWhile isNameChar)).map
        (⟨ofLetters (c :: run), pos⟩ :: ·)
    else if isSymbolChar c then (scanFrom (pos + 1) rest).map (⟨.symbol c, pos⟩ :: ·)
    else .error (.unexpectedChar pos c)
  termination_by cs.length
  decreasing_by
    all_goals simp only [List.length_cons]
    all_goals first
      | omega
      | exact Nat.lt_succ_of_le (List.dropWhile_sublist _).length_le

/-- The tokens of a text, or the first character that belongs to none. -/
def scan (s : String) : Except Fault (List Token) := scanFrom 0 s.toList

/-- Only a foreign character stops the lexer. -/
theorem stage_of_scanFrom_error {pos : Nat} {cs : List Char} {f : Fault}
    (h : scanFrom pos cs = .error f) : f.stage = .lexical := by
  fun_induction scanFrom pos cs with
  | case1 => cases h
  | case2 _ _ _ _ ih => exact ih h
  | case3 _ _ _ _ _ _ ih => exact ih (map_eq_error h)
  | case4 _ _ _ _ _ _ _ ih => exact ih (map_eq_error h)
  | case5 _ _ _ _ _ _ _ ih => exact ih (map_eq_error h)
  | case6 => cases h; rfl

end Token

end Calculator
