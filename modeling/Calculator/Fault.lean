/-
# What can stop a calculation

A calculation goes through three stages (tokens, postfix order, value), and
each cause below belongs to exactly one of them (`Fault.stage`). A cause keeps
what its message names: a position counted in characters, a character, a word.

Key definitions: `Fault`, `Fault.stage`, `Fault.message`.
-/

namespace Calculator

/-- The stage of a calculation that failed. -/
inductive Stage
  | lexical
  | syntactic
  | arithmetic
  deriving DecidableEq, Repr

/-- The name of the stage in the log. -/
def Stage.label : Stage → String
  | .lexical => "Lexicale"
  | .syntactic => "Syntaxe"
  | .arithmetic => "Evaluation"

/-- Why a calculation has no result. -/
inductive Fault
  | unexpectedChar (position : Nat) (char : Char)
  | badNumber (lexeme : String)
  | unknownName (name : String)
  | missingOperator (position : Nat)
  | missingOperand (position : Nat)
  | strayComma (position : Nat)
  | missingParen (function : String)
  | strayClose
  | unclosedParen
  | noExpression
  | tooFewOperands (name : String)
  | factorialDomain
  | leftover (count : Nat)
  deriving DecidableEq, Repr

namespace Fault

def stage : Fault → Stage
  | unexpectedChar .. => .lexical
  | badNumber _ | unknownName _ | missingOperator _ | missingOperand _ | strayComma _
  | missingParen _ | strayClose | unclosedParen | noExpression => .syntactic
  | tooFewOperands _ | factorialDomain | leftover _ => .arithmetic

/-- The wording of a cause, with the offending character or word as it is. -/
def message : Fault → String
  | unexpectedChar p c =>
    "caractère inattendu '" ++ String.singleton c ++ "' en position " ++ toString p
  | badNumber lexeme => "nombre invalide: '" ++ lexeme ++ "'"
  | unknownName name => "identifiant inconnu: '" ++ name ++ "'"
  | missingOperator p => "opérateur manquant en position " ++ toString p
  | missingOperand p => "opérande attendu en position " ++ toString p
  | strayComma p => "virgule hors parenthèses en position " ++ toString p
  | missingParen f => "parenthèse attendue après '" ++ f ++ "'"
  | strayClose => "parenthèse fermante sans ouvrante"
  | unclosedParen => "parenthèse non fermée"
  | noExpression => "expression vide"
  | tooFewOperands name => "opérandes manquants pour '" ++ name ++ "'"
  | factorialDomain => "factorielle : entier positif ou nul requis"
  | leftover n => "expression invalide (" ++ toString n ++ " valeurs restantes sur la pile)"

/-- The place in the text that a cause points at, if it points at one. -/
def position? : Fault → Option Nat
  | unexpectedChar p _ | missingOperator p | missingOperand p | strayComma p => some p
  | _ => none

/-- The cause without its place: what two spellings of one expression share. -/
def forgetPosition : Fault → Fault
  | unexpectedChar _ c => unexpectedChar 0 c
  | missingOperator _ => missingOperator 0
  | missingOperand _ => missingOperand 0
  | strayComma _ => strayComma 0
  | f => f

end Fault

/-! ### Results that may be faults -/

section

variable {α β : Type} {x : Except Fault α} {fault : Fault} {b : β}

theorem map_eq_ok {g : α → β} (h : x.map g = .ok b) : ∃ a, x = .ok a ∧ g a = b := by
  cases x with
  | error _ => cases h
  | ok a => exact ⟨a, rfl, Except.ok.inj h⟩

theorem map_eq_error {g : α → β} (h : x.map g = .error fault) : x = .error fault := by
  cases x with
  | error _ => cases h; rfl
  | ok _ => cases h

theorem bind_eq_ok {k : α → Except Fault β} (h : x.bind k = .ok b) :
    ∃ a, x = .ok a ∧ k a = .ok b := by
  cases x with
  | error _ => cases h
  | ok a => exact ⟨a, rfl, h⟩

/-- What is done in two parts fails in the first or in the second. -/
theorem bind_eq_error {k : α → Except Fault β} (h : x.bind k = .error fault) :
    x = .error fault ∨ ∃ a, x = .ok a ∧ k a = .error fault := by
  cases x with
  | error _ => cases h; exact .inl rfl
  | ok a => exact .inr ⟨a, rfl, h⟩

end

end Calculator
