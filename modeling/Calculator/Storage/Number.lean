/-
# Numbers of the stored notation

A number is an integer or a fraction. Integers may be written in base two, eight
or sixteen and have to fit the width that they name, or else the widest one;
what no integer can hold may still be a fraction. Fractions are the numerals of
the calculator itself, infinity and NaN included, and may name a width too.
Underscores separate digits in both.

A number is taken as a whole here: what stands between two separators of the
notation either is one or is none.

Key definitions: `Number.readInteger?`, `Number.readFraction?`, `isNumber`.
-/
import Calculator.Decimal.Numeral
import Calculator.Text.Quoted

namespace Calculator.Storage.Number

/-- Whether a number is negative, and the rest of it behind its sign. -/
def splitSign : List Char → Bool × List Char
  | '-' :: r => (true, r)
  | '+' :: r => (false, r)
  | r => (false, r)

/-! ### Integers -/

/-- How many bits an integer may take, and whether one of them is its sign. -/
structure Width where
  signed : Bool
  bits : Nat
  deriving DecidableEq, Repr

namespace Width

def all : List Width :=
  [⟨true, 8⟩, ⟨true, 16⟩, ⟨true, 32⟩, ⟨true, 64⟩, ⟨true, 128⟩,
   ⟨false, 8⟩, ⟨false, 16⟩, ⟨false, 32⟩, ⟨false, 64⟩, ⟨false, 128⟩]

/-- The word for a width behind an integer. -/
def name (w : Width) : List Char := (if w.signed then 'i' else 'u') :: Nat.toDigits 10 w.bits

/-- Whether an integer fits a width. -/
def holds (w : Width) (n : Int) : Bool :=
  if w.signed then -2 ^ (w.bits - 1) ≤ n && n < 2 ^ (w.bits - 1) else 0 ≤ n && n < 2 ^ w.bits

end Width

/-- The base of an integer without its sign, and its digits. -/
def splitBase : List Char → Nat × List Char
  | '0' :: 'b' :: r => (2, r)
  | '0' :: 'o' :: r => (8, r)
  | '0' :: 'x' :: r => (16, r)
  | r => (10, r)

def isIntegerChar (c : Char) : Bool := (Text.Quoted.hexValue? c).isSome || c == '_'

def digit? (base : Nat) (c : Char) : Option Nat := (Text.Quoted.hexValue? c).filter (· < base)

/-- The number that digits spell in a base, with underscores behind the first of them. -/
def ofDigits? (base : Nat) (cs : List Char) : Option Nat :=
  if cs.isEmpty || cs.head? == some '_' then none
  else ((cs.filter (· != '_')).mapM (digit? base)).map fun ds => ds.foldl (base * · + ·) 0

/-- The width that an integer has to fit. It may be named behind binary and decimal digits;
otherwise it is the widest one, signed for a negative integer. -/
def width? (negative : Bool) (base : Nat) (suffix : List Char) : Option Width :=
  if suffix.isEmpty then some ⟨negative, 128⟩
  else if base = 2 ∨ base = 10 then Width.all.find? (·.name == suffix)
  else none

/-- The integer that a number is. -/
def readInteger? (text : List Char) : Option Int := do
  let (negative, unsigned) := splitSign text
  let (base, digits) := splitBase unsigned
  let width ← width? negative base (digits.dropWhile isIntegerChar)
  let n ← ofDigits? base (digits.takeWhile isIntegerChar)
  let value : Int := if negative then -n else n
  if width.holds value then some value else none

/-! ### Fractions -/

def isFractionChar (c : Char) : Bool :=
  c.isDigit || c == 'e' || c == 'E' || c == '.' || c == '+' || c == '-' || c == '_'

/-- A fraction without its underscores, which may stand where a digit or an exponent mark came
before them with no point since. -/
def dropUnderscores? (allowed : Bool) : List Char → Option (List Char)
  | [] => some []
  | c :: r =>
    if c = '_' then if allowed then dropUnderscores? allowed r else none
    else
      let allowed := c != '.' && (allowed || c.isDigit || c == 'e' || c == 'E')
      (dropUnderscores? allowed r).map (c :: ·)

/-- The word for infinity or NaN at the front of a number, with its sign, and what follows it. -/
def readWord? (text : List Char) : Option (Float × List Char) :=
  let (negative, unsigned) := splitSign text
  match unsigned with
  | 'i' :: 'n' :: 'f' :: r => some (Double.ofCode negative Double.infinityCode, r)
  | 'N' :: 'a' :: 'N' :: r => some (Double.ofCode negative Double.nanCode, r)
  | _ => none

/-- The fraction at the front of a number, and what follows it. -/
def readFront? (text : List Char) : Option (Float × List Char) :=
  match readWord? text with
  | some front => some front
  | none => do
    let digits ← dropUnderscores? false (text.takeWhile isFractionChar)
    let x ← Numeral.readChars? digits
    return (x, text.dropWhile isFractionChar)

/-- The double of a fraction that names no width or one of `widths`. -/
def readFractionOf? (widths : List String) (text : List Char) : Option Float :=
  match readFront? text with
  | some (x, suffix) =>
    if suffix.isEmpty || widths.any (·.toList == suffix) then some x else none
  | none => none

/-- The double that a number stands for where a double is to be read. -/
def readFraction? (text : List Char) : Option Float := readFractionOf? ["f64"] text

/-! ### Both -/

/-- Whether a text is a number of any kind. -/
def isNumber (text : List Char) : Bool :=
  (readInteger? text).isSome || (readFractionOf? ["f32", "f64"] text).isSome

theorem dropUnderscores?_of_not_mem {allowed : Bool} {cs : List Char} (h : '_' ∉ cs) :
    dropUnderscores? allowed cs = some cs := by
  induction cs generalizing allowed with
  | nil => rfl
  | cons c r ih =>
    have hc : c ≠ '_' := fun hc => h (hc ▸ List.mem_cons_self)
    have hr : '_' ∉ r := fun hr => h (List.mem_cons_of_mem c hr)
    rw [dropUnderscores?, if_neg hc]
    exact congrArg (Option.map (c :: ·)) (ih hr)

theorem isNumber_of_readFraction? {text : List Char} {x : Float}
    (h : readFraction? text = some x) : isNumber text = true := by
  unfold readFraction? readFractionOf? at h
  unfold isNumber readFractionOf?
  cases hf : readFront? text with
  | none => rw [hf] at h; cases h
  | some front =>
    rw [hf] at h
    simp only [List.any_cons, List.any_nil, Bool.or_false, Option.ite_none_right_eq_some] at h
    obtain ⟨hs, -⟩ := h
    simp only [Bool.or_eq_true] at hs
    have ht : (front.2.isEmpty || ["f32", "f64"].any (·.toList == front.2)) = true := by
      rcases hs with hs | hs
      · rw [hs, Bool.true_or]
      · rw [List.any_cons, List.any_cons, hs, Bool.true_or, Bool.or_true, Bool.or_true]
    simp only [if_pos ht, Option.isSome_some, Bool.or_true]

end Calculator.Storage.Number
