/-
# Numerals: the texts of doubles

A double is written with the digits of its shortest decimal, always
positionally: no exponent, however large or small it is. Three places of the
calculator differ in two details only, which `Numeral.Style` records. Reading
accepts more: a sign, a point anywhere among the digits, an exponent, and the
words for infinity and NaN in any case; it rounds correctly.

Key definitions: `Numeral.Style`, `Numeral.write`, `Numeral.read?`.
-/
import Calculator.Decimal.Shortest

namespace Calculator.Numeral

open Double

/-! ### Writing -/

/-- What the places that show numbers decide differently. -/
structure Style where
  /-- Minus zero keeps its sign. -/
  signedZero : Bool
  /-- A whole number ends in a point and a zero. -/
  pointed : Bool

/-- On screen zero has no sign, as the text goes back into the entry. -/
def screen : Style := ⟨false, false⟩

/-- In the log minus zero is told from zero. -/
def logged : Style := ⟨true, false⟩

/-- In stored text a number is marked as a fraction even when it is whole. -/
def stored : Style := ⟨true, true⟩

/-- A decimal without exponent: zeros fill the places between its digits and the point. -/
def positional (d : Decimal) : List Char :=
  let ds := Nat.toDigits 10 d.digits
  let point : Int := ds.length + d.exponent
  if 0 ≤ d.exponent then ds ++ List.replicate d.exponent.toNat '0'
  else if 0 < point then ds.take point.toNat ++ '.' :: ds.drop point.toNat
  else '0' :: '.' :: (List.replicate (-point).toNat '0' ++ ds)

/-- The digits of a finite code. -/
def digits (c : Nat) : List Char :=
  if c = 0 then ['0'] else positional (Decimal.shortest c)

def withPoint (cs : List Char) : List Char :=
  if cs.contains '.' then cs else cs ++ ['.', '0']

def writeChars (style : Style) (x : Float) : List Char :=
  if infinityCode < code x then "NaN".toList
  else
    let sign := if isNegative x && (style.signedZero || code x != 0) then ['-'] else []
    let body :=
      if code x = infinityCode then "inf".toList
      else if style.pointed then withPoint (digits (code x))
      else digits (code x)
    sign ++ body

/-- The text of a double. -/
def write (style : Style) (x : Float) : String := String.ofList (writeChars style x)

/-! ### Reading -/

/-- The exponent part of a numeral, nothing standing for zero. -/
def readExponent? : List Char → Option Int
  | [] => some 0
  | c :: cs =>
    if c == 'e' || c == 'E' then
      let (negative, ds) := match cs with
        | '-' :: r => (true, r)
        | '+' :: r => (false, r)
        | r => (false, r)
      if ds.isEmpty || !ds.all Char.isDigit then none
      else
        let n : Int := Nat.ofDigitChars 10 ds 0
        some (if negative then -n else n)
    else none

/-- Digits with at most one point among them, then an exponent. -/
def readDecimal? (cs : List Char) : Option Decimal :=
  let whole := cs.takeWhile Char.isDigit
  let rest := cs.dropWhile Char.isDigit
  let (fraction, rest) := match rest with
    | '.' :: r => (r.takeWhile Char.isDigit, r.dropWhile Char.isDigit)
    | r => ([], r)
  if whole.isEmpty && fraction.isEmpty then none
  else
    (readExponent? rest).map fun e =>
      ⟨Nat.ofDigitChars 10 (whole ++ fraction) 0, e - fraction.length⟩

/-- The code of a numeral without sign. -/
def readCode? (cs : List Char) : Option Nat :=
  let word := cs.map Char.toLower
  if word = "inf".toList || word = "infinity".toList then some infinityCode
  else if word = "nan".toList then some nanCode
  else (readDecimal? cs).map Decimal.code

def readChars? : List Char → Option Float
  | '-' :: cs => (readCode? cs).map (ofCode true)
  | '+' :: cs => (readCode? cs).map (ofCode false)
  | cs => (readCode? cs).map (ofCode false)

/-- The double of a numeral, unless the text is none. -/
def read? (s : String) : Option Float := readChars? s.toList

end Calculator.Numeral
