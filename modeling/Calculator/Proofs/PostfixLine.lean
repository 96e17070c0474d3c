/-
# The line of a postfix order determines it

On the line of a postfix order the items are words with a space between two. A word is the symbol
of an operator, the name of a function, or a number: digits and points, or the word for infinity. No
word is two of these (`Item.ofWord?_eq_some_iff`), so operators and functions are never lost. The
line does lose the sign of a zero, and no word is a NaN or a number with a sign; but numbers are
read from digits and points or are one of two constants, so the postfix order of a text has no such
numbers (`unsigned_of_ofText`). Reading its line therefore gives back the items (`readLine?_line`),
and what comes after the ordering depends on the line alone.

Key definitions: `Rpn.ofText`, `Double.Unsigned`, `Item.Word`, `Rpn.readLine?`.
-/
import Calculator.Evaluation
import Calculator.Proofs.Conservation
import Calculator.Proofs.ScreenText
import Calculator.Proofs.Slices

namespace Calculator

/-- The postfix order of a text. -/
def Rpn.ofText (s : String) : Except Fault (List Item) := (Token.scan s).bind Rpn.ofTokens

/-- Behind the ordering nothing else of a text matters. -/
theorem calculate_of_ofText {s : String} {items : List Item} (h : Rpn.ofText s = .ok items)
    (mode : AngleMode) : calculate mode s = Rpn.eval mode items := by
  obtain ⟨ts, hs, hitems⟩ := bind_eq_ok h
  rw [calculate_eq, hs]
  show (Rpn.ofTokens ts).bind (Rpn.eval mode) = _
  rw [hitems]
  rfl

/-! ### Numbers without sign -/

namespace Double

/-- The double has no sign and is no NaN. -/
def Unsigned (x : Float) : Prop := isNegative x = false ∧ code x ≤ infinityCode

theorem unsigned_ofCode {c : Nat} (hc : c ≤ infinityCode) : Unsigned (ofCode false c) := by
  refine ⟨isNegative_ofCode false hc, ?_⟩
  rw [code_ofCode false hc]
  exact hc

theorem Unsigned.ofCode_code {x : Float} (h : Unsigned x) : ofCode false (code x) = x := by
  rw [← h.1]
  exact Double.ofCode_code x

end Double

namespace Rpn

open Double

/-- What the characters of a text spell has no sign and is no NaN. -/
theorem unsigned_of_literal? {l : Lexeme} {slice : List Char} {x : Float}
    (spelled : l.SpelledBy slice) (h : literal? l = some x) : Unsigned x := by
  cases spelled with
  | number _ digits =>
    have hread : Numeral.read? (String.ofList slice) = some x := h
    rw [Numeral.read?_of_isNumberChar digits, Option.map_eq_some_iff] at hread
    obtain ⟨d, -, rfl⟩ := hread
    exact unsigned_ofCode d.code_le
  | name _ _ =>
    have hconstant : constant? (String.ofList (slice.map Char.toLower)) = some x := h
    unfold constant? at hconstant
    split at hconstant
    · obtain rfl := Option.some.inj hconstant
      exact ⟨by decide +kernel, by decide +kernel⟩
    · split at hconstant
      · obtain rfl := Option.some.inj hconstant
        exact ⟨by decide +kernel, by decide +kernel⟩
      · cases hconstant
  | symbol _ => cases h

/-- No number in the postfix order of a text has a sign, and none is a NaN: they are those that the
tokens stand for. -/
theorem unsigned_of_ofText {s : String} {items : List Item} (h : ofText s = .ok items) :
    ∀ x, .number x ∈ items → Unsigned x := by
  intro x hx
  obtain ⟨ts, hs, hts⟩ := bind_eq_ok h
  obtain ⟨-, out, state, hrun, -, rfl⟩ := ofTokens_eq_ok_iff.mp hts
  have hmem : x ∈ (out ++ released state.waiting).filterMap Item.number? :=
    List.mem_filterMap.mpr ⟨_, hx, rfl⟩
  rw [List.filterMap_append, numbers_released, List.append_nil, hrun.numbers] at hmem
  obtain ⟨l, hl, hvalue⟩ := List.mem_filterMap.mp hmem
  obtain ⟨t, ht, rfl⟩ := List.mem_map.mp hl
  obtain ⟨slice, spelled⟩ := (Token.scanFrom_eq_ok_iff.mp hs).spelled t ht
  exact unsigned_of_literal? spelled hvalue

end Rpn

/-! ### Words -/

namespace Operator

/-- The operator of a word. -/
def ofSymbol? (w : String) : Option Operator := all.find? fun op => op.symbol == w

theorem ofSymbol?_symbol (op : Operator) : ofSymbol? op.symbol = some op := by
  rcases op with b | u
  · cases b <;> rfl
  · cases u <;> rfl

theorem symbol_of_ofSymbol? {w : String} {op : Operator} (h : ofSymbol? w = some op) :
    op.symbol = w := by
  simpa using List.find?_some h

theorem ofSymbol?_name (f : Function) : ofSymbol? f.name = none := by cases f <;> rfl

end Operator

namespace Numeral

open Double Lexeme

/-- The word is one of digits and points, or the word for infinity. -/
def isWord (w : String) : Bool := w.toList.all isNumberChar || w == "inf"

/-- The double of a word. -/
def ofWord? (w : String) : Option Float := if isWord w then read? w else none

theorem isWord_of_ofWord? {w : String} {x : Float} (h : ofWord? w = some x) : isWord w = true := by
  unfold ofWord? at h
  split at h
  · assumption
  · cases h

theorem isWord_symbol (op : Operator) : isWord op.symbol = false := by
  rcases op with b | u
  · cases b <;> decide +kernel
  · cases u <;> decide +kernel

theorem isWord_name (f : Function) : isWord f.name = false := by cases f <;> decide +kernel

/-- The text of a double without sign is its digits, of an infinite one a word. -/
theorem write_unsigned {x : Float} (h : Unsigned x) :
    write screen x =
      if code x = infinityCode then "inf" else String.ofList (digits (code x)) := by
  have hnan : ¬ infinityCode < code x := Nat.not_lt.mpr h.2
  have hpointed : ¬ screen.pointed = true := by decide
  rw [write, writeChars, if_neg hnan, h.1]
  simp only [Bool.false_and, Bool.false_eq_true, if_false, List.nil_append, if_neg hpointed]
  by_cases hinf : code x = infinityCode
  · rw [if_pos hinf, if_pos hinf, String.ofList_toList]
  · rw [if_neg hinf, if_neg hinf]

/-- The text of a double without sign is a word that reads back as it. -/
theorem ofWord?_write {x : Float} (h : Unsigned x) : ofWord? (write screen x) = some x := by
  rw [write_unsigned h]
  by_cases hinf : code x = infinityCode
  · have hword : isWord "inf" = true := by decide +kernel
    have hread : read? "inf" = some (ofCode false infinityCode) := by decide +kernel
    rw [if_pos hinf, ofWord?, if_pos hword, hread, ← hinf, h.ofCode_code]
  · have hcode : code x < infinityCode := Nat.lt_of_le_of_ne h.2 hinf
    have hword : isWord (String.ofList (digits (code x))) = true := by
      have hall : (digits (code x)).all isNumberChar = true :=
        List.all_eq_true.mpr isNumberChar_of_mem_digits
      rw [isWord, String.toList_ofList, hall, Bool.true_or]
    rw [if_neg hinf, ofWord?, if_pos hword, read?_digits hcode, h.ofCode_code]

end Numeral

namespace Item

/-- The word is one for the item. -/
inductive Word : Item → String → Prop
  | operator (op : Operator) : Word (.operator op) op.symbol
  | function (f : Function) : Word (.function f) f.name
  | number {x : Float} {w : String} (reads : Numeral.ofWord? w = some x) : Word (.number x) w

/-- The item of a word: an operator by its symbol, a function by its name, or a number. -/
def ofWord? (w : String) : Option Item :=
  ((Operator.ofSymbol? w).map operator).or
    (((Function.ofName? w).map function).or ((Numeral.ofWord? w).map number))

/-- Which kind is tried first does not matter: a word is a word for one item only. -/
theorem ofWord?_eq_some_iff {w : String} {item : Item} : ofWord? w = some item ↔ item.Word w := by
  constructor
  · intro h
    unfold ofWord? at h
    simp only [Option.or_eq_some_iff, Option.map_eq_some_iff] at h
    rcases h with ⟨op, hop, rfl⟩ | ⟨-, ⟨f, hf, rfl⟩ | ⟨-, x, hx, rfl⟩⟩
    · rw [← Operator.symbol_of_ofSymbol? hop]
      exact .operator op
    · rw [← Function.name_of_ofName? hf]
      exact .function f
    · exact .number hx
  · intro h
    cases h with
    | operator op =>
      rw [ofWord?, Operator.ofSymbol?_symbol]
      rfl
    | function f =>
      rw [ofWord?, Operator.ofSymbol?_name, Function.ofName?_name]
      rfl
    | @number x _ reads =>
      have hword := Numeral.isWord_of_ofWord? reads
      have hop : Operator.ofSymbol? w = none := by
        refine Option.eq_none_iff_forall_ne_some.mpr fun op hop => ?_
        rw [← Operator.symbol_of_ofSymbol? hop, Numeral.isWord_symbol] at hword
        cases hword
      have hf : Function.ofName? w = none := by
        refine Option.eq_none_iff_forall_ne_some.mpr fun f hf => ?_
        rw [← Function.name_of_ofName? hf, Numeral.isWord_name] at hword
        cases hword
      rw [ofWord?, hop, hf, reads]
      rfl

/-- No word has a space in it. -/
theorem Word.space_notMem {item : Item} {w : String} (h : item.Word w) : ' ' ∉ w.toList := by
  cases h with
  | operator op =>
    rcases op with b | u
    · cases b <;> decide +kernel
    · cases u <;> decide +kernel
  | function f => cases f <;> decide +kernel
  | number reads =>
    intro hspace
    have hword := Numeral.isWord_of_ofWord? reads
    rw [Numeral.isWord, Bool.or_eq_true, beq_iff_eq, List.all_eq_true] at hword
    rcases hword with hall | rfl
    · exact absurd (hall ' ' hspace) (by decide)
    · exact absurd hspace (by decide)

theorem word_text : ∀ {item : Item}, (∀ x, item = .number x → Double.Unsigned x) →
    item.Word item.text
  | .operator op, _ => .operator op
  | .function f, _ => .function f
  | .number x, h => .number (Numeral.ofWord?_write (h x rfl))

end Item

/-! ### Lines -/

namespace Rpn

/-- The words of a line: what stands between its spaces. -/
def words (text : String) : List String := (text.toList.splitOn ' ').map String.ofList

/-- The items of a line, if each of its words is one for an item. -/
def readLine? (text : String) : Option (List Item) := (words text).mapM Item.ofWord?

theorem words_line {items : List Item} (hne : items ≠ [])
    (hwords : ∀ item ∈ items, item.Word item.text) : words (line items) = items.map Item.text := by
  have hsplit : (line items).toList.splitOn ' ' = items.map fun item => item.text.toList := by
    rw [line, String.toList_intercalate, List.map_map]
    refine List.splitOn_intercalate ' ' ?_ ?_
    · intro w hw
      obtain ⟨item, hitem, rfl⟩ := List.mem_map.mp hw
      exact (hwords item hitem).space_notMem
    · exact List.map_eq_nil_iff.not.mpr hne
  rw [words, hsplit, List.map_map]
  exact List.map_congr_left fun item _ => String.ofList_toList

theorem mapM_text : ∀ {items : List Item}, (∀ item ∈ items, item.Word item.text) →
    (items.map Item.text).mapM Item.ofWord? = some items
  | [], _ => rfl
  | item :: items, h => by
    obtain ⟨hitem, hrest⟩ := List.forall_mem_cons.mp h
    rw [List.map_cons, List.mapM_cons, Item.ofWord?_eq_some_iff.mpr hitem, mapM_text hrest]
    rfl

/-- The line of the postfix order of a text is read as the same items. -/
theorem readLine?_line {s : String} {items : List Item} (h : ofText s = .ok items) :
    readLine? (line items) = some items := by
  obtain ⟨ts, -, hts⟩ := bind_eq_ok h
  have hunsigned := unsigned_of_ofText h
  have hwords : ∀ item ∈ items, item.Word item.text := by
    intro item hitem
    refine Item.word_text fun x hx => ?_
    subst hx
    exact hunsigned x hitem
  rw [readLine?, words_line (ofTokens_ne_nil hts) hwords]
  exact mapM_text hwords

/-- The line of the postfix order of a text is read as the same items; so texts with the same line
have the same value, or the same fault, whatever the mode. -/
theorem line_determines :
    (∀ s items, ofText s = .ok items → readLine? (line items) = some items) ∧
    ∀ s s' items items', ofText s = .ok items → ofText s' = .ok items' →
      line items = line items' → ∀ mode, calculate mode s = calculate mode s' := by
  refine ⟨fun s items h => readLine?_line h, fun s s' items items' h h' hline mode => ?_⟩
  have hitems : some items = some items' :=
    calc some items = readLine? (line items) := (readLine?_line h).symm
      _ = readLine? (line items') := by rw [hline]
      _ = some items' := readLine?_line h'
  obtain rfl := Option.some.inj hitems
  rw [calculate_of_ofText h, calculate_of_ofText h']

/-- A constant has the line of its digits, and parentheses leave no trace. -/
theorem line_determines_constant :
    let items : List Item :=
      [.number 2, .number pi, .operator (.unary .neg), .operator (.binary .mul)]
    ofText "2*-PI" = .ok items ∧ ofText "(2)*(-3.141592653589793)" = .ok items ∧
    line items = "2 3.141592653589793 neg *" ∧
    readLine? (line items) = some items ∧
    calculate .degrees "2*-PI" = calculate .degrees "(2)*(-3.141592653589793)" := by
  intro items
  have h : ofText "2*-PI" = .ok items := by decide +kernel
  have h' : ofText "(2)*(-3.141592653589793)" = .ok items := by decide +kernel
  have hline : line items = "2 3.141592653589793 neg *" := by decide +kernel
  exact ⟨h, h', hline, line_determines.1 _ _ h, line_determines.2 _ _ _ _ h h' rfl .degrees⟩

end Rpn

end Calculator
