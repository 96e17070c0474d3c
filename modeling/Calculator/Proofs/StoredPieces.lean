/-
# Pieces of the stored text are read as they were written

The compact spelling has no blanks, so a piece ends where the next one starts.
Marks and quoted texts end by themselves; a word or a numeral goes on as long as it
can and has to be followed by a mark. Pieces that keep to that (`Apart`) are cut
out of their spelling again, one by one (`scan?_write`).

Not covered: characters, bytes and hashed names, which are never written here.

Key definitions: `Piece.isPlainWord`, `Piece.isPlainNumeral`, `Piece.Apart`.
-/
import Calculator.Proofs.QuotedText
import Calculator.Storage.Piece

namespace Calculator.Storage.Piece

open Text

/-! ### The first character -/

/-- A character that introduces no comment and nothing in quotation marks is the first one of a
mark, a word or a numeral. -/
theorem front_plain {c : Char} {r : List Char} (hs : c ≠ '/') (hq : c ≠ '"') (ha : c ≠ '\'')
    (hb : c ≠ 'b') (hr : c = 'r' → r.head? ≠ some '#' ∧ r.head? ≠ some '"') :
    front (c :: r) =
      if isGap c then .gap r
      else if marks.contains c then .piece (.mark c) r
      else if isWordStart c then
        .piece (.word (c :: r.takeWhile isWordChar)) (r.dropWhile isWordChar)
      else if isNumeralStart c then
        .piece (.numeral (c :: r.takeWhile isNumeralChar)) (r.dropWhile isNumeralChar)
      else .malformed := by
  rw [front]
  case x_4 | x_5 =>
    rintro r' hc rfl
    simp at hr
    exact hr hc
  all_goals simp [*]

/-- A mark belongs to no other class. -/
theorem class_of_mark {c : Char} (hc : c ∈ marks) :
    isGap c = false ∧ isWordChar c = false ∧ isNumeralChar c = false := by
  have hall : ∀ c ∈ marks, isGap c = false ∧ isWordChar c = false ∧ isNumeralChar c = false :=
    List.all_iff_forall_prop.mp (by decide +kernel)
  exact hall c hc

/-- The first character of a word belongs to no class that is tried before. -/
theorem class_of_isWordStart {c : Char} (hc : isWordStart c = true) :
    isGap c = false ∧ c ∉ marks ∧ c ∉ ['/', '"', '\''] := by
  have hgap : ∀ d, isGap d = true → isWordStart d = false := by
    intro d hd
    rw [isGap, List.contains_iff_mem] at hd
    refine List.all_iff_forall_prop (p := fun d => isWordStart d = false).mp ?_ d hd
    decide +kernel
  have hmarks : ∀ d ∈ marks, isWordStart d = false :=
    List.all_iff_forall_prop.mp (by decide +kernel)
  have hquotes : ∀ d ∈ ['/', '"', '\''], isWordStart d = false :=
    List.all_iff_forall_prop.mp (by decide +kernel)
  have hne : ¬ isWordStart c = false := by simp [hc]
  exact ⟨Bool.eq_false_iff.mpr fun h => hne (hgap c h), fun h => hne (hmarks c h),
    fun h => hne (hquotes c h)⟩

theorem mem_of_isDigit {c : Char} (hc : c.isDigit = true) : c ∈ "0123456789".toList := by
  obtain ⟨hl, hu⟩ := Char.isDigit_iff_toNat.mp hc
  have hall : ∀ n < 58, 48 ≤ n → Char.ofNat n ∈ "0123456789".toList := by decide
  rw [← Char.ofNat_toNat c]
  exact hall c.toNat (Nat.lt_succ_of_le hu) hl

/-- The first character of a numeral belongs to no class that is tried before. -/
theorem class_of_isNumeralStart {c : Char} (hc : isNumeralStart c = true) :
    isGap c = false ∧ c ∉ marks ∧ isWordStart c = false ∧ c ∉ ['/', '"', '\'', 'b', 'r'] := by
  have hall : ∀ d ∈ '.' :: '+' :: '-' :: "0123456789".toList,
      isGap d = false ∧ d ∉ marks ∧ isWordStart d = false ∧ d ∉ ['/', '"', '\'', 'b', 'r'] :=
    List.all_iff_forall_prop.mp (by decide +kernel)
  refine hall c ?_
  simp only [isNumeralStart, Bool.or_eq_true, beq_iff_eq] at hc
  rcases hc with ((hc | rfl) | rfl) | rfl
  · simp only [List.mem_cons]
    exact .inr (.inr (.inr (mem_of_isDigit hc)))
  all_goals decide

/-! ### One piece -/

/-- What follows a piece ends it: a mark, or nothing. -/
def Ends (rest : List Char) : Prop := ∀ c, rest.head? = some c → c ∈ marks

/-- A word of more than one character that is not taken for bytes. -/
def isPlainWord : List Char → Bool
  | c :: d :: w => isWordStart c && c != 'b' && (d :: w).all isWordChar
  | _ => false

def isPlainNumeral : List Char → Bool
  | c :: cs => isNumeralStart c && cs.all isNumeralChar
  | [] => false

theorem front_mark {c : Char} (hc : c ∈ marks) (rest : List Char) :
    front (c :: rest) = .piece (.mark c) rest := by
  have hplain : ∀ d ∈ marks, d ≠ '/' ∧ d ≠ '"' ∧ d ≠ '\'' ∧ d ≠ 'b' ∧ d ≠ 'r' :=
    List.all_iff_forall_prop.mp (by decide)
  obtain ⟨hs, hq, ha, hb, hr⟩ := hplain c hc
  rw [front_plain hs hq ha hb fun h => absurd h hr, (class_of_mark hc).1]
  rw [if_neg Bool.false_ne_true, if_pos (List.contains_iff_mem.mpr hc)]

theorem front_text (content rest : List Char) :
    front (Quoted.quoteChars Quoted.storedMarks content ++ rest) = .piece (.text content) rest := by
  have hquote : Quoted.quoteChars Quoted.storedMarks content ++ rest =
      '"' :: (content.flatMap (Quoted.escape Quoted.storedMarks) ++ '"' :: rest) := by
    simp [Quoted.quoteChars]
  rw [hquote, front, Quoted.readText?_quote]
  rfl

theorem front_word {w rest : List Char} (hw : isPlainWord w = true) (hrest : Ends rest) :
    front (w ++ rest) = .piece (.word w) rest := by
  obtain ⟨c, d, w, rfl⟩ : ∃ c d v, w = c :: d :: v := by
    match w with
    | c :: d :: v => exact ⟨c, d, v, rfl⟩
  simp only [isPlainWord, Bool.and_eq_true, bne_iff_ne, List.all_eq_true] at hw
  obtain ⟨⟨hc, hb⟩, hall⟩ := hw
  obtain ⟨hgap, hmark, hquote⟩ := class_of_isWordStart hc
  simp only [List.mem_cons, List.not_mem_nil, or_false, not_or] at hquote
  obtain ⟨hs, hq, ha⟩ := hquote
  have hd := hall d List.mem_cons_self
  have hr : c = 'r' → (d :: w ++ rest).head? ≠ some '#' ∧ (d :: w ++ rest).head? ≠ some '"' := by
    have hword : isWordChar '#' = false ∧ isWordChar '"' = false := by decide +kernel
    rintro -
    constructor
    all_goals rintro ⟨⟩
    · rw [hword.1] at hd; cases hd
    · rw [hword.2] at hd; cases hd
  obtain ⟨ht, hdrop⟩ := Token.span_append (fun e he => (class_of_mark (hrest e he)).2.1) (d :: w)
  rw [List.takeWhile_eq_self_iff.mpr hall] at ht
  rw [List.dropWhile_eq_nil_iff.mpr hall, List.nil_append] at hdrop
  rw [List.cons_append, front_plain hs hq ha hb hr, hgap, ht, hdrop, hc]
  rw [if_neg Bool.false_ne_true, if_neg (by simpa using hmark), if_pos rfl]

theorem front_numeral {cs rest : List Char} (hcs : isPlainNumeral cs = true) (hrest : Ends rest) :
    front (cs ++ rest) = .piece (.numeral cs) rest := by
  obtain ⟨c, cs, rfl⟩ : ∃ c ds, cs = c :: ds := by
    match cs with
    | c :: ds => exact ⟨c, ds, rfl⟩
  simp only [isPlainNumeral, Bool.and_eq_true, List.all_eq_true] at hcs
  obtain ⟨hc, hall⟩ := hcs
  obtain ⟨hgap, hmark, hword, hquote⟩ := class_of_isNumeralStart hc
  simp only [List.mem_cons, List.not_mem_nil, or_false, not_or] at hquote
  obtain ⟨hs, hq, ha, hb, hr⟩ := hquote
  obtain ⟨ht, hdrop⟩ := Token.span_append (fun e he => (class_of_mark (hrest e he)).2.2) cs
  rw [List.takeWhile_eq_self_iff.mpr hall] at ht
  rw [List.dropWhile_eq_nil_iff.mpr hall, List.nil_append] at hdrop
  rw [List.cons_append, front_plain hs hq ha hb fun h => absurd h hr, hgap, ht, hdrop, hword, hc]
  rw [if_neg Bool.false_ne_true, if_neg (by simpa using hmark), if_neg Bool.false_ne_true,
    if_pos rfl]

/-! ### Many pieces -/

/-- Pieces that can be told apart in their spelling: a word or a numeral is followed by a mark. -/
inductive Apart : List Piece → Prop
  | nil : Apart []
  | mark {c : Char} {ps : List Piece} (known : c ∈ marks) (rest : Apart ps) : Apart (.mark c :: ps)
  | text (content : List Char) {ps : List Piece} (rest : Apart ps) : Apart (.text content :: ps)
  | word {w : List Char} {c : Char} {ps : List Piece} (plain : isPlainWord w = true)
    (rest : Apart (.mark c :: ps)) : Apart (.word w :: .mark c :: ps)
  | numeral {cs : List Char} {c : Char} {ps : List Piece} (plain : isPlainNumeral cs = true)
    (rest : Apart (.mark c :: ps)) : Apart (.numeral cs :: .mark c :: ps)

theorem ends_of_mark {c : Char} {ps : List Piece} (h : Apart (.mark c :: ps)) :
    Ends ((Piece.mark c :: ps).flatMap write) := by
  intro d hd
  cases h with
  | mark known rest =>
    obtain rfl := Option.some.inj hd
    exact known

/-- A piece that is found at the front of the spelling comes first. -/
theorem scan?_cons {p : Piece} {ps : List Piece} (hne : p.write ≠ [])
    (hfront : front (p.write ++ ps.flatMap write) = .piece p (ps.flatMap write))
    (hrest : scan? (ps.flatMap write) = some ps) :
    scan? ((p :: ps).flatMap write) = some (p :: ps) := by
  have hlen : (ps.flatMap write).length < (p.write ++ ps.flatMap write).length := by
    have := List.length_pos_iff.mpr hne
    rw [List.length_append]
    omega
  rw [List.flatMap_cons, scan?.eq_def, hfront]
  simp only [if_pos hlen, hrest, Option.map_some]

/-- Pieces that can be told apart are read from their spelling. -/
theorem scan?_write {ps : List Piece} (h : Apart ps) : scan? (ps.flatMap write) = some ps := by
  induction h with
  | nil =>
    rw [List.flatMap_nil, scan?]
    rfl
  | mark known rest ih => exact scan?_cons (by simp [write]) (front_mark known _) ih
  | text content rest ih =>
    exact scan?_cons (by simp [write, Quoted.quoteChars]) (front_text content _) ih
  | @word w c ps plain rest ih =>
    have hne : w ≠ [] := by rintro rfl; cases plain
    exact scan?_cons hne (front_word plain (ends_of_mark rest)) ih
  | @numeral cs c ps plain rest ih =>
    have hne : cs ≠ [] := by rintro rfl; cases plain
    exact scan?_cons hne (front_numeral plain (ends_of_mark rest)) ih

end Calculator.Storage.Piece
