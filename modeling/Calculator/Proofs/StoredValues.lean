/-
# Values of the stored notation are read as they were written

What is written are records of labelled fields, lists, texts, numbers and words,
with a comma between two items and nothing else. Each of them is read from its
pieces whatever follows, as long as that opens no parenthesis (`Reads`): for
records and lists this follows from the same for their items, two levels further
in (`reads_record`, `reads_list`). Their pieces can be told apart if those of
their items can (`apart_record`, `apart_list`).

Key definitions: `Reads`, `KeepsApart`, `recordPieces`, `listPieces`.
-/
import Calculator.Proofs.StoredPieces
import Calculator.Storage

namespace Calculator.Storage.Datum

open Saved

/-- The pieces are read as a value in front of all that opens no parenthesis. -/
def Reads {α : Type} (read? : Reader α) (ps : List Piece) (x : α) : Prop :=
  ∀ rest : List Piece, rest.head? ≠ some (.mark '(') → read? (ps ++ rest) = some (x, rest)

/-- The pieces start with something else than a closing mark. -/
def Starts (close : Char) (ps : List Piece) : Prop := ∃ p r, ps = p :: r ∧ p ≠ .mark close

/-! ### Sequences -/

theorem length_le_commaJoin {pss : List (List Piece)} (h : ∀ ps ∈ pss, ps ≠ []) :
    pss.length ≤ (commaJoin pss).length := by
  induction pss with
  | nil => exact Nat.zero_le _
  | cons ps pss ih =>
    have hps := List.length_pos_iff.mpr (h ps List.mem_cons_self)
    have ih := ih fun qs hqs => h qs (List.mem_cons_of_mem _ hqs)
    cases pss with
    | nil => exact hps
    | cons qs pss =>
      simp only [commaJoin, List.length_append, List.length_cons] at ih ⊢
      omega

section Sequence

variable {α β : Type} {item? : Reader α} {close : Char} {f : β → List Piece} {g : β → α}

/-- Items with commas between them are read one by one, up to the closing mark. -/
theorem sequence?_commaJoin (hcomma : close ≠ ',') (hopen : close ≠ '(') (rest : List Piece) :
    ∀ (ys : List β) (fuel : Nat), ys.length < fuel →
      (∀ y ∈ ys, Reads item? (f y) (g y) ∧ Starts close (f y)) →
      sequence? item? close fuel (commaJoin (ys.map f) ++ .mark close :: rest) =
        some (ys.map g, rest)
  | [], fuel + 1, _, _ => by
    simp [commaJoin, sequence?]
  | [y], fuel + 1, _, h => by
    obtain ⟨hread, p, r, hp, hne⟩ := h y List.mem_cons_self
    have hitem := hread (.mark close :: rest) (by simpa using hopen)
    rw [hp] at hitem
    simp only [List.map_cons, List.map_nil, commaJoin, hp, sequence?, List.cons_append,
      List.head?_cons, Option.some.injEq, if_neg hne]
    rw [List.cons_append] at hitem
    simp [hitem, hcomma]
  | y :: z :: ys, fuel + 1, hlen, h => by
    obtain ⟨hread, p, r, hp, hne⟩ := h y List.mem_cons_self
    have ih := sequence?_commaJoin hcomma hopen rest (z :: ys) fuel (by simpa using hlen)
      fun w hw => h w (List.mem_cons_of_mem _ hw)
    have hitem := hread (.mark ',' :: (commaJoin ((z :: ys).map f) ++ .mark close :: rest))
      (by simp)
    rw [hp, List.cons_append] at hitem
    simp only [List.map_cons, commaJoin, hp, sequence?, List.cons_append, List.append_assoc,
      List.head?_cons, Option.some.injEq, if_neg hne]
    simp only [List.map_cons] at hitem ih
    simp [hitem, ih]

theorem items?_commaJoin (hcomma : close ≠ ',') (hopen : close ≠ '(') (rest : List Piece)
    (ys : List β) (h : ∀ y ∈ ys, Reads item? (f y) (g y) ∧ Starts close (f y)) :
    items? item? close (commaJoin (ys.map f) ++ .mark close :: rest) = some (ys.map g, rest) := by
  have hne : ∀ ps ∈ ys.map f, ps ≠ [] := by
    intro ps hps
    obtain ⟨y, hy, rfl⟩ := List.mem_map.mp hps
    obtain ⟨-, p, r, hp, -⟩ := h y hy
    simp [hp]
  have hlen := length_le_commaJoin hne
  refine sequence?_commaJoin hcomma hopen rest ys _ ?_ h
  rw [List.length_map] at hlen
  rw [List.length_append, List.length_cons]
  omega

end Sequence

/-! ### Values -/

section Value

variable {exts : List Extension} {room : Nat}

/-- Where values may be inside, a value is what stands at the front. -/
theorem value?_front (exts : List Extension) (room : Nat) (ps : List Piece) :
    value? exts (room + 2) false ps =
      front? exts (some ⟨value? exts room false, value? exts (room + 1)⟩) ps := by
  rw [value?]
  rfl

theorem reads_text (content : List Char) :
    Reads (value? exts (room + 2) false) [.text content] (text content) := by
  intro rest _
  rw [value?_front]
  rfl

/-- The pieces of a number. -/
theorem reads_numeral {cs : List Char} (hcs : Number.isNumber cs = true) :
    Reads (value? exts (room + 2) false) [.numeral cs] (numeral cs) := by
  intro rest _
  rw [value?_front]
  simp [front?, hcs]

theorem reads_number_word {cs : List Char} (hcs : Number.isNumber cs = true) :
    Reads (value? exts (room + 2) false) [.word cs] (numeral cs) := by
  intro rest _
  rw [value?_front]
  simp [front?, hcs]

/-- A word that means nothing by itself. -/
theorem reads_word {w : List Char} (hn : Number.isNumber w = false)
    (hc : constants.any (·.toList == w) = false) (hp : w ≠ presentWord.toList) :
    Reads (value? exts (room + 2) false) [.word w] (word w) := by
  intro rest hrest
  rw [value?_front]
  simp only [List.singleton_append, front?, hn, hc, hp, Bool.false_eq_true, ite_false]
  unfold named?
  split
  · exact absurd rfl hrest
  · rfl

/-! ### Lists and records -/

def listPieces (items : List (List Piece)) : List Piece :=
  .mark '[' :: (commaJoin items ++ [.mark ']'])

theorem reads_list {β : Type} {f : β → List Piece} {g : β → Datum} (ys : List β)
    (h : ∀ y ∈ ys, Reads (value? exts room false) (f y) (g y) ∧ Starts ']' (f y)) :
    Reads (value? exts (room + 2) false) (listPieces (ys.map f)) (list (ys.map g)) := by
  intro rest _
  have hitems := items?_commaJoin (by decide) (by decide) rest ys h
  rw [value?_front]
  simp only [listPieces, List.cons_append, List.append_assoc, List.nil_append, front?,
    Option.bind_some, hitems, Option.map_some]

/-- A field on its way: its label, the pieces of its value, and the value. -/
structure Field where
  label : String
  pieces : List Piece
  value : Datum

namespace Field

def write (f : Field) : List Piece := Saved.word f.label :: .mark ':' :: f.pieces

def entry (f : Field) : List Char × Datum := (f.label.toList, f.value)

end Field

theorem reads_field {value? : Reader Datum} {f : Field} (h : Reads value? f.pieces f.value) :
    Reads (labelled? value?) f.write f.entry := by
  intro rest hrest
  simp only [Field.write, Saved.word, List.cons_append, labelled?, Piece.name?, h rest hrest]
  rfl

def recordPieces (fields : List Field) : List Piece :=
  .mark '(' :: (commaJoin (fields.map Field.write) ++ [.mark ')'])

def recordOf (fields : List Field) : Datum := record none (fields.map Field.entry)

/-- A record is read from the pieces of its fields. -/
theorem reads_record {fields : List Field} (hne : fields ≠ [])
    (h : ∀ f ∈ fields, Reads (value? exts room false) f.pieces f.value) :
    Reads (value? exts (room + 2) false) (recordPieces fields) (recordOf fields) := by
  intro rest _
  have hitems : items? (labelled? (value? exts room false)) ')'
      (commaJoin (fields.map Field.write) ++ .mark ')' :: rest) =
        some (fields.map Field.entry, rest) :=
    items?_commaJoin (by decide) (by decide) rest fields fun f hf =>
      ⟨reads_field (h f hf), _, _, rfl, by simp [Saved.word]⟩
  obtain ⟨f, fs, rfl⟩ := List.exists_cons_of_ne_nil hne
  obtain ⟨tail, htail⟩ : ∃ tail, commaJoin ((f :: fs).map Field.write) ++ .mark ')' :: rest =
      Saved.word f.label :: .mark ':' :: tail := by
    cases fs <;> exact ⟨_, rfl⟩
  rw [htail] at hitems
  rw [value?_front]
  have hpieces : recordPieces (f :: fs) ++ rest =
      .mark '(' :: Saved.word f.label :: .mark ':' :: tail := by
    rw [recordPieces, List.cons_append, List.append_assoc, List.singleton_append, htail]
  rw [hpieces]
  have hfields : startsFields (Saved.word f.label :: .mark ':' :: tail) = true := rfl
  simp only [Saved.word] at hitems hfields ⊢
  simp only [front?, Option.bind_some, group?, hfields, if_true, hitems, Option.map_some,
    recordOf]

end Value

/-! ### Taking records apart -/

section Fields

variable {α : Type} {fields : List Field} {f : Field}

/-- With labels that differ, each of them has the value of its field. -/
theorem valuesOf_label (hlabels : (fields.map Field.label).Nodup) (hf : f ∈ fields) :
    valuesOf f.label (fields.map Field.entry) = [f.value] := by
  induction fields with
  | nil => cases hf
  | cons g fs ih =>
    rw [List.map_cons, List.nodup_cons] at hlabels
    obtain ⟨hg, hlabels⟩ := hlabels
    rw [List.mem_map, not_exists] at hg
    rcases List.mem_cons.mp hf with rfl | hf
    · have hrest : (fs.map Field.entry).filter (fun e => e.1 = f.label.toList) = [] := by
        refine List.filter_eq_nil_iff.mpr fun e he => ?_
        obtain ⟨g, hgfs, rfl⟩ := List.mem_map.mp he
        simpa [Field.entry, String.toList_inj] using fun h => hg g ⟨hgfs, h⟩
      rw [valuesOf, List.map_cons, List.filter_cons_of_pos (by simp [Field.entry]), hrest]
      rfl
    · have hne : ¬ g.label = f.label := fun h => hg f ⟨hf, h.symm⟩
      rw [← ih hlabels hf, valuesOf, List.map_cons, List.filter_cons_of_neg]
      · rfl
      · simpa [Field.entry, String.toList_inj] using hne

theorem fieldsOf?_recordOf (own : String) (fields : List Field) :
    fieldsOf? [] own (recordOf fields) = some (fields.map Field.entry) := rfl

theorem required?_label (hlabels : (fields.map Field.label).Nodup) (hf : f ∈ fields)
    (read? : Datum → Option α) :
    required? (fields.map Field.entry) f.label read? = read? f.value := by
  rw [required?, valuesOf_label hlabels hf]

theorem optional?_label (hlabels : (fields.map Field.label).Nodup) (hf : f ∈ fields) (absent : α)
    (read? : Datum → Option α) :
    optional? (fields.map Field.entry) f.label absent read? = read? f.value := by
  rw [optional?, valuesOf_label hlabels hf]

end Fields

/-! ### Telling their pieces apart -/

section Apart

open Piece

/-- The pieces can be told apart in front of all that starts with a mark. -/
def KeepsApart (ps : List Piece) : Prop :=
  ∀ (c : Char) (rest : List Piece), Apart (.mark c :: rest) → Apart (ps ++ .mark c :: rest)

theorem apart_commaJoin {pss : List (List Piece)} {close : Char} {rest : List Piece}
    (h : ∀ ps ∈ pss, KeepsApart ps) (hrest : Apart (.mark close :: rest)) :
    Apart (commaJoin pss ++ .mark close :: rest) := by
  induction pss with
  | nil => exact hrest
  | cons ps pss ih =>
    have hps := h ps List.mem_cons_self
    have ih := ih fun qs hqs => h qs (List.mem_cons_of_mem _ hqs)
    cases pss with
    | nil => exact hps close rest hrest
    | cons qs pss =>
      simp only [commaJoin, List.append_assoc, List.cons_append]
      exact hps ',' _ (.mark (by decide) ih)

theorem apart_list {items : List (List Piece)} {rest : List Piece}
    (h : ∀ ps ∈ items, KeepsApart ps) (hrest : Apart rest) : Apart (listPieces items ++ rest) := by
  rw [listPieces, List.cons_append, List.append_assoc]
  exact .mark (by decide) (apart_commaJoin h (.mark (by decide) hrest))

theorem apart_record {fields : List Field} {rest : List Piece}
    (h : ∀ f ∈ fields, isPlainWord f.label.toList = true ∧ KeepsApart f.pieces)
    (hrest : Apart rest) : Apart (recordPieces fields ++ rest) := by
  have hfields : ∀ ps ∈ fields.map Field.write, KeepsApart ps := by
    intro ps hps c r hr
    obtain ⟨f, hf, rfl⟩ := List.mem_map.mp hps
    obtain ⟨hlabel, hpieces⟩ := h f hf
    exact .word hlabel (.mark (by decide) (hpieces c r hr))
  rw [recordPieces, List.cons_append, List.append_assoc]
  exact .mark (by decide) (apart_commaJoin hfields (.mark (by decide) hrest))

end Apart

end Calculator.Storage.Datum
