/-
# The factorial without its cap

The product of a factorial stops at 171, where it is infinite, and a number that fits no word of 64
bits is taken for one above that. Neither changes a result: infinity times what is at least one is
infinity, so the product up to any natural number is the one up to the cap (`product_min`). The two
tests before the product refuse what is no natural number, and nothing else (`refused_eq`); minus
zero passes both.

Key definitions: `iterated`.
-/
import Calculator.Operator
import Calculator.Proofs.Truncation

namespace Calculator

open Double

/-! ### The product -/

/-- The product 1·2·…·n in doubles, factor by factor. -/
def iterated : Nat → Float
  | 0 => 1
  | n + 1 => iterated n * Float.ofNat (n + 1)

theorem product_eq_iterated (n : Nat) : product n = iterated n := by
  induction n with
  | zero => rfl
  | succ n ih =>
    cases n with
    | zero => decide +kernel
    | succ n =>
      have hstep : product (n + 2) = product (n + 1) * Float.ofNat (2 + 1 * n) := by
        show (List.range' 2 (n + 1)).foldl _ _ = _
        rw [List.range'_concat, List.foldl_append]
        rfl
      rw [hstep, ih, show 2 + 1 * n = n + 1 + 1 by omega]
      rfl

/-- The cap is the first factor with an infinite product. -/
theorem product_factorialCap :
    product (factorialCap - 1) ≠ infinity ∧
      product (factorialCap - 1) * Float.ofNat factorialCap = infinity := by
  decide +kernel

theorem iterated_eq_infinity_of_le {k n : Nat} (h : k ≤ n) (hk : iterated k = infinity) :
    iterated n = infinity := by
  induction n, h using Nat.le_induction with
  | base => exact hk
  | succ n _ ih =>
    rw [iterated, ih]
    exact infinity_mul (atLeastOne_ofNat n.succ_pos)

/-- The product is infinite from the cap on, and not before. -/
theorem iterated_eq_infinity_iff {n : Nat} : iterated n = infinity ↔ factorialCap ≤ n := by
  obtain ⟨hbelow, hcap⟩ := product_factorialCap
  rw [product_eq_iterated] at hbelow hcap
  constructor
  · intro h
    by_contra hn
    exact hbelow (iterated_eq_infinity_of_le (Nat.le_sub_one_of_lt (Nat.lt_of_not_le hn)) h)
  · intro h
    exact iterated_eq_infinity_of_le h hcap

theorem product_min (n : Nat) : product (min n factorialCap) = iterated n := by
  rw [product_eq_iterated]
  rcases Nat.le_total n factorialCap with h | h
  · rw [Nat.min_eq_left h]
  · rw [Nat.min_eq_right h, iterated_eq_infinity_iff.mpr h,
      iterated_eq_infinity_iff.mpr (Nat.le_refl _)]

/-! ### The domain -/

variable {x : Float} {n : Nat}

/-- The two tests refuse what is no natural number. -/
theorem refused_eq (x : Float) :
    (decide (x < 0) || fract x != 0) = (natural? x).isNone := by
  have hfract : (fract x != 0) = true ↔
      ¬ (code x < infinityCode ∧ steps (code x) % 2 ^ scale = 0) := by
    rw [← fract_beq_zero_iff, bne, Bool.not_eq_true', Bool.not_eq_true]
  rw [Bool.eq_iff_iff, Bool.or_eq_true, decide_eq_true_iff, hfract]
  unfold natural?
  rcases Nat.lt_or_ge (code x) infinityCode with hx | hx
  · rw [lt_zero_iff (isFinite_iff.mpr hx), decide_eq_false (Nat.not_le_of_lt hx), Bool.or_false]
    by_cases h0 : code x = 0
    · have hwhole : steps (code x) % 2 ^ scale = 0 := by
        rw [h0, show steps 0 = 0 from rfl, Nat.zero_mod]
      rw [if_pos h0]
      refine iff_of_false ?_ Bool.false_ne_true
      rintro (h | h)
      · exact h.2 h0
      · exact h ⟨hx, hwhole⟩
    rw [if_neg h0]
    cases isNegative x with
    | true =>
      rw [if_pos rfl]
      exact iff_of_true (.inl ⟨rfl, h0⟩) rfl
    | false =>
      rw [if_neg Bool.false_ne_true, or_iff_right fun h => Bool.false_ne_true h.1, and_iff_right hx]
      split_ifs with hwhole
      · exact iff_of_false (not_not.mpr hwhole) Bool.false_ne_true
      · exact iff_of_true hwhole rfl
  · have h0 : code x ≠ 0 := Nat.ne_of_gt (Nat.lt_of_lt_of_le (by decide) hx)
    rw [if_neg h0, if_pos (by rw [decide_eq_true hx, Bool.or_true])]
    exact iff_of_true (.inr fun h => Nat.not_lt_of_le hx h.1) rfl

theorem trunc_of_natural? (h : natural? x = some n) : trunc x = x := by
  have hrefused := refused_eq x
  rw [h, Option.isNone_some, Bool.or_eq_false_iff, bne, Bool.not_eq_false'] at hrefused
  exact trunc_eq_self (truncCode_eq_self_iff.mpr (fract_beq_zero_iff.mp hrefused.2).2)

/-- A natural number has a word if it is below 2^64, and above the cap it needs none. -/
theorem factorialBound_of_natural? (h : natural? x = some n) :
    factorialBound x = min n factorialCap := by
  unfold factorialBound word?
  rw [trunc_of_natural? h, h, Option.filter_some]
  by_cases hn : n < 2 ^ 64
  · rw [if_pos (decide_eq_true hn)]
  · rw [if_neg (by rw [decide_eq_false hn]; exact Bool.false_ne_true)]
    refine (Nat.min_eq_right ?_).symm
    exact Nat.le_trans (by decide) (Nat.not_lt.mp hn)

/-- The factorial is there for natural numbers, and goes up to the cap. -/
theorem factorial?_eq (x : Float) :
    factorial? x = (natural? x).map fun n => product (min n factorialCap) := by
  unfold factorial?
  rw [refused_eq]
  cases h : natural? x with
  | none => rfl
  | some n => rw [factorialBound_of_natural? h]; rfl

theorem factorial_apply_of_some (h : natural? x = some n) :
    UnaryOp.factorial.apply x = .ok (iterated n) := by
  have hx : factorial? x = some (iterated n) := by
    rw [factorial?_eq, h, Option.map_some, product_min]
  rw [UnaryOp.apply, hx]

theorem factorial_apply_of_none (h : natural? x = none) :
    UnaryOp.factorial.apply x = .error .factorialDomain := by
  have hx : factorial? x = none := by
    rw [factorial?_eq, h, Option.map_none]
  rw [UnaryOp.apply, hx]

/-- The factorial of a double is there if and only if the double is finite, whole and not below
zero, and all others are refused. It is the product without a cap, for numbers that fit no word as
well. -/
theorem factorial_uncapped (x : Float) :
    ((∃ y, UnaryOp.factorial.apply x = .ok y) ↔
      x.isFinite = true ∧ ∃ z : ℤ, value? x = some (z : ℚ) ∧ 0 ≤ z) ∧
    ((∀ y, UnaryOp.factorial.apply x ≠ .ok y) →
      UnaryOp.factorial.apply x = .error .factorialDomain) ∧
    ∀ n : ℕ, value? x = some (n : ℚ) → UnaryOp.factorial.apply x = .ok (iterated n) := by
  refine ⟨⟨?_, ?_⟩, ?_, fun n hn => factorial_apply_of_some (natural?_eq_some_iff.mpr hn)⟩
  · rintro ⟨y, hy⟩
    cases h : natural? x with
    | none =>
      rw [factorial_apply_of_none h] at hy
      cases hy
    | some n =>
      have hvalue := natural?_eq_some_iff.mp h
      refine ⟨?_, n, hvalue, Int.natCast_nonneg n⟩
      rw [← isSome_value?, hvalue]
      rfl
  · rintro ⟨-, z, hz, hnonneg⟩
    obtain ⟨n, rfl⟩ := Int.eq_ofNat_of_zero_le hnonneg
    exact ⟨iterated n, factorial_apply_of_some (natural?_eq_some_iff.mpr hz)⟩
  · intro h
    cases hn : natural? x with
    | none => exact factorial_apply_of_none hn
    | some n => exact absurd (factorial_apply_of_some hn) (h (iterated n))

/-- Minus zero has a factorial, 2^70 has one though it fits no word of 64 bits, 2.5 has none. -/
theorem factorial_uncapped_ends :
    (isNegative (-0) = true ∧ UnaryOp.factorial.apply (-0) = .ok (iterated 0)) ∧
    (word? (Float.ofNat (2 ^ 70)) = none ∧
      UnaryOp.factorial.apply (Float.ofNat (2 ^ 70)) = .ok (iterated (2 ^ 70))) ∧
    UnaryOp.factorial.apply 2.5 = .error .factorialDomain := by
  have hzero : natural? (-0) = some 0 := by decide +kernel
  have hlarge : natural? (Float.ofNat (2 ^ 70)) = some (2 ^ 70) := by decide +kernel
  have hhalf : natural? 2.5 = none := by decide +kernel
  refine ⟨⟨by decide +kernel, (factorial_uncapped (-0)).2.2 0 (natural?_eq_some_iff.mp hzero)⟩,
    ⟨by decide +kernel, (factorial_uncapped _).2.2 _ (natural?_eq_some_iff.mp hlarge)⟩,
    (factorial_uncapped 2.5).2.1 fun y hy => ?_⟩
  obtain ⟨-, z, hz, hnonneg⟩ := (factorial_uncapped 2.5).1.mp ⟨y, hy⟩
  obtain ⟨n, rfl⟩ := Int.eq_ofNat_of_zero_le hnonneg
  rw [natural?_eq_some_iff.mpr hz] at hhalf
  cases hhalf

end Calculator
