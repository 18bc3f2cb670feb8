import Mathlib.Tactic.NormNum
import FieldSchema.Proofs.Number.Denoted

/-!
# Numbers Read as Whole Numbers

What it takes for a number to be read as a whole number of 64 bits.

A double is read by a cast that drops what stands after the point and brings
what is out of range to the nearer bound, so it has an answer for everything.
Three tests stand before it. The first is about the point, the other two are
about the range, and these compare doubles. There the bounds are not alike.
The least whole number is a double and belongs to the range, while the
greatest is none. It rounds up to `2 ^ 63`, the first number that is out of
range, and so the upper bound has to be left out of the comparison.

With the bounds read in this way the tests let through exactly the doubles
that denote a whole number of the range, and on these the cast changes
nothing. Nothing has to be known of the precision of doubles for that. All of
it is about the numbers that they denote.

## Main definitions

* `Number.denoted`: The value of a number of either kind.

## Theorems

* `below_finite_iff`, `atLeast_finite_iff`: The order of doubles is that of the numbers denoted.
* `value_of_fract`, `fract_of_value`: Nothing stands after the point of whole numbers, and of no
  others.
* `passes_iff`, `toInt64_of_value`: What the tests let through, and what the cast makes of it.
* `Number.toInt64?_eq_some_iff`: A number is read as the whole number that it denotes.
* `Number.reading_is_exact`: What is read, and what is not.
-/

namespace FieldSchema

namespace Binary64

theorem value_lt_iff (s₁ s₂ : Bool) (m₁ m₂ : Nat) (e : Int) :
    value s₁ m₁ e < value s₂ m₂ e ↔ signed s₁ m₁ < signed s₂ m₂ := by
  have hpos : (0 : ℚ) < 2 ^ e := zpow_pos two_pos e
  rw [value, value, mul_lt_mul_iff_left₀ hpos, Int.cast_lt]

/-- Finite doubles are in the order of the numbers that they denote. -/
theorem below_finite_iff (s t : Bool) (m n : Nat) (e f : Int) :
    (finite s m e).below (finite t n f) = true ↔ value s m e < value t n f := by
  rw [← value_lower s m e (min e f) (min_le_left e f),
    ← value_lower t n f (min e f) (min_le_right e f), value_lt_iff]
  exact decide_eq_true_iff

theorem atLeast_finite_iff (s t : Bool) (m n : Nat) (e f : Int) :
    (finite s m e).atLeast (finite t n f) = true ↔ value t n f ≤ value s m e := by
  rw [atLeast, Bool.or_eq_true, below_finite_iff, same_finite_iff, le_iff_lt_or_eq, eq_comm]

/-- Nothing stands after the point of a double that is a multiple of one. -/
theorem fract_same_zero_iff (s : Bool) (m : Nat) (e : Int) :
    (finite s m e).fract.same zero = true ↔ 0 ≤ e ∨ Nat.pow 2 (-e).toNat ∣ m := by
  by_cases he : 0 ≤ e
  · rw [fract, if_pos he]
    exact iff_of_true (by decide) (Or.inl he)
  · have hpow : (2 : ℚ) ^ e ≠ 0 := zpow_ne_zero e two_ne_zero
    have hzero : value false 0 minExponent = 0 := by
      rw [value, signed, if_neg Bool.false_ne_true, Nat.cast_zero, Int.cast_zero, zero_mul]
    rw [fract, if_neg he, zero, same_finite_iff, hzero, value, mul_eq_zero, or_iff_left hpow,
      Int.cast_eq_zero, ← Int.natAbs_eq_zero, natAbs_signed, or_iff_right he,
      Nat.dvd_iff_mod_eq_zero]

/-- It denotes what stands before the point. -/
theorem value_of_fract (s : Bool) (m : Nat) (e : Int)
    (h : (finite s m e).fract.same zero = true) :
    value s m e = (signed s (wholePart m e) : ℚ) := by
  rw [← value_whole]
  unfold wholePart
  split
  · rename_i he
    rw [← value_lower s m e 0 he, Int.sub_zero]
  · rename_i he
    have hdvd := ((fract_same_zero_iff s m e).mp h).resolve_left he
    have hlower := value_lower s (m / Nat.pow 2 (-e).toNat) 0 e (by omega)
    rwa [Int.zero_sub, Nat.div_mul_cancel hdvd] at hlower

/-- A double that denotes a whole number has nothing after the point. -/
theorem fract_of_value (s : Bool) (m : Nat) (e n : Int) (h : value s m e = (n : ℚ)) :
    (finite s m e).fract.same zero = true := by
  rw [fract_same_zero_iff]
  by_cases he : 0 ≤ e
  · exact Or.inl he
  · obtain ⟨k, rfl⟩ : ∃ k : Nat, e = -k := ⟨(-e).toNat, by omega⟩
    refine Or.inr ?_
    have hpow : (2 : ℚ) ^ k ≠ 0 := pow_ne_zero k two_ne_zero
    rw [value, zpow_neg, zpow_natCast, ← div_eq_mul_inv, div_eq_iff hpow] at h
    have hsigned : signed s m = n * ((2 ^ k : Nat) : Int) := by exact_mod_cast h
    rw [Int.neg_neg, Int.toNat_natCast, ← natAbs_signed s m, hsigned, Int.natAbs_mul,
      Int.natAbs_natCast]
    exact Nat.dvd_mul_left _ _

/-- As a double the least whole number of 64 bits is a power of two. -/
theorem ofInt_minValue : ofInt Int64.minValue.toInt = finite true leastFull 11 := by
  decide +kernel

/-- So is the greatest, which is rounded up. -/
theorem ofInt_maxValue : ofInt Int64.maxValue.toInt = finite false leastFull 11 := by
  decide +kernel

theorem value_bound (negative : Bool) :
    value negative leastFull 11 = (signed negative (2 ^ 63) : ℚ) := by
  rw [← value_lower negative leastFull 11 0 (by decide), value_whole]
  rfl

/-- The three tests let through the doubles that denote a whole number of 64 bits. -/
theorem passes_iff (s : Bool) (m : Nat) (e : Int) :
    ((finite s m e).fract.same zero && (finite s m e).atLeast (.ofInt Int64.minValue.toInt) &&
        (finite s m e).below (.ofInt Int64.maxValue.toInt)) = true ↔
      ∃ n : Int, value s m e = (n : ℚ) ∧ -2 ^ 63 ≤ n ∧ n < 2 ^ 63 := by
  rw [Bool.and_eq_true, Bool.and_eq_true, ofInt_minValue, ofInt_maxValue,
    atLeast_finite_iff, below_finite_iff, value_bound, value_bound]
  constructor
  · rintro ⟨⟨hfract, hleast⟩, hgreatest⟩
    rw [value_of_fract s m e hfract, Int.cast_le] at hleast
    rw [value_of_fract s m e hfract, Int.cast_lt] at hgreatest
    exact ⟨_, value_of_fract s m e hfract, hleast, hgreatest⟩
  · rintro ⟨n, hvalue, hleast, hgreatest⟩
    rw [hvalue, Int.cast_le, Int.cast_lt]
    exact ⟨⟨fract_of_value s m e n hvalue, hleast⟩, hgreatest⟩

/-- On what they let through the cast changes nothing. -/
theorem toInt64_of_value (s : Bool) (m : Nat) (e n : Int) (h : value s m e = (n : ℚ))
    (hleast : -2 ^ 63 ≤ n) (hgreatest : n < 2 ^ 63) : (finite s m e).toInt64.toInt = n := by
  have hwhole : signed s (wholePart m e) = n := by
    have hvalue := value_of_fract s m e (fract_of_value s m e n h)
    rw [h, Int.cast_inj] at hvalue
    exact hvalue.symm
  rw [toInt64, hwhole]
  exact Int64.toInt_ofIntClamp hleast (Int.le_sub_one_of_lt hgreatest)

end Binary64

namespace Number

/-- The number that a number of either kind denotes, or the sign of the infinity. -/
def denoted : Number → Option (Bool ⊕ ℚ)
  | int n => some (.inr (n.toInt : ℚ))
  | float x => x.denoted

/-- A number is read as the whole number that it denotes. -/
theorem toInt64?_eq_some_iff (x : Number) (i : Int64) :
    x.toInt64? = some i ↔ x.denoted = some (.inr (i.toInt : ℚ)) := by
  cases x with
  | int n =>
      rw [toInt64?, denoted, Option.some_inj, Option.some_inj, Sum.inr.injEq, Int.cast_inj,
        Int64.toInt_inj]
  | float x =>
      cases x with
      | nan =>
          have hnone : (float .nan).toInt64? = none := rfl
          simp only [hnone, denoted, Binary64.denoted, reduceCtorEq]
      | infinite s =>
          have hnone : (float (.infinite s)).toInt64? = none := rfl
          simp only [hnone, denoted, Binary64.denoted, Option.some.injEq, reduceCtorEq]
      | finite s m e =>
          have hlow := Int64.le_toInt i
          have hhigh := Int64.toInt_lt i
          unfold toInt64? denoted
          dsimp only
          -- The reading passes two bounds and asks for no fraction, which is to say that the value
          -- is a whole number within the bounds.
          rw [Option.ite_none_right_eq_some, Binary64.passes_iff, Binary64.denoted, Option.some_inj,
            Option.some_inj, Sum.inr.injEq]
          constructor
          · rintro ⟨⟨n, hvalue, hleast, hgreatest⟩, rfl⟩
            rw [Binary64.toInt64_of_value s m e n hvalue hleast hgreatest, hvalue]
          · intro hvalue
            refine ⟨⟨i.toInt, hvalue, hlow, hhigh⟩, Int64.toInt_inj.mp ?_⟩
            exact Binary64.toInt64_of_value s m e i.toInt hvalue hlow hhigh

/-- A whole number of 64 bits is what is read, if the number denotes it. -/
theorem toInt64?_eq_some_of_denoted (x : Number) (i : Int) (h : x.denoted = some (.inr (i : ℚ)))
    (hleast : -2 ^ 63 ≤ i) (hgreatest : i ≤ 2 ^ 63 - 1) :
    ∃ n : Int64, x.toInt64? = some n ∧ n.toInt = i := by
  have hclamped : (Int64.ofIntClamp i).toInt = i := Int64.toInt_ofIntClamp hleast hgreatest
  refine ⟨.ofIntClamp i, ?_, hclamped⟩
  rw [toInt64?_eq_some_iff, hclamped, h]

/-- A whole number is read exactly if it is what the number denotes and has 64 bits. So nothing is
    read of what denotes no number, or one that is not whole or out of range, and the least whole
    number is read of a double that denotes it. -/
theorem reading_is_exact (x : Number) :
    (∀ i : Int, x.toInt64?.map Int64.toInt = some i ↔
      x.denoted = some (.inr (i : ℚ)) ∧ -2 ^ 63 ≤ i ∧ i ≤ 2 ^ 63 - 1) ∧
    (x.toInt64? = none ↔
      ¬∃ q : ℚ, x.denoted = some (.inr q) ∧ q.isInt = true ∧ -2 ^ 63 ≤ q ∧ q < 2 ^ 63) ∧
    (x.toInt64? = some Int64.minValue ↔ x.denoted = some (.inr (-2 ^ 63))) := by
  refine ⟨fun i => ?_, ?_, ?_⟩
  · rw [Option.map_eq_some_iff]
    constructor
    · rintro ⟨n, hread, rfl⟩
      exact ⟨(toInt64?_eq_some_iff x n).mp hread, Int64.le_toInt n,
        Int.le_sub_one_of_lt (Int64.toInt_lt n)⟩
    · rintro ⟨hdenoted, hleast, hgreatest⟩
      exact toInt64?_eq_some_of_denoted x i hdenoted hleast hgreatest
  · constructor
    -- A whole number within the bounds would have been read.
    · rintro hnone ⟨q, hdenoted, hwhole, hleast, hgreatest⟩
      obtain ⟨i, rfl⟩ : ∃ i : Int, q = i := ⟨q.num, (Rat.eq_num_of_isInt hwhole)⟩
      obtain ⟨n, hread, -⟩ := toInt64?_eq_some_of_denoted x i hdenoted (by exact_mod_cast hleast)
        (Int.le_sub_one_of_lt (by exact_mod_cast hgreatest))
      rw [hnone] at hread
      exact nomatch hread
    · intro hother
      -- What was read is such a number itself.
      refine Option.eq_none_iff_forall_ne_some.mpr fun n hread => ?_
      refine hother ⟨n.toInt, (toInt64?_eq_some_iff x n).mp hread, rfl, ?_, ?_⟩
      · exact_mod_cast Int64.le_toInt n
      · exact_mod_cast Int64.toInt_lt n
  -- The lower bound belongs to the range, so it is read like any other number.
  · have hvalue : Int64.minValue.toInt = -2 ^ 63 := rfl
    have hbound : (Int64.minValue.toInt : ℚ) = -2 ^ 63 := by
      rw [hvalue]
      norm_num
    rw [toInt64?_eq_some_iff, hbound]

/-- The greatest whole number becomes a double of which none is read. -/
example : (Number.float (.ofInt Int64.maxValue.toInt)).toInt64? = none := by decide +kernel

end Number

end FieldSchema
