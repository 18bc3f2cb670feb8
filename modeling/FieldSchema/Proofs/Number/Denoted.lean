import Mathlib.Algebra.Order.Field.Rat
import Mathlib.Algebra.Order.Field.Power
import Mathlib.Data.Int.Cast.Lemmas
import FieldSchema.Number.Basic
import FieldSchema.Proofs.Value.Equivalence

/-!
# What Numbers Denote

Equality of numbers in terms of the numbers that they denote.

Two doubles are compared after bringing their significands to a common power
of two. That is a way of comparing rational numbers, and `Binary64.denoted`
says which. Equality of doubles is therefore an equivalence as soon as
everything denotes something, that is, without what is not a number.

Across the two kinds it is not. A whole number denotes itself among whole
numbers, but the nearest double beside a double, and two whole numbers can
have one nearest double. This is the only thing that goes wrong: if no double
of a set equals two of its whole numbers, then equality is an equivalence on
the set. Up to `2 ^ 53` every whole number is a double, and the condition
holds of itself.

## Main definitions

* `Binary64.denoted`: The value of a double, if it is a number.
* `Number.Apart`: No double equals two whole numbers.

## Theorems

* `Binary64.same_iff_denoted`: Doubles are equal if they denote the same.
* `Number.same_equivalenceOn`: Equality of numbers is an equivalence where no double equals two
  whole numbers.
-/

namespace FieldSchema

namespace Binary64

/-- The number that a sign, a significand and an exponent stand for. -/
def value (negative : Bool) (m : Nat) (e : Int) : ℚ :=
  (signed negative m : ℚ) * (2 : ℚ) ^ e

/-- The number that a double denotes, or the sign of the infinity, if it denotes any. -/
def denoted : Binary64 → Option (Bool ⊕ ℚ)
  | nan => none
  | infinite negative => some (.inl negative)
  | finite negative m e => some (.inr (value negative m e))

theorem signed_mul (negative : Bool) (m n : Nat) :
    signed negative (m * n) = signed negative m * (n : Int) := by
  cases negative with
  | true => simp only [signed, if_true, Nat.cast_mul, Int.neg_mul]
  | false => simp only [signed, Bool.false_eq_true, if_false, Nat.cast_mul]

/-- A significand brought to a smaller exponent stands for the same number. -/
theorem value_lower (negative : Bool) (m : Nat) (e least : Int) (h : least ≤ e) :
    value negative (m * Nat.pow 2 (e - least).toNat) least = value negative m e := by
  have hexponent : ((e - least).toNat : Int) + least = e := by omega
  have hpow : ((Nat.pow 2 (e - least).toNat : Nat) : ℚ) = (2 : ℚ) ^ ((e - least).toNat : Int) := by
    rw [zpow_natCast]
    exact Nat.cast_pow 2 _
  rw [value, value, signed_mul, Int.cast_mul, Int.cast_natCast, hpow, mul_assoc,
    ← zpow_add₀ two_ne_zero, hexponent]

theorem natAbs_signed (negative : Bool) (m : Nat) : (signed negative m).natAbs = m := by
  cases negative with
  | true => exact Int.natAbs_neg (m : Int)
  | false => exact Int.natAbs_natCast m

theorem value_whole (negative : Bool) (m : Nat) : value negative m 0 = (signed negative m : ℚ) := by
  rw [value, zpow_zero, mul_one]

theorem value_inj (s₁ s₂ : Bool) (m₁ m₂ : Nat) (e : Int) :
    value s₁ m₁ e = value s₂ m₂ e ↔ signed s₁ m₁ = signed s₂ m₂ := by
  have hne : (2 : ℚ) ^ e ≠ 0 := zpow_ne_zero e two_ne_zero
  rw [value, value, mul_left_inj' hne, Int.cast_inj]

theorem denoted_isSome (x : Binary64) (h : x ≠ nan) : ∃ number, x.denoted = some number := by
  cases x with
  | nan => exact absurd rfl h
  | infinite s => exact ⟨_, rfl⟩
  | finite s m e => exact ⟨_, rfl⟩

/-- Finite doubles are equal if they denote the same number. -/
theorem same_finite_iff (s t : Bool) (m n : Nat) (e f : Int) :
    (finite s m e).same (finite t n f) = true ↔ value s m e = value t n f := by
  rw [← value_lower s m e (min e f) (min_le_left e f),
    ← value_lower t n f (min e f) (min_le_right e f), value_inj]
  exact beq_iff_eq

/-- Doubles are equal if they denote the same number, and what is not a number equals nothing. -/
theorem same_iff_denoted (x y : Binary64) :
    x.same y = true ↔ ∃ number, x.denoted = some number ∧ y.denoted = some number := by
  -- All doubles denote something but the one that is no number, and that one is like nothing.
  suffices h : x.same y = true ↔ x.denoted = y.denoted ∧ x ≠ nan by
    rw [h]
    constructor
    · rintro ⟨heq, hne⟩
      obtain ⟨number, hx⟩ := denoted_isSome x hne
      exact ⟨number, hx, heq ▸ hx⟩
    · rintro ⟨number, hx, hy⟩
      refine ⟨hx.trans hy.symm, ?_⟩
      rintro rfl
      exact nomatch hx
  cases x with
  | nan => exact iff_of_false Bool.false_ne_true fun h => h.2 rfl
  | infinite s =>
      cases y with
      | nan => simp [same, denoted]
      | infinite t => simp [same, denoted]
      | finite t n f => simp [same, denoted]
  | finite s m e =>
      cases y with
      | nan => simp [same, denoted]
      | infinite t => simp [same, denoted]
      | finite t n f =>
          -- Two finite doubles: same value, whatever their exponents.
          rw [same_finite_iff]
          simp [denoted]

theorem same_refl (x : Binary64) (h : x ≠ nan) : x.same x = true := by
  obtain ⟨number, hnumber⟩ := denoted_isSome x h
  exact (same_iff_denoted x x).mpr ⟨number, hnumber, hnumber⟩

theorem same_trans (x y z : Binary64) (hxy : x.same y = true) (hyz : y.same z = true) :
    x.same z = true := by
  obtain ⟨number, hx, hy⟩ := (same_iff_denoted x y).mp hxy
  obtain ⟨number', hy', hz⟩ := (same_iff_denoted y z).mp hyz
  obtain rfl : number = number' := Option.some.inj (hy.symm.trans hy')
  exact (same_iff_denoted x z).mpr ⟨number, hx, hz⟩

end Binary64

namespace Number

/-- No double of the set equals two of its whole numbers. -/
def Apart (N : Number → Prop) : Prop :=
  ∀ x m n, N (.float x) → N (.int m) → N (.int n) → (float x).same (.int m) = true →
    (float x).same (.int n) = true → m = n

/-- Equality is an equivalence on numbers if no double equals two of the whole numbers. -/
theorem same_equivalenceOn (N : Number → Prop) (hN : ∀ n, N n → n ≠ .float .nan)
    (hapart : Apart N) : EquivalenceOn (fun m n => Number.same m n = true) N where
  refl n hn := by
    cases n with
    | int n => exact beq_self_eq_true n
    | float x =>
        refine Binary64.same_refl x ?_
        rintro rfl
        exact hN _ hn rfl
  symm m n _ _ h := (same_comm n m).trans h
  trans l m n hl hm hn hlm hmn := by
    cases l with
    | int i =>
        cases m with
        | int j =>
            obtain rfl : i = j := beq_iff_eq.mp hlm
            exact hmn
        | float y =>
            cases n with
            | int k =>
                -- The one chain that leaves the doubles and comes back.
                obtain rfl := hapart y i k hm hl hn ((same_comm _ _).trans hlm) hmn
                exact beq_self_eq_true i
            | float z => exact Binary64.same_trans _ y z hlm hmn
    | float x =>
        cases m with
        | int j =>
            cases n with
            | int k =>
                obtain rfl : j = k := beq_iff_eq.mp hmn
                exact hlm
            | float z => exact Binary64.same_trans x _ z hlm hmn
        | float y => exact Binary64.same_trans x y n.toBinary64 hlm (by cases n <;> exact hmn)

end Number

end FieldSchema
