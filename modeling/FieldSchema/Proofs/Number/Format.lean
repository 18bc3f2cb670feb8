import Mathlib.Tactic.Ring
import FieldSchema.Proofs.Number.Denoted

/-!
# The Format of Doubles

Which numbers a double can denote, and which whole numbers are among them.

A double has a significand of 53 bits and an exponent from a fixed range. It
is kept here as any significand with any exponent, so the format is a
condition. Rounding establishes it: the exponent is chosen so that the
quotient has 53 bits before the point, and if rounding up makes 54 of them,
the last one is a zero that goes into the exponent. Every double that is read
from a text or made of a whole number is the result of rounding, so the
condition holds of all that a program can come by.

A whole number of more than 53 bits is a double if the bits beyond are zeros.
Then the quotient leaves no remainder and nothing is rounded. Conversely the
significand of a double is too short to hold more than 53 bits, so the others
come from the power of two. That makes three ways to say the same of a whole
number: some double denotes it, its own double does, and a power of two
divides it.

## Main definitions

* `Binary64.InFormat`: The significand and the exponent are those of a double.
* `Binary64.IsDouble`: The whole number is the value of a double.

## Theorems

* `quotient_lt`: The chosen exponent leaves 53 bits before the point.
* `ofRatio_inFormat`, `ofText?_inFormat`: What is rounded or read is in the format.
* `ofRatio_exact`: A quotient with no more than 53 bits is not rounded.
* `isDouble_iff_dvd`, `isDouble_iff_ofInt`: The whole numbers that are doubles.
* `Number.apart_of_small`: No double equals two whole numbers of up to 53 bits.
-/

namespace FieldSchema

namespace Binary64

/-- The significand and the exponent are those of a double. -/
def InFormat : Binary64 → Prop
  | nan => True
  | infinite _ => True
  | finite _ m e => m < 2 * leastFull ∧ minExponent ≤ e ∧ e ≤ maxExponent

/-- The whole number is the value of a double. -/
def IsDouble (n : Int) : Prop :=
  ∃ x : Binary64, x.InFormat ∧ x.denoted = some (.inr (n : ℚ))

/-- Scaling does not change how a quotient compares with a bound. -/
theorem scaleBy_lt_iff (num den bound : Nat) (e : Int) :
    (scaleBy num den e).1 < bound * (scaleBy num den e).2 ↔
      (num : ℚ) < bound * (den * 2 ^ e) := by
  unfold scaleBy
  split
  · rename_i hneg
    obtain ⟨k, rfl⟩ : ∃ k : Nat, e = -k := ⟨(-e).toNat, by omega⟩
    have hpow : (0 : ℚ) < 2 ^ k := pow_pos two_pos k
    rw [Int.neg_neg, Int.toNat_natCast, zpow_neg, zpow_natCast, ← mul_assoc, ← div_eq_mul_inv,
      lt_div_iff₀ hpow]
    exact_mod_cast Iff.rfl
  · rename_i hnonneg
    obtain ⟨k, rfl⟩ : ∃ k : Nat, e = k := ⟨e.toNat, by omega⟩
    rw [Int.toNat_natCast, zpow_natCast]
    exact_mod_cast Iff.rfl

theorem scaleBy_pos (num den : Nat) (e : Int) (h : den ≠ 0) : 0 < (scaleBy num den e).2 := by
  unfold scaleBy
  split
  · exact Nat.pos_of_ne_zero h
  · exact Nat.mul_pos (Nat.pos_of_ne_zero h) (Nat.pow_pos two_pos)

/-- At the first guess of the exponent, a quotient has at most 53 bits before the point. -/
theorem lt_at_guess (num den : Nat) (h : den ≠ 0) :
    (num : ℚ) < (2 * leastFull : Nat) * (den * 2 ^ ((num.log2 : Int) - den.log2 - 52)) := by
  have hden : (2 : ℚ) ^ den.log2 ≤ den := by exact_mod_cast Nat.log2_self_le h
  have hnum : (num : ℚ) < 2 ^ (num.log2 + 1) := by exact_mod_cast Nat.lt_log2_self
  have hfull : ((2 * leastFull : Nat) : ℚ) = 2 ^ (53 : Int) := by norm_num [leastFull]
  calc (num : ℚ) < 2 ^ (num.log2 + 1) := hnum
    _ = 2 ^ (53 : Int) * (2 ^ den.log2 * 2 ^ ((num.log2 : Int) - den.log2 - 52)) := by
        rw [← zpow_natCast, ← zpow_natCast, ← zpow_add₀ two_ne_zero, ← zpow_add₀ two_ne_zero]
        congr 1
        push_cast
        ring
    _ ≤ _ := by
        rw [hfull]
        gcongr

/-- At the exponent that is chosen, too, so a significand has no more. -/
theorem quotient_lt (num den : Nat) :
    (scaleBy num den (exponentOf num den)).1 / (scaleBy num den (exponentOf num den)).2 <
      2 * leastFull := by
  by_cases hden : den = 0
  · have hzero : (scaleBy num den (exponentOf num den)).2 = 0 := by
      unfold scaleBy
      split <;> simp [hden]
    rw [hzero, Nat.div_zero]
    decide
  -- A larger exponent makes the quotient smaller, so the least one can be left out of account.
  suffices h : ∃ e ≤ exponentOf num den,
      (num : ℚ) < (2 * leastFull : Nat) * (den * 2 ^ e) by
    obtain ⟨e, he, hlt⟩ := h
    refine Nat.div_lt_of_lt_mul ?_
    have hpow : (2 : ℚ) ^ e ≤ 2 ^ exponentOf num den := zpow_le_zpow_right₀ one_le_two he
    rw [Nat.mul_comm, scaleBy_lt_iff]
    refine hlt.trans_le (mul_le_mul_of_nonneg_left ?_ (Nat.cast_nonneg _))
    exact mul_le_mul_of_nonneg_left hpow (Nat.cast_nonneg _)
  have hguess := lt_at_guess num den hden
  unfold exponentOf
  dsimp only
  generalize (num.log2 : Int) - den.log2 - 52 = guess at hguess ⊢
  split
  · rename_i hsmall
    refine ⟨guess - 1, le_max_left _ _, ?_⟩
    rw [Nat.div_lt_iff_lt_mul (scaleBy_pos num den guess hden), scaleBy_lt_iff] at hsmall
    refine hsmall.trans_eq ?_
    rw [zpow_sub_one₀ two_ne_zero, Nat.cast_mul, Nat.cast_two]
    ring
  · exact ⟨guess, le_max_left _ _, hguess⟩

theorem roundDiv_le (num den : Nat) : roundDiv num den ≤ num / den + 1 := by
  unfold roundDiv
  dsimp only
  split
  · exact le_refl _
  · exact Nat.le_succ _

/-- What is rounded is a double. -/
theorem ofRatio_inFormat (negative : Bool) (num den : Nat) :
    (ofRatio negative num den).InFormat := by
  unfold ofRatio
  split
  · exact ⟨by decide, le_refl _, by decide⟩
  · have hquotient := quotient_lt num den
    have hround := roundDiv_le (scaleBy num den (exponentOf num den)).1
      (scaleBy num den (exponentOf num den)).2
    have hleast : minExponent ≤ exponentOf num den := le_max_right _ _
    dsimp only
    generalize roundDiv _ _ = m at hround ⊢
    generalize exponentOf num den = e at *
    -- Rounding up may carry into one more binary place; then the exponent is one greater.
    by_cases hcarry : m = 2 * leastFull
    · rw [if_pos hcarry]
      split
      -- Too great an exponent gives an infinity.
      · exact trivial
      · rename_i hmax
        exact ⟨(by decide : leastFull < 2 * leastFull), Int.le_add_one hleast, not_lt.mp hmax⟩
    · rw [if_neg hcarry]
      split
      · exact trivial
      · rename_i hmax
        exact ⟨by omega, hleast, not_lt.mp hmax⟩

theorem ofInt_inFormat (n : Int) : (ofInt n).InFormat :=
  ofRatio_inFormat _ _ _

theorem scaledDouble_inFormat (negative : Bool) (n : Nat) (p : Int) :
    (Decimal.scaledDouble negative n p).InFormat := by
  unfold Decimal.scaledDouble
  dsimp only
  split
  · exact ⟨by decide, le_refl _, by decide⟩
  · split
    · exact trivial
    · exact ofRatio_inFormat _ _ _

theorem unsigned?_inFormat (negative : Bool) (s : List Char) (x : Binary64)
    (h : Decimal.unsigned? negative s = some x) : x.InFormat := by
  -- Digits with an exponent are scaled and rounded; the words for infinity and for no number are in
  -- every format.
  have hdigits : ∀ (b : Bool) (n : Nat) (places : Int) (exponent : Option Int),
      (if b = true then none
        else exponent.map fun p => Decimal.scaledDouble negative n (p - places)) = some x →
      x.InFormat := by
    intro b n places exponent hread
    split at hread
    · exact nomatch hread
    · obtain ⟨p, -, rfl⟩ := Option.map_eq_some_iff.mp hread
      exact scaledDouble_inFormat _ _ _
  unfold Decimal.unsigned? at h
  dsimp only at h
  split at h
  · cases h
    exact trivial
  · split at h
    · cases h
      exact trivial
    · split at h <;> exact hdigits _ _ _ _ h

/-- What is read from a text is a double. -/
theorem ofText?_inFormat (s : List Char) (x : Binary64) (h : ofText? s = some x) : x.InFormat := by
  unfold ofText? at h
  split at h <;> exact unsigned?_inFormat _ _ _ h

/-- A quotient without remainder is not rounded. -/
theorem roundDiv_of_dvd (num den : Nat) (hden : 0 < den) (h : den ∣ num) :
    roundDiv num den = num / den := by
  have hremainder : num % den = 0 := Nat.mod_eq_zero_of_dvd h
  have hne : ¬ 0 = den := Nat.ne_of_lt hden
  simp [roundDiv, hremainder, hne]

/-- The exponent of a whole number says how many bits it has beyond 53. -/
theorem exponentOf_le (num : Nat) : exponentOf num 1 ≤ (num.log2 - 52 : Nat) := by
  have hlog : Nat.log2 1 = 0 := by decide
  have hleast : minExponent ≤ 0 := by decide
  unfold exponentOf
  dsimp only
  rw [hlog]
  split <;> omega

/-- At an exponent that is not too large, a multiple of a power of two is scaled without
    remainder. -/
theorem value_scaled (negative : Bool) (num k : Nat) (e : Int) (he : e ≤ k)
    (h : Nat.pow 2 k ∣ num) :
    (scaleBy num 1 e).2 ∣ (scaleBy num 1 e).1 ∧
      value negative ((scaleBy num 1 e).1 / (scaleBy num 1 e).2) e = (signed negative num : ℚ) := by
  rw [← value_whole]
  unfold scaleBy
  split
  · refine ⟨Nat.one_dvd _, ?_⟩
    have hlower := value_lower negative num 0 e (by omega)
    rwa [Int.zero_sub, ← Nat.div_one (num * _)] at hlower
  · rename_i hnonneg
    have hdvd : Nat.pow 2 e.toNat ∣ num := (Nat.pow_dvd_pow 2 (by omega)).trans h
    simp only [Nat.one_mul]
    refine ⟨hdvd, ?_⟩
    rw [← value_lower _ _ e 0 (by omega), Int.sub_zero, Nat.div_mul_cancel hdvd]

/-- A whole number whose bits beyond 53 are zero is not rounded, unless it is too large. -/
theorem ofRatio_exact (negative : Bool) (num : Nat) (h : 2 ^ (num.log2 - 52) ∣ num)
    (hmax : num.log2 - 52 ≤ 971) :
    (ofRatio negative num 1).denoted = some (.inr (signed negative num : ℚ)) := by
  unfold ofRatio
  split
  · rename_i hzero
    subst hzero
    cases negative <;> simp [denoted, value, signed]
  · have hexponent := exponentOf_le num
    obtain ⟨hdvd, hvalue⟩ := value_scaled negative num _ _ hexponent h
    have hden := scaleBy_pos num 1 (exponentOf num 1) one_ne_zero
    have hfull : maxExponent = 971 := rfl
    have hquotient := quotient_lt num 1
    dsimp only
    rw [roundDiv_of_dvd _ _ hden hdvd, if_neg (Nat.ne_of_lt hquotient), if_neg (by omega), denoted,
      hvalue]

/-- So it is with a whole number of either sign. -/
theorem ofInt_exact (n : Int) (h : 2 ^ (n.natAbs.log2 - 52) ∣ n.natAbs)
    (hmax : n.natAbs.log2 - 52 ≤ 971) : (ofInt n).denoted = some (.inr (n : ℚ)) := by
  have hsigned : signed (n < 0) n.natAbs = n := by
    simp only [signed, decide_eq_true_eq]
    split <;> omega
  rw [ofInt, ofRatio_exact _ _ h hmax, hsigned]

/-- The absolute value of a whole number that a double denotes. -/
theorem natAbs_of_value (s : Bool) (m : Nat) (e : Int) (n : Int) (h : value s m e = (n : ℚ)) :
    (n.natAbs : ℚ) = m * 2 ^ e := by
  have hpow : (0 : ℚ) < 2 ^ e := zpow_pos two_pos e
  rw [Nat.cast_natAbs, Int.cast_abs, ← h, value, abs_mul, abs_of_pos hpow, ← Int.cast_abs,
    ← Nat.cast_natAbs, natAbs_signed]

/-- A whole number that is the value of a double has no bits beyond 53 other than zeros. -/
theorem dvd_of_isDouble (n : Int) (h : IsDouble n) :
    2 ^ (n.natAbs.log2 - 52) ∣ n.natAbs ∧ n.natAbs.log2 - 52 ≤ 971 := by
  obtain ⟨x, hformat, hdenoted⟩ := h
  cases x with
  | nan => exact nomatch hdenoted
  | infinite s => exact nomatch hdenoted
  | finite s m e =>
      obtain ⟨hm, -, he⟩ := hformat
      have habs := natAbs_of_value s m e n (Sum.inr.inj (Option.some.inj hdenoted))
      have hfull : maxExponent = 971 := rfl
      by_cases hsmall : n.natAbs.log2 ≤ 52
      · rw [Nat.sub_eq_zero_of_le hsmall]
        exact ⟨one_dvd _, Nat.zero_le _⟩
      · -- The significand has 53 bits at most, so the others are in the power of two.
        have hne : n.natAbs ≠ 0 := by
          intro hzero
          rw [hzero] at hsmall
          exact hsmall (by decide)
        have hbits : (2 : ℚ) ^ (n.natAbs.log2 : Int) < 2 ^ (53 + e) := by
          have hsignificand : (m : ℚ) < 2 ^ (53 : Int) := by exact_mod_cast hm
          calc (2 : ℚ) ^ (n.natAbs.log2 : Int) ≤ n.natAbs := by
                exact_mod_cast Nat.log2_self_le hne
            _ = m * 2 ^ e := habs
            _ < 2 ^ (53 : Int) * 2 ^ e := by gcongr
            _ = 2 ^ (53 + e) := (zpow_add₀ two_ne_zero _ _).symm
        have hexponent : (n.natAbs.log2 : Int) < 53 + e :=
          (zpow_lt_zpow_iff_right₀ one_lt_two).mp hbits
        obtain ⟨k, rfl⟩ : ∃ k : Nat, e = k := ⟨e.toNat, by omega⟩
        have hproduct : n.natAbs = m * 2 ^ k := by
          rw [zpow_natCast] at habs
          exact_mod_cast habs
        refine ⟨?_, by omega⟩
        exact (Nat.pow_dvd_pow 2 (by omega)).trans (Dvd.intro_left m hproduct.symm)

/-- A whole number is the value of a double if its bits beyond 53 are zero, and it is not too
    large. -/
theorem isDouble_iff_dvd (n : Int) :
    IsDouble n ↔ 2 ^ (n.natAbs.log2 - 52) ∣ n.natAbs ∧ n.natAbs.log2 - 52 ≤ 971 :=
  ⟨dvd_of_isDouble n, fun h =>
    ⟨ofInt n, ofInt_inFormat n, ofInt_exact n h.1 h.2⟩⟩

/-- So it is if and only if it becomes a double unchanged. -/
theorem isDouble_iff_ofInt (n : Int) : IsDouble n ↔ (ofInt n).denoted = some (.inr (n : ℚ)) := by
  refine ⟨fun h => ?_, fun h => ⟨ofInt n, ofInt_inFormat n, h⟩⟩
  obtain ⟨hdvd, hmax⟩ := dvd_of_isDouble n h
  exact ofInt_exact n hdvd hmax

/-- Whole numbers of up to 53 bits are doubles, and so is the next one. -/
theorem isDouble_of_small (n : Int) (h : n.natAbs ≤ 2 ^ 53) : IsDouble n := by
  rw [isDouble_iff_dvd]
  rcases Nat.lt_or_eq_of_le h with hlt | heq
  · have hlog : n.natAbs.log2 - 52 = 0 := by
      by_cases hzero : n.natAbs = 0
      · rw [hzero]
        decide
      · have hbits := (Nat.log2_lt hzero).mpr hlt
        omega
    rw [hlog]
    exact ⟨one_dvd _, Nat.zero_le _⟩
  · rw [heq, Nat.log2_two_pow]
    decide

end Binary64

namespace Number

/-- No double equals two whole numbers of up to 53 bits. -/
theorem apart_of_small (N : Number → Prop)
    (hsmall : ∀ n, N (.int n) → n.toInt.natAbs ≤ 2 ^ 53) : Apart N := by
  intro x m n _ hm hn hxm hxn
  have hmn : (Binary64.ofInt m.toInt).same (.ofInt n.toInt) = true :=
    Binary64.same_trans _ x _ ((Binary64.same_comm _ _).trans hxm) hxn
  obtain ⟨number, hm', hn'⟩ := (Binary64.same_iff_denoted _ _).mp hmn
  rw [(Binary64.isDouble_iff_ofInt _).mp (Binary64.isDouble_of_small _ (hsmall m hm))] at hm'
  rw [(Binary64.isDouble_iff_ofInt _).mp (Binary64.isDouble_of_small _ (hsmall n hn)), ← hm'] at hn'
  have hcast : (n.toInt : ℚ) = (m.toInt : ℚ) := Sum.inr.inj (Option.some.inj hn')
  exact (Int64.toInt_inj.mp (Int.cast_inj.mp hcast)).symm

end Number

end FieldSchema
