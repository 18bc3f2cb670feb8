import FieldSchema.Proofs.Number.Format
import FieldSchema.Proofs.Number.Reading
import FieldSchema.Proofs.Value.Positions

/-!
# Equal Numbers and What Is Read of Them

When equal numbers are read as the same whole number.

Reading a number goes by what it denotes, and so does equality, but equality of
a whole number and a double looks at the whole number as a double. If that is
another number, the two ways part. The whole number is read as itself, while
the double, which equals it, is read as what the rounding made of it, or as
nothing if that is out of range. This happens to no double and to no whole
number that is a double itself, and it happens to all others, since their own
nearest double is an example.

One direction always holds. A double that is read as a whole number shows that
the whole number is a double, so that it stays what it is when it is compared.

A map is where this matters. It takes a key for one that it has if the two are
equal, and so an entry under a whole number can be overwritten under a key that
is read as another.

## Main definitions

* `Number.InFormat`: The number is one that there is.
* `Number.Exact`: As a double the number is the same.

## Theorems

* `exact_int_iff`: The whole numbers that are the same as doubles.
* `same_of_reads`: A number equals the whole number that it is read as.
* `reads_alike_iff`: When equal numbers are read alike.
* `equality_and_reading_agree_iff`: When equality and reading agree, also for the keys of a map.
* `overwritten_beyond_precision`: A key that overwrites the entry of another whole number.
-/

namespace FieldSchema

namespace Number

/-- A double among the numbers is in the format of doubles. -/
def InFormat : Number → Prop
  | int _ => True
  | float x => x.InFormat

/-- As a double, the number denotes what it denotes. -/
def Exact (x : Number) : Prop :=
  x.toBinary64.denoted = x.denoted

theorem exact_float (x : Binary64) : (float x).Exact := rfl

/-- A whole number is the same as a double if its bits beyond 53 are zeros. -/
theorem exact_int_iff (i : Int64) :
    (int i).Exact ↔ 2 ^ (i.toInt.natAbs.log2 - 52) ∣ i.toInt.natAbs := by
  have hleast := Int64.le_toInt i
  have hgreatest := Int64.toInt_lt i
  have hbits : i.toInt.natAbs.log2 - 52 ≤ 971 := by
    by_cases hzero : i.toInt.natAbs = 0
    · rw [hzero]
      decide
    · have hlog := (Nat.log2_lt hzero).mpr (by omega : i.toInt.natAbs < 2 ^ 64)
      omega
  refine (Binary64.isDouble_iff_ofInt i.toInt).symm.trans ?_
  rw [Binary64.isDouble_iff_dvd, and_iff_left hbits]

/-- The double of a whole number is a number. -/
theorem ofInt_ne_nan (n : Int) : Binary64.ofInt n ≠ .nan := by
  unfold Binary64.ofInt Binary64.ofRatio
  split
  · exact nofun
  · dsimp only
    -- With a carry or without, the result is an infinity or finite.
    split <;> split <;> exact nofun

/-- A number equals the whole number that it is read as. -/
theorem same_of_reads (x : Number) (hx : x.InFormat) (i : Int64) (h : x.toInt64? = some i) :
    x.same (.int i) = true := by
  cases x with
  | int n =>
      obtain rfl : n = i := Option.some.inj h
      exact beq_self_eq_true n
  | float x =>
      have hdenoted := (toInt64?_eq_some_iff (.float x) i).mp h
      -- The double itself shows that the whole number is one.
      have hdouble : Binary64.IsDouble i.toInt := ⟨x, hx, hdenoted⟩
      exact (Binary64.same_iff_denoted x _).mpr
        ⟨_, hdenoted, (Binary64.isDouble_iff_ofInt i.toInt).mp hdouble⟩

theorem reads_int_alike_iff (i : Int64) (x : Binary64)
    (h : (Binary64.ofInt i.toInt).same x = true) : (float x).toInt64? = some i ↔ (int i).Exact := by
  obtain ⟨number, hi, hx⟩ := (Binary64.same_iff_denoted _ _).mp h
  rw [toInt64?_eq_some_iff, Exact, toBinary64, hi]
  change x.denoted = _ ↔ _
  rw [hx]
  rfl

/-- Equal numbers are read alike if they are the same, or if both are the same as doubles. -/
theorem reads_alike_iff (x y : Number) (h : x.same y = true) :
    x.toInt64? = y.toInt64? ↔ x = y ∨ x.Exact ∧ y.Exact := by
  cases x with
  | int m =>
      cases y with
      | int n =>
          -- Two whole numbers that are the same are one.
          obtain rfl : m = n := beq_iff_eq.mp h
          exact iff_of_true rfl (Or.inl rfl)
      | float y =>
          have hne : int m ≠ float y := by simp
          rw [eq_comm, toInt64?, reads_int_alike_iff m y h, or_iff_right hne,
            and_iff_left (exact_float y)]
  | float x =>
      cases y with
      | int n =>
          -- The other way round it is the same question about the whole number.
          have hback : (Binary64.ofInt n.toInt).same x = true := (Binary64.same_comm _ _).trans h
          have hne : float x ≠ int n := by simp
          rw [toInt64?.eq_def (int n), reads_int_alike_iff n x hback, or_iff_right hne,
            and_iff_right (exact_float x)]
      | float y =>
          -- Two doubles that are the same denote one number, and the reading goes by that.
          obtain ⟨number, hx, hy⟩ := (Binary64.same_iff_denoted x y).mp h
          refine iff_of_true (Option.ext fun i => ?_) (Or.inr ⟨exact_float x, exact_float y⟩)
          rw [toInt64?_eq_some_iff, toInt64?_eq_some_iff, denoted, denoted, hx, hy]

/-- A number that equals a whole number is read as it if it is the same, or if that is a double. -/
theorem reads_equal_iff (x : Number) (i : Int64) (h : x.same (.int i) = true) :
    x.toInt64? = some i ↔ x = .int i ∨ (int i).Exact := by
  refine (reads_alike_iff x (.int i) h).trans (or_congr_right' fun hne => and_iff_right ?_)
  cases x with
  | int n => exact absurd (congrArg int (beq_iff_eq.mp h)) hne
  | float x => exact exact_float x

/-- Equality with a whole number and reading agree exactly if the whole number is a double, that is,
    if its bits beyond 53 are zeros. Numbers in the format are read as the whole numbers that they
    equal, except those that are not doubles; equal numbers are read alike, unless one of them is
    such a whole number and the other is not the same; and where an entry under a whole number is
    overwritten, it is so under a key that is read as that number, with the same exception. -/
theorem equality_and_reading_agree_iff (i : Int64) :
    ((∀ x : Number, x.InFormat → (x.same (.int i) = true ↔ x.toInt64? = some i)) ↔
      (int i).Exact) ∧
    ((int i).Exact ↔ 2 ^ (i.toInt.natAbs.log2 - 52) ∣ i.toInt.natAbs) ∧
    (∀ x : Number, x.InFormat →
      (x.toInt64? = some i ↔ x.same (.int i) = true ∧ (x = .int i ∨ (int i).Exact))) ∧
    (∀ x y : Number, x.same y = true →
      (x.toInt64? = y.toInt64? ↔ x = y ∨ x.Exact ∧ y.Exact)) ∧
    ∀ (m : Mapping) (p : Nat) (old value : Value) (key : Number),
      m.entries[p]? = some (.number (.int i), old) →
      (m.insert (.number key) value).entries[p]? ≠ some (.number (.int i), old) →
      (key.toInt64? = some i ↔ key = .int i ∨ (int i).Exact) := by
  have hreads : ∀ x : Number, x.InFormat →
      (x.toInt64? = some i ↔ x.same (.int i) = true ∧ (x = .int i ∨ (int i).Exact)) := by
    intro x hx
    constructor
    · intro hread
      have hsame := same_of_reads x hx i hread
      exact ⟨hsame, (reads_equal_iff x i hsame).mp hread⟩
    · rintro ⟨hsame, hexact⟩
      exact (reads_equal_iff x i hsame).mpr hexact
  refine ⟨⟨fun hagree => ?_, fun hexact x hx => ?_⟩, exact_int_iff i, hreads, reads_alike_iff, ?_⟩
  · -- The double of the whole number equals it, so it has to be read as it.
    have hself := Binary64.same_refl _ (ofInt_ne_nan i.toInt)
    have hread := (hagree (.float (.ofInt i.toInt)) (Binary64.ofInt_inFormat _)).mp hself
    exact (reads_int_alike_iff i _ hself).mp hread
  · rw [hreads x hx, and_iff_left (Or.inr hexact)]
  · intro m p old value key hentry hchanged
    have hequal := Mapping.equals_of_changed m (.number key) value p _ hentry hchanged
    exact reads_equal_iff key i ((same_comm _ _).trans hequal)

/-- Three and its double are read alike, and the double overwrites what is under the whole
    number. -/
theorem equality_and_reading_agree_iff_three :
    let three : Number := .float (.ofInt 3)
    let m := Mapping.ofList [(.nil, .nil), (.number (.int 3), .atom "whole")]
    let next := m.insert (.number three) (.atom "double")
    three.InFormat ∧ three.same (.int 3) = true ∧ (three.same (.int 3) = true ↔
      three.toInt64? = some 3) ∧ (three.toInt64? = some 3 ↔
      three.same (.int 3) = true ∧ (three = .int 3 ∨ (int 3).Exact)) ∧
      three.toInt64? = (int 3).toInt64? ∧
      m.entries[1]? = some (.number (.int 3), .atom "whole") ∧
      next.entries[1]? ≠ some (.number (.int 3), .atom "whole") ∧ three.toInt64? = some 3 := by
  intro three m next
  obtain ⟨hagree, hexact, hreads, halike, hkeys⟩ := equality_and_reading_agree_iff 3
  have hformat : three.InFormat := Binary64.ofInt_inFormat 3
  have hthree : (int 3).Exact := hexact.mpr (by decide)
  have hsame : three.same (.int 3) = true := by decide +kernel
  have hentry : m.entries[1]? = some (.number (.int 3), .atom "whole") := rfl
  have hafter : next.entries[1]? = some (.number (.int 3), .atom "double") := rfl
  have hchanged : next.entries[1]? ≠ some (.number (.int 3), .atom "whole") := by
    rw [hafter]
    simp
  exact ⟨hformat, hsame, hagree.mpr hthree three hformat, hreads three hformat,
    (halike three (.int 3) hsame).mpr (Or.inr ⟨exact_float _, hthree⟩), hentry, hchanged,
    (hkeys m 1 _ _ three hentry hchanged).mpr (Or.inr hthree)⟩

/-- A whole number equals a double that is read as another one, and its entry is overwritten under
    that double. -/
theorem overwritten_beyond_precision :
    let x : Number := .float (.ofInt 9007199254740992)
    let i : Int64 := 9007199254740993
    let m := Mapping.ofList [(.number (.int i), .atom "whole")]
    x.InFormat ∧ x.same (.int i) = true ∧ x.toInt64? = some 9007199254740992 ∧
      ¬ (x.same (.int i) = true ↔ x.toInt64? = some i) ∧
      m.entries = [(.number (.int i), .atom "whole")] ∧
      (m.insert (.number x) (.atom "double")).entries = [(.number (.int i), .atom "double")] := by
  intro x i m
  have hfound : ((.number (.int i) : Value) == .number x) = true := by decide +kernel
  refine ⟨Binary64.ofInt_inFormat 9007199254740992, by decide +kernel, by decide +kernel,
    by decide +kernel, rfl, ?_⟩
  change Mapping.insertInto _ _ [(_, _)] = _
  rw [Mapping.insertInto, hfound]
  rfl

end Number

end FieldSchema
