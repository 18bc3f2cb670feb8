/-!
# Double-precision Numbers

Doubles as the exact numbers they denote.

A finite double is a signed whole number times a power of two, and every
question that a field asks of one (is it equal, is it below, is it a whole
number) is a question about that exact value. So a double is kept as its
sign, significand and exponent, and all arithmetic is on whole numbers. Only
`ofRatio` rounds: it is the one place where a number that is not a double
becomes one, always the nearest, and of two equally near the even one.

The sign is kept apart from the significand because the two zeros are equal
but are written differently.

## Main definitions

* `Binary64`: Not-a-number, an infinity, or an exact finite value.
* `Binary64.ofRatio`: The double nearest to a quotient.
* `Binary64.same`, `Binary64.below`: Equality and order of the values denoted.
* `Binary64.fract`, `Binary64.toInt64`: What stands after the point, and what stands before it.
-/

namespace FieldSchema

/-- A double: not a number, an infinity, or `± significand * 2 ^ exponent`. -/
inductive Binary64 where
  | nan
  | infinite (negative : Bool)
  | finite (negative : Bool) (significand : Nat) (exponent : Int)
deriving DecidableEq

namespace Binary64

/-- The exponent of the smallest positive double. -/
def minExponent : Int := -1074

/-- The exponent of the largest doubles. -/
def maxExponent : Int := 971

/-- The least significand of 53 bits, which is full precision. -/
def leastFull : Nat := Nat.pow 2 52

/-- The quotient rounded to a whole number, a half going to the even neighbour. -/
def roundDiv (num den : Nat) : Nat :=
  let q := num / den
  let r := num % den
  if 2 * r > den || (2 * r == den && q % 2 == 1) then q + 1 else q

/-- The numerator and denominator of `num / den / 2 ^ e`. -/
def scaleBy (num den : Nat) (e : Int) : Nat × Nat :=
  if e < 0 then (num * Nat.pow 2 (-e).toNat, den) else (num, den * Nat.pow 2 e.toNat)

/--
The exponent at which a positive quotient has a significand of 53 bits, or the least exponent if
it is smaller than that.
-/
def exponentOf (num den : Nat) : Int :=
  let guess := (num.log2 : Int) - den.log2 - 52
  let scaled := scaleBy num den guess
  -- The guess is right or too large by one.
  let exact := if scaled.1 / scaled.2 < leastFull then guess - 1 else guess
  max exact minExponent

/-- The double nearest to a quotient, with a given sign. -/
def ofRatio (negative : Bool) (num den : Nat) : Binary64 :=
  if num = 0 then .finite negative 0 minExponent
  else
    let e := exponentOf num den
    let scaled := scaleBy num den e
    let m := roundDiv scaled.1 scaled.2
    -- Rounding up can carry into a new binary digit.
    let rounded := if m = 2 * leastFull then (leastFull, e + 1) else (m, e)
    if rounded.2 > maxExponent then .infinite negative
    else .finite negative rounded.1 rounded.2

/-- The double nearest to a whole number. -/
def ofInt (n : Int) : Binary64 :=
  ofRatio (n < 0) n.natAbs 1

/-- A signed whole number. -/
def signed (negative : Bool) (n : Nat) : Int :=
  if negative then -n else n

/-- Two finite values as whole multiples of one power of two. -/
def aligned (s₁ : Bool) (m₁ : Nat) (e₁ : Int) (s₂ : Bool) (m₂ : Nat) (e₂ : Int) : Int × Int :=
  let e := min e₁ e₂
  (signed s₁ (m₁ * Nat.pow 2 (e₁ - e).toNat), signed s₂ (m₂ * Nat.pow 2 (e₂ - e).toNat))

/-- The two doubles denote the same value; what is not a number denotes none. -/
def same : Binary64 → Binary64 → Bool
  | .infinite s₁, .infinite s₂ => s₁ == s₂
  | .finite s₁ m₁ e₁, .finite s₂ m₂ e₂ =>
      let pair := aligned s₁ m₁ e₁ s₂ m₂ e₂
      pair.1 == pair.2
  | _, _ => false

/-- The first double denotes a smaller value than the second. -/
def below : Binary64 → Binary64 → Bool
  | .nan, _ => false
  | _, .nan => false
  | .infinite s₁, .infinite s₂ => s₁ && !s₂
  | .infinite s₁, .finite _ _ _ => s₁
  | .finite _ _ _, .infinite s₂ => !s₂
  | .finite s₁ m₁ e₁, .finite s₂ m₂ e₂ =>
      let pair := aligned s₁ m₁ e₁ s₂ m₂ e₂
      decide (pair.1 < pair.2)

/-- The first double denotes the same value as the second or a greater one. -/
def atLeast (x y : Binary64) : Bool :=
  y.below x || x.same y

/-- Zero, the positive one. -/
def zero : Binary64 := .finite false 0 minExponent

/-- What stands after the point; an infinity has no such part. -/
def fract : Binary64 → Binary64
  | .finite negative m e =>
      if 0 ≤ e then zero else .finite negative (m % Nat.pow 2 (-e).toNat) e
  | _ => .nan

/-- What stands before the point of `m * 2 ^ e`. -/
def wholePart (m : Nat) (e : Int) : Nat :=
  if 0 ≤ e then m * Nat.pow 2 e.toNat else m / Nat.pow 2 (-e).toNat

/--
What stands before the point, as a whole number of 64 bits. What is out of range becomes the
nearer of the two bounds, and what is not a number becomes zero.
-/
def toInt64 : Binary64 → Int64
  | .nan => 0
  | .infinite negative => if negative then Int64.minValue else Int64.maxValue
  | .finite negative m e => .ofIntClamp (signed negative (wholePart m e))

end Binary64

end FieldSchema
