import FieldSchema.Number.Decimal

/-!
# Numbers

The two kinds of number that a field can hold.

Whole numbers have 64 bits and wrap; all other numbers are doubles. Two
whole numbers are compared exactly, but as soon as one side is a double both
are compared as doubles, and the conversion rounds. A large whole number can
therefore equal a double that reads as a different whole number, and equality
is not transitive across the two kinds.

## Main definitions

* `Number`: A whole number or a double.
* `Number.same`: Equality of numbers.
* `Number.toInt64?`: The number as a whole number of 64 bits, if it is one.
* `Number.text`: The written form of a number.
-/

namespace FieldSchema

/-- A whole number of 64 bits or a double. -/
inductive Number where
  | int (n : Int64)
  | float (x : Binary64)
deriving DecidableEq

namespace Number

/-- The double nearest to the number. -/
def toBinary64 : Number → Binary64
  | .int n => .ofInt n.toInt
  | .float x => x

/--
The number as a whole number of 64 bits, if it is one. The two bounds are doubles themselves here:
the least whole number is one, and the greatest rounds up to one that is out of range already.
-/
def toInt64? : Number → Option Int64
  | .int n => some n
  | .float x =>
      if x.fract.same .zero && x.atLeast (.ofInt Int64.minValue.toInt) &&
          x.below (.ofInt Int64.maxValue.toInt) then some x.toInt64
      else none

/-- Equality of numbers: exact between whole numbers, and as doubles otherwise. -/
def same : Number → Number → Bool
  | .int m, .int n => m == n
  | x, y => x.toBinary64.same y.toBinary64

/-- The written form of a number. -/
def text : Number → List Char
  | .int n => (toString n.toInt).toList
  | .float x => x.text

end Number

end FieldSchema
