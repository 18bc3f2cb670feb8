import FieldSchema.Text.CodeRange

/-!
# UTF-8

The bytes of characters, and of ranges of characters.

The byte sequences of a range of characters are in general no product of byte
ranges. A range is therefore cut until each of its pieces is one: first around
the surrogates, which have no bytes, then where the number of bytes changes,
and then so that below the first byte in which its two ends differ a piece
runs through all values. The pieces are few, and their order is that of the
characters.

## Main definitions

* `utf8Bytes`: The bytes of a character.
* `ByteRange`: A closed range of bytes.
* `byteSequences`: The byte sequences of a range of characters.
-/

namespace FieldSchema

namespace Text

/-- The byte that continues a character, with six bits of its code point. -/
def continuationByte (bits : Nat) : Nat :=
  0x80 + bits % 0x40

/-- The bytes of the character with a code point. -/
def utf8Bytes (n : Nat) : List Nat :=
  if n < 0x80 then [n]
  else if n < 0x800 then [0xC0 + n / 0x40, continuationByte n]
  else if n < 0x10000 then
    [0xE0 + n / 0x1000, continuationByte (n / 0x40), continuationByte n]
  else
    [0xF0 + n / 0x40000, continuationByte (n / 0x1000), continuationByte (n / 0x40),
      continuationByte n]

/-- A closed range of bytes, from the first to the last. -/
abbrev ByteRange := Nat × Nat

/-- The last code points with one, two and three bytes. -/
def lengthBounds : List Nat := [0x7F, 0x7FF, 0xFFFF]

/-- The numbers of values that the last one, two and three bytes of a character can take. -/
def blockSizes : List Nat := [0x40, 0x1000, 0x40000]

/-- Where a range with ends of one length is to be cut for blocks of one size, if it has to be. -/
def blockCut? (first last size : Nat) : Option Nat :=
  if first / size = last / size then none
  else if first % size ≠ 0 then some (first - first % size + size)
  else if last % size ≠ size - 1 then some (last - last % size)
  else none

/-- Where a range is to be cut next, as the first code point of its second part. -/
def nextCut? (first last : Nat) : Option Nat :=
  match lengthBounds.find? fun bound => first ≤ bound && bound < last with
  | some bound => some (bound + 1)
  | none => if last < 0x80 then none else blockSizes.findSome? (blockCut? first last)

/-- The byte sequences of a range without surrogates that is cut at most so many times in a row. -/
def byteSequencesWithin : Nat → Nat → Nat → List (List ByteRange)
  | 0, _, _ => []
  | cuts + 1, first, last =>
      match nextCut? first last with
      | some cut => byteSequencesWithin cuts first (cut - 1) ++ byteSequencesWithin cuts cut last
      | none => [(utf8Bytes first).zip (utf8Bytes last)]

/-- The byte sequences of a range of characters, in order. -/
def byteSequences (range : CodeRange) : List (List ByteRange) :=
  -- Three cuts by length, then at most two for every block size.
  let cuts := 10
  if range.1 < CodeRange.surrogates.1 && CodeRange.surrogates.2 < range.2 then
    byteSequencesWithin cuts range.1 (CodeRange.surrogates.1 - 1) ++
      byteSequencesWithin cuts (CodeRange.surrogates.2 + 1) range.2
  else byteSequencesWithin cuts range.1 range.2

end Text

end FieldSchema
