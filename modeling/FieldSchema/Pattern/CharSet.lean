import FieldSchema.Text.CharClass
import FieldSchema.Text.Folding

/-!
# Sets of Characters

What a single place of a pattern accepts.

A set is kept as sorted ranges of code points, however it was written. So two
ways to write the same set give the same set, and how much room a pattern
takes up depends on the set alone. Where case is ignored, a set is closed
under case variants before it is complemented: a set that excludes `a` then
also excludes `A`. The complement lets every other character in, a newline
among them.

## Main definitions

* `CharSet`: A set of characters.
* `CharSet.contains`: The set accepts the character.
* `CharSet.range`, `CharSet.union`, `CharSet.complement`: How sets are made.
-/

namespace FieldSchema

namespace Pattern

/-- A set of characters, as sorted ranges of code points with gaps between them. -/
structure CharSet where
  ranges : List Text.CodeRange
deriving DecidableEq

namespace CharSet

/-- The set accepts the character. -/
def contains (set : CharSet) (c : Char) : Bool :=
  Text.CodeRange.anyContains set.ranges c.toNat

/-- No character. -/
def empty : CharSet := ⟨[]⟩

/-- There is no character in the set. -/
def isEmpty (set : CharSet) : Bool :=
  set.ranges.isEmpty

/-- The set holds nothing beyond ASCII. -/
def isAscii (set : CharSet) : Bool :=
  set.ranges.all fun range => range.2 < 0x80

/-- The decimal digits. -/
def digit : CharSet := ⟨Text.digitRanges⟩

/-- White space. -/
def space : CharSet := ⟨Text.spaceRanges⟩

/-- The characters of words. -/
def word : CharSet := ⟨Text.wordRanges⟩

/-- The one character, and its case variants if case is ignored. -/
def single (c : Char) (ignoreCase : Bool) : CharSet :=
  if ignoreCase then
    ⟨(Text.caseVariants c).foldl (fun set d => Text.CodeRange.insert (d.toNat, d.toNat) set) []⟩
  else ⟨[(c.toNat, c.toNat)]⟩

/-- The characters from the first to the last, and their case variants if case is ignored. -/
def range (first last : Char) (ignoreCase : Bool) : CharSet :=
  let ranges := [(first.toNat, last.toNat)]
  if ignoreCase then ⟨Text.closeUnderCase ranges⟩ else ⟨ranges⟩

/-- The characters in either set. -/
def union (set other : CharSet) : CharSet :=
  ⟨Text.CodeRange.union set.ranges other.ranges⟩

/-- All the other characters. -/
def complement (set : CharSet) : CharSet :=
  ⟨Text.CodeRange.complement set.ranges⟩

/-- Every character but the newline. -/
def notNewline : CharSet :=
  complement (single '\n' false)

/-- The character of a set that has only one. -/
def only? (set : CharSet) : Option Char :=
  match set.ranges with
  | [(first, last)] => if first = last then some (Char.ofNat first) else none
  | _ => none

end CharSet

end Pattern

end FieldSchema
