/-!
# Ranges of Code Points

Sorted tables of character data and how they are searched.

A property of characters is a sorted list of ranges, and a case mapping a
sorted list of runs. Both searches stop at the first row that lies beyond the
code point: the rows are sorted by their first code point, so nothing later
can contain it.

Between two ranges of a sorted list there is always a gap: a range that is
inserted absorbs those that it overlaps or touches. So a set of code points is
written in one way only, and equal sets are equal lists.

## Main definitions

* `CodeRange`: A closed range of code points.
* `CodeRange.anyContains`: Membership in a sorted table of ranges.
* `CodeRange.insert`, `CodeRange.union`, `CodeRange.complement`: The
  operations on sets of code points.
* `ShiftRun`: A run of code points that are all moved by one shift.
* `ShiftRun.shifted?`: Where a sorted table of runs moves a code point.
-/

namespace FieldSchema

namespace Text

/-- A closed range of code points, from the first to the last. -/
abbrev CodeRange := Nat × Nat

namespace CodeRange

/-- Membership in a sorted table of ranges. -/
def anyContains : List CodeRange → Nat → Bool
  | [], _ => false
  | (first, last) :: rest, n =>
      if n < first then false else n ≤ last || anyContains rest n

/-- The sorted ranges with one more, which absorbs those that it overlaps or touches. -/
def insert : CodeRange → List CodeRange → List CodeRange
  | range, [] => [range]
  | (first, last), (low, high) :: rest =>
      if last + 1 < low then (first, last) :: (low, high) :: rest
      else if high + 1 < first then (low, high) :: insert (first, last) rest
      else insert (min first low, max last high) rest

/-- The code points in either of two sets. -/
def union (ranges others : List CodeRange) : List CodeRange :=
  ranges.foldl (fun union range => insert range union) others

/-- The last code point there is. -/
def maxCodePoint : Nat := 0x10FFFF

/-- The first and the last of the code points that are not characters. -/
def surrogates : CodeRange := (0xD800, 0xDFFF)

/-- The gaps between sorted ranges, from a code point on. -/
def gapsFrom : Nat → List CodeRange → List CodeRange
  | start, [] => [(start, maxCodePoint)]
  | start, (first, last) :: rest => (start, first - 1) :: gapsFrom (last + 1) rest

/-- The range without the surrogates at its ends. -/
def trimSurrogates : CodeRange → CodeRange
  | (first, last) =>
      (if surrogates.1 ≤ first && first ≤ surrogates.2 then surrogates.2 + 1 else first,
       if surrogates.1 ≤ last && last ≤ surrogates.2 then surrogates.1 - 1 else last)

/-- The characters outside of a set; ranges neither begin nor end with a surrogate. -/
def complement (ranges : List CodeRange) : List CodeRange :=
  match ranges with
  | [] => [(0, maxCodePoint)]
  | (first, last) :: rest =>
      let gaps := gapsFrom (last + 1) rest
      let gaps := if first = 0 then gaps else (0, first - 1) :: gaps
      (gaps.map trimSurrogates).filter fun gap => gap.1 ≤ gap.2

end CodeRange

/-- The code points `first`, `first + stride`, … up to `last`, moved so that `first` is at `image`. -/
structure ShiftRun where
  first : Nat
  last : Nat
  stride : Nat
  image : Nat

namespace ShiftRun

/-- The code point belongs to the run. -/
def contains (run : ShiftRun) (n : Nat) : Bool :=
  run.first ≤ n && n ≤ run.last && (n - run.first) % run.stride == 0

/-- The members of the run in order. -/
def members (run : ShiftRun) : List Nat :=
  (List.range ((run.last - run.first) / run.stride + 1)).map fun i => run.first + i * run.stride

/-- Where the run moves a member. -/
def shifted (run : ShiftRun) (n : Nat) : Nat :=
  run.image + (n - run.first)

/-- Where a sorted table of runs moves a code point. -/
def shifted? : List ShiftRun → Nat → Option Nat
  | [], _ => none
  | run :: rest, n =>
      if n < run.first then none
      else if run.contains n then some (run.shifted n)
      else shifted? rest n

/-- All the places to which the runs of a sorted table move a code point. -/
def allShifted : List ShiftRun → Nat → List Nat
  | [], _ => []
  | run :: rest, n =>
      if n < run.first then []
      else if run.contains n then run.shifted n :: allShifted rest n
      else allShifted rest n

end ShiftRun

end Text

end FieldSchema
