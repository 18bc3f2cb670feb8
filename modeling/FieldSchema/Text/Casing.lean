import FieldSchema.Text.CaseTable

/-!
# Casing

Lower-case and upper-case forms of text.

Both are the full mappings, in which one character may become several. One
rule looks at the surroundings: a capital sigma is written as the final sigma
when a cased letter precedes it and none follows, not counting the characters
that are passed over on the way. So the lower-case form of a text is not the
concatenation of the forms of its characters, and `lowerFrom` carries what
stands before, nearest first.

## Main definitions

* `lowercase`: The lower-case form of a text.
* `uppercase`: The upper-case form of one character.
* `isUppercase`: The character is an upper-case letter.
-/

namespace FieldSchema

namespace Text

/-- The character is an upper-case letter. -/
def isUppercase (c : Char) : Bool :=
  CodeRange.anyContains uppercaseRanges c.toNat

/-- The form of one character under a case mapping, without regard to its surroundings. -/
def mapCase (runs : List ShiftRun) (expansions : List (Nat × List Nat)) (c : Char) : List Char :=
  match expansions.lookup c.toNat with
  | some ns => ns.map Char.ofNat
  | none =>
      match ShiftRun.shifted? runs c.toNat with
      | some n => [Char.ofNat n]
      | none => [c]

/-- The upper-case form of one character. -/
def uppercase (c : Char) : List Char :=
  mapCase upperRuns upperExpansions c

/-- The nearest character that is not passed over is cased. -/
def seesCased (s : List Char) : Bool :=
  match s.dropWhile fun c => CodeRange.anyContains caseIgnorableRanges c.toNat with
  | [] => false
  | c :: _ => CodeRange.anyContains casedRanges c.toNat

/-- The lower-case form of a text that follows `before`, given nearest first. -/
def lowerFrom (before : List Char) : List Char → List Char
  | [] => []
  | c :: rest =>
      let form :=
        if c = 'Σ' then
          if seesCased before && !seesCased rest then ['ς'] else ['σ']
        else mapCase lowerRuns lowerExpansions c
      form ++ lowerFrom (c :: before) rest

/-- The lower-case form of a text. -/
def lowercase (s : List Char) : List Char :=
  lowerFrom [] s

end Text

end FieldSchema
