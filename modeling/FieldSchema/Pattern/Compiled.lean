import FieldSchema.Pattern.Footprint
import FieldSchema.Pattern.Reader
import FieldSchema.Pattern.Search
import FieldSchema.Pattern.Template

/-!
# Patterns

A pattern ready for searching, and what a match can be used for.

A pattern keeps its text, because that is how it is reported, and the
labelled node that the search walks. A match is the stretch of text between
two places together with the marks passed on the way; a group that was passed
several times is the stretch it matched last.

A text may be refused for two reasons: it does not describe a pattern, or it
describes one that would be too large if its counted repetitions were written
out.

## Main definitions

* `Pattern`: A pattern ready for searching.
* `Pattern.ofText`: The pattern that a text describes.
* `Pattern.find?`: The first match in a text.
* `Pattern.replaceFirst?`: The text with its first match replaced.
-/

namespace FieldSchema

/-- A pattern ready for searching. -/
structure Pattern where
  source : String
  node : Pattern.Node
  labels : Nat
  names : List (List Char × Nat)

namespace Pattern

/-- Why a text is refused as a pattern. -/
inductive Refusal where
  | unreadable
  | tooLarge
deriving DecidableEq

/-- The pattern that a text describes. -/
def ofText (source : String) : Except Refusal Pattern :=
  match read? source.toList with
  | none => .error .unreadable
  | some parsed =>
      if parsed.tree.fits then
        let (node, labels) := parsed.tree.toNode 0
        .ok ⟨source, node, labels, parsed.groups.names⟩
      else .error .tooLarge

/-- A match: the places where it starts and stops, and the marks passed between them. -/
structure Match where
  start : Nat
  stop : Nat
  marks : Marks

/-- The first match in a text. -/
def find? (p : Pattern) (text : List Char) : Option Match :=
  (search p.node p.labels text).map fun (start, thread) => ⟨start, thread.place, thread.marks⟩

/-- The text of a group; the whole match is group zero. -/
def Match.group (m : Match) (text : List Char) (index : Nat) : List Char :=
  let bounds :=
    if index = 0 then some (m.start, m.stop)
    else
      match m.marks.lookup (2 * index), m.marks.lookup (2 * index + 1) with
      | some start, some stop => some (start, stop)
      | _, _ => none
  match bounds with
  | some (start, stop) => (text.take stop).drop start
  | none => []

/-- The text that a piece of a template stands for; a group that is not there is empty. -/
def expandPiece (p : Pattern) (m : Match) (text : List Char) : Piece → List Char
  | .char c => [c]
  | .numbered index => m.group text index
  | .named name =>
      match p.names.lookup name with
      | some index => m.group text index
      | none => []

/-- The text that a template stands for at a match. -/
def expand (p : Pattern) (m : Match) (text template : List Char) : List Char :=
  (Template.pieces template).flatMap (p.expandPiece m text)

/-- The text with its first match replaced, if there is a match. -/
def replaceFirst? (p : Pattern) (template text : List Char) : Option (List Char) :=
  (p.find? text).map fun m => text.take m.start ++ p.expand m text template ++ text.drop m.stop

end Pattern

end FieldSchema
