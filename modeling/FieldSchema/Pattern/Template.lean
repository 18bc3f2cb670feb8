/-!
# Replacement Templates

Text with references to the groups of a match.

A dollar sign begins a reference: to the name in the braces that follow, or to
the longest run of letters, digits and underscores. A name of digits alone is
the number of a group. Two dollar signs stand for one, and a dollar sign that
begins nothing stands for itself, as does one whose brace never closes.

## Main definitions

* `Piece`: A character, or a reference to a group.
* `Template.pieces`: The pieces that the text of a template is made of.
-/

namespace FieldSchema

namespace Pattern

/-- A character, or a reference to a group by its number or its name. -/
inductive Piece where
  | char (c : Char)
  | numbered (index : Nat)
  | named (name : List Char)
deriving DecidableEq

namespace Template

/-- The character can stand in a name without braces. -/
def isNameChar (c : Char) : Bool :=
  c.isAlphanum || c == '_'

/-- A reference by a name, which is the number of a group if it reads as a number of 64 bits. -/
def reference (name : List Char) : Piece :=
  let digits :=
    match name with
    | '+' :: digits => digits
    | digits => digits
  let n := digits.foldl (fun n c => 10 * n + (c.toNat - '0'.toNat)) 0
  if !digits.isEmpty && digits.all Char.isDigit && n < UInt64.size then .numbered n else .named name

/-- Where the reader of a template is; names are kept with the latest character first. -/
inductive Mode where
  | plain
  | dollar
  | bare (name : List Char)
  | braced (name : List Char)

/-- The pieces of the rest of a template. -/
def scan : Mode → List Char → List Piece
  | .plain, [] => []
  | .plain, c :: rest => if c = '$' then scan .dollar rest else .char c :: scan .plain rest
  | .dollar, [] => [.char '$']
  | .dollar, c :: rest =>
      if c = '$' then .char '$' :: scan .plain rest
      -- A brace that never closes is text.
      else if c = '\x7b' && rest.contains '\x7d' then scan (.braced []) rest
      else if isNameChar c then scan (.bare [c]) rest
      else .char '$' :: .char c :: scan .plain rest
  | .bare name, [] => [reference name.reverse]
  | .bare name, c :: rest =>
      if isNameChar c then scan (.bare (c :: name)) rest
      else
        reference name.reverse ::
          (if c = '$' then scan .dollar rest else .char c :: scan .plain rest)
  | .braced _, [] => []
  | .braced name, c :: rest =>
      if c = '\x7d' then reference name.reverse :: scan .plain rest
      else scan (.braced (c :: name)) rest

/-- The pieces that the text of a template is made of. -/
def pieces (text : List Char) : List Piece :=
  scan .plain text

end Template

end Pattern

end FieldSchema
