import FieldSchema.Yaml.Node
import FieldSchema.Yaml.Scalar

/-!
# Writing Documents

The text that describes a node.

Mappings and sequences are laid out by indentation, two spaces for each level
of mappings; the dashes of a sequence stand in the column of its key. A string
is written plainly wherever that reads back as the same string, and otherwise
in the mildest quotes that do: single ones, unless a character in it cannot be
written as it is.

Only the reading back decides. So `true`, `12` and `null` are written plainly,
as no string is told apart by its quotes where a string is expected, and a
string of several lines stands in double quotes and never in a block of its
own.

## Main definitions

* `scalarText`: A string as a scalar.
* `Node.document`: A node as a document.
-/

namespace FieldSchema

namespace Yaml

/-- A colon before a blank, or a hash sign after one, would end a plain scalar. -/
def endsEarly : List Char → Bool
  | [] => false
  | ':' :: rest => blankFollows rest || endsEarly rest
  | ' ' :: '#' :: _ => true
  | _ :: rest => endsEarly rest

/-- The character begins something else than a plain scalar. -/
def isIndicator (c : Char) : Bool :=
  ['-', '?', ':', ',', '[', ']', '\x7b', '\x7d', '#', '&', '*', '!', '|', '>', '\'', '"', '%',
    '@', '\x60'].contains c

/-- The character can stand in quotes as it is. -/
def isQuotable (c : Char) : Bool :=
  isAllowed c && !isBreak c && c != '\r' && c != '\u0085' && c != byteOrderMark

/-- The string reads back as itself if it is written plainly. -/
def isPlain (s : List Char) : Bool :=
  match s with
  | [] => false
  | c :: _ =>
      !isIndicator c && c != ' ' && s.getLast? != some ' ' && !endsEarly s
        && s.all fun c => isQuotable c && c != '\t'

/-- So many hexadecimal digits of a number. -/
def hexText (digits n : Nat) : List Char :=
  let text := Nat.toDigits 16 n
  List.replicate (digits - text.length) '0' ++ text

/-- A character inside double quotes. -/
def escaped (c : Char) : List Char :=
  if c = '"' || c = '\\' then ['\\', c]
  else if c = '\n' then ['\\', 'n']
  else if isQuotable c then [c]
  else if c.toNat < 0x100 then '\\' :: 'x' :: hexText 2 c.toNat
  else if c.toNat < 0x10000 then '\\' :: 'u' :: hexText 4 c.toNat
  else '\\' :: 'U' :: hexText 8 c.toNat

/-- A string as a scalar; one that looks like a number or a truth value is not quoted for that. -/
def scalarText (s : List Char) : List Char :=
  if isPlain s then s
  else if s.all isQuotable then
    '\'' :: s.flatMap (fun c => if c = '\'' then ['\'', '\''] else [c]) ++ ['\'']
  else '"' :: s.flatMap escaped ++ ['"']

/-- A string as the key of a mapping or the value of a scalar. -/
def Node.inlineText : Node → List Char
  | .scalar _ text => scalarText text
  | _ => []

mutual

/-- The value of a key in a column, from after the colon on. -/
def valueText (column : Nat) : Node → List Char
  | .scalar _ text => ' ' :: scalarText text ++ ['\n']
  | .sequence items => if items.isEmpty then " []\n".toList else '\n' :: itemsText column items
  | .mapping entries =>
      if entries.isEmpty then " \x7b\x7d\n".toList else '\n' :: entriesText (column + 2) entries
termination_by structural node => node

/-- The items of a sequence in a column. -/
def itemsText (column : Nat) : List Node → List Char
  | [] => []
  | item :: rest =>
      List.replicate column ' ' ++ '-' :: itemText column item ++ itemsText column rest
termination_by structural items => items

/-- An item of a sequence in a column, from after the dash on. -/
def itemText (column : Nat) : Node → List Char
  | .scalar _ text => ' ' :: scalarText text ++ ['\n']
  | .sequence items =>
      if items.isEmpty then " []\n".toList else '\n' :: itemsText (column + 2) items
  | .mapping entries =>
      if entries.isEmpty then " \x7b\x7d\n".toList
      else ' ' :: (entriesText (column + 2) entries).drop (column + 2)
termination_by structural node => node

/-- The entries of a mapping in a column. -/
def entriesText (column : Nat) : List (Node × Node) → List Char
  | [] => []
  | entry :: rest =>
      List.replicate column ' ' ++ entryText column entry ++ entriesText column rest
termination_by structural entries => entries

/-- An entry of a mapping in a column. -/
def entryText (column : Nat) : Node × Node → List Char
  | (key, value) => key.inlineText ++ ':' :: valueText column value
termination_by structural entry => entry

end

/-- A node as a document. -/
def Node.document : Node → String
  | .scalar _ text => .ofList (scalarText text ++ ['\n'])
  | .sequence items => .ofList (if items.isEmpty then "[]\n".toList else itemsText 0 items)
  | .mapping entries =>
      .ofList (if entries.isEmpty then "\x7b\x7d\n".toList else entriesText 0 entries)

end Yaml

end FieldSchema
