import FieldSchema.Text.Visible

/-!
# Quoted Text

How a string is written between quotation marks.

Quotation marks and backslashes are escaped, the usual control characters
have their letters, and every other character that cannot stand for itself is
written by its code point in hexadecimal. All that remains is written as it
is, so a quotation ends at the first mark that no backslash precedes.

## Main definitions

* `escape`: The written form of one character.
* `quoted`: The written form of a text.
-/

namespace FieldSchema

namespace Text

/-- The written form of one character inside quotation marks. -/
def escape (c : Char) : List Char :=
  if c = '"' then ['\\', '"']
  else if c = '\\' then ['\\', '\\']
  else if c = '\n' then ['\\', 'n']
  else if c = '\r' then ['\\', 'r']
  else if c = '\t' then ['\\', 't']
  else if c = '\x00' then ['\\', '0']
  else if extendsGrapheme c || isInvisible c then
    ['\\', 'u', '\x7b'] ++ Nat.toDigits 16 c.toNat ++ ['\x7d']
  else [c]

/-- The written form of a text, in quotation marks. -/
def quoted (s : List Char) : List Char :=
  '"' :: s.flatMap escape ++ ['"']

end Text

end FieldSchema
