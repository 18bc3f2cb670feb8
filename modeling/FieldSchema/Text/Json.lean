/-!
# Strings in JSON

How a string is written in a JSON document.

Only what must be escaped is: the quotation mark, the backslash and the
control characters below the space, five of which have letters of their own.

## Main definitions

* `jsonQuoted`: A string as a JSON string.
-/

namespace FieldSchema

namespace Text

/-- A control character by its code point, with four hexadecimal digits. -/
def jsonControl (c : Char) : List Char :=
  let digits := Nat.toDigits 16 c.toNat
  ['\\', 'u'] ++ List.replicate (4 - digits.length) '0' ++ digits

/-- A character inside a JSON string. -/
def jsonEscape (c : Char) : List Char :=
  if c = '"' then ['\\', '"']
  else if c = '\\' then ['\\', '\\']
  else if c = '\x08' then ['\\', 'b']
  else if c = '\t' then ['\\', 't']
  else if c = '\n' then ['\\', 'n']
  else if c = '\x0c' then ['\\', 'f']
  else if c = '\r' then ['\\', 'r']
  else if c.toNat < 0x20 then jsonControl c
  else [c]

/-- A string as a JSON string. -/
def jsonQuoted (s : List Char) : List Char :=
  '"' :: s.flatMap jsonEscape ++ ['"']

end Text

end FieldSchema
