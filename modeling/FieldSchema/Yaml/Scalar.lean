/-!
# Reading Scalars

Where scalars end, and the text they stand for.

A scalar may go on over several lines. The white space around a line break is
dropped; one line break counts as a space, and of more than one all but the
first are kept. In a plain scalar a line counts as a continuation only if it
is indented far enough, or inside brackets; a colon before a blank, and a
hash sign after one, end it.

A cursor is the text that is left together with its column, because columns
are what the structure of a document is made of. A byte order mark may begin
any line, where it is passed over but takes up a column; inside a scalar it is
a character like any other.

## Main definitions

* `Cursor`: The text that is left, and its column.
* `Cursor.skip`: Passes over blanks, comments and line breaks.
* `plain?`, `singleQuoted?`, `doubleQuoted?`: Read one scalar.
-/

namespace FieldSchema

namespace Yaml

/-- A space or a tab. -/
def isBlank (c : Char) : Bool :=
  c == ' ' || c == '\t'

/-- A line break. -/
def isBreak (c : Char) : Bool :=
  c == '\n' || c == '\u2028' || c == '\u2029'

/-- The mark that may begin a line. -/
def byteOrderMark : Char := '\ufeff'

/-- A character that documents may hold as it is. -/
def isAllowed (c : Char) : Bool :=
  let n := c.toNat
  n == 0x9 || n == 0xA || n == 0xD || (0x20 ≤ n && n ≤ 0x7E) || n == 0x85
    || (0xA0 ≤ n && n ≤ 0xD7FF) || (0xE000 ≤ n && n ≤ 0xFFFD) || 0x10000 ≤ n

/-- The text is at its end, or goes on with a blank or a line break. -/
def blankFollows : List Char → Bool
  | [] => true
  | c :: _ => isBlank c || isBreak c

/-- A character that has a meaning of its own inside brackets. -/
def isFlowMark (c : Char) : Bool :=
  c == ',' || c == '[' || c == ']' || c == '\x7b' || c == '\x7d'

/-- The text that is left, and its column. -/
structure Cursor where
  rest : List Char
  column : Nat

namespace Cursor

/-- At the start of a line that separates documents. -/
def atMarker (c : Cursor) : Bool :=
  c.column == 0 &&
    match c.rest with
    | '-' :: '-' :: '-' :: rest => blankFollows rest
    | '.' :: '.' :: '.' :: rest => blankFollows rest
    | _ => false

/-- At the end of the document. -/
def atEnd (c : Cursor) : Bool :=
  c.rest.isEmpty || c.atMarker

/-- At a dash that begins an item. -/
def atDash (c : Cursor) : Bool :=
  match c.rest with
  | '-' :: rest => blankFollows rest
  | _ => false

/-- At a colon that ends a key. -/
def atColon (c : Cursor) : Bool :=
  match c.rest with
  | ':' :: rest => blankFollows rest
  | _ => false

/-- So many characters later on the same line. -/
def advance (c : Cursor) (n : Nat) : Cursor :=
  ⟨c.rest.drop n, c.column + n⟩

/--
Passes over blanks, comments and line breaks. A tab counts as a blank inside brackets and after
something on its line, but not where a line or an item begins.
-/
def skipFrom (flow : Bool) : Bool → Bool → List Char → Nat → Cursor
  | _, _, [], column => ⟨[], column⟩
  | comment, fresh, c :: rest, column =>
      -- A line break ends a comment, and outside of brackets begins a fresh line.
      if isBreak c then skipFrom flow false (fresh || !flow) rest 0
      else if comment then skipFrom flow true fresh rest (column + 1)
      else if c = ' ' || (c = '\t' && (flow || !fresh)) then
        skipFrom flow false fresh rest (column + 1)
      else if c = '#' then skipFrom flow true fresh rest (column + 1)
      else if c = byteOrderMark && column = 0 then skipFrom flow false fresh rest 1
      else ⟨c :: rest, column⟩

/-- Passes over blanks, comments and line breaks. -/
def skip (c : Cursor) (flow fresh : Bool) : Cursor :=
  skipFrom flow false fresh c.rest c.column

/-- Passes over the blanks on the same line. -/
def skipBlanks (c : Cursor) : Cursor :=
  c.advance (c.rest.takeWhile isBlank).length

/-- The text between an earlier cursor and a later one. -/
def textUpTo (start stop : Cursor) : List Char :=
  start.rest.take (start.rest.length - stop.rest.length)

/-- A line break lies between an earlier cursor and a later one. -/
def crosses (start stop : Cursor) : Bool :=
  (start.textUpTo stop).any isBreak

/-- The most bytes that a key may take up. -/
def mostKeyBytes : Nat := 1024

/-- A key may begin at one cursor and its colon stand at the other: on one line, and not too far. -/
def spansKey (start colon : Cursor) : Bool :=
  let key := start.textUpTo colon
  !key.any isBreak && (String.ofList key).utf8ByteSize ≤ mostKeyBytes

end Cursor

/--
White space inside a scalar that has not yet turned out to belong to it, the latest first. A first
line break that was escaped is not among the breaks, but is remembered.
-/
structure Gap where
  blanks : List Char
  breaks : List Char
  escaped : Bool

namespace Gap

/-- No white space. -/
def none : Gap := ⟨[], [], false⟩

/-- A line break that was escaped. -/
def escapedBreak : Gap := ⟨[], [], true⟩

/-- A line break was passed. -/
def isBroken (g : Gap) : Bool :=
  g.escaped || !g.breaks.isEmpty

/-- Nothing was passed. -/
def isNone (g : Gap) : Bool :=
  g.blanks.isEmpty && !g.isBroken

/-- One more blank; the blanks after a line break are dropped. -/
def blank (g : Gap) (c : Char) : Gap :=
  if g.isBroken then g else { g with blanks := c :: g.blanks }

/-- One more line break; the blanks before it are dropped. -/
def newline (g : Gap) (c : Char) : Gap :=
  { g with blanks := [], breaks := c :: g.breaks }

/-- What the white space stands for, the latest character first. -/
def folded (g : Gap) : List Char :=
  if !g.isBroken then g.blanks
  else if g.escaped then g.breaks
  else
    -- The earliest break stands last.
    match g.breaks with
    | ['\n'] => [' ']
    | breaks => if breaks.getLast? = some '\n' then breaks.dropLast else breaks

end Gap

/--
Reads on in a plain scalar, given its text so far, latest first, and the white space after that.
Inside brackets a colon may not stand directly before a bracket or a comma, and nowhere may a tab
stand in the indentation of a further line. The white space after the scalar is passed over.
-/
def plainFrom (flow : Bool) (least : Nat) :
    List Char → Gap → List Char → Nat → Option (List Char × Cursor)
  | text, _, [], column => some (text.reverse, ⟨[], column⟩)
  | text, gap, c :: rest, column =>
      let indenting := gap.isBroken && column < least
      if isBreak c then plainFrom flow least text (gap.newline c) rest 0
      else if isBlank c then
        if c = '\t' && indenting then none
        else plainFrom flow least text (gap.blank c) rest (column + 1)
      else if (!gap.isNone && c = '#')
          || (indenting && !flow)
          || Cursor.atMarker ⟨c :: rest, column⟩
          || (c = ':' && blankFollows rest)
          || (flow && isFlowMark c) then
        some (text.reverse, ⟨c :: rest, column⟩)
      else if flow && c = ':' && (rest.head?.any fun d => isFlowMark d || d == '?') then none
      else plainFrom flow least (c :: (gap.folded ++ text)) .none rest (column + 1)

/-- The character can begin a plain scalar. -/
def beginsPlain (flow : Bool) : List Char → Bool
  | [] => false
  | c :: rest =>
      if c = '-' then !blankFollows rest
      else if c = '?' || c = ':' then !flow && !blankFollows rest
      else
        !(isBlank c || isBreak c || isFlowMark c
          || ['#', '&', '*', '!', '|', '>', '\'', '"', '%', '@', '\x60'].contains c)

/-- Reads a plain scalar whose further lines are indented at least so far. -/
def plain? (flow : Bool) (least : Nat) (c : Cursor) : Option (List Char × Cursor) :=
  if beginsPlain flow c.rest then plainFrom flow least [] .none c.rest c.column else none

/-- Reads a scalar after its opening single quote. -/
def singleQuotedFrom : List Char → Gap → List Char → Nat → Option (List Char × Cursor)
  | _, _, [], _ => none
  | text, gap, c :: rest, column =>
      if Cursor.atMarker ⟨c :: rest, column⟩ then none
      else if isBreak c then singleQuotedFrom text (gap.newline c) rest 0
      else if isBlank c then singleQuotedFrom text (gap.blank c) rest (column + 1)
      else
        let text := gap.folded ++ text
        if c = '\'' then
          match rest with
          | '\'' :: rest => singleQuotedFrom ('\'' :: text) .none rest (column + 2)
          | _ => some (text.reverse, ⟨rest, column + 1⟩)
        else singleQuotedFrom (c :: text) .none rest (column + 1)

/-- The value of a hexadecimal digit. -/
def hexDigit? (c : Char) : Option Nat :=
  if c.isDigit then some (c.toNat - '0'.toNat)
  else if 'a' ≤ c && c ≤ 'f' then some (c.toNat - 'a'.toNat + 10)
  else if 'A' ≤ c && c ≤ 'F' then some (c.toNat - 'A'.toNat + 10)
  else none

/-- The character with a code point given by so many hexadecimal digits. -/
def hexEscape? (digits : Nat) (rest : List Char) : Option Char :=
  if rest.length < digits then none
  else do
    let values ← (rest.take digits).mapM hexDigit?
    let n := values.foldl (fun n d => 16 * n + d) 0
    if n.isValidChar then some (Char.ofNat n) else none

/-- The character that a letter after a backslash stands for. -/
def letterEscape? (c : Char) : Option Char :=
  match c with
  | '0' => some '\x00'
  | 'a' => some '\x07'
  | 'b' => some '\x08'
  | 't' => some '\t'
  | '\t' => some '\t'
  | 'n' => some '\n'
  | 'v' => some '\x0b'
  | 'f' => some '\x0c'
  | 'r' => some '\r'
  | 'e' => some '\x1b'
  | ' ' => some ' '
  | '"' => some '"'
  | '/' => some '/'
  | '\\' => some '\\'
  | 'N' => some '\u0085'
  | '_' => some '\u00a0'
  | 'L' => some '\u2028'
  | 'P' => some '\u2029'
  | _ => none

/-- The number of hexadecimal digits that a letter after a backslash announces. -/
def hexDigits? (c : Char) : Option Nat :=
  match c with
  | 'x' => some 2
  | 'u' => some 4
  | 'U' => some 8
  | _ => none

/-- Where a double-quoted scalar is. -/
inductive QuoteMode where
  /-- In the text. -/
  | text
  /-- In the digits of an escape, so many of which are still to be passed. -/
  | digits (left : Nat)
  /-- After a backslash. -/
  | escape

/-- Reads a scalar after its opening double quote. -/
def doubleQuotedFrom :
    QuoteMode → List Char → Gap → List Char → Nat → Option (List Char × Cursor)
  | _, _, _, [], _ => none
  | .digits (left + 1), text, gap, _ :: rest, column =>
      doubleQuotedFrom (.digits left) text gap rest (column + 1)
  | .escape, text, gap, c :: rest, column =>
      if isBreak c then doubleQuotedFrom .text text .escapedBreak rest 0
      else
        match letterEscape? c, hexDigits? c with
        | some d, _ => doubleQuotedFrom .text (d :: text) gap rest (column + 1)
        | none, some digits =>
            match hexEscape? digits rest with
            | some d => doubleQuotedFrom (.digits digits) (d :: text) gap rest (column + 1)
            | none => none
        | none, none => none
  | _, text, gap, c :: rest, column =>
      if Cursor.atMarker ⟨c :: rest, column⟩ then none
      else if isBreak c then doubleQuotedFrom .text text (gap.newline c) rest 0
      else if isBlank c then doubleQuotedFrom .text text (gap.blank c) rest (column + 1)
      else
        let text := gap.folded ++ text
        if c = '"' then some (text.reverse, ⟨rest, column + 1⟩)
        else if c = '\\' then doubleQuotedFrom .escape text .none rest (column + 1)
        else doubleQuotedFrom .text (c :: text) .none rest (column + 1)

end Yaml

end FieldSchema
