import FieldSchema.Yaml.Node
import FieldSchema.Yaml.Scalar

/-!
# Reading Documents

The node that the text of a document describes.

Documents are made of mappings and sequences, laid out by indentation or
written between brackets, and of scalars. A text may hold one document. The
reader knows neither anchors, tags and directives nor the block forms of
scalars, and refuses them.

Indentation works by columns. The entries of a mapping begin in one column,
as do the items of a sequence, and whatever belongs to an entry lies further
to the right; only the dashes of a sequence that is the value of a key may
stand in the column of the key. A mapping or a sequence can begin at the
start of a line or after a dash, but not after a key on the same line. A key
stands on one line.

What follows a node is looked at only to see that the node ends there, and is
left for whatever encloses the node.

## Main definitions

* `Document`: A node, or nothing at all.
* `parse?`: The document that a text describes.
-/

namespace FieldSchema

namespace Yaml

mutual

/--
Reads an item inside brackets: a scalar or brackets again. Indentation does not end it, but the
indentation of what stands around the brackets may not be written with tabs.
-/
def flowNode? (least : Nat) : Nat → Cursor → Option (Node × Cursor)
  | 0, _ => none
  | fuel + 1, c =>
      if c.atMarker then none
      else
        match c.rest with
        | '[' :: _ => flowItems? least fuel [] (c.advance 1)
        | '\x7b' :: _ => flowEntries? least fuel [] (c.advance 1)
        | '\'' :: rest =>
            (singleQuotedFrom [] .none rest (c.column + 1)).map fun (text, c) =>
              (.scalar true text, c)
        | '"' :: rest =>
            (doubleQuotedFrom .text [] .none rest (c.column + 1)).map fun (text, c) =>
              (.scalar true text, c)
        | _ => (plain? true least c).map fun (text, c) => (.scalar false text, c)
termination_by structural fuel => fuel

/-- Reads the value of a key inside brackets, if a colon stands on the line of the key. -/
def flowValue? (least : Nat) : Nat → Cursor → Cursor → Option (Option Node × Cursor)
  | 0, _, _ => none
  | fuel + 1, key, afterKey =>
      match afterKey.rest with
      | ':' :: _ =>
          if !key.spansKey afterKey then none
          else
            let c := (afterKey.advance 1).skip true false
            match c.rest with
            | ',' :: _ => some (some .missing, c)
            | ']' :: _ => some (some .missing, c)
            | '\x7d' :: _ => some (some .missing, c)
            | _ => (flowNode? least fuel c).map fun (node, c) => (some node, c.skip true false)
      | _ => some (none, afterKey)
termination_by structural fuel => fuel

/-- Reads the items of a sequence in brackets, after the opening bracket or a comma. -/
def flowItems? (least : Nat) : Nat → List Node → Cursor → Option (Node × Cursor)
  | 0, _, _ => none
  | fuel + 1, items, c =>
      let c := c.skip true false
      match c.rest with
      | ']' :: _ => some (.sequence items.reverse, c.advance 1)
      | _ =>
          match flowNode? least fuel c with
          | none => none
          | some (key, afterKey) =>
              match flowValue? least fuel c (afterKey.skip true false) with
              | none => none
              | some (value, c) =>
                  let item :=
                    match value with
                    | some value => .mapping [(key, value)]
                    | none => key
                  match c.rest with
                  | ',' :: _ => flowItems? least fuel (item :: items) (c.advance 1)
                  | ']' :: _ => some (.sequence (item :: items).reverse, c.advance 1)
                  | _ => none
termination_by structural fuel => fuel

/-- Reads the entries of a mapping in braces, after the opening brace or a comma. -/
def flowEntries? (least : Nat) : Nat → List (Node × Node) → Cursor → Option (Node × Cursor)
  | 0, _, _ => none
  | fuel + 1, entries, c =>
      let c := c.skip true false
      match c.rest with
      | '\x7d' :: _ => some (.mapping entries.reverse, c.advance 1)
      | _ =>
          match flowNode? least fuel c with
          | none => none
          | some (key, afterKey) =>
              match flowValue? least fuel c (afterKey.skip true false) with
              | none => none
              | some (value, c) =>
                  let entry := (key, value.getD .missing)
                  match c.rest with
                  | ',' :: _ => flowEntries? least fuel (entry :: entries) (c.advance 1)
                  | '\x7d' :: _ => some (.mapping (entry :: entries).reverse, c.advance 1)
                  | _ => none
termination_by structural fuel => fuel

end

/-- Reads a scalar or brackets outside of brackets. -/
def atom? (fuel least : Nat) (c : Cursor) : Option (Node × Cursor) :=
  match c.rest with
  | '[' :: _ => flowNode? least fuel c
  | '\x7b' :: _ => flowNode? least fuel c
  | '\'' :: _ => flowNode? least fuel c
  | '"' :: _ => flowNode? least fuel c
  | _ => (plain? false least c).map fun (text, c) => (.scalar false text, c)

/-- Reads a key on one line, and returns the cursor after its colon. -/
def key? (fuel least : Nat) (c : Cursor) : Option (Node × Cursor) :=
  match atom? fuel least c with
  | none => none
  | some (key, afterKey) =>
      let colon := afterKey.skipBlanks
      if colon.atColon && c.spansKey colon then some (key, colon.advance 1) else none

mutual

/--
Reads a node whose further lines are indented at least so far. A mapping or a sequence in block
form can begin here only if nothing but dashes precedes on the line.
-/
def block? : Nat → Nat → Bool → Cursor → Option (Node × Cursor)
  | 0, _, _, _ => none
  | fuel + 1, least, fresh, c =>
      if c.atDash then
        if fresh then blockItems? fuel c.column false [] c else none
      else
        match atom? fuel least c with
        | none => none
        | some (node, after) =>
            let colon := after.skipBlanks
            if colon.atColon then
              if fresh && c.spansKey colon then
                blockEntries? fuel c.column [] node (colon.advance 1)
              else none
            else some (node, after)
termination_by structural fuel => fuel

/-- Reads the value of a key in a column, from after the colon. -/
def blockValue? : Nat → Nat → Cursor → Option (Node × Cursor)
  | 0, _, _ => none
  | fuel + 1, column, afterColon =>
      let c := afterColon.skip false false
      if c.atEnd then some (.missing, afterColon)
      -- On the line of the key, no mapping or sequence in block form can begin.
      else if !afterColon.crosses c then block? fuel (column + 1) false c
      else if column < c.column then block? fuel (column + 1) true c
      else if c.column = column && c.atDash then blockItems? fuel column true [] c
      else some (.missing, afterColon)
termination_by structural fuel => fuel

/-- Reads the entries of a mapping in a column, from after the colon of a key on. -/
def blockEntries? :
    Nat → Nat → List (Node × Node) → Node → Cursor → Option (Node × Cursor)
  | 0, _, _, _, _ => none
  | fuel + 1, column, entries, key, afterColon =>
      match blockValue? fuel column afterColon with
      | none => none
      | some (value, after) =>
          let entries := (key, value) :: entries
          let c := after.skip false false
          if c.atEnd || c.column < column then some (.mapping entries.reverse, after)
          else if column < c.column || c.atDash then none
          else
            match key? fuel (column + 1) c with
            | none => none
            | some (key, afterColon) => blockEntries? fuel column entries key afterColon
termination_by structural fuel => fuel

/--
Reads the items of a sequence in a column, from a dash on. Where the sequence is the value of a
key in the same column, it ends at the next key.
-/
def blockItems? : Nat → Nat → Bool → List Node → Cursor → Option (Node × Cursor)
  | 0, _, _, _, _ => none
  | fuel + 1, column, beneathKey, items, dash =>
      let afterDash := dash.advance 1
      let c := afterDash.skip false true
      let read :=
        if c.atEnd then some (.missing, afterDash)
        -- After a dash everything can begin, on its line or further to the right.
        else if !dash.crosses c || column < c.column then block? fuel (column + 1) true c
        else some (.missing, afterDash)
      match read with
      | none => none
      | some (item, after) =>
          let items := item :: items
          let c := after.skip false false
          if c.atEnd || c.column < column then some (.sequence items.reverse, after)
          else if column < c.column then none
          else if c.atDash then blockItems? fuel column beneathKey items c
          else if beneathKey then some (.sequence items.reverse, after)
          else none
termination_by structural fuel => fuel

end

/-- A text with every line break written the same way. -/
def unifyBreaks : List Char → List Char
  | [] => []
  | '\r' :: '\n' :: rest => '\n' :: unifyBreaks rest
  | c :: rest => (if c = '\r' || c = '\u0085' then '\n' else c) :: unifyBreaks rest

/-- Passes over the lines that close a document. -/
def skipClosing : Nat → Cursor → Cursor
  | 0, c => c
  | fuel + 1, c =>
      match c.atMarker, c.rest with
      | true, '.' :: _ => skipClosing fuel ((c.advance 3).skip false false)
      | _, _ => c

/-- Reads the node of a document, from after the line that opens it, if there is one. -/
def root? (fuel : Nat) (c : Cursor) : Option (Option Node × Cursor) :=
  match c.atMarker, c.rest with
  | true, '-' :: _ =>
      let start := c.advance 3
      let c := start.skip false false
      if c.atEnd then some (some .missing, c)
      else (block? fuel 0 (start.crosses c) c).map fun (node, c) => (some node, c)
  | true, _ => none
  | false, [] => some (none, c)
  | false, _ => (block? fuel 0 true c).map fun (node, c) => (some node, c)

/-- The node of the one document in a text; a text of blanks and comments holds none. -/
def parse? (text : String) : Option (Option Node) :=
  let chars := text.toList
  if chars.all isAllowed then
    let rest := unifyBreaks chars
    let fuel := 4 * rest.length + 8
    match root? fuel ((Cursor.mk rest 0).skip false true) with
    | none => none
    | some (node, c) =>
        if (skipClosing fuel (c.skip false false)).rest.isEmpty then some node else none
  else none

end Yaml

end FieldSchema
