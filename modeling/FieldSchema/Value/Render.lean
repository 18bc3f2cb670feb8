import FieldSchema.Text.Quoted
import FieldSchema.Value.Basic

/-!
# Rendering

Values and hosts as people read them.

Strings are quoted and atoms begin with a colon, so the kinds stay apart.
Lists and maps are bracketed, and a host shows its stored values in the order
of their names. Two things are lost on purpose: all callables look alike, and
a host does not show its operations, nor whether an empty store was ever
created.

## Main definitions

* `Value.render`: A value as text.
* `Host.render`: A host as text.
-/

namespace FieldSchema

/-- Pieces of text with a comma and a space between them. -/
def commaSeparated (pieces : List (List Char)) : List Char :=
  List.intercalate [',', ' '] pieces

mutual

/-- A value as text. -/
def Value.render : Value → List Char
  | .nil => "nil".toList
  | .string text => Text.quoted text.toList
  | .atom name => ':' :: name.toList
  | .number n => n.text
  | .boolean b => (if b then "true" else "false").toList
  | .callable _ => "#<callable>".toList
  | .list items => '[' :: commaSeparated (renderItems items) ++ [']']
  | .map mapping => mapping.render
  | .nested host => host.render
termination_by structural v => v

/-- The values of a list as text. -/
def renderItems : List Value → List (List Char)
  | [] => []
  | v :: rest => v.render :: renderItems rest
termination_by structural vs => vs

/-- A map as text. -/
def Mapping.render : Mapping → List Char
  | ⟨entries⟩ => '\x7b' :: commaSeparated (renderEntries entries) ++ ['\x7d']
termination_by structural m => m

/-- The entries of a map as text. -/
def renderEntries : List (Value × Value) → List (List Char)
  | [] => []
  | entry :: rest => renderEntry entry :: renderEntries rest
termination_by structural entries => entries

/-- An entry of a map as text. -/
def renderEntry : Value × Value → List Char
  | (k, v) => k.render ++ " => ".toList ++ v.render
termination_by structural entry => entry

/-- A host as text. -/
def Host.render : Host → List Char
  | ⟨_, store⟩ => "#<Host".toList ++ renderStore store ++ ['>']
termination_by structural h => h

/-- What a host stores, as text; nothing if it never stored anything. -/
def renderStore : Option (List (String × Value)) → List Char
  | none => []
  | some store => renderFields store
termination_by structural store => store

/-- Stored values as text, each after a space. -/
def renderFields : List (String × Value) → List Char
  | [] => []
  | field :: rest => renderField field ++ renderFields rest
termination_by structural fields => fields

/-- A stored value as text. -/
def renderField : String × Value → List Char
  | (name, v) => ' ' :: name.toList ++ '=' :: v.render
termination_by structural field => field

end

/-- A value as a string. -/
def Value.toText (v : Value) : String :=
  .ofList v.render

/-- A host as a string. -/
def Host.toText (h : Host) : String :=
  .ofList h.render

end FieldSchema
