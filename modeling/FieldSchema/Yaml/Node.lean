/-!
# Document Nodes

What a configuration document holds, before anything is known of its meaning.

A scalar is kept as text together with whether it was quoted, because only a
plain scalar can stand for a truth value or for the absence of a value. The
readers below give meaning to nodes. A record is a mapping: what it does not
know it ignores, a key that it knows may occur once, and where a value is
missing altogether an empty record or an empty list is meant.

## Main definitions

* `Node`: A scalar, a sequence or a mapping.
* `Node.record?`: The fields of a record.
* `Node.text?`, `Node.boolean?`, `Node.items?`: Readings of a node.
-/

namespace FieldSchema

namespace Yaml

/-- A scalar, a sequence or a mapping. -/
inductive Node where
  | scalar (quoted : Bool) (text : List Char)
  | sequence (items : List Node)
  | mapping (entries : List (Node × Node))

instance : Inhabited Node := ⟨.scalar false []⟩

namespace Node

/-- The node where a value is missing. -/
def missing : Node := .scalar false []

/-- The text of a scalar, however it is written. -/
def text? : Node → Option String
  | .scalar _ text => some (.ofList text)
  | _ => none

/-- The truth value that a plain scalar names. -/
def boolean? : Node → Option Bool
  | .scalar false text =>
      if ["true", "True", "TRUE"].contains (String.ofList text) then some true
      else if ["false", "False", "FALSE"].contains (String.ofList text) then some false
      else none
  | _ => none

/-- A plain scalar that stands for no value. -/
def isNull : Node → Bool
  | .scalar false text => ["", "~", "null", "Null", "NULL"].contains (String.ofList text)
  | _ => false

/-- The items of a sequence; none where it is missing. -/
def items? : Node → Option (List Node)
  | .sequence items => some items
  | .scalar false [] => some []
  | _ => none

/-- The entries of a mapping; none where it is missing. -/
def entries? : Node → Option (List (Node × Node))
  | .mapping entries => some entries
  | .scalar false [] => some []
  | _ => none

/-- The fields of a record with the known keys, unless one occurs twice or a key is no scalar. -/
def record? (known : List String) (node : Node) : Option (List (String × Node)) := do
  let entries ← node.entries?
  let named ← entries.mapM fun entry => entry.1.text?.map fun key => (key, entry.2)
  let fields := named.filter fun field => known.contains field.1
  if (fields.map (·.1)).Nodup then some fields else none

/-- The reading of a field that may be left out. -/
def field? {α : Type} (fields : List (String × Node)) (key : String) (read : Node → Option α)
    (default : α) : Option α :=
  match fields.lookup key with
  | some node => read node
  | none => some default

/-- The text of a field that must be there. -/
def requiredText? (fields : List (String × Node)) (key : String) : Option String :=
  (fields.lookup key).bind text?

end Node

end Yaml

end FieldSchema
