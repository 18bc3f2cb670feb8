import FieldSchema.Value.Equality

/-!
# The Values of Literals

What a literal stands for among named hosts.

The entries of a map are inserted in the order in which they are written, so a
key that is written twice has its place from the first time and its value from
the last. A name that no host has stands for a host without operations that
stores nothing.

## Main definitions

* `Literal.value`: The value that a literal stands for.
-/

namespace FieldSchema

/-- The host with a name, an empty one if there is none. -/
def Host.named (hosts : NameMap Host) (name : String) : Host :=
  (hosts.get? name).getD .empty

mutual

/-- The value that a literal stands for among named hosts. -/
def Literal.value (hosts : NameMap Host) : Literal → Value
  | .nil => .nil
  | .string text => .string text
  | .atom name => .atom name
  | .number n => .number n
  | .boolean b => .boolean b
  | .callable name => .callable name
  | .list items => .list (literalValues hosts items)
  | .map entries => .map (.ofList (literalEntries hosts entries))
  | .host name => .nested (.named hosts name)
termination_by structural literal => literal

/-- The values of literals in order. -/
def literalValues (hosts : NameMap Host) : List Literal → List Value
  | [] => []
  | item :: rest => item.value hosts :: literalValues hosts rest
termination_by structural items => items

/-- The keys and values of literal entries in order. -/
def literalEntries (hosts : NameMap Host) : List (Literal × Literal) → List (Value × Value)
  | [] => []
  | entry :: rest => literalEntry hosts entry :: literalEntries hosts rest
termination_by structural entries => entries

/-- The key and the value of a literal entry. -/
def literalEntry (hosts : NameMap Host) : Literal × Literal → Value × Value
  | (key, value) => (key.value hosts, value.value hosts)
termination_by structural entry => entry

end

end FieldSchema
