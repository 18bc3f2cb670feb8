import FieldSchema.Field
import FieldSchema.Host

/-!
# Definitions

A finished schema, and how it is put on a host.

A definition holds nothing of the hosts it is put on, so it can be put on any
number of them. Its operations replace those of the host under the same
names. The operation that renders the host goes first, so a field that is
named like it prevails.

## Main definitions

* `Definition`: Fields and the operations made for them.
* `Definition.attachTo`: Puts the operations on a host.
* `Definition.instantiate`: A new host with the operations.
-/

namespace FieldSchema

/-- Fields in the order of declaration, the operations made for them, and whether hosts render. -/
structure Definition where
  fields : List FieldSpec
  operations : List (String × Operation)
  inspectable : Bool

namespace Definition

/-- The field with a name. -/
def field? (d : Definition) (name : String) : Option FieldSpec :=
  d.fields.find? fun spec => spec.name == name

/-- The names of the operations in order. -/
def operationNames (d : Definition) : List String :=
  NameMap.names d.operations

/-- The name of the operation that renders a host. -/
def inspectName : String := "inspect"

/-- The host with the operations installed, and first the one that renders it if so asked. -/
def attachWith (d : Definition) (inspectable : Bool) (h : Host) : Host :=
  let h := if inspectable then h.install inspectName .inspect else h
  d.operations.foldl (fun h op => h.install op.1 op.2) h

/-- The host with the operations installed as the definition itself says. -/
def attachTo (d : Definition) (h : Host) : Host :=
  d.attachWith d.inspectable h

/-- A new host with the operations. -/
def instantiate (d : Definition) : Host :=
  d.attachTo .empty

end Definition

end FieldSchema
