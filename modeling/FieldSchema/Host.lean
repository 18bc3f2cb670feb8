import FieldSchema.Value.Equality

/-!
# Hosts

What a host can be asked, and how its operations and its store change.

The store is created by the first write, so a host that was only read from
cannot be told from a new one. A slot that does not exist reads as nothing,
which is not the same as a slot that holds nil.

## Main definitions

* `Host.install`: Puts an operation under a name.
* `Host.stored?`: The value in a slot.
* `Host.write`: Puts a value into a slot.
-/

namespace FieldSchema

namespace Host

/-- The host with an operation under a name, in place of any other. -/
def install (h : Host) (name : String) (operation : Operation) : Host :=
  { h with operations := NameMap.insert name operation h.operations }

/-- The operation under a name. -/
def operation? (h : Host) (name : String) : Option Operation :=
  NameMap.get? h.operations name

/-- There is an operation under the name. -/
def respondsTo (h : Host) (name : String) : Bool :=
  NameMap.contains h.operations name

/-- The names of the operations in order. -/
def operationNames (h : Host) : List String :=
  NameMap.names h.operations

/-- The value in a slot. -/
def stored? (h : Host) (name : String) : Option Value :=
  h.store.bind fun store => NameMap.get? store name

/-- The value in a slot, nil if there is none. -/
def stored (h : Host) (name : String) : Value :=
  (h.stored? name).getD .nil

/-- The host with a value in a slot. -/
def write (h : Host) (name : String) (value : Value) : Host :=
  { h with store := some (NameMap.insert name value (h.store.getD [])) }

end Host

end FieldSchema
