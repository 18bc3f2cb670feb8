/-!
# Maps by Name

Finite maps from names, kept in the order of the names.

The operations and the stored values of a host are such maps, and their order
shows in every listing. A list of entries sorted by name, each name once, has
that order for free and is small enough to be searched from the front.

## Main definitions

* `NameMap`: A list of named entries.
* `NameMap.get?`: The entry under a name.
* `NameMap.insert`: The map with one entry added or replaced.
* `NameMap.names`: The names in order.
-/

namespace FieldSchema

/-- Entries sorted by name, each name once. -/
abbrev NameMap (α : Type) := List (String × α)

namespace NameMap

variable {α : Type}

/-- The entry under a name. -/
def get? (map : NameMap α) (name : String) : Option α :=
  map.lookup name

/-- There is an entry under the name. -/
def contains (map : NameMap α) (name : String) : Bool :=
  (map.get? name).isSome

/-- The map with one entry added, or replaced if there is one under the name. -/
def insert (name : String) (entry : α) : NameMap α → NameMap α
  | [] => [(name, entry)]
  | (other, kept) :: rest =>
      if name = other then (name, entry) :: rest
      else if name < other then (name, entry) :: (other, kept) :: rest
      else (other, kept) :: insert name entry rest

/-- The names in order. -/
def names (map : NameMap α) : List String :=
  map.map (·.1)

end NameMap

end FieldSchema
