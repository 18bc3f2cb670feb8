/-!
# Options

The choices that hold for all the fields of a schema, and for the schemas
nested in it.

## Main definitions

* `ItemCallback`: What the callback of an array is given for one item.
* `SubSchemaPolicy`: When the definition of a nested schema is made.
* `Options`: All choices together.
-/

namespace FieldSchema

/-- What the callback of an array is given for one item: a list of one, or the item itself. -/
inductive ItemCallback where
  | wrapped
  | bare
deriving DecidableEq

/-- When the definition of a nested schema is made: once, at its first use, or at every use. -/
inductive SubSchemaPolicy where
  | cached
  | rebuild
deriving DecidableEq

/-- The choices that hold for all the fields of a schema. -/
structure Options where
  inspectable : Bool := false
  itemCallback : ItemCallback := .wrapped
  subSchemas : SubSchemaPolicy := .cached
deriving DecidableEq

end FieldSchema
