import FieldSchema.Value.Kind

/-!
# Fields

What a field's specification says about its names and its values.

A scalar has one name. An array or a hash has two, the plural under which the
whole is read and the singular under which one item or entry is added, and it
may carry a nested schema from which its items are built.

## Main definitions

* `FieldKind.singular?`: The name of the operation for one item or entry.
* `FieldKind.schema?`: The nested schema.
* `FieldSpec.outline`: What a field shows of itself.
-/

namespace FieldSchema

namespace FieldKind

/-- The name of the shape. -/
def name : FieldKind → String
  | .scalar _ => "scalar"
  | .array _ _ _ _ => "array"
  | .hash _ _ _ _ => "hash"

/-- The name of the operation for one item or entry. -/
def singular? : FieldKind → Option String
  | .scalar _ => none
  | .array singular _ _ _ => some singular
  | .hash singular _ _ _ => some singular

/-- The schema nested in the field. -/
def schema? : FieldKind → Option SubSchema
  | .scalar _ => none
  | .array _ _ schema _ => schema
  | .hash _ _ _ schema => schema

end FieldKind

namespace FieldSpec

/-- The name of the operation for one item or entry. -/
def singular? (spec : FieldSpec) : Option String :=
  spec.kind.singular?

/-- The field builds its items from a nested schema. -/
def isNested (spec : FieldSpec) : Bool :=
  spec.kind.schema?.isSome

/-- What the field shows of itself: its names and its shape, and whether there is code. -/
def outline (spec : FieldSpec) : FieldOutline where
  name := spec.name
  kind := spec.kind.name
  singular := spec.singular?
  nested := spec.isNested
  validated := spec.validation.isSome
  calledBack := spec.callback.isSome

end FieldSpec

end FieldSchema
