import FieldSchema.Definition
import FieldSchema.Fault
import FieldSchema.Text.CharClass

/-!
# Declaring Fields

How declarations become a definition.

A generator collects the fields declared so far and the operations made for
them. A declaration either adds one field together with all its operations,
or is refused with the first condition it violates and adds nothing. The
conditions are checked in a fixed order: the name must not be blank or taken;
a plural name must have a singular form, which must not be taken either; and
an item or value constraint excludes a nested schema.

An array or a hash puts operations under two names, one after the other, and
each is refused if its name is taken by then. A refusal does not take back
what was put in place before it; the earlier checks are what keeps the second
name from being refused.

## Main definitions

* `Generator`: The fields and operations declared so far.
* `Generator.view`: What a script can see of it.
* `Declaring`: What works on a generator.
* `Generator.declareScalar`, `Generator.declareArray`,
  `Generator.declareHash`: One declaration each.
* `Generator.declarePlural`: What arrays and hashes have in common.
* `Generator.register`: Puts an operation under a name that is not taken.
* `Generator.finish`: The definition of what was declared.
-/

namespace FieldSchema

/-- The fields and operations declared so far, and the next cell for a nested definition. -/
structure Generator where
  inflector : Inflector
  options : Options
  fields : List FieldSpec
  operations : List (String × Operation)
  nextCell : Nat

/-- What works on a generator. A refusal leaves the generator as it was when it was found. -/
abbrev Declaring (α : Type) := EStateM DefinitionFault Generator α

namespace Generator

/-- Nothing declared yet. -/
def new (inflector : Inflector) (options : Options) (nextCell : Nat) : Generator :=
  ⟨inflector, options, [], [], nextCell⟩

/-- What a script can see of the generator. -/
def view (g : Generator) : GeneratorView :=
  ⟨g.inflector, g.options, g.fields.map FieldSpec.outline⟩

/-- What is found out about a generator, which stays as it is. -/
def inspecting {α : Type} (look : Generator → Except DefinitionFault α) : Declaring α := fun g =>
  match look g with
  | .ok a => .ok a g
  | .error fault => .error fault g

/-- The name without surrounding white space, unless it is blank or taken. -/
def checkName (g : Generator) (name : String) : Except DefinitionFault String :=
  let name := String.ofList (Text.trim name.toList)
  if name.isEmpty then .error .emptyName
  else if NameMap.contains g.operations name then .error (.duplicateField name)
  else .ok name

/-- The singular form of a plural name, unless there is none or it is taken. -/
def singularName (g : Generator) (plural : String) : Except DefinitionFault String :=
  let singular := g.inflector.singularize plural
  if singular = plural then .error (.cannotSingularize plural)
  else if NameMap.contains g.operations singular then .error (.duplicateField singular)
  else .ok singular

/-- Puts an operation under a name, unless the name is taken. -/
def register (name : String) (operation : Operation) : Declaring Unit := do
  if NameMap.contains (← get).operations name then throw (.duplicateField name)
  else modify fun g => { g with operations := NameMap.insert name operation g.operations }

/-- Adds a field whose operations are in place. -/
def addField (spec : FieldSpec) : Declaring Unit :=
  modify fun g => { g with fields := g.fields ++ [spec] }

/-- The nested schema of a script: it takes the options and the inflector, and a cell of its own. -/
def nest (singular : String) (script : Script) : Declaring SubSchema := do
  let g ← get
  set { g with nextCell := g.nextCell + 1 }
  return ⟨singular, script, g.inflector, g.options, g.nextCell⟩

/-- The nested schema of a field, if the field has a script for one. -/
def nestAny (singular : String) : Option Script → Declaring (Option SubSchema)
  | none => return none
  | some script => return some (← nest singular script)

/-- Declares a field that holds one value. -/
def declareScalar (category : Category) (name : String) (validation : Option Predicate)
    (callback : Option Expr) : Declaring Unit := do
  let name ← inspecting fun g => g.checkName name
  let spec : FieldSpec := ⟨name, .scalar (.category category), validation, callback⟩
  register name (.scalar spec)
  addField spec

/-- Declares a field with a plural and a singular name, whose options may be in conflict. -/
def declarePlural (name : String) (inConflict : Bool) (conflict : String → DefinitionFault)
    (schema : Option Script) (callback : Option Expr)
    (kind : Options → String → Option SubSchema → FieldKind)
    (whole single : FieldSpec → Operation) : Declaring Unit := do
  let name ← inspecting fun g => g.checkName name
  let singular ← inspecting fun g => g.singularName name
  if inConflict then throw (conflict name) else pure ()
  let schema ← nestAny singular schema
  let spec : FieldSpec := ⟨name, kind (← get).options singular schema, none, callback⟩
  register name (whole spec)
  register singular (single spec)
  addField spec

/-- Declares a field that holds a list. -/
def declareArray (name : String) (item : Option Constraint) (schema : Option Script)
    (callback : Option Expr) : Declaring Unit :=
  declarePlural name (item.isSome && schema.isSome) .conflictingItemType schema callback
    (fun options singular nested => .array singular item nested options.itemCallback)
    .arrayPlural .arrayItem

/-- Declares a field that holds a map. -/
def declareHash (name : String) (key value : Option Constraint) (schema : Option Script)
    (callback : Option Expr) : Declaring Unit :=
  declarePlural name (value.isSome && schema.isSome) .conflictingValueType schema callback
    (fun _ singular nested => .hash singular key value nested) .hashPlural .hashEntry

/-- The definition of what was declared. -/
def finish (g : Generator) : Definition :=
  ⟨g.fields, g.operations, g.options.inspectable⟩

end Generator

end FieldSchema
