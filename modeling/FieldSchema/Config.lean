import FieldSchema.Inflection.Table
import FieldSchema.Options
import FieldSchema.Yaml.Reader
import FieldSchema.Yaml.Writer

/-!
# Configuration Files

Options and vocabularies as they are kept in files.

A file may leave out anything: what is left out has its default. The one
distinction that matters is between a vocabulary that is absent and one that
is there but empty, since the first means English by choice of the program
and the second by its own default base. Saving writes every field in a fixed
order, except for an absent vocabulary.

## Main definitions

* `Config`: Options, and a vocabulary unless it is absent.
* `Config.parse?`, `Config.saved`: Reads and writes a configuration.
* `InflectionTable.parse?`, `InflectionTable.saved`: The same for a table.
* `Config.inflector`: The inflector that a configuration describes.
* `ConfigFault`: Why a configuration cannot be used.
-/

namespace FieldSchema

open Yaml (Node)

/-- A field whose value is a string. -/
def textField (key value : String) : Node × Node :=
  (.scalar false key.toList, .scalar false value.toList)

/-- A field with a node as its value. -/
def nodeField (key : String) (value : Node) : Node × Node :=
  (.scalar false key.toList, value)

namespace Base

/-- The name of a base in files. -/
def name : Base → String
  | .english => "english"
  | .empty => "empty"

/-- The base that a scalar names. -/
def ofNode? (node : Node) : Option Base :=
  match node.text? with
  | some "english" => some .english
  | some "empty" => some .empty
  | _ => none

end Base

namespace ItemCallback

/-- The name of an item callback in files. -/
def name : ItemCallback → String
  | .wrapped => "wrapped"
  | .bare => "bare"

/-- The item callback that a scalar names. -/
def ofNode? (node : Node) : Option ItemCallback :=
  match node.text? with
  | some "wrapped" => some .wrapped
  | some "bare" => some .bare
  | _ => none

end ItemCallback

namespace SubSchemaPolicy

/-- The name of a policy in files. -/
def name : SubSchemaPolicy → String
  | .cached => "cached"
  | .rebuild => "rebuild"

/-- The policy that a scalar names. -/
def ofNode? (node : Node) : Option SubSchemaPolicy :=
  match node.text? with
  | some "cached" => some .cached
  | some "rebuild" => some .rebuild
  | _ => none

end SubSchemaPolicy

namespace RuleEntry

/-- The rule that a record describes. -/
def ofNode? (node : Node) : Option RuleEntry := do
  let fields ← node.record? ["pattern", "replacement"]
  return ⟨← Node.requiredText? fields "pattern", ← Node.requiredText? fields "replacement"⟩

/-- The record of a rule. -/
def toNode (entry : RuleEntry) : Node :=
  .mapping [textField "pattern" entry.pattern, textField "replacement" entry.replacement]

end RuleEntry

namespace IrregularEntry

/-- The irregular pair that a record describes. -/
def ofNode? (node : Node) : Option IrregularEntry := do
  let fields ← node.record? ["singular", "plural"]
  return ⟨← Node.requiredText? fields "singular", ← Node.requiredText? fields "plural"⟩

/-- The record of an irregular pair. -/
def toNode (entry : IrregularEntry) : Node :=
  .mapping [textField "singular" entry.singular, textField "plural" entry.plural]

end IrregularEntry

/-- The list that a sequence describes, item by item. -/
def listOfNode? {α : Type} (read : Node → Option α) (node : Node) : Option (List α) := do
  (← node.items?).mapM read

namespace InflectionTable

/-- The table that a record describes. -/
def ofNode? (node : Node) : Option InflectionTable := do
  let fields ←
    node.record? ["base", "singulars", "plurals", "irregulars", "uncountables"]
  return {
    base := ← Node.field? fields "base" Base.ofNode? .english
    singulars := ← Node.field? fields "singulars" (listOfNode? RuleEntry.ofNode?) []
    plurals := ← Node.field? fields "plurals" (listOfNode? RuleEntry.ofNode?) []
    irregulars := ← Node.field? fields "irregulars" (listOfNode? IrregularEntry.ofNode?) []
    uncountables := ← Node.field? fields "uncountables" (listOfNode? Node.text?) [] }

/-- The record of a table. -/
def toNode (table : InflectionTable) : Node :=
  .mapping
    [textField "base" table.base.name,
     nodeField "singulars" (.sequence (table.singulars.map RuleEntry.toNode)),
     nodeField "plurals" (.sequence (table.plurals.map RuleEntry.toNode)),
     nodeField "irregulars" (.sequence (table.irregulars.map IrregularEntry.toNode)),
     nodeField "uncountables"
       (.sequence (table.uncountables.map fun word => .scalar false word.toList))]

/-- The table that a document describes. -/
def parse? (text : String) : Option InflectionTable := do
  ofNode? ((← Yaml.parse? text).getD .missing)

/-- The document of a table. -/
def saved (table : InflectionTable) : String :=
  table.toNode.document

end InflectionTable

namespace Options

/-- The options that a record describes. -/
def ofNode? (node : Node) : Option Options := do
  let fields ← node.record? ["inspectable", "item_callback", "sub_schemas"]
  return {
    inspectable := ← Node.field? fields "inspectable" Node.boolean? false
    itemCallback := ← Node.field? fields "item_callback" ItemCallback.ofNode? .wrapped
    subSchemas := ← Node.field? fields "sub_schemas" SubSchemaPolicy.ofNode? .cached }

/-- The record of options. -/
def toNode (o : Options) : Node :=
  .mapping
    [textField "inspectable" (if o.inspectable then "true" else "false"),
     textField "item_callback" o.itemCallback.name,
     textField "sub_schemas" o.subSchemas.name]

end Options

/-- Options, and a vocabulary unless it is absent. -/
structure Config where
  options : Options := {}
  inflections : Option InflectionTable := none
deriving DecidableEq

/-- Why a configuration cannot be used. -/
inductive ConfigFault where
  /-- There is no such file. -/
  | absent
  /-- The file does not hold a configuration. -/
  | malformed
  /-- A pattern of the vocabulary is none. -/
  | pattern (e : InvalidPattern)
deriving DecidableEq

namespace Config

/-- The vocabulary that a node describes, unless it stands for none. -/
def inflectionsOfNode? (node : Node) : Option (Option InflectionTable) :=
  if node.isNull then some none else (InflectionTable.ofNode? node).map some

/-- The configuration that a record describes. -/
def ofNode? (node : Node) : Option Config := do
  let fields ← node.record? ["options", "inflections"]
  return {
    options := ← Node.field? fields "options" Options.ofNode? {}
    inflections := ← Node.field? fields "inflections" inflectionsOfNode? none }

/-- The record of a configuration. -/
def toNode (config : Config) : Node :=
  .mapping
    (nodeField "options" config.options.toNode ::
      match config.inflections with
      | some table => [nodeField "inflections" table.toNode]
      | none => [])

/-- The configuration that a document describes. -/
def parse? (text : String) : Option Config := do
  ofNode? ((← Yaml.parse? text).getD .missing)

/-- The document of a configuration. -/
def saved (config : Config) : String :=
  config.toNode.document

/-- The inflector that a configuration describes. -/
def inflector (config : Config) : Except InvalidPattern Inflector :=
  match config.inflections with
  | some table => table.compile.map .ofRules
  | none => .ok .english

end Config

end FieldSchema
