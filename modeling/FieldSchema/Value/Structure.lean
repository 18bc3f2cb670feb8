import FieldSchema.Field
import FieldSchema.Text.Quoted

/-!
# Structural Text

Values, hosts and declarations with their structure spelled out.

Where rendering is for reading, this text is for examining: it names the kind
of every value, the operations of every host, and whether a store exists. Code
is not shown, only whether there is any.

## Main definitions

* `Value.structureText`, `Host.structureText`: The structure of values and hosts.
* `FieldSpec.structureText`: The structure of a field.
* `SubSchema.structureText`: The structure of a nested schema.
-/

namespace FieldSchema

/-- A string in quotation marks. -/
def quotedText (s : String) : String :=
  .ofList (Text.quoted s.toList)

/-- Pieces between an opening and a closing text, with commas between them. -/
def delimited (opening closing : String) (pieces : List String) : String :=
  opening ++ ", ".intercalate pieces ++ closing

/-- A record with named parts. -/
def recordText (name : String) (parts : List (String × String)) : String :=
  delimited (name ++ " \x7b ") " \x7d" (parts.map fun part => part.1 ++ ": " ++ part.2)

/-- A truth value as text. -/
def truthText (b : Bool) : String :=
  if b then "true" else "false"

/-- The structure of a number. -/
def Number.structureText : Number → String
  | .int n => "Int(" ++ toString n.toInt ++ ")"
  | .float x => "Float(" ++ String.ofList x.text ++ ")"

mutual

/-- The structure of a value. -/
def Value.structureText : Value → String
  | .nil => "Nil"
  | .string text => "String(" ++ quotedText text ++ ")"
  | .atom name => "Atom(" ++ quotedText name ++ ")"
  | .number n => "Number(" ++ n.structureText ++ ")"
  | .boolean b => "Boolean(" ++ truthText b ++ ")"
  | .callable _ => "Callable(Callable(..))"
  | .list items => "List(" ++ delimited "[" "]" (itemTexts items) ++ ")"
  | .map mapping => "Map(" ++ mapping.structureText ++ ")"
  | .nested host => "Nested(" ++ host.structureText ++ ")"
termination_by structural v => v

/-- The structures of the values of a list. -/
def itemTexts : List Value → List String
  | [] => []
  | v :: rest => v.structureText :: itemTexts rest
termination_by structural vs => vs

/-- The structure of a map. -/
def Mapping.structureText : Mapping → String
  | ⟨entries⟩ => recordText "Mapping" [("entries", delimited "[" "]" (entryTexts entries))]
termination_by structural m => m

/-- The structures of the entries of a map. -/
def entryTexts : List (Value × Value) → List String
  | [] => []
  | entry :: rest => entryText entry :: entryTexts rest
termination_by structural entries => entries

/-- The structure of an entry of a map. -/
def entryText : Value × Value → String
  | (k, v) => "(" ++ k.structureText ++ ", " ++ v.structureText ++ ")"
termination_by structural entry => entry

/-- The structure of a host. -/
def Host.structureText : Host → String
  | ⟨operations, store⟩ =>
      recordText "Host"
        [("operations", delimited "[" "]" (operations.map fun op => quotedText op.1)),
         ("store", storeText store)]
termination_by structural h => h

/-- The structure of a store that may not exist. -/
def storeText : Option (List (String × Value)) → String
  | none => "None"
  | some store =>
      "Some(" ++
        recordText "ValueStore" [("values", delimited "\x7b" "\x7d" (storedTexts store))] ++ ")"
termination_by structural store => store

/-- The structures of stored values. -/
def storedTexts : List (String × Value) → List String
  | [] => []
  | field :: rest => storedText field :: storedTexts rest
termination_by structural fields => fields

/-- The structure of a stored value. -/
def storedText : String × Value → String
  | (name, v) => quotedText name ++ ": " ++ v.structureText
termination_by structural field => field

end

/-- The name of an item callback as options show it. -/
def ItemCallback.structureText : ItemCallback → String
  | .wrapped => "Wrapped"
  | .bare => "Bare"

/-- The name of a policy as options show it. -/
def SubSchemaPolicy.structureText : SubSchemaPolicy → String
  | .cached => "Cached"
  | .rebuild => "Rebuild"

/-- The structure of options. -/
def Options.structureText (o : Options) : String :=
  recordText "GeneratorOptions"
    [("inspectable", truthText o.inspectable),
     ("item_callback", o.itemCallback.structureText),
     ("sub_schemas", o.subSchemas.structureText)]

/-- The structure of a nested schema, given whether its definition has been cached. -/
def SubSchema.structureText (s : SubSchema) (cached : Bool) : String :=
  recordText "NestedSchemaEvaluator"
    [("field", quotedText s.field),
     ("options", s.options.structureText),
     ("cached", truthText cached)]

/-- The structure of a field that shows itself so. -/
def FieldOutline.structureText (field : FieldOutline) : String :=
  recordText "FieldSpec"
    [("name", quotedText field.name),
     ("kind", quotedText field.kind),
     ("singular",
      match field.singular with
      | some singular => "Some(" ++ quotedText singular ++ ")"
      | none => "None"),
     ("nested", truthText field.nested),
     ("validation", truthText field.validated),
     ("callback", truthText field.calledBack)]

/-- The structure of a field. -/
def FieldSpec.structureText (spec : FieldSpec) : String :=
  spec.outline.structureText

end FieldSchema
