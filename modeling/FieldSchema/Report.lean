import FieldSchema.Generator
import FieldSchema.Text.Json

/-!
# Reports on Field Names

Whether a plural name can be declared, and how the answer is written.

A report comes from an actual declaration on a new generator, so it says what
a schema would say. It is written either as a table, whose first column is as
wide as the longest name has bytes while names are filled up by characters,
or as JSON.

## Main definitions

* `Report`: A name with its singular form or the fault of its declaration.
* `Report.ofName`: The report on a name.
* `Report.table`, `Report.json`: Reports as text.
-/

namespace FieldSchema

/-- A name with its singular form or the fault of its declaration. -/
structure Report where
  field : String
  singular : Option String
  fault : Option DefinitionFault
deriving DecidableEq

namespace Report

/-- The report on a plural name. -/
def ofName (inflector : Inflector) (options : Options) (name : String) : Report :=
  match Generator.declareArray name none none none (.new inflector options 0) with
  | .ok _ g =>
      let declared := g.finish.field? (.ofList (Text.trim name.toList))
      ⟨name, declared.bind FieldSpec.singular?, none⟩
  | .error fault _ => ⟨name, none, some fault⟩

/-- The name was turned down. -/
def isRejected (r : Report) : Bool :=
  r.fault.isSome

/-- What the table says of a name. -/
def statusAndDetail (r : Report) : String × String :=
  match r.singular, r.fault with
  | some singular, _ => ("ok", singular)
  | none, some fault => ("rejected", fault.message)
  | none, none => ("unknown", "")

/-- A text filled up with spaces to so many characters. -/
def padded (width : Nat) (s : String) : String :=
  s ++ String.ofList (List.replicate (width - s.length) ' ')

/-- A line of the table. -/
def row (width : Nat) (name status detail : String) : String :=
  padded width name ++ "  " ++ padded 8 status ++ "  " ++ detail ++ "\n"

/-- The reports as a table. -/
def table (reports : List Report) : String :=
  let title := "FIELD"
  let width := reports.foldl (fun w r => max w r.field.utf8ByteSize) title.utf8ByteSize
  let rows := reports.map fun r => row width r.field r.statusAndDetail.1 r.statusAndDetail.2
  row width title "STATUS" "DETAIL" ++ String.join rows

/-- A text that may be missing, in JSON. -/
def jsonOptional : Option String → String
  | some s => .ofList (Text.jsonQuoted s.toList)
  | none => "null"

/-- A report in JSON, as an element of an array. -/
def jsonElement (r : Report) : String :=
  "  \x7b\n    \"field\": " ++ jsonOptional (some r.field) ++
    ",\n    \"singular\": " ++ jsonOptional r.singular ++
    ",\n    \"error\": " ++ jsonOptional (r.fault.map DefinitionFault.message) ++ "\n  \x7d"

/-- The reports in JSON. -/
def json (reports : List Report) : String :=
  if reports.isEmpty then "[]\n"
  else "[\n" ++ ",\n".intercalate (reports.map jsonElement) ++ "\n]\n"

end Report

end FieldSchema
