import FieldSchema.Host
import FieldSchema.Value.Literal

/-!
# What Code Makes of Values

How values are seen by code, and how recipes are carried out.

An outline follows its value at every depth, through lists and maps and through
what hosts store. A recipe refers to the values that are given by their places.
What is not there, be it a value that was not given or a part of a value that
has no such part, is nil. The entries of a map are inserted in the order in
which the recipe has them, as in a literal.

## Main definitions

* `Value.outline`, `Host.outline`: What code sees.
* `Value.part`: A value inside another.
* `Recipe.build`: The value that a recipe makes.
-/

namespace FieldSchema

mutual

/-- The value as code sees it. -/
def Value.outline : Value → Outline
  | .nil => .nil
  | .string text => .string text
  | .atom name => .atom name
  | .number n => .number n
  | .boolean b => .boolean b
  | .callable name => .callable name
  | .list items => .list (outlineItems items)
  | .map mapping => .map mapping.outline
  | .nested host => host.outline
termination_by structural v => v

/-- The items of a list as code sees them. -/
def outlineItems : List Value → List Outline
  | [] => []
  | v :: rest => v.outline :: outlineItems rest
termination_by structural items => items

/-- The entries of a map as code sees them. -/
def Mapping.outline : Mapping → List (Outline × Outline)
  | ⟨entries⟩ => outlineEntries entries
termination_by structural m => m

/-- Entries as code sees them. -/
def outlineEntries : List (Value × Value) → List (Outline × Outline)
  | [] => []
  | entry :: rest => outlineEntry entry :: outlineEntries rest
termination_by structural entries => entries

/-- An entry as code sees it. -/
def outlineEntry : Value × Value → Outline × Outline
  | (k, v) => (k.outline, v.outline)
termination_by structural entry => entry

/-- The host as code sees it. -/
def Host.outline : Host → Outline
  | ⟨operations, store⟩ => .host (NameMap.names operations) (outlineStore store)
termination_by structural h => h

/-- A store that may not exist, as code sees it. -/
def outlineStore : Option (List (String × Value)) → Option (List (String × Outline))
  | none => none
  | some slots => some (outlineSlots slots)
termination_by structural store => store

/-- Stored values as code sees them. -/
def outlineSlots : List (String × Value) → List (String × Outline)
  | [] => []
  | slot :: rest => outlineSlot slot :: outlineSlots rest
termination_by structural slots => slots

/-- A stored value as code sees it. -/
def outlineSlot : String × Value → String × Outline
  | (name, v) => (name, v.outline)
termination_by structural slot => slot

end

/-- The value that is inside another at a place, nil if there is none. -/
def Value.part (v : Value) : Part → Value
  | .item i => (v.asList?.bind fun items => items[i]?).getD .nil
  | .key i => (v.asMap?.bind fun m => m.entries[i]?.map (·.1)).getD .nil
  | .value i => (v.asMap?.bind fun m => m.entries[i]?.map (·.2)).getD .nil
  | .stored name => (v.asHost?.bind fun host => host.stored? name).getD .nil

mutual

/-- The value that the recipe makes of given values, among named hosts. -/
def Recipe.build (hosts : NameMap Host) (values : List Value) : Recipe → Value
  | .literal l => l.value hosts
  | .given i => values.getD i .nil
  | .part whole part => (whole.build hosts values).part part
  | .list items => .list (buildItems hosts values items)
  | .map entries => .map (.ofList (buildEntries hosts values entries))
termination_by structural recipe => recipe

/-- The values that recipes make in order. -/
def buildItems (hosts : NameMap Host) (values : List Value) : List Recipe → List Value
  | [] => []
  | item :: rest => item.build hosts values :: buildItems hosts values rest
termination_by structural items => items

/-- The keys and values that recipes make in order. -/
def buildEntries (hosts : NameMap Host) (values : List Value) :
    List (Recipe × Recipe) → List (Value × Value)
  | [] => []
  | entry :: rest => buildEntry hosts values entry :: buildEntries hosts values rest
termination_by structural entries => entries

/-- The key and the value that recipes make. -/
def buildEntry (hosts : NameMap Host) (values : List Value) : Recipe × Recipe → Value × Value
  | (key, value) => (key.build hosts values, value.build hosts values)
termination_by structural entry => entry

end

end FieldSchema
