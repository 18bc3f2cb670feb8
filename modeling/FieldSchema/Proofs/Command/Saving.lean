import FieldSchema.Command
import FieldSchema.Proofs.Yaml.Layout

/-!
# Saved Configurations

Configurations and vocabularies load again as what they were when they were saved.

The document of a configuration is read back as its node, except that strings
which had to be quoted count as quoted now. Nearly everything that is read from
a node ignores this. Only truth values and missing values must be plain, and
the words that are written for truth values are. A vocabulary is never taken to
be missing, because it is written as a mapping even if there is nothing in it
that differs from the defaults. So an absent vocabulary and one that is there
but has nothing of its own stay apart.

Nothing is assumed of the strings. They may be empty, hold what would end a
plain scalar, or hold line breaks and characters that no document may hold. The
document is the one that the writer here lays out. Another writer may quote
words such as `true`, `12` and `null`, or put lines under one another, where
this one has plain scalars and escapes; that such a document is read as the
same strings is not said here.

## Main definitions

* `recordNode`: The record with some fields.

## Theorems

* `record?_reread`: The fields of a record are found again.
* `listOfNode?_reread`: So are the items of a list, if each of them is.
* `InflectionTable.ofNode?_reread`, `Config.ofNode?_reread`: Nodes are read back.
* `saved_loads`: What was saved loads again, and gives the same inflector.
-/

namespace FieldSchema

open Yaml (Node IsWord)

instance (key : List Char) : Decidable (IsWord key) :=
  decidable_of_iff (key ≠ [] ∧ key.all Yaml.isWordChar = true ∧
      (String.ofList key).utf8ByteSize ≤ Yaml.Cursor.mostKeyBytes)
    ⟨fun h => ⟨h.1, List.all_eq_true.mp h.2.1, h.2.2⟩,
      fun h => ⟨h.nonempty, List.all_eq_true.mpr h.chars, h.short⟩⟩

/-- The record with some fields. -/
def recordNode (fields : List (String × Node)) : Node :=
  .mapping (fields.map fun field => nodeField field.1 field.2)

/-- A record is made of words if the names of its fields are. -/
theorem keyed_recordNode (names : List String) (fields : List (String × Node))
    (hfields : fields.map (·.1) = names) (hnames : ∀ name ∈ names, IsWord name.toList)
    (hvalues : ∀ field ∈ fields, field.2.Keyed) : (recordNode fields).Keyed := by
  subst hfields
  refine .mapping _ ?_ ?_
  · intro entry hentry
    obtain ⟨field, hfield, rfl⟩ := List.mem_map.mp hentry
    exact ⟨false, _, rfl, hnames field.1 (List.mem_map_of_mem hfield)⟩
  · intro entry hentry
    obtain ⟨field, hfield, rfl⟩ := List.mem_map.mp hentry
    exact hvalues field hfield

/-- The fields of a record are found again. -/
theorem record?_reread (known names : List String) (fields : List (String × Node))
    (hfields : fields.map (·.1) = names) (hknown : ∀ name ∈ names, name ∈ known)
    (hnodup : names.Nodup) :
    (recordNode fields).reread.record? known =
      some (fields.map fun field => (field.1, field.2.reread)) := by
  subst hfields
  -- Every key is a text again, none is unknown, and none comes twice.
  have hnamed : (Yaml.rereadEntries (fields.map fun field => nodeField field.1 field.2)).mapM
      (fun entry => entry.1.text?.map fun key => (key, entry.2)) =
        some (fields.map fun field => (field.1, field.2.reread)) := by
    induction fields with
    | nil => rfl
    | cons field rest ih =>
        have hrest := ih (fun name hname => hknown name (List.mem_cons_of_mem _ hname))
          (List.nodup_cons.mp hnodup).2
        rw [List.map_cons, Yaml.rereadEntries, List.mapM_cons, hrest]
        simp only [nodeField, Yaml.rereadEntry, Node.reread, Node.text?, Option.map_some,
          String.ofList_toList, Option.bind_eq_bind, Option.bind_some, Option.pure_def,
          List.map_cons]
  have hall : (fields.map fun field => (field.1, field.2.reread)).filter
      (fun field => known.contains field.1) =
        fields.map fun field => (field.1, field.2.reread) := by
    rw [List.filter_eq_self]
    intro field hfield
    obtain ⟨source, hsource, rfl⟩ := List.mem_map.mp hfield
    exact List.contains_iff_mem.mpr (hknown source.1 (List.mem_map_of_mem hsource))
  unfold Node.record? recordNode
  rw [Node.reread]
  simp only [Node.entries?, Option.bind_eq_bind, Option.bind_some, hnamed, hall, List.map_map]
  exact if_pos hnodup

/-- A list is read back from the sequence of its items if each of them is. -/
theorem listOfNode?_reread {α : Type} (read : Node → Option α) (write : α → Node)
    (hitem : ∀ a, read (write a).reread = some a) (items : List α) :
    listOfNode? read (Node.sequence (items.map write)).reread = some items := by
  unfold listOfNode?
  rw [Node.reread]
  simp only [Node.items?, Option.bind_eq_bind, Option.bind_some]
  induction items with
  | nil => rfl
  | cons item rest ih =>
      rw [List.map_cons, Yaml.rereadItems, List.mapM_cons, hitem, ih]
      rfl

theorem keyed_list {α : Type} (write : α → Node) (hitem : ∀ a, (write a).Keyed)
    (items : List α) : (Node.sequence (items.map write)).Keyed := by
  refine .sequence _ fun node hnode => ?_
  obtain ⟨item, -, rfl⟩ := List.mem_map.mp hnode
  exact hitem item

/-- A string is the text of its scalar, however that is written. -/
theorem text?_reread (quoted : Bool) (s : String) :
    (Node.scalar quoted s.toList).reread.text? = some s := by
  rw [Node.reread, Node.text?, String.ofList_toList]

namespace Base

theorem ofNode?_reread (base : Base) (quoted : Bool) :
    ofNode? (Node.scalar quoted base.name.toList).reread = some base := by
  unfold ofNode?
  rw [text?_reread]
  cases base <;> rfl

end Base

namespace ItemCallback

theorem ofNode?_reread (itemCallback : ItemCallback) (quoted : Bool) :
    ofNode? (Node.scalar quoted itemCallback.name.toList).reread = some itemCallback := by
  unfold ofNode?
  rw [text?_reread]
  cases itemCallback <;> rfl

end ItemCallback

namespace SubSchemaPolicy

theorem ofNode?_reread (policy : SubSchemaPolicy) (quoted : Bool) :
    ofNode? (Node.scalar quoted policy.name.toList).reread = some policy := by
  unfold ofNode?
  rw [text?_reread]
  cases policy <;> rfl

end SubSchemaPolicy

namespace RuleEntry

theorem toNode_eq (entry : RuleEntry) :
    entry.toNode = recordNode [("pattern", .scalar false entry.pattern.toList),
      ("replacement", .scalar false entry.replacement.toList)] := rfl

theorem ofNode?_reread (entry : RuleEntry) : ofNode? entry.toNode.reread = some entry := by
  unfold ofNode?
  rw [toNode_eq, record?_reread _ ["pattern", "replacement"] _ rfl (by decide) (by decide)]
  simp [Node.requiredText?, List.lookup_cons, text?_reread]

theorem keyed (entry : RuleEntry) : entry.toNode.Keyed := by
  rw [toNode_eq]
  exact keyed_recordNode ["pattern", "replacement"] _ rfl (by decide) (by simp [Node.Keyed.scalar])

end RuleEntry

namespace IrregularEntry

theorem toNode_eq (entry : IrregularEntry) :
    entry.toNode = recordNode [("singular", .scalar false entry.singular.toList),
      ("plural", .scalar false entry.plural.toList)] := rfl

theorem ofNode?_reread (entry : IrregularEntry) : ofNode? entry.toNode.reread = some entry := by
  unfold ofNode?
  rw [toNode_eq, record?_reread _ ["singular", "plural"] _ rfl (by decide) (by decide)]
  simp [Node.requiredText?, List.lookup_cons, text?_reread]

theorem keyed (entry : IrregularEntry) : entry.toNode.Keyed := by
  rw [toNode_eq]
  exact keyed_recordNode ["singular", "plural"] _ rfl (by decide) (by simp [Node.Keyed.scalar])

end IrregularEntry

namespace InflectionTable

theorem toNode_eq (table : InflectionTable) :
    table.toNode = recordNode
      [("base", .scalar false table.base.name.toList),
        ("singulars", .sequence (table.singulars.map RuleEntry.toNode)),
        ("plurals", .sequence (table.plurals.map RuleEntry.toNode)),
        ("irregulars", .sequence (table.irregulars.map IrregularEntry.toNode)),
        ("uncountables",
          .sequence (table.uncountables.map fun word => .scalar false word.toList))] := rfl

/-- A table is read back from its record. -/
theorem ofNode?_reread (table : InflectionTable) : ofNode? table.toNode.reread = some table := by
  have hsingulars := listOfNode?_reread _ _ RuleEntry.ofNode?_reread table.singulars
  have hplurals := listOfNode?_reread _ _ RuleEntry.ofNode?_reread table.plurals
  have hirregulars := listOfNode?_reread _ _ IrregularEntry.ofNode?_reread table.irregulars
  have huncountables := listOfNode?_reread _ _ (text?_reread false) table.uncountables
  unfold ofNode?
  rw [toNode_eq, record?_reread _ ["base", "singulars", "plurals", "irregulars", "uncountables"] _
    rfl (by decide) (by decide)]
  simp [Node.field?, List.lookup_cons, Base.ofNode?_reread, hsingulars, hplurals, hirregulars,
    huncountables]

theorem keyed (table : InflectionTable) : table.toNode.Keyed := by
  rw [toNode_eq]
  refine keyed_recordNode ["base", "singulars", "plurals", "irregulars", "uncountables"] _ rfl
    (by decide) ?_
  simp only [List.forall_mem_cons, List.not_mem_nil, false_implies, implies_true, and_true]
  exact ⟨.scalar _ _, keyed_list _ RuleEntry.keyed _, keyed_list _ RuleEntry.keyed _,
    keyed_list _ IrregularEntry.keyed _, keyed_list _ (fun _ => .scalar _ _) _⟩

/-- A table that was saved loads again. -/
theorem parse?_saved (table : InflectionTable) : parse? table.saved = some table := by
  have hread : Yaml.parse? table.toNode.document = some (some table.toNode.reread) :=
    Yaml.parse?_document _ (List.cons_ne_nil _ _) (keyed table)
  unfold parse? saved
  rw [hread]
  exact ofNode?_reread table

end InflectionTable

namespace Options

theorem toNode_eq (o : Options) :
    o.toNode = recordNode
      [("inspectable", .scalar false (if o.inspectable then "true" else "false").toList),
        ("item_callback", .scalar false o.itemCallback.name.toList),
        ("sub_schemas", .scalar false o.subSchemas.name.toList)] := rfl

/-- A truth value is written plainly, so it is read back as one. -/
theorem boolean?_reread (b : Bool) :
    (Node.scalar false (if b then "true" else "false").toList).reread.boolean? = some b := by
  cases b <;> decide

/-- Options are read back from their record. -/
theorem ofNode?_reread (o : Options) : ofNode? o.toNode.reread = some o := by
  unfold ofNode?
  rw [toNode_eq, record?_reread _ ["inspectable", "item_callback", "sub_schemas"] _ rfl
    (by decide) (by decide)]
  simp [Node.field?, List.lookup_cons, boolean?_reread, ItemCallback.ofNode?_reread,
    SubSchemaPolicy.ofNode?_reread]

theorem keyed (o : Options) : o.toNode.Keyed := by
  rw [toNode_eq]
  exact keyed_recordNode ["inspectable", "item_callback", "sub_schemas"] _ rfl (by decide)
    (by simp [Node.Keyed.scalar])

end Options

namespace Config

theorem toNode_absent (o : Options) :
    (Config.mk o none).toNode = recordNode [("options", o.toNode)] := rfl

theorem toNode_present (o : Options) (table : InflectionTable) :
    (Config.mk o (some table)).toNode =
      recordNode [("options", o.toNode), ("inflections", table.toNode)] := rfl

/-- A vocabulary is never taken to be missing. -/
theorem inflectionsOfNode?_reread (table : InflectionTable) :
    inflectionsOfNode? table.toNode.reread = some (some table) := by
  have hpresent : table.toNode.reread.isNull = false := rfl
  rw [inflectionsOfNode?, hpresent, InflectionTable.ofNode?_reread]
  rfl

/-- A configuration is read back from its record. -/
theorem ofNode?_reread (config : Config) : ofNode? config.toNode.reread = some config := by
  obtain ⟨o, inflections⟩ := config
  unfold ofNode?
  cases inflections with
  | none =>
      rw [toNode_absent, record?_reread _ ["options"] _ rfl (by decide) (by decide)]
      simp [Node.field?, List.lookup_cons, Options.ofNode?_reread]
  | some table =>
      rw [toNode_present, record?_reread _ ["options", "inflections"] _ rfl (by decide)
        (by decide)]
      simp [Node.field?, List.lookup_cons, Options.ofNode?_reread, inflectionsOfNode?_reread]

theorem keyed (config : Config) : config.toNode.Keyed := by
  obtain ⟨o, inflections⟩ := config
  cases inflections with
  | none =>
      rw [toNode_absent]
      exact keyed_recordNode ["options"] _ rfl (by decide) (by simp [Options.keyed])
  | some table =>
      rw [toNode_present]
      exact keyed_recordNode ["options", "inflections"] _ rfl (by decide)
        (by simp [Options.keyed, InflectionTable.keyed])

/-- A configuration that was saved loads again. -/
theorem parse?_saved (config : Config) : parse? config.saved = some config := by
  have hread : Yaml.parse? config.toNode.document = some (some config.toNode.reread) :=
    Yaml.parse?_document _ (List.cons_ne_nil _ _) (keyed config)
  unfold parse? saved
  rw [hread]
  exact ofNode?_reread config

end Config

/-- A file that holds a configuration is loaded as the configuration. -/
theorem Command.loadConfig_of_parse? (text path : String) (config : Config)
    (h : Config.parse? text = some config) :
    loadConfig (fun _ => .text text) (some path) = .ok config := by
  unfold loadConfig
  simp only [h]
  rfl

/-- A configuration and a table that were saved load again as they were, whatever strings they hold,
    in the scalars that are written for these strings here. So a vocabulary is absent afterwards if
    it was, and is there if it was, even if it has nothing of its own; and the program finds the
    same options and the same inflector in the file, or refuses it for the same reason. -/
theorem saved_loads :
    (∀ config : Config, Config.parse? config.saved = some config) ∧
    (∀ table : InflectionTable, InflectionTable.parse? table.saved = some table) ∧
    (∀ options : Options,
      Config.parse? (Config.mk options none).saved = some ⟨options, none⟩ ∧
      Config.parse? (Config.mk options (some {})).saved = some ⟨options, some {}⟩) ∧
    ∀ (config : Config) (path : String),
      let loaded := Command.loadConfig (fun _ => .text config.saved) (some path)
      loaded = .ok config ∧ loaded.bind Command.loadInflector = Command.loadInflector config := by
  refine ⟨Config.parse?_saved, InflectionTable.parse?_saved,
    fun options => ⟨Config.parse?_saved _, Config.parse?_saved _⟩, ?_⟩
  intro config path loaded
  -- The file read back is the configuration written, so what is loaded from it is the same.
  have hloaded : loaded = .ok config :=
    Command.loadConfig_of_parse? config.saved path config (Config.parse?_saved config)
  rw [hloaded]
  exact ⟨rfl, rfl⟩

end FieldSchema
