import FieldSchema.Proofs.NameMap
import FieldSchema.Proofs.Value.Sides
import FieldSchema.World

/-!
# What Hosts Are Apart from Their Cells

Values and hosts, with their nested schemas made comparable.

A nested schema says which cell its definition is kept in and whether it is
kept at all. Two hosts that were made at different times name different cells,
and two that were made under different policies say so in every nested schema.
Nothing else need differ. `recast` sets all cells to one and puts another
policy in the place of each, at every depth, so that hosts which differ in
these respects alone become the same host. What the policy is replaced by is
left open: nothing is, to forget the cells only, or all by one, to forget the
policies as well.

Recasting goes through values into hosts, and through their operations down to
the nested schemas. There it ends. A nested schema holds a script, and scripts
mention neither hosts nor cells.

## Main definitions

* `SubSchema.recast`, `Operation.recast`, `Value.recast`, `Host.recast`: Without cells, and under
  other policies.

## Theorems

* `recast_list`, `recast_map`, `Host.recast_eq`: Recasting goes through lists, maps and hosts.
* `recast_beq`: Values are equal if they are equal recast.
* `recast_insert`, `recast_write`, `recast_attachWith`: Recasting commutes with all changes.
-/

namespace FieldSchema

section

variable (f : SubSchemaPolicy → SubSchemaPolicy)

/-- The options under another policy. -/
def Options.recast (o : Options) : Options :=
  { o with subSchemas := f o.subSchemas }

/-- What a script sees of a generator, under another policy. -/
def GeneratorView.recast (view : GeneratorView) : GeneratorView :=
  { view with options := view.options.recast f }

/-- The nested schema without its cell and under another policy. -/
def SubSchema.recast (sub : SubSchema) : SubSchema :=
  { sub with options := sub.options.recast f, cell := 0 }

/-- The shape with its nested schema recast. -/
def FieldKind.recast : FieldKind → FieldKind
  | .scalar constraint => .scalar constraint
  | .array singular item schema itemCallback =>
      .array singular item (schema.map (SubSchema.recast f)) itemCallback
  | .hash singular key value schema => .hash singular key value (schema.map (SubSchema.recast f))

/-- The field with its nested schema recast. -/
def FieldSpec.recast (spec : FieldSpec) : FieldSpec :=
  { spec with kind := spec.kind.recast f }

/-- The operation with the nested schema of its field recast. -/
def Operation.recast : Operation → Operation
  | .scalar spec => .scalar (spec.recast f)
  | .arrayPlural spec => .arrayPlural (spec.recast f)
  | .arrayItem spec => .arrayItem (spec.recast f)
  | .hashPlural spec => .hashPlural (spec.recast f)
  | .hashEntry spec => .hashEntry (spec.recast f)
  | .inspect => .inspect
  | .custom name trace body => .custom name trace body

mutual

/-- The value with the nested schemas of all its hosts recast. -/
def Value.recast : Value → Value
  | .list items => .list (recastItems items)
  | .map mapping => .map mapping.recast
  | .nested host => .nested host.recast
  | v => v
termination_by structural v => v

/-- The items of a list, recast. -/
def recastItems : List Value → List Value
  | [] => []
  | v :: rest => v.recast :: recastItems rest
termination_by structural vs => vs

/-- The map with its keys and values recast. -/
def Mapping.recast : Mapping → Mapping
  | ⟨entries⟩ => ⟨recastEntries entries⟩
termination_by structural m => m

/-- The entries of a map, recast. -/
def recastEntries : List (Value × Value) → List (Value × Value)
  | [] => []
  | entry :: rest => recastEntry entry :: recastEntries rest
termination_by structural entries => entries

/-- An entry of a map, recast. -/
def recastEntry : Value × Value → Value × Value
  | (k, v) => (k.recast, v.recast)
termination_by structural entry => entry

/-- The host with its operations and stored values recast. -/
def Host.recast : Host → Host
  | ⟨operations, store⟩ =>
      ⟨NameMap.mapValues (Operation.recast f) operations, recastStore store⟩
termination_by structural h => h

/-- A store that may not exist, recast. -/
def recastStore : Option (List (String × Value)) → Option (List (String × Value))
  | none => none
  | some slots => some (recastSlots slots)
termination_by structural store => store

/-- Stored values, recast. -/
def recastSlots : List (String × Value) → List (String × Value)
  | [] => []
  | slot :: rest => recastSlot slot :: recastSlots rest
termination_by structural slots => slots

/-- A stored value, recast. -/
def recastSlot : String × Value → String × Value
  | (name, v) => (name, v.recast)
termination_by structural slot => slot

end

/-- The definition with its fields and operations recast. -/
def Definition.recast (d : Definition) : Definition :=
  ⟨d.fields.map (FieldSpec.recast f), NameMap.mapValues (Operation.recast f) d.operations,
    d.inspectable⟩

theorem recastItems_eq (items : List Value) : recastItems f items = items.map (Value.recast f) := by
  induction items with
  | nil => rfl
  | cons v rest ih => rw [recastItems, List.map_cons, ih]

@[simp]
theorem recastEntry_fst (entry : Value × Value) : (recastEntry f entry).1 = entry.1.recast f := by
  cases entry
  rfl

@[simp]
theorem recastEntry_snd (entry : Value × Value) : (recastEntry f entry).2 = entry.2.recast f := by
  cases entry
  rfl

theorem recastEntries_eq (entries : List (Value × Value)) :
    recastEntries f entries = entries.map (recastEntry f) := by
  induction entries with
  | nil => rfl
  | cons entry rest ih => rw [recastEntries, List.map_cons, ih]

theorem recastSlots_eq (slots : List (String × Value)) :
    recastSlots f slots = NameMap.mapValues (Value.recast f) slots := by
  induction slots with
  | nil => rfl
  | cons slot rest ih =>
      obtain ⟨name, v⟩ := slot
      rw [recastSlots, NameMap.mapValues_cons, ih]
      rfl

/-- A list is recast item by item. -/
theorem recast_list (items : List Value) :
    (Value.list items).recast f = .list (items.map (Value.recast f)) := by
  rw [Value.recast, recastItems_eq]

/-- A map is recast key by key and value by value. -/
theorem Mapping.recast_eq (m : Mapping) : m.recast f = ⟨m.entries.map (recastEntry f)⟩ := by
  obtain ⟨entries⟩ := m
  rw [recast, recastEntries_eq]

theorem recast_map (m : Mapping) : (Value.map m).recast f = .map (m.recast f) := rfl

theorem recast_nested (h : Host) : (Value.nested h).recast f = .nested (h.recast f) := rfl

/-- A host is recast operation by operation and slot by slot. -/
theorem Host.recast_eq (h : Host) :
    h.recast f = ⟨NameMap.mapValues (Operation.recast f) h.operations,
      h.store.map (NameMap.mapValues (Value.recast f))⟩ := by
  obtain ⟨operations, store⟩ := h
  cases store with
  | none => rfl
  | some slots => rw [recast, recastStore, recastSlots_eq, Option.map_some]

theorem sameItems_recast (items others : List Value) (b : Bool)
    (hitems : ∀ v ∈ items, ∀ w, (v.recast f).sameFrom b (w.recast f) = v.sameFrom b w) :
    sameItems b (items.map (Value.recast f)) (others.map (Value.recast f)) =
      sameItems b items others := by
  induction items generalizing others with
  | nil => cases others <;> rfl
  | cons head rest ih =>
      cases others with
      | nil => rfl
      | cons other others =>
          rw [List.map_cons, List.map_cons, sameItems, sameItems, hitems head List.mem_cons_self,
            ih others fun v hv => hitems v (List.mem_cons_of_mem _ hv)]

theorem sameNamed_recast (slots others : List (String × Value)) (b : Bool)
    (hslots : ∀ slot ∈ slots, ∀ w, (slot.2.recast f).sameFrom b (w.recast f) =
      slot.2.sameFrom b w) :
    sameNamed b (NameMap.mapValues (Value.recast f) slots)
      (NameMap.mapValues (Value.recast f) others) = sameNamed b slots others := by
  induction slots generalizing others with
  | nil => cases others <;> rfl
  | cons head rest ih =>
      cases others with
      | nil => rfl
      | cons other others =>
          obtain ⟨name, v⟩ := head
          obtain ⟨name', v'⟩ := other
          rw [NameMap.mapValues_cons, NameMap.mapValues_cons, sameNamed, sameNamed,
            sameNamedEntry, sameNamedEntry, hslots (name, v) List.mem_cons_self,
            ih others fun slot hslot => hslots slot (List.mem_cons_of_mem _ hslot)]

theorem finds_recast (entries : List (Value × Value)) (x : Value × Value)
    (hkey : ∀ entry ∈ entries, (entry.1.recast f == x.1.recast f) = (entry.1 == x.1))
    (hvalue : ∀ entry ∈ entries, (entry.2.recast f == x.2.recast f) = (entry.2 == x.2)) :
    Mapping.finds (entries.map (recastEntry f)) (recastEntry f x) = Mapping.finds entries x := by
  unfold Mapping.finds
  -- The search goes by keys, and comes to the recast entry.
  have hfind : (entries.map (recastEntry f)).find? (fun entry => entry.1 == (recastEntry f x).1) =
      (entries.find? fun entry => entry.1 == x.1).map (recastEntry f) := by
    rw [List.find?_map]
    refine congrArg _ (List.find?_congr fun entry hentry => ?_)
    simp only [Function.comp_apply, recastEntry_fst]
    exact hkey entry hentry
  rw [hfind]
  cases hfound : entries.find? fun entry => entry.1 == x.1 with
  | none => rfl
  | some entry =>
      simp only [Option.map_some, recastEntry_snd]
      exact hvalue entry (List.mem_of_find?_eq_some hfound)

/-- Maps are equal if they are equal recast, given that the lookups come to the same. -/
theorem map_beq_recast (m n : Mapping)
    (hfinds : ∀ x ∈ m.entries, Mapping.finds (n.entries.map (recastEntry f)) (recastEntry f x) =
      Mapping.finds n.entries x) :
    (Value.map (m.recast f) == .map (n.recast f)) = (Value.map m == .map n) := by
  rw [Bool.eq_iff_iff, Value.map_beq_iff, Value.map_beq_iff, Mapping.recast_eq, Mapping.recast_eq]
  simp only [List.length_map, List.forall_mem_map]
  refine and_congr_right fun _ => forall₂_congr fun x hx => ?_
  rw [hfinds x hx]

/-- Values are equal if they are equal recast, from either side. -/
theorem recast_sameFrom (v w : Value) (b : Bool) :
    (v.recast f).sameFrom b (w.recast f) = v.sameFrom b w := by
  induction v using Value.inductOn generalizing w b with
  | nil => cases w <;> rfl
  | string text => cases w <;> rfl
  | atom name => cases w <;> rfl
  | number n => cases w <;> rfl
  | boolean c => cases w <;> rfl
  | callable name => cases w <;> rfl
  | list items ih =>
      cases w with
      | list others =>
          rw [recast_list, recast_list]
          exact sameItems_recast f items others b fun v hv w => ih v hv w b
      | _ => rfl
  | map entries ihKey ihValue =>
      cases w with
      | map n =>
          -- The induction is on the first value, whichever side the comparison starts from.
          have hto : ∀ u v : Value, (∀ w, (v.recast f).sameFrom true (w.recast f) =
              v.sameFrom true w) → (u.recast f == v.recast f) = (u == v) := by
            intro u v h
            rw [← Value.sameFrom_true, ← Value.sameFrom_true, h]
          -- The sides are exchanged here: the entries that are searched for are those of the other
          -- map.
          cases b with
          | false =>
              refine map_beq_recast f ⟨entries⟩ n fun x hx => finds_recast f _ x ?_ ?_
              · exact fun entry _ => hto entry.1 x.1 fun w => ihKey x hx w true
              · exact fun entry _ => hto entry.2 x.2 fun w => ihValue x hx w true
          | true =>
              rw [Value.sameFrom_true, Value.sameFrom_true]
              refine map_beq_recast f n ⟨entries⟩ fun y _ => finds_recast f _ y ?_ ?_
              · exact fun entry hentry => ihKey entry hentry y.1 false
              · exact fun entry hentry => ihValue entry hentry y.2 false
      | _ => rfl
  | nested operations store ih =>
      cases w with
      | nested other =>
          have hgetD : ∀ store : Option (List (String × Value)),
              (store.map (NameMap.mapValues (Value.recast f))).getD [] =
                NameMap.mapValues (Value.recast f) (store.getD []) := by
            intro store
            cases store <;> rfl
          obtain ⟨operations', store'⟩ := other
          rw [recast_nested, recast_nested, Host.recast_eq, Host.recast_eq]
          simp only [Value.sameFrom, Host.sameFrom, sameStores_eq_sameNamed, hgetD]
          refine sameNamed_recast f _ _ b fun slot hslot w => ?_
          cases store with
          | none => exact absurd hslot List.not_mem_nil
          | some slots => exact ih slots rfl slot hslot w b
      | _ => rfl

theorem recast_beq (v w : Value) : (v.recast f == w.recast f) = (v == w) :=
  recast_sameFrom f v w false

namespace Mapping

theorem recast_insert (m : Mapping) (k v : Value) :
    (m.insert k v).recast f = (m.recast f).insert (k.recast f) (v.recast f) := by
  have hinto : ∀ entries : List (Value × Value),
      (insertInto k v entries).map (recastEntry f) =
        insertInto (k.recast f) (v.recast f) (entries.map (recastEntry f)) := by
    intro entries
    induction entries with
    | nil => rfl
    | cons head rest ih =>
        obtain ⟨key, value⟩ := head
        -- A key is found at the same entry, since recasting decides no comparison.
        rw [List.map_cons, recastEntry, insertInto, insertInto, recast_beq]
        split
        · rfl
        · rw [List.map_cons, ih]
          rfl
  rw [recast_eq, recast_eq]
  exact congrArg mk (hinto m.entries)

theorem recast_ofList (entries : List (Value × Value)) :
    (ofList entries).recast f = ofList (entries.map (recastEntry f)) := by
  have hall : ∀ m : Mapping,
      (entries.foldl (fun m entry => m.insert entry.1 entry.2) m).recast f =
        (entries.map (recastEntry f)).foldl (fun m entry => m.insert entry.1 entry.2)
          (m.recast f) := by
    induction entries with
    | nil => exact fun _ => rfl
    | cons head rest ih =>
        intro m
        rw [List.map_cons, List.foldl_cons, List.foldl_cons, ih, recast_insert, recastEntry_fst,
          recastEntry_snd]
  exact hall empty

theorem recast_get? (m : Mapping) (key : Value) :
    (m.recast f).get? (key.recast f) = (m.get? key).map (Value.recast f) := by
  rw [recast_eq]
  unfold get?
  rw [List.find?_map]
  have hkey : ((fun entry : Value × Value => entry.1 == key.recast f) ∘ recastEntry f) =
      fun entry => entry.1 == key := by
    funext entry
    simp only [Function.comp_apply, recastEntry_fst, recast_beq]
  rw [hkey]
  cases m.entries.find? fun entry => entry.1 == key with
  | none => rfl
  | some entry => exact congrArg some (recastEntry_snd f entry)

end Mapping

namespace Host

theorem recast_operation? (h : Host) (name : String) :
    (h.recast f).operation? name = (h.operation? name).map (Operation.recast f) := by
  rw [recast_eq]
  exact NameMap.get?_mapValues _ h.operations name

theorem recast_respondsTo (h : Host) (name : String) :
    (h.recast f).respondsTo name = h.respondsTo name := by
  rw [recast_eq]
  exact NameMap.contains_mapValues _ h.operations name

/-- The names of the operations are untouched. -/
theorem recast_operationNames (h : Host) : (h.recast f).operationNames = h.operationNames := by
  rw [recast_eq]
  exact NameMap.names_mapValues _ h.operations

theorem recast_stored? (h : Host) (name : String) :
    (h.recast f).stored? name = (h.stored? name).map (Value.recast f) := by
  rw [recast_eq]
  unfold stored?
  cases h.store with
  | none => rfl
  | some slots => exact NameMap.get?_mapValues _ slots name

theorem recast_write (h : Host) (name : String) (v : Value) :
    (h.write name v).recast f = (h.recast f).write name (v.recast f) := by
  rw [recast_eq, recast_eq]
  unfold write
  cases h.store with
  | none => rfl
  | some slots =>
      rw [Option.map_some, Option.map_some, Option.getD_some, Option.getD_some,
        NameMap.insert_mapValues]

theorem recast_install (h : Host) (name : String) (op : Operation) :
    (h.install name op).recast f = (h.recast f).install name (op.recast f) := by
  rw [recast_eq, recast_eq]
  unfold install
  rw [NameMap.insert_mapValues]

end Host

theorem recast_attachWith (d : Definition) (inspectable : Bool) (h : Host) :
    (d.attachWith inspectable h).recast f = (d.recast f).attachWith inspectable (h.recast f) := by
  have hall : ∀ (operations : List (String × Operation)) (h : Host),
      (operations.foldl (fun h op => h.install op.1 op.2) h).recast f =
        (NameMap.mapValues (Operation.recast f) operations).foldl
          (fun h op => h.install op.1 op.2) (h.recast f) := by
    intro operations
    induction operations with
    | nil => exact fun _ => rfl
    | cons head rest ih =>
        intro h
        rw [List.foldl_cons, ih, Host.recast_install]
        rfl
  unfold Definition.attachWith
  rw [hall]
  cases inspectable with
  | false => rfl
  | true =>
      simp only [if_true]
      rw [Host.recast_install]
      rfl

theorem recast_attachTo (d : Definition) (h : Host) :
    (d.attachTo h).recast f = (d.recast f).attachTo (h.recast f) :=
  recast_attachWith f d d.inspectable h

end

end FieldSchema
