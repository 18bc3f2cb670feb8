import FieldSchema.Proofs.Value.Heritable

/-!
# Nested Schemas Mentioned by Values

Which nested schemas a value leads to, and how they spread.

A value leads to a nested schema through a host: an operation of the host was
made for a field with a nested schema. The host can be an item of a list, a
key or a value of a map, or be stored by another host. A nested schema is what
names a cell, so to know that all cells in play are used as they should be is
to know it of all nested schemas that the values in play lead to.

Code makes values out of values. Nothing that it does makes up a nested
schema, so a condition on those that are mentioned is kept by everything that
puts values together or takes them apart. There is a lemma for each such step
below. New nested schemas come from scripts alone.

## Main definitions

* `Operation.schema?`: The nested schema that an operation was made for.
* `Value.Mentions`: A value leads to a nested schema.
* `Value.Confined`, `Host.Confined`, `Definition.Confined`: All that is mentioned meets a condition.

## Theorems

* `confined_list_iff`, `confined_map_iff`, `confined_nested_iff`: What is mentioned by lists, maps and
  hosts.
* `confined_insert`, `confined_write`, `confined_attachWith`: No change brings in anything new.
* `confined_closed`: Nor does anything that code makes out of values.
-/

namespace FieldSchema

/-- The schema nested in the field that the operation was made for. -/
def Operation.schema? (op : Operation) : Option SubSchema :=
  op.spec?.bind fun spec => spec.kind.schema?

/-- The value leads to the nested schema. -/
inductive Value.Mentions (sub : SubSchema) : Value → Prop
  | item (items : List Value) (v : Value) (hv : v ∈ items) (h : Mentions sub v) :
      Mentions sub (.list items)
  | key (m : Mapping) (entry : Value × Value) (hentry : entry ∈ m.entries)
      (h : Mentions sub entry.1) : Mentions sub (.map m)
  | value (m : Mapping) (entry : Value × Value) (hentry : entry ∈ m.entries)
      (h : Mentions sub entry.2) : Mentions sub (.map m)
  | operation (host : Host) (op : String × Operation) (hop : op ∈ host.operations)
      (h : op.2.schema? = some sub) : Mentions sub (.nested host)
  | stored (host : Host) (slot : String × Value) (hslot : slot ∈ host.store.getD [])
      (h : Mentions sub slot.2) : Mentions sub (.nested host)

section

variable (S : SubSchema → Prop)

/-- Every nested schema that the value leads to meets the condition. -/
def Value.Confined (v : Value) : Prop :=
  ∀ sub, v.Mentions sub → S sub

/-- Every nested schema that the host leads to meets the condition. -/
def Host.Confined (h : Host) : Prop :=
  (Value.nested h).Confined S

/-- The nested schema of the operation, if it has one, meets the condition. -/
def Operation.Confined (op : Operation) : Prop :=
  ∀ sub, op.schema? = some sub → S sub

/-- The nested schemas of the definition meet the condition. -/
def Definition.Confined (d : Definition) : Prop :=
  ∀ op ∈ d.operations, op.2.Confined S

namespace Value

theorem Confined.mono (v : Value) (T : SubSchema → Prop) (h : v.Confined S)
    (hT : ∀ sub, S sub → T sub) : v.Confined T :=
  fun sub hsub => hT sub (h sub hsub)

theorem confined_list_iff (items : List Value) :
    (list items).Confined S ↔ ∀ v ∈ items, v.Confined S := by
  constructor
  · exact fun h v hv sub hsub => h sub (.item items v hv hsub)
  · intro h sub hsub
    cases hsub with
    | item _ v hv hmentions => exact h v hv sub hmentions

theorem confined_map_iff (m : Mapping) :
    (map m).Confined S ↔ ∀ entry ∈ m.entries, entry.1.Confined S ∧ entry.2.Confined S := by
  constructor
  · exact fun h entry hentry => ⟨fun sub hsub => h sub (.key m entry hentry hsub),
      fun sub hsub => h sub (.value m entry hentry hsub)⟩
  · intro h sub hsub
    cases hsub with
    | key _ entry hentry hmentions => exact (h entry hentry).1 sub hmentions
    | value _ entry hentry hmentions => exact (h entry hentry).2 sub hmentions

theorem confined_nested_iff (host : Host) :
    (nested host).Confined S ↔
      (∀ op ∈ host.operations, op.2.Confined S) ∧
        ∀ slot ∈ host.store.getD [], slot.2.Confined S := by
  constructor
  · exact fun h => ⟨fun op hop sub hsub => h sub (.operation host op hop hsub),
      fun slot hslot sub hsub => h sub (.stored host slot hslot hsub)⟩
  · rintro ⟨hoperations, hstored⟩ sub hsub
    cases hsub with
    | operation _ op hop hschema => exact hoperations op hop sub hschema
    | stored _ slot hslot hmentions => exact hstored slot hslot sub hmentions

/-- What is neither a list nor a map nor a host leads to nothing. -/
theorem confined_of_plain (v : Value) (hlist : v.isList = false) (hmap : v.isMap = false)
    (hnested : v.isNested = false) : v.Confined S := by
  intro sub hsub
  cases hsub with
  | item => exact nomatch hlist
  | key => exact nomatch hmap
  | value => exact nomatch hmap
  | operation => exact nomatch hnested
  | stored => exact nomatch hnested

theorem confined_append (xs ys : List Value) (hxs : (list xs).Confined S)
    (hys : (list ys).Confined S) : (list (xs ++ ys)).Confined S := by
  rw [confined_list_iff] at hxs hys ⊢
  intro v hv
  rcases List.mem_append.mp hv with hx | hy
  · exact hxs v hx
  · exact hys v hy

theorem confined_insert (m : Mapping) (k v : Value) (hm : (map m).Confined S) (hk : k.Confined S)
    (hv : v.Confined S) : (map (m.insert k v)).Confined S := by
  rw [confined_map_iff] at hm ⊢
  exact Mapping.forall_mem_insertInto _ _ k v m.entries hm hk hv

end Value

namespace Host

theorem confined_empty : Host.empty.Confined S :=
  (Value.confined_nested_iff S .empty).mpr
    ⟨fun _ h => absurd h List.not_mem_nil, fun _ h => absurd h List.not_mem_nil⟩

theorem confined_operation? (h : Host) (hh : h.Confined S) (name : String) (op : Operation)
    (hop : h.operation? name = some op) : op.Confined S :=
  ((Value.confined_nested_iff S h).mp hh).1 (name, op) (NameMap.mem_of_get? h.operations name op hop)

theorem confined_stored? (h : Host) (hh : h.Confined S) (name : String) (v : Value)
    (hv : h.stored? name = some v) : v.Confined S := by
  refine ((Value.confined_nested_iff S h).mp hh).2 (name, v) ?_
  unfold stored? at hv
  cases hstore : h.store with
  | none =>
      rw [hstore] at hv
      exact nomatch hv
  | some slots =>
      rw [hstore] at hv
      exact NameMap.mem_of_get? slots name v hv

theorem confined_write (h : Host) (hh : h.Confined S) (name : String) (v : Value)
    (hv : v.Confined S) : (h.write name v).Confined S := by
  obtain ⟨hoperations, hstored⟩ := (Value.confined_nested_iff S h).mp hh
  exact (Value.confined_nested_iff S _).mpr
    ⟨hoperations, NameMap.forall_mem_insert (h.store.getD []) name v hstored hv⟩

theorem confined_install (h : Host) (hh : h.Confined S) (name : String) (op : Operation)
    (hop : op.Confined S) : (h.install name op).Confined S := by
  obtain ⟨hoperations, hstored⟩ := (Value.confined_nested_iff S h).mp hh
  exact (Value.confined_nested_iff S _).mpr
    ⟨NameMap.forall_mem_insert h.operations name op hoperations hop, hstored⟩

end Host

/-- What code makes of values leads to nothing that they do not lead to. -/
theorem confined_closed : Value.Closed (Value.Confined S) where
  plain v := Value.confined_of_plain S v
  list items := Value.confined_list_iff S items
  entries m := (Value.confined_map_iff S m).mp
  emptyMap := (Value.confined_map_iff S .empty).mpr fun _ h => absurd h List.not_mem_nil
  insert m k v hm hk hv := Value.confined_insert S m k v hm hk hv
  emptyHost := Host.confined_empty S
  stored h name v hh hv := Host.confined_stored? S h hh name v hv
  write h name v hh hv := Host.confined_write S h hh name v hv

theorem Operation.confined_inspect : Operation.inspect.Confined S :=
  fun _ h => nomatch h

theorem Operation.confined_custom (name : String) (trace : Bool) (body : Expr) :
    (Operation.custom name trace body).Confined S :=
  fun _ h => nomatch h

/-- Attaching brings in what the definition mentions and nothing else. -/
theorem confined_attachWith (d : Definition) (hd : d.Confined S) (inspectable : Bool) (h : Host)
    (hh : h.Confined S) : (d.attachWith inspectable h).Confined S := by
  -- Operations are installed one after another.
  have hall : ∀ (operations : List (String × Operation)) (h : Host),
      (∀ op ∈ operations, op.2.Confined S) → h.Confined S →
        (operations.foldl (fun h op => h.install op.1 op.2) h).Confined S := by
    intro operations
    induction operations with
    | nil => exact fun _ _ hh => hh
    | cons head rest ih =>
        intro h hoperations hh
        obtain ⟨hhead, hrest⟩ := List.forall_mem_cons.mp hoperations
        exact ih _ hrest (Host.confined_install S h hh head.1 head.2 hhead)
  unfold Definition.attachWith
  refine hall d.operations _ hd ?_
  cases inspectable with
  | false => exact hh
  | true => exact Host.confined_install S h hh _ _ (Operation.confined_inspect S)

theorem confined_instantiate (d : Definition) (hd : d.Confined S) : d.instantiate.Confined S :=
  confined_attachWith S d hd d.inspectable .empty (Host.confined_empty S)

/-- Every nested schema that the named hosts lead to meets the condition. -/
def HostsConfined (hosts : NameMap Host) : Prop :=
  ∀ name h, NameMap.get? hosts name = some h → h.Confined S

end

end FieldSchema
