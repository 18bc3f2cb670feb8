import FieldSchema.Proofs.Sharing.Unseen
import FieldSchema.Proofs.Value.Heritable

/-!
# How Hosts Are Shown

The text of a host, and of the hosts within it.

A host is shown by what it stores: each name once, in order, and after it the
text of its value. If the value is a host, that is the text of the host, which
is made in the same way, and so on as deep as hosts are nested.

The order is that of the store, and a store is a list of slots. It is in order
because slots are only ever written by name. For hosts that come in from
outside that has to be assumed, at every depth; then it holds of every host
there is, because writing and passing on are all that is done with values.

## Main definitions

* `Value.Contains`: The value is or leads to the host.
* `Value.Orderly`: All stores in the value are in order.
* `Host.ShownInOrder`: The text is that of the stored values, in the order of their names.

## Theorems

* `host_render`: The text of a host is made slot by slot.
* `orderly_heritable`: Nothing that is done with values puts a store out of order.
* `shown_of_orderly`: So every host in such a value is shown in order.
* `render_stored_lt`: The text of a stored value is shorter than that of the host.
-/

namespace FieldSchema

/-- The value is the host or leads to it. -/
inductive Value.Contains (inner : Host) : Value → Prop
  | self : Contains inner (.nested inner)
  | item (items : List Value) (v : Value) (hv : v ∈ items) (h : Contains inner v) :
      Contains inner (.list items)
  | key (m : Mapping) (entry : Value × Value) (hentry : entry ∈ m.entries)
      (h : Contains inner entry.1) : Contains inner (.map m)
  | value (m : Mapping) (entry : Value × Value) (hentry : entry ∈ m.entries)
      (h : Contains inner entry.2) : Contains inner (.map m)
  | stored (host : Host) (slot : String × Value) (hslot : slot ∈ host.store.getD [])
      (h : Contains inner slot.2) : Contains inner (.nested host)

/-- The names in all stores that the value leads to are in order. -/
def Value.Orderly (v : Value) : Prop :=
  ∀ inner : Host, v.Contains inner → NameMap.Sorted (inner.store.getD [])

namespace Value

theorem orderly_list_iff (items : List Value) :
    (list items).Orderly ↔ ∀ v ∈ items, v.Orderly := by
  constructor
  · exact fun h v hv inner hinner => h inner (.item items v hv hinner)
  · intro h inner hinner
    cases hinner with
    | item _ v hv hcontains => exact h v hv inner hcontains

theorem orderly_map_iff (m : Mapping) :
    (map m).Orderly ↔ ∀ entry ∈ m.entries, entry.1.Orderly ∧ entry.2.Orderly := by
  constructor
  · exact fun h entry hentry => ⟨fun inner hinner => h inner (.key m entry hentry hinner),
      fun inner hinner => h inner (.value m entry hentry hinner)⟩
  · intro h inner hinner
    -- A host inside a map stands under a key or under a value.
    cases hinner with
    | key _ entry hentry hcontains => exact (h entry hentry).1 inner hcontains
    | value _ entry hentry hcontains => exact (h entry hentry).2 inner hcontains

theorem orderly_nested_iff (h : Host) :
    (nested h).Orderly ↔
      NameMap.Sorted (h.store.getD []) ∧ ∀ slot ∈ h.store.getD [], slot.2.Orderly := by
  constructor
  · exact fun hall => ⟨hall h .self, fun slot hslot inner hinner =>
      hall inner (.stored h slot hslot hinner)⟩
  · rintro ⟨hsorted, hslots⟩ inner hinner
    cases hinner with
    | self => exact hsorted
    | stored _ slot hslot hcontains => exact hslots slot hslot inner hcontains

end Value

/-- Nothing that is done with values puts a store out of order. -/
theorem orderly_heritable : Value.Heritable Value.Orderly where
  plain v hlist hmap hnested := by
    intro inner hinner
    cases hinner with
    | self => exact nomatch hnested
    | item => exact nomatch hlist
    | key => exact nomatch hmap
    | value => exact nomatch hmap
    | stored => exact nomatch hnested
  list := Value.orderly_list_iff
  entries m := (Value.orderly_map_iff m).mp
  emptyMap := (Value.orderly_map_iff .empty).mpr fun _ h => absurd h List.not_mem_nil
  insert m k v hm hk hv := by
    rw [Value.orderly_map_iff] at hm ⊢
    exact Mapping.forall_mem_insertInto _ _ k v m.entries hm hk hv
  emptyHost := (Value.orderly_nested_iff .empty).mpr
    ⟨List.Pairwise.nil, fun _ h => absurd h List.not_mem_nil⟩
  operations h h' hstore hh := by
    rw [Value.orderly_nested_iff] at hh ⊢
    rw [hstore]
    exact hh
  stored h name v hh hfound := by
    rw [stored?_eq] at hfound
    exact ((Value.orderly_nested_iff h).mp hh).2 (name, v) (NameMap.mem_of_get? _ _ _ hfound)
  write h name v hh hv := by
    obtain ⟨hsorted, hslots⟩ := (Value.orderly_nested_iff h).mp hh
    exact (Value.orderly_nested_iff _).mpr ⟨NameMap.insert_sorted _ name v hsorted,
      NameMap.forall_mem_insert _ name v hslots hv⟩

/-- The text of a host is made slot by slot. -/
theorem host_render (h : Host) :
    h.render = "#<Host".toList ++ (h.store.getD []).flatMap renderField ++ ['>'] := by
  have hfields : ∀ slots, renderFields slots = slots.flatMap renderField := by
    intro slots
    induction slots with
    | nil => rfl
    | cons slot rest ih =>
        rw [List.flatMap_cons, ← ih]
        rfl
  obtain ⟨operations, store⟩ := h
  rw [Host.render_eq]
  -- A host that was never written to shows no fields.
  cases store with
  | none => rfl
  | some slots => exact congrArg (fun text => "#<Host".toList ++ text ++ ['>']) (hfields slots)

/-- The text of the host shows each stored value once, after its name and in the order of the
    names; and it is the same text where the host is a value. -/
structure Host.ShownInOrder (h : Host) : Prop where
  text : h.toText.toList = "#<Host".toList ++
    (h.store.getD []).flatMap (fun slot => ' ' :: slot.1.toList ++ '=' :: slot.2.toText.toList) ++
    ['>']
  slots : ∀ name v, (name, v) ∈ h.store.getD [] ↔ h.stored? name = some v
  sorted : (NameMap.names (h.store.getD [])).Pairwise (· < ·)
  value : (Value.nested h).toText = h.toText

/-- Every host in an orderly value is shown in order. -/
theorem shown_of_orderly (v : Value) (hv : v.Orderly) (inner : Host) (h : v.Contains inner) :
    inner.ShownInOrder where
  text := by
    have hfield : renderField =
        fun slot => ' ' :: slot.1.toList ++ '=' :: slot.2.toText.toList := by
      funext ⟨name, v⟩
      rw [Value.toText, String.toList_ofList]
      rfl
    rw [Host.toText, String.toList_ofList, host_render, hfield]
  slots name v := by
    have hnodup := NameMap.nodup_of_sorted _ (hv inner h)
    rw [stored?_eq]
    exact (NameMap.get?_eq_some_iff _ name v hnodup).symm
  sorted := hv inner h
  value := rfl

/-- The text of a stored value is shorter than that of the host. -/
theorem render_stored_lt (h : Host) (slot : String × Value) (hslot : slot ∈ h.store.getD []) :
    slot.2.render.length < h.render.length := by
  have hfield : slot.2.render.length ≤ (renderField slot).length := by
    obtain ⟨name, v⟩ := slot
    change v.render.length ≤ (' ' :: name.toList ++ '=' :: v.render).length
    simp only [List.length_append, List.length_cons]
    omega
  have hfields : (renderField slot).length ≤ ((h.store.getD []).flatMap renderField).length :=
    (List.sublist_flatten_of_mem (List.mem_map_of_mem hslot)).length_le
  rw [host_render]
  simp only [List.length_append, List.length_singleton]
  omega

/-- A quotation is not shorter than what is quoted. -/
theorem quoted_length (text : List Char) : text.length ≤ (Text.quoted text).length := by
  -- No character is escaped to nothing.
  have hescape : ∀ c, 1 ≤ (Text.escape c).length := by
    intro c
    unfold Text.escape
    repeat' split
    all_goals
      simp only [List.length_append, List.length_cons]
      omega
  have hall : text.length ≤ (text.flatMap Text.escape).length := by
    induction text with
    | nil => exact Nat.le_refl 0
    | cons c rest ih =>
        have hc := hescape c
        rw [List.flatMap_cons, List.length_append, List.length_cons]
        omega
  unfold Text.quoted
  simp only [List.length_append, List.length_cons]
  omega

end FieldSchema
