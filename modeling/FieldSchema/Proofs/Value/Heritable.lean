import FieldSchema.Proofs.Schema.Stock
import FieldSchema.Proofs.Value.Built

/-!
# What Values Hand Down

Conditions on values that making values out of values cannot break.

Whatever code makes, it makes of the values that it was given. It puts them
into lists and maps, appends items, inserts entries and writes to hosts, and it
takes them out of lists and reads them from hosts. A condition is heritable if
it survives each of these steps and holds of everything that has no parts. Such
a condition holds of all that is ever made if it holds of what is given from
outside. That is proved for code elsewhere; here are the steps.

The operations of a host are no parts of it in this sense. They are put there
by scripts and by name, and are not values. Most of the steps leave them alone,
so nothing need be said of them. Where code does change them, a heritable
condition takes no notice.

## Main definitions

* `Value.Closed`: Making values out of values does not break the condition.
* `Value.Heritable`: Nor does anything that is done to the operations of hosts.
* `HostsMeet`: The condition holds of all hosts that have names.

## Theorems

* `Closed.update`: What a write makes of a slot.
* `Closed.literal`: The condition holds of literals if it holds of the hosts that they name.
* `Closed.build`: It holds of what code computes if it holds of what code is given.
* `Heritable.attachWith`: Attaching does not break it, since it stores nothing.
-/

namespace FieldSchema

/-- Making values out of values does not break the condition. -/
structure Value.Closed (S : Value → Prop) : Prop where
  plain : ∀ v : Value, v.isList = false → v.isMap = false → v.isNested = false → S v
  list : ∀ items, S (.list items) ↔ ∀ v ∈ items, S v
  entries : ∀ m, S (.map m) → ∀ entry ∈ m.entries, S entry.1 ∧ S entry.2
  emptyMap : S (.map .empty)
  insert : ∀ m k v, S (.map m) → S k → S v → S (.map (m.insert k v))
  emptyHost : S (.nested .empty)
  stored : ∀ (h : Host) name v, S (.nested h) → h.stored? name = some v → S v
  write : ∀ (h : Host) name v, S (.nested h) → S v → S (.nested (h.write name v))

/-- The condition is one of stores: nothing that is done to the operations of hosts breaks it. -/
structure Value.Heritable (S : Value → Prop) : Prop extends Value.Closed S where
  operations : ∀ h h' : Host, h'.store = h.store → S (.nested h) → S (.nested h')

/-- The condition holds of all hosts that have names. -/
def HostsMeet (S : Value → Prop) (hosts : NameMap Host) : Prop :=
  ∀ name h, NameMap.get? hosts name = some h → S (.nested h)

/-- Making values never breaks a condition that says nothing. -/
theorem Value.closed_trivial : Value.Closed fun _ => True where
  plain _ _ _ _ := trivial
  list _ := ⟨fun _ _ _ => trivial, fun _ => trivial⟩
  entries _ _ _ _ := ⟨trivial, trivial⟩
  emptyMap := trivial
  insert _ _ _ _ _ _ := trivial
  emptyHost := trivial
  stored _ _ _ _ _ := trivial
  write _ _ _ _ _ := trivial

namespace Value.Closed

section

variable {S : Value → Prop} (hS : Closed S)

include hS

theorem nil : S .nil :=
  hS.plain .nil rfl rfl rfl

/-- What may be missing counts as nil then. -/
theorem orNil (found : Option Value) (h : ∀ v, found = some v → S v) : S (found.getD .nil) := by
  cases found with
  | none => exact hS.nil
  | some v => exact h v rfl

theorem getD (items : List Value) (h : ∀ v ∈ items, S v) (i : Nat) : S (items.getD i .nil) := by
  rw [List.getD_eq_getElem?_getD]
  exact hS.orNil _ fun v hv => h v (List.mem_of_getElem? hv)

theorem listItems (v : Value) (h : S v) : ∀ item ∈ listItems v, S item := by
  cases v with
  | list items => exact (hS.list items).mp h
  | _ => exact fun _ h => absurd h List.not_mem_nil

theorem mapEntries (v : Value) (h : S v) : S (.map (mapEntries v)) := by
  cases v with
  | map m => exact h
  | _ => exact hS.emptyMap

theorem ofList (entries : List (Value × Value)) (h : ∀ entry ∈ entries, S entry.1 ∧ S entry.2) :
    S (.map (.ofList entries)) := by
  have hall : ∀ m : Mapping, S (.map m) →
      S (.map (entries.foldl (fun m entry => m.insert entry.1 entry.2) m)) := by
    -- Over any map already gathered, since the fold does not start afresh.
    induction entries with
    | nil => exact fun _ hm => hm
    | cons head rest ih =>
        obtain ⟨hhead, hrest⟩ := List.forall_mem_cons.mp h
        exact fun m hm => ih hrest _ (hS.insert m head.1 head.2 hm hhead.1 hhead.2)
  exact hall .empty hS.emptyMap

theorem wrap (itemCallback : ItemCallback) (v : Value) (h : S v) : S (itemCallback.wrap v) := by
  cases itemCallback with
  | wrapped => exact (hS.list [v]).mpr (List.forall_mem_singleton.mpr h)
  | bare => exact h

theorem readStored (h : Host) (hh : S (.nested h)) (name : String) : S (h.stored name) :=
  hS.orNil _ fun v hv => hS.stored h name v hh hv

/-- What is inside a value has been made before it. -/
theorem part (v : Value) (h : S v) (p : Part) : S (v.part p) := by
  cases p with
  | item i =>
      cases v with
      | list items =>
          exact hS.orNil _ fun w hw => (hS.list items).mp h w (List.mem_of_getElem? hw)
      | _ => exact hS.nil
  | key i =>
      cases v with
      | map m =>
          refine hS.orNil _ fun w hw => ?_
          obtain ⟨entry, hentry, rfl⟩ := Option.map_eq_some_iff.mp hw
          exact (hS.entries m h entry (List.mem_of_getElem? hentry)).1
      | _ => exact hS.nil
  | value i =>
      cases v with
      | map m =>
          refine hS.orNil _ fun w hw => ?_
          obtain ⟨entry, hentry, rfl⟩ := Option.map_eq_some_iff.mp hw
          exact (hS.entries m h entry (List.mem_of_getElem? hentry)).2
      | _ => exact hS.nil
  | stored name =>
      cases v with
      | nested host => exact hS.readStored host h name
      | _ => exact hS.nil

/-- What a write makes of a slot. -/
theorem update (old : Value) (hold : S old) (write : Write) (hwrite : ∀ v ∈ write.added, S v) :
    S (write.update old) := by
  cases write with
  | assign v => exact hwrite v List.mem_cons_self
  -- A slot that holds no list counts as the empty list.
  | append v =>
      refine (hS.list _).mpr (List.forall_mem_append.mpr ⟨hS.listItems old hold, ?_⟩)
      exact List.forall_mem_singleton.mpr (hwrite v List.mem_cons_self)
  -- A slot that holds no map counts as the empty map.
  | enter key v =>
      refine hS.insert _ key v (hS.mapEntries old hold) (hwrite key List.mem_cons_self) ?_
      exact hwrite v (List.mem_cons_of_mem _ List.mem_cons_self)

theorem put (spec : FieldSpec) (write : Write) (hwrite : ∀ v ∈ write.added, S v) (h : Host)
    (hh : S (.nested h)) : S (.nested (spec.put write h)) :=
  hS.write h spec.name _ hh
    (hS.update _ (hS.readStored h hh spec.name) write hwrite)

/-- The callback is given what was written, an item possibly in a list of one. -/
theorem handed (spec : FieldSpec) (write : Write) (hwrite : ∀ v ∈ write.added, S v) :
    ∀ v ∈ spec.handed write, S v := by
  cases write with
  | assign v => exact hwrite
  | append v =>
      rw [spec.handed_append]
      exact List.forall_mem_singleton.mpr (hS.wrap _ v (hwrite v List.mem_cons_self))
  | enter key v => exact hwrite

theorem named (hosts : NameMap Host) (hhosts : HostsMeet S hosts) (name : String) :
    S (.nested (.named hosts name)) := by
  unfold Host.named
  cases hfound : NameMap.get? hosts name with
  | none => exact hS.emptyHost
  | some h => exact hhosts name h hfound

end

mutual

/-- A literal is made of the hosts that it names. -/
theorem literal {S : Value → Prop} (hS : Closed S) (hosts : NameMap Host)
    (hhosts : HostsMeet S hosts) (l : Literal) : S (l.value hosts) := by
  match l with
  | .nil => exact hS.nil
  | .string text => exact hS.plain _ rfl rfl rfl
  | .atom name => exact hS.plain _ rfl rfl rfl
  | .number n => exact hS.plain _ rfl rfl rfl
  | .boolean b => exact hS.plain _ rfl rfl rfl
  | .callable name => exact hS.plain _ rfl rfl rfl
  | .list items => exact (hS.list _).mpr (hS.literals hosts hhosts items)
  | .map entries => exact hS.ofList _ (hS.literalEntries hosts hhosts entries)
  | .host name => exact hS.named hosts hhosts name

theorem literals {S : Value → Prop} (hS : Closed S) (hosts : NameMap Host)
    (hhosts : HostsMeet S hosts) (items : List Literal) :
    ∀ v ∈ literalValues hosts items, S v := by
  match items with
  | [] => exact fun _ h => absurd h List.not_mem_nil
  | item :: rest =>
      exact List.forall_mem_cons.mpr
        ⟨hS.literal hosts hhosts item, hS.literals hosts hhosts rest⟩

theorem literalEntries {S : Value → Prop} (hS : Closed S) (hosts : NameMap Host)
    (hhosts : HostsMeet S hosts) (entries : List (Literal × Literal)) :
    ∀ entry ∈ literalEntries hosts entries, S entry.1 ∧ S entry.2 := by
  match entries with
  | [] => exact fun _ h => absurd h List.not_mem_nil
  | (key, value) :: rest =>
      exact List.forall_mem_cons.mpr
        ⟨⟨hS.literal hosts hhosts key, hS.literal hosts hhosts value⟩,
          hS.literalEntries hosts hhosts rest⟩

end

mutual

/-- What a recipe makes is made of the values that are given, and of literals. -/
theorem build {S : Value → Prop} (hS : Closed S) (hosts : NameMap Host)
    (hhosts : HostsMeet S hosts) (values : List Value) (hvalues : ∀ v ∈ values, S v)
    (recipe : Recipe) : S (recipe.build hosts values) := by
  match recipe with
  | .literal l => exact hS.literal hosts hhosts l
  | .given i => exact hS.getD values hvalues i
  | .part whole p => exact hS.part _ (hS.build hosts hhosts values hvalues whole) p
  | .list items => exact (hS.list _).mpr (hS.buildItems hosts hhosts values hvalues items)
  | .map entries => exact hS.ofList _ (hS.buildEntries hosts hhosts values hvalues entries)

theorem buildItems {S : Value → Prop} (hS : Closed S) (hosts : NameMap Host)
    (hhosts : HostsMeet S hosts) (values : List Value) (hvalues : ∀ v ∈ values, S v)
    (items : List Recipe) : ∀ v ∈ buildItems hosts values items, S v := by
  match items with
  | [] => exact fun _ h => absurd h List.not_mem_nil
  | item :: rest =>
      exact List.forall_mem_cons.mpr ⟨hS.build hosts hhosts values hvalues item,
        hS.buildItems hosts hhosts values hvalues rest⟩

theorem buildEntries {S : Value → Prop} (hS : Closed S) (hosts : NameMap Host)
    (hhosts : HostsMeet S hosts) (values : List Value) (hvalues : ∀ v ∈ values, S v)
    (entries : List (Recipe × Recipe)) :
    ∀ entry ∈ buildEntries hosts values entries, S entry.1 ∧ S entry.2 := by
  match entries with
  | [] => exact fun _ h => absurd h List.not_mem_nil
  | (key, value) :: rest =>
      exact List.forall_mem_cons.mpr ⟨⟨hS.build hosts hhosts values hvalues key,
        hS.build hosts hhosts values hvalues value⟩,
          hS.buildEntries hosts hhosts values hvalues rest⟩

end

end Value.Closed

/-- Attaching stores nothing. -/
theorem Value.Heritable.attachWith {S : Value → Prop} (hS : Value.Heritable S) (d : Definition)
    (inspectable : Bool) (h : Host) (hh : S (.nested h)) :
    S (.nested (d.attachWith inspectable h)) :=
  hS.operations h _ (attachWith_store d inspectable h) hh

end FieldSchema
