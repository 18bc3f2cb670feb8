import FieldSchema.Proofs.Accessor.Plan
import FieldSchema.Proofs.Host.Admission
import FieldSchema.Proofs.Value.Sides

/-!
# Values Made by Their Own Operations

Which values come about when nobody reaches into them.

A map is a list of entries and a host's store a list of slots, and not every
list will do: a key that stands twice is found once, and two stores that list
their names in different orders are unequal. Nothing that a program can call
makes such lists. A map is only ever made by inserting entries, and a store by
writing slots. `Built` says just that, and says it of every value inside as
well, of keys and of stored values.

What equality needs of such a value is less than how it was made: keys that
stand once and names in order. `Over` keeps these two and forgets the rest. It
leaves open of what set the parts are, so that an argument about a value can
be about its parts first.

Doubles are left out of `Built`. One double can equal two whole numbers.

## Main definitions

* `Host.writeAll`: A host after several writes.
* `Value.Built`: A value without doubles, made by the operations of maps and hosts.
* `Mapping.Over`, `Value.Over`: Well-formed, and made of values of a set.

## Theorems

* `Built.over`: What is built is well-formed, and what it is made of is built.
* `put_built`: What an accessor writes leaves a host built.
-/

namespace FieldSchema

/-- The host after several writes, one after another. -/
def Host.writeAll (writes : List (String × Value)) (h : Host) : Host :=
  writes.foldl (fun host slot => host.write slot.1 slot.2) h

namespace Value

/-- A value without doubles whose maps and hosts, at every depth, were made by their own
    operations; the operations of a host can be any. -/
inductive Built : Value → Prop where
  | nil : Built .nil
  | string (text : String) : Built (.string text)
  | atom (name : String) : Built (.atom name)
  | whole (n : Int64) : Built (.number (.int n))
  | boolean (b : Bool) : Built (.boolean b)
  | callable (name : String) : Built (.callable name)
  | list (items : List Value) (h : ∀ v ∈ items, Built v) : Built (.list items)
  | map (entries : List (Value × Value)) (hkeys : ∀ entry ∈ entries, Built entry.1)
      (hvalues : ∀ entry ∈ entries, Built entry.2) : Built (.map (.ofList entries))
  /-- The store can have been created before the first write and been left empty. -/
  | nested (operations : List (String × Operation)) (store : Option (List (String × Value)))
      (hstore : store.getD [] = []) (writes : List (String × Value))
      (h : ∀ slot ∈ writes, Built slot.2) : Built (.nested (Host.writeAll writes ⟨operations, store⟩))

end Value

/-- The keys and values are of a set, and no key equals a later one. -/
structure Mapping.Over (S : Value → Prop) (m : Mapping) : Prop where
  keys : ∀ entry ∈ m.entries, S entry.1
  values : ∀ entry ∈ m.entries, S entry.2
  distinct : m.entries.Pairwise fun earlier later => (earlier.1 == later.1) = false

/-- The stored values are of a set, and the names of the slots are in order. -/
structure Host.Over (S : Value → Prop) (h : Host) : Prop where
  values : ∀ slot ∈ h.store.getD [], S slot.2
  sorted : NameMap.Sorted (h.store.getD [])

/-- The value is neither a double nor made of other values. -/
def Value.Simple : Value → Prop
  | .nil => True
  | .string _ => True
  | .atom _ => True
  | .number (.int _) => True
  | .number (.float _) => False
  | .boolean _ => True
  | .callable _ => True
  | .list _ => False
  | .map _ => False
  | .nested _ => False

/-- A well-formed value that is no double and is made of values of a set. -/
inductive Value.Over (S : Value → Prop) : Value → Prop where
  | simple (v : Value) (h : v.Simple) : Over S v
  | list (items : List Value) (h : ∀ v ∈ items, S v) : Over S (.list items)
  | map (mapping : Mapping) (h : mapping.Over S) : Over S (.map mapping)
  | nested (host : Host) (h : host.Over S) : Over S (.nested host)

namespace Mapping

variable (S : Value → Prop)

theorem insert_over (m : Mapping) (k v : Value) (hm : m.Over S) (hk : S k) (hv : S v) :
    (m.insert k v).Over S where
  keys := insertInto_keys S k v m.entries hm.keys hk
  values := insertInto_values S k v m.entries hm.values hv
  distinct := pairwise_insertInto k v m.entries hm.distinct

theorem empty_over : empty.Over S where
  keys _ h := absurd h List.not_mem_nil
  values _ h := absurd h List.not_mem_nil
  distinct := List.Pairwise.nil

theorem insertAll_over (entries : List (Value × Value)) (m : Mapping) (hm : m.Over S)
    (hkeys : ∀ entry ∈ entries, S entry.1) (hvalues : ∀ entry ∈ entries, S entry.2) :
    (entries.foldl (fun m entry => m.insert entry.1 entry.2) m).Over S := by
  induction entries generalizing m with
  | nil => exact hm
  | cons head rest ih =>
      refine ih (m.insert head.1 head.2) ?_ (fun entry h => hkeys entry (List.mem_cons_of_mem _ h))
        fun entry h => hvalues entry (List.mem_cons_of_mem _ h)
      exact insert_over S m head.1 head.2 hm (hkeys head List.mem_cons_self)
        (hvalues head List.mem_cons_self)

/-- Entries that were inserted one after another have distinct keys. -/
theorem ofList_over (entries : List (Value × Value)) (hkeys : ∀ entry ∈ entries, S entry.1)
    (hvalues : ∀ entry ∈ entries, S entry.2) : (ofList entries).Over S :=
  insertAll_over S entries empty (empty_over S) hkeys hvalues

/-- Entering a value after some entries is entering it as the last of them. -/
theorem insert_ofList (entries : List (Value × Value)) (k v : Value) :
    (ofList entries).insert k v = ofList (entries ++ [(k, v)]) := by
  rw [ofList, ofList, List.foldl_append]
  rfl

end Mapping

namespace Host

variable (S : Value → Prop)

theorem write_over (h : Host) (name : String) (v : Value) (hh : h.Over S) (hv : S v) :
    (h.write name v).Over S where
  values := NameMap.forall_mem_insert (h.store.getD []) name v hh.values hv
  sorted := NameMap.insert_sorted (h.store.getD []) name v hh.sorted

theorem writeAll_over (writes : List (String × Value)) (h : Host) (hh : h.Over S)
    (hwrites : ∀ slot ∈ writes, S slot.2) : (writeAll writes h).Over S := by
  induction writes generalizing h with
  | nil => exact hh
  | cons head rest ih =>
      refine ih (h.write head.1 head.2) ?_ fun slot hslot =>
        hwrites slot (List.mem_cons_of_mem _ hslot)
      exact write_over S h head.1 head.2 hh (hwrites head List.mem_cons_self)

theorem unwritten_over (operations : List (String × Operation))
    (store : Option (List (String × Value))) (h : store.getD [] = []) :
    Over S ⟨operations, store⟩ where
  values slot hslot := by
    rw [h] at hslot
    exact absurd hslot List.not_mem_nil
  sorted := by
    rw [h]
    exact List.Pairwise.nil

theorem write_writeAll (writes : List (String × Value)) (h : Host) (name : String) (v : Value) :
    (writeAll writes h).write name v = writeAll (writes ++ [(name, v)]) h := by
  rw [writeAll, writeAll, List.foldl_append]
  rfl

end Host

namespace Value

/-- What is built is well-formed, and so is everything that it is made of. -/
theorem Built.over (v : Value) (h : v.Built) : v.Over Built := by
  cases h with
  | nil => exact .simple _ trivial
  | string text => exact .simple _ trivial
  | atom name => exact .simple _ trivial
  | whole n => exact .simple _ trivial
  | boolean b => exact .simple _ trivial
  | callable name => exact .simple _ trivial
  | list items h => exact .list items h
  | map entries hkeys hvalues =>
      exact .map (Mapping.ofList entries) (Mapping.ofList_over Built entries hkeys hvalues)
  | nested operations store hstore writes h =>
      have hempty := Host.unwritten_over Built operations store hstore
      exact .nested _ (Host.writeAll_over Built writes _ hempty h)

theorem Built.mapping (m : Mapping) (hm : (Value.map m).Built) : m.Over Built := by
  cases Built.over _ hm with
  | simple _ h => exact False.elim h
  | map _ h => exact h

theorem Built.host (h : Host) (hh : (Value.nested h).Built) : h.Over Built := by
  cases Built.over _ hh with
  | simple _ h => exact False.elim h
  | nested _ h => exact h

theorem Built.insert (m : Mapping) (k v : Value) (hm : (Value.map m).Built) (hk : k.Built)
    (hv : v.Built) : (Value.map (m.insert k v)).Built := by
  cases hm with
  | map entries hkeys hvalues =>
      rw [Mapping.insert_ofList]
      refine .map _ (fun entry hentry => ?_) fun entry hentry => ?_
      · rcases List.mem_append.mp hentry with hold | hnew
        · exact hkeys entry hold
        · rw [List.mem_singleton.mp hnew]
          exact hk
      · rcases List.mem_append.mp hentry with hold | hnew
        · exact hvalues entry hold
        · rw [List.mem_singleton.mp hnew]
          exact hv

theorem Built.write (h : Host) (name : String) (v : Value) (hh : (Value.nested h).Built)
    (hv : v.Built) : (Value.nested (h.write name v)).Built := by
  cases hh with
  | nested operations store hstore writes hwrites =>
      rw [Host.write_writeAll]
      refine .nested operations store hstore _ fun slot hslot => ?_
      rcases List.mem_append.mp hslot with hold | hnew
      · exact hwrites slot hold
      · rw [List.mem_singleton.mp hnew]
        exact hv

theorem Built.stored (h : Host) (hh : (Value.nested h).Built) (name : String) :
    (h.stored name).Built := by
  have hover := Built.host h hh
  unfold Host.stored Host.stored?
  cases hstore : h.store with
  | none => exact .nil
  | some slots =>
      rw [Option.bind_some]
      cases hfound : NameMap.get? slots name with
      | none => exact .nil
      | some v =>
          refine hover.values (name, v) ?_
          rw [hstore]
          exact NameMap.mem_of_get? slots name v hfound

end Value

/-- The values that a write adds. -/
def Write.added : Write → List Value
  | .assign v => [v]
  | .append v => [v]
  | .enter key v => [key, v]

/-- A write of built values makes a built value out of one. -/
theorem Write.update_built (write : Write) (old : Value) (hwrite : ∀ v ∈ write.added, v.Built)
    (hold : old.Built) : (write.update old).Built := by
  cases write with
  | assign v => exact hwrite v List.mem_cons_self
  | append v =>
      refine .list _ fun item hitem => ?_
      rcases List.mem_append.mp hitem with hbefore | hnew
      -- What is no list has no items, and the new one stands alone.
      · cases hold with
        | list items h => exact h item hbefore
        | _ => exact absurd hbefore List.not_mem_nil
      · rw [List.mem_singleton.mp hnew]
        exact hwrite v List.mem_cons_self
  | enter key v =>
      -- What is no map counts as an empty one.
      have hentries : (Value.map (mapEntries old)).Built := by
        cases hold with
        | map entries hkeys hvalues => exact .map entries hkeys hvalues
        | _ => exact .map [] (fun _ h => absurd h List.not_mem_nil) fun _ h =>
            absurd h List.not_mem_nil
      exact .insert _ key v hentries (hwrite key List.mem_cons_self)
        (hwrite v (List.mem_cons_of_mem _ List.mem_cons_self))

/-- What an accessor writes leaves a host built. -/
theorem FieldSpec.put_built (spec : FieldSpec) (write : Write) (h : Host)
    (hwrite : ∀ v ∈ write.added, v.Built) (hh : (Value.nested h).Built) :
    (Value.nested (spec.put write h)).Built :=
  .write h spec.name _ hh (write.update_built _ hwrite (.stored h hh spec.name))

end FieldSchema
