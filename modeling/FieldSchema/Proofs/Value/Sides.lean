import Mathlib.Data.List.Find
import Mathlib.Data.List.Forall2
import FieldSchema.Value.Equality

/-!
# The Two Sides of an Equality

Equality of values in a form that can be read without the recursion.

The test of two maps asks the second about the keys of the first, and it asks
with the sides changed. To be a recursion on one argument it carries a flag
for that. The flag can be dispensed with afterwards: `sameFrom` with the flag
set is equality with its arguments in the other order, for all values, whether
or not equality is symmetric. With it go the auxiliary functions, and what is
left of each case is a sentence about items, entries or slots.

The family of values is nested in lists and pairs, so its recursion principle
has a hypothesis for each of these types. `Value.inductOn` is what is needed
of it: a value may be assumed to be made of values for which the claim holds.

## Main definitions

* `Mapping.finds`: A list of entries has an equal entry where it is looked up.

## Theorems

* `sizeOf_item_lt`, `sizeOf_entry_lt`, `sizeOf_slot_lt`: Parts are smaller than what they are in.
* `Value.inductOn`: Induction over the parts of a value.
* `sameFrom_swap`: The flag exchanges the two sides.
* `list_beq_iff`, `map_beq_iff`, `nested_beq_iff`: Equality of lists, of maps and of hosts.
-/

namespace FieldSchema

namespace Value

theorem sizeOf_item_lt (items : List Value) (v : Value) (h : v ∈ items) :
    sizeOf v < sizeOf (list items) := by
  have hlt := List.sizeOf_lt_of_mem h
  simp only [list.sizeOf_spec]
  omega

theorem sizeOf_entry_lt (entries : List (Value × Value)) (entry : Value × Value)
    (h : entry ∈ entries) : sizeOf entry.1 + sizeOf entry.2 < sizeOf (map ⟨entries⟩) := by
  have hlt := List.sizeOf_lt_of_mem h
  obtain ⟨k, v⟩ := entry
  simp only [Prod.mk.sizeOf_spec] at hlt
  simp only [map.sizeOf_spec, Mapping.mk.sizeOf_spec]
  omega

theorem sizeOf_slot_lt (operations : List (String × Operation)) (slots : List (String × Value))
    (slot : String × Value) (h : slot ∈ slots) :
    sizeOf slot.2 < sizeOf (nested ⟨operations, some slots⟩) := by
  have hlt := List.sizeOf_lt_of_mem h
  obtain ⟨name, v⟩ := slot
  simp only [Prod.mk.sizeOf_spec] at hlt
  simp only [nested.sizeOf_spec, Host.mk.sizeOf_spec, Option.some.sizeOf_spec]
  omega

/-- What holds of a value whenever it holds of its parts holds of every value. -/
@[elab_as_elim]
theorem inductOn {motive : Value → Prop} (v : Value) (nil : motive nil)
    (string : ∀ text, motive (.string text)) (atom : ∀ name, motive (.atom name))
    (number : ∀ n, motive (.number n)) (boolean : ∀ b, motive (.boolean b))
    (callable : ∀ name, motive (.callable name))
    (list : ∀ items, (∀ v ∈ items, motive v) → motive (.list items))
    (map : ∀ entries : List (Value × Value), (∀ entry ∈ entries, motive entry.1) →
      (∀ entry ∈ entries, motive entry.2) → motive (.map ⟨entries⟩))
    (nested : ∀ operations store, (∀ slots, store = some slots → ∀ slot ∈ slots, motive slot.2) →
      motive (.nested ⟨operations, store⟩)) : motive v := by
  -- On the size of the value; the parts of every constructor are smaller than the whole.
  have ih : ∀ w, sizeOf w < sizeOf v → motive w := fun w _ =>
    inductOn w nil string atom number boolean callable list map nested
  cases v with
  | nil => exact nil
  | string text => exact string text
  | atom name => exact atom name
  | number n => exact number n
  | boolean b => exact boolean b
  | callable name => exact callable name
  | list items => exact list items fun w hw => ih w (sizeOf_item_lt items w hw)
  | map mapping =>
      obtain ⟨entries⟩ := mapping
      have hlt := sizeOf_entry_lt entries
      refine map entries (fun entry hentry => ih entry.1 ?_) fun entry hentry => ih entry.2 ?_
      · exact Nat.lt_of_le_of_lt (Nat.le_add_right _ _) (hlt entry hentry)
      · exact Nat.lt_of_le_of_lt (Nat.le_add_left _ _) (hlt entry hentry)
  | nested host =>
      obtain ⟨operations, store⟩ := host
      refine nested operations store ?_
      rintro slots rfl slot hslot
      exact ih slot.2 (sizeOf_slot_lt operations slots slot hslot)
termination_by sizeOf v

end Value

theorem Binary64.same_comm (x y : Binary64) : x.same y = y.same x := by
  cases x <;> cases y <;>
    first
    | rfl
    | simp only [same, aligned, Bool.beq_comm, Int.min_comm]

theorem Number.same_comm (m n : Number) : m.same n = n.same m := by
  cases m <;> cases n <;>
    first
    | exact Bool.beq_comm
    | exact Binary64.same_comm _ _

/-- Under the first key that equals the entry's, the list has a value that equals the entry's. -/
def Mapping.finds (entries : List (Value × Value)) (x : Value × Value) : Bool :=
  match entries.find? fun entry => entry.1 == x.1 with
  | some entry => entry.2 == x.2
  | none => false

theorem holdsEntry_eq_finds (entries : List (Value × Value)) (x : Value × Value) :
    holdsEntry entries x = Mapping.finds entries x := by
  induction entries with
  | nil => rfl
  | cons head rest ih =>
      obtain ⟨k, v⟩ := head
      simp only [Mapping.finds, holdsEntry, answersEntry, List.find?_cons]
      cases h : k.sameFrom false x.1 with
      | true =>
          have hfound : (k == x.1) = true := h
          rw [hfound]
          rfl
      | false =>
          have hpassed : (k == x.1) = false := h
          rw [hpassed]
          exact ih

/-- Entries are looked up from either side alike if the flag exchanges the sides of each question. -/
theorem entryFound_eq_finds (x : Value × Value) (entries : List (Value × Value))
    (hkey : ∀ entry ∈ entries, x.1.sameFrom true entry.1 = (entry.1 == x.1))
    (hvalue : ∀ entry ∈ entries, x.2.sameFrom true entry.2 = (entry.2 == x.2)) :
    entryFound x entries = Mapping.finds entries x := by
  obtain ⟨k, v⟩ := x
  rw [entryFound, Mapping.finds, List.find?_congr hkey]
  cases hfound : entries.find? fun entry => entry.1 == k with
  | none => rfl
  | some entry => exact hvalue entry (List.mem_of_find?_eq_some hfound)

theorem entriesFound_eq_all (xs ys : List (Value × Value))
    (hkey : ∀ x ∈ xs, ∀ y ∈ ys, x.1.sameFrom true y.1 = (y.1 == x.1))
    (hvalue : ∀ x ∈ xs, ∀ y ∈ ys, x.2.sameFrom true y.2 = (y.2 == x.2)) :
    entriesFound xs ys = xs.all (Mapping.finds ys) := by
  induction xs with
  | nil => rfl
  | cons head rest ih =>
      rw [entriesFound, List.all_cons, entryFound_eq_finds head ys
        (hkey head List.mem_cons_self) (hvalue head List.mem_cons_self)]
      rw [ih (fun x hx => hkey x (List.mem_cons_of_mem _ hx))
        fun x hx => hvalue x (List.mem_cons_of_mem _ hx)]

/-- The flag exchanges the two sides of lists if it does so for the items of the first. -/
theorem sameItems_swap (items : List Value)
    (hitems : ∀ v ∈ items, ∀ w b, v.sameFrom b w = w.sameFrom (!b) v) (others : List Value)
    (b : Bool) : sameItems b items others = sameItems (!b) others items := by
  induction items generalizing others with
  | nil => cases others <;> rfl
  | cons head rest ih =>
      cases others with
      | nil => rfl
      | cons other others =>
          rw [sameItems, sameItems, hitems head List.mem_cons_self,
            ih fun v hv => hitems v (List.mem_cons_of_mem _ hv)]

/-- The flag exchanges the two sides of stores if it does so for the values of the first. -/
theorem sameNamed_swap (slots : List (String × Value))
    (hslots : ∀ slot ∈ slots, ∀ w b, slot.2.sameFrom b w = w.sameFrom (!b) slot.2)
    (others : List (String × Value)) (b : Bool) :
    sameNamed b slots others = sameNamed (!b) others slots := by
  induction slots generalizing others with
  | nil => cases others <;> rfl
  | cons head rest ih =>
      cases others with
      | nil => rfl
      | cons other others =>
          have hentry : sameNamedEntry b head other = sameNamedEntry (!b) other head := by
            rw [sameNamedEntry, sameNamedEntry, hslots head List.mem_cons_self, Bool.beq_comm]
          rw [sameNamed, sameNamed, hentry,
            ih fun slot hslot => hslots slot (List.mem_cons_of_mem _ hslot)]

theorem sameStores_eq_sameNamed (b : Bool) (store : Option (List (String × Value)))
    (others : List (String × Value)) :
    sameStores b store others = sameNamed b (store.getD []) others := by
  cases store with
  | none => cases others <;> rfl
  | some slots => rfl

/-- The flag exchanges the two sides, whatever is compared. -/
theorem Value.sameFrom_swap (v w : Value) (b : Bool) : v.sameFrom b w = w.sameFrom (!b) v := by
  induction v using Value.inductOn generalizing w b with
  | nil => cases w <;> rfl
  | string text => cases w <;> first | rfl | exact Bool.beq_comm
  | atom name => cases w <;> first | rfl | exact Bool.beq_comm
  | number n => cases w <;> first | rfl | exact Number.same_comm _ _
  | boolean c => cases w <;> first | rfl | exact Bool.beq_comm
  | callable name => cases w <;> first | rfl | exact Bool.beq_comm
  | list items ih =>
      cases w with
      | list others => exact sameItems_swap items ih others b
      | _ => rfl
  | map entries ihKey ihValue =>
      cases w with
      | map mapping =>
          obtain ⟨others⟩ := mapping
          have hown : entriesFound entries others = entries.all (Mapping.finds others) :=
            entriesFound_eq_all entries others (fun x hx y _ => ihKey x hx y.1 true)
              fun x hx y _ => ihValue x hx y.2 true
          -- The entries of the other map are no parts of this one, but what they are asked about is.
          have hother : entriesFound others entries = others.all (Mapping.finds entries) :=
            entriesFound_eq_all others entries (fun y _ x hx => (ihKey x hx y.1 false).symm)
              fun y _ x hx => (ihValue x hx y.2 false).symm
          have hlength : (entries.length == others.length) = (others.length == entries.length) :=
            Bool.beq_comm
          have hholds : holdsEntry entries = Mapping.finds entries :=
            funext (holdsEntry_eq_finds entries)
          have hholds' : holdsEntry others = Mapping.finds others :=
            funext (holdsEntry_eq_finds others)
          cases b with
          | false =>
              simp only [sameFrom, Mapping.sameFrom, hown, hholds', hlength]
              rfl
          | true =>
              simp only [sameFrom, Mapping.sameFrom, hother, hholds, hlength]
              rfl
      | _ => rfl
  | nested operations store ih =>
      cases w with
      | nested host =>
          obtain ⟨operations', store'⟩ := host
          simp only [sameFrom, Host.sameFrom, sameStores_eq_sameNamed]
          refine sameNamed_swap _ (fun slot hslot => ?_) _ b
          cases store with
          | none => exact absurd hslot List.not_mem_nil
          | some slots => exact ih slots rfl slot hslot
      | _ => rfl

namespace Value

theorem sameFrom_true (v w : Value) : v.sameFrom true w = (w == v) :=
  sameFrom_swap v w true

/-- Lists are equal if they have equal items in the same places. -/
theorem list_beq_iff (xs ys : List Value) :
    (list xs == list ys) = true ↔ List.Forall₂ (fun v w => (v == w) = true) xs ys := by
  change sameItems false xs ys = true ↔ _
  induction xs generalizing ys with
  | nil =>
      cases ys with
      | nil => exact iff_of_true rfl .nil
      | cons y ys => exact iff_of_false Bool.false_ne_true fun h => nomatch h
  | cons x xs ih =>
      cases ys with
      | nil => exact iff_of_false Bool.false_ne_true fun h => nomatch h
      | cons y ys =>
          rw [sameItems, Bool.and_eq_true, List.forall₂_cons, ih]
          rfl

/-- Maps are equal if they have as many entries and each entry of the first is found in the
    second. -/
theorem map_beq_iff (m n : Mapping) :
    (map m == map n) = true ↔
      m.entries.length = n.entries.length ∧
        ∀ x ∈ m.entries, Mapping.finds n.entries x = true := by
  obtain ⟨xs⟩ := m
  obtain ⟨ys⟩ := n
  have hfound : entriesFound xs ys = xs.all (Mapping.finds ys) :=
    entriesFound_eq_all xs ys (fun x _ y _ => sameFrom_true x.1 y.1)
      fun x _ y _ => sameFrom_true x.2 y.2
  change (xs.length == ys.length && entriesFound xs ys) = true ↔ _
  rw [hfound, Bool.and_eq_true, beq_iff_eq, List.all_eq_true]

/-- Hosts are equal if they store equal values under the same names, in the order of the names. -/
theorem nested_beq_iff (h k : Host) :
    (nested h == nested k) = true ↔
      List.Forall₂ (fun x y : String × Value => x.1 = y.1 ∧ (x.2 == y.2) = true)
        (h.store.getD []) (k.store.getD []) := by
  obtain ⟨operations, store⟩ := h
  obtain ⟨operations', store'⟩ := k
  change sameStores false store (store'.getD []) = true ↔ _
  -- A store that does not exist yet compares like an empty one.
  rw [sameStores_eq_sameNamed]
  generalize store.getD [] = xs
  generalize store'.getD [] = ys
  induction xs generalizing ys with
  | nil =>
      cases ys with
      | nil => exact iff_of_true rfl .nil
      | cons y ys => exact iff_of_false Bool.false_ne_true fun h => nomatch h
  | cons x xs ih =>
      cases ys with
      | nil => exact iff_of_false Bool.false_ne_true fun h => nomatch h
      | cons y ys =>
          rw [sameNamed, Bool.and_eq_true, List.forall₂_cons, ih, sameNamedEntry,
            Bool.and_eq_true, beq_iff_eq]
          rfl

end Value

end FieldSchema
