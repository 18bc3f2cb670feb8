import Mathlib.Data.List.Nodup
import Mathlib.Data.Set.Card
import FieldSchema.Proofs.Value.Insertions

/-!
# Maps Position by Position

What one insertion does to the entries of a map, and what many of them leave.

An insertion runs through the entries once. It stops at the first key that
equals the given one and exchanges the value there, or else it comes to the end
and adds an entry. The key that is found is the older one and is asked whether
it equals the newer. Of this everything follows that holds of all keys, however
strange their equality is. No key equals a later one, because the later one was
put at the end after all of the earlier keys had been asked about it. And where
an insertion has put its value, a lookup finds it, because both ask in the same
order and the same way. Only at the end a question is asked that the insertion
did not ask, and there the key has to equal itself.

What a key has after other keys were inserted is another matter. The question
is then whether one key finds what was put under another, and to answer it by
the keys alone, equality has to be an equivalence on them. Doubles spoil that,
so they are left out where the text comes to it.

## Main definitions

* `Mapping.place?`: The position that an insertion stops at.
* `keyClass`: The keys that equal a given one.

## Theorems

* `exchange_eq`: One pass gives both the old value and the new map.
* `insertInto_eq_modify`: An insertion changes one position or adds one.
* `find?_insertInto_self`: What was inserted is found.
* `get?_insertInto`: What other keys have after an insertion.
* `get?_ofList`: What a key has after many of them.
* `size_ofList`: How many entries they leave.
* `Mapping.first_keys_last_values`: All of this for a map that was made by insertions.
-/

namespace FieldSchema

namespace Mapping

/-- The position of the first entry whose key equals the given one. -/
def place? (m : Mapping) (key : Value) : Option Nat :=
  m.entries.findIdx? fun entry => entry.1 == key

/-- One pass over the entries finds the old value and makes the new ones. -/
theorem exchangeIn_eq (key value : Value) (entries : List (Value × Value)) :
    exchangeIn key value entries =
      ((entries.find? fun entry => entry.1 == key).map (·.2), insertInto key value entries) := by
  induction entries with
  | nil => rfl
  | cons entry rest ih =>
      obtain ⟨k, v⟩ := entry
      rw [exchangeIn, insertInto, List.find?_cons, ih]
      cases k == key <;> rfl

/-- An insertion tells what was under the key, and is otherwise what it is without telling. -/
theorem exchange_eq (m : Mapping) (key value : Value) :
    m.exchange key value = (m.get? key, m.insert key value) := by
  rw [exchange, exchangeIn_eq]
  rfl

/-- An insertion changes the value at the first position whose key equals the given one, or adds an
    entry if there is none. -/
theorem insertInto_eq_modify (key value : Value) (entries : List (Value × Value)) :
    insertInto key value entries =
      match entries.findIdx? fun entry => entry.1 == key with
      | some p => entries.modify p fun entry => (entry.1, value)
      | none => entries ++ [(key, value)] := by
  induction entries with
  | nil => rfl
  | cons entry rest ih =>
      obtain ⟨k, v⟩ := entry
      rw [insertInto, List.findIdx?_cons]
      cases hfound : k == key with
      | true => rfl
      | false =>
          simp only [Bool.false_eq_true, if_false, ih]
          cases rest.findIdx? fun entry => entry.1 == key <;> rfl

/-- An entry that an insertion changes has a key that equals the given one. -/
theorem equals_of_changed (m : Mapping) (key value : Value) (p : Nat) (entry : Value × Value)
    (h : m.entries[p]? = some entry)
    (hchanged : (m.insert key value).entries[p]? ≠ some entry) : (entry.1 == key) = true := by
  rw [insert, insertInto_eq_modify] at hchanged
  cases hplace : m.entries.findIdx? fun entry => entry.1 == key with
  | none =>
      rw [hplace] at hchanged
      -- A new key is added at the end and changes nothing before it.
      obtain ⟨hp, -⟩ := List.getElem?_eq_some_iff.mp h
      exact absurd ((List.getElem?_append_left hp).trans h) hchanged
  | some q =>
      rw [hplace] at hchanged
      obtain ⟨hq, hequals, -⟩ := List.findIdx?_eq_some_iff_getElem.mp hplace
      -- Only the entry of the key that was found is changed.
      by_cases hpq : q = p
      · subst hpq
        obtain ⟨-, rfl⟩ := List.getElem?_eq_some_iff.mp h
        exact hequals
      · refine absurd ?_ hchanged
        rw [List.getElem?_modify, h, Option.map_eq_map, Option.map_some, if_neg hpq]

/-- What was inserted is found, if the key equals itself. -/
theorem find?_insertInto_self (key value : Value) (h : (key == key) = true)
    (entries : List (Value × Value)) :
    ((insertInto key value entries).find? fun entry => entry.1 == key).map (·.2) = some value := by
  induction entries with
  | nil =>
      -- The key has been put at the end, and only there it is asked about itself.
      rw [insertInto, List.find?_cons, h]
      rfl
  | cons entry rest ih =>
      obtain ⟨k, v⟩ := entry
      rw [insertInto]
      cases hfound : k == key with
      | true =>
          rw [if_pos rfl, List.find?_cons, hfound]
          rfl
      | false =>
          rw [if_neg Bool.false_ne_true, List.find?_cons, hfound]
          exact ih

/-- In a map that was made by insertions, no key equals a later one. -/
theorem keys_ofList_pairwise (inserted : List (Value × Value)) :
    (ofList inserted).keys.Pairwise fun earlier later => (earlier == later) = false := by
  have hover := ofList_over (fun _ => True) inserted (fun _ _ => trivial) fun _ _ => trivial
  exact List.pairwise_map.mpr hover.distinct

end Mapping

/-- The keys that equal a given one. -/
def keyClass (keys : List Value) (key : Value) : Set Value :=
  {other | other ∈ keys ∧ SameValue other key}

namespace Mapping

section

variable {S : Value → Prop} (hS : EquivalenceOn SameValue S)

include hS

/-- After an insertion the keys that equal the given one have its value, and the others have what
    they had. -/
theorem get?_insertInto (k v key : Value) (hk : S k) (hkey : S key)
    (entries : List (Value × Value)) (hentries : ∀ entry ∈ entries, S entry.1) :
    ((insertInto k v entries).find? fun entry => entry.1 == key).map (·.2) =
      if k == key then some v else (entries.find? fun entry => entry.1 == key).map (·.2) := by
  induction entries with
  | nil =>
      rw [insertInto, List.find?_singleton]
      cases k == key <;> rfl
  | cons entry rest ih =>
      obtain ⟨first, w⟩ := entry
      obtain ⟨hfirst, hrest⟩ := List.forall_mem_cons.mp hentries
      rw [insertInto]
      cases hfound : first == k with
      | true =>
          -- The first key equals the inserted one, so the two are alike for every question.
          have halike : (first == key) = (k == key) := Bool.eq_iff_iff.mpr
            ⟨hS.trans k first key hk hfirst hkey (hS.symm first k hfirst hk hfound),
              hS.trans first k key hfirst hk hkey hfound⟩
          rw [if_pos rfl, List.find?_cons, List.find?_cons, halike]
          cases k == key <;> rfl
      | false =>
          rw [if_neg Bool.false_ne_true, List.find?_cons, List.find?_cons]
          cases hhead : first == key with
          | true =>
              -- The first key is the one looked for, so the inserted one is none of its class.
              have hother : (k == key) = false := by
                refine eq_false_of_ne_true fun hsame => ne_true_of_eq_false hfound ?_
                exact hS.trans first key k hfirst hkey hk hhead (hS.symm k key hk hkey hsame)
              rw [hother]
              rfl
          | false => exact ih hrest

/-- The keys of a map are among those that were inserted. -/
theorem keys_ofList (inserted : List (Value × Value)) (hkeys : ∀ entry ∈ inserted, S entry.1) :
    (ofList inserted).keys = (inserted.map (·.1)).eraseDups := by
  rw [keys, ofList_entries hS inserted hkeys, List.map_map]
  exact List.map_id _

/-- A key has the value that was inserted last under a key equal to it. -/
theorem get?_ofList (inserted : List (Value × Value)) (hkeys : ∀ entry ∈ inserted, S entry.1)
    (key : Value) (hkey : S key) :
    (ofList inserted).get? key =
      (inserted.reverse.find? fun entry => entry.1 == key).map (·.2) := by
  -- From the end: the last entry is the first that the search of the reversed list meets.
  induction inserted using List.reverseRecOn with
  | nil => rfl
  | append_singleton inserted last ih =>
      obtain ⟨k, v⟩ := last
      obtain ⟨hbefore, hlast⟩ := List.forall_mem_append.mp hkeys
      -- The keys of the map were inserted before, so equality is an equivalence on them.
      have hentries : ∀ entry ∈ (ofList inserted).entries, S entry.1 := by
        intro entry hentry
        have hmem : entry.1 ∈ (ofList inserted).keys := List.mem_map_of_mem hentry
        rw [keys_ofList hS inserted hbefore] at hmem
        exact List.forall_mem_map.mpr hbefore entry.1 (mem_of_mem_eraseDups _ _ hmem)
      rw [← insert_ofList, List.reverse_append, List.reverse_singleton, List.singleton_append,
        List.find?_cons]
      refine (get?_insertInto hS k v key (hlast _ List.mem_cons_self) hkey _ hentries).trans ?_
      cases k == key with
      | true => rfl
      | false => exact ih hbefore

/-- Keys that are kept are of different classes. -/
theorem keyClass_injOn (names : List Value) (hnames : ∀ key ∈ names, S key) :
    Set.InjOn (keyClass names) {key | key ∈ names.eraseDups} := by
  intro a ha b hb hclasses
  have hmem := mem_of_mem_eraseDups names a ha
  have hown : a ∈ keyClass names a := ⟨hmem, hS.refl a (hnames a hmem)⟩
  rw [hclasses] at hown
  exact eq_of_kept hS names hnames a b ha hb hown.2

/-- Of each class a key is kept. -/
theorem keyClass_image (names : List Value) (hnames : ∀ key ∈ names, S key) :
    keyClass names '' {key | key ∈ names} = keyClass names '' {key | key ∈ names.eraseDups} := by
  refine Set.Subset.antisymm ?_ (Set.image_mono fun key => mem_of_mem_eraseDups names key)
  rintro _ ⟨key, hkey, rfl⟩
  obtain ⟨kept, hkept, hsame⟩ := exists_kept hS names hnames key hkey
  have hSkey := hnames key hkey
  have hSkept := hnames kept (mem_of_mem_eraseDups names kept hkept)
  have hback := hS.symm kept key hSkept hSkey hsame
  refine ⟨kept, hkept, Set.ext fun other => ?_⟩
  constructor
  · rintro ⟨hother, hequals⟩
    exact ⟨hother, hS.trans other kept key (hnames other hother) hSkept hSkey hequals hsame⟩
  · rintro ⟨hother, hequals⟩
    exact ⟨hother, hS.trans other key kept (hnames other hother) hSkey hSkept hequals hback⟩

/-- No key is kept twice. -/
theorem eraseDups_nodup (names : List Value) (hnames : ∀ key ∈ names, S key) :
    names.eraseDups.Nodup := by
  refine (eraseDups_distinct hS names hnames).imp_of_mem fun {a b} ha _ hne => ?_
  rintro rfl
  exact hne (hS.refl a (hnames a (mem_of_mem_eraseDups names a ha)))

/-- A map has one entry for each class of equal keys. -/
theorem size_ofList (inserted : List (Value × Value)) (hkeys : ∀ entry ∈ inserted, S entry.1) :
    (ofList inserted).size =
      (keyClass (inserted.map (·.1)) '' {key | key ∈ inserted.map (·.1)}).ncard := by
  have hnames : ∀ key ∈ inserted.map (·.1), S key := List.forall_mem_map.mpr hkeys
  have hsize : (ofList inserted).size = (inserted.map (·.1)).eraseDups.length := by
    rw [← keys_ofList hS inserted hkeys, keys, List.length_map]
    rfl
  classical
  have hfinite : {key | key ∈ (inserted.map (·.1)).eraseDups} =
      ((inserted.map (·.1)).eraseDups.toFinset : Set Value) := List.coe_toFinset _ |>.symm
  rw [hsize, keyClass_image hS _ hnames, (keyClass_injOn hS _ hnames).ncard_image, hfinite,
    Set.ncard_coe_finset, List.toFinset_card_of_nodup (eraseDups_nodup hS _ hnames)]

end

/-- In a map that was made by insertions no key equals a later one, whatever the keys are. One more
    insertion tells what was under its key, changes the value at the first position that has it or
    adds an entry, leaves all other positions alone, and puts its value where a key that equals
    itself finds it. Without doubles among the keys, the keys are the first of each class of equal
    keys, in the order in which they came, and each key finds what was inserted last under one
    equal to it. -/
theorem first_keys_last_values (inserted : List (Value × Value)) :
    let m := ofList inserted
    (m.keys.Pairwise fun earlier later => (earlier == later) = false) ∧
    (∀ key value,
      let next := ofList (inserted ++ [(key, value)])
      m.exchange key value = (m.get? key, next) ∧
      (next.entries = match m.place? key with
        | some p => m.entries.modify p fun entry => (entry.1, value)
        | none => m.entries ++ [(key, value)]) ∧
      ((key == key) = true → next.get? key = some value)) ∧
    ((∀ entry ∈ inserted, entry.1.Built) →
      m.keys = (inserted.map (·.1)).eraseDups ∧
      m.size = (keyClass (inserted.map (·.1)) '' {key | key ∈ inserted.map (·.1)}).ncard ∧
      ∀ key, key.Built →
        m.get? key = (inserted.reverse.find? fun entry => entry.1 == key).map (·.2)) := by
  intro m
  have hbuilt := Value.built_equivalenceOn
  refine ⟨keys_ofList_pairwise inserted, fun key value => ?_, fun hkeys => ⟨?_, ?_, ?_⟩⟩
  -- One insertion more, for any key.
  · intro next
    have hnext : m.insert key value = next := insert_ofList inserted key value
    refine ⟨?_, ?_, fun hself => ?_⟩
    · rw [exchange_eq, hnext]
    · rw [← hnext]
      exact insertInto_eq_modify key value m.entries
    · rw [← hnext]
      exact find?_insertInto_self key value hself m.entries
  · exact keys_ofList hbuilt inserted hkeys
  · exact size_ofList hbuilt inserted hkeys
  · exact get?_ofList hbuilt inserted hkeys

/-- A key that is a map is found under an equal one whose entries came in another order, and keeps
    its own form when the value is exchanged. -/
theorem first_keys_last_values_reorderedKey :
    let key : Value := .map (ofList [(.number (.int 1), .atom "a"), (.nil, .atom "b")])
    let other : Value := .map (ofList [(.nil, .atom "b"), (.number (.int 1), .atom "a")])
    let inserted : List (Value × Value) :=
      [(key, .string "first"), (.boolean true, .nil), (other, .string "second")]
    (∀ entry ∈ inserted, entry.1.Built) ∧ other.Built ∧ (other == other) = true ∧
      (ofList inserted).keys = [key, .boolean true] ∧
      (ofList inserted).get? other = some (.string "second") ∧
      (ofList (inserted ++ [(other, .string "third")])).get? other = some (.string "third") := by
  intro key other inserted
  have hpair : ∀ entry ∈ [((.number (.int 1) : Value), (.atom "a" : Value)), (.nil, .atom "b")],
      entry.1.Built ∧ entry.2.Built :=
    List.forall_mem_cons.mpr
      ⟨⟨.whole 1, .atom "a"⟩, List.forall_mem_singleton.mpr ⟨.nil, .atom "b"⟩⟩
  -- Both keys are maps of the same two entries, in either order.
  have hkey : key.Built :=
    .map _ (fun entry h => (hpair entry h).1) fun entry h => (hpair entry h).2
  have hother : other.Built :=
    .map _ (fun entry h => (hpair entry (List.mem_pair.mpr (List.mem_pair.mp h).symm)).1)
      fun entry h => (hpair entry (List.mem_pair.mpr (List.mem_pair.mp h).symm)).2
  have hinserted : ∀ entry ∈ inserted, entry.1.Built :=
    List.forall_mem_cons.mpr
      ⟨hkey, List.forall_mem_cons.mpr ⟨.boolean true, List.forall_mem_singleton.mpr hother⟩⟩
  have hself : (other == other) = true := by decide +kernel
  obtain ⟨-, hnext, hwhole⟩ := first_keys_last_values inserted
  obtain ⟨hkeys, -, hget⟩ := hwhole hinserted
  exact ⟨hinserted, hother, hself, hkeys.trans rfl, (hget other hother).trans rfl,
    (hnext other (.string "third")).2.2 hself⟩

end Mapping

end FieldSchema
