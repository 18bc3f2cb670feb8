import FieldSchema.Proofs.Value.Equivalence

/-!
# Lookups Among Equal Values

What equality of maps and hosts means for those who look something up in them.

A host is looked up by name and a map by a value. Names are equal or not,
while the key that a map is asked for has only to be equal to the one it has.
So two equal hosts answer a question alike, and two equal maps answer two
equal questions alike. For hosts this is all there is to equality: the two
answer alike under every name. It is where the order of the slots comes in,
because stores that answer alike but list their names in different orders
would be unequal.

The operations of a host are left out of all this, and so is the difference
between a store without slots and none at all.

## Theorems

* `forall₂_sameSlot_iff`: Ordered stores agree slot by slot if they answer alike.
* `get?_same`: Equal maps have equal values under equal keys.
* `equality_of_built`: Equality of built values, of their maps and hosts, and of what is found in
  them.
-/

namespace FieldSchema

/-- Ordered stores agree slot by slot if they answer alike under every name. -/
theorem forall₂_sameSlot_iff (xs ys : NameMap Value) (hxs : NameMap.Sorted xs)
    (hys : NameMap.Sorted ys) :
    List.Forall₂ SameSlot xs ys ↔
      ∀ name, Option.Rel SameValue (NameMap.get? xs name) (NameMap.get? ys name) := by
  constructor
  · intro h name
    induction h with
    | nil => exact .none
    | @cons x y xs ys hhead hrest ih =>
        obtain ⟨first, v⟩ := x
        obtain ⟨other, w⟩ := y
        obtain ⟨rfl, hvw⟩ := hhead
        rw [NameMap.get?_cons, NameMap.get?_cons]
        by_cases heq : name = first
        · rw [if_pos heq, if_pos heq]
          exact .some hvw
        · rw [if_neg heq, if_neg heq]
          exact ih (List.pairwise_cons.mp hxs).2 (List.pairwise_cons.mp hys).2
  · intro h
    induction xs generalizing ys with
    | nil =>
        cases ys with
        | nil => exact .nil
        | cons y ys =>
            have hfirst := h y.1
            rw [NameMap.get?_cons, if_pos rfl] at hfirst
            exact nomatch hfirst
    | cons x xs ih =>
        obtain ⟨first, v⟩ := x
        cases ys with
        | nil =>
            have hfirst := h first
            rw [NameMap.get?_cons, if_pos rfl] at hfirst
            exact nomatch hfirst
        | cons y ys =>
            obtain ⟨other, w⟩ := y
            -- The smaller of the first names would be in one store and not in the other.
            have hfirst : first = other := by
              by_contra hne
              by_cases hless : first < other
              · have hrel := h first
                rw [NameMap.get?_of_lt other w ys hys first hless, NameMap.get?_cons,
                  if_pos rfl] at hrel
                exact nomatch hrel
              · have hrel := h other
                have hgreater : other < first := Std.lt_of_le_of_ne hless fun h => hne h.symm
                rw [NameMap.get?_of_lt first v xs hxs other hgreater, NameMap.get?_cons,
                  if_pos rfl] at hrel
                exact nomatch hrel
            subst hfirst
            refine .cons ⟨rfl, ?_⟩ (ih ys (List.pairwise_cons.mp hxs).2
              (List.pairwise_cons.mp hys).2 fun name => ?_)
            · have hrel := h first
              rw [NameMap.get?_cons, if_pos rfl, NameMap.get?_cons, if_pos rfl] at hrel
              cases hrel with
              | some hvw => exact hvw
            · by_cases heq : name = first
              · rw [heq, NameMap.get?_rest first v xs hxs, NameMap.get?_rest first w ys hys]
                exact .none
              · have hrel := h name
                rw [NameMap.get?_cons, if_neg heq, NameMap.get?_cons, if_neg heq] at hrel
                exact hrel

/-- Hosts are equal if they store equal values under the same names. -/
theorem Host.same_iff_sameStored (S : Value → Prop) (h k : Host) (hh : h.Over S) (hk : k.Over S) :
    SameValue (.nested h) (.nested k) ↔ h.SameStored k := by
  have hstored : ∀ (host : Host) (name : String),
      host.stored? name = NameMap.get? (host.store.getD []) name := by
    intro host name
    unfold Host.stored?
    cases host.store <;> rfl
  refine (Value.nested_beq_iff h k).trans ?_
  refine (forall₂_sameSlot_iff _ _ hh.sorted hk.sorted).trans (forall_congr' fun name => ?_)
  rw [hstored h name, hstored k name]

section

variable {S : Value → Prop} (hS : EquivalenceOn SameValue S)

include hS

namespace Mapping

theorem get?_eq_some_iff (m : Mapping) (hm : m.Over S) (key : Value) (hkey : S key) (v : Value) :
    m.get? key = some v ↔ ∃ entry ∈ m.entries, SameValue entry.1 key ∧ entry.2 = v := by
  unfold get?
  rw [Option.map_eq_some_iff]
  refine exists_congr fun entry => ?_
  rw [find?_eq_some_iff hS m hm key hkey entry, and_assoc]

theorem get?_of_same (m n : Mapping) (hm : m.Over S) (hn : n.Over S)
    (hmn : SameValue (.map m) (.map n)) (k k' : Value) (hk : S k) (hk' : S k')
    (hkk' : SameValue k k') (v : Value) (hv : m.get? k = some v) :
    ∃ w, n.get? k' = some w ∧ SameValue v w := by
  obtain ⟨x, hx, hkey, rfl⟩ := (get?_eq_some_iff hS m hm k hk v).mp hv
  obtain ⟨y, hy, hxy⟩ := ((same_iff_subset hS m n hm hn).mp hmn).2 x hx
  refine ⟨y.2, (get?_eq_some_iff hS n hn k' hk' y.2).mpr ⟨y, hy, ?_, rfl⟩, hxy.2⟩
  have hyx := hS.symm _ _ (hm.keys x hx) (hn.keys y hy) hxy.1
  exact hS.trans _ _ _ (hn.keys y hy) hk hk' (hS.trans _ _ _ (hn.keys y hy) (hm.keys x hx) hk hyx
    hkey) hkk'

/-- Equal maps have equal values under equal keys, or none both. -/
theorem get?_same (m n : Mapping) (hm : m.Over S) (hn : n.Over S)
    (hmn : SameValue (.map m) (.map n)) (k k' : Value) (hk : S k) (hk' : S k')
    (hkk' : SameValue k k') : Option.Rel SameValue (m.get? k) (n.get? k') := by
  cases hv : m.get? k with
  | some v =>
      obtain ⟨w, hw, hvw⟩ := get?_of_same hS m n hm hn hmn k k' hk hk' hkk' v hv
      rw [hw]
      exact .some hvw
  | none =>
      cases hw : n.get? k' with
      | none => exact .none
      | some w =>
          -- What the second map has the first has too, since both equalities can be turned round.
          have hnm := (over_equivalenceOn hS).symm m n hm hn hmn
          obtain ⟨v, hv', _⟩ := get?_of_same hS n m hn hm hnm k' k hk' hk
            (hS.symm k k' hk hk' hkk') w hw
          rw [hv] at hv'
          exact nomatch hv'

end Mapping

end

/-- Among values without doubles that were made by their own operations, equality is an
    equivalence; maps are equal if they have the same entries up to order, and hosts if they store
    equal values under the same names; and equal maps have equal values under equal keys. -/
theorem equality_of_built :
    (Equivalence fun v w : { v : Value // v.Built } => (v.1 == w.1) = true) ∧
    (∀ m n : Mapping, (Value.map m).Built → (Value.map n).Built →
      ((m == n) = true ↔ m.SameEntries n)) ∧
    (∀ h k : Host, (Value.nested h).Built → (Value.nested k).Built →
      ((h == k) = true ↔ h.SameStored k)) ∧
    ∀ (m n : Mapping) (k k' : Value), (Value.map m).Built → (Value.map n).Built → k.Built →
      k'.Built → (m == n) = true → (k == k') = true →
      Option.Rel (fun v w => (v == w) = true) (m.get? k) (n.get? k') := by
  have hbuilt := Value.built_equivalenceOn
  have hmap := Value.Built.mapping
  have hhost := Value.Built.host
  refine ⟨⟨?_, ?_, ?_⟩, ?_, ?_, ?_⟩
  · exact fun v => hbuilt.refl v.1 v.2
  · exact fun {v w} => hbuilt.symm v.1 w.1 v.2 w.2
  · exact fun {u v w} => hbuilt.trans u.1 v.1 w.1 u.2 v.2 w.2
  · exact fun m n hm hn => Mapping.same_iff_sameEntries hbuilt m n (hmap m hm) (hmap n hn)
  · exact fun h k hh hk => Host.same_iff_sameStored Value.Built h k (hhost h hh) (hhost k hk)
  · exact fun m n k k' hm hn hk hk' hmn hkk' =>
      Mapping.get?_same hbuilt m n (hmap m hm) (hmap n hn) hmn k k' hk hk' hkk'

/-- Two maps that differ in the order of their entries, in the operations of a host that is a key,
    and in whether that host has a store, answer alike for it. -/
theorem equality_of_built_reordered :
    let bare : Value := .nested ⟨[], none⟩
    let other : Value := .nested ⟨[("inspect", .inspect)], some []⟩
    let m : Mapping := .ofList [(bare, .string "a"), (.number (.int 1), .nil)]
    let n : Mapping := .ofList [(.number (.int 1), .nil), (other, .string "a")]
    ((m == n) = true ∧ (bare == other) = true) ∧
      Option.Rel (fun v w => (v == w) = true) (m.get? bare) (n.get? other) := by
  intro bare other m n
  have hbare : bare.Built := .nested [] none rfl [] fun _ h => absurd h List.not_mem_nil
  have hother : other.Built :=
    .nested [("inspect", .inspect)] (some []) rfl [] fun _ h => absurd h List.not_mem_nil
  have hm : (Value.map m).Built :=
    .map _ (List.forall_mem_cons.mpr ⟨hbare, List.forall_mem_singleton.mpr (.whole 1)⟩)
      (List.forall_mem_cons.mpr ⟨.string "a", List.forall_mem_singleton.mpr .nil⟩)
  have hn : (Value.map n).Built :=
    .map _ (List.forall_mem_cons.mpr ⟨.whole 1, List.forall_mem_singleton.mpr hother⟩)
      (List.forall_mem_cons.mpr ⟨.nil, List.forall_mem_singleton.mpr (.string "a")⟩)
  have hmn : (m == n) = true := by decide
  have hkey : (bare == other) = true := by decide
  exact ⟨⟨hmn, hkey⟩, equality_of_built.2.2.2 m n bare other hm hn hbare hother hmn hkey⟩

end FieldSchema
