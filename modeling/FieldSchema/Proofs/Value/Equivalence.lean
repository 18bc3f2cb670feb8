import Mathlib.Data.List.Pairwise
import FieldSchema.Proofs.Value.Built

/-!
# Equality as an Equivalence

Why equality is an equivalence where there are no doubles, and what it says of
maps and of hosts.

Lists and stores are compared place by place, so an equivalence of what is in
the places is one of lists. Maps are not. Their test asks only whether the
entries of the first are found in the second, and that this is the same as the
converse is a matter of counting. No two keys of the first are equal, so they
find different entries of the second; there are no more of these than of the
first; so none is left over. The count rests on equality of keys being an
equivalence, and keys can be maps.

Hence the induction is on a bound on the size. Below it equality may be taken
for an equivalence, of all values and not just of the parts of one, since a
chain of equal maps leads through values that are parts of none of its ends.

## Main definitions

* `EquivalenceOn`: A relation is an equivalence on a set.
* `Mapping.SameEntries`: Equal entries, up to their order.
* `Host.SameStored`: Equal values under the same names.

## Theorems

* `exists_matching`: Partners that are never shared, and of which there are no more, are all taken.
* `finds_iff`: A map finds an entry if it has an equal one.
* `same_iff_sameEntries`: Maps are equal if they have the same entries.
* `over_equivalenceOn`: An equivalence of the parts is one of the values.
* `equivalenceOn_of_layer`: The induction on a bound on the size.
* `built_equivalenceOn`: Equality is an equivalence on what is built.
-/

namespace FieldSchema

/-- The relation is an equivalence as far as the elements of the set are concerned. -/
structure EquivalenceOn {α : Type} (r : α → α → Prop) (S : α → Prop) : Prop where
  refl : ∀ x, S x → r x x
  symm : ∀ x y, S x → S y → r x y → r y x
  trans : ∀ x y z, S x → S y → S z → r x y → r y z → r x z

namespace EquivalenceOn

variable {α : Type} {r : α → α → Prop} {S : α → Prop}

theorem mono (h : EquivalenceOn r S) (T : α → Prop) (hT : ∀ x, T x → S x) : EquivalenceOn r T where
  refl x hx := h.refl x (hT x hx)
  symm x y hx hy := h.symm x y (hT x hx) (hT y hy)
  trans x y z hx hy hz := h.trans x y z (hT x hx) (hT y hy) (hT z hz)

/-- Comparing lists place by place is an equivalence if comparing items is one. -/
theorem forall₂ (h : EquivalenceOn r S) :
    EquivalenceOn (List.Forall₂ r) fun xs : List α => ∀ x ∈ xs, S x where
  refl xs hxs := List.forall₂_same.mpr fun x hx => h.refl x (hxs x hx)
  symm xs ys hxs hys hxy := by
    induction hxy with
    | nil => exact .nil
    | cons hhead hrest ih =>
        obtain ⟨hx, hxs⟩ := List.forall_mem_cons.mp hxs
        obtain ⟨hy, hys⟩ := List.forall_mem_cons.mp hys
        exact .cons (h.symm _ _ hx hy hhead) (ih hxs hys)
  trans xs ys zs hxs hys hzs hxy hyz := by
    -- Both lists are walked together with the one between them.
    induction hxy generalizing zs with
    | nil => exact hyz
    | cons hhead hrest ih =>
        cases hyz with
        | cons hhead' hrest' =>
            obtain ⟨hx, hxs⟩ := List.forall_mem_cons.mp hxs
            obtain ⟨hy, hys⟩ := List.forall_mem_cons.mp hys
            obtain ⟨hz, hzs⟩ := List.forall_mem_cons.mp hzs
            exact .cons (h.trans _ _ _ hx hy hz hhead hhead') (ih _ hxs hys hzs hrest')

end EquivalenceOn

section

variable {α β : Type} (r : α → β → Prop)

theorem exists_of_mem_left (xs : List α) (ys : List β) (h : List.Forall₂ r xs ys) (x : α)
    (hx : x ∈ xs) : ∃ y ∈ ys, r x y := by
  induction h with
  | nil => exact absurd hx List.not_mem_nil
  | cons hhead hrest ih =>
      rcases List.mem_cons.mp hx with rfl | hmem
      · exact ⟨_, List.mem_cons_self, hhead⟩
      · obtain ⟨y, hy, hxy⟩ := ih hmem
        exact ⟨y, List.mem_cons_of_mem _ hy, hxy⟩

/-- If everything in the first list has a partner in the second, none is a partner of two, and the
    second is no longer, then the second list is the partners in another order. -/
theorem exists_matching (xs : List α) (ys : List β) (hpartner : ∀ x ∈ xs, ∃ y ∈ ys, r x y)
    (hapart : xs.Pairwise fun x x' => ∀ y ∈ ys, r x y → ¬ r x' y)
    (hlength : ys.length ≤ xs.length) : ∃ zs, zs.Perm ys ∧ List.Forall₂ r xs zs := by
  induction xs generalizing ys with
  | nil =>
      obtain rfl := List.length_eq_zero_iff.mp (Nat.le_zero.mp hlength)
      exact ⟨[], List.Perm.refl _, .nil⟩
  | cons x xs ih =>
      obtain ⟨hx, hxs⟩ := List.pairwise_cons.mp hapart
      obtain ⟨y, hy, hxy⟩ := hpartner x List.mem_cons_self
      obtain ⟨before, after, rfl⟩ := List.append_of_mem hy
      have hperm : (before ++ y :: after).Perm (y :: (before ++ after)) := List.perm_middle
      -- The partner of the first is no partner of the others, so they do without it.
      have hothers : ∀ x' ∈ xs, ∃ y' ∈ before ++ after, r x' y' := by
        intro x' hx'
        obtain ⟨y', hy', hxy'⟩ := hpartner x' (List.mem_cons_of_mem _ hx')
        rcases List.mem_cons.mp (hperm.mem_iff.mp hy') with rfl | hmem
        · exact absurd hxy' (hx x' hx' y' hy hxy)
        · exact ⟨y', hmem, hxy'⟩
      have hapart' : xs.Pairwise fun x x' => ∀ y ∈ before ++ after, r x y → ¬ r x' y :=
        hxs.imp fun h y' hy' => h y' (hperm.mem_iff.mpr (List.mem_cons_of_mem _ hy'))
      have hshorter : (before ++ after).length ≤ xs.length := by
        have hle := hperm.length_eq ▸ hlength
        exact Nat.le_of_succ_le_succ hle
      obtain ⟨zs, hzs, hall⟩ := ih (before ++ after) hothers hapart' hshorter
      exact ⟨y :: zs, (hzs.cons y).trans hperm.symm, .cons hxy hall⟩

end

/-- The values are equal. -/
def SameValue (v w : Value) : Prop :=
  (v == w) = true

/-- The entries have equal keys and equal values. -/
def SameEntry (x y : Value × Value) : Prop :=
  SameValue x.1 y.1 ∧ SameValue x.2 y.2

/-- The slots have the same name and equal values. -/
def SameSlot (x y : String × Value) : Prop :=
  x.1 = y.1 ∧ SameValue x.2 y.2

/-- In some order the entries of the second map equal those of the first one by one. -/
def Mapping.SameEntries (m n : Mapping) : Prop :=
  ∃ entries, entries.Perm n.entries ∧ List.Forall₂ SameEntry m.entries entries

/-- The hosts store equal values under the same names. -/
def Host.SameStored (h k : Host) : Prop :=
  ∀ name, Option.Rel SameValue (h.stored? name) (k.stored? name)

section

variable {S : Value → Prop} (hS : EquivalenceOn SameValue S)

include hS

theorem sameEntry_equivalenceOn :
    EquivalenceOn SameEntry fun entry => S entry.1 ∧ S entry.2 where
  refl _ hx := ⟨hS.refl _ hx.1, hS.refl _ hx.2⟩
  symm _ _ hx hy hxy := ⟨hS.symm _ _ hx.1 hy.1 hxy.1, hS.symm _ _ hx.2 hy.2 hxy.2⟩
  trans _ _ _ hx hy hz hxy hyz :=
    ⟨hS.trans _ _ _ hx.1 hy.1 hz.1 hxy.1 hyz.1, hS.trans _ _ _ hx.2 hy.2 hz.2 hxy.2 hyz.2⟩

theorem sameSlot_equivalenceOn : EquivalenceOn SameSlot fun slot => S slot.2 where
  refl _ hx := ⟨rfl, hS.refl _ hx⟩
  symm _ _ hx hy hxy := ⟨hxy.1.symm, hS.symm _ _ hx hy hxy.2⟩
  trans _ _ _ hx hy hz hxy hyz := ⟨hxy.1.trans hyz.1, hS.trans _ _ _ hx hy hz hxy.2 hyz.2⟩

namespace Mapping

/-- Entries of a map that have equal keys are the same entry. -/
theorem eq_of_sameKey (m : Mapping) (hm : m.Over S) (x y : Value × Value) (hx : x ∈ m.entries)
    (hy : y ∈ m.entries) (hxy : SameValue x.1 y.1) : x = y := by
  let apart (x y : Value × Value) : Prop := ¬ SameValue x.1 y.1 ∧ ¬ SameValue y.1 x.1
  have hsymm : Std.Symm apart := ⟨fun _ _ h => ⟨h.2, h.1⟩⟩
  have hapart : m.entries.Pairwise apart := by
    refine hm.distinct.imp_of_mem fun {a b} ha hb hab => ?_
    have hne : ¬ SameValue a.1 b.1 := ne_true_of_eq_false hab
    exact ⟨hne, fun hba => hne (hS.symm _ _ (hm.keys b hb) (hm.keys a ha) hba)⟩
  by_contra hne
  exact (hapart.forall hx hy hne).1 hxy

/-- A map finds the one entry whose key equals the given one. -/
theorem find?_eq_some_iff (m : Mapping) (hm : m.Over S) (key : Value) (hkey : S key)
    (entry : Value × Value) :
    (m.entries.find? fun entry => entry.1 == key) = some entry ↔
      entry ∈ m.entries ∧ SameValue entry.1 key := by
  have hfound : ∀ found, (m.entries.find? fun entry => entry.1 == key) = some found →
      found ∈ m.entries ∧ SameValue found.1 key := by
    intro found h
    have heq := List.find?_some (p := fun entry : Value × Value => entry.1 == key) h
    exact ⟨List.mem_of_find?_eq_some h, heq⟩
  refine ⟨hfound entry, ?_⟩
  rintro ⟨hentry, heq⟩
  -- The search finds some entry with such a key, and no two keys of the map are the same, so it is
  -- this one.
  cases h : m.entries.find? fun entry => entry.1 == key with
  | none => exact absurd heq (List.find?_eq_none.mp h entry hentry)
  | some found =>
      obtain ⟨hmem, hfoundKey⟩ := hfound found h
      have hsame : SameValue found.1 entry.1 :=
        hS.trans _ _ _ (hm.keys found hmem) hkey (hm.keys entry hentry) hfoundKey
          (hS.symm _ _ (hm.keys entry hentry) hkey heq)
      rw [eq_of_sameKey hS m hm found entry hmem hentry hsame]

/-- A map finds an entry if it has an equal one. -/
theorem finds_iff (m : Mapping) (hm : m.Over S) (x : Value × Value) (hx : S x.1 ∧ S x.2) :
    finds m.entries x = true ↔ ∃ y ∈ m.entries, SameEntry x y := by
  have hfind := find?_eq_some_iff hS m hm x.1 hx.1
  unfold finds
  constructor
  · intro h
    split at h
    · rename_i y hy
      obtain ⟨hmem, hkey⟩ := (hfind y).mp hy
      exact ⟨y, hmem, hS.symm _ _ (hm.keys y hmem) hx.1 hkey,
        hS.symm _ _ (hm.values y hmem) hx.2 h⟩
    · exact Bool.noConfusion h
  · rintro ⟨y, hmem, hkey, hvalue⟩
    rw [(hfind y).mpr ⟨hmem, hS.symm _ _ hx.1 (hm.keys y hmem) hkey⟩]
    exact hS.symm _ _ hx.2 (hm.values y hmem) hvalue

theorem same_iff_subset (m n : Mapping) (hm : m.Over S) (hn : n.Over S) :
    SameValue (.map m) (.map n) ↔
      m.entries.length = n.entries.length ∧ ∀ x ∈ m.entries, ∃ y ∈ n.entries, SameEntry x y := by
  refine (Value.map_beq_iff m n).trans (and_congr_right fun _ => ?_)
  exact forall₂_congr fun x hx => finds_iff hS n hn x ⟨hm.keys x hx, hm.values x hx⟩

/-- Maps are equal if they have the same entries up to their order. -/
theorem same_iff_sameEntries (m n : Mapping) (hm : m.Over S) (hn : n.Over S) :
    SameValue (.map m) (.map n) ↔ m.SameEntries n := by
  rw [same_iff_subset hS m n hm hn]
  constructor
  · rintro ⟨hlength, hsubset⟩
    refine exists_matching SameEntry m.entries n.entries hsubset ?_ hlength.ge
    -- Two keys that equal a third are equal, which no two keys of a map are.
    refine hm.distinct.imp_of_mem fun {x x'} hx hx' hne y hy hxy hx'y => ?_
    refine ne_true_of_eq_false hne ?_
    exact hS.trans _ _ _ (hm.keys x hx) (hn.keys y hy) (hm.keys x' hx') hxy.1
      (hS.symm _ _ (hm.keys x' hx') (hn.keys y hy) hx'y.1)
  · rintro ⟨entries, hperm, hall⟩
    refine ⟨hall.length_eq.trans hperm.length_eq, fun x hx => ?_⟩
    obtain ⟨y, hy, hxy⟩ := exists_of_mem_left SameEntry _ _ hall x hx
    exact ⟨y, hperm.mem_iff.mp hy, hxy⟩

/-- Equality of maps is an equivalence if that of their keys and values is. -/
theorem over_equivalenceOn :
    EquivalenceOn (fun m n => SameValue (.map m) (.map n)) (Mapping.Over S) where
  refl m hm := by
    refine (same_iff_subset hS m m hm hm).mpr ⟨rfl, fun x hx => ⟨x, hx, ?_⟩⟩
    exact (sameEntry_equivalenceOn hS).refl x ⟨hm.keys x hx, hm.values x hx⟩
  symm m n hm hn hmn := by
    obtain ⟨entries, hperm, hall⟩ := (same_iff_sameEntries hS m n hm hn).mp hmn
    refine (same_iff_subset hS n m hn hm).mpr ⟨?_, fun y hy => ?_⟩
    · exact (hall.length_eq.trans hperm.length_eq).symm
    · -- No entry of the second map is left over, so each is the partner of one of the first.
      obtain ⟨x, hx, hyx⟩ :=
        exists_of_mem_left (flip SameEntry) _ _ hall.flip y (hperm.mem_iff.mpr hy)
      refine ⟨x, hx, (sameEntry_equivalenceOn hS).symm x y ?_ ?_ hyx⟩
      · exact ⟨hm.keys x hx, hm.values x hx⟩
      · exact ⟨hn.keys y hy, hn.values y hy⟩
  trans l m n hl hm hn hlm hmn := by
    obtain ⟨hlength, hsubset⟩ := (same_iff_subset hS l m hl hm).mp hlm
    obtain ⟨hlength', hsubset'⟩ := (same_iff_subset hS m n hm hn).mp hmn
    refine (same_iff_subset hS l n hl hn).mpr ⟨hlength.trans hlength', fun x hx => ?_⟩
    -- From the first map to the second and on to the third, entry by entry.
    obtain ⟨y, hy, hxy⟩ := hsubset x hx
    obtain ⟨z, hz, hyz⟩ := hsubset' y hy
    refine ⟨z, hz, (sameEntry_equivalenceOn hS).trans x y z ?_ ?_ ?_ hxy hyz⟩
    · exact ⟨hl.keys x hx, hl.values x hx⟩
    · exact ⟨hm.keys y hy, hm.values y hy⟩
    · exact ⟨hn.keys z hz, hn.values z hz⟩

end Mapping

/-- Equality of hosts is an equivalence if that of the stored values is. -/
theorem Host.over_equivalenceOn :
    EquivalenceOn (fun h k => SameValue (.nested h) (.nested k)) (Host.Over S) where
  refl h hh :=
    (Value.nested_beq_iff h h).mpr ((sameSlot_equivalenceOn hS).forall₂.refl _ hh.values)
  symm h k hh hk hhk := (Value.nested_beq_iff k h).mpr
    ((sameSlot_equivalenceOn hS).forall₂.symm _ _ hh.values hk.values
      ((Value.nested_beq_iff h k).mp hhk))
  trans h k l hh hk hl hhk hkl := (Value.nested_beq_iff h l).mpr
    ((sameSlot_equivalenceOn hS).forall₂.trans _ _ _ hh.values hk.values hl.values
      ((Value.nested_beq_iff h k).mp hhk) ((Value.nested_beq_iff k l).mp hkl))

end

namespace Value

variable {S : Value → Prop}

theorem same_refl_of_simple (v : Value) (hv : v.Simple) : SameValue v v := by
  cases v with
  | nil => rfl
  | number n =>
      cases n with
      | int n => exact beq_self_eq_true n
      | float x => exact False.elim hv
  | string text => exact beq_self_eq_true text
  | atom name => exact beq_self_eq_true name
  | boolean b => exact beq_self_eq_true b
  | callable name => exact beq_self_eq_true name
  | list items => exact False.elim hv
  | map m => exact False.elim hv
  | nested host => exact False.elim hv

/-- A value that is not made of others equals itself alone. -/
theorem eq_of_same_of_simple (v w : Value) (hv : v.Simple) (hw : w.Over S)
    (h : SameValue v w) : v = w := by
  cases v with
  | nil => cases w <;> first | rfl | exact Bool.noConfusion h
  | number n =>
      cases n with
      | int n =>
          cases hw with
          | simple _ hw =>
              cases w with
              | number n' =>
                  cases n' with
                  | int n' => exact congrArg (fun n => number (.int n)) (beq_iff_eq.mp h)
                  -- A double could be the same as a whole number without being it, but it is not
                  -- simple.
                  | float x => exact False.elim hw
              | _ => exact Bool.noConfusion h
          | _ => exact Bool.noConfusion h
      | float x => exact False.elim hv
  | string text =>
      cases w with
      | string text' => exact congrArg string (beq_iff_eq.mp h)
      | _ => exact Bool.noConfusion h
  | atom name =>
      cases w with
      | atom name' => exact congrArg atom (beq_iff_eq.mp h)
      | _ => exact Bool.noConfusion h
  | boolean b =>
      cases w with
      | boolean b' => exact congrArg boolean (beq_iff_eq.mp h)
      | _ => exact Bool.noConfusion h
  | callable name =>
      cases w with
      | callable name' => exact congrArg callable (beq_iff_eq.mp h)
      | _ => exact Bool.noConfusion h
  | list items => exact False.elim hv
  | map m => exact False.elim hv
  | nested host => exact False.elim hv

/-- What a list equals is a list. -/
theorem over_list_of_same (items : List Value) (w : Value) (hw : w.Over S)
    (h : SameValue (list items) w) :
    ∃ others, w = list others ∧ (∀ v ∈ others, S v) ∧ List.Forall₂ SameValue items others := by
  cases hw with
  | list others hothers => exact ⟨others, rfl, hothers, (list_beq_iff items others).mp h⟩
  | simple _ hw => cases w <;> first | exact False.elim hw | exact Bool.noConfusion h
  | map m hm => exact Bool.noConfusion h
  | nested host hhost => exact Bool.noConfusion h

/-- What a map equals is a map. -/
theorem over_map_of_same (m : Mapping) (w : Value) (hw : w.Over S) (h : SameValue (map m) w) :
    ∃ n, w = map n ∧ n.Over S := by
  cases hw with
  | map n hn => exact ⟨n, rfl, hn⟩
  | simple _ hw => cases w <;> first | exact False.elim hw | exact Bool.noConfusion h
  | list items hitems => exact Bool.noConfusion h
  | nested host hhost => exact Bool.noConfusion h

/-- What a host equals is a host. -/
theorem over_nested_of_same (host : Host) (w : Value) (hw : w.Over S)
    (h : SameValue (nested host) w) : ∃ other, w = nested other ∧ other.Over S := by
  cases hw with
  | nested other hother => exact ⟨other, rfl, hother⟩
  | simple _ hw => cases w <;> first | exact False.elim hw | exact Bool.noConfusion h
  | list items hitems => exact Bool.noConfusion h
  | map m hm => exact Bool.noConfusion h

/-- Equality of values is an equivalence if that of their parts is. -/
theorem over_equivalenceOn (hS : EquivalenceOn SameValue S) :
    EquivalenceOn SameValue (Value.Over S) where
  refl v hv := by
    cases hv with
    | simple _ h => exact same_refl_of_simple v h
    | list items h => exact (list_beq_iff items items).mpr (hS.forall₂.refl items h)
    | map m h => exact (Mapping.over_equivalenceOn hS).refl m h
    | nested host h => exact (Host.over_equivalenceOn hS).refl host h
  symm v w hv hw hvw := by
    cases hv with
    | simple _ h =>
        obtain rfl := eq_of_same_of_simple v w h hw hvw
        exact hvw
    | list items h =>
        obtain ⟨others, rfl, h', hsame⟩ := over_list_of_same items w hw hvw
        exact (list_beq_iff others items).mpr (hS.forall₂.symm items others h h' hsame)
    | map m h =>
        obtain ⟨n, rfl, h'⟩ := over_map_of_same m w hw hvw
        exact (Mapping.over_equivalenceOn hS).symm m n h h' hvw
    | nested host h =>
        obtain ⟨other, rfl, h'⟩ := over_nested_of_same host w hw hvw
        exact (Host.over_equivalenceOn hS).symm host other h h' hvw
  trans u v w hu hv hw huv hvw := by
    cases hu with
    | simple _ h =>
        obtain rfl := eq_of_same_of_simple u v h hv huv
        exact hvw
    | list items h =>
        obtain ⟨others, rfl, h', hsame⟩ := over_list_of_same items v hv huv
        obtain ⟨third, rfl, h'', hsame'⟩ := over_list_of_same others w hw hvw
        exact (list_beq_iff items third).mpr
          (hS.forall₂.trans items others third h h' h'' hsame hsame')
    | map m h =>
        obtain ⟨n, rfl, h'⟩ := over_map_of_same m v hv huv
        obtain ⟨third, rfl, h''⟩ := over_map_of_same n w hw hvw
        exact (Mapping.over_equivalenceOn hS).trans m n third h h' h'' huv hvw
    | nested host h =>
        obtain ⟨other, rfl, h'⟩ := over_nested_of_same host v hv huv
        obtain ⟨third, rfl, h''⟩ := over_nested_of_same other w hw hvw
        exact (Host.over_equivalenceOn hS).trans host other third h h' h'' huv hvw

/-- The parts of a value are smaller than it. -/
theorem over_smaller (v : Value) (hv : v.Over S) (n : Nat) (hn : sizeOf v < n + 1) :
    v.Over fun w => S w ∧ sizeOf w < n := by
  -- What is inside a value is smaller than the value, at every kind of place.
  cases hv with
  | simple _ h => exact .simple v h
  | list items h =>
      refine .list items fun w hw => ⟨h w hw, ?_⟩
      have hlt := sizeOf_item_lt items w hw
      omega
  | map m h =>
      obtain ⟨entries⟩ := m
      have hlt := sizeOf_entry_lt entries
      refine .map _ ⟨fun entry hentry => ⟨h.keys entry hentry, ?_⟩,
        fun entry hentry => ⟨h.values entry hentry, ?_⟩, h.distinct⟩
      · have hentryLt := hlt entry hentry
        omega
      · have hentryLt := hlt entry hentry
        omega
  | nested host h =>
      obtain ⟨operations, store⟩ := host
      refine .nested _ ⟨fun slot hslot => ⟨h.values slot hslot, ?_⟩, h.sorted⟩
      cases store with
      | none => exact absurd hslot List.not_mem_nil
      | some slots =>
          have hlt := sizeOf_slot_lt operations slots slot hslot
          omega

section

variable (layer : (Value → Prop) → Value → Prop)
  (hsmaller : ∀ v, S v → ∀ n, sizeOf v < n + 1 → layer (fun w => S w ∧ sizeOf w < n) v)
  (hlayer : ∀ T, EquivalenceOn SameValue T → EquivalenceOn SameValue (layer T))

include hsmaller hlayer

theorem equivalenceOn_below (n : Nat) : EquivalenceOn SameValue fun v => S v ∧ sizeOf v < n := by
  induction n with
  | zero => exact ⟨fun _ h => absurd h.2 (Nat.not_lt_zero _),
      fun _ _ h => absurd h.2 (Nat.not_lt_zero _), fun _ _ _ h => absurd h.2 (Nat.not_lt_zero _)⟩
  | succ n ih => exact (hlayer _ ih).mono _ fun v h => hsmaller v h.1 n h.2

/-- Equality is an equivalence on a set if it is one on the values of the set whose parts are
    taken from any set on which it is one. -/
theorem equivalenceOn_of_layer : EquivalenceOn SameValue S where
  refl v hv := by
    have h := equivalenceOn_below layer hsmaller hlayer (sizeOf v + 1)
    exact h.refl v ⟨hv, Nat.lt_succ_self _⟩
  symm v w hv hw := by
    have h := equivalenceOn_below layer hsmaller hlayer (sizeOf v + sizeOf w + 1)
    exact h.symm v w ⟨hv, by omega⟩ ⟨hw, by omega⟩
  trans u v w hu hv hw := by
    have h := equivalenceOn_below layer hsmaller hlayer (sizeOf u + sizeOf v + sizeOf w + 1)
    exact h.trans u v w ⟨hu, by omega⟩ ⟨hv, by omega⟩ ⟨hw, by omega⟩

end

/-- Equality is an equivalence on built values. -/
theorem built_equivalenceOn : EquivalenceOn SameValue Built :=
  equivalenceOn_of_layer Over (fun v hv => over_smaller v (Built.over v hv))
    fun _ hT => over_equivalenceOn hT

/-- A double can equal two whole numbers, because the comparison rounds. -/
example :
    let least : Value := .number (.int 9007199254740992)
    let between : Value := .number (.float (.ofInt 9007199254740992))
    let greatest : Value := .number (.int 9007199254740993)
    (least == between) = true ∧ (between == greatest) = true ∧ (least == greatest) = false := by
  decide +kernel

end Value

end FieldSchema
