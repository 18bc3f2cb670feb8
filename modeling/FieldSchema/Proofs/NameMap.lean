import Mathlib.Data.List.Nodup
import FieldSchema.NameMap

/-!
# Lookups and Names

What the operations on maps by name show to a caller.

Insertion walks to the place of the name and stops there, so what it does to
the order depends on the map being sorted. Most of the facts below do not. A
lookup sees one changed name whatever the order is, and a name that was not in
the map is added to the names exactly once. That is all that the tables of
operations are asked for, and mostly all that stores are. Only the comparison
of two stores goes slot by slot, and there the order matters: insertion keeps
it, and it tells where a name cannot be.

Changing every entry and leaving the names alone commutes with all of this.

## Main definitions

* `insertAll`: A map after several insertions.
* `Sorted`: The names stand in order, each once.
* `mapValues`: A map with every entry changed.

## Theorems

* `get?_insert`: Insertion changes the entry under one name.
* `contains_iff`: A map contains the names that it lists.
* `get?_eq_some_iff`: Where names are distinct, lookup is membership.
* `forall_get?_insert`, `forall_mem_insert`: Conditions on all entries survive an insertion.
* `insert_perm`: Under a new name, insertion adds one entry and keeps the others.
* `insertAll_perm`: The same of several new names.
* `insert_sorted`, `insertAll_sorted`: Insertions keep the order of the names.
* `eq_of_perm`: In order, a map is determined by its entries.
* `get?_mapValues`, `insert_mapValues`: Lookup and insertion where every entry is changed.
-/

namespace FieldSchema

namespace NameMap

variable {α : Type}

@[simp]
theorem get?_nil (name : String) : get? ([] : NameMap α) name = none := rfl

theorem get?_cons (name other : String) (entry : α) (rest : NameMap α) :
    get? ((other, entry) :: rest) name = if name = other then some entry else get? rest name := by
  unfold get?
  rw [List.lookup_cons]
  by_cases h : name = other
  · rw [if_pos h, beq_iff_eq.mpr h]
  · rw [if_neg h, beq_false_of_ne h]

/-- Insertion changes the entry under one name, in a map of any order. -/
theorem get?_insert (map : NameMap α) (name other : String) (entry : α) :
    get? (insert name entry map) other = if other = name then some entry else get? map other := by
  induction map with
  | nil => rw [insert, get?_cons]
  | cons head rest ih =>
      obtain ⟨first, kept⟩ := head
      unfold insert
      -- The new entry goes in the place of the first, before it, or somewhere after it.
      by_cases hfirst : name = first
      · rw [if_pos hfirst, get?_cons, get?_cons]
        subst hfirst
        split <;> rfl
      · rw [if_neg hfirst]
        by_cases hless : name < first
        · rw [if_pos hless, get?_cons]
        · rw [if_neg hless, get?_cons, ih, get?_cons]
          by_cases hother : other = first
          · rw [if_pos hother, if_neg (fun h => hfirst (h.symm.trans hother))]
            rw [if_pos hother]
          · rw [if_neg hother, if_neg hother]

theorem get?_insert_of_ne (map : NameMap α) (name other : String) (entry : α) (h : other ≠ name) :
    get? (insert name entry map) other = get? map other := by
  rw [get?_insert, if_neg h]

/-- A condition on all that is found still holds after an insertion of what meets it. -/
theorem forall_get?_insert {P : α → Prop} (map : NameMap α) (name : String) (entry : α)
    (hmap : ∀ other found, get? map other = some found → P found) (hentry : P entry) :
    ∀ other found, get? (insert name entry map) other = some found → P found := by
  intro other found hfound
  rw [get?_insert] at hfound
  split at hfound
  · rw [← Option.some.inj hfound]
    exact hentry
  · exact hmap other found hfound

theorem mem_of_get? (map : NameMap α) (name : String) (entry : α)
    (h : get? map name = some entry) : (name, entry) ∈ map := by
  induction map with
  | nil => exact absurd h (by simp only [get?_nil, reduceCtorEq, not_false_eq_true])
  | cons head rest ih =>
      obtain ⟨first, kept⟩ := head
      rw [get?_cons] at h
      by_cases hfirst : name = first
      · rw [if_pos hfirst, Option.some.injEq] at h
        rw [hfirst, h]
        exact List.mem_cons_self
      · rw [if_neg hfirst] at h
        exact List.mem_cons_of_mem _ (ih h)

/-- A map contains the names that it lists. -/
theorem contains_iff (map : NameMap α) (name : String) :
    contains map name = true ↔ name ∈ names map := by
  unfold contains names
  induction map with
  | nil => simp only [get?_nil, Option.isSome_none, Bool.false_eq_true, List.map_nil,
      List.not_mem_nil]
  | cons head rest ih =>
      obtain ⟨first, kept⟩ := head
      rw [get?_cons, List.map_cons, List.mem_cons]
      by_cases hfirst : name = first
      · rw [if_pos hfirst]
        simp only [Option.isSome_some, hfirst, true_or]
      · rw [if_neg hfirst, ih]
        simp only [hfirst, false_or]

theorem not_mem_names (map : NameMap α) (name : String) (h : contains map name = false) :
    name ∉ names map := by
  rw [← contains_iff, h]
  exact Bool.false_ne_true

/-- Where names are distinct, an entry that is there is the one that is found. -/
theorem get?_of_mem (map : NameMap α) (name : String) (entry : α) (hnodup : (names map).Nodup)
    (h : (name, entry) ∈ map) : get? map name = some entry := by
  induction map with
  | nil => exact absurd h List.not_mem_nil
  | cons head rest ih =>
      obtain ⟨first, kept⟩ := head
      rw [names, List.map_cons, List.nodup_cons] at hnodup
      rw [get?_cons]
      rcases List.mem_cons.mp h with heq | hrest
      · rw [Prod.mk.injEq] at heq
        rw [if_pos heq.1, heq.2]
      -- The name of the first entry is taken, so the entry in question has another.
      · have hne : name ≠ first := by
          intro heq
          exact hnodup.1 (List.mem_map.mpr ⟨(name, entry), hrest, heq⟩)
        rw [if_neg hne]
        exact ih hnodup.2 hrest

/-- Where names are distinct, lookup is membership. -/
theorem get?_eq_some_iff (map : NameMap α) (name : String) (entry : α)
    (hnodup : (names map).Nodup) : get? map name = some entry ↔ (name, entry) ∈ map :=
  ⟨mem_of_get? map name entry, get?_of_mem map name entry hnodup⟩

/-- Under a new name, insertion adds one entry and keeps the others. -/
theorem insert_perm (map : NameMap α) (name : String) (entry : α) (h : name ∉ names map) :
    (insert name entry map).Perm ((name, entry) :: map) := by
  induction map with
  | nil => exact List.Perm.refl _
  | cons head rest ih =>
      obtain ⟨first, kept⟩ := head
      rw [names, List.map_cons, List.mem_cons, not_or] at h
      unfold insert
      rw [if_neg h.1]
      by_cases hless : name < first
      · rw [if_pos hless]
      · rw [if_neg hless]
        exact ((ih h.2).cons (first, kept)).trans (List.Perm.swap _ _ rest)

/-- The map with several entries put into it one after another. -/
def insertAll (entries : List (String × α)) (map : NameMap α) : NameMap α :=
  entries.foldl (fun m p => insert p.1 p.2 m) map

/-- Under new and distinct names, insertion adds the entries and keeps the others. -/
theorem insertAll_perm (entries : List (String × α)) (map : NameMap α)
    (hnodup : (names entries).Nodup) (hnew : ∀ name ∈ names entries, name ∉ names map) :
    (insertAll entries map).Perm (map ++ entries) := by
  induction entries generalizing map with
  | nil =>
      rw [List.append_nil]
      exact List.Perm.refl _
  | cons head rest ih =>
      obtain ⟨name, entry⟩ := head
      rw [names, List.map_cons, List.nodup_cons] at hnodup
      have hfresh : name ∉ names map := hnew name List.mem_cons_self
      have hone := insert_perm map name entry hfresh
      -- Names that follow are still new: none of them is the one just inserted.
      have hrest : ∀ other ∈ names rest, other ∉ names (insert name entry map) := by
        intro other hother hmem
        rcases List.mem_cons.mp ((hone.map Prod.fst).mem_iff.mp hmem) with heq | hmap
        · exact hnodup.1 (heq ▸ hother)
        · exact hnew other (List.mem_cons_of_mem _ hother) hmap
      have hall := ih (insert name entry map) hnodup.2 hrest
      exact hall.trans ((hone.append_right rest).trans List.perm_middle.symm)

/-- The names stand in order, each once. -/
def Sorted (map : NameMap α) : Prop :=
  (names map).Pairwise (· < ·)

theorem nodup_of_sorted (map : NameMap α) (h : Sorted map) : (names map).Nodup := by
  refine List.Pairwise.imp ?_ h
  rintro name other hlt rfl
  exact Std.lt_irrefl hlt

theorem mem_names_insert (map : NameMap α) (name : String) (entry : α) (other : String)
    (h : other ∈ names (insert name entry map)) : other = name ∨ other ∈ names map := by
  rw [← contains_iff, contains, get?_insert] at h
  by_cases heq : other = name
  · exact Or.inl heq
  · rw [if_neg heq] at h
    exact Or.inr ((contains_iff map other).mp h)

/-- The walk to the place of a name stops before the first greater one. -/
theorem insert_sorted (map : NameMap α) (name : String) (entry : α) (h : Sorted map) :
    Sorted (insert name entry map) := by
  induction map with
  | nil => exact List.pairwise_singleton _ _
  | cons head rest ih =>
      obtain ⟨first, kept⟩ := head
      obtain ⟨hfirst, hrest⟩ := List.pairwise_cons.mp h
      unfold insert
      -- The name is that of the first entry, comes before it, or belongs after it.
      by_cases heq : name = first
      · rw [if_pos heq]
        subst heq
        exact List.pairwise_cons.mpr ⟨hfirst, hrest⟩
      · rw [if_neg heq]
        by_cases hless : name < first
        · rw [if_pos hless]
          refine List.pairwise_cons.mpr ⟨fun other hother => ?_, h⟩
          rcases List.mem_cons.mp hother with rfl | hmem
          · exact hless
          · exact Std.lt_trans hless (hfirst other hmem)
        · rw [if_neg hless]
          -- What follows the first entry comes after it, old or new.
          have hgreater : first < name := Std.lt_of_le_of_ne hless fun h => heq h.symm
          refine List.pairwise_cons.mpr ⟨fun other hother => ?_, ih hrest⟩
          rcases mem_names_insert rest name entry other hother with rfl | hmem
          · exact hgreater
          · exact hfirst other hmem

theorem insertAll_sorted (entries : List (String × α)) (map : NameMap α) (h : Sorted map) :
    Sorted (insertAll entries map) := by
  induction entries generalizing map with
  | nil => exact h
  | cons head rest ih => exact ih _ (insert_sorted map head.1 head.2 h)

/-- In order, a map is determined by its entries. -/
theorem eq_of_perm (map map' : NameMap α) (h : Sorted map) (h' : Sorted map')
    (hperm : map.Perm map') : map = map' := by
  have hless : ∀ m : NameMap α, Sorted m → m.Pairwise fun x y => x.1 < y.1 :=
    fun m hm => List.pairwise_map.mp hm
  refine List.Perm.eq_of_pairwise (fun x y _ _ hxy hyx => ?_) (hless map h) (hless map' h') hperm
  exact absurd (Std.lt_trans hxy hyx) Std.lt_irrefl

theorem mem_insert (map : NameMap α) (name : String) (entry : α) (slot : String × α)
    (h : slot ∈ insert name entry map) : slot.2 = entry ∨ slot ∈ map := by
  induction map with
  | nil =>
      obtain rfl := List.mem_singleton.mp h
      exact Or.inl rfl
  | cons head rest ih =>
      obtain ⟨first, kept⟩ := head
      unfold insert at h
      -- As in the recursion: in the place of the first entry, before it, or further on.
      split at h
      · rcases List.mem_cons.mp h with rfl | hrest
        · exact Or.inl rfl
        · exact Or.inr (List.mem_cons_of_mem _ hrest)
      · split at h
        · rcases List.mem_cons.mp h with rfl | hmem
          · exact Or.inl rfl
          · exact Or.inr hmem
        · rcases List.mem_cons.mp h with rfl | hrest
          · exact Or.inr List.mem_cons_self
          · exact (ih hrest).imp_right (List.mem_cons_of_mem _)

/-- A condition on all entries still holds after an insertion of what meets it. -/
theorem forall_mem_insert {P : α → Prop} (map : NameMap α) (name : String) (entry : α)
    (hmap : ∀ slot ∈ map, P slot.2) (hentry : P entry) :
    ∀ slot ∈ insert name entry map, P slot.2 := by
  intro slot hslot
  rcases mem_insert map name entry slot hslot with heq | hold
  · exact heq ▸ hentry
  · exact hmap slot hold

theorem get?_eq_none (map : NameMap α) (name : String) (h : name ∉ names map) :
    get? map name = none := by
  rw [← contains_iff, contains, Bool.not_eq_true, Option.isSome_eq_false_iff] at h
  exact Option.isNone_iff_eq_none.mp h

/-- In order, a name that comes before the first is not there. -/
theorem get?_of_lt (first : String) (entry : α) (rest : NameMap α)
    (h : Sorted ((first, entry) :: rest)) (name : String) (hless : name < first) :
    get? ((first, entry) :: rest) name = none := by
  refine get?_eq_none _ name fun hmem => ?_
  rcases List.mem_cons.mp hmem with rfl | hrest
  · exact Std.lt_irrefl hless
  · exact Std.lt_irrefl (Std.lt_trans hless ((List.pairwise_cons.mp h).1 name hrest))

/-- In order, the first name is not there again. -/
theorem get?_rest (first : String) (entry : α) (rest : NameMap α)
    (h : Sorted ((first, entry) :: rest)) : get? rest first = none := by
  refine get?_eq_none rest first fun hmem => ?_
  exact Std.lt_irrefl ((List.pairwise_cons.mp h).1 first hmem)

section

variable {β : Type}

/-- The map with every entry changed and the names kept. -/
def mapValues (g : α → β) (map : NameMap α) : NameMap β :=
  map.map fun slot => (slot.1, g slot.2)

variable (g : α → β)

theorem get?_mapValues (map : NameMap α) (name : String) :
    get? (mapValues g map) name = (get? map name).map g := by
  induction map with
  | nil => rfl
  | cons head rest ih =>
      obtain ⟨first, kept⟩ := head
      rw [mapValues, List.map_cons, get?_cons, get?_cons]
      by_cases heq : name = first
      · rw [if_pos heq, if_pos heq]
        rfl
      · rw [if_neg heq, if_neg heq]
        exact ih

theorem contains_mapValues (map : NameMap α) (name : String) :
    contains (mapValues g map) name = contains map name := by
  rw [contains, get?_mapValues, Option.isSome_map]
  rfl

theorem names_mapValues (map : NameMap α) : names (mapValues g map) = names map := by
  rw [names, mapValues, List.map_map]
  rfl

theorem mapValues_cons (name : String) (entry : α) (rest : NameMap α) :
    mapValues g ((name, entry) :: rest) = (name, g entry) :: mapValues g rest := rfl

theorem insert_mapValues (map : NameMap α) (name : String) (entry : α) :
    mapValues g (insert name entry map) = insert name (g entry) (mapValues g map) := by
  induction map with
  | nil => rfl
  | cons head rest ih =>
      obtain ⟨first, kept⟩ := head
      rw [mapValues_cons]
      unfold insert
      by_cases heq : name = first
      · rw [if_pos heq, if_pos heq, mapValues_cons]
      · rw [if_neg heq, if_neg heq]
        by_cases hless : name < first
        · rw [if_pos hless, if_pos hless, mapValues_cons, mapValues_cons]
        · rw [if_neg hless, if_neg hless, mapValues_cons, ih]

end

end NameMap

end FieldSchema
