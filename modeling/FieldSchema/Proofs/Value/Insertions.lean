import Mathlib.Data.List.Induction
import FieldSchema.Proofs.Value.Equivalence

/-!
# Maps as Histories of Insertions

What a map holds, told by what was inserted and not by how.

An insertion looks for the first key that equals the given one, from the front,
and replaces the value there or adds an entry at the end. After many of them
it takes some thought to say what is in the map. Where equality is an
equivalence on the keys, it can be said at once. The keys are those that
equaled none before them, in the order in which they came, and each has the
value that was inserted last under a key equal to it.

Both halves rest on the same fact. Of the keys that are in the map at most one
equals a given one, so that the first one found is the only one, and the other
entries are those of other keys.

## Main definitions

* `lastUnder`: The value that was inserted last under a key.
* `Apart`: Neither value equals the other.

## Theorems

* `eraseDups_concat`: One more key is dropped if it equals one that was kept.
* `eraseDups_distinct`, `exists_kept`: No two kept keys are equal, and each key equals one of them.
* `insertInto_tabulated`: An insertion changes the value of one key, or adds one.
* `ofList_entries`: The entries of a map, by its insertions.
* `ofList_unique`: Each key inserted has one entry that is found under it.
-/

namespace FieldSchema

/-- One more key is dropped if it equals one of those that were kept, and is kept otherwise. -/
theorem eraseDups_concat (keys : List Value) (key : Value) :
    (keys ++ [key]).eraseDups =
      if keys.eraseDups.any (key == ·) then keys.eraseDups else keys.eraseDups ++ [key] := by
  -- The search runs through what was kept before, from the latest back to the first.
  have hloop : ∀ kept : List Value,
      List.eraseDupsBy.loop (· == ·) (keys ++ [key]) kept =
        if (List.eraseDupsBy.loop (· == ·) keys kept).any (key == ·) then
          List.eraseDupsBy.loop (· == ·) keys kept
        else List.eraseDupsBy.loop (· == ·) keys kept ++ [key] := by
    induction keys with
    | nil =>
        intro kept
        simp only [List.nil_append, List.eraseDupsBy.loop, List.any_reverse]
        cases kept.any (key == ·) with
        | true => rfl
        | false => exact List.reverse_cons
    | cons head rest ih =>
        intro kept
        rcases Bool.eq_false_or_eq_true (kept.any (head == ·)) with hany | hany
        · simp only [List.cons_append, List.eraseDupsBy.loop, hany]
          exact ih kept
        · simp only [List.cons_append, List.eraseDupsBy.loop, hany]
          exact ih (head :: kept)
  exact hloop []

/-- Nothing is kept that was not there. -/
theorem mem_of_mem_eraseDups (keys : List Value) (key : Value) (h : key ∈ keys.eraseDups) :
    key ∈ keys := by
  induction keys using List.reverseRecOn with
  | nil => exact h
  | append_singleton keys last ih =>
      rw [eraseDups_concat] at h
      split at h
      · exact List.mem_append_left _ (ih h)
      · rcases List.mem_append.mp h with hkept | hlast
        · exact List.mem_append_left _ (ih hkept)
        · exact List.mem_append_right _ hlast

/-- The value that was inserted last under a key equal to the given one, nil if there is none. -/
def lastUnder (key : Value) (inserted : List (Value × Value)) : Value :=
  ((inserted.reverse.find? fun entry => entry.1 == key).map (·.2)).getD .nil

theorem lastUnder_concat (key k v : Value) (inserted : List (Value × Value)) :
    lastUnder key (inserted ++ [(k, v)]) = if k == key then v else lastUnder key inserted := by
  unfold lastUnder
  rw [List.reverse_append, List.reverse_singleton, List.singleton_append, List.find?_cons]
  cases k == key <;> rfl

/-- Neither of the values equals the other, asked from either side. -/
def Apart (v w : Value) : Prop :=
  ¬ SameValue v w ∧ ¬ SameValue w v

section

variable {S : Value → Prop} (hS : EquivalenceOn SameValue S)

include hS

/-- No two of the keys that are kept are equal. -/
theorem eraseDups_distinct (keys : List Value) (hkeys : ∀ key ∈ keys, S key) :
    keys.eraseDups.Pairwise fun earlier later => ¬ SameValue earlier later := by
  induction keys using List.reverseRecOn with
  | nil => exact .nil
  | append_singleton keys last ih =>
      obtain ⟨hbefore, hlast⟩ := List.forall_mem_append.mp hkeys
      rw [eraseDups_concat]
      split
      · exact ih hbefore
      · rename_i hnone
        refine List.pairwise_append.mpr ⟨ih hbefore, List.pairwise_singleton _ _, ?_⟩
        intro kept hkept other hother hsame
        rw [List.mem_singleton.mp hother] at hsame
        have hSkept := hbefore kept (mem_of_mem_eraseDups keys kept hkept)
        have hback := hS.symm kept last hSkept (hlast last List.mem_cons_self) hsame
        exact hnone (List.any_eq_true.mpr ⟨kept, hkept, hback⟩)

/-- An insertion into a table of distinct keys changes the value of the key that equals the given
    one, or adds that one at the end. -/
theorem insertInto_tabulated (k v : Value) (hk : S k) (g : Value → Value) (keys : List Value)
    (hkeys : ∀ key ∈ keys, S key)
    (hdistinct : keys.Pairwise fun earlier later => ¬ SameValue earlier later) :
    Mapping.insertInto k v (keys.map fun key => (key, g key)) =
      (if keys.any (k == ·) then keys else keys ++ [k]).map fun key =>
        (key, if k == key then v else g key) := by
  have hsymm : ∀ key, S key → (k == key) = (key == k) := fun key hkey =>
    Bool.eq_iff_iff.mpr ⟨hS.symm k key hk hkey, hS.symm key k hkey hk⟩
  induction keys with
  | nil =>
      have hself : (k == k) = true := hS.refl k hk
      simp only [List.map_nil, Mapping.insertInto, List.any_nil, Bool.false_eq_true, if_false,
        List.nil_append, List.map_cons, hself, if_true]
  | cons head rest ih =>
      obtain ⟨hhead, hrest⟩ := List.forall_mem_cons.mp hkeys
      obtain ⟨hapart, hothers⟩ := List.pairwise_cons.mp hdistinct
      rw [List.map_cons, Mapping.insertInto, List.any_cons, hsymm head hhead]
      cases hfound : head == k with
      | true =>
          -- The key is found here, so none of the others equals it.
          have hkept : ∀ key ∈ rest, (key, g key) = (key, if k == key then v else g key) := by
            intro key hkey
            have hne : (k == key) = false := by
              refine eq_false_of_ne_true fun heq => ?_
              exact hapart key hkey (hS.trans head k key hhead hk (hrest key hkey) hfound heq)
            rw [hne]
            rfl
          rw [Bool.true_or, if_pos rfl, if_pos rfl, List.map_cons, hsymm head hhead, hfound,
            if_pos rfl, List.map_congr_left hkept]
      | false =>
          have hmore := ih hrest hothers
          rw [Bool.false_or, if_neg Bool.false_ne_true, hmore]
          cases rest.any (k == ·) <;>
            simp only [Bool.false_eq_true, if_false, if_true, List.cons_append, List.map_cons,
              hsymm head hhead, hfound]

/-- The keys of a map are those that equaled none before them, in the order of their insertion, and
    each has the value that was inserted last under a key equal to it. -/
theorem ofList_entries (inserted : List (Value × Value)) (hkeys : ∀ entry ∈ inserted, S entry.1) :
    (Mapping.ofList inserted).entries =
      (inserted.map (·.1)).eraseDups.map fun key => (key, lastUnder key inserted) := by
  -- A map grows by its last insertion, so the induction takes the last one off.
  induction inserted using List.reverseRecOn with
  | nil => rfl
  | append_singleton inserted entry ih =>
      obtain ⟨k, v⟩ := entry
      obtain ⟨hbefore, hlast⟩ := List.forall_mem_append.mp hkeys
      have hentries := ih hbefore
      have hkept : ∀ key ∈ (inserted.map (·.1)).eraseDups, S key := by
        intro key hkey
        obtain ⟨entry, hentry, rfl⟩ := List.mem_map.mp (mem_of_mem_eraseDups _ key hkey)
        exact hbefore entry hentry
      have hdistinct := eraseDups_distinct hS (inserted.map (·.1)) (List.forall_mem_map.mpr hbefore)
      have hinsert := insertInto_tabulated hS k v (hlast (k, v) List.mem_cons_self)
        (fun key => lastUnder key inserted) _ hkept hdistinct
      rw [← Mapping.insert_ofList, Mapping.insert, hentries, hinsert, List.map_append,
        List.map_singleton, eraseDups_concat]
      simp only [lastUnder_concat]

/-- A key that was not kept equals one that was. -/
theorem exists_kept (keys : List Value) (hkeys : ∀ key ∈ keys, S key) (key : Value)
    (hkey : key ∈ keys) : ∃ kept ∈ keys.eraseDups, SameValue kept key := by
  -- From the end of the list, because later keys are dropped in favour of earlier ones.
  induction keys using List.reverseRecOn with
  | nil => exact absurd hkey List.not_mem_nil
  | append_singleton keys last ih =>
      obtain ⟨hbefore, hlast⟩ := List.forall_mem_append.mp hkeys
      have hSlast := hlast last List.mem_cons_self
      have hgrown : ∀ kept ∈ keys.eraseDups, kept ∈ (keys ++ [last]).eraseDups := by
        intro kept hkept
        rw [eraseDups_concat]
        split
        · exact hkept
        · exact List.mem_append_left _ hkept
      rcases List.mem_append.mp hkey with hold | hnew
      · obtain ⟨kept, hkept, hsame⟩ := ih hbefore hold
        exact ⟨kept, hgrown kept hkept, hsame⟩
      · rw [List.mem_singleton.mp hnew]
        -- The last key is dropped if an equal one was kept before, and is kept itself otherwise.
        cases hany : keys.eraseDups.any (last == ·) with
        | true =>
            obtain ⟨kept, hkept, hsame⟩ := List.any_eq_true.mp hany
            have hSkept := hbefore kept (mem_of_mem_eraseDups keys kept hkept)
            exact ⟨kept, hgrown kept hkept, hS.symm last kept hSlast hSkept hsame⟩
        | false =>
            refine ⟨last, ?_, hS.refl last hSlast⟩
            rw [eraseDups_concat, hany]
            exact List.mem_append_right _ List.mem_cons_self

/-- Of the keys that were kept no two different ones are equal. -/
theorem eq_of_kept (keys : List Value) (hkeys : ∀ key ∈ keys, S key) (x y : Value)
    (hx : x ∈ keys.eraseDups) (hy : y ∈ keys.eraseDups) (hxy : SameValue x y) : x = y := by
  have hsymm : Std.Symm Apart := ⟨fun _ _ h => ⟨h.2, h.1⟩⟩
  have hS' : ∀ key ∈ keys.eraseDups, S key :=
    fun key hkey => hkeys key (mem_of_mem_eraseDups keys key hkey)
  have hapart : keys.eraseDups.Pairwise Apart := by
    refine (eraseDups_distinct hS keys hkeys).imp_of_mem fun {a b} ha hb hab => ?_
    exact ⟨hab, fun hba => hab (hS.symm b a (hS' b hb) (hS' a ha) hba)⟩
  by_contra hne
  exact (hapart.forall hx hy hne).1 hxy

/-- Under each key that was inserted there is one entry, and no other has an equal key. -/
theorem ofList_unique (inserted : List (Value × Value)) (hkeys : ∀ entry ∈ inserted, S entry.1)
    (entry : Value × Value) (hentry : entry ∈ inserted) :
    ∃! found, found ∈ (Mapping.ofList inserted).entries ∧ SameValue found.1 entry.1 := by
  have hall : ∀ key ∈ inserted.map (·.1), S key := List.forall_mem_map.mpr hkeys
  obtain ⟨kept, hkept, hsame⟩ :=
    exists_kept hS (inserted.map (·.1)) hall entry.1 (List.mem_map_of_mem hentry)
  have hentries := ofList_entries hS inserted hkeys
  refine ⟨(kept, lastUnder kept inserted), ⟨?_, hsame⟩, ?_⟩
  · rw [hentries]
    exact List.mem_map_of_mem hkept
  -- Another entry with an equal key would have a key that was kept besides, and no two of these are
  -- equal.
  · rintro found ⟨hfound, hequal⟩
    rw [hentries] at hfound
    obtain ⟨key, hkey, rfl⟩ := List.mem_map.mp hfound
    have hSentry := hkeys entry hentry
    have hSkey := hall key (mem_of_mem_eraseDups _ key hkey)
    have hSkept := hall kept (mem_of_mem_eraseDups _ kept hkept)
    have hback := hS.symm kept entry.1 hSkept hSentry hsame
    rw [eq_of_kept hS (inserted.map (·.1)) hall key kept hkey hkept
      (hS.trans key entry.1 kept hSkey hSentry hSkept hequal hback)]

end

end FieldSchema
