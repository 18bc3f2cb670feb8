import FieldSchema.Proofs.Accessor.Decision
import FieldSchema.Proofs.Schema.Content

/-!
# Values That a Field Admits

Why a slot satisfies the declaration of its field after a write.

A write is only checked for what it adds. Appending an item looks at the item
and not at the list, and entering a value looks at neither the other entries
nor at the key under which it ends up, which need not be the one it was given.
So a write keeps a slot in order and does not put it there; that the slot was
in order before is needed, and it is all that is needed. An empty slot is.

The check was made at some time, with the hosts that had names then. The slot
is in order at any time, which is where pure predicates come in.

## Main definitions

* `FieldSpec.Admits`: The value satisfies the declaration of the field.

## Theorems

* `mem_insertInto`: Entering a value brings in no other key and no other value.
* `insertInto_keys`, `insertInto_values`: Conditions on all keys and on all values survive it.
* `pairwise_insertInto`: Entering a value keeps earlier keys unequal to later ones.
* `holds_of_passed`: What passed a check at some time passes it at any time.
* `update_admits`: An allowed write keeps a slot in order.
-/

namespace FieldSchema

/-- The value satisfies the declaration of the field, with the given hosts under names. -/
def FieldSpec.Admits (hosts : NameMap Host) (spec : FieldSpec) (v : Value) : Prop :=
  match spec.kind with
  | .scalar c =>
      c.holds hosts v = true ∧ ∀ p, spec.validation = some p → p.holds hosts v = true
  | .array _ item _ _ =>
      ∃ items, v = .list items ∧ ∀ c, item = some c → ∀ w ∈ items, c.holds hosts w = true
  | .hash _ key value _ =>
      ∃ entries, v = .map ⟨entries⟩ ∧
        (∀ c, key = some c → ∀ entry ∈ entries, c.holds hosts entry.1 = true) ∧
        (∀ c, value = some c → ∀ entry ∈ entries, c.holds hosts entry.2 = true) ∧
        entries.Pairwise fun earlier later => (earlier.1 == later.1) = false

namespace Mapping

/-- The keys after a value was entered are old ones or the given one, and so are the values. -/
theorem mem_insertInto (key v : Value) (entries : List (Value × Value)) (entry : Value × Value)
    (h : entry ∈ insertInto key v entries) :
    (entry.1 = key ∨ ∃ old ∈ entries, old.1 = entry.1) ∧
      (entry.2 = v ∨ ∃ old ∈ entries, old.2 = entry.2) := by
  induction entries with
  | nil =>
      obtain rfl := List.mem_singleton.mp h
      exact ⟨Or.inl rfl, Or.inl rfl⟩
  | cons head rest ih =>
      obtain ⟨k, kept⟩ := head
      rw [insertInto] at h
      -- Either the value of this entry is exchanged, or the search goes on behind it.
      split at h
      · rcases List.mem_cons.mp h with rfl | hrest
        · exact ⟨Or.inr ⟨(k, kept), List.mem_cons_self, rfl⟩, Or.inl rfl⟩
        · have hmem : entry ∈ (k, kept) :: rest := List.mem_cons_of_mem _ hrest
          exact ⟨Or.inr ⟨entry, hmem, rfl⟩, Or.inr ⟨entry, hmem, rfl⟩⟩
      · rcases List.mem_cons.mp h with rfl | hrest
        · exact ⟨Or.inr ⟨(k, kept), List.mem_cons_self, rfl⟩,
            Or.inr ⟨(k, kept), List.mem_cons_self, rfl⟩⟩
        · obtain ⟨hkey, hvalue⟩ := ih hrest
          constructor
          · exact hkey.imp_right fun ⟨old, hold, heq⟩ => ⟨old, List.mem_cons_of_mem _ hold, heq⟩
          · exact hvalue.imp_right fun ⟨old, hold, heq⟩ => ⟨old, List.mem_cons_of_mem _ hold, heq⟩

section

variable (K V : Value → Prop) (key v : Value) (entries : List (Value × Value))

/-- A condition on all keys still holds after an insertion under a key that meets it. -/
theorem insertInto_keys (h : ∀ entry ∈ entries, K entry.1) (hkey : K key) :
    ∀ entry ∈ insertInto key v entries, K entry.1 := by
  intro entry hentry
  rcases (mem_insertInto key v entries entry hentry).1 with heq | ⟨old, hold, heq⟩
  · exact heq ▸ hkey
  · exact heq ▸ h old hold

/-- A condition on all values still holds after an insertion of a value that meets it. -/
theorem insertInto_values (h : ∀ entry ∈ entries, V entry.2) (hv : V v) :
    ∀ entry ∈ insertInto key v entries, V entry.2 := by
  intro entry hentry
  rcases (mem_insertInto key v entries entry hentry).2 with heq | ⟨old, hold, heq⟩
  · exact heq ▸ hv
  · exact heq ▸ h old hold

theorem forall_mem_insertInto (h : ∀ entry ∈ entries, K entry.1 ∧ V entry.2) (hkey : K key)
    (hv : V v) : ∀ entry ∈ insertInto key v entries, K entry.1 ∧ V entry.2 :=
  fun entry hentry =>
    ⟨insertInto_keys K key v entries (fun old hold => (h old hold).1) hkey entry hentry,
      insertInto_values V key v entries (fun old hold => (h old hold).2) hv entry hentry⟩

end

/-- A key that is added at the end was unequal to all keys on the way there. -/
theorem pairwise_insertInto (key v : Value) (entries : List (Value × Value))
    (h : entries.Pairwise fun earlier later => (earlier.1 == later.1) = false) :
    (insertInto key v entries).Pairwise fun earlier later => (earlier.1 == later.1) = false := by
  induction entries with
  | nil => exact List.pairwise_singleton _ _
  | cons head rest ih =>
      obtain ⟨k, kept⟩ := head
      obtain ⟨hhead, hrest⟩ := List.pairwise_cons.mp h
      rw [insertInto]
      split
      · exact List.pairwise_cons.mpr ⟨hhead, hrest⟩
      -- The search goes on past a key only if it differs from the given one.
      · rename_i hne
        exact List.pairwise_cons.mpr
          ⟨insertInto_keys (fun later => (k == later) = false) key v rest hhead
            (eq_false_of_ne_true hne), ih hrest⟩

end Mapping

theorem ifAny_passed (c : Option Constraint) (v : Value) (h : (Constraint.ifAny c).Passed v)
    (own : Constraint) (hown : c = some own) : ∃ hosts, own.holds hosts v = true := by
  rw [hown] at h
  exact h

section

variable (spec : FieldSpec) (hspec : spec.SelfContained)

include hspec

/-- What passed a constraint of the field at some time passes it at any time. -/
theorem holds_of_passed (c : Constraint) (hc : c ∈ spec.kind.constraints) (v : Value)
    (h : ∃ hosts, c.holds hosts v = true) (hosts : NameMap Host) : c.holds hosts v = true := by
  obtain ⟨others, hothers⟩ := h
  cases c with
  | category category => exact hothers
  | custom p =>
      have hp : p ∈ spec.predicates := by
        refine List.mem_append_left _ (List.mem_append_right _ (List.mem_flatMap.mpr ?_))
        exact ⟨.custom p, hc, List.mem_singleton.mpr rfl⟩
      exact (hspec.pure p hp hosts others v).trans hothers

theorem scalar_admits (c : Constraint) (hkind : spec.kind = .scalar c) (v : Value)
    (h : spec.check.Passed v) (hosts : NameMap Host) : spec.Admits hosts v := by
  obtain ⟨others, hothers⟩ := h
  simp only [FieldSpec.check, hkind, Check.andThen, Bool.and_eq_true] at hothers
  have hc : c ∈ spec.kind.constraints := by
    rw [hkind]
    exact List.mem_singleton.mpr rfl
  simp only [FieldSpec.Admits, hkind]
  refine ⟨holds_of_passed spec hspec c hc v ⟨others, hothers.1⟩ hosts, fun p hp => ?_⟩
  have hmem : p ∈ spec.predicates := by
    refine List.mem_append_left _ (List.mem_append_left _ ?_)
    rw [hp]
    exact List.mem_singleton.mpr rfl
  -- The verdict was given among other hosts, which does not matter to a pure predicate.
  rw [hspec.pure p hmem hosts others v]
  have hvalidation := hothers.2
  rw [hp] at hvalidation
  exact hvalidation

theorem items_admits (singular : String) (item : Option Constraint) (schema : Option SubSchema)
    (itemCallback : ItemCallback) (hkind : spec.kind = .array singular item schema itemCallback)
    (v : Value) (h : (Constraint.onItems item).Passed v) (hosts : NameMap Host) :
    spec.Admits hosts v := by
  obtain ⟨others, hothers⟩ := h
  simp only [FieldSpec.Admits, hkind]
  cases v with
  | list items =>
      refine ⟨items, rfl, ?_⟩
      rintro c rfl w hw
      have hc : c ∈ spec.kind.constraints := by
        rw [hkind]
        exact List.mem_singleton.mpr rfl
      exact holds_of_passed spec hspec c hc w ⟨others, List.all_eq_true.mp hothers w hw⟩ hosts
  | _ => exact nomatch hothers

theorem append_admits (singular : String) (item : Option Constraint) (schema : Option SubSchema)
    (itemCallback : ItemCallback) (hkind : spec.kind = .array singular item schema itemCallback)
    (old v : Value) (h : (Constraint.ifAny item).Passed v) (hosts : NameMap Host)
    (hold : old = .nil ∨ spec.Admits hosts old) :
    spec.Admits hosts (.list (listItems old ++ [v])) := by
  simp only [FieldSpec.Admits, hkind] at hold ⊢
  refine ⟨_, rfl, ?_⟩
  rintro c rfl w hw
  have hc : c ∈ spec.kind.constraints := by
    rw [hkind]
    exact List.mem_singleton.mpr rfl
  rcases List.mem_append.mp hw with hbefore | hnew
  · rcases hold with rfl | ⟨items, rfl, hitems⟩
    · exact absurd hbefore List.not_mem_nil
    · exact hitems c rfl w hbefore
  -- The new item is the only one that was checked.
  · obtain rfl := List.mem_singleton.mp hnew
    exact holds_of_passed spec hspec c hc w (ifAny_passed _ w h c rfl) hosts

theorem enter_admits (singular : String) (key value : Option Constraint)
    (schema : Option SubSchema) (hkind : spec.kind = .hash singular key value schema)
    (old k v : Value) (hkey : (Constraint.ifAny key).Passed k)
    (hvalue : schema.isSome = true ∨ (Constraint.ifAny value).Passed v) (hosts : NameMap Host)
    (hold : old = .nil ∨ spec.Admits hosts old) :
    spec.Admits hosts (.map ((mapEntries old).insert k v)) := by
  simp only [FieldSpec.Admits, hkind] at hold ⊢
  -- An empty slot counts as a map without entries, which is in order.
  have hbefore : (∀ c, key = some c → ∀ entry ∈ (mapEntries old).entries,
        c.holds hosts entry.1 = true) ∧
      (∀ c, value = some c → ∀ entry ∈ (mapEntries old).entries,
        c.holds hosts entry.2 = true) ∧
      (mapEntries old).entries.Pairwise fun earlier later => (earlier.1 == later.1) = false := by
    rcases hold with rfl | ⟨entries, rfl, hentries⟩
    · exact ⟨fun _ _ _ h => absurd h List.not_mem_nil, fun _ _ _ h => absurd h List.not_mem_nil,
        List.Pairwise.nil⟩
    · exact hentries
  refine ⟨_, rfl, ?_, ?_, Mapping.pairwise_insertInto k v _ hbefore.2.2⟩
  · intro c hown
    have hc : c ∈ spec.kind.constraints := by
      rw [hkind, hown]
      exact List.mem_append_left _ (List.mem_singleton.mpr rfl)
    exact Mapping.insertInto_keys (fun w => c.holds hosts w = true) k v _ (hbefore.1 c hown)
      (holds_of_passed spec hspec c hc k (ifAny_passed key k hkey c hown) hosts)
  · intro c hown
    have hc : c ∈ spec.kind.constraints := by
      rw [hkind, hown]
      exact List.mem_append_right _ (List.mem_singleton.mpr rfl)
    -- With a constraint on values there is no nested schema, so the value was checked.
    have hpassed : (Constraint.ifAny value).Passed v := by
      rcases hspec.oneSource singular key value schema hkind with hnone | hnone
      · exact absurd (hown.symm.trans hnone) (Option.some_ne_none c)
      · rcases hvalue with hsome | hpassed
        · rw [hnone] at hsome
          exact nomatch hsome
        · exact hpassed
    exact Mapping.insertInto_values (fun w => c.holds hosts w = true) k v _ (hbefore.2.1 c hown)
      (holds_of_passed spec hspec c hc v (ifAny_passed value v hpassed c hown) hosts)

/-- A write that an accessor allows puts an admitted value into the slot, given that the slot was
    empty or in order. -/
theorem update_admits (op : Operation) (hop : spec.Accessor op) (write : Write)
    (hwrite : op.Allows write) (old : Value) (hosts : NameMap Host)
    (hold : old = .nil ∨ spec.Admits hosts old) : spec.Admits hosts (write.update old) := by
  -- Each accessor allows writes of one shape, and these keep the value of the field in shape.
  cases hop with
  | scalar c hkind =>
      cases write with
      | assign v => exact scalar_admits spec hspec c hkind v hwrite hosts
      | append v => exact False.elim hwrite
      | enter k v => exact False.elim hwrite
  | arrayPlural singular item schema itemCallback hkind =>
      cases write with
      | assign v =>
          simp only [Operation.Allows, hkind, FieldKind.item?] at hwrite
          exact items_admits spec hspec singular item schema itemCallback hkind v hwrite hosts
      | append v => exact False.elim hwrite
      | enter k v => exact False.elim hwrite
  | arrayItem singular item schema itemCallback hkind =>
      cases write with
      | append v =>
          simp only [Operation.Allows, hkind, FieldKind.item?] at hwrite
          exact append_admits spec hspec singular item schema itemCallback hkind old v hwrite
            hosts hold
      | assign v => exact False.elim hwrite
      | enter k v => exact False.elim hwrite
  | hashPlural singular key value schema hkind =>
      cases write <;> exact False.elim hwrite
  | hashEntry singular key value schema hkind =>
      cases write with
      | enter k v =>
          simp only [Operation.Allows, hkind, FieldKind.key?, FieldKind.value?,
            FieldKind.schema?] at hwrite
          exact enter_admits spec hspec singular key value schema hkind old k v hwrite.1 hwrite.2
            hosts hold
      | assign v => exact False.elim hwrite
      | append v => exact False.elim hwrite

end

end FieldSchema
