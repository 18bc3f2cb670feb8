import Mathlib.Data.List.Induction
import FieldSchema.Proofs.History.Lifetime

/-!
# An Array Is Its History

The list in the slot of an array, told by the writes to it.

Two accessors write to the slot of an array. The one for the whole puts a list
in place of what is there, and the one for items adds an item at the end. The
second finds a list, or else nothing at all, which counts as an empty list. So
the last assignment decides with what the list begins, and every item appended
since then follows, in order.

Calls that are rejected have made no write, and a call whose callback fails has
made one. Where callbacks write to the same field, their writes come after that
of the call and before that of the next call. All this is in the list of
changes and need not be thought of again.

## Main definitions

* `Accumulates`: The items of the list assigned last, and those appended since.

## Theorems

* `slotAfter_accumulates`: Assignments and appends leave such a list in the slot.
* `array_write`: A write to an array assigns a list or appends an item.
* `array_reads`: Both accessors read the slot.
* `array_is_its_history`: The field of an array holds what its history says.
-/

namespace FieldSchema

/-- The items are those of the list that was assigned last, none if no list was assigned, and then
    those that were appended since. -/
def Accumulates (writes : List Write) (items : List Value) : Prop :=
  ∃ assigned appended, items = assigned ++ appended ∧
    ((assigned = [] ∧ writes = appended.map .append) ∨
      ∃ before, writes = before ++ .assign (.list assigned) :: appended.map .append)

/-- An item that is appended comes last. -/
theorem accumulates_append (writes : List Write) (items : List Value) (v : Value)
    (h : Accumulates writes items) : Accumulates (writes ++ [.append v]) (items ++ [v]) := by
  obtain ⟨assigned, appended, rfl, hwrites⟩ := h
  refine ⟨assigned, appended ++ [v], List.append_assoc _ _ _, ?_⟩
  rcases hwrites with ⟨hnone, rfl⟩ | ⟨before, rfl⟩
  · refine Or.inl ⟨hnone, ?_⟩
    rw [List.map_append, List.map_singleton]
  · refine Or.inr ⟨before, ?_⟩
    rw [List.map_append, List.map_singleton, List.append_assoc, List.cons_append]

/-- Nothing is accumulated without writes. -/
theorem accumulates_nil (items : List Value) (h : Accumulates [] items) : items = [] := by
  obtain ⟨assigned, appended, rfl, ⟨rfl, hwrites⟩ | ⟨before, hwrites⟩⟩ := h
  · exact List.map_eq_nil_iff.mp hwrites.symm
  · have hne : before ++ .assign (.list assigned) :: appended.map Write.append ≠ [] :=
      List.append_ne_nil_of_right_ne_nil _ (List.cons_ne_nil _ _)
    exact absurd hwrites.symm hne

/-- The write assigns a list or appends an item. -/
inductive Write.OfArray : Write → Prop
  | assign (items : List Value) : OfArray (.assign (.list items))
  | append (v : Value) : OfArray (.append v)

/-- Assignments and appends leave the accumulated list in a slot that was empty before them. -/
theorem slotAfter_accumulates (writes : List Write) (h : ∀ write ∈ writes, write.OfArray) :
    ∃ items, Accumulates writes items ∧
      (writes ≠ [] → slotAfter none writes = some (.list items)) := by
  induction writes using List.reverseRecOn with
  | nil => exact ⟨[], ⟨[], [], rfl, Or.inl ⟨rfl, rfl⟩⟩, fun hne => absurd rfl hne⟩
  | append_singleton writes last ih =>
      obtain ⟨hbefore, hlast⟩ := List.forall_mem_append.mp h
      obtain ⟨items, hitems, hslot⟩ := ih hbefore
      rw [slotAfter_concat]
      cases hlast last List.mem_cons_self with
      | assign assigned =>
          exact ⟨assigned, ⟨assigned, [], (List.append_nil _).symm, Or.inr ⟨writes, rfl⟩⟩,
            fun _ => rfl⟩
      | append v =>
          -- Without any write before, the slot is empty, and so is the list.
          have hlist : listItems ((slotAfter none writes).getD .nil) = items := by
            by_cases hnone : writes = []
            · rw [accumulates_nil items (hnone ▸ hitems), hnone]
              rfl
            · rw [hslot hnone]
              rfl
          refine ⟨items ++ [v], accumulates_append writes items v hitems, fun _ => ?_⟩
          rw [Write.update, hlist]

section

variable (spec : FieldSpec) (singular : String) (item : Option Constraint)
  (schema : Option SubSchema) (itemCallback : ItemCallback)
  (hkind : spec.kind = .array singular item schema itemCallback)

include hkind

/-- What an accessor of an array accepts is to assign a list or to append an item. -/
theorem array_write (op : Operation) (hop : spec.Accessor op) (write : Write)
    (hallowed : op.Allows write) : write.OfArray := by
  cases hop with
  | arrayPlural =>
      cases write with
      | assign v =>
          obtain ⟨hosts, hheld⟩ := hallowed
          -- The check refuses everything but lists.
          cases v with
          | list items => exact .assign items
          | _ => exact nomatch hheld
      | append => exact hallowed.elim
      | enter => exact hallowed.elim
  | arrayItem =>
      cases write with
      | append v => exact .append v
      | assign => exact hallowed.elim
      | enter => exact hallowed.elim
  | scalar constraint hscalar => exact nomatch hscalar.symm.trans hkind
  | hashPlural _ _ _ _ hhash => exact nomatch hhash.symm.trans hkind
  | hashEntry _ _ _ _ hhash => exact nomatch hhash.symm.trans hkind

/-- Under both of its names an array is read, if there is no input. -/
theorem array_reads (s : Scene)
    (hinstalled : ∀ name op, (name, op) ∈ spec.operations → s.host.operation? name = some op)
    (depth : Nat) (name : String) (hname : name = spec.name ∨ name = singular) :
    callWithin (depth + 1) name .none s = .ok (s.host.stored spec.name) s := by
  have hoperations : spec.operations =
      [(spec.name, .arrayPlural spec), (singular, .arrayItem spec)] := by
    simp only [FieldSpec.operations, FieldSpec.wholeOperation, FieldSpec.singleOperation?, hkind,
      Option.toList_some]
  rw [hoperations] at hinstalled
  rcases hname with rfl | rfl
  · rw [callWithin_of_operation depth _ .none s _ (hinstalled _ _ List.mem_cons_self)]
    simp only [Operation.invoke, hkind]
    rfl
  · rw [callWithin_of_operation depth _ .none s _
      (hinstalled _ _ (List.mem_cons_of_mem _ List.mem_cons_self))]
    simp only [Operation.invoke, hkind]
    rfl

end

/-- On a host that has never had another definition, nor a custom operation under one of the names
    of this one, an array is unset as long as nothing was written to it. After that it holds the
    list that was assigned last, or the empty list, with the items that were appended since, in
    order, and it is read under both of its names. The writes were made by its accessors, each of
    the input that it was called with, and the write of a call comes before all that the callback
    does. -/
theorem array_is_its_history (given : Value → Prop) (d : Definition) (changes : List Change)
    (s : Scene) (hlives : Lives given changes s) (hsole : d.Sole changes) (spec : FieldSpec)
    (hspec : spec ∈ d.fields) (singular : String) (item : Option Constraint)
    (schema : Option SubSchema) (itemCallback : ItemCallback)
    (hkind : spec.kind = .array singular item schema itemCallback) :
    (s.host.stored? spec.name = none ↔ writesTo spec.name changes = []) ∧
      (∃ items, Accumulates (writesTo spec.name changes) items ∧
        (writesTo spec.name changes ≠ [] → s.host.stored? spec.name = some (.list items))) ∧
      (∀ depth name, name = spec.name ∨ name = singular →
        callWithin (depth + 1) name .none s = .ok (s.host.stored spec.name) s) ∧
      (∀ other args write, .wrote other args write ∈ changes → other.name = spec.name →
        other = spec ∧ ∃ op around, spec.Accessor op ∧ Change.Accepts op around args write) ∧
      ∀ op, spec.Accessor op → ∀ depth name args t u write, t.host.operation? name = some op →
        op.plan (callWithin depth) args t = .ok (some write) u →
          callChanges (depth + 1) name args t =
            .wrote spec args write ::
              spec.callbackChanges (callWithin depth) (callChanges depth) (spec.handed write)
                ⟨spec.put write u.host, u.world⟩ := by
  have hown := written_by_own d changes s hlives hsole spec hspec
  -- Only the accessors of the field have written to its slot, and these write what an array is made
  -- of.
  have hwrites : ∀ write ∈ writesTo spec.name changes, write.OfArray := by
    intro write hwrite
    obtain ⟨other, args, hwrote, hname⟩ := mem_writesTo spec.name changes write hwrite
    obtain ⟨-, op, around, hop, haccepts⟩ := hown other args write hwrote hname
    exact array_write spec singular item schema itemCallback hkind op hop write haccepts.allowed
  obtain ⟨items, hitems, hslot⟩ := slotAfter_accumulates _ hwrites
  rw [← lives_stored? changes s hlives spec.name] at hslot
  -- What the slot holds is what these writes leave, and there is something in it exactly if there
  -- was one.
  refine ⟨⟨fun hunset => ?_, fun hnone => ?_⟩, ⟨items, hitems, hslot⟩, ?_, hown, ?_⟩
  · by_contra hne
    exact nomatch hunset.symm.trans (hslot hne)
  · rw [lives_stored? changes s hlives, hnone]
    rfl
  · intro depth name hname
    exact array_reads spec singular item schema itemCallback hkind s
      (lives_operation? d changes s hlives hsole spec hspec) depth name hname
  · intro op hop depth name args t u write hname hplan
    exact callChanges_of_write depth name args t u op hname spec (accessor_spec? spec op hop) write
      hplan

/-- Posts whose callback adds an echo of every post, once. -/
def echoingPosts : Script :=
  [.array "posts" none none
      (some (.choose (.call "busy" [] false [] none) (.literal .nil)
        (.sequence [.call "busy" [.literal (.boolean true)] false [] none,
          .call "post" [.literal (.string "echo")] false [] none]))),
    .scalar .boolean "busy" none none]

/-- A post with its echo, a list in place of both, input that is refused, and another post. -/
theorem array_is_its_history_echo :
    let d := (World.defineUpToFault (.ofSuffix "s") {} echoingPosts .empty).1
    let life := lifeOf d false 3 .empty
      [("post", .ofValues [.string "a"]), ("posts", .ofValues [.list [.string "b"]]),
        ("posts", .ofValues [.string "c"]), ("post", .ofValues [.string "d"])]
    Lives (fun _ => True) life.1 life.2 ∧ d.Sole life.1 ∧ (writesTo "posts" life.1).length = 4 ∧
      life.2.host.toText = "#<Host busy=true posts=[\"b\", \"d\"]>" ∧
      ∃ spec ∈ d.fields, spec.name = "posts" ∧ spec.kind = .array "post" none none .wrapped ∧
        (∃ items, Accumulates (writesTo spec.name life.1) items ∧
          (writesTo spec.name life.1 ≠ [] → life.2.host.stored? spec.name = some (.list items))) ∧
        ∀ depth name, name = spec.name ∨ name = "post" →
          callWithin (depth + 1) name .none life.2 =
            .ok (life.2.host.stored spec.name) life.2 := by
  intro d life
  have hlives : Lives (fun _ => True) life.1 life.2 :=
    lifeOf_lives d false 3 .empty (fun _ _ _ => trivial) _ fun _ _ _ _ => trivial
  have hsole : d.Sole life.1 :=
    sole_of_writes d ⟨_, _, _, .empty, rfl⟩ false life.1.tail (by decide +kernel)
  have hmain := array_is_its_history _ d life.1 life.2 hlives hsole _ List.mem_cons_self "post" none
    none .wrapped rfl
  exact ⟨hlives, hsole, by decide +kernel, by decide +kernel, _, List.mem_cons_self, rfl, rfl,
    hmain.2.1, hmain.2.2.1⟩

end FieldSchema
