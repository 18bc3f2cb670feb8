import FieldSchema.Proofs.History.Lifetime
import FieldSchema.Proofs.Value.Insertions

/-!
# A Hash Is Its History

The map in the slot of a hash, told by the entries made in it.

Only one accessor writes to the slot of a hash, and each of its writes is an
insertion into the map that is there, or into an empty one. So the slot holds
the map that comes of all insertions in order, and what such a map holds is
known where equality is an equivalence on the keys. It is not one where keys
contain doubles, so of these nothing is said.

The value of an entry comes from the call that made it. It was given beside
the key, or it is nil because nothing was, or it is the nested host that the
block of the call has made; and callbacks may have changed other entries since.

## Main definitions

* `enteredBy`: The entries that writes make, in order.

## Theorems

* `slotAfter_ofList`: The map in the slot comes of all insertions in order.
* `hash_write`: A write to a hash makes an entry.
* `hash_is_its_history`: The field of a hash holds what its history says.
-/

namespace FieldSchema

/-- The entry that the write makes, if it makes one. -/
def Write.entry? : Write → Option (Value × Value)
  | .assign _ => none
  | .append _ => none
  | .enter key v => some (key, v)

/-- The entries that the writes make, in order. -/
def enteredBy (writes : List Write) : List (Value × Value) :=
  writes.filterMap Write.entry?

/-- The write makes an entry. -/
def Write.OfHash (write : Write) : Prop :=
  write.entry?.isSome = true

/-- Entries make the map of all insertions in a slot that was empty before them. -/
theorem slotAfter_ofList (writes : List Write) (h : ∀ write ∈ writes, write.OfHash)
    (hne : writes ≠ []) : slotAfter none writes = some (.map (.ofList (enteredBy writes))) := by
  have hmap : mapEntries ((slotAfter none writes).getD .nil) = .ofList (enteredBy writes) ∧
      (writes ≠ [] → slotAfter none writes = some (.map (.ofList (enteredBy writes)))) := by
    clear hne
    -- Before the first entry the slot is empty but counts as a map, so both facts go along.
    induction writes using List.reverseRecOn with
    | nil => exact ⟨rfl, fun hne => absurd rfl hne⟩
    | append_singleton writes last ih =>
        obtain ⟨hbefore, hlast⟩ := List.forall_mem_append.mp h
        obtain ⟨hentries, -⟩ := ih hbefore
        have hown := hlast last List.mem_cons_self
        cases last with
        | assign v => exact nomatch hown
        | append v => exact nomatch hown
        | enter key v =>
            have hentered : enteredBy (writes ++ [.enter key v]) =
                enteredBy writes ++ [(key, v)] := List.filterMap_append
            rw [slotAfter_concat, Write.update, hentries, Mapping.insert_ofList, hentered]
            exact ⟨rfl, fun _ => rfl⟩
  exact hmap.2 hne

/-- What an accessor of a hash accepts is to make an entry. -/
theorem hash_write (spec : FieldSpec) (singular : String) (key value : Option Constraint)
    (schema : Option SubSchema) (hkind : spec.kind = .hash singular key value schema)
    (op : Operation) (hop : spec.Accessor op) (write : Write) (hallowed : op.Allows write) :
    op = .hashEntry spec ∧ write.OfHash := by
  cases hop with
  | hashEntry =>
      cases write with
      | enter k v => exact ⟨rfl, rfl⟩
      | assign => exact hallowed.elim
      | append => exact hallowed.elim
  | hashPlural => exact hallowed.elim
  | scalar constraint hscalar => exact nomatch hscalar.symm.trans hkind
  | arrayPlural _ _ _ _ harray => exact nomatch harray.symm.trans hkind
  | arrayItem _ _ _ _ harray => exact nomatch harray.symm.trans hkind

/-- On a host that has never had another definition, nor a custom operation under one of the names
    of this one, a hash is unset as long as no entry was made in it. After that, if no key contains
    a double, its keys are the keys entered that equal none before them, in the order in which they
    were entered, and each has the value that was entered last under a key equal to it; so for each
    key entered there is exactly one entry. The entries were made by the accessor for one entry:
    of a key and a value, of a key alone, which gets nil, or of a key and a block, which gets the
    host that the block makes. -/
theorem hash_is_its_history (given : Value → Prop) (d : Definition) (changes : List Change)
    (s : Scene) (hlives : Lives given changes s) (hsole : d.Sole changes) (spec : FieldSpec)
    (hspec : spec ∈ d.fields) (singular : String) (key value : Option Constraint)
    (schema : Option SubSchema) (hkind : spec.kind = .hash singular key value schema)
    (hkeys : ∀ entry ∈ enteredBy (writesTo spec.name changes), entry.1.Built) :
    (s.host.stored? spec.name = none ↔ writesTo spec.name changes = []) ∧
      (writesTo spec.name changes ≠ [] → ∃ m, s.host.stored? spec.name = some (.map m) ∧
        m.entries = ((enteredBy (writesTo spec.name changes)).map (·.1)).eraseDups.map
          (fun key => (key, lastUnder key (enteredBy (writesTo spec.name changes)))) ∧
        ∀ entry ∈ enteredBy (writesTo spec.name changes),
          ∃! found, found ∈ m.entries ∧ SameValue found.1 entry.1) ∧
      ∀ other args write, .wrote other args write ∈ changes → other.name = spec.name →
        other = spec ∧ ∃ key v, write = .enter key v ∧ ∃ depth around,
          args = .ofValues [key, v] ∨ (args = .ofValues [key] ∧ v = .nil) ∨
            ∃ block, args.block = some block ∧
              (args.values = [key] ∨ ∃ w, args.values = [key, w] ∧ w.isTruthy = false) ∧
              BuiltBy schema (callWithin depth) around block v := by
  have hown : ∀ other args write, .wrote other args write ∈ changes → other.name = spec.name →
      other = spec ∧ ∃ around, Change.Accepts (.hashEntry spec) around args write ∧
        write.OfHash := by
    intro other args write hwrote hname
    obtain ⟨heq, op, around, hop, haccepts⟩ :=
      written_by_own d changes s hlives hsole spec hspec other args write hwrote hname
    obtain ⟨rfl, hentry⟩ :=
      hash_write spec singular key value schema hkind op hop write haccepts.allowed
    exact ⟨heq, around, haccepts, hentry⟩
  -- Only the accessor for one entry writes to the slot, and it enters.
  have hwrites : ∀ write ∈ writesTo spec.name changes, write.OfHash := by
    intro write hwrite
    obtain ⟨other, args, hwrote, hname⟩ := mem_writesTo spec.name changes write hwrite
    obtain ⟨-, -, -, hentry⟩ := hown other args write hwrote hname
    exact hentry
  have hslot := slotAfter_ofList _ hwrites
  rw [← lives_stored? changes s hlives spec.name] at hslot
  refine ⟨⟨fun hunset => ?_, fun hnone => ?_⟩, fun hne => ?_, ?_⟩
  · by_contra hne
    exact nomatch hunset.symm.trans (hslot hne)
  · rw [lives_stored? changes s hlives, hnone]
    rfl
  · exact ⟨_, hslot hne, ofList_entries Value.built_equivalenceOn _ hkeys,
      ofList_unique Value.built_equivalenceOn _ hkeys⟩
  · intro other args write hwrote hname
    obtain ⟨heq, around, ⟨⟨depth, w, hasked⟩, -⟩, hentry⟩ := hown other args write hwrote hname
    cases write with
    | assign v => exact nomatch hentry
    | append v => exact nomatch hentry
    | enter k v =>
        have hschema : spec.kind.schema? = schema := by rw [hkind, FieldKind.schema?]
        rw [Operation.Asks, hschema] at hasked
        exact ⟨heq, k, v, rfl, depth, ⟨around, w⟩, hasked⟩

/-- Tags with a nested schema, whose callback enters the key again with nil, once. -/
def echoingTags : Script :=
  [.hash "tags" none none (some [.scalar .string "label" none none])
      (some (.choose (.call "busy" [] false [] none) (.literal .nil)
        (.sequence [.call "busy" [.literal (.boolean true)] false [] none,
          .call "tag" [.argument 0] false [] none]))),
    .scalar .boolean "busy" none none]

/-- A tag that the callback enters again, an entry by a block that has captured the label, input that
    is refused, and the first tag once more. -/
theorem hash_is_its_history_echo :
    let d := (World.defineUpToFault (.ofSuffix "s") {} echoingTags .empty).1
    let life := lifeOf d false 3 .empty
      [("tag", .ofValues [.string "a", .boolean true]),
        ("tag", ⟨[.atom "b"], some ⟨[.call "label" [.argument 0] false [] none], [.string "x"]⟩⟩),
        ("tag", .none), ("tag", .ofValues [.string "a", .boolean false])]
    Lives (fun _ => True) life.1 life.2 ∧ d.Sole life.1 ∧
      life.2.host.toText =
        "#<Host busy=true tags=\x7b\"a\" => false, :b => #<Host label=\"x\">\x7d>" ∧
      ∃ spec ∈ d.fields, spec.name = "tags" ∧
        (∀ entry ∈ enteredBy (writesTo spec.name life.1), entry.1.Built) ∧
        (writesTo spec.name life.1).length = 4 ∧
        (writesTo spec.name life.1 ≠ [] → ∃ m, life.2.host.stored? spec.name = some (.map m) ∧
          m.entries = ((enteredBy (writesTo spec.name life.1)).map (·.1)).eraseDups.map
            (fun key => (key, lastUnder key (enteredBy (writesTo spec.name life.1)))) ∧
          ∀ entry ∈ enteredBy (writesTo spec.name life.1),
            ∃! found, found ∈ m.entries ∧ SameValue found.1 entry.1) := by
  intro d life
  have hlives : Lives (fun _ => True) life.1 life.2 :=
    lifeOf_lives d false 3 .empty (fun _ _ _ => trivial) _ fun _ _ _ _ => trivial
  have hsole : d.Sole life.1 :=
    sole_of_writes d ⟨_, _, _, .empty, rfl⟩ false life.1.tail (by decide +kernel)
  have hkeys : ∀ entry ∈ enteredBy (writesTo "tags" life.1), entry.1.Built := by
    -- All keys that were entered are strings or atoms.
    have hplain : ∀ entry ∈ enteredBy (writesTo "tags" life.1),
        (entry.1.isString || entry.1.isAtom) = true := by decide +kernel
    intro entry hentry
    have hkey := hplain entry hentry
    cases hown : entry.1 with
    | string text => exact .string text
    | atom name => exact .atom name
    | _ =>
        rw [hown] at hkey
        exact nomatch hkey
  have hmain := hash_is_its_history _ d life.1 life.2 hlives hsole _ List.mem_cons_self "tag" none
    none _ rfl hkeys
  exact ⟨hlives, hsole, by decide +kernel, _, List.mem_cons_self, rfl, hkeys, by decide +kernel,
    hmain.2.1⟩

end FieldSchema
