import FieldSchema.Proofs.Nesting.Asking
import FieldSchema.Proofs.Schema.Content
import FieldSchema.Proofs.Sharing.Confined

/-!
# Who Owns Which Cell

That a cell never holds what belongs to another nested schema.

A nested schema finds its definition by the number of a cell, and numbers can
be mixed up. They are not, because each is given out once: a script takes the
next one for every nested schema that it declares. A ledger is the list of the
nested schemas for which numbers have been given out, in that order. What a
cell holds is then known. It is something that the script of the nested schema
with that number has made at some time.

A world does not keep a ledger. It can be read off no part of it, since cells
may be empty and nested schemas may be held by values of which the world knows
nothing. So a ledger goes beside the world, and everything in play is confined
to it. As scripts run the ledger grows at its end, and what was confined to it
stays so. All that is needed of the world at the end of a step is that there
is such a longer ledger, and of the nested schemas in it that their scripts are
not just any: a script that runs gives numbers to nested schemas of its own,
and what they ask their generators is what it asks itself.

## Main definitions

* `Ledger`: The nested schemas in the order of their cells.
* `Ledger.Extended`: The nested schemas that are new to a ledger ask nothing that a script does not.
* `SubSchema.Makes`, `SubSchema.Fails`: What the script can come to, in some world.
* `World.Coherent`: Every cell belongs to the nested schema that the ledger has for it.
* `World.Grown`: A later world, coherent with a longer ledger.

## Theorems

* `declaration_allotted`: A declaration takes cells in order.
* `runScript_grown`: A script leads to a coherent world.
* `define_grown`, `defineUpToFault_grown`: So does making a definition.
* `SubSchema.definition_grown`: So does asking a nested schema for its definition, which is one that its
  script makes.
-/

namespace FieldSchema

/-- The nested schemas for which cells were given out, in the order of the cells. -/
abbrev Ledger := List SubSchema

namespace Ledger

/-- The nested schema is the one to which its cell was given. -/
def Records (l : Ledger) (sub : SubSchema) : Prop :=
  l[sub.cell]? = some sub

theorem Records.mono (l m : Ledger) (h : l <+: m) (sub : SubSchema) (hsub : l.Records sub) :
    m.Records sub := by
  obtain ⟨rest, rfl⟩ := h
  have hlt : sub.cell < List.length l := by
    by_contra hge
    rw [Records, List.getElem?_eq_none (Nat.le_of_not_lt hge)] at hsub
    exact nomatch hsub
  rw [Records, List.getElem?_append_left hlt]
  exact hsub

/-- The later ledger is longer by nested schemas of the script, which ask nothing that the script
    does not ask. -/
structure Extended (l : Ledger) (script : Script) (m : Ledger) : Prop where
  ledger : l <+: m
  questions : ∀ sub ∈ m, sub ∈ l ∨ questionsOfScript sub.script ⊆ questionsOfScript script

theorem extended_refl (l : Ledger) (script : Script) : l.Extended script l :=
  ⟨List.prefix_refl l, fun _ hsub => Or.inl hsub⟩

/-- The nested schemas to which cells were given out are those of the ledger. -/
theorem Records.mem (l : Ledger) (sub : SubSchema) (h : l.Records sub) : sub ∈ l :=
  List.mem_of_getElem? h

end Ledger

namespace SubSchema

/-- The script makes the definition in some world. -/
def Makes (sub : SubSchema) (d : Definition) : Prop :=
  ∃ v w, World.define sub.inflector sub.options sub.script v = .ok d w

/-- The script ends in the fault in some world. -/
def Fails (sub : SubSchema) (fault : Fault) : Prop :=
  ∃ v w, World.define sub.inflector sub.options sub.script v = .error fault w

end SubSchema

namespace World

/-- The world uses its cells as the ledger has it: whatever is in one was made by the script of
    the nested schema that owns it, and nothing in the world leads to a cell of which the ledger
    knows another owner. -/
structure Coherent (l : Ledger) (w : World) : Prop where
  cells : w.nextCell = l.length
  hosts : HostsConfined l.Records w.hosts
  definitions : ∀ name d, NameMap.get? w.definitions name = some d → d.Confined l.Records
  cached : ∀ cell d, w.cached? cell = some d →
    d.Confined l.Records ∧ ∃ sub, l[cell]? = some sub ∧ sub.Makes d

/-- A world without anything in it goes with an empty ledger. -/
theorem coherent_empty : empty.Coherent [] where
  cells := rfl
  hosts _ _ h := nomatch h
  definitions _ _ h := nomatch h
  cached _ _ h := nomatch h

theorem Coherent.note (l : Ledger) (w : World) (event : Event) (h : w.Coherent l) :
    (w.note event).Coherent l :=
  ⟨h.cells, h.hosts, h.definitions, h.cached⟩

/-- The later world is coherent with a longer ledger, and has the same hosts and definitions under
    names. -/
structure Grown (l : Ledger) (w : World) (m : Ledger) (v : World) : Prop where
  ledger : l <+: m
  coherent : v.Coherent m
  hosts : v.hosts = w.hosts
  definitions : v.definitions = w.definitions

end World

namespace Generator

/-- The generator on which the script runs has taken cells in order, after those of a given ledger,
    and its operations belong to nested schemas with those cells. -/
def Allotted (l : Ledger) (script : Script) (g : Generator) : Prop :=
  ∃ m : Ledger, l.Extended script m ∧ g.nextCell = m.length ∧
    ∀ op ∈ g.operations, op.2.Confined m.Records

theorem mem_insertAll {α : Type} (entries : List (String × α)) (map : NameMap α)
    (slot : String × α) (h : slot ∈ NameMap.insertAll entries map) :
    (∃ entry ∈ entries, slot.2 = entry.2) ∨ slot ∈ map := by
  induction entries generalizing map with
  | nil => exact Or.inr h
  | cons head rest ih =>
      rcases ih _ h with ⟨entry, hentry, heq⟩ | hmem
      · exact Or.inl ⟨entry, List.mem_cons_of_mem _ hentry, heq⟩
      · rcases NameMap.mem_insert map head.1 head.2 slot hmem with heq | hold
        · exact Or.inl ⟨head, List.mem_cons_self, heq⟩
        · exact Or.inr hold

/-- The operations of a field belong to its nested schema. -/
theorem schema?_of_mem (spec : FieldSpec) (op : String × Operation) (h : op ∈ spec.operations) :
    op.2.schema? = spec.kind.schema? := by
  unfold Operation.schema?
  rw [accessor_spec? spec op.2 (FieldSpec.accessor_of_mem spec op.1 op.2 h)]
  rfl

variable (l : Ledger) (script : Script)

/-- A field without a nested schema takes no cell. -/
theorem allotted_extend (g : Generator) (spec : FieldSpec)
    (hspec : spec.kind.schema? = none) (h : g.Allotted l script) :
    (g.extend spec g.nextCell).Allotted l script := by
  obtain ⟨m, hlm, hcells, hoperations⟩ := h
  refine ⟨m, hlm, hcells, fun slot hslot => ?_⟩
  rcases mem_insertAll spec.operations g.operations slot hslot with ⟨op, hop, heq⟩ | hold
  · intro sub hsub
    rw [heq, schema?_of_mem spec op hop, hspec] at hsub
    exact nomatch hsub
  · exact hoperations slot hold

/-- A field with a nested schema takes the next cell for it. -/
theorem allotted_nest (g : Generator) (spec : FieldSpec) (sub : SubSchema)
    (hcell : sub.cell = g.nextCell) (hspec : spec.kind.schema? = some sub)
    (hquestions : questionsOfScript sub.script ⊆ questionsOfScript script)
    (h : g.Allotted l script) : (g.extend spec (g.nextCell + 1)).Allotted l script := by
  obtain ⟨m, hlm, hcells, hoperations⟩ := h
  have hm : m <+: m ++ [sub] := List.prefix_append m [sub]
  refine ⟨m ++ [sub], ⟨hlm.ledger.trans hm, ?_⟩, ?_, fun slot hslot => ?_⟩
  · exact List.forall_mem_append.mpr
      ⟨hlm.questions, List.forall_mem_singleton.mpr (Or.inr hquestions)⟩
  -- One cell was given out, and one entry was added.
  · change g.nextCell + 1 = (m ++ [sub]).length
    rw [hcells, List.length_append, List.length_singleton]
  -- The operations of the new field name the new cell, the others are in the ledger already.
  · rcases mem_insertAll spec.operations g.operations slot hslot with ⟨op, hop, heq⟩ | hold
    · intro other hother
      rw [heq, schema?_of_mem spec op hop, hspec] at hother
      obtain rfl : sub = other := Option.some.inj hother
      rw [Ledger.Records, hcell, hcells]
      exact List.getElem?_concat_length
    · exact fun other hother =>
        Ledger.Records.mono m (m ++ [sub]) hm other (hoperations slot hold other hother)

/-- A field with a plural name takes a cell if it has a script for a nested schema. -/
theorem allotted_plural (g : Generator) (singular : String) (schema : Option Script)
    (spec : FieldSpec) (hspec : spec.kind.schema? = g.nested singular schema)
    (hquestions : questionsOfSchema schema ⊆ questionsOfScript script)
    (h : g.Allotted l script) : (g.extend spec (g.cellAfter schema)).Allotted l script := by
  cases schema with
  | none => exact allotted_extend l script g spec hspec h
  | some inner => exact allotted_nest l script g spec _ rfl hspec hquestions h

/-- A declaration takes cells in order, whether it is accepted or refused. -/
theorem declaration_allotted (line : Declaration)
    (hquestions : line.questions ⊆ questionsOfScript script) (act : Declaring Unit)
    (g : Generator) (hact : line.act? = some act) (h : g.Allotted l script) :
    (finalState (act g)).Allotted l script := by
  rcases declaration_cases line act g hact with hsame | ⟨spec, nextCell, hspec, hmore⟩
  · rw [hsame]
    exact h
  · rw [hmore]
    cases hspec with
    | scalar => exact allotted_extend l script g _ rfl h
    | array name plural singular item schema =>
        exact allotted_plural l script g singular schema _ rfl hquestions h
    | hash name plural singular key value schema =>
        exact allotted_plural l script g singular schema _ rfl hquestions h

end Generator

namespace World

/-- A script takes cells in order, after as many as the world has given out. -/
theorem runScript_allotted (l : Ledger) (w : World) (hl : w.nextCell = l.length)
    (inflector : Inflector) (options : Options) (script : Script) :
    (finalState (Draft.runScript script (w.draft inflector options))).generator.Allotted l
      script := by
  refine Draft.runScript_keeps (Generator.Allotted l script) script _ ?_
    ⟨l, l.extended_refl script, hl, fun _ h => absurd h List.not_mem_nil⟩
  intro line hline act hact g hg
  refine Generator.declaration_allotted l script line (fun question hquestion => ?_) act g hact hg
  exact mem_of_plainLinesOf Declaration.questions questionsOfScript (fun _ _ => rfl) (fun _ => rfl)
    (fun _ _ _ => List.subset_cons_self _ _) script line hline question hquestion

/-- A script leads to a coherent world, whether it ends in a fault or not, and what it declared is
    confined to that. -/
theorem runScript_grown (l : Ledger) (w : World) (hw : w.Coherent l) (inflector : Inflector)
    (options : Options) (script : Script) :
    ∃ m, w.Grown l m
        (w.afterDraft (finalState (Draft.runScript script (w.draft inflector options)))) ∧
      (finalState (Draft.runScript script (w.draft inflector options))).generator.finish.Confined
        m.Records ∧ l.Extended script m := by
  obtain ⟨m, hlm, hcells, hoperations⟩ :=
    runScript_allotted l w hw.cells inflector options script
  -- What the script leaves alone was coherent with the ledger before and is so with a longer one.
  have hmono := Ledger.Records.mono l m hlm.ledger
  refine ⟨m, ⟨hlm.ledger, ⟨hcells, ?_, ?_, ?_⟩, rfl, rfl⟩, hoperations, hlm⟩
  · exact fun name h hfound => Value.Confined.mono _ _ _ (hw.hosts name h hfound) hmono
  · exact fun name d hfound op hop sub hsub =>
      hmono sub (hw.definitions name d hfound op hop sub hsub)
  · intro cell d hfound
    obtain ⟨hconfined, sub, hsub, hmakes⟩ := hw.cached cell d hfound
    refine ⟨fun op hop sub hsub => hmono sub (hconfined op hop sub hsub), sub, ?_, hmakes⟩
    obtain ⟨rest, rfl⟩ := hlm.ledger
    rw [List.getElem?_append_left (List.getElem?_eq_some_iff.mp hsub).1]
    exact hsub

/-- Making a definition leads to a coherent world, also if the script ends in a fault. -/
theorem define_grown (l : Ledger) (w : World) (hw : w.Coherent l) (inflector : Inflector)
    (options : Options) (script : Script) :
    Ends (fun d v => ∃ m, w.Grown l m v ∧ d.Confined m.Records ∧ l.Extended script m)
      (fun _ v => ∃ m, w.Grown l m v ∧ l.Extended script m)
      (define inflector options script w) := by
  obtain ⟨m, hgrown, hconfined, hm⟩ := runScript_grown l w hw inflector options script
  unfold define
  cases hrun : Draft.runScript script (w.draft inflector options) with
  | ok u draft =>
      rw [hrun] at hgrown hconfined
      exact ⟨m, hgrown, hconfined, hm⟩
  | error fault draft =>
      rw [hrun] at hgrown
      exact ⟨m, hgrown, hm⟩

/-- So does making a definition of what a script declares before its first fault. -/
theorem defineUpToFault_grown (l : Ledger) (w : World) (hw : w.Coherent l) (inflector : Inflector)
    (options : Options) (script : Script) :
    ∃ m, w.Grown l m (defineUpToFault inflector options script w).2 ∧
      (defineUpToFault inflector options script w).1.Confined m.Records := by
  obtain ⟨m, hgrown, hconfined, -⟩ := runScript_grown l w hw inflector options script
  refine ⟨m, ?_⟩
  unfold defineUpToFault
  cases hrun : Draft.runScript script (w.draft inflector options) <;>
    (rw [hrun] at hgrown hconfined; exact ⟨hgrown, hconfined⟩)

theorem Coherent.fill (m : Ledger) (w : World) (hw : w.Coherent m) (sub : SubSchema)
    (hsub : m.Records sub) (d : Definition) (hd : d.Confined m.Records) (hmakes : sub.Makes d) :
    (w.fill sub.cell d).Coherent m := by
  refine ⟨hw.cells, hw.hosts, hw.definitions, fun cell e he => ?_⟩
  unfold cached? World.fill at he
  rw [List.lookup_cons] at he
  cases hcell : cell == sub.cell with
  | true =>
      rw [hcell] at he
      obtain rfl : d = e := Option.some.inj he
      rw [beq_iff_eq.mp hcell]
      exact ⟨hd, sub, hsub, hmakes⟩
  | false =>
      rw [hcell] at he
      exact hw.cached cell e he

end World

/-- Asked for its definition, a nested schema gives one that its script makes, or a fault in which
    its script ends; and the world stays coherent. -/
theorem SubSchema.definition_grown (l : Ledger) (w : World) (hw : w.Coherent l) (sub : SubSchema)
    (hsub : l.Records sub) :
    Ends
      (fun d v => ∃ m, w.Grown l m v ∧ d.Confined m.Records ∧ sub.Makes d ∧
        l.Extended sub.script m)
      (fun fault v => ∃ m, w.Grown l m v ∧ sub.Fails fault ∧ l.Extended sub.script m)
      (sub.definition w) := by
  have hdefine := World.define_grown l w hw sub.inflector sub.options sub.script
  refine sub.definition_cases w ?_ ?_ ?_
  · intro d _ hkept
    obtain ⟨hd, owner, howner, hmakes⟩ := hw.cached sub.cell d hkept
    -- The owner of the cell is the nested schema that asks.
    obtain rfl : sub = owner := Option.some.inj (hsub.symm.trans howner)
    exact ⟨l, ⟨List.prefix_refl l, hw, rfl, rfl⟩, hd, hmakes, l.extended_refl sub.script⟩
  · intro d v _ hresult
    rw [hresult] at hdefine
    obtain ⟨m, hgrown, hd, hm⟩ := hdefine
    have hmakes : sub.Makes d := ⟨w, v, hresult⟩
    refine ⟨m, ?_, hd, hmakes, hm⟩
    unfold keep
    split
    · have hrecords := Ledger.Records.mono l m hgrown.ledger sub hsub
      exact ⟨hgrown.ledger, hgrown.coherent.fill m v sub hrecords d hd hmakes,
        hgrown.hosts, hgrown.definitions⟩
    · exact hgrown
  · intro fault v _ hresult
    rw [hresult] at hdefine
    obtain ⟨m, hgrown, hm⟩ := hdefine
    exact ⟨m, hgrown, ⟨w, v, hresult⟩, hm⟩

end FieldSchema
