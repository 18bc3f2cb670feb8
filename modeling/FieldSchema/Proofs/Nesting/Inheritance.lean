import FieldSchema.Proofs.History.Inspecting
import FieldSchema.Proofs.Nesting.Rooted
import FieldSchema.Proofs.Schema.Naming

/-!
# What Nested Hosts Inherit

That the inflector and the options of a generator reach every level below it.

A nested host is as its definition has made it, and the definition is as the
script of the nested schema and a generator have made it. If this generator is
set up like the one at the root, then the host is what it would be if its
schema were no nested one, but declared by itself with the inflector and the
options of the root. All that is told of nested hosts here is a case of this:
which plural names their fields can have, whether they render themselves, and
in which form the callbacks of their arrays are given an item.

It matters for which hosts this is known. A host that is stored at the end of a
run has been through a block and perhaps through callbacks, and may have lost
or gained operations. So the host is taken as its block is given it, and every
such host counts, also one that is never stored because its block fails, and
also one that is made by code within the block of another.

## Main definitions

* `Birth.Inherits`: What a nested host has from a root.

## Theorems

* `respondsTo_instantiate_iff`: What a new host responds to.
* `item_runs_callback`: What the callback of an array is given.
* `inherits_of_attested`: A host whose schema descends from a root inherits from it.
* `options_reach_every_level`: So does every nested host that any step of a session makes.
-/

namespace FieldSchema

/-- A new host responds to the names of its definition's operations, and to the name of the one that
    renders it if the definition is inspectable. -/
theorem respondsTo_instantiate_iff (d : Definition) (hnodup : d.operationNames.Nodup)
    (name : String) :
    d.instantiate.respondsTo name = true ↔
      (d.inspectable = true ∧ name = Definition.inspectName) ∨ name ∈ d.operationNames := by
  change (d.instantiate.operation? name).isSome = true ↔ _
  by_cases hown : name ∈ d.operationNames
  · obtain ⟨op, hop, rfl⟩ := List.mem_map.mp hown
    -- A name of the definition has its operation.
    have hfound := attachWith_own d d.inspectable .empty hnodup op.1 op.2 hop
    refine ⟨fun _ => Or.inr hown, fun _ => ?_⟩
    rw [Definition.instantiate, Definition.attachTo, hfound]
    rfl
  -- Under any other name there can be only the operation that renders.
  · have hfound := attachWith_other d d.inspectable .empty name hown
    rw [Definition.instantiate, Definition.attachTo, hfound]
    split
    · rename_i hinspect
      exact ⟨fun _ => Or.inl hinspect, fun _ => rfl⟩
    · rename_i hother
      refine ⟨fun h => (nomatch h), fun h => ?_⟩
      rcases h with h | h
      · exact absurd h hother
      · exact absurd h hown

/-- A call that adds an item appends it and then runs the callback, which is given the item in the
    form that the field has for it. -/
theorem item_runs_callback (spec : FieldSpec) (singular : String) (item : Option Constraint)
    (schema : Option SubSchema) (itemCallback : ItemCallback)
    (hkind : spec.kind = .array singular item schema itemCallback) (depth : Nat) (name : String)
    (args : Args) (s t : Scene) (v : Value)
    (hname : s.host.operation? name = some (.arrayItem spec))
    (hplan : (Operation.arrayItem spec).plan (callWithin depth) args s = .ok (some (.append v)) t) :
    callWithin (depth + 1) name args s =
      spec.runCallback (callWithin depth) [itemCallback.wrap v]
        ⟨spec.appendItem v t.host, t.world⟩ := by
  rw [callWithin_of_operation depth name args s _ hname, invoke_eq _ spec rfl,
    bind_of_ok _ _ s t _ hplan]
  have hhanded : spec.handed (.append v) = [itemCallback.wrap v] := by
    rw [spec.handed_append, hkind, FieldKind.itemCallback]
  rw [← hhanded]
  rfl

/-- What a nested host, as its block is given it, has from a generator at the root. -/
structure Birth.Inherits (root : Root) (b : Birth) : Prop where
  /-- The nested schema has the inflector and the options of the root, and one of the scripts that
      are nested in the script of the root. -/
  inflector : b.schema.inflector = root.inflector
  options : b.schema.options = root.options
  script : b.schema.script ∈ scriptsIn root.script
  /-- On a new generator with the inflector and the options of the root this script makes the
      definition of the host, in any world, but for the numbers of the cells of nested schemas. -/
  made : ∀ w, ∃ d v, World.define root.inflector root.options b.schema.script w = .ok d v ∧
    d.recast id = b.definition.recast id
  /-- A plural name by itself is accepted or refused as it is by the root, with the same form. -/
  accepts : ∀ name, Report.ofName b.schema.inflector b.schema.options name =
    Report.ofName root.inflector root.options name
  /-- If a field has a singular form, then the root accepts the plural name, with that form. -/
  plurals : ∀ spec ∈ b.definition.fields, ∀ singular, spec.singular? = some singular →
    Report.ofName root.inflector root.options spec.name = ⟨spec.name, some singular, none⟩
  /-- The host can be asked to render itself if the root says so, or by a field of that name. -/
  inspects : b.host.respondsTo Definition.inspectName = true ↔
    root.options.inspectable = true ∨ ∃ spec ∈ b.definition.fields,
      spec.name = Definition.inspectName ∨ spec.singular? = some Definition.inspectName
  /-- An array has its accessor for items on the host, and whatever host this is called on, an item
      that it adds is handed to the callback as the options of the root have it. -/
  items : ∀ spec ∈ b.definition.fields, ∀ singular item schema itemCallback,
    spec.kind = .array singular item schema itemCallback →
      b.host.operation? singular = some (.arrayItem spec) ∧
        ∀ depth name args s t v, s.host.operation? name = some (.arrayItem spec) →
          (Operation.arrayItem spec).plan (callWithin depth) args s = .ok (some (.append v)) t →
            callWithin (depth + 1) name args s =
              spec.runCallback (callWithin depth) [root.options.itemCallback.wrap v]
                ⟨spec.appendItem v t.host, t.world⟩

section

variable (inflector : Inflector) (options : Options) (script : Script) (w : World)

/-- A field with a singular form has a name that is accepted on a new generator as well, with the
    same form. -/
theorem ofName_of_field (spec : FieldSpec)
    (hspec : spec ∈ (World.defineUpToFault inflector options script w).1.fields)
    (singular : String) (hsingular : spec.singular? = some singular) :
    Report.ofName inflector options spec.name = ⟨spec.name, some singular, none⟩ := by
  have hwell := World.defineUpToFault_wellNamed inflector options script w spec hspec
  obtain ⟨hmade, hne⟩ := hwell.singular singular hsingular
  -- The name was trimmed when it was declared, so nothing is left to trim.
  have hname : (Generator.new inflector options 0).checkName spec.name = .ok spec.name := by
    refine (Generator.checkName_eq_ok_iff _ _ _).mpr ⟨?_, ?_, rfl⟩
    · rw [hwell.neat.2, String.ofList_toList]
    · rw [← Bool.not_eq_true, String.isEmpty_iff]
      intro hempty
      exact hwell.neat.1 (by rw [hempty]; rfl)
  exact Report.ofName_of_ok inflector options spec.name spec.name singular hname
    ((Generator.singularName_eq_ok_iff _ _ _).mpr ⟨hmade, hne, rfl⟩)

end

/-- A host whose schema descends from a root inherits from it, if its definition is one that the
    script of the schema makes. -/
theorem inherits_of_attested (root : Root) (b : Birth) (hdescends : root.Descendant b.schema)
    (hmakes : b.schema.Makes b.definition) : b.Inherits root := by
  obtain ⟨hinflector, hoptions, hscripts⟩ := descendant_follows root b.schema hdescends
  obtain ⟨v, w, hmade⟩ := hmakes
  rw [hinflector, hoptions] at hmade
  have hd := World.define_eq_ok _ _ _ v w b.definition hmade
  have htable := World.defineUpToFault_tabulates root.inflector root.options b.schema.script v
  have hmem := World.mem_operationNames_iff root.inflector root.options b.schema.script v
  have hinspectable := World.defineUpToFault_inspectable root.inflector root.options
    b.schema.script v
  have hfollows := fields_follow root.inflector root.options b.schema.script v
  have hplurals := ofName_of_field root.inflector root.options b.schema.script v
  rw [← hd] at htable hmem hinspectable hfollows hplurals
  refine ⟨hinflector, hoptions, hscripts _ List.mem_cons_self, ?_, ?_, hplurals, ?_, ?_⟩
  · -- The script takes the same course in any other world.
    intro other
    have hboth := define_alike id root.inflector root.options root.options rfl b.schema.script
      (Script.blind_id b.schema.script) other v
    rcases endTogether_cases _ _ hboth with ⟨d, u, d', u', h, h', hsame⟩ | ⟨_, _, _, _, h', -⟩
    · obtain ⟨rfl, -⟩ := EStateM.Result.ok.inj (hmade.symm.trans h')
      exact ⟨d, u, h, hsame⟩
    · exact nomatch hmade.symm.trans h'
  · intro name
    rw [hinflector, hoptions]
  · rw [Birth.host, respondsTo_instantiate_iff _ htable.nodup, hmem, hinspectable, and_iff_left rfl]
  · intro spec hspec singular item schema itemCallback hkind
    obtain rfl := (hfollows spec hspec).items singular item schema itemCallback hkind
    have hop : (singular, Operation.arrayItem spec) ∈ b.definition.operations := by
      refine htable.perm.mem_iff.mpr (List.mem_flatMap.mpr ⟨spec, hspec, ?_⟩)
      simp only [FieldSpec.operations, FieldSpec.singleOperation?, hkind, Option.toList_some,
        List.mem_cons, List.not_mem_nil, or_false, or_true]
    exact ⟨attachWith_own _ _ .empty htable.nodup singular _ hop,
      fun depth name args s t v => item_runs_callback spec singular item schema _ hkind depth name
        args s t v⟩

/-- Options and inflector reach every level. In a session that has come about by any steps, any
    further step is taken, which may define something, evaluate a block for a nested schema, or
    call an operation or run code on a host. Then every nested host that is made while it runs, at
    any depth, within blocks, callbacks and custom operations, belongs to a nested schema that
    descends from a generator which was set up for a definition of the session, and it inherits
    from this root: as its block is given it, it is what the script of the nested schema makes on a
    new generator with the inflector and the options of the root. -/
theorem options_reach_every_level (roots : List Root) (s : Session) (hs : s.Rooted roots)
    (step : Step)
    (hhanded : ∀ v ∈ step.handed, ∃ literal : Literal, v = literal.value s.hosts) (depth : Nat) :
    ∀ b ∈ s.births depth step, ∃ root ∈ roots, root.Descendant b.schema ∧ b.Inherits root := by
  intro b hb
  obtain ⟨⟨root, hroot, hdescends⟩, hmakes⟩ :=
    Session.births_attested roots s hs step hhanded depth b hb
  exact ⟨root, hroot, hdescends, inherits_of_attested root b hdescends hmakes⟩

/-- Posts with notes, and notes with tags. -/
def postsWithNotes : Script :=
  [.array "posts" none
    (some [.array "notes" none (some [.array "tags" none none (some .arguments)]) none]) none]

/-- A block for a post, in which there is a block for a note. -/
theorem options_reach_every_level_postsWithNotes :
    let options : Options := { inspectable := true, itemCallback := .bare, subSchemas := .rebuild }
    let root : Root := ⟨.ofSuffix "s", options, postsWithNotes⟩
    let define : Step := .define "feed" postsWithNotes (.chosen (.suffix "s") options false)
    let instantiate : Step := .definition "feed" (.instantiate "mine")
    let s := ((Session.empty.perform define).1.perform instantiate).1
    let step : Step := .host "mine" (.call "post" (.itemWith
      ⟨[.call "note" [] false [] (some [.call "tag" [.literal (.string "new")] false [] none])], []⟩))
    s.Rooted [root] ∧ step.handed = [] ∧
      (s.births 4 step).map (fun b => b.schema.field) = ["post", "note"] ∧
      ∀ b ∈ s.births 4 step, ∃ root' ∈ [root], root'.Descendant b.schema ∧ b.Inherits root' := by
  intro options root define instantiate s step
  -- No value is handed over in any of the steps.
  have hnone : ∀ (step : Step) (s : Session), step.handed = [] →
      ∀ v ∈ step.handed, ∃ literal : Literal, v = literal.value s.hosts := by
    intro step s h v hv
    rw [h] at hv
    exact absurd hv List.not_mem_nil
  have hdefined : Session.Rooted [root] (Session.empty.perform define).1 :=
    .performed [] .empty .empty define (hnone define _ rfl)
  have hs : s.Rooted [root] :=
    .performed [root] _ hdefined instantiate (hnone instantiate _ rfl)
  exact ⟨hs, rfl, by decide +kernel,
    options_reach_every_level [root] s hs step (hnone step s rfl) 4⟩

end FieldSchema
