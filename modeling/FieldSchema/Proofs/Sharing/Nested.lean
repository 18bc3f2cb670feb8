import FieldSchema.Proofs.Sharing.Code

/-!
# Nested Schemas That Agree

Nested hosts made by one block, from nested schemas that differ in cells and
policies alone.

Here two runs do part ways for a moment. A block that is given for a field
with a nested schema needs the definition of that schema, and one run may have
it in a cell while the other makes it anew. But both come to what the script
makes, or else to the fault in which the script ends; then they run the block
on hosts that are alike, and from there on they go together again. A failure
is never kept, so it is met with anew in both runs.

That two operations are alike is said once as an equation, recast to recast,
and once constructor by constructor. The equation is what hosts keep when they
change; the constructors are what a call looks at.

## Main definitions

* `SubSchema.Alike`, `FieldSpec.Alike`, `Operation.Alike`: The same up to cells and policies.
* `Definition.Alike`: Definitions that are the same in this sense.

## Theorems

* `operation_alike`: Operations that are the same recast are alike.
* `agree_inWorld`, `agree_onHost`: What runs in the world alone, and on a host beside.
* `definition_agree`: Like nested schemas have like definitions, kept or made.
* `evaluate_agree`: A block makes like nested hosts with like nested schemas.
-/

namespace FieldSchema

section

variable (f : SubSchemaPolicy → SubSchemaPolicy)

/-- The nested schemas are the same up to cells and policies, and each owns its cell. -/
structure SubSchema.Alike (k : Ledgers) (sub sub' : SubSchema) : Prop where
  recast : sub.recast f = sub'.recast f
  left : k.left.Records sub
  right : k.right.Records sub'

/-- The shapes are the same but for their nested schemas, which are alike. -/
inductive FieldKind.Alike (k : Ledgers) : FieldKind → FieldKind → Prop
  | scalar (constraint : Constraint) : Alike k (.scalar constraint) (.scalar constraint)
  | array (singular : String) (item : Option Constraint) (schema schema' : Option SubSchema)
      (itemCallback : ItemCallback) (h : Option.Rel (SubSchema.Alike f k) schema schema') :
      Alike k (.array singular item schema itemCallback)
        (.array singular item schema' itemCallback)
  | hash (singular : String) (key value : Option Constraint) (schema schema' : Option SubSchema)
      (h : Option.Rel (SubSchema.Alike f k) schema schema') :
      Alike k (.hash singular key value schema) (.hash singular key value schema')

/-- The fields are the same but for their nested schemas, which are alike. -/
structure FieldSpec.Alike (k : Ledgers) (spec spec' : FieldSpec) : Prop where
  name : spec.name = spec'.name
  kind : spec.kind.Alike f k spec'.kind
  validation : spec.validation = spec'.validation
  callback : spec.callback = spec'.callback

/-- The operations do the same, on fields that are alike. -/
inductive Operation.Alike (k : Ledgers) : Operation → Operation → Prop
  | scalar (spec spec' : FieldSpec) (h : spec.Alike f k spec') :
      Alike k (.scalar spec) (.scalar spec')
  | arrayPlural (spec spec' : FieldSpec) (h : spec.Alike f k spec') :
      Alike k (.arrayPlural spec) (.arrayPlural spec')
  | arrayItem (spec spec' : FieldSpec) (h : spec.Alike f k spec') :
      Alike k (.arrayItem spec) (.arrayItem spec')
  | hashPlural (spec spec' : FieldSpec) (h : spec.Alike f k spec') :
      Alike k (.hashPlural spec) (.hashPlural spec')
  | hashEntry (spec spec' : FieldSpec) (h : spec.Alike f k spec') :
      Alike k (.hashEntry spec) (.hashEntry spec')
  | inspect : Alike k .inspect .inspect
  | custom (name : String) (trace : Bool) (body : Expr) :
      Alike k (.custom name trace body) (.custom name trace body)

section

variable (k : Ledgers)

theorem schema_alike (schema schema' : Option SubSchema)
    (h : schema.map (SubSchema.recast f) = schema'.map (SubSchema.recast f))
    (hleft : ∀ sub, schema = some sub → k.left.Records sub)
    (hright : ∀ sub, schema' = some sub → k.right.Records sub) :
    Option.Rel (SubSchema.Alike f k) schema schema' := by
  cases schema with
  | none =>
      cases schema' with
      | none => exact .none
      | some sub' => exact nomatch h
  | some sub =>
      cases schema' with
      | none => exact nomatch h
      | some sub' => exact .some ⟨Option.some.inj h, hleft sub rfl, hright sub' rfl⟩

theorem kind_alike (kind kind' : FieldKind) (h : kind.recast f = kind'.recast f)
    (hleft : ∀ sub, kind.schema? = some sub → k.left.Records sub)
    (hright : ∀ sub, kind'.schema? = some sub → k.right.Records sub) :
    kind.Alike f k kind' := by
  -- Recast kinds are equal only if the kinds are of one shape.
  cases kind with
  | scalar constraint =>
      cases kind' with
      | scalar constraint' =>
          obtain rfl := FieldKind.scalar.inj h
          exact .scalar constraint
      | _ => exact nomatch h
  | array singular item schema itemCallback =>
      cases kind' with
      | array singular' item' schema' itemCallback' =>
          obtain ⟨rfl, rfl, hschema, rfl⟩ := FieldKind.array.inj h
          exact .array _ _ _ _ _ (schema_alike f k schema schema' hschema hleft hright)
      | _ => exact nomatch h
  | hash singular key value schema =>
      cases kind' with
      | hash singular' key' value' schema' =>
          obtain ⟨rfl, rfl, rfl, hschema⟩ := FieldKind.hash.inj h
          exact .hash _ _ _ _ _ (schema_alike f k schema schema' hschema hleft hright)
      | _ => exact nomatch h

theorem spec_alike (spec spec' : FieldSpec) (h : spec.recast f = spec'.recast f)
    (hleft : ∀ sub, spec.kind.schema? = some sub → k.left.Records sub)
    (hright : ∀ sub, spec'.kind.schema? = some sub → k.right.Records sub) :
    spec.Alike f k spec' := by
  obtain ⟨hname, hkind, hvalidation, hcallback⟩ := FieldSpec.mk.inj h
  exact ⟨hname, kind_alike f k spec.kind spec'.kind hkind hleft hright, hvalidation, hcallback⟩

theorem operation_alike (op op' : Operation) (h : op.recast f = op'.recast f)
    (hleft : op.Confined k.left.Records) (hright : op'.Confined k.right.Records) :
    op.Alike f k op' := by
  -- Operations that recast to the same one are of one sort, and those of custom operations are
  -- equal.
  cases op with
  | scalar spec =>
      cases op' with
      | scalar spec' =>
          exact .scalar _ _ (spec_alike f k _ _ (Operation.scalar.inj h) hleft hright)
      | _ => exact nomatch h
  | arrayPlural spec =>
      cases op' with
      | arrayPlural spec' =>
          exact .arrayPlural _ _ (spec_alike f k _ _ (Operation.arrayPlural.inj h) hleft hright)
      | _ => exact nomatch h
  | arrayItem spec =>
      cases op' with
      | arrayItem spec' =>
          exact .arrayItem _ _ (spec_alike f k _ _ (Operation.arrayItem.inj h) hleft hright)
      | _ => exact nomatch h
  | hashPlural spec =>
      cases op' with
      | hashPlural spec' =>
          exact .hashPlural _ _ (spec_alike f k _ _ (Operation.hashPlural.inj h) hleft hright)
      | _ => exact nomatch h
  | hashEntry spec =>
      cases op' with
      | hashEntry spec' =>
          exact .hashEntry _ _ (spec_alike f k _ _ (Operation.hashEntry.inj h) hleft hright)
      | _ => exact nomatch h
  | inspect =>
      cases op' with
      | inspect => exact .inspect
      | _ => exact nomatch h
  | custom name trace body =>
      cases op' with
      | custom name' trace' body' =>
          obtain ⟨rfl, rfl, rfl⟩ := Operation.custom.inj h
          exact .custom name trace body
      | _ => exact nomatch h

/-- Like hosts have like operations under a name, or none both. -/
theorem Host.Alike.operation? (h h' : Host) (hh : h.Alike f k h') (name : String) :
    Option.Rel (Operation.Alike f k) (h.operation? name) (h'.operation? name) := by
  have heq := Host.recast_operation? f h name
  rw [Host.Alike.eq f k h h' hh, Host.recast_operation?] at heq
  cases hop : h.operation? name with
  | none =>
      rw [hop, Option.map_none, Option.map_eq_none_iff] at heq
      rw [heq]
      exact .none
  | some op =>
      rw [hop, Option.map_some, Option.map_eq_some_iff] at heq
      -- The operations recast to the same one, and each is confined with its host.
      obtain ⟨op', hop', hrecast⟩ := heq
      rw [hop']
      exact .some (operation_alike f k op op' hrecast.symm
        (Host.confined_operation? _ h hh.left name op hop)
        (Host.confined_operation? _ h' hh.right name op' hop'))

end

section

variable (k : Ledgers)

/-- What both runs do in the world alone agrees if it ends together in like worlds. -/
theorem agree_inWorld {α β : Type} (Q : Ledgers → α → β → Prop) (act : EStateM Fault World α)
    (act' : EStateM Fault World β)
    (h : ∀ l, k ≤ l → ∀ w w', w.Alike f l w' →
      EndTogether (fun a v b v' => ∃ m, l ≤ m ∧ v.Alike f m v' ∧ Q m a b)
        (fun v v' => ∃ m, l ≤ m ∧ v.Alike f m v') (act w) (act' w')) :
    Agree f k Q (Run.inWorld act) (Run.inWorld act') := by
  intro l hkl s s' hs
  unfold Run.inWorld
  rcases endTogether_cases _ _ (h l hkl s.world s'.world hs.world) with
    ⟨a, v, b, v', hact, hact', m, hlm, hv, hab⟩ | ⟨fault, v, v', hact, hact', m, hlm, hv⟩
  · rw [hact, hact']
    exact ⟨m, hlm, Scene.Alike.withHost f l m hlm s s' v v' hs hv, hab⟩
  · rw [hact, hact']
    exact ⟨rfl, m, hlm, Scene.Alike.withHost f l m hlm s s' v v' hs hv⟩

/-- Runs on like hosts beside those at hand lead to like hosts if they agree. -/
theorem agree_onHost (h h' : Host) (hh : h.Alike f k h') (act act' : Run Unit)
    (hact : Agree f k Unrelated act act') :
    Agree f k (fun l h h' => h.Alike f l h') (Run.onHost h act) (Run.onHost h' act') := by
  intro l hkl s s' hs
  have hstart : Scene.Alike f l ⟨h, s.world⟩ ⟨h', s'.world⟩ :=
    ⟨Value.Alike.mono f k l hkl _ _ hh, hs.world⟩
  unfold Run.onHost
  rcases endTogether_cases _ _ (hact l hkl _ _ hstart) with
    ⟨_, t, _, t', hrun, hrun', m, hlm, ht, -⟩ | ⟨halt, t, t', hrun, hrun', m, hlm, ht⟩
  · rw [hrun, hrun']
    exact ⟨m, hlm, Scene.Alike.withHost f l m hlm s s' _ _ hs ht.world, ht.host⟩
  · rw [hrun, hrun']
    exact ⟨rfl, m, hlm, Scene.Alike.withHost f l m hlm s s' _ _ hs ht.world⟩

/-- The definitions are alike, and confined to the ledgers. -/
structure Definition.Alike (l : Ledgers) (d d' : Definition) : Prop where
  recast : d.recast f = d'.recast f
  left : d.Confined l.left.Records
  right : d'.Confined l.right.Records

theorem World.Grown.alike (l : Ledgers) (m m' : Ledger) (w w' v v' : World)
    (h : w.Alike f l w') (hleft : w.Grown l.left m v) (hright : w'.Grown l.right m' v')
    (hblind : ∀ sub ∈ m, Script.Blind f sub.script) :
    ∃ n : Ledgers, l ≤ n ∧ v.Alike f n v' ∧ n.left = m ∧ n.right = m' := by
  refine ⟨⟨m, m', l.leftNames, l.rightNames⟩, ⟨hleft.ledger, hright.ledger, rfl, rfl⟩,
    ⟨hleft.coherent, hright.coherent, hblind, ?_, ?_, ?_, ?_⟩, rfl, rfl⟩
  · rw [← h.leftNames, World.names, hleft.hosts, hleft.definitions]
    rfl
  · rw [← h.rightNames, World.names, hright.hosts, hright.definitions]
    rfl
  · rw [hleft.hosts, hright.hosts]
    exact h.hosts
  · rw [hleft.definitions, hright.definitions]
    exact h.definitions

/-- Like nested schemas have like definitions or fail alike, whether a definition is found in a
    cell or made anew. -/
theorem definition_agree (sub sub' : SubSchema) (h : sub.Alike f k sub') :
    Agree f k (Definition.Alike f) (Run.inWorld sub.definition) (Run.inWorld sub'.definition) := by
  refine agree_inWorld f k _ _ _ fun l hkl w w' hw => ?_
  have hrecords := Ledger.Records.mono k.left l.left hkl.left sub h.left
  have hleft := SubSchema.definition_grown l.left w hw.left sub hrecords
  have hright := SubSchema.definition_grown l.right w' hw.right sub'
    (Ledger.Records.mono k.right l.right hkl.right sub' h.right)
  -- The nested schemas have one script, which is blind, and so are the scripts nested in it.
  have hown := hw.blind sub (Ledger.Records.mem l.left sub hrecords)
  have hown' : Script.Blind f sub'.script := (SubSchema.mk.inj h.recast).2.1 ▸ hown
  have hnew : ∀ m, l.left.Extended sub.script m → ∀ other ∈ m, Script.Blind f other.script := by
    intro m hm other hother
    rcases hm.questions other hother with hold | hnested
    · exact hw.blind other hold
    · exact hown.mono f sub.script other.script hnested
  -- Each run comes to what its own script makes, so it matters only what scripts make.
  cases hresult : sub.definition w with
  | ok d v =>
      rw [hresult] at hleft
      obtain ⟨m, hgrown, hd, hmakes, hm⟩ := hleft
      cases hresult' : sub'.definition w' with
      | ok d' v' =>
          rw [hresult'] at hright
          obtain ⟨m', hgrown', hd', hmakes', -⟩ := hright
          obtain ⟨n, hle, hv, rfl, rfl⟩ :=
            World.Grown.alike f l m m' w w' v v' hw hgrown hgrown' (hnew m hm)
          exact ⟨n, hle, hv, makes_alike f sub sub' h.recast hown d d' hmakes hmakes', hd, hd'⟩
      | error fault' v' =>
          rw [hresult'] at hright
          obtain ⟨m', hgrown', hfails', -⟩ := hright
          exact absurd hfails' (not_fails_of_makes f sub sub' h.recast hown d hmakes fault')
  | error fault v =>
      rw [hresult] at hleft
      obtain ⟨m, hgrown, hfails, hm⟩ := hleft
      cases hresult' : sub'.definition w' with
      | ok d' v' =>
          rw [hresult'] at hright
          obtain ⟨m', hgrown', hd', hmakes', -⟩ := hright
          exact absurd hfails
            (not_fails_of_makes f sub' sub h.recast.symm hown' d' hmakes' fault)
      | error fault' v' =>
          rw [hresult'] at hright
          obtain ⟨m', hgrown', hfails', -⟩ := hright
          obtain ⟨n, hle, hv, -, -⟩ :=
            World.Grown.alike f l m m' w w' v v' hw hgrown hgrown' (hnew m hm)
          exact ⟨fails_alike f sub sub' h.recast hown fault fault' hfails hfails', n, hle, hv⟩

theorem instantiate_alike (d d' : Definition) (h : d.Alike f k d') :
    d.instantiate.Alike f k d'.instantiate :=
  Host.Alike.attachTo f k .empty .empty
    (Host.Alike.mk f k _ _ rfl (Host.confined_empty _) (Host.confined_empty _)) d d' h.recast
    h.left h.right

variable (dispatch : Dispatch) (hcalls : CallsAgree f dispatch)

include hcalls

/-- Like blocks make like nested hosts with like nested schemas. -/
theorem evaluate_agree (sub sub' : SubSchema) (h : sub.Alike f k sub') (block block' : Block)
    (hblock : block.Alike f k block') :
    Agree f k (fun l h h' => h.Alike f l h') (sub.evaluate dispatch block)
      (sub'.evaluate dispatch block') := by
  unfold SubSchema.evaluate
  refine agree_bind f k _ _ _ _ _ _ (definition_agree f k sub sub' h) fun l hkl d d' hd => ?_
  exact agree_onHost f l _ _ (instantiate_alike f l d d' hd) _ _
    (runSteps_agree f l dispatch hcalls block block' (Block.Alike.mono f k l hkl _ _ hblock))

theorem buildNested_agree (singular : String) (schema schema' : Option SubSchema)
    (h : Option.Rel (SubSchema.Alike f k) schema schema') (block block' : Block)
    (hblock : block.Alike f k block') :
    Agree f k (Value.Alike f) (buildNested dispatch singular schema block)
      (buildNested dispatch singular schema' block') := by
  unfold buildNested
  cases h with
  | none => exact agree_fail f k _ _
  | some hsub =>
      refine agree_bind f k _ _ _ _ _ _ (evaluate_agree f k dispatch hcalls _ _ hsub _ _ hblock)
        fun l _ h h' hh => ?_
      exact agree_pure f l _ _ _ fun m hlm => Value.Alike.mono f l m hlm _ _ hh

end

end

end FieldSchema
