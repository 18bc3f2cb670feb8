import FieldSchema.Proofs.Code.Calls
import FieldSchema.Proofs.Schema.Stock

/-!
# Accessors of the Right Kind

Why no accessor ever meets a field that it was not made for.

The accessors of arrays and hashes take the kind of their field for granted,
and have a branch for other kinds that ends the run for good. An accessor is
kept in an operation, and nothing in the operation itself says that its field
has the right kind. It is the table of a definition that says so: it binds
names only to accessors that the listed fields have, and those are chosen by
kind. So the branch is out of reach for all hosts whose operations come from
definitions that scripts made, and such hosts stay what they are. Code may
install operations, but these run code and access nothing; it may attach
definitions, but only such as the world keeps; and a nested host gets its
operations from a definition that a script has made.

## Main definitions

* `Definition.Genuine`: Some script made the definition.
* `Scene.Genuine`: So it is with all operations of the host and all that the world keeps.
* `rightKind`: The conditions that calls have to keep.

## Theorems

* `rightKind_sound`: Nothing that can happen to a genuine host breaks the conditions.
* `callWithin_genuine`: No call meets a field of another kind.
* `inStep_and_rightKind`: Definitions are in step, so calls never do.
-/

namespace FieldSchema

/-- The definition is that of what a script declared, maybe up to a fault. -/
def Definition.Genuine (d : Definition) : Prop :=
  ∃ inflector options script w, d = (World.defineUpToFault inflector options script w).1

/-- The operations of the host and the definitions in the world go back to scripts. -/
structure Scene.Genuine (s : Scene) : Prop where
  host : s.host.Draws Definition.Genuine fun _ => True
  world : s.world.Stocks Definition.Genuine Definition.Genuine

/-- What calls have to keep so that no accessor meets a field of another kind. -/
def rightKind : Guarantee Unit where
  host _ h := h.Draws Definition.Genuine fun _ => True
  world w := w.Stocks Definition.Genuine Definition.Genuine
  halt h := h ≠ .kindMismatch

theorem Definition.Genuine.accessor (d : Definition) (hd : d.Genuine) (name : String)
    (op : Operation) (hop : (name, op) ∈ d.operations) :
    ∃ spec ∈ d.fields, spec.Accessor op := by
  obtain ⟨inflector, options, script, w, rfl⟩ := hd
  have htabulates := World.defineUpToFault_tabulates inflector options script w
  obtain ⟨spec, hspec, hmem⟩ := List.mem_flatMap.mp (htabulates.perm.mem_iff.mp hop)
  exact ⟨spec, hspec, spec.accessor_of_mem name op hmem⟩

theorem instantiate_draws (d : Definition) {D : Definition → Prop} {allowed : String → Prop}
    (hd : D d) : d.instantiate.Draws D allowed :=
  draws_attachWith d d.inspectable .empty hd draws_empty

theorem rightKind_tolerates : rightKind.Tolerates fun _ => True where
  fault _ h := nomatch h
  note w event hw := stocks_note w event hw
  install _ h name tag trace body hbody hh := draws_install h name tag trace body hbody hh
  attach _ h _ name d _ hw hd hh := draws_attachWith d d.inspectable h (hw.named name d hd) hh

theorem rightKind_nests (sub : SubSchema) : rightKind.Nests sub := by
  intro w hw
  refine ends_mono _ (definition_stocks sub w hw ⟨_, _, _, w, rfl⟩) ?_ fun _ _ h => h
  exact fun d v hd => ⟨hd.1, (), instantiate_draws d hd.2⟩

/-- A write leaves the table alone, so no field can break the conditions. -/
theorem rightKind_covers (spec : FieldSpec) : rightKind.Covers (fun _ => True) () spec where
  put _ _ _ _ _ hh := hh
  callback _ _ := trivial
  nested sub _ := rightKind_nests sub

/-- Nothing that can happen to a genuine host breaks the conditions. -/
theorem rightKind_sound : rightKind.Sound fun _ => True where
  tolerates := rightKind_tolerates
  exhausted h := nomatch h
  permits _ h name op hh hfound := by
    cases hh name op hfound with
    | inspect => exact .inspect
    | custom tag trace body hbody => exact .custom tag trace body hbody
    | accessor d hd key _ hop =>
        -- An accessor of a definition is one of the field its key names.
        obtain ⟨spec, -, haccessor⟩ := hd.accessor d key op hop
        exact .accessor spec op haccessor (rightKind_covers spec)

/-- A call on a genuine host never meets a field of another kind, and leaves the host genuine. -/
theorem callWithin_genuine (depth : Nat) (name : String) (args : Args) (s : Scene)
    (hs : s.Genuine) :
    (∀ t, callWithin depth name args s ≠ .error .kindMismatch t) ∧
      (finalState (callWithin depth name args s)).Genuine := by
  have hkept := callWithin_keeps rightKind_sound depth () name args fun _ _ => trivial
  have hafter := keeps_finalState rightKind () _ hkept s ⟨hs.host, hs.world⟩
  refine ⟨fun t ht => ?_, hafter.host, hafter.world⟩
  exact keeps_halt rightKind () _ hkept s t ⟨hs.host, hs.world⟩ .kindMismatch ht rfl

/-- A host that a nested schema makes is genuine, and making it meets no field of another kind. -/
theorem evaluate_genuine (sub : SubSchema) (depth : Nat) (block : Block) (s : Scene)
    (hs : s.world.Stocks Definition.Genuine Definition.Genuine) :
    (∀ t, sub.evaluate (callWithin depth) block s ≠ .error .kindMismatch t) ∧
      ∀ child t, sub.evaluate (callWithin depth) block s = .ok child t →
        Scene.Genuine ⟨child, t.world⟩ := by
  have hkept := evaluate_keeps rightKind_tolerates (callWithin depth)
    (callWithin_keeps rightKind_sound depth) sub (rightKind_nests sub) block
    (fun _ _ => trivial) s hs
  -- Both endings are read off the one invariant of the run.
  refine ⟨fun t ht => ?_, fun child t ht => ?_⟩
  · exact (ends_fault _ _ t hkept ht).2.2 rfl
  · obtain ⟨-, hworld, d, v, -, ⟨k, hnew⟩, hchild⟩ := ends_value _ child t hkept ht
    exact ⟨hchild k hnew, hworld⟩

/-- Whatever a script declares, its table and its fields are in step; so no call on a host with
    operations from scripts, and no block of a nested schema, meets a field of another kind. -/
theorem inStep_and_rightKind (inflector : Inflector) (options : Options) (script : Script)
    (w : World) :
    (World.defineUpToFault inflector options script w).1.InStep ∧
      (∀ d v, World.define inflector options script w = .ok d v → d.InStep) ∧
      (∀ (depth : Nat) (name : String) (args : Args) (s : Scene), s.Genuine →
        (∀ t, callWithin depth name args s ≠ .error .kindMismatch t) ∧
          (finalState (callWithin depth name args s)).Genuine) ∧
      ∀ (sub : SubSchema) (depth : Nat) (block : Block) (s : Scene), s.Genuine →
        (∀ t, sub.evaluate (callWithin depth) block s ≠ .error .kindMismatch t) ∧
          ∀ child t, sub.evaluate (callWithin depth) block s = .ok child t →
            Scene.Genuine ⟨child, t.world⟩ := by
  have hinStep := (World.defineUpToFault_tabulates inflector options script w).inStep
  refine ⟨hinStep, ?_, callWithin_genuine, ?_⟩
  · intro d v hd
    rw [World.define_eq_ok inflector options script w v d hd]
    exact hinStep
  · intro sub depth block s hs
    exact evaluate_genuine sub depth block s hs.world

/-- A script that goes on after a collision between a plural and a scalar. -/
def collidingNames : Script :=
  [.scalar .any "post" none none, .attempt [.array "posts" none none none],
    .hash "tags" none none none none]

theorem inStep_and_rightKind_collidingNames :
    let d := (World.defineUpToFault (.ofSuffix "s") {} collidingNames .empty).1
    d.operationNames = ["post", "tag", "tags"] ∧ d.InStep ∧
      Scene.Genuine ⟨d.instantiate, .empty⟩ ∧
      (∀ t, callWithin 1 "tag" .none ⟨d.instantiate, .empty⟩ ≠ .error .kindMismatch t) ∧
      ∀ t, SubSchema.evaluate ⟨"tag", collidingNames, .ofSuffix "s", {}, 0⟩ (callWithin 1)
        ⟨[], []⟩ ⟨d.instantiate, .empty⟩ ≠ .error .kindMismatch t := by
  have hgenuine : Scene.Genuine
      ⟨(World.defineUpToFault (.ofSuffix "s") {} collidingNames .empty).1.instantiate, .empty⟩ :=
    ⟨instantiate_draws _ ⟨_, _, _, .empty, rfl⟩, stocks_empty⟩
  have hmain := inStep_and_rightKind (.ofSuffix "s") {} collidingNames .empty
  exact ⟨rfl, hmain.1, hgenuine, (hmain.2.2.1 1 "tag" .none _ hgenuine).1,
    (hmain.2.2.2 _ 1 ⟨[], []⟩ _ hgenuine).1⟩

end FieldSchema
