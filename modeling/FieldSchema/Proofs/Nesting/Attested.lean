import FieldSchema.Proofs.Nesting.Births
import FieldSchema.Proofs.Nesting.Confining
import FieldSchema.Proofs.Sharing.Timeline

/-!
# Where Nested Hosts Come From

Every nested host that a run makes comes of a family and of its own script.

A nested host is made with the definition that its nested schema has in the
world of that moment. Two things are to be known of it: to which nested schema
it belongs, and that the definition is one that the script of this schema
makes, whenever it was made and wherever it was kept. The first is a matter of
families, which no run leaves. The second is a matter of cells, which are used
by their owners alone as long as the world is coherent.

Both were shown of what a run leaves behind. Here they are needed at moments
within a run, and at each of them they hold for the same reasons, because what
comes before that moment is a run as well. So the induction over code is not
about what code keeps. It goes along with the register, and takes from the
other two inductions what they say of the part that has been run.

## Main definitions

* `Birth.Attested`: The host is of the family, and its script makes the definition.
* `Scene.Within`: The scene is coherent with a ledger, and does not lead out of the family.
* `Attests`: From such scenes on, all hosts in a register are attested.

## Theorems

* `attests_andThen`: The register of a sequence.
* `births_attests`: A block is given a host that is attested.
* `eval_attests`, `operation_attests`: The registers of expressions and of operations.
* `callWithin_attests`, `evalWithin_attests`: Calls and code make attested hosts only.
-/

namespace FieldSchema

section

variable (S : SubSchema → Prop)

/-- The nested schema is of the family, and the definition is one that its script makes. -/
structure Birth.Attested (b : Birth) : Prop where
  family : S b.schema
  makes : b.schema.Makes b.definition

/-- The scene is coherent with the ledgers, and nothing in it leads out of the family. -/
structure Scene.Within (k : Ledgers) (s : Scene) : Prop where
  alike : s.Alike id k s
  upholds : s.Upholds (.ofValues (Value.Confined S) (World.Confined S))

/-- The input goes with the ledgers and does not lead out of the family. -/
structure Args.Within (k : Ledgers) (args : Args) : Prop where
  alike : args.Alike id k args
  confined : ∀ v ∈ args.given, v.Confined S

/-- So it is with what a block has captured. -/
structure Block.Within (k : Ledgers) (block : Block) : Prop where
  alike : block.Alike id k block
  confined : ∀ v ∈ block.captured, v.Confined S

/-- The action goes with the ledgers from the given ones on, and does not lead out of the family. -/
structure Steady {α : Type} (k : Ledgers) (R : Ledgers → α → α → Prop) (Q : α → Prop)
    (act : Run α) : Prop where
  agrees : Agree id k R act act
  conveys : Conveys (.ofValues (Value.Confined S) (World.Confined S)) Q act

/-- From scenes on that go with the ledgers, all hosts in the register are attested. -/
def Attests (k : Ledgers) (register : Register) : Prop :=
  ∀ l, k ≤ l → ∀ s : Scene, s.Within S l → ∀ b ∈ register s, b.Attested S

/-- The registers of all calls are such, if the input is. -/
def CallsAttest (calls : String → Args → Register) : Prop :=
  ∀ k name args, args.Within S k → Attests S k (calls name args)

/-- The nested schema of the operation owns its cell in both ledgers, and is of the family. -/
structure Operation.Within (k : Ledgers) (op : Operation) : Prop where
  left : op.Confined k.left.Records
  right : op.Confined k.right.Records
  family : op.Confined S

/-- What code is run with: values, calls and a block, and the registers of these. -/
structure Context.Within (k : Ledgers) (c : Context) (calls : String → Args → Register)
    (inBlock : Register) : Prop where
  alike : c.Alike id k c
  conveys : CallsConvey (.ofValues (Value.Confined S) (World.Confined S)) c.dispatch
  values : ∀ v ∈ c.values, v.Confined S
  block : ∀ block, c.block = some block →
    Conveys (.ofValues (Value.Confined S) (World.Confined S)) (fun _ => True) block
  calls : CallsAttest S calls
  inBlock : Attests S k inBlock

end

section

variable {S : SubSchema → Prop} {α : Type}

theorem Args.Within.mono (k l : Ledgers) (hkl : k ≤ l) (args : Args) (h : args.Within S k) :
    args.Within S l :=
  ⟨Args.Alike.mono id k l hkl args args h.alike, h.confined⟩

/-- The block of a call goes with the ledgers if the input does. -/
theorem Args.Within.captured (k : Ledgers) (args : Args) (h : args.Within S k) (block : Block)
    (hblock : args.block = some block) : block.Within S k := by
  refine ⟨?_, fun v hv => h.confined v (args.mem_given_of_captured block hblock v hv)⟩
  have halike := h.alike.block
  rw [hblock] at halike
  cases halike with
  | some halike => exact halike

theorem attests_mono (k l : Ledgers) (hkl : k ≤ l) (register : Register)
    (h : Attests S k register) : Attests S l register :=
  fun m hlm => h m (hkl.trans hlm)

theorem attests_quiet (k : Ledgers) : Attests S k .quiet :=
  fun _ _ _ _ _ hb => absurd hb List.not_mem_nil

/-- A steady action leads to a scene that goes with later ledgers. -/
theorem Steady.next (k : Ledgers) (R : Ledgers → α → α → Prop) (Q : α → Prop) (act : Run α)
    (h : Steady S k R Q act) (l : Ledgers) (hkl : k ≤ l) (s t : Scene) (hs : s.Within S l) (a : α)
    (hresult : act s = .ok a t) : ∃ m, l ≤ m ∧ t.Within S m ∧ R m a a ∧ Q a := by
  obtain ⟨hupholds, hQ⟩ := ends_value _ a t (h.conveys s hs.upholds) hresult
  rcases endTogether_cases _ _ (h.agrees l hkl s s hs.alike) with
    ⟨b, u, b', u', hb, hb', m, hlm, hu, hR⟩ | ⟨halt, u, u', hb, -, -⟩
  · -- Both runs that are compared are this one.
    obtain ⟨rfl, rfl⟩ := EStateM.Result.ok.inj (hresult.symm.trans hb)
    obtain ⟨rfl, rfl⟩ := EStateM.Result.ok.inj (hresult.symm.trans hb')
    exact ⟨m, hlm, ⟨hu, hupholds⟩, hR, hQ⟩
  · exact nomatch hresult.symm.trans hb

theorem attests_andThen (k : Ledgers) (R : Ledgers → α → α → Prop) (Q : α → Prop) (act : Run α)
    (hact : Steady S k R Q act) (own : Register) (next : α → Register) (hown : Attests S k own)
    (hnext : ∀ l, k ≤ l → ∀ a, R l a a → Q a → Attests S l (next a)) :
    Attests S k (.andThen act own next) := by
  intro l hkl s hs b hb
  rcases List.mem_append.mp hb with hb | hb
  · exact hown l hkl s hs b hb
  · cases hresult : act s with
    | ok a t =>
        rw [hresult] at hb
        obtain ⟨m, hlm, ht, hR, hQ⟩ := hact.next k R Q act l hkl s t hs a hresult
        exact hnext m (hkl.trans hlm) a hR hQ m (le_refl m) t ht b hb
    | error halt t =>
        rw [hresult] at hb
        exact absurd hb List.not_mem_nil

theorem Context.Within.mono (k l : Ledgers) (hkl : k ≤ l) (c : Context)
    (calls : String → Args → Register) (inBlock : Register) (h : c.Within S k calls inBlock) :
    c.Within S l calls inBlock :=
  { h with
    alike := Context.Alike.mono id k l hkl c c h.alike
    inBlock := attests_mono k l hkl inBlock h.inBlock }

section

variable (hS : Family S) (k : Ledgers) (c : Context) (calls : String → Args → Register)
  (inBlock : Register) (hc : c.Within S k calls inBlock)

include hS hc

theorem eval_steady (e : Expr) : Steady S k (Value.Alike id) (Value.Confined S) (e.eval c) where
  agrees := eval_agree id k c c hc.alike e
  conveys := eval_conveys (confined_transmits hS) c hc.conveys hc.values hc.block e

theorem evalAll_steady (es : List Expr) :
    Steady S k (ValuesAlike id) (fun values => ∀ v ∈ values, v.Confined S) (evalAll c es) where
  agrees := evalAll_agree id k c c hc.alike es
  conveys := evalAll_conveys (confined_transmits hS) c hc.conveys hc.values hc.block es

end

theorem plan_steady (hS : Family S) (dispatch : Dispatch) (hagree : CallsAgree id dispatch)
    (hconvey : CallsConvey (.ofValues (Value.Confined S) (World.Confined S)) dispatch) (k : Ledgers)
    (op : Operation) (hop : op.Within S k) (spec : FieldSpec) (hspec : op.spec? = some spec)
    (args : Args) (hargs : args.Within S k) :
    Steady S k (fun l => Option.Rel (Write.Alike id l))
      (fun plan => ∀ write, plan = some write → ∀ v ∈ write.added, v.Confined S)
      (op.plan dispatch args) where
  agrees := plan_agree id k dispatch hagree op op
    (operation_alike id k op op rfl hop.left hop.right) args args hargs.alike
  conveys s hs := by
    refine plan_conveys (confined_transmits hS) dispatch hconvey op spec hspec args
      hargs.confined s hs fun sub hsub => ?_
    refine ends_mono _ (definition_confined hS sub (hop.family sub hsub) s.world hs.world)
      (fun d v h => ⟨h.1, confined_instantiate S d h.2⟩) fun _ _ h => h

mutual

/-- An expression makes attested hosts only, if the calls in it do and the block beside it. -/
theorem eval_attests (hS : Family S) (k : Ledgers) (c : Context)
    (calls : String → Args → Register) (inBlock : Register) (hc : c.Within S k calls inBlock)
    (e : Expr) : Attests S k (e.births c calls inBlock) := by
  match e with
  | .call operation arguments splat captures block =>
      rw [Expr.births]
      refine attests_andThen k _ _ _ (evalAll_steady hS k c calls inBlock hc arguments) _ _
        (evalAll_attests hS k c calls inBlock hc arguments) fun l hkl values halike hconfined => ?_
      have hlater := hc.mono k l hkl c calls inBlock
      refine attests_andThen l _ _ _ (evalAll_steady hS l c calls inBlock hlater captures) _ _
        (evalAll_attests hS l c calls inBlock hlater captures) fun m hlm captured hown hcaptured => ?_
      have halike := ValuesAlike.mono id l m hlm _ _ halike
      have hblock := Block.alike_written id m captured captured hown block
      refine hc.calls m operation _ ⟨⟨?_, hblock⟩, Args.given_written _ _ captured block ?_ hcaptured⟩
      -- With a splat the arguments at hand come after those of the call.
      · cases splat with
        | true =>
            exact ValuesAlike.append id m _ _ _ _ halike
              (ValuesAlike.mono id k m (hkl.trans hlm) _ _ hc.alike.values)
        | false => exact halike
      · cases splat with
        | true => exact List.forall_mem_append.mpr ⟨hconfined, hc.values⟩
        | false => exact hconfined
  | .sequence steps => exact evalAll_attests hS k c calls inBlock hc steps
  | .attempt body => exact eval_attests hS k c calls inBlock hc body
  | .choose condition consequent alternative =>
      rw [Expr.births]
      refine attests_andThen k _ _ _ (eval_steady hS k c calls inBlock hc condition) _ _
        (eval_attests hS k c calls inBlock hc condition) fun l hkl v _ _ => ?_
      have hlater := hc.mono k l hkl c calls inBlock
      split
      · exact eval_attests hS l c calls inBlock hlater consequent
      · exact eval_attests hS l c calls inBlock hlater alternative
  | .typeName e => exact eval_attests hS k c calls inBlock hc e
  | .shown e => exact eval_attests hS k c calls inBlock hc e
  | .runBlock => exact hc.inBlock
  | .compute _ inputs => exact evalAll_attests hS k c calls inBlock hc inputs
  | .literal _ | .argument _ | .arguments | .fail _ | .log _ | .stored _ | .render | .self
  | .responds _ | .define _ _ _ | .attach _ | .hasBlock => exact attests_quiet k

/-- The same of expressions that are evaluated in order. -/
theorem evalAll_attests (hS : Family S) (k : Ledgers) (c : Context)
    (calls : String → Args → Register) (inBlock : Register) (hc : c.Within S k calls inBlock)
    (es : List Expr) : Attests S k (birthsOfAll c calls inBlock es) := by
  match es with
  | [] => exact attests_quiet k
  | e :: rest =>
      rw [birthsOfAll]
      refine attests_andThen k _ _ _ (eval_steady hS k c calls inBlock hc e) _ _
        (eval_attests hS k c calls inBlock hc e) fun l hkl _ _ _ => ?_
      exact evalAll_attests hS l c calls inBlock (hc.mono k l hkl c calls inBlock) rest

end

section

variable (hS : Family S) (dispatch : Dispatch) (calls : String → Args → Register)
  (hagree : CallsAgree id dispatch)
  (hconvey : CallsConvey (.ofValues (Value.Confined S) (World.Confined S)) dispatch)
  (hcalls : CallsAttest S calls)

include hagree hconvey hcalls

/-- Code with values and without a block. -/
theorem context_within (k : Ledgers) (values : List Value) (halike : ValuesAlike id k values values)
    (hvalues : ∀ v ∈ values, v.Confined S) :
    Context.Within S k ⟨dispatch, values, none⟩ calls .quiet where
  alike := ⟨rfl, hagree, halike, .none⟩
  conveys := hconvey
  values := hvalues
  block _ h := nomatch h
  calls := hcalls
  inBlock := attests_quiet k

include hS

theorem blockBirths_attests (k : Ledgers) (block : Block) (hblock : block.Within S k) :
    Attests S k (blockBirths dispatch calls block) :=
  evalAll_attests hS k ⟨dispatch, block.captured, none⟩ calls .quiet
    (context_within dispatch calls hagree hconvey hcalls k block.captured hblock.alike.captured
      hblock.confined) block.steps

/-- The host that a block is given is attested, and so are those that the block makes. -/
theorem births_attests (k : Ledgers) (sub : SubSchema) (hsub : S sub)
    (halike : sub.Alike id k sub) (block : Block) (hblock : block.Within S k) :
    Attests S k (sub.births dispatch calls block) := by
  intro l hkl s hs b hb
  unfold SubSchema.births at hb
  cases hresult : sub.definition s.world with
  | error fault w =>
      rw [hresult] at hb
      exact absurd hb List.not_mem_nil
  | ok d w =>
      rw [hresult] at hb
      obtain ⟨-, -, -, hmakes, -⟩ := ends_value _ d w
        (sub.definition_grown l.left s.world hs.alike.world.left
          (Ledger.Records.mono k.left l.left hkl.left sub halike.left)) hresult
      rcases List.mem_cons.mp hb with rfl | hb
      · exact ⟨hsub, hmakes⟩
      · -- The block runs on the new host, in the world in which there is the definition.
        have hworld := ends_value _ d w (definition_confined hS sub hsub s.world hs.upholds.world)
          hresult
        have hinWorld : Run.inWorld sub.definition s = .ok d ⟨s.host, w⟩ := by
          unfold Run.inWorld
          rw [hresult]
        rcases endTogether_cases _ _ (definition_agree id k sub sub halike l hkl s s hs.alike) with
          ⟨d', t, d'', t', hd', hd'', m, hlm, ht, hd⟩ | ⟨halt, t, t', hfail, -, -⟩
        · obtain ⟨rfl, rfl⟩ := EStateM.Result.ok.inj (hinWorld.symm.trans hd')
          obtain ⟨rfl, rfl⟩ := EStateM.Result.ok.inj (hinWorld.symm.trans hd'')
          have hlater : block.Within S m :=
            ⟨Block.Alike.mono id k m (hkl.trans hlm) block block hblock.alike, hblock.confined⟩
          refine blockBirths_attests hS dispatch calls hagree hconvey hcalls m block hlater m
            (le_refl m) ⟨d.instantiate, w⟩
            ⟨⟨instantiate_alike id m d d hd, ht.world⟩, ⟨?_, hworld.1⟩⟩ b hb
          exact confined_instantiate S d hworld.2
        · exact nomatch hinWorld.symm.trans hfail

theorem planBirths_attests (k : Ledgers) (op : Operation) (hop : op.Within S k) (args : Args)
    (hargs : args.Within S k) : Attests S k (op.planBirths dispatch calls args) := by
  unfold Operation.planBirths
  cases hbuilds : op.builds? args with
  | none => exact attests_quiet k
  | some built =>
      obtain ⟨sub, block⟩ := built
      have hbuild := builds_of_eq op args sub block hbuilds
      obtain ⟨spec, hspec, hsub⟩ := schema_of_builds op args sub block hbuild
      have hblock := hargs.captured k args block (block_of_builds op args sub block hbuild)
      have hschema : op.schema? = some sub := by rw [Operation.schema?, hspec, Option.bind_some, hsub]
      exact births_attests hS dispatch calls hagree hconvey hcalls k sub (hop.family sub hschema)
        ⟨rfl, hop.left sub hschema, hop.right sub hschema⟩ block hblock

theorem callbackBirths_attests (k : Ledgers) (spec : FieldSpec) (values : List Value)
    (halike : ValuesAlike id k values values) (hvalues : ∀ v ∈ values, v.Confined S) :
    Attests S k (spec.callbackBirths dispatch calls values) := by
  unfold FieldSpec.callbackBirths
  cases spec.callback with
  | none => exact attests_quiet k
  | some callback =>
      exact eval_attests hS k ⟨dispatch, values, none⟩ calls .quiet
        (context_within dispatch calls hagree hconvey hcalls k values halike hvalues) callback

/-- The callback makes attested hosts only, on the host after the write. -/
theorem writeBirths_attests (k : Ledgers) (spec : FieldSpec) (hspec : spec.Alike id k spec)
    (plan : Option Write) (halike : Option.Rel (Write.Alike id k) plan plan)
    (hvalues : ∀ write, plan = some write → ∀ v ∈ write.added, v.Confined S) :
    Attests S k (spec.writeBirths dispatch calls plan) := by
  cases halike with
  | none => exact attests_quiet k
  | @some write _ hwrite =>
      intro l hkl s hs
      have hlater := FieldSpec.Alike.mono id k l hkl spec spec hspec
      have hadded := hvalues write rfl
      have hwrite := Write.Alike.mono id k l hkl write write hwrite
      -- The host after the write is still within the family: like values went into like slots.
      have hput : Scene.Within S l ⟨spec.put write s.host, s.world⟩ := by
        refine ⟨⟨?_, hs.alike.world⟩, ⟨?_, hs.upholds.world⟩⟩
        · refine Host.Alike.write id l s.host s.host hs.alike.host spec.name _ _ ?_
          exact update_alike id l write write hwrite _ _
            (Host.Alike.stored id l s.host s.host hs.alike.host spec.name)
        · exact (confined_closed S).put spec write hadded s.host hs.upholds.host
      exact callbackBirths_attests hS dispatch calls hagree hconvey hcalls l spec
        (spec.handed write) (handed_alike id l spec spec hlater write write hwrite)
        ((confined_closed S).handed spec write hadded) l (le_refl l) _ hput

/-- An accessor makes attested hosts only, when it decides and when it carries out. -/
theorem accessor_attests (k : Ledgers) (op : Operation) (hop : op.Within S k) (spec : FieldSpec)
    (hspec : op.spec? = some spec) (args : Args) (hargs : args.Within S k) :
    Attests S k (.andThen (op.plan dispatch args) (op.planBirths dispatch calls args)
      (spec.writeBirths dispatch calls)) := by
  have hkept : ∀ sub, spec.kind.schema? = some sub → op.schema? = some sub := fun sub hsub => by
    rw [Operation.schema?, hspec, Option.bind_some, hsub]
  have halike : spec.Alike id k spec := spec_alike id k spec spec rfl
    (fun sub hsub => hop.left sub (hkept sub hsub)) fun sub hsub => hop.right sub (hkept sub hsub)
  refine attests_andThen k _ _ _
    (plan_steady hS dispatch hagree hconvey k op hop spec hspec args hargs) _ _
    (planBirths_attests hS dispatch calls hagree hconvey hcalls k op hop args hargs) ?_
  exact fun l hkl plan hplan hvalues =>
    writeBirths_attests hS dispatch calls hagree hconvey hcalls l spec
      (FieldSpec.Alike.mono id k l hkl spec spec halike) plan hplan hvalues

/-- A custom operation makes attested hosts only, by its code or by the block that it is given. -/
theorem custom_attests (k : Ledgers) (name : String) (trace : Bool) (body : Expr) (args : Args)
    (hargs : args.Within S k) :
    Attests S k ((Operation.custom name trace body).births dispatch calls args) := by
  have hnote : Steady S k Unrelated (fun _ => True)
      (if trace then Run.note (.called name args) else pure ()) := by
    cases trace with
    | true => exact ⟨agree_note id k _ _, conveys_note (confined_transmits hS) _⟩
    | false => exact ⟨agree_pure id k _ _ _ fun _ _ => trivial, conveys_pure _ trivial⟩
  refine attests_andThen k _ _ _ hnote _ _ (attests_quiet k) fun l hkl _ _ _ => ?_
  have hlater := hargs.mono k l hkl args
  refine eval_attests hS l _ calls _ ?_ body
  refine ⟨⟨rfl, hagree, hlater.alike.values, ?_⟩, hconvey,
    fun v hv => hargs.confined v (List.mem_append_left _ hv),
    givenBlock_conveys (confined_transmits hS) dispatch hconvey args hargs.confined, hcalls, ?_⟩
  -- The block that the code may run is the one of the call.
  · cases hown : args.block with
    | none => exact .none
    | some block =>
        exact .some (runSteps_agree id l dispatch hagree block block
          (hlater.captured l args block hown).alike)
  · cases hown : args.block with
    | none => exact attests_quiet l
    | some block =>
        exact blockBirths_attests hS dispatch calls hagree hconvey hcalls l block
          (hlater.captured l args block hown)

theorem operation_attests (k : Ledgers) (op : Operation) (hop : op.Within S k) (args : Args)
    (hargs : args.Within S k) : Attests S k (op.births dispatch calls args) := by
  have haccessor := accessor_attests hS dispatch calls hagree hconvey hcalls k op hop
  cases op with
  | custom name trace body =>
      exact custom_attests hS dispatch calls hagree hconvey hcalls k name trace body args hargs
  | inspect => exact attests_quiet k
  | _ spec => exact haccessor spec rfl args hargs

end

section

variable (hS : Family S)

include hS

/-- All nested hosts that a call makes are attested, however deep calls nest. -/
theorem callWithin_attests (depth : Nat) : CallsAttest S (callBirths depth) := by
  -- The operation is looked up in the scene, which goes with the ledgers of that moment.
  induction depth with
  | zero => exact fun k _ _ _ => attests_quiet k
  | succ depth ih =>
      intro k name args hargs l hkl s hs b hb
      unfold callBirths at hb
      cases hfound : s.host.operation? name with
      | none =>
          rw [hfound] at hb
          exact absurd hb List.not_mem_nil
      | some op =>
          rw [hfound] at hb
          have hop : op.Within S l :=
            ⟨Host.confined_operation? _ s.host hs.alike.host.left name op hfound,
              Host.confined_operation? _ s.host hs.alike.host.right name op hfound,
              Host.confined_operation? S s.host hs.upholds.host name op hfound⟩
          have hlater := hargs.mono k l hkl args
          exact operation_attests hS (callWithin depth) (callBirths depth)
            (callWithin_agree id depth) (callWithin_conveys (confined_transmits hS) depth) ih l op
            hop args hlater l (le_refl l) s hs b hb

/-- So are those of code that is run on a host. -/
theorem evalWithin_attests (depth : Nat) (k : Ledgers) (e : Expr) :
    Attests S k (codeBirths depth [] e) :=
  eval_attests hS k ⟨callWithin depth, [], none⟩ (callBirths depth) .quiet
    (context_within (callWithin depth) (callBirths depth) (callWithin_agree id depth)
      (callWithin_conveys (confined_transmits hS) depth) (callWithin_attests hS depth) k []
      (ValuesAlike.nil id k) fun _ h => absurd h List.not_mem_nil) e

end

end

end FieldSchema
