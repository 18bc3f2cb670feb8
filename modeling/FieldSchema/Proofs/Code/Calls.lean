import FieldSchema.Proofs.Accessor.Decision
import FieldSchema.Proofs.Code.Keeps

/-!
# What Calls Keep

Conditions on hosts that no call can break, however deep it goes.

A call runs an operation, and the code of the operation calls again. The
induction is on how deep calls may nest. It has to speak of all hosts that
satisfy one of the conditions at once, for a call on a host may run a block on
another, whose calls are one level deeper like any others.

What the conditions must meet is said of the operations of a host alone. A
custom operation must attach only what is allowed. An accessor must be made
for its field, the conditions must survive its writes, its callback must
attach only what is allowed, and the hosts that its nested schema makes must
satisfy one of the conditions from the start. Nothing is asked of calls, which
is what the induction provides.

## Main definitions

* `Guarantee.Nests`: Hosts made by a schema satisfy the conditions from the start.
* `Guarantee.Covers`: The conditions survive the accessors of a field.
* `Guarantee.Permits`: The conditions survive an operation.
* `Guarantee.Sound`: They survive all operations of all hosts that satisfy them.

## Theorems

* `evaluate_keeps`: A nested host satisfies the conditions on hosts of its schema.
* `invoke_keeps`: An operation keeps what the calls in it keep.
* `callWithin_keeps`: A call keeps what is sound.
-/

namespace FieldSchema

section

variable {κ : Type}

namespace Guarantee

/-- A new host of the nested schema satisfies one of the conditions, and making its definition
    keeps the world. -/
def Nests (G : Guarantee κ) (sub : SubSchema) : Prop :=
  ∀ w, G.world w →
    Ends (fun d v => G.world v ∧ ∃ k, G.host k d.instantiate) (fun _ v => G.world v)
      (sub.definition w)

/-- The condition survives the accessors of the field, given that it survives calls. -/
structure Covers (G : Guarantee κ) (allowed : String → Prop) (k : κ) (spec : FieldSpec) :
    Prop where
  put : ∀ op write h, spec.Accessor op → op.Allows write → G.host k h →
    G.host k (spec.put write h)
  callback : ∀ d ∈ attachedByCallback spec.callback, allowed d
  nested : ∀ sub, spec.kind.schema? = some sub → G.Nests sub

/-- The condition survives the operation, given that it survives calls. -/
inductive Permits (G : Guarantee κ) (allowed : String → Prop) (k : κ) : Operation → Prop
  | inspect : Permits G allowed k .inspect
  | custom (name : String) (trace : Bool) (body : Expr) (hbody : ∀ d ∈ body.attached, allowed d) :
      Permits G allowed k (.custom name trace body)
  | accessor (spec : FieldSpec) (op : Operation) (hop : spec.Accessor op)
      (hspec : G.Covers allowed k spec) : Permits G allowed k op

/-- The conditions survive everything that can happen to a host that satisfies them. -/
structure Sound (G : Guarantee κ) (allowed : String → Prop) : Prop where
  tolerates : G.Tolerates allowed
  exhausted : G.halt .exhausted
  permits : ∀ k h name op, G.host k h → h.operation? name = some op → G.Permits allowed k op

end Guarantee

variable {G : Guarantee κ} {allowed : String → Prop}

/-- What a block makes satisfies each of the conditions that new hosts of the schema satisfy. -/
theorem evaluate_keeps (hG : G.Tolerates allowed) (dispatch : Dispatch)
    (hcalls : ∀ k, CallsKeep G k allowed dispatch) (sub : SubSchema) (hsub : G.Nests sub)
    (block : Block) (hblock : ∀ d ∈ attachedByAll block.steps, allowed d) (s : Scene)
    (hs : G.world s.world) :
    Stays G.world G.halt
      (fun child _ => ∃ d v, sub.definition s.world = .ok d v ∧
        (∃ k, G.host k d.instantiate) ∧ ∀ k, G.host k d.instantiate → G.host k child)
      (sub.evaluate dispatch block) s := by
  have hmade := hsub s.world hs
  have hstays := evaluate_stays (W := G.world) (E := G.halt) sub dispatch block s
    (P := fun d => ∃ v, sub.definition s.world = .ok d v ∧ ∃ k, G.host k d.instantiate)
    (Q := fun d child => ∀ k, G.host k d.instantiate → G.host k child) ?_ ?_
  · refine ends_mono _ hstays ?_ fun _ _ h => h
    rintro child t ⟨hhost, hworld, d, ⟨v, hd, hk⟩, hchild⟩
    exact ⟨hhost, hworld, d, v, hd, hk, hchild⟩
  · cases hdefinition : sub.definition s.world with
    | ok d v =>
        rw [hdefinition] at hmade
        exact ⟨hmade.1, v, rfl, hmade.2⟩
    | error fault v =>
        rw [hdefinition] at hmade
        exact ⟨hmade, hG.fault fault⟩
  -- A new host may satisfy several conditions, and the block keeps each of them.
  · rintro d w hw ⟨v, -, k, hk⟩
    have hrun := fun k => runSteps_keeps (k := k) hG dispatch (hcalls k) block hblock
      ⟨d.instantiate, w⟩
    cases hresult : runSteps dispatch block ⟨d.instantiate, w⟩ with
    | ok u t =>
        simp only [hresult] at hrun
        exact ⟨(hrun k ⟨hk, hw⟩).world, fun k hk => (hrun k ⟨hk, hw⟩).host⟩
    | error halt t =>
        simp only [hresult] at hrun
        exact ⟨(hrun k ⟨hk, hw⟩).1.world, (hrun k ⟨hk, hw⟩).2⟩

/-- A call that is planned is carried out by a read, or by a write and the callback. -/
theorem carryOut_keeps (hG : G.Tolerates allowed) (k : κ) (dispatch : Dispatch)
    (hcalls : CallsKeep G k allowed dispatch) (spec : FieldSpec)
    (hspec : G.Covers allowed k spec) (op : Operation) (hop : spec.Accessor op)
    (plan : Option Write) (hplan : ∀ write, plan = some write → op.Allows write) :
    Keeps G k (spec.carryOut dispatch plan) := by
  cases plan with
  | none => exact keeps_bind G k _ _ (keeps_host G k) fun _ => keeps_pure G k _
  | some write =>
      refine keeps_bind G k _ _ (keeps_modifyHost G k _ fun h hh => ?_) fun _ => ?_
      · exact hspec.put op write h hop (hplan write rfl) hh
      · exact runCallback_keeps hG dispatch hcalls spec _ hspec.callback

/-- An accessor keeps what the calls of its callback and of its block keep. -/
theorem accessor_keeps (hG : G.Tolerates allowed) (k : κ) (dispatch : Dispatch)
    (hcalls : ∀ k, CallsKeep G k allowed dispatch) (spec : FieldSpec)
    (hspec : G.Covers allowed k spec) (op : Operation) (hop : spec.Accessor op) (args : Args)
    (hargs : ∀ d ∈ args.attached, allowed d) : Keeps G k (op.invoke dispatch args) := by
  intro s hs
  rw [invoke_eq op spec (accessor_spec? spec op hop)]
  -- The plan leaves the host as it is, so the condition on it is still there for the write.
  have hplan := plan_stays hG.note hG.fault spec op hop dispatch args s hs.world ?_
  · refine ends_bind _ _ s (R := fun plan t => G.Holds k t ∧
      ∀ write, plan = some write → op.Allows write) ?_ fun plan t ht => ?_
    · refine ends_mono _ hplan ?_ ?_
      · rintro plan t ⟨hhost, hworld, hsettled⟩
        refine ⟨⟨hhost ▸ hs.host, hworld⟩, ?_⟩
        rintro write rfl
        exact hsettled.2
      · rintro halt t ⟨hhost, hworld, hhalt⟩
        exact ⟨⟨hhost ▸ hs.host, hworld⟩, hhalt⟩
    · exact carryOut_keeps hG k dispatch (hcalls k) spec hspec op hop plan ht.2 t ht.1
  · intro sub block hsub hblock
    have hallowed : ∀ d ∈ attachedByAll block.steps, allowed d := by
      intro d hd
      refine hargs d ?_
      rw [Args.attached, hblock]
      exact hd
    exact ends_mono _ (evaluate_keeps hG dispatch hcalls sub (hspec.nested sub hsub) block
      hallowed s hs.world) (fun _ _ h => ⟨h.1, h.2.1, trivial⟩) fun _ _ h => h

/-- An operation that is permitted keeps what the calls in it keep. -/
theorem invoke_keeps (hG : G.Tolerates allowed) (k : κ) (dispatch : Dispatch)
    (hcalls : ∀ k, CallsKeep G k allowed dispatch) (op : Operation)
    (hop : G.Permits allowed k op) (args : Args) (hargs : ∀ d ∈ args.attached, allowed d) :
    Keeps G k (op.invoke dispatch args) := by
  cases hop with
  | inspect => exact inspectHost_keeps hG args
  | custom name trace body hbody =>
      exact invokeCustom_keeps hG dispatch (hcalls k) name trace body args hbody hargs
  | accessor spec _ hop hspec =>
      exact accessor_keeps hG k dispatch hcalls spec hspec op hop args hargs

/-- Calls keep what is sound, however deep they nest. -/
theorem callWithin_keeps (hG : G.Sound allowed) (depth : Nat) :
    ∀ k, CallsKeep G k allowed (callWithin depth) := by
  -- The hypothesis is about all conditions at once: a block inside of a call runs on a host that
  -- satisfies another condition than the host of the call.
  induction depth with
  | zero =>
      intro k name args _ s hs
      exact ⟨hs, hG.exhausted⟩
  | succ depth ih =>
      intro k name args hargs s hs
      cases hfound : s.host.operation? name with
      | none =>
          rw [callWithin_of_missing depth name args s hfound]
          exact ⟨hs, hG.tolerates.fault _⟩
      | some op =>
          rw [callWithin_of_operation depth name args s op hfound]
          have hop := hG.permits k s.host name op hs.host hfound
          exact invoke_keeps hG.tolerates k (callWithin depth) ih op hop args hargs s hs

end

end FieldSchema
