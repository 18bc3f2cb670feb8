import FieldSchema.Proofs.Accessor.Decision
import FieldSchema.Proofs.Schema.InStep

/-!
# All or Nothing

A call of an accessor reads, or is rejected, or writes once.

A call that is rejected must not have touched the host, and a call whose
callback fails must have written all the same. Both end in a fault, so the
result of a call alone does not tell them apart. What does is the callback. A
call that has been rejected ends as it does whatever callback the field has,
because it never gets there; a call that has written ends as the callback
does, whichever that is. So the three endings of a call are stated of all
calls that differ in the callback of the field alone. Stated like this they
exclude each other: without a callback a call that writes succeeds, and with
one that fails it does not.

That a call ends as its callback does is said with the callback itself. What
the call comes to, whatever code the callback is, is the value and the scene
that this code comes to when it is evaluated once, with the arguments that the
write hands to it and on the host as written.

## Main definitions

* `FieldSpec.withCallback`, `Operation.withCallback`: A field with another callback.
* `Ending`: The three endings of a call.
* `Ending.Describes`: The call ends so, whatever callback the field has.

## Theorems

* `plan_withCallback`: What a call comes to is decided without the callback.
* `describes_exists`: A call has one of the three endings.
* `describes_unique`: It has not two of them.
* `call_allOrNothing`: So it is with every accessor that a schema made.
-/

namespace FieldSchema

namespace FieldSpec

/-- The field with another callback. -/
def withCallback (spec : FieldSpec) (callback : Option Expr) : FieldSpec :=
  { spec with callback := callback }

end FieldSpec

namespace Operation

/-- The accessor of the field with another callback. -/
def withCallback (callback : Option Expr) : Operation → Operation
  | .scalar spec => .scalar (spec.withCallback callback)
  | .arrayPlural spec => .arrayPlural (spec.withCallback callback)
  | .arrayItem spec => .arrayItem (spec.withCallback callback)
  | .hashPlural spec => .hashPlural (spec.withCallback callback)
  | .hashEntry spec => .hashEntry (spec.withCallback callback)
  | .inspect => .inspect
  | .custom name trace body => .custom name trace body

end Operation

/-- What a call of an accessor comes to is decided without the callback. -/
theorem plan_withCallback (op : Operation) (callback : Option Expr) (dispatch : Dispatch)
    (args : Args) : (op.withCallback callback).plan dispatch args = op.plan dispatch args := by
  cases op <;> rfl

theorem spec?_withCallback (op : Operation) (spec : FieldSpec) (callback : Option Expr)
    (h : op.spec? = some spec) :
    (op.withCallback callback).spec? = some (spec.withCallback callback) := by
  cases op with
  | inspect => exact nomatch h
  | custom name trace body => exact nomatch h
  | _ own =>
      obtain rfl : own = spec := Option.some.inj h
      rfl

theorem withCallback_self (op : Operation) (spec : FieldSpec) (h : op.spec? = some spec) :
    op.withCallback spec.callback = op := by
  cases op with
  | inspect => rfl
  | custom name trace body => rfl
  | _ own =>
      obtain rfl : own = spec := Option.some.inj h
      obtain ⟨name, kind, validation, callback⟩ := own
      rfl

/-- The ways in which a call of an accessor can end. -/
inductive Ending where
  | read
  | rejected
  | committed
deriving DecidableEq

/-- The call of the field's accessor ends so, whatever callback the field has. -/
def Ending.Describes (spec : FieldSpec) (op : Operation) (dispatch : Dispatch) (args : Args)
    (s : Scene) : Ending → Prop
  /- There is no input; it yields the value in the slot, and nothing has changed. -/
  | .read => args = .none ∧ ∀ callback,
      (op.withCallback callback).invoke dispatch args s = .ok (s.host.stored spec.name) s
  /- It ends in a fault, or is cut off in the block, and the host has not changed. -/
  | .rejected => ∃ halt w, ((∃ fault, halt = .fault fault) ∨ args.block.isSome = true) ∧
      ∀ callback, (op.withCallback callback).invoke dispatch args s = .error halt ⟨s.host, w⟩
  /- What the input asks for has been written, to one slot. Without a callback the call then ends
     in nil; with one the call is nothing but this code, evaluated on the host as written. -/
  | .committed => ∃ write updated w, op.Asks dispatch s args write ∧
      spec.Written write s.host updated ∧
      (op.withCallback none).invoke dispatch args s = .ok .nil ⟨updated, w⟩ ∧
      ∀ callback, (op.withCallback (some callback)).invoke dispatch args s =
        callback.eval ⟨dispatch, spec.handed write, none⟩ ⟨updated, w⟩

/-- The result is a value. -/
def succeeds {ε σ α : Type} : EStateM.Result ε σ α → Bool
  | .ok _ _ => true
  | .error _ _ => false

/-- A callback that fails at once. -/
def failure : Expr := .fail "callback"

section

variable (spec : FieldSpec) (op : Operation) (dispatch : Dispatch) (args : Args) (s : Scene)

/-- While a call is planned the host stays, and the only cut is in the block. -/
theorem plan_leavesHost (hop : spec.Accessor op) :
    Stays (fun _ => True) (fun halt => (∃ fault, halt = .fault fault) ∨ args.block.isSome = true)
      (op.Settles dispatch args s) (op.plan dispatch args) s := by
  refine plan_stays (fun _ _ h => h) (fun fault => Or.inl ⟨fault, rfl⟩) spec op hop dispatch args
    s trivial ?_
  intro sub block _ hblock
  have hsome : args.block.isSome = true := by rw [hblock, Option.isSome_some]
  have hstays : Stays (fun _ => True)
      (fun halt => (∃ fault, halt = .fault fault) ∨ args.block.isSome = true)
      (fun _ _ => ∃ d : Definition, True ∧ True) (sub.evaluate dispatch block) s := by
    -- The definition may be at fault, and the block may end in any way, both beside the host at
    -- hand.
    refine evaluate_stays sub dispatch block s ?_ fun d w _ _ => ?_
    · cases sub.definition s.world with
      | ok d w => exact ⟨trivial, trivial⟩
      | error fault w => exact ⟨trivial, Or.inl ⟨fault, rfl⟩⟩
    · cases runSteps dispatch block ⟨d.instantiate, w⟩ with
      | ok _ t => exact ⟨trivial, trivial⟩
      | error halt t => exact ⟨trivial, Or.inr hsome⟩
  exact ends_mono _ hstays (fun _ _ h => ⟨h.1, h.2.1, trivial⟩) fun _ _ h => h

/-- A call has one of the three endings. -/
theorem describes_exists (hop : spec.Accessor op) :
    ∃ ending : Ending, ending.Describes spec op dispatch args s := by
  have hspec := accessor_spec? spec op hop
  have hinvoke : ∀ callback, (op.withCallback callback).invoke dispatch args s =
      (op.plan dispatch args >>= (spec.withCallback callback).carryOut dispatch) s := by
    intro callback
    rw [invoke_eq _ _ (spec?_withCallback op spec callback hspec), plan_withCallback]
  have hplan := plan_leavesHost spec op dispatch args s hop
  unfold Stays at hplan
  -- The plan is the same for all callbacks, so one case analysis serves them all.
  cases hresult : op.plan dispatch args s with
  | error halt t =>
      rw [hresult] at hplan
      refine ⟨.rejected, halt, t.world, hplan.2.2, fun callback => ?_⟩
      rw [hinvoke, bind_of_error _ _ s t halt hresult, ← hplan.1]
  | ok plan t =>
      rw [hresult] at hplan
      obtain ⟨hhost, -, hsettled⟩ := hplan
      cases plan with
      | none =>
          obtain ⟨hargs, rfl⟩ := hsettled
          refine ⟨.read, hargs, fun callback => ?_⟩
          rw [hinvoke, bind_of_ok _ _ t t none hresult]
          rfl
      | some write =>
          -- Writing is the same for all callbacks too; they differ in what runs after it.
          have hcarried : ∀ callback, (op.withCallback callback).invoke dispatch args s =
              (spec.withCallback callback).runCallback dispatch (spec.handed write)
                ⟨spec.put write s.host, t.world⟩ := by
            intro callback
            rw [hinvoke, bind_of_ok _ _ s t (some write) hresult, ← hhost]
            rfl
          exact ⟨.committed, write, spec.put write s.host, t.world, hsettled.1,
            spec.put_written write s.host, hcarried none,
            fun callback => hcarried (some callback)⟩

/-- Whether the call succeeds without a callback, and whether it does with one that fails. -/
theorem describes_verdicts (ending : Ending) (h : ending.Describes spec op dispatch args s) :
    succeeds ((op.withCallback none).invoke dispatch args s) = (ending != .rejected) ∧
      succeeds ((op.withCallback (some failure)).invoke dispatch args s) = (ending == .read) := by
  cases ending with
  | read =>
      rw [h.2 none, h.2 (some failure)]
      exact ⟨rfl, rfl⟩
  | rejected =>
      obtain ⟨halt, w, -, hresult⟩ := h
      rw [hresult none, hresult (some failure)]
      exact ⟨rfl, rfl⟩
  | committed =>
      obtain ⟨write, updated, w, -, -, hnone, hsome⟩ := h
      rw [hnone, hsome failure]
      exact ⟨rfl, rfl⟩

/-- A call has not two of the endings. -/
theorem describes_unique (first second : Ending)
    (hfirst : first.Describes spec op dispatch args s)
    (hsecond : second.Describes spec op dispatch args s) : first = second := by
  have hf := describes_verdicts spec op dispatch args s first hfirst
  have hs := describes_verdicts spec op dispatch args s second hsecond
  have hrejected := hf.1.symm.trans hs.1
  have hread := hf.2.symm.trans hs.2
  -- The two verdicts tell the three endings apart.
  revert hrejected hread
  cases first <;> cases second <;> decide

end

/-- A call of an accessor that a schema made, on any host on which the accessor is installed, ends
    in exactly one of the three ways. -/
theorem call_allOrNothing (inflector : Inflector) (options : Options) (script : Script)
    (w : World) (name : String) (op : Operation)
    (hop : (name, op) ∈ (World.defineUpToFault inflector options script w).1.operations)
    (s : Scene) (hinstalled : s.host.operation? name = some op) (depth : Nat) (args : Args) :
    ∃ spec ∈ (World.defineUpToFault inflector options script w).1.fields, spec.Accessor op ∧
      callWithin (depth + 1) name args s =
        (op.withCallback spec.callback).invoke (callWithin depth) args s ∧
      ∃! ending : Ending, ending.Describes spec op (callWithin depth) args s := by
  -- The table holds the operations of the listed fields, so the accessor is one of a field.
  have htabulates := World.defineUpToFault_tabulates inflector options script w
  obtain ⟨spec, hspec, hmem⟩ := List.mem_flatMap.mp (htabulates.perm.mem_iff.mp hop)
  have haccessor := spec.accessor_of_mem name op hmem
  refine ⟨spec, hspec, haccessor, ?_, ?_⟩
  · rw [withCallback_self op spec (accessor_spec? spec op haccessor)]
    exact callWithin_of_operation depth name args s op hinstalled
  · obtain ⟨ending, hending⟩ :=
      describes_exists spec op (callWithin depth) args s haccessor
    exact ⟨ending, hending, fun other hother =>
      describes_unique spec op (callWithin depth) args s other ending hother hending⟩

/-- A list of posts whose callback always fails. -/
def failingPosts : Script := [.array "posts" none none (some failure)]

/-- The accessor for one post. -/
def failingPost : Operation :=
  .arrayItem ⟨"posts", .array "post" none none .wrapped, none, some failure⟩

theorem call_allOrNothing_post :
    let d := (World.defineUpToFault (.ofSuffix "s") {} failingPosts .empty).1
    let s : Scene := ⟨d.instantiate, .empty⟩
    ("post", failingPost) ∈ d.operations ∧ s.host.operation? "post" = some failingPost ∧
      ∃ spec ∈ d.fields, spec.Accessor failingPost ∧
        callWithin 1 "post" (.ofValues [.nil]) s =
          (failingPost.withCallback spec.callback).invoke (callWithin 0) (.ofValues [.nil]) s ∧
        ∃! ending : Ending,
          ending.Describes spec failingPost (callWithin 0) (.ofValues [.nil]) s := by
  have hop : ("post", failingPost) ∈
      (World.defineUpToFault (.ofSuffix "s") {} failingPosts .empty).1.operations :=
    List.mem_cons_self
  exact ⟨hop, rfl, call_allOrNothing (.ofSuffix "s") {} failingPosts .empty "post" failingPost hop
    _ rfl 0 (.ofValues [.nil])⟩

end FieldSchema
