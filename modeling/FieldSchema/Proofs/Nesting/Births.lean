import FieldSchema.Proofs.Nesting.Asking
import FieldSchema.Proofs.Value.Built

/-!
# Nested Hosts and Their Blocks

Every nested host that a run makes, as it is when its block is given it.

A nested host is made in one place only, while an accessor decides about a
block. It is there before the block runs and stays if the block fails, and it
need never be stored anywhere: the block may run into a fault, or the checks
may reject what it has made. So the hosts that are stored after a run say
little about the hosts that the run has made. A register lists them all, each
with the nested schema that was asked for it and the definition that it was
made with.

What a block does can make nested hosts again, on the nested host, and so can
callbacks and custom operations. A register is therefore put together in the
same way as the run. Nothing is evaluated in another way for it: where the next
step begins, and whether there is one, is what the step before has come to.

When a block runs on a nested host is written down here once more, apart from
the accessors. So it is shown that this is the same condition: if it is met,
the decision begins with making the host, and if not, then no code is run by
the decision at all.

## Main definitions

* `Birth`: A nested host as its block is given it.
* `Register`: The nested hosts that an action makes, from each scene.
* `Operation.builds?`: The nested schema and the block with which a call makes a host.
* `callBirths`, `codeBirths`: The nested hosts that calls make, and code that runs on a host.

## Theorems

* `evaluate_of_birth`: What a block makes begins as the first host in the register.
* `schema_of_builds`, `block_of_builds`: The nested schema is that of the field that was called, and
  the block that of the call.
* `plan_of_builds`, `plan_of_not_builds`: A decision makes a nested host, or runs no code.
* `born_of_plan`: A nested host that is written has begun as one in the register.
-/

namespace FieldSchema

/-- A nested host as its block is given it: the nested schema that was asked for it, and the
    definition that it was made with. -/
structure Birth where
  schema : SubSchema
  definition : Definition

/-- The host. -/
def Birth.host (b : Birth) : Host := b.definition.instantiate

/-- The nested hosts that an action makes, in order, from each scene. -/
abbrev Register := Scene → List Birth

namespace Register

/-- None are made. -/
def quiet : Register := fun _ => []

/-- Those of an action, and if it comes to a value those of what follows. -/
def andThen {α : Type} (act : Run α) (own : Register) (next : α → Register) : Register := fun s =>
  own s ++
    match act s with
    | .ok a t => next a t
    | .error _ _ => []

end Register

mutual

/-- The nested hosts that evaluating an expression makes, given those of calls and of the block. -/
def Expr.births (c : Context) (calls : String → Args → Register) (inBlock : Register) :
    Expr → Register
  | .literal _ => .quiet
  | .argument _ => .quiet
  | .arguments => .quiet
  | .fail _ => .quiet
  | .log _ => .quiet
  | .call operation arguments splat captures block =>
      .andThen (evalAll c arguments) (birthsOfAll c calls inBlock arguments) fun values =>
        .andThen (evalAll c captures) (birthsOfAll c calls inBlock captures) fun captured =>
          calls operation
            ⟨if splat then values ++ c.values else values, block.map (Block.mk · captured)⟩
  | .sequence steps => birthsOfAll c calls inBlock steps
  | .attempt body => body.births c calls inBlock
  | .choose condition consequent alternative =>
      .andThen (condition.eval c) (condition.births c calls inBlock) fun v =>
        if v.isTruthy then consequent.births c calls inBlock
        else alternative.births c calls inBlock
  | .stored _ => .quiet
  | .typeName e => e.births c calls inBlock
  | .shown e => e.births c calls inBlock
  | .render => .quiet
  | .self => .quiet
  | .responds _ => .quiet
  | .define _ _ _ => .quiet
  | .attach _ => .quiet
  | .hasBlock => .quiet
  | .runBlock => inBlock
  | .compute _ inputs => birthsOfAll c calls inBlock inputs
termination_by structural e => e

/-- The nested hosts that evaluating expressions in order makes. -/
def birthsOfAll (c : Context) (calls : String → Args → Register) (inBlock : Register) :
    List Expr → Register
  | [] => .quiet
  | e :: rest =>
      .andThen (e.eval c) (e.births c calls inBlock) fun _ => birthsOfAll c calls inBlock rest
termination_by structural es => es

end

/-- The nested hosts that a block makes, on whatever host it runs. -/
def blockBirths (dispatch : Dispatch) (calls : String → Args → Register) (block : Block) :
    Register :=
  birthsOfAll ⟨dispatch, block.captured, none⟩ calls .quiet block.steps

/-- The host that a nested schema makes for a block, and those that the block makes on it. -/
def SubSchema.births (dispatch : Dispatch) (calls : String → Args → Register) (sub : SubSchema)
    (block : Block) : Register := fun s =>
  match sub.definition s.world with
  | .ok d w => ⟨sub, d⟩ :: blockBirths dispatch calls block ⟨d.instantiate, w⟩
  | .error _ _ => []

/-- The nested schema and the block with which a call makes a host. An item may have a value beside
    its block, and an entry one that counts as false beside its key. -/
def Operation.builds? : Operation → Args → Option (SubSchema × Block)
  | .arrayItem spec, ⟨values, some block⟩ =>
      match spec.kind, values with
      | .array _ _ (some sub) _, [] => some (sub, block)
      | .array _ _ (some sub) _, [_] => some (sub, block)
      | _, _ => none
  | .hashEntry spec, ⟨values, some block⟩ =>
      match spec.kind, values with
      | .hash _ _ _ (some sub), [_] => some (sub, block)
      | .hash _ _ _ (some sub), [_, v] => if v.isTruthy then none else some (sub, block)
      | _, _ => none
  | _, _ => none

/-- The nested hosts that are made while a call is decided. -/
def Operation.planBirths (dispatch : Dispatch) (calls : String → Args → Register)
    (op : Operation) (args : Args) : Register :=
  match op.builds? args with
  | some (sub, block) => sub.births dispatch calls block
  | none => .quiet

/-- The nested hosts that the callback of a field makes. -/
def FieldSpec.callbackBirths (spec : FieldSpec) (dispatch : Dispatch)
    (calls : String → Args → Register) (values : List Value) : Register :=
  match spec.callback with
  | some callback => callback.births ⟨dispatch, values, none⟩ calls .quiet
  | none => .quiet

/-- The nested hosts that are made once a call is decided: those of the callback after a write. -/
def FieldSpec.writeBirths (spec : FieldSpec) (dispatch : Dispatch)
    (calls : String → Args → Register) : Option Write → Register
  | none => .quiet
  | some write => fun s =>
      spec.callbackBirths dispatch calls (spec.handed write) ⟨spec.put write s.host, s.world⟩

/-- The nested hosts that an operation makes. -/
def Operation.births (dispatch : Dispatch) (calls : String → Args → Register) (op : Operation)
    (args : Args) : Register :=
  match op with
  | .custom name trace body =>
      .andThen (if trace then Run.note (.called name args) else pure ()) .quiet fun _ =>
        body.births ⟨dispatch, args.values, args.block.map (runSteps dispatch)⟩ calls
          ((args.block.map (blockBirths dispatch calls)).getD .quiet)
  | op =>
      match op.spec? with
      | some spec =>
          .andThen (op.plan dispatch args) (op.planBirths dispatch calls args)
            (spec.writeBirths dispatch calls)
      | none => .quiet

/-- The nested hosts that a call makes, with calls nested at most so deep. -/
def callBirths : Nat → String → Args → Register
  | 0, _, _ => .quiet
  | depth + 1, name, args => fun s =>
      match s.host.operation? name with
      | none => []
      | some op => op.births (callWithin depth) (callBirths depth) args s

/-- The nested hosts that an expression makes which is run on a host with the arguments. -/
def codeBirths (depth : Nat) (values : List Value) (e : Expr) : Register :=
  e.births ⟨callWithin depth, values, none⟩ (callBirths depth) .quiet

section

variable (dispatch : Dispatch) (calls : String → Args → Register)

/-- If a nested schema has its definition, then what a block makes of it is a host that the register
    has in the first place, after the block has run on it. -/
theorem evaluate_of_birth (sub : SubSchema) (block : Block) (s : Scene) (d : Definition)
    (w : World) (hd : sub.definition s.world = .ok d w) :
    sub.births dispatch calls block s =
        ⟨sub, d⟩ :: blockBirths dispatch calls block ⟨d.instantiate, w⟩ ∧
      sub.evaluate dispatch block s =
        Run.onHost (Birth.host ⟨sub, d⟩) (runSteps dispatch block) ⟨s.host, w⟩ := by
  constructor
  · unfold SubSchema.births
    rw [hd]
  · rw [evaluate_eq, hd]
    rfl

/-- If it has none, no host is made and the block does not run. -/
theorem evaluate_of_unborn (sub : SubSchema) (block : Block) (s : Scene) (fault : Fault)
    (w : World) (hd : sub.definition s.world = .error fault w) :
    sub.births dispatch calls block s = [] ∧
      sub.evaluate dispatch block s = .error (.fault fault) ⟨s.host, w⟩ := by
  constructor
  · unfold SubSchema.births
    rw [hd]
  · rw [evaluate_eq, hd]

end

/-- What an item is decided to be is in the write, if it passes. -/
theorem planAppend_adds (singular : String) (item : Option Constraint) (v : Value) (s : Scene) :
    Ends (fun plan _ => ∃ write, plan = some write ∧ v ∈ write.added) (fun _ _ => True)
      (planAppend singular item v s) := by
  unfold planAppend
  refine ends_bind _ _ s (ends_any _) fun _ _ _ => ?_
  exact ⟨.append v, rfl, List.mem_singleton.mpr rfl⟩

/-- So is the value of an entry. -/
theorem planEnter_adds (singular : String) (key value : Option Constraint) (k v : Value)
    (s : Scene) :
    Ends (fun plan _ => ∃ write, plan = some write ∧ v ∈ write.added) (fun _ _ => True)
      (planEnter singular key value k v s) := by
  unfold planEnter
  refine ends_bind _ _ s (ends_any _) fun _ t _ => ends_bind _ _ t (ends_any _) fun _ _ _ => ?_
  exact ⟨.enter k v, rfl, List.mem_cons_of_mem _ (List.mem_singleton.mpr rfl)⟩

/-- The operation, called with the arguments, runs the block on a host of the nested schema. -/
inductive Operation.Builds (sub : SubSchema) (block : Block) : Operation → Args → Prop
  | item (spec : FieldSpec) (singular : String) (item : Option Constraint)
      (itemCallback : ItemCallback)
      (hkind : spec.kind = .array singular item (some sub) itemCallback) :
      Builds sub block (.arrayItem spec) ⟨[], some block⟩
  | itemBeside (spec : FieldSpec) (singular : String) (item : Option Constraint)
      (itemCallback : ItemCallback)
      (hkind : spec.kind = .array singular item (some sub) itemCallback) (v : Value) :
      Builds sub block (.arrayItem spec) ⟨[v], some block⟩
  | entry (spec : FieldSpec) (singular : String) (key value : Option Constraint)
      (hkind : spec.kind = .hash singular key value (some sub)) (k : Value) :
      Builds sub block (.hashEntry spec) ⟨[k], some block⟩
  | entryBeside (spec : FieldSpec) (singular : String) (key value : Option Constraint)
      (hkind : spec.kind = .hash singular key value (some sub)) (k v : Value)
      (hv : v.isTruthy = false) : Builds sub block (.hashEntry spec) ⟨[k, v], some block⟩

section

variable (op : Operation) (args : Args) (sub : SubSchema) (block : Block)

theorem builds_of_eq (h : op.builds? args = some (sub, block)) : op.Builds sub block args := by
  obtain ⟨values, given⟩ := args
  cases given with
  | none => cases op <;> exact nomatch h
  | some own =>
      -- Only the two accessors that add one thing run a block, with the values that they allow
      -- beside it.
      cases op with
      | arrayItem spec =>
          simp only [Operation.builds?] at h
          split at h
          · rename_i hkind
            obtain ⟨rfl, rfl⟩ := Prod.mk.inj (Option.some.inj h)
            exact .item spec _ _ _ hkind
          · rename_i hkind
            obtain ⟨rfl, rfl⟩ := Prod.mk.inj (Option.some.inj h)
            exact .itemBeside spec _ _ _ hkind _
          · exact nomatch h
      | hashEntry spec =>
          simp only [Operation.builds?] at h
          split at h
          · rename_i hkind
            obtain ⟨rfl, rfl⟩ := Prod.mk.inj (Option.some.inj h)
            exact .entry spec _ _ _ hkind _
          · rename_i k v hkind
            split at h
            · exact nomatch h
            · rename_i hv
              obtain ⟨rfl, rfl⟩ := Prod.mk.inj (Option.some.inj h)
              exact .entryBeside spec _ _ _ hkind k v (Bool.eq_false_iff.mpr hv)
          · exact nomatch h
      | _ => exact nomatch h

/-- The nested schema is the one of the field that the operation was made for. -/
theorem schema_of_builds (h : op.Builds sub block args) :
    ∃ spec, op.spec? = some spec ∧ spec.kind.schema? = some sub := by
  cases h with
  | item spec singular item itemCallback hkind =>
      exact ⟨spec, rfl, by rw [hkind, FieldKind.schema?]⟩
  | itemBeside spec singular item itemCallback hkind v =>
      exact ⟨spec, rfl, by rw [hkind, FieldKind.schema?]⟩
  | entry spec singular key value hkind k =>
      exact ⟨spec, rfl, by rw [hkind, FieldKind.schema?]⟩
  | entryBeside spec singular key value hkind k v hv =>
      exact ⟨spec, rfl, by rw [hkind, FieldKind.schema?]⟩

/-- The block is the one of the call. -/
theorem block_of_builds (h : op.Builds sub block args) : args.block = some block := by
  cases h <;> rfl

/-- Making a host comes first in the decision about a block, and after it there are only checks: if
    they let the host pass, it is in the write. -/
theorem plan_of_builds (h : op.Builds sub block args) :
    ∃ check : Host → Run (Option Write),
      (∀ dispatch, op.plan dispatch args = sub.evaluate dispatch block >>= check) ∧
        ∀ child s, Ends (fun plan _ => ∃ write, plan = some write ∧ .nested child ∈ write.added)
          (fun _ _ => True) (check child s) := by
  cases h with
  | item spec singular item itemCallback hkind =>
      refine ⟨fun h => planAppend singular item (.nested h), fun dispatch => ?_, fun child s =>
        planAppend_adds singular item (.nested child) s⟩
      simp only [Operation.plan, hkind, planItem, buildNested, bind_assoc, pure_bind]
  -- The value beside the block is not looked at.
  | itemBeside spec singular item itemCallback hkind v =>
      refine ⟨fun h => planAppend singular item (.nested h), fun dispatch => ?_, fun child s =>
        planAppend_adds singular item (.nested child) s⟩
      simp only [Operation.plan, hkind, planItem, buildNested, bind_assoc, pure_bind]
  | entry spec singular key value hkind k =>
      refine ⟨fun h => planEnter singular key none k (.nested h), fun dispatch => ?_, fun child s =>
        planEnter_adds singular key none k (.nested child) s⟩
      simp only [Operation.plan, hkind, planEntry, buildNested, bind_assoc, pure_bind]
  -- The value beside the block counts as false, so it is not in the way.
  | entryBeside spec singular key value hkind k v hv =>
      refine ⟨fun h => planEnter singular key none k (.nested h), fun dispatch => ?_, fun child s =>
        planEnter_adds singular key none k (.nested child) s⟩
      simp only [Operation.plan, hkind, planEntry, hv, Bool.false_eq_true, if_false, buildNested,
        bind_assoc, pure_bind]

/-- A host that is written when a block was run has begun as the first one in the register, and is
    this as the block has left it. -/
theorem born_of_plan (h : op.builds? args = some (sub, block)) (dispatch : Dispatch)
    (calls : String → Args → Register) (s t : Scene) (plan : Option Write)
    (hplan : op.plan dispatch args s = .ok plan t) :
    ∃ d w rest u inner write, op.planBirths dispatch calls args s = ⟨sub, d⟩ :: rest ∧
      runSteps dispatch block ⟨Birth.host ⟨sub, d⟩, w⟩ = .ok u inner ∧
        plan = some write ∧ .nested inner.host ∈ write.added := by
  obtain ⟨check, heq, hcheck⟩ := plan_of_builds op args sub block (builds_of_eq op args sub block h)
  -- A decision was reached, so neither the definition nor the block has failed.
  rw [heq] at hplan
  unfold Operation.planBirths
  rw [h]
  simp only []
  cases hd : sub.definition s.world with
  | error fault w =>
      rw [bind_of_error _ _ s _ _ (evaluate_of_unborn dispatch calls sub block s fault w hd).2]
        at hplan
      exact nomatch hplan
  | ok d w =>
      obtain ⟨hbirths, hevaluate⟩ := evaluate_of_birth dispatch calls sub block s d w hd
      unfold Run.onHost at hevaluate
      cases hrun : runSteps dispatch block ⟨Birth.host ⟨sub, d⟩, w⟩ with
      | error halt inner =>
          rw [hrun] at hevaluate
          rw [bind_of_error _ _ s _ _ hevaluate] at hplan
          exact nomatch hplan
      | ok u inner =>
          rw [hrun] at hevaluate
          rw [bind_of_ok _ _ s _ _ hevaluate] at hplan
          obtain ⟨write, hwrite, hadded⟩ := ends_value _ plan t (hcheck inner.host _) hplan
          exact ⟨d, w, _, u, inner, write, hbirths, hrun, hwrite, hadded⟩

/-- In all other cases the decision runs no code: it is the same whatever calls would do. -/
theorem plan_of_not_builds (h : op.builds? args = none) (dispatch dispatch' : Dispatch) :
    op.plan dispatch args = op.plan dispatch' args := by
  obtain ⟨values, given⟩ := args
  cases op with
  | arrayItem spec =>
      simp only [Operation.plan]
      cases hkind : spec.kind with
      | array singular item schema itemCallback =>
          rcases values with _ | ⟨v, _ | ⟨w, more⟩⟩
          · rcases given with _ | block
            · rfl
            · -- Without a nested schema the block is refused unrun.
              cases schema with
              | none => rfl
              | some sub => simp only [Operation.builds?, hkind, reduceCtorEq] at h
          · rcases given with _ | block
            · rfl
            · cases schema with
              | none => rfl
              | some sub => simp only [Operation.builds?, hkind, reduceCtorEq] at h
          · rfl
      | scalar constraint => rfl
      | hash singular key value schema => rfl
  | hashEntry spec =>
      simp only [Operation.plan]
      cases hkind : spec.kind with
      | hash singular key value schema =>
          rcases values with _ | ⟨k, _ | ⟨v, _ | ⟨w, more⟩⟩⟩
          · rfl
          · rcases given with _ | block
            · rfl
            · cases schema with
              | none => rfl
              | some sub => simp only [Operation.builds?, hkind, reduceCtorEq] at h
          · rcases given with _ | block
            · rfl
            · cases schema with
              | none => rfl
              | some sub =>
                  cases hv : v.isTruthy with
                  | true => simp only [planEntry, hv, if_true]
                  | false =>
                      simp only [Operation.builds?, hkind, hv, Bool.false_eq_true, if_false,
                        reduceCtorEq] at h
          · rfl
      | scalar constraint => rfl
      | array singular item schema itemCallback => rfl
  | _ => rfl

end

end FieldSchema
