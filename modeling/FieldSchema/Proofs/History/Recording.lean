import FieldSchema.Proofs.History.Changes

/-!
# Recording Calls

The changes that a call makes, read off its code.

The journal of an expression is put together as the expression is evaluated,
and so is that of a call: the write comes first, and after it whatever the
callback does, which may be any number of calls and further writes. A call
that is rejected has made no change, and neither has one that reads. What a
block does to the nested host that it runs on is no change of the host at hand
at all; only when that host is finished does it arrive in a write, as a value.

No expression is evaluated a second time in another way here. A journal asks
the evaluation itself in which scene the next step begins, and whether there
is a next step. That the journal leaves nothing out is the theorem: from the
host before the call, the recorded changes lead to the host after it.

## Main definitions

* `Expr.changes`: The changes that evaluating an expression makes.
* `Operation.changes`: The changes that an operation makes.
* `callChanges`: The changes that a call makes, with calls nested so deep.
* `codeChanges`: The changes that code makes that runs on a host.

## Theorems

* `eval_records`: The journal of an expression is complete if those of the calls are.
* `callWithin_records`: The journal of a call is complete.
* `callChanges_of_write`: A call's own write comes before all that its callback does.
* `callChanges_of_rejected`: A rejected call changes nothing.
-/

namespace FieldSchema

mutual

/-- The changes that evaluating an expression makes, given those of calls and of the block. -/
def Expr.changes (c : Context) (calls : String → Args → Journal) (inBlock : Journal) :
    Expr → Journal
  | .literal _ => .quiet
  | .argument _ => .quiet
  | .arguments => .quiet
  | .fail _ => .quiet
  | .log _ => .quiet
  | .call operation arguments splat captures block =>
      .andThen (evalAll c arguments) (changesOfAll c calls inBlock arguments) fun values =>
        .andThen (evalAll c captures) (changesOfAll c calls inBlock captures) fun captured =>
          calls operation
            ⟨if splat then values ++ c.values else values, block.map (Block.mk · captured)⟩
  | .sequence steps => changesOfAll c calls inBlock steps
  | .attempt body => body.changes c calls inBlock
  | .choose condition consequent alternative =>
      .andThen (condition.eval c) (condition.changes c calls inBlock) fun v =>
        if v.isTruthy then consequent.changes c calls inBlock
        else alternative.changes c calls inBlock
  | .stored _ => .quiet
  | .typeName e => e.changes c calls inBlock
  | .shown e => e.changes c calls inBlock
  | .render => .quiet
  | .self => .quiet
  | .responds _ => .quiet
  | .define name trace body => fun _ => [.defined name name trace body]
  | .attach definition => fun s =>
      match NameMap.get? s.world.definitions definition with
      | some d => [.attached d d.inspectable]
      | none => []
  | .hasBlock => .quiet
  | .runBlock => inBlock
  | .compute _ inputs => changesOfAll c calls inBlock inputs
termination_by structural e => e

/-- The changes that evaluating expressions in order makes. -/
def changesOfAll (c : Context) (calls : String → Args → Journal) (inBlock : Journal) :
    List Expr → Journal
  | [] => .quiet
  | e :: rest =>
      .andThen (e.eval c) (e.changes c calls inBlock) fun _ => changesOfAll c calls inBlock rest
termination_by structural es => es

end

/-- The changes that a block makes, or none without one. -/
def blockChanges (dispatch : Dispatch) (calls : String → Args → Journal) :
    Option Block → Journal
  | some block => changesOfAll ⟨dispatch, block.captured, none⟩ calls .quiet block.steps
  | none => .quiet

/-- The changes that the callback of a field makes. -/
def FieldSpec.callbackChanges (spec : FieldSpec) (dispatch : Dispatch)
    (calls : String → Args → Journal) (values : List Value) : Journal :=
  match spec.callback with
  | some callback => callback.changes ⟨dispatch, values, none⟩ calls .quiet
  | none => .quiet

/-- The changes that are left to make when a call is decided: the write, and those of the
    callback. -/
def FieldSpec.writeChanges (spec : FieldSpec) (dispatch : Dispatch)
    (calls : String → Args → Journal) (args : Args) : Option Write → Journal
  | none => .quiet
  | some write => fun s =>
      .wrote spec args write ::
        spec.callbackChanges dispatch calls (spec.handed write) ⟨spec.put write s.host, s.world⟩

/-- The changes that an operation makes. -/
def Operation.changes (dispatch : Dispatch) (calls : String → Args → Journal) (op : Operation)
    (args : Args) : Journal :=
  match op with
  | .custom name trace body =>
      .andThen (if trace then Run.note (.called name args) else pure ()) .quiet fun _ =>
        body.changes ⟨dispatch, args.values, args.block.map (runSteps dispatch)⟩ calls
          (blockChanges dispatch calls args.block)
  | op =>
      match op.spec? with
      | some spec =>
          .andThen (op.plan dispatch args) .quiet (spec.writeChanges dispatch calls args)
      | none => .quiet

/-- The changes that a call makes, with calls nested at most so deep. -/
def callChanges : Nat → String → Args → Journal
  | 0, _, _ => .quiet
  | depth + 1, name, args => fun s =>
      match s.host.operation? name with
      | none => []
      | some op => op.changes (callWithin depth) (callChanges depth) args s

/-- The changes that an expression makes which is run on a host with the arguments. -/
def codeChanges (depth : Nat) (values : List Value) (e : Expr) : Journal :=
  e.changes ⟨callWithin depth, values, none⟩ (callChanges depth) .quiet

/-- The journals of all calls are complete. -/
def CallsRecord (dispatch : Dispatch) (calls : String → Args → Journal) : Prop :=
  ∀ name args, Records (dispatch name args) (calls name args)

/-- Attaching is one change, if there is a definition under the name. -/
theorem attach_records (c : Context) (calls : String → Args → Journal) (inBlock : Journal)
    (definition : String) :
    Records ((Expr.attach definition).eval c)
      ((Expr.attach definition).changes c calls inBlock) := by
  refine records_get _ _ fun s => ?_
  unfold Expr.changes
  cases NameMap.get? s.world.definitions definition with
  | none => exact .nil s.host
  | some d => exact leads_single (.attached d d.inspectable) s.host trivial

section

variable (c : Context) (calls : String → Args → Journal) (inBlock : Journal)

mutual

/-- The journal of an expression is complete if those of the calls and of the block are. -/
theorem eval_records (hcalls : CallsRecord c.dispatch calls)
    (hblock : Records (c.block.getD (pure ())) inBlock) (e : Expr) :
    Records (e.eval c) (e.changes c calls inBlock) := by
  -- The host changes in calls, by defining and attaching, and in the block; all else leaves it
  -- alone.
  match e with
  | .literal v => exact records_still _ fun _ => rfl
  | .argument i => exact records_pure _
  | .arguments => exact records_pure _
  | .fail reason => exact records_fail _
  | .log tag => exact records_still _ fun _ => rfl
  | .call operation arguments splat captures block =>
      rw [Expr.eval, Expr.changes]
      refine records_bind _ _ _ _ (evalAll_records hcalls hblock arguments) fun values => ?_
      refine records_bind _ _ _ _ (evalAll_records hcalls hblock captures) fun captured => ?_
      exact hcalls operation _
  | .sequence steps => exact evalLast_records hcalls hblock .nil steps
  | .attempt body => exact records_recover _ _ (eval_records hcalls hblock body)
  | .choose condition consequent alternative =>
      rw [Expr.eval, Expr.changes]
      refine records_bind _ _ _ _ (eval_records hcalls hblock condition) fun v => ?_
      split
      · exact eval_records hcalls hblock consequent
      · exact eval_records hcalls hblock alternative
  | .stored name => exact records_still _ fun _ => rfl
  | .typeName e => exact records_before _ _ _ (eval_records hcalls hblock e) fun _ _ => rfl
  | .shown e => exact records_before _ _ _ (eval_records hcalls hblock e) fun _ _ => rfl
  | .render => exact records_still _ fun _ => rfl
  | .self => exact records_still _ fun _ => rfl
  | .responds name => exact records_still _ fun _ => rfl
  | .define name trace body =>
      exact fun s => leads_single (.defined name name trace body) s.host trivial
  | .attach definition => exact attach_records c calls inBlock definition
  | .hasBlock => exact records_pure _
  | .runBlock =>
      rw [Expr.eval, Expr.changes]
      cases hown : c.block with
      | none =>
          rw [hown] at hblock
          exact fun s => hblock s
      | some block =>
          rw [hown] at hblock
          exact records_before _ _ _ hblock fun _ _ => rfl
  | .compute function inputs =>
      exact records_before _ _ _ (evalAll_records hcalls hblock inputs) fun _ _ => rfl

/-- The same of expressions that are evaluated in order. -/
theorem evalAll_records (hcalls : CallsRecord c.dispatch calls)
    (hblock : Records (c.block.getD (pure ())) inBlock) (es : List Expr) :
    Records (evalAll c es) (changesOfAll c calls inBlock es) := by
  match es with
  | [] => exact records_pure _
  | e :: rest =>
      rw [evalAll, changesOfAll]
      refine records_bind _ _ _ _ (eval_records hcalls hblock e) fun v => ?_
      exact records_before _ _ _ (evalAll_records hcalls hblock rest) fun _ _ => rfl

/-- The same if only the last value is wanted. -/
theorem evalLast_records (hcalls : CallsRecord c.dispatch calls)
    (hblock : Records (c.block.getD (pure ())) inBlock) (last : Value) (es : List Expr) :
    Records (evalLast c last es) (changesOfAll c calls inBlock es) := by
  match es with
  | [] => exact records_pure _
  | e :: rest =>
      rw [evalLast, changesOfAll]
      refine records_bind _ _ _ _ (eval_records hcalls hblock e) fun v => ?_
      exact evalLast_records hcalls hblock v rest

end

end

section

variable (dispatch : Dispatch) (calls : String → Args → Journal)
  (hcalls : CallsRecord dispatch calls)

include hcalls

theorem runSteps_records (block : Block) :
    Records (runSteps dispatch block) (blockChanges dispatch calls (some block)) := by
  unfold runSteps
  have hsteps := evalLast_records ⟨dispatch, block.captured, none⟩ calls .quiet hcalls
    (records_pure ()) .nil block.steps
  exact records_before _ _ _ hsteps fun _ _ => rfl

theorem runCallback_records (spec : FieldSpec) (values : List Value) :
    Records (spec.runCallback dispatch values) (spec.callbackChanges dispatch calls values) := by
  unfold FieldSpec.runCallback FieldSpec.callbackChanges
  cases spec.callback with
  | none => exact records_pure _
  | some callback =>
      exact eval_records ⟨dispatch, values, none⟩ calls .quiet hcalls (records_pure ()) callback

theorem invokeCustom_records (name : String) (trace : Bool) (body : Expr) (args : Args) :
    Records (invokeCustom dispatch name trace body args)
      ((Operation.custom name trace body).changes dispatch calls args) := by
  have hbody : Records
      (body.eval ⟨dispatch, args.values, args.block.map (runSteps dispatch)⟩)
      (body.changes ⟨dispatch, args.values, args.block.map (runSteps dispatch)⟩ calls
        (blockChanges dispatch calls args.block)) := by
    refine eval_records _ calls _ hcalls ?_ body
    cases args.block with
    | none => exact records_pure _
    | some block => exact runSteps_records dispatch calls hcalls block
  unfold invokeCustom
  cases trace with
  | true => exact records_bind _ _ _ _ (records_still _ fun _ => rfl) fun _ => hbody
  | false => exact records_bind _ _ _ _ (records_pure ()) fun _ => hbody

end

/-- What an accessor does is its write, if the plan is to write, and then what the callback does. -/
theorem accessor_records (op : Operation) (spec : FieldSpec) (hop : op.spec? = some spec)
    (depth : Nat) (hcalls : CallsRecord (callWithin depth) (callChanges depth)) (args : Args)
    (s : Scene) (name : String) (hname : s.host.operation? name = some op) :
    Leads s.host
      (Journal.andThen (op.plan (callWithin depth) args) .quiet
        (spec.writeChanges (callWithin depth) (callChanges depth) args) s)
      (finalState (op.invoke (callWithin depth) args s)).host := by
  have hplan := plan_settles (W := fun _ => True) (E := fun _ => True) (fun _ _ _ => trivial)
    (fun _ => trivial) trivial op spec hop (callWithin depth) args s trivial
    fun sub block => evaluate_beside sub (callWithin depth) block s
  unfold Stays at hplan
  rw [invoke_eq op spec hop]
  unfold Journal.andThen
  -- Deciding leaves the host alone, so the write is the first change and those of the callback
  -- follow.
  cases hresult : op.plan (callWithin depth) args s with
  | error halt t =>
      rw [hresult] at hplan
      rw [bind_of_error _ _ s t halt hresult]
      change Leads s.host [] t.host
      rw [hplan.1]
      exact .nil s.host
  | ok plan t =>
      rw [hresult] at hplan
      obtain ⟨hhost, -, hsettled⟩ := hplan
      rw [bind_of_ok _ _ s t plan hresult]
      cases plan with
      | none =>
          change Leads s.host [] t.host
          rw [hhost]
          exact .nil s.host
      | some write =>
          have hcallback := runCallback_records (callWithin depth) (callChanges depth) hcalls spec
            (spec.handed write) ⟨spec.put write t.host, t.world⟩
          simp only [← hhost] at hname
          rw [← hhost]
          refine .cons _ _ _ _ ⟨name, op, hname, hop, ⟨depth, s.world, ?_⟩, hsettled.2⟩ hcallback
          rw [hhost]
          exact hsettled.1

/-- The changes in the journal of a call lead to the host that the call leaves. -/
theorem callWithin_records (depth : Nat) : CallsRecord (callWithin depth) (callChanges depth) := by
  induction depth with
  | zero => exact fun _ _ => records_still _ fun _ => rfl
  | succ depth ih =>
      intro name args s
      unfold callChanges
      cases hfound : s.host.operation? name with
      | none =>
          rw [callWithin_of_missing depth name args s hfound]
          exact .nil s.host
      | some op =>
          rw [callWithin_of_operation depth name args s op hfound]
          -- The journal goes by the kind of the operation, accessors being all of one kind.
          cases op with
          | custom tag trace body =>
              exact invokeCustom_records (callWithin depth) (callChanges depth) ih tag trace body
                args s
          | inspect =>
              refine records_still (inspectHost args) (fun s => ?_) s
              unfold inspectHost
              split
              · rfl
              · split <;> rfl
          | _ spec => exact accessor_records _ spec rfl depth ih args s name hfound

/-- The same of code that is run on a host. -/
theorem evalWithin_records (depth : Nat) (values : List Value) (e : Expr) :
    Records (evalWithin depth values e) (codeChanges depth values e) :=
  eval_records ⟨callWithin depth, values, none⟩ (callChanges depth) .quiet
    (callWithin_records depth) (records_pure ()) e

/-- A call's own write comes before everything that its callback does. -/
theorem callChanges_of_write (depth : Nat) (name : String) (args : Args) (s t : Scene)
    (op : Operation) (hname : s.host.operation? name = some op) (spec : FieldSpec)
    (hop : op.spec? = some spec) (write : Write)
    (hplan : op.plan (callWithin depth) args s = .ok (some write) t) :
    callChanges (depth + 1) name args s =
      .wrote spec args write ::
        spec.callbackChanges (callWithin depth) (callChanges depth) (spec.handed write)
          ⟨spec.put write t.host, t.world⟩ := by
  unfold callChanges
  rw [hname]
  cases op with
  | inspect => exact nomatch hop
  | custom tag trace body => exact nomatch hop
  | _ own =>
      obtain rfl : own = spec := Option.some.inj hop
      simp only [Operation.changes, Operation.spec?, Journal.andThen, hplan]
      rfl

/-- A call that is rejected before its write changes nothing. -/
theorem callChanges_of_rejected (depth : Nat) (name : String) (args : Args) (s t : Scene)
    (op : Operation) (hname : s.host.operation? name = some op) (spec : FieldSpec)
    (hop : op.spec? = some spec) (halt : Halt)
    (hplan : op.plan (callWithin depth) args s = .error halt t) :
    callChanges (depth + 1) name args s = [] := by
  unfold callChanges
  rw [hname]
  cases op with
  | inspect => exact nomatch hop
  | custom tag trace body => exact nomatch hop
  | _ own =>
      obtain rfl : own = spec := Option.some.inj hop
      simp only [Operation.changes, Operation.spec?, Journal.andThen, hplan]
      rfl

end FieldSchema
