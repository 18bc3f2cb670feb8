import FieldSchema.Proofs.Accessor.Decision
import FieldSchema.Proofs.Sharing.Confined
import FieldSchema.Proofs.Value.Heritable

/-!
# Values Made by Code

Code makes values of the values that it is given, and of nothing else.

What code can get hold of is its arguments, what its host stores, and the hosts
that its literals name. Of these it makes other values, hands them to
operations and writes them to hosts. A condition that making values cannot
break should therefore hold of every value that a run comes to, and of the host
that it leaves.

Besides values there are operations, and they do not come from values. They are
installed by code, or come with a definition: one that the world has under a
name, or that of a nested schema. A condition on hosts may speak of operations,
so it depends on a second one, on the world, whether it survives these changes.
The host at hand may be held to a condition of its own, because its operations
are all that code can call. `Transmits` lists what has to be known of the three.
It asks for the definition of a nested schema only where an operation of the host
at hand was made for that schema.

A nested host is made while a call is being planned. It begins with what its
definition gives to it, and what its block writes to it is made of the same
values as everything else. So the block is one more run, and the host that it
makes meets the condition when it becomes a value.

## Main definitions

* `Conditions`: Conditions on the host at hand, on values, and on the world.
* `Transmits`: What has to be known of them.
* `Scene.Upholds`: The conditions hold of the host at hand and of the world.
* `Conveys`: Where the conditions hold before an action, they hold after it.
* `CallsConvey`: Calls with arguments that meet the condition come to values that do.

## Theorems

* `eval_conveys`: What an expression comes to.
* `evaluate_conveys`: What a block makes.
* `plan_conveys`: What a call is decided to write.
* `callWithin_conveys`, `evalWithin_conveys`: What calls come to, and code that runs on a host.
-/

namespace FieldSchema

/-- Conditions on the host at hand, on values, and on the world. -/
structure Conditions where
  host : Host → Prop
  value : Value → Prop
  world : World → Prop

/-- The host at hand is to meet the condition on values like any other. -/
def Conditions.ofValues (S : Value → Prop) (N : World → Prop) : Conditions :=
  ⟨fun h => S (.nested h), S, N⟩

/-- The schema makes new hosts that meet the condition, and leaves a world that does. -/
def Conditions.Nests (C : Conditions) (sub : SubSchema) (w : World) : Prop :=
  Ends (fun d v => C.world v ∧ C.host d.instantiate) (fun _ v => C.world v) (sub.definition w)

/-- Making values does not break the condition on values, writing them does not break that on the
    host at hand, and in a world that meets its own neither do the changes that code makes to the
    operations of the host. -/
structure Transmits (C : Conditions) : Prop where
  closed : Value.Closed C.value
  self : ∀ h, C.host h → C.value (.nested h)
  put : ∀ (spec : FieldSpec) (write : Write) h, (∀ v ∈ write.added, C.value v) → C.host h →
    C.host (spec.put write h)
  named : ∀ w, C.world w → HostsMeet C.value w.hosts
  note : ∀ w event, C.world w → C.world (w.note event)
  install : ∀ (h : Host) name tag trace body, C.host h →
    C.host (h.install name (.custom tag trace body))
  attach : ∀ (h : Host) w name d, C.world w → NameMap.get? w.definitions name = some d →
    C.host h → C.host (d.attachTo h)
  /-- It is enough that the host at hand has an operation for the nested schema. -/
  nested : ∀ (h : Host) w name op sub, C.host h → C.world w → h.operation? name = some op →
    op.schema? = some sub → C.Nests sub w

section

variable (C : Conditions)

/-- The conditions hold of the host at hand and of the world around it. -/
structure Scene.Upholds (s : Scene) : Prop where
  host : C.host s.host
  world : C.world s.world

/-- Where the conditions hold before the action, they hold after it, and so does another of what the
    action comes to. -/
def Conveys {α : Type} (Q : α → Prop) (act : Run α) : Prop :=
  ∀ s : Scene, s.Upholds C →
    Ends (fun a t => t.Upholds C ∧ Q a) (fun _ t => t.Upholds C) (act s)

/-- Calls with arguments that meet the condition come to values that do. -/
def CallsConvey (dispatch : Dispatch) : Prop :=
  ∀ name args, (∀ v ∈ args.given, C.value v) → Conveys C C.value (dispatch name args)

end

section

variable {C : Conditions} {α β : Type}

theorem conveys_bind {Q : α → Prop} {R : β → Prop} (act : Run α) (next : α → Run β)
    (hact : Conveys C Q act) (hnext : ∀ a, Q a → Conveys C R (next a)) :
    Conveys C R (act >>= next) :=
  fun s hs => ends_bind act next s (hact s hs) fun a t ht => hnext a ht.2 t ht.1

theorem conveys_pure {Q : α → Prop} (a : α) (h : Q a) : Conveys C Q (pure a) :=
  fun _ hs => ⟨hs, h⟩

theorem conveys_fail {Q : α → Prop} (fault : Fault) : Conveys C Q (Run.fail fault) :=
  fun _ hs => hs

theorem conveys_host : Conveys C C.host Run.host :=
  fun _ hs => ⟨hs, hs.host⟩

theorem conveys_modifyHost (change : Host → Host)
    (h : ∀ host, C.host host → C.host (change host)) :
    Conveys C (fun _ => True) (Run.modifyHost change) :=
  fun s hs => ⟨⟨h s.host hs.host, hs.world⟩, trivial⟩

end

section

variable {C : Conditions} (hT : Transmits C)

include hT

theorem conveys_note (event : Event) : Conveys C (fun _ => True) (Run.note event) :=
  fun s hs => ⟨⟨hs.host, hT.note s.world event hs.world⟩, trivial⟩

/-- The wording of a fault is a string. -/
theorem conveys_recover (act : Run Value) (hact : Conveys C C.value act) :
    Conveys C C.value (Run.recover act) := by
  intro s hs
  have h := hact s hs
  unfold Run.recover
  cases hresult : act s with
  | ok v t =>
      rw [hresult] at h
      exact h
  | error halt t =>
      rw [hresult] at h
      cases halt with
      -- Only a fault is recovered from, and its wording is plain text.
      | fault fault => exact ⟨h, hT.closed.plain _ rfl rfl rfl⟩
      | exhausted => exact h
      | kindMismatch => exact h

theorem attach_conveys (name : String) :
    Conveys C C.value (do
      match NameMap.get? (← get).world.definitions name with
      | some d => Run.modifyHost d.attachTo
      | none => pure ()
      return Value.nil) := by
  intro s hs
  rw [get_bind]
  cases hfound : NameMap.get? s.world.definitions name with
  | none => exact ⟨hs, hT.closed.nil⟩
  | some d =>
      exact ⟨⟨hT.attach s.host s.world name d hs.world hfound hs.host, hs.world⟩, hT.closed.nil⟩

end

section

variable {C : Conditions}

mutual

/-- An expression comes to values made of those that it is given, if the calls in it do and the
    block beside it. -/
theorem eval_conveys (hT : Transmits C) (c : Context)
    (hcalls : CallsConvey C c.dispatch) (hvalues : ∀ v ∈ c.values, C.value v)
    (hblock : ∀ block, c.block = some block → Conveys C (fun _ => True) block) (e : Expr) :
    Conveys C C.value (e.eval c) := by
  -- Only literals, arguments and what is stored bring values in; the rest computes or passes on.
  match e with
  | .literal v =>
      exact fun s hs =>
        ⟨hs, hT.closed.literal s.world.hosts (hT.named s.world hs.world) v⟩
  | .argument i => exact conveys_pure _ (hT.closed.getD c.values hvalues i)
  | .arguments => exact conveys_pure _ ((hT.closed.list c.values).mpr hvalues)
  | .fail reason => exact conveys_fail _
  | .log tag => exact conveys_bind _ _ (conveys_note hT _) fun _ _ => conveys_pure _ hT.closed.nil
  | .call operation arguments splat captures block =>
      rw [Expr.eval]
      refine conveys_bind _ _ (evalAll_conveys hT c hcalls hvalues hblock arguments) ?_
      intro values hown
      refine conveys_bind _ _ (evalAll_conveys hT c hcalls hvalues hblock captures) ?_
      intro captured hcaptured
      refine hcalls operation _ (Args.given_written _ _ captured block ?_ hcaptured)
      -- With a splat the arguments at hand come after those of the call.
      cases splat with
      | true => exact List.forall_mem_append.mpr ⟨hown, hvalues⟩
      | false => exact hown
  | .sequence steps =>
      exact evalLast_conveys hT c hcalls hvalues hblock .nil hT.closed.nil steps
  | .attempt body => exact conveys_recover hT _ (eval_conveys hT c hcalls hvalues hblock body)
  | .choose condition consequent alternative =>
      rw [Expr.eval]
      refine conveys_bind _ _ (eval_conveys hT c hcalls hvalues hblock condition) fun v _ => ?_
      split
      · exact eval_conveys hT c hcalls hvalues hblock consequent
      · exact eval_conveys hT c hcalls hvalues hblock alternative
  | .stored name =>
      refine conveys_bind _ _ conveys_host fun h hh => conveys_pure _ ?_
      cases hfound : h.stored? name with
      | none => exact hT.closed.plain _ rfl rfl rfl
      | some v => exact hT.closed.stored h name v (hT.self h hh) hfound
  | .typeName e =>
      exact conveys_bind _ _ (eval_conveys hT c hcalls hvalues hblock e) fun _ _ =>
        conveys_pure _ (hT.closed.plain _ rfl rfl rfl)
  | .shown e =>
      exact conveys_bind _ _ (eval_conveys hT c hcalls hvalues hblock e) fun _ _ =>
        conveys_pure _ (hT.closed.plain _ rfl rfl rfl)
  | .render =>
      exact conveys_bind _ _ conveys_host fun _ _ =>
        conveys_pure _ (hT.closed.plain _ rfl rfl rfl)
  | .self => exact conveys_bind _ _ conveys_host fun h hh => conveys_pure _ (hT.self h hh)
  | .responds name =>
      exact conveys_bind _ _ conveys_host fun _ _ =>
        conveys_pure _ (hT.closed.plain _ rfl rfl rfl)
  | .define name trace body =>
      exact conveys_bind _ _
        (conveys_modifyHost _ fun h hh => hT.install h name name trace body hh) fun _ _ =>
          conveys_pure _ hT.closed.nil
  | .attach definition => exact attach_conveys hT definition
  | .hasBlock => exact conveys_pure _ (hT.closed.plain _ rfl rfl rfl)
  | .runBlock =>
      rw [Expr.eval]
      cases hown : c.block with
      | none => exact conveys_pure _ hT.closed.nil
      | some block =>
          exact conveys_bind _ _ (hblock block hown) fun _ _ => conveys_pure _ hT.closed.nil
  | .compute function inputs =>
      refine conveys_bind _ _ (evalAll_conveys hT c hcalls hvalues hblock inputs) ?_
      exact fun values hown s hs =>
        ⟨hs, hT.closed.build s.world.hosts (hT.named s.world hs.world) values hown _⟩

/-- The same of expressions that are evaluated in order. -/
theorem evalAll_conveys (hT : Transmits C) (c : Context)
    (hcalls : CallsConvey C c.dispatch) (hvalues : ∀ v ∈ c.values, C.value v)
    (hblock : ∀ block, c.block = some block → Conveys C (fun _ => True) block)
    (es : List Expr) : Conveys C (fun values => ∀ v ∈ values, C.value v) (evalAll c es) := by
  match es with
  | [] => exact conveys_pure _ fun _ h => absurd h List.not_mem_nil
  | e :: rest =>
      rw [evalAll]
      refine conveys_bind _ _ (eval_conveys hT c hcalls hvalues hblock e) fun v hv => ?_
      refine conveys_bind _ _ (evalAll_conveys hT c hcalls hvalues hblock rest) ?_
      exact fun values hrest => conveys_pure _ (List.forall_mem_cons.mpr ⟨hv, hrest⟩)

/-- The same if only the last value is wanted. -/
theorem evalLast_conveys (hT : Transmits C) (c : Context)
    (hcalls : CallsConvey C c.dispatch) (hvalues : ∀ v ∈ c.values, C.value v)
    (hblock : ∀ block, c.block = some block → Conveys C (fun _ => True) block)
    (last : Value) (hlast : C.value last) (es : List Expr) : Conveys C C.value (evalLast c last es) := by
  match es with
  | [] => exact conveys_pure _ hlast
  | e :: rest =>
      rw [evalLast]
      refine conveys_bind _ _ (eval_conveys hT c hcalls hvalues hblock e) fun v hv => ?_
      exact evalLast_conveys hT c hcalls hvalues hblock v hv rest

end

end

section

variable {C : Conditions} (hT : Transmits C) (dispatch : Dispatch)
  (hcalls : CallsConvey C dispatch)

include hT hcalls

theorem runSteps_conveys (block : Block) (hblock : ∀ v ∈ block.captured, C.value v) :
    Conveys C (fun _ => True) (runSteps dispatch block) := by
  unfold runSteps
  -- The arguments of the steps are what the block has captured.
  have hsteps := evalLast_conveys hT ⟨dispatch, block.captured, none⟩ hcalls hblock
    (fun _ h => nomatch h) .nil hT.closed.nil block.steps
  exact conveys_bind _ _ hsteps fun _ _ => conveys_pure _ trivial

/-- The block that a custom operation is given can be run by its code. -/
theorem givenBlock_conveys (args : Args) (hargs : ∀ v ∈ args.given, C.value v) (run : Run Unit)
    (hrun : args.block.map (runSteps dispatch) = some run) : Conveys C (fun _ => True) run := by
  obtain ⟨block, hblock, rfl⟩ := Option.map_eq_some_iff.mp hrun
  exact runSteps_conveys hT dispatch hcalls block fun v hv =>
    hargs v (args.mem_given_of_captured block hblock v hv)

theorem runCallback_conveys (spec : FieldSpec) (values : List Value)
    (hvalues : ∀ v ∈ values, C.value v) : Conveys C C.value (spec.runCallback dispatch values) := by
  unfold FieldSpec.runCallback
  cases spec.callback with
  | none => exact conveys_pure _ hT.closed.nil
  | some callback =>
      exact eval_conveys hT ⟨dispatch, values, none⟩ hcalls hvalues (fun _ h => nomatch h)
        callback

theorem invokeCustom_conveys (name : String) (trace : Bool) (body : Expr) (args : Args)
    (hargs : ∀ v ∈ args.given, C.value v) :
    Conveys C C.value (invokeCustom dispatch name trace body args) := by
  have hbody : Conveys C C.value
      (body.eval ⟨dispatch, args.values, args.block.map (runSteps dispatch)⟩) :=
    eval_conveys hT _ hcalls (fun v hv => hargs v (List.mem_append_left _ hv))
      (givenBlock_conveys hT dispatch hcalls args hargs) body
  unfold invokeCustom
  cases trace with
  | true => exact conveys_bind _ _ (conveys_note hT _) fun _ _ => hbody
  | false => exact hbody

/-- What a block makes meets the condition, and what it leaves does, too. -/
theorem evaluate_conveys (sub : SubSchema) (block : Block) (s : Scene)
    (hblock : ∀ v ∈ block.captured, C.value v) (hsub : C.Nests sub s.world) :
    Stays C.world (fun _ => True) (fun child _ => C.host child) (sub.evaluate dispatch block)
      s := by
  have hstays := evaluate_stays (W := C.world) (E := fun _ => True) sub dispatch block s
    (P := fun d => C.host d.instantiate) (Q := fun _ child => C.host child) ?_ ?_
  · refine ends_mono _ hstays ?_ fun _ _ h => h
    rintro child t ⟨hhost, hworld, d, -, hchild⟩
    exact ⟨hhost, hworld, hchild⟩
  · exact ends_mono _ hsub (fun _ _ h => h) fun _ _ h => ⟨h, trivial⟩
  · intro d w hw hd
    have hrun := runSteps_conveys hT dispatch hcalls block hblock ⟨d.instantiate, w⟩ ⟨hd, hw⟩
    exact ends_mono _ hrun (fun _ _ h => ⟨h.1.world, h.1.host⟩) fun _ _ h => ⟨h.world, trivial⟩

/-- The values of a write are those of the call, or are made by its block. -/
theorem asked_conveys (op : Operation) (s : Scene)
    (hsub : ∀ sub, op.schema? = some sub → C.Nests sub s.world)
    (args : Args) (hargs : ∀ v ∈ args.given, C.value v) (write : Write)
    (hasked : op.Asks dispatch s args write) : ∀ v ∈ write.added, C.value v := by
  have hbuilt : ∀ block v, args.block = some block → BuiltBy op.schema? dispatch s block v →
      C.value v := by
    rintro block v hblock ⟨sub, child, t, hschema, hresult, rfl⟩
    have hcaptured := fun v hv => hargs v (args.mem_given_of_captured block hblock v hv)
    exact hT.self child (ends_value _ child t
      (evaluate_conveys hT dispatch hcalls sub block s hcaptured (hsub sub hschema)) hresult).2.2
  -- Of the other kinds of write nothing is ever asked of an accessor.
  cases op with
  | scalar spec | arrayPlural spec =>
      cases write with
      | assign v =>
          obtain rfl : args = .ofValues [v] := hasked
          exact hargs
      | append | enter => exact hasked.elim
  | arrayItem spec =>
      cases write with
      | append v =>
          rcases hasked with rfl | ⟨block, hblock, -, hv⟩
          · exact hargs
          · exact List.forall_mem_singleton.mpr (hbuilt block v hblock hv)
      | assign | enter => exact hasked.elim
  | hashEntry spec =>
      cases write with
      | enter key v =>
          rcases hasked with rfl | ⟨rfl, rfl⟩ | ⟨block, hblock, hkey, hv⟩
          · exact hargs
          · exact List.forall_mem_cons.mpr
              ⟨hargs key List.mem_cons_self, List.forall_mem_singleton.mpr hT.closed.nil⟩
          · refine List.forall_mem_cons.mpr
              ⟨?_, List.forall_mem_singleton.mpr (hbuilt block v hblock hv)⟩
            rcases hkey with hkey | ⟨w, hkey, -⟩
            · exact hargs key (List.mem_append_left _ (hkey ▸ List.mem_cons_self))
            · exact hargs key (List.mem_append_left _ (hkey ▸ List.mem_cons_self))
      | assign | append => exact hasked.elim
  | hashPlural | inspect | custom => cases write <;> exact hasked.elim

/-- The decision about a call is to write values that meet the condition, or to read. -/
theorem plan_conveys (op : Operation) (spec : FieldSpec) (hop : op.spec? = some spec)
    (args : Args) (hargs : ∀ v ∈ args.given, C.value v) (s : Scene) (hs : s.Upholds C)
    (hsub : ∀ sub, op.schema? = some sub → C.Nests sub s.world) :
    Ends (fun plan t => t.Upholds C ∧ ∀ write, plan = some write → ∀ v ∈ write.added, C.value v)
      (fun _ t => t.Upholds C) (op.plan dispatch args s) := by
  have hplan := plan_settles_of_schema (W := C.world) (E := fun _ => True) hT.note
    (fun _ => trivial) trivial op spec hop dispatch args s hs.world fun sub block hschema hblock => by
      have hcaptured := fun v hv => hargs v (args.mem_given_of_captured block hblock v hv)
      refine ends_mono _ (evaluate_conveys hT dispatch hcalls sub block s hcaptured (hsub sub ?_))
        (fun _ _ h => ⟨h.1, h.2.1, trivial⟩) fun _ _ h => h
      rw [Operation.schema?, hop]
      exact hschema
  -- The plan leaves the host as it is, so the condition on it is still there for the write.
  refine ends_mono _ hplan ?_ fun _ t h => ⟨h.1 ▸ hs.host, h.2.1⟩
  rintro plan t ⟨hhost, hworld, hsettled⟩
  refine ⟨⟨hhost ▸ hs.host, hworld⟩, ?_⟩
  rintro write rfl
  exact asked_conveys hT dispatch hcalls op s hsub args hargs write hsettled.1

/-- A call that is decided comes to what is in the slot, or to what the callback makes. -/
theorem carryOut_conveys (spec : FieldSpec) (plan : Option Write)
    (hplan : ∀ write, plan = some write → ∀ v ∈ write.added, C.value v) :
    Conveys C C.value (spec.carryOut dispatch plan) := by
  cases plan with
  | none =>
      exact conveys_bind _ _ conveys_host fun h hh =>
        conveys_pure _ (hT.closed.readStored h (hT.self h hh) _)
  | some write =>
      have hwrite := hplan write rfl
      refine conveys_bind _ _ (conveys_modifyHost _ fun h => hT.put spec write h hwrite)
        fun _ _ => ?_
      exact runCallback_conveys hT dispatch hcalls spec _
        (hT.closed.handed spec write hwrite)

/-- An operation of the host comes to values that meet the condition. -/
theorem invoke_conveys (name : String) (op : Operation) (args : Args)
    (hargs : ∀ v ∈ args.given, C.value v) (s : Scene) (hs : s.Upholds C)
    (hfound : s.host.operation? name = some op) :
    Ends (fun v t => t.Upholds C ∧ C.value v) (fun _ t => t.Upholds C)
      (op.invoke dispatch args s) := by
  have hsub := fun sub => hT.nested s.host s.world name op sub hs.host hs.world hfound
  -- Accessors are of one kind here: each plans a write and carries it out.
  have haccessor : ∀ spec, op.spec? = some spec →
      Ends (fun v t => t.Upholds C ∧ C.value v) (fun _ t => t.Upholds C)
        (op.invoke dispatch args s) := by
    intro spec hop
    rw [invoke_eq op spec hop]
    exact ends_bind _ _ s (plan_conveys hT dispatch hcalls op spec hop args hargs s hs hsub)
      fun plan t ht => carryOut_conveys hT dispatch hcalls spec plan ht.2 t ht.1
  cases op with
  | custom tag trace body =>
      exact invokeCustom_conveys hT dispatch hcalls tag trace body args hargs s hs
  | inspect =>
      simp only [Operation.invoke, inspectHost]
      split
      · exact hs
      · split
        · exact hs
        · exact ⟨hs, hT.closed.plain _ rfl rfl rfl⟩
  | _ spec => exact haccessor spec rfl

end

section

variable {C : Conditions} (hT : Transmits C)

include hT

/-- Calls with arguments that meet the condition come to values that do, and leave hosts that do. -/
theorem callWithin_conveys (depth : Nat) : CallsConvey C (callWithin depth) := by
  -- A call of depth one more calls with this depth, on this host and on those of its blocks.
  induction depth with
  | zero => exact fun _ _ _ _ hs => hs
  | succ depth ih =>
      intro name args hargs s hs
      cases hfound : s.host.operation? name with
      | none =>
          rw [callWithin_of_missing depth name args s hfound]
          exact hs
      | some op =>
          rw [callWithin_of_operation depth name args s op hfound]
          exact invoke_conveys hT (callWithin depth) ih name op args hargs s hs hfound

/-- So does code that runs on a host. -/
theorem evalWithin_conveys (depth : Nat) (values : List Value)
    (hvalues : ∀ v ∈ values, C.value v) (e : Expr) :
    Conveys C C.value (evalWithin depth values e) :=
  eval_conveys hT ⟨callWithin depth, values, none⟩ (callWithin_conveys hT depth) hvalues
    (fun _ h => nomatch h) e

end

end FieldSchema
