import FieldSchema.Accessor
import FieldSchema.Proofs.Code.Footprint
import FieldSchema.Proofs.Sequencing

/-!
# What Code Keeps

Conditions on hosts that no code can break.

Code changes its host in three ways: it calls operations, it installs custom
ones, and it attaches definitions. Around the host it only adds to the log.
Everything else it does is reading. So a condition that survives these few
changes survives every expression, whatever the expression computes and
wherever it stops. `Tolerates` lists the changes, and `eval_keeps` is the
induction over expressions that is then needed only once.

A condition on hosts comes as a family, one condition for each index, because
code that runs on a nested host runs under another condition than the code
around it. The condition on the world is the same for both: there is only one
world. A third condition is on the halt in which a run may end.

An operation that is called is taken as given here. The circle from calls to
code and back to calls is closed where calls are, by induction on their depth.

## Main definitions

* `Guarantee`: Conditions on hosts, on the world and on halts.
* `Keeps`: Where the conditions hold before an action, they hold after it.
* `Guarantee.Tolerates`: The conditions survive what code does by itself.

## Theorems

* `keeps_finalState`: The conditions hold in the scene at the end.
* `keeps_bind`: Two actions in sequence keep what both keep.
* `eval_keeps`: An expression keeps what the calls in it keep.
* `runSteps_keeps`: So does a block.
-/

namespace FieldSchema

/-- Conditions on a host at hand, for each index one, on the world around it, and on the halt
    that may end a run. -/
structure Guarantee (κ : Type) where
  host : κ → Host → Prop
  world : World → Prop
  halt : Halt → Prop

section

variable {κ α β : Type}

/-- The conditions hold of a scene. -/
structure Guarantee.Holds (G : Guarantee κ) (k : κ) (s : Scene) : Prop where
  host : G.host k s.host
  world : G.world s.world

/-- Where the conditions hold before the action, they hold after it, also if it halts. -/
def Keeps (G : Guarantee κ) (k : κ) (act : Run α) : Prop :=
  ∀ s, G.Holds k s →
    Ends (fun _ t => G.Holds k t) (fun halt t => G.Holds k t ∧ G.halt halt) (act s)

/-- The conditions survive what code does without calling an operation, provided that it attaches
    only what is allowed. -/
structure Guarantee.Tolerates (G : Guarantee κ) (allowed : String → Prop) : Prop where
  fault : ∀ fault, G.halt (.fault fault)
  note : ∀ w event, G.world w → G.world (w.note event)
  install : ∀ k h name tag trace body, (∀ d ∈ Expr.attached body, allowed d) →
    G.host k h → G.host k (h.install name (.custom tag trace body))
  attach : ∀ k h w name d, allowed name → G.world w → NameMap.get? w.definitions name = some d →
    G.host k h → G.host k (d.attachTo h)

variable (G : Guarantee κ) (k : κ)

theorem keeps_finalState (act : Run α) (h : Keeps G k act) (s : Scene) (hs : G.Holds k s) :
    G.Holds k (finalState (act s)) :=
  ends_finalState (act s) (ends_mono (act s) (h s hs) (fun _ _ h => h) fun _ _ h => h.1)

theorem keeps_halt (act : Run α) (h : Keeps G k act) (s t : Scene) (hs : G.Holds k s)
    (halt : Halt) (hact : act s = .error halt t) : G.halt halt :=
  (ends_fault (act s) halt t (h s hs) hact).2

/-- What only looks at the scene keeps it. -/
theorem keeps_of_eq (act : Run α) (h : ∀ s, ∃ a, act s = .ok a s) : Keeps G k act := by
  intro s hs
  obtain ⟨a, ha⟩ := h s
  rw [ha]
  exact hs

theorem keeps_pure (a : α) : Keeps G k (pure a) :=
  keeps_of_eq G k _ fun _ => ⟨a, rfl⟩

theorem keeps_host : Keeps G k Run.host :=
  keeps_of_eq G k _ fun s => ⟨s.host, rfl⟩

theorem keeps_namedHosts : Keeps G k Run.namedHosts :=
  keeps_of_eq G k _ fun s => ⟨s.world.hosts, rfl⟩

theorem keeps_bind (act : Run α) (next : α → Run β) (h : Keeps G k act)
    (hnext : ∀ a, Keeps G k (next a)) : Keeps G k (act >>= next) := by
  intro s hs
  exact ends_bind act next s (h s hs) fun a t ht => hnext a t ht

theorem keeps_fail (fault : Fault) (h : G.halt (.fault fault)) :
    Keeps G k (Run.fail fault : Run α) :=
  fun _ hs => ⟨hs, h⟩

theorem keeps_modifyHost (change : Host → Host)
    (h : ∀ host, G.host k host → G.host k (change host)) : Keeps G k (Run.modifyHost change) :=
  fun s hs => ⟨h s.host hs.host, hs.world⟩

theorem keeps_modifyWorld (change : World → World)
    (h : ∀ w, G.world w → G.world (change w)) : Keeps G k (Run.modifyWorld change) :=
  fun s hs => ⟨hs.host, h s.world hs.world⟩

/-- Going on after a fault keeps what the action kept up to it. -/
theorem keeps_recover (act : Run Value) (h : Keeps G k act) : Keeps G k (Run.recover act) := by
  intro s hs
  have hact := h s hs
  unfold Run.recover
  cases hresult : act s with
  | ok v t =>
      rw [hresult] at hact
      exact hact
  | error halt t =>
      rw [hresult] at hact
      -- Only faults are recovered from, so the other halts are those of the action.
      cases halt with
      | fault fault => exact hact.1
      | exhausted => exact hact
      | kindMismatch => exact hact

/-- The conditions survive that code on a host makes calls by the given way of calling, with blocks
    that attach only what is allowed. -/
def CallsKeep (G : Guarantee κ) (k : κ) (allowed : String → Prop) (dispatch : Dispatch) : Prop :=
  ∀ name args, (∀ d ∈ Args.attached args, allowed d) → Keeps G k (dispatch name args)

variable {G k}
variable {allowed : String → Prop}

theorem keeps_note (hG : G.Tolerates allowed) (event : Event) : Keeps G k (Run.note event) :=
  keeps_modifyWorld G k _ fun w hw => hG.note w event hw

/-- A definition that is attached by name is one of the named ones, or nothing happens. -/
theorem keeps_attach (hG : G.Tolerates allowed) (name : String) (h : allowed name) :
    Keeps G k (do
      match NameMap.get? (← get).world.definitions name with
      | some d => Run.modifyHost d.attachTo
      | none => pure ()
      return Value.nil) := by
  intro s hs
  rw [get_bind]
  cases hfound : NameMap.get? s.world.definitions name with
  | none => exact hs
  | some d =>
      exact ⟨hG.attach k s.host s.world name d h hs.world hfound hs.host, hs.world⟩

mutual

/-- An expression keeps what the calls in it and the block beside it keep. -/
theorem eval_keeps (hG : G.Tolerates allowed) (c : Context)
    (hcalls : CallsKeep G k allowed c.dispatch)
    (hblock : ∀ block, c.block = some block → Keeps G k block)
    (e : Expr) (he : ∀ d ∈ e.attached, allowed d) : Keeps G k (e.eval c) := by
  -- Only calls, installing and attaching can change the host; the rest reads or passes on.
  match e with
  | .literal v => exact keeps_bind G k _ _ (keeps_namedHosts G k) fun _ => keeps_pure G k _
  | .argument i => exact keeps_pure G k _
  | .arguments => exact keeps_pure G k _
  | .fail reason => exact keeps_fail G k _ (hG.fault _)
  | .log tag => exact keeps_bind G k _ _ (keeps_note hG _) fun _ => keeps_pure G k _
  | .call operation arguments splat captures block =>
      simp only [Expr.attached, List.mem_append] at he
      rw [Expr.eval]
      refine keeps_bind G k _ _ ?_ fun values => keeps_bind G k _ _ ?_ fun captured => ?_
      · exact evalAll_keeps hG c hcalls hblock arguments fun d hd => he d (Or.inl (Or.inl hd))
      · exact evalAll_keeps hG c hcalls hblock captures fun d hd => he d (Or.inl (Or.inr hd))
      · refine hcalls operation _ fun d hd => he d (Or.inr ?_)
        rwa [Args.attached_written] at hd
  | .sequence steps => exact evalLast_keeps hG c hcalls hblock .nil steps he
  | .attempt body => exact keeps_recover G k _ (eval_keeps hG c hcalls hblock body he)
  | .choose condition consequent alternative =>
      simp only [Expr.attached, List.mem_append] at he
      rw [Expr.eval]
      refine keeps_bind G k _ _ ?_ fun v => ?_
      · exact eval_keeps hG c hcalls hblock condition fun d hd => he d (Or.inl (Or.inl hd))
      · split
        · exact eval_keeps hG c hcalls hblock consequent fun d hd => he d (Or.inl (Or.inr hd))
        · exact eval_keeps hG c hcalls hblock alternative fun d hd => he d (Or.inr hd)
  | .stored name => exact keeps_bind G k _ _ (keeps_host G k) fun _ => keeps_pure G k _
  | .typeName of =>
      exact keeps_bind G k _ _ (eval_keeps hG c hcalls hblock of he) fun _ => keeps_pure G k _
  | .shown of =>
      exact keeps_bind G k _ _ (eval_keeps hG c hcalls hblock of he) fun _ => keeps_pure G k _
  | .render => exact keeps_bind G k _ _ (keeps_host G k) fun _ => keeps_pure G k _
  | .self => exact keeps_bind G k _ _ (keeps_host G k) fun _ => keeps_pure G k _
  | .responds name => exact keeps_bind G k _ _ (keeps_host G k) fun _ => keeps_pure G k _
  | .define name trace body =>
      refine keeps_bind G k _ _ (keeps_modifyHost G k _ fun h hh => ?_) fun _ => keeps_pure G k _
      exact hG.install k h name name trace body he hh
  | .attach definition =>
      exact keeps_attach hG definition (he definition (List.mem_singleton.mpr rfl))
  | .hasBlock => exact keeps_pure G k _
  | .runBlock =>
      rw [Expr.eval]
      cases hown : c.block with
      | none => exact keeps_pure G k _
      | some block => exact keeps_bind G k _ _ (hblock block hown) fun _ => keeps_pure G k _
  | .compute function inputs =>
      refine keeps_bind G k _ _ (evalAll_keeps hG c hcalls hblock inputs he) fun values => ?_
      exact keeps_bind G k _ _ (keeps_namedHosts G k) fun _ => keeps_pure G k _

/-- Expressions that are evaluated in order keep what the calls in them keep. -/
theorem evalAll_keeps (hG : G.Tolerates allowed) (c : Context)
    (hcalls : CallsKeep G k allowed c.dispatch)
    (hblock : ∀ block, c.block = some block → Keeps G k block)
    (es : List Expr) (he : ∀ d ∈ attachedByAll es, allowed d) : Keeps G k (evalAll c es) := by
  match es with
  | [] => exact keeps_pure G k _
  | e :: rest =>
      simp only [attachedByAll, List.mem_append] at he
      rw [evalAll]
      refine keeps_bind G k _ _ ?_ fun v => keeps_bind G k _ _ ?_ fun _ => keeps_pure G k _
      · exact eval_keeps hG c hcalls hblock e fun d hd => he d (Or.inl hd)
      · exact evalAll_keeps hG c hcalls hblock rest fun d hd => he d (Or.inr hd)

/-- The same holds if only the last value is wanted. -/
theorem evalLast_keeps (hG : G.Tolerates allowed) (c : Context)
    (hcalls : CallsKeep G k allowed c.dispatch)
    (hblock : ∀ block, c.block = some block → Keeps G k block)
    (last : Value) (es : List Expr) (he : ∀ d ∈ attachedByAll es, allowed d) :
    Keeps G k (evalLast c last es) := by
  match es with
  | [] => exact keeps_pure G k _
  | e :: rest =>
      simp only [attachedByAll, List.mem_append] at he
      rw [evalLast]
      refine keeps_bind G k _ _ ?_ fun v => ?_
      · exact eval_keeps hG c hcalls hblock e fun d hd => he d (Or.inl hd)
      · exact evalLast_keeps hG c hcalls hblock v rest fun d hd => he d (Or.inr hd)

end

/-- A block keeps what the calls in it keep. -/
theorem runSteps_keeps (hG : G.Tolerates allowed) (dispatch : Dispatch)
    (hcalls : CallsKeep G k allowed dispatch) (block : Block)
    (hblock : ∀ d ∈ attachedByAll block.steps, allowed d) :
    Keeps G k (runSteps dispatch block) := by
  unfold runSteps
  refine keeps_bind G k _ _ ?_ fun _ => keeps_pure G k _
  exact evalLast_keeps hG ⟨dispatch, block.captured, none⟩ hcalls (fun _ h => nomatch h) .nil
    block.steps hblock

/-- The code of a custom operation keeps what the calls in it and in its block keep. -/
theorem invokeCustom_keeps (hG : G.Tolerates allowed) (dispatch : Dispatch)
    (hcalls : CallsKeep G k allowed dispatch) (name : String) (trace : Bool) (body : Expr)
    (args : Args) (hbody : ∀ d ∈ body.attached, allowed d)
    (hargs : ∀ d ∈ args.attached, allowed d) :
    Keeps G k (invokeCustom dispatch name trace body args) := by
  unfold invokeCustom
  -- The block of the call is the block that the body may run.
  have hcode : Keeps G k
      (body.eval ⟨dispatch, args.values, args.block.map (runSteps dispatch)⟩) := by
    refine eval_keeps hG _ hcalls ?_ body hbody
    intro run hrun
    rw [Option.map_eq_some_iff] at hrun
    obtain ⟨block, hblock, rfl⟩ := hrun
    refine runSteps_keeps hG dispatch hcalls block fun d hd => hargs d ?_
    rw [Args.attached, hblock]
    exact hd
  cases trace with
  | true => exact keeps_bind G k _ _ (keeps_note hG _) fun _ => hcode
  | false => exact keeps_bind G k _ _ (keeps_pure G k ()) fun _ => hcode

/-- The callback of a field keeps what the calls in it keep. -/
theorem runCallback_keeps (hG : G.Tolerates allowed) (dispatch : Dispatch)
    (hcalls : CallsKeep G k allowed dispatch) (spec : FieldSpec) (values : List Value)
    (hspec : ∀ d ∈ attachedByCallback spec.callback, allowed d) :
    Keeps G k (spec.runCallback dispatch values) := by
  unfold FieldSpec.runCallback
  cases hown : spec.callback with
  | none => exact keeps_pure G k _
  | some callback =>
      rw [hown] at hspec
      exact eval_keeps hG ⟨dispatch, values, none⟩ hcalls (fun _ h => nomatch h) callback hspec

/-- Rendering only looks at the host. -/
theorem inspectHost_keeps (hG : G.Tolerates allowed) (args : Args) :
    Keeps G k (inspectHost args) := by
  unfold inspectHost
  split
  · exact keeps_fail G k _ (hG.fault _)
  · split
    · exact keeps_fail G k _ (hG.fault _)
    · exact keeps_bind G k _ _ (keeps_host G k) fun _ => keeps_pure G k _

end

end FieldSchema
