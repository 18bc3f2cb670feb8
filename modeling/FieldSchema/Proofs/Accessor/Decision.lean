import FieldSchema.Proofs.Accessor.Plan

/-!
# Decisions

What is known when the plan of a call has been made.

A plan is made by a few steps, each of which may end the call: the block of a
nested field runs, and checks are asked. None of them touches the host at
hand. A block runs on a host of its own, and a check only leaves notes. So all
that can change is the world, and `Stays` says of an action that it leaves the
host alone and keeps a given condition on the world. It goes through sequences
like any condition on results.

When a plan is to write, the write is tied to the input of the call on one
side, by `Asks`, and to the checks on the other, by `Allows`. A nested host
that goes into a hash is not checked, because a hash with a nested schema has
no constraint on its values.

## Main definitions

* `Operation.Asks`: The write is the one that the input of the call stands for.
* `Operation.Allows`: The write is of values that passed the checks.
* `Operation.Settles`: What has been settled when a plan is made.
* `Stays`: An action leaves the host at hand as it is.

## Theorems

* `stays_bind`: Actions in sequence leave the host as it is if each does.
* `evaluate_stays`: A nested host is made beside the host at hand.
* `require_stays`: A value that gets past a check has passed it.
* `plan_stays`: What is known when a plan has been made, or the call was rejected.
* `plan_settles_of_schema`, `plan_settles`: The same if the accessor may be of another kind than its
  field.
* `evaluate_beside`: A nested host is made beside the host at hand, whatever becomes of it.
-/

namespace FieldSchema

/-- The check accepts the value, with hosts under some names. -/
def Check.Passed (c : Check) (v : Value) : Prop :=
  ∃ hosts, c.holds hosts v = true

namespace FieldKind

/-- The constraint on items; it is for arrays alone. -/
def item? : FieldKind → Option Constraint
  | .array _ item _ _ => item
  | _ => none

/-- The constraint on keys; it is for hashes alone. -/
def key? : FieldKind → Option Constraint
  | .hash _ key _ _ => key
  | _ => none

/-- The constraint on values; it is for hashes alone. -/
def value? : FieldKind → Option Constraint
  | .hash _ _ value _ => value
  | _ => none

end FieldKind

/-- The value is the nested host that the block makes, from the scene in which the call began. -/
def BuiltBy (schema : Option SubSchema) (dispatch : Dispatch) (s : Scene) (block : Block)
    (v : Value) : Prop :=
  ∃ sub child t, schema = some sub ∧ sub.evaluate dispatch block s = .ok child t ∧
    v = .nested child

namespace Operation

/-- The write is the one that the input stands for: a value is written as it is, an entry without
    a value gets nil, and a block stands for the host that it makes. -/
def Asks (dispatch : Dispatch) (s : Scene) (args : Args) : Operation → Write → Prop
  | .scalar _, .assign v => args = .ofValues [v]
  | .arrayPlural _, .assign v => args = .ofValues [v]
  | .arrayItem spec, .append v =>
      args = .ofValues [v] ∨
        ∃ block, args.block = some block ∧ args.values.length ≤ 1 ∧
          BuiltBy spec.kind.schema? dispatch s block v
  | .hashEntry spec, .enter key v =>
      args = .ofValues [key, v] ∨ (args = .ofValues [key] ∧ v = .nil) ∨
        ∃ block, args.block = some block ∧
          (args.values = [key] ∨ ∃ w, args.values = [key, w] ∧ w.isTruthy = false) ∧
          BuiltBy spec.kind.schema? dispatch s block v
  | _, _ => False

/-- The values of the write passed the checks of the field; what a nested schema made in a hash
    was not checked. -/
def Allows : Operation → Write → Prop
  | .scalar spec, .assign v => spec.check.Passed v
  | .arrayPlural spec, .assign v => (Constraint.onItems spec.kind.item?).Passed v
  | .arrayItem spec, .append v => (Constraint.ifAny spec.kind.item?).Passed v
  | .hashEntry spec, .enter key v =>
      (Constraint.ifAny spec.kind.key?).Passed key ∧
        (spec.kind.schema?.isSome = true ∨ (Constraint.ifAny spec.kind.value?).Passed v)
  | _, _ => False

/-- What has been settled when a plan is made: there is no input and nothing has happened if it is
    to read, and otherwise the write is asked for and allowed. -/
def Settles (op : Operation) (dispatch : Dispatch) (args : Args) (s : Scene) :
    Option Write → Scene → Prop
  | none, t => args = .none ∧ t = s
  | some write, _ => op.Asks dispatch s args write ∧ op.Allows write

end Operation

theorem isEmpty_iff (args : Args) : args.isEmpty = true ↔ args = .none := by
  obtain ⟨values, block⟩ := args
  cases values <;> cases block <;>
    simp only [Args.isEmpty, Args.none, Args.ofValues, List.isEmpty_nil, List.isEmpty_cons,
      Option.isNone_none, Option.isNone_some, Bool.and_self, Bool.and_false, Bool.and_true,
      Bool.false_eq_true, reduceCtorEq, Args.mk.injEq, and_false, false_and]

/-- The action leaves the host at hand as it is, and ends in a world and in a halt of the given
    kind or else with a value as described. -/
def Stays {α : Type} (W : World → Prop) (E : Halt → Prop) (Q : α → Scene → Prop) (act : Run α)
    (s : Scene) : Prop :=
  Ends (fun a t => t.host = s.host ∧ W t.world ∧ Q a t)
    (fun halt t => t.host = s.host ∧ W t.world ∧ E halt) (act s)

section

variable {α β : Type} {W : World → Prop} {E : Halt → Prop}

theorem stays_bind (act : Run α) (next : α → Run β) (s : Scene) {R : α → Scene → Prop}
    {Q : β → Scene → Prop} (h : Stays W E R act s)
    (hnext : ∀ a t, W t.world → R a t → Stays W E Q (next a) t) :
    Stays W E Q (act >>= next) s := by
  refine ends_bind act next s h fun a t ht => ?_
  -- The second action starts with the host with which the first did.
  have hafter := hnext a t ht.2.1 ht.2.2
  unfold Stays at hafter
  rw [ht.1] at hafter
  exact hafter

/-- Among what is known of the value is that it is the result. -/
theorem stays_result (act : Run α) (s : Scene) {Q : α → Scene → Prop} (h : Stays W E Q act s) :
    Stays W E (fun a t => Q a t ∧ act s = .ok a t) act s := by
  unfold Stays at h ⊢
  cases hresult : act s with
  | ok a t =>
      rw [hresult] at h
      exact ⟨h.1, h.2.1, h.2.2, rfl⟩
  | error halt t =>
      rw [hresult] at h
      exact h

theorem stays_fail (fault : Fault) (s : Scene) {Q : α → Scene → Prop} (hW : W s.world)
    (hE : E (.fault fault)) : Stays W E Q (Run.fail fault) s :=
  ⟨rfl, hW, hE⟩

theorem noteAll_keeps (hnote : ∀ w event, W w → W (w.note event)) (notes : List Note)
    (w : World) (h : W w) : W (w.noteAll notes) := by
  unfold World.noteAll
  induction notes generalizing w with
  | nil => exact h
  | cons n rest ih => exact ih _ (hnote w _ h)

/-- Asking a check leaves its notes whatever the verdict is. -/
theorem require_eq (c : Check) (v : Value) (fault : ValidationFault) (s : Scene) :
    c.require v fault s = Run.require (c.holds s.world.hosts v) (.validation fault)
      ⟨s.host, s.world.noteAll (c.notes s.world.hosts v)⟩ := rfl

/-- A value that gets past a check has passed it. -/
theorem require_stays (hnote : ∀ w event, W w → W (w.note event))
    (hfault : ∀ fault, E (.fault fault)) (c : Check) (v : Value) (fault : ValidationFault)
    (s : Scene) (hW : W s.world) : Stays W E (fun _ _ => c.Passed v) (c.require v fault) s := by
  have hnoted := noteAll_keeps hnote (c.notes s.world.hosts v) s.world hW
  unfold Stays
  rw [require_eq]
  cases hheld : c.holds s.world.hosts v with
  | true => exact ⟨rfl, hnoted, s.world.hosts, hheld⟩
  | false => exact ⟨rfl, hnoted, hfault _⟩

/-- What runs in the world alone leaves the host as it is. -/
theorem inWorld_stays (act : EStateM Fault World α) (s : Scene) {Q : α → World → Prop}
    (h : Ends (fun a w => W w ∧ Q a w) (fun fault w => W w ∧ E (.fault fault)) (act s.world)) :
    Stays W E (fun a t => Q a t.world) (Run.inWorld act) s := by
  unfold Stays Run.inWorld
  cases hresult : act s.world with
  | ok a w =>
      rw [hresult] at h
      exact ⟨rfl, h.1, h.2⟩
  | error fault w =>
      rw [hresult] at h
      exact ⟨rfl, h.1, h.2⟩

/-- What runs on another host leaves the one at hand as it is. -/
theorem onHost_stays (other : Host) (act : Run Unit) (s : Scene) {Q : Host → Prop}
    (h : Ends (fun _ t => W t.world ∧ Q t.host) (fun halt t => W t.world ∧ E halt)
      (act ⟨other, s.world⟩)) :
    Stays W E (fun child _ => Q child) (Run.onHost other act) s := by
  unfold Stays Run.onHost
  cases hresult : act ⟨other, s.world⟩ with
  | ok u t =>
      rw [hresult] at h
      exact ⟨rfl, h.1, h.2⟩
  | error halt t =>
      rw [hresult] at h
      exact ⟨rfl, h.1, h.2⟩

/-- A nested host is made of the definition of the schema by the steps of the block, beside the
    host at hand. -/
theorem evaluate_stays (sub : SubSchema) (dispatch : Dispatch) (block : Block) (s : Scene)
    {P : Definition → Prop} {Q : Definition → Host → Prop}
    (hdefinition : Ends (fun d w => W w ∧ P d) (fun fault w => W w ∧ E (.fault fault))
      (sub.definition s.world))
    (hrun : ∀ d w, W w → P d →
      Ends (fun _ t => W t.world ∧ Q d t.host) (fun halt t => W t.world ∧ E halt)
        (runSteps dispatch block ⟨d.instantiate, w⟩)) :
    Stays W E (fun child _ => ∃ d, P d ∧ Q d child) (sub.evaluate dispatch block) s := by
  unfold SubSchema.evaluate
  refine stays_bind _ _ s (inWorld_stays sub.definition s hdefinition) fun d t ht hd => ?_
  refine ends_mono _ (onHost_stays d.instantiate _ t (hrun d t.world ht hd)) ?_ fun _ _ h => h
  exact fun child u h => ⟨h.1, h.2.1, d, hd, h.2.2⟩

theorem planAppend_stays (hnote : ∀ w event, W w → W (w.note event))
    (hfault : ∀ fault, E (.fault fault)) (singular : String) (item : Option Constraint)
    (v : Value) (s : Scene) (hW : W s.world) :
    Stays W E (fun plan _ => plan = some (.append v) ∧ (Constraint.ifAny item).Passed v)
      (planAppend singular item v) s := by
  unfold planAppend
  refine stays_bind _ _ s (require_stays hnote hfault _ v _ s hW) fun _ t ht hpassed => ?_
  exact ⟨rfl, ht, rfl, hpassed⟩

theorem planEnter_stays (hnote : ∀ w event, W w → W (w.note event))
    (hfault : ∀ fault, E (.fault fault)) (singular : String) (key value : Option Constraint)
    (k v : Value) (s : Scene) (hW : W s.world) :
    Stays W E (fun plan _ => plan = some (.enter k v) ∧ (Constraint.ifAny key).Passed k ∧
      (Constraint.ifAny value).Passed v) (planEnter singular key value k v) s := by
  unfold planEnter
  refine stays_bind _ _ s (require_stays hnote hfault _ k _ s hW) fun _ t ht hkey => ?_
  refine stays_bind _ _ t (require_stays hnote hfault _ v _ t ht) fun _ u hu hvalue => ?_
  exact ⟨rfl, hu, rfl, hkey, hvalue⟩

/-- What a block makes is what its nested schema makes of it. -/
theorem buildNested_stays (hfault : ∀ fault, E (.fault fault)) (dispatch : Dispatch)
    (singular : String) (schema : Option SubSchema) (block : Block) (s : Scene) (hW : W s.world)
    (hbuild : ∀ sub, schema = some sub →
      Stays W E (fun _ _ => True) (sub.evaluate dispatch block) s) :
    Stays W E (fun v _ => BuiltBy schema dispatch s block v)
      (buildNested dispatch singular schema block) s := by
  unfold buildNested
  cases schema with
  | none => exact stays_fail _ s hW (hfault _)
  | some sub =>
      refine stays_bind _ _ s (stays_result _ s (hbuild sub rfl)) fun child t ht hresult => ?_
      exact ⟨rfl, ht, sub, child, t, rfl, hresult.2, rfl⟩

theorem planAssign_stays (hnote : ∀ w event, W w → W (w.note event))
    (hfault : ∀ fault, E (.fault fault)) (spec : FieldSpec) (accepted : Check) (args : Args)
    (s : Scene) (hW : W s.world) :
    Stays W E (fun plan t => (plan = none ∧ args = .none ∧ t = s) ∨
      ∃ v, plan = some (.assign v) ∧ args = .ofValues [v] ∧ accepted.Passed v)
      (spec.planAssign accepted args) s := by
  obtain ⟨values, block⟩ := args
  unfold FieldSpec.planAssign
  cases block with
  | some block => exact stays_fail _ s hW (hfault _)
  | none =>
      match values with
      | [] => exact ⟨rfl, hW, Or.inl ⟨rfl, rfl, rfl⟩⟩
      | [v] =>
          refine stays_bind _ _ s (require_stays hnote hfault accepted v _ s hW) ?_
          intro _ t ht hpassed
          exact ⟨rfl, ht, Or.inr ⟨v, rfl, rfl, hpassed⟩⟩
      | _ :: _ :: _ => exact stays_fail _ s hW (hfault _)

theorem planItem_stays (hnote : ∀ w event, W w → W (w.note event))
    (hfault : ∀ fault, E (.fault fault)) (dispatch : Dispatch) (singular : String)
    (item : Option Constraint) (schema : Option SubSchema) (args : Args) (s : Scene)
    (hW : W s.world)
    (hbuild : ∀ sub block, schema = some sub → args.block = some block →
      Stays W E (fun _ _ => True) (sub.evaluate dispatch block) s) :
    Stays W E (fun plan t => (plan = none ∧ args = .none ∧ t = s) ∨
      ∃ v, plan = some (.append v) ∧ (Constraint.ifAny item).Passed v ∧
        (args = .ofValues [v] ∨ ∃ block, args.block = some block ∧ args.values.length ≤ 1 ∧
          BuiltBy schema dispatch s block v))
      (planItem dispatch singular item schema args) s := by
  obtain ⟨values, block⟩ := args
  -- Whatever value stands beside a block, the block alone makes the item.
  have hblock : ∀ block, (∀ sub, schema = some sub →
      Stays W E (fun _ _ => True) (sub.evaluate dispatch block) s) →
      Stays W E (fun plan _ => ∃ v, plan = some (.append v) ∧ (Constraint.ifAny item).Passed v ∧
        BuiltBy schema dispatch s block v)
        (buildNested dispatch singular schema block >>= planAppend singular item) s := by
    intro block hschema
    refine stays_bind _ _ s
      (buildNested_stays hfault dispatch singular schema block s hW hschema) ?_
    intro v t ht hbuilt
    refine ends_mono _ (planAppend_stays hnote hfault singular item v t ht) ?_ fun _ _ h => h
    exact fun plan u h => ⟨h.1, h.2.1, v, h.2.2.1, h.2.2.2, hbuilt⟩
  match values, block with
  | _ :: _ :: _, _ => exact stays_fail _ s hW (hfault _)
  | [], none => exact ⟨rfl, hW, Or.inl ⟨rfl, rfl, rfl⟩⟩
  | [v], none =>
      refine ends_mono _ (planAppend_stays hnote hfault singular item v s hW) ?_ fun _ _ h => h
      exact fun plan t h => ⟨h.1, h.2.1, Or.inr ⟨v, h.2.2.1, h.2.2.2, Or.inl rfl⟩⟩
  | [], some block =>
      refine ends_mono _ (hblock block fun sub h => hbuild sub block h rfl) ?_ fun _ _ h => h
      rintro plan t ⟨hhost, hworld, v, hplan, hpassed, hbuilt⟩
      exact ⟨hhost, hworld,
        Or.inr ⟨v, hplan, hpassed, Or.inr ⟨block, rfl, Nat.zero_le 1, hbuilt⟩⟩⟩
  | [_], some block =>
      refine ends_mono _ (hblock block fun sub h => hbuild sub block h rfl) ?_ fun _ _ h => h
      rintro plan t ⟨hhost, hworld, v, hplan, hpassed, hbuilt⟩
      exact ⟨hhost, hworld, Or.inr ⟨v, hplan, hpassed, Or.inr ⟨block, rfl, Nat.le_refl 1, hbuilt⟩⟩⟩

theorem planEntry_stays (hnote : ∀ w event, W w → W (w.note event))
    (hfault : ∀ fault, E (.fault fault)) (dispatch : Dispatch) (singular : String)
    (key value : Option Constraint) (schema : Option SubSchema) (args : Args) (s : Scene)
    (hW : W s.world)
    (hbuild : ∀ sub block, schema = some sub → args.block = some block →
      Stays W E (fun _ _ => True) (sub.evaluate dispatch block) s) :
    Stays W E (fun plan _ => ∃ k v, plan = some (.enter k v) ∧
      (Constraint.ifAny key).Passed k ∧
      (schema.isSome = true ∨ (Constraint.ifAny value).Passed v) ∧
        (args = .ofValues [k, v] ∨ (args = .ofValues [k] ∧ v = .nil) ∨
          ∃ block, args.block = some block ∧
            (args.values = [k] ∨ ∃ w, args.values = [k, w] ∧ w.isTruthy = false) ∧
            BuiltBy schema dispatch s block v))
      (planEntry dispatch singular key value schema args) s := by
  obtain ⟨values, block⟩ := args
  -- Only the key is left to be checked when a block has made the value.
  have hblock : ∀ k block, (∀ sub, schema = some sub →
      Stays W E (fun _ _ => True) (sub.evaluate dispatch block) s) →
      Stays W E (fun plan _ => ∃ v, plan = some (.enter k v) ∧
        (Constraint.ifAny key).Passed k ∧ schema.isSome = true ∧
        BuiltBy schema dispatch s block v)
        (buildNested dispatch singular schema block >>= planEnter singular key none k) s := by
    intro k block hschema
    refine stays_bind _ _ s
      (buildNested_stays hfault dispatch singular schema block s hW hschema) ?_
    intro v t ht hbuilt
    have hsome : schema.isSome = true := by
      obtain ⟨sub, _, _, hsub, _⟩ := hbuilt
      rw [hsub]
      rfl
    refine ends_mono _ (planEnter_stays hnote hfault singular key none k v t ht) ?_
      fun _ _ h => h
    exact fun plan u h => ⟨h.1, h.2.1, v, h.2.2.1, h.2.2.2.1, hsome, hbuilt⟩
  match values, block with
  | [], _ => exact stays_fail _ s hW (hfault _)
  | [k], none =>
      refine ends_mono _ (planEnter_stays hnote hfault singular key value k .nil s hW) ?_
        fun _ _ h => h
      exact fun plan t h => ⟨h.1, h.2.1, k, .nil, h.2.2.1, h.2.2.2.1, Or.inr h.2.2.2.2,
        Or.inr (Or.inl ⟨rfl, rfl⟩)⟩
  | [k], some block =>
      refine ends_mono _ (hblock k block fun sub h => hbuild sub block h rfl) ?_ fun _ _ h => h
      rintro plan t ⟨hhost, hworld, v, hplan, hkey, hsome, hbuilt⟩
      exact ⟨hhost, hworld, k, v, hplan, hkey, Or.inl hsome,
        Or.inr (Or.inr ⟨block, rfl, Or.inl rfl, hbuilt⟩)⟩
  | [k, v], none =>
      refine ends_mono _ (planEnter_stays hnote hfault singular key value k v s hW) ?_
        fun _ _ h => h
      exact fun plan t h => ⟨h.1, h.2.1, k, v, h.2.2.1, h.2.2.2.1, Or.inr h.2.2.2.2,
        Or.inl rfl⟩
  | [k, w], some block =>
      unfold planEntry
      simp only []
      cases hw : w.isTruthy with
      | true => exact stays_fail _ s hW (hfault _)
      | false =>
          refine ends_mono _ (hblock k block fun sub h => hbuild sub block h rfl) ?_
            fun _ _ h => h
          rintro plan t ⟨hhost, hworld, v, hplan, hkey, hsome, hbuilt⟩
          exact ⟨hhost, hworld, k, v, hplan, hkey, Or.inl hsome,
            Or.inr (Or.inr ⟨block, rfl, Or.inr ⟨w, rfl, hw⟩, hbuilt⟩)⟩
  | _ :: _ :: _ :: _, _ => exact stays_fail _ s hW (hfault _)

/-- A plan is made without touching the host, and what it settles rests on the input. -/
theorem plan_stays (hnote : ∀ w event, W w → W (w.note event))
    (hfault : ∀ fault, E (.fault fault)) (spec : FieldSpec) (op : Operation)
    (hop : spec.Accessor op) (dispatch : Dispatch) (args : Args) (s : Scene) (hW : W s.world)
    (hbuild : ∀ sub block, spec.kind.schema? = some sub → args.block = some block →
      Stays W E (fun _ _ => True) (sub.evaluate dispatch block) s) :
    Stays W E (op.Settles dispatch args s) (op.plan dispatch args) s := by
  cases hop with
  | scalar constraint hkind =>
      -- Read, or assign what has passed the check of the field.
      refine ends_mono _ (planAssign_stays hnote hfault spec spec.check args s hW) ?_
        fun _ _ h => h
      rintro plan t ⟨hhost, hworld, ⟨rfl, hargs, rfl⟩ | ⟨v, rfl, hargs, hpassed⟩⟩
      · exact ⟨hhost, hworld, hargs, rfl⟩
      · exact ⟨hhost, hworld, hargs, hpassed⟩
  | arrayPlural singular item schema itemCallback hkind =>
      simp only [Operation.plan, hkind]
      refine ends_mono _ (planAssign_stays hnote hfault spec _ args s hW) ?_ fun _ _ h => h
      rintro plan t ⟨hhost, hworld, ⟨rfl, hargs, rfl⟩ | ⟨v, rfl, hargs, hpassed⟩⟩
      · exact ⟨hhost, hworld, hargs, rfl⟩
      · refine ⟨hhost, hworld, hargs, ?_⟩
        simp only [Operation.Allows, hkind, FieldKind.item?]
        exact hpassed
  | arrayItem singular item schema itemCallback hkind =>
      have hschema : spec.kind.schema? = schema := by simp only [hkind, FieldKind.schema?]
      rw [hschema] at hbuild
      simp only [Operation.plan, hkind]
      -- Read, or append what has passed, be it a value or a child that a block has made.
      refine ends_mono _ (planItem_stays hnote hfault dispatch singular item schema args s hW
        hbuild) ?_ fun _ _ h => h
      rintro plan t ⟨hhost, hworld, ⟨rfl, hargs, rfl⟩ | ⟨v, rfl, hpassed, hasked⟩⟩
      · exact ⟨hhost, hworld, hargs, rfl⟩
      · refine ⟨hhost, hworld, ?_⟩
        simp only [Operation.Settles, Operation.Asks, Operation.Allows, hkind,
          FieldKind.item?]
        exact ⟨hasked, hpassed⟩
  | hashPlural singular key value schema hkind =>
      simp only [Operation.plan, FieldSpec.planRead]
      split
      · rename_i hempty
        exact ⟨rfl, hW, (isEmpty_iff args).mp hempty, rfl⟩
      · exact stays_fail _ s hW (hfault _)
  | hashEntry singular key value schema hkind =>
      have hschema : spec.kind.schema? = schema := by simp only [hkind, FieldKind.schema?]
      rw [hschema] at hbuild
      simp only [Operation.plan, hkind]
      -- Enter a value under a key, both of which have passed.
      refine ends_mono _ (planEntry_stays hnote hfault dispatch singular key value schema args s
        hW hbuild) ?_ fun _ _ h => h
      rintro plan t ⟨hhost, hworld, k, v, rfl, hkey, hvalue, hasked⟩
      refine ⟨hhost, hworld, ?_⟩
      simp only [Operation.Settles, Operation.Asks, Operation.Allows, hkind,
        FieldKind.key?, FieldKind.value?]
      exact ⟨hasked, hkey, hvalue⟩

/-- A plan is made without touching the host, also by an accessor of another kind than its field;
    it is to read only if there is no input, and a write is the one that the input stands for, of
    values that passed the checks. -/
theorem plan_settles_of_schema (hnote : ∀ w event, W w → W (w.note event))
    (hfault : ∀ fault, E (.fault fault)) (hmismatch : E .kindMismatch) (op : Operation)
    (spec : FieldSpec) (hop : op.spec? = some spec) (dispatch : Dispatch) (args : Args)
    (s : Scene) (hW : W s.world)
    (hbuild : ∀ sub block, spec.kind.schema? = some sub → args.block = some block →
      Stays W E (fun _ _ => True) (sub.evaluate dispatch block) s) :
    Stays W E (op.Settles dispatch args s) (op.plan dispatch args) s := by
  have haccessor : spec.Accessor op →
      Stays W E (op.Settles dispatch args s) (op.plan dispatch args) s := fun h =>
    plan_stays hnote hfault spec op h dispatch args s hW hbuild
  -- An accessor that was made for a field of another kind plans nothing.
  have hthrow : Stays W E (op.Settles dispatch args s) (throw .kindMismatch) s :=
    ⟨rfl, hW, hmismatch⟩
  cases op with
  | scalar own =>
      have hplan := planAssign_stays hnote hfault own own.check args s hW
      refine ends_mono _ hplan ?_ fun _ _ h => h
      rintro plan t ⟨hhost, hworld, ⟨rfl, hargs, rfl⟩ | ⟨v, rfl, hargs, hpassed⟩⟩
      · exact ⟨hhost, hworld, hargs, rfl⟩
      · exact ⟨hhost, hworld, hargs, hpassed⟩
  | arrayPlural own =>
      obtain rfl : own = spec := Option.some.inj hop
      cases hkind : own.kind with
      | array singular item schema itemCallback =>
          exact haccessor (.arrayPlural singular item schema itemCallback hkind)
      | scalar constraint =>
          simp only [Operation.plan, hkind]
          exact hthrow
      | hash singular key value schema =>
          simp only [Operation.plan, hkind]
          exact hthrow
  | arrayItem own =>
      obtain rfl : own = spec := Option.some.inj hop
      cases hkind : own.kind with
      | array singular item schema itemCallback =>
          exact haccessor (.arrayItem singular item schema itemCallback hkind)
      | scalar constraint =>
          simp only [Operation.plan, hkind]
          exact hthrow
      | hash singular key value schema =>
          simp only [Operation.plan, hkind]
          exact hthrow
  | hashPlural own =>
      simp only [Operation.plan, FieldSpec.planRead]
      split
      · rename_i hempty
        exact ⟨rfl, hW, (isEmpty_iff args).mp hempty, rfl⟩
      · exact stays_fail _ s hW (hfault _)
  | hashEntry own =>
      obtain rfl : own = spec := Option.some.inj hop
      cases hkind : own.kind with
      | hash singular key value schema =>
          exact haccessor (.hashEntry singular key value schema hkind)
      | scalar constraint =>
          simp only [Operation.plan, hkind]
          exact hthrow
      | array singular item schema itemCallback =>
          simp only [Operation.plan, hkind]
          exact hthrow
  | inspect =>
      exact absurd hop (by simp only [Operation.spec?, reduceCtorEq, not_false_eq_true])
  | custom name trace body =>
      exact absurd hop (by simp only [Operation.spec?, reduceCtorEq, not_false_eq_true])

/-- The same if every nested schema can be evaluated, whether the field has it or not. -/
theorem plan_settles (hnote : ∀ w event, W w → W (w.note event))
    (hfault : ∀ fault, E (.fault fault)) (hmismatch : E .kindMismatch) (op : Operation)
    (spec : FieldSpec) (hop : op.spec? = some spec) (dispatch : Dispatch) (args : Args)
    (s : Scene) (hW : W s.world)
    (hbuild : ∀ (sub : SubSchema) block,
      Stays W E (fun _ _ => True) (sub.evaluate dispatch block) s) :
    Stays W E (op.Settles dispatch args s) (op.plan dispatch args) s :=
  plan_settles_of_schema hnote hfault hmismatch op spec hop dispatch args s hW
    fun sub block _ _ => hbuild sub block

end

/-- A nested host is made beside the host at hand, whatever becomes of it. -/
theorem evaluate_beside (sub : SubSchema) (dispatch : Dispatch) (block : Block) (s : Scene) :
    Stays (fun _ => True) (fun _ => True) (fun _ _ => True) (sub.evaluate dispatch block) s := by
  have hstays := evaluate_stays (W := fun _ => True) (E := fun _ => True) sub dispatch block s
    (P := fun _ => True) (Q := fun _ _ => True) ?_ ?_
  · exact ends_mono _ hstays (fun _ _ h => ⟨h.1, h.2.1, trivial⟩) fun _ _ h => h
  · cases sub.definition s.world <;> exact ⟨trivial, trivial⟩
  · intro d w _ _
    cases runSteps dispatch block ⟨d.instantiate, w⟩ <;> exact ⟨trivial, trivial⟩

end FieldSchema
