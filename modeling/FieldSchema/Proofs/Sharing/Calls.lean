import FieldSchema.Call
import FieldSchema.Proofs.Sharing.Nested

/-!
# Calls That Agree

A call made on two hosts that differ in cells and policies alone.

An accessor decides and then carries out. What it decides rests on how many
values it was given, on checks, which are blind to the difference, and on the
nested host that a block may make, which is alike in both runs. What it
carries out is a write that puts like values into like slots, and the callback
that is the same code in both. Custom operations are code to begin with.

So each operation agrees with its like as far as the calls in it do, and the
induction on the depth of calls closes the circle. A depth that is too small
is met with in both runs at the same point.

## Main definitions

* `Write.Alike`: Writes of like values.

## Theorems

* `require_agree`: A check lets like values pass, or none of them.
* `plan_agree`, `carryOut_agree`: Like accessors make like decisions and carry them out alike.
* `invoke_agree`: Like operations agree if the calls in them do.
* `callWithin_agree`: Calls agree, however deep they go.
-/

namespace FieldSchema

section

variable (f : SubSchemaPolicy → SubSchemaPolicy)

/-- The writes are of the same kind and of like values. -/
inductive Write.Alike (k : Ledgers) : Write → Write → Prop
  | assign (v w : Value) (h : v.Alike f k w) : Alike k (.assign v) (.assign w)
  | append (v w : Value) (h : v.Alike f k w) : Alike k (.append v) (.append w)
  | enter (key key' v w : Value) (hkey : key.Alike f k key') (h : v.Alike f k w) :
      Alike k (.enter key v) (.enter key' w)

theorem Write.Alike.mono (k l : Ledgers) (hkl : k ≤ l) (write write' : Write)
    (h : write.Alike f k write') : write.Alike f l write' := by
  cases h with
  | assign v w h => exact .assign v w (Value.Alike.mono f k l hkl v w h)
  | append v w h => exact .append v w (Value.Alike.mono f k l hkl v w h)
  | enter key key' v w hkey h =>
      exact .enter key key' v w (Value.Alike.mono f k l hkl _ _ hkey)
        (Value.Alike.mono f k l hkl v w h)

theorem listItems_recast (v : Value) :
    listItems (v.recast f) = (listItems v).map (Value.recast f) := by
  cases v with
  | list items =>
      rw [recast_list]
      rfl
  | _ => rfl

theorem mapEntries_recast (v : Value) : mapEntries (v.recast f) = (mapEntries v).recast f := by
  cases v <;> rfl

section

variable (k : Ledgers)

theorem listItems_alike (v w : Value) (h : v.Alike f k w) :
    ValuesAlike f k (listItems v) (listItems w) where
  recast := by
    rw [recast_list, recast_list, ← listItems_recast, h.recast, listItems_recast]
  left := (Value.confined_list_iff _ _).mpr ((confined_closed _).listItems v h.left)
  right := (Value.confined_list_iff _ _).mpr ((confined_closed _).listItems w h.right)

/-- A write makes like values of like values. -/
theorem update_alike (write write' : Write) (h : write.Alike f k write') (old old' : Value)
    (hold : old.Alike f k old') : (write.update old).Alike f k (write'.update old') := by
  cases h with
  | assign v w h => exact h
  | append v w h =>
      exact ValuesAlike.append f k _ _ _ _ (listItems_alike f k old old' hold)
        (ValuesAlike.singleton f k v w h)
  | enter key key' v w hkey h =>
      refine ⟨?_, ?_, ?_⟩
      -- What was in the slot is taken for an empty map in both runs, or in none.
      · have hentries : (mapEntries old).recast f = (mapEntries old').recast f := by
          rw [← mapEntries_recast, hold.recast, mapEntries_recast]
        simp only [Write.update, recast_map, Mapping.recast_insert, hentries, hkey.recast,
          h.recast]
      · exact Value.confined_insert _ _ key v ((confined_closed _).mapEntries old hold.left)
          hkey.left h.left
      · exact Value.confined_insert _ _ key' w ((confined_closed _).mapEntries old' hold.right)
          hkey.right h.right

theorem itemCallback_alike (kind kind' : FieldKind) (h : kind.Alike f k kind') :
    kind.itemCallback = kind'.itemCallback := by
  cases h <;> rfl

theorem singular_alike (kind kind' : FieldKind) (h : kind.Alike f k kind') :
    kind.singular? = kind'.singular? := by
  cases h <;> rfl

theorem check_alike (spec spec' : FieldSpec) (h : spec.Alike f k spec') :
    spec.check = spec'.check := by
  obtain ⟨name, kind, validation, callback⟩ := spec
  obtain ⟨name', kind', validation', callback'⟩ := spec'
  obtain ⟨rfl, hkind, rfl, rfl⟩ := h
  cases hkind <;> rfl

theorem handed_alike (spec spec' : FieldSpec) (hspec : spec.Alike f k spec')
    (write write' : Write) (h : write.Alike f k write') :
    ValuesAlike f k (spec.handed write) (spec'.handed write') := by
  cases h with
  | assign v w h => exact ValuesAlike.singleton f k v w h
  | append v w h =>
      rw [spec.handed_append, spec'.handed_append, itemCallback_alike f k _ _ hspec.kind]
      cases spec'.kind.itemCallback with
      | wrapped => exact ValuesAlike.singleton f k _ _ (ValuesAlike.singleton f k v w h)
      | bare => exact ValuesAlike.singleton f k v w h
  | enter key key' v w hkey h =>
      exact ValuesAlike.cons f k _ _ _ _ hkey (ValuesAlike.singleton f k v w h)

theorem runCallback_agree (dispatch : Dispatch) (hcalls : CallsAgree f dispatch)
    (spec spec' : FieldSpec) (hspec : spec.Alike f k spec') (vs ws : List Value)
    (h : ValuesAlike f k vs ws) :
    Agree f k (Value.Alike f) (spec.runCallback dispatch vs) (spec'.runCallback dispatch ws) := by
  unfold FieldSpec.runCallback
  rw [hspec.callback]
  cases spec'.callback with
  | none => exact agree_pure f k _ _ _ fun l _ => Value.alike_nil f l
  | some callback =>
      have hc : Context.Alike f k ⟨dispatch, vs, none⟩ ⟨dispatch, ws, none⟩ :=
        ⟨rfl, hcalls, h, .none⟩
      exact eval_agree f k _ _ hc callback

theorem read_agree (spec spec' : FieldSpec) (hspec : spec.Alike f k spec') :
    Agree f k (Value.Alike f) spec.read spec'.read := by
  unfold FieldSpec.read
  rw [hspec.name]
  refine agree_bind f k _ _ _ _ _ _ (agree_host f k) fun l _ h h' hh => ?_
  exact agree_pure f l _ _ _ fun m hlm =>
    Value.Alike.mono f l m hlm _ _ (Host.Alike.stored f l h h' hh spec'.name)

/-- Like decisions are carried out alike. -/
theorem carryOut_agree (dispatch : Dispatch) (hcalls : CallsAgree f dispatch)
    (spec spec' : FieldSpec) (hspec : ∀ l, k ≤ l → spec.Alike f l spec')
    (plan plan' : Option Write) (h : Option.Rel (Write.Alike f k) plan plan') :
    Agree f k (Value.Alike f) (spec.carryOut dispatch plan) (spec'.carryOut dispatch plan') := by
  cases h with
  | none => exact read_agree f k spec spec' (hspec k (le_refl k))
  | @some write write' hwrite =>
      refine agree_bind f k _ _ _ _ _ _ (agree_modifyHost f k _ _ fun l hkl h h' hh => ?_)
        fun l hkl _ _ _ => ?_
      -- The fields have one name, so the writes go to like slots.
      · have hname := (hspec l hkl).name
        unfold FieldSpec.put
        rw [hname]
        refine Host.Alike.write f l h h' hh spec'.name _ _ ?_
        exact update_alike f l write write' (Write.Alike.mono f k l hkl _ _ hwrite) _ _
          (Host.Alike.stored f l h h' hh spec'.name)
      -- After the write the callback is handed like values.
      · exact runCallback_agree f l dispatch hcalls spec spec' (hspec l hkl) _ _
          (handed_alike f l spec spec' (hspec l hkl) write write'
            (Write.Alike.mono f k l hkl _ _ hwrite))

/-- A check lets like values pass, or none of them. -/
theorem require_agree (c : Check) (hc : c.Blind f) (v w : Value) (h : v.Alike f k w)
    (fault : ValidationFault) :
    Agree f k Unrelated (c.require v fault) (c.require w fault) := by
  -- Both runs leave the notes of the check, and the verdict is the same since the check is blind.
  have hask : Agree f k (fun _ verdict verdict' => verdict = verdict') (c.ask v) (c.ask w) := by
    unfold Check.ask
    refine agree_bind f k (fun _ hosts hosts' => recastHosts f hosts = recastHosts f hosts') _ _ _
      _ _ (agree_look f k _ (fun s => s.world.hosts) (fun s => s.world.hosts)
        fun _ _ _ _ hs => hs.world.hosts) fun l _ hosts hosts' hhosts => ?_
    refine agree_bind f l _ _ _ _ _ _ (agree_modifyWorld f l _ _ fun m u u' hu => ?_)
      fun m _ _ _ _ => agree_pure f m _ _ _ fun _ _ => ?_
    · exact World.Alike.noteAll f m u u' _ _ hu
    · rw [← hc hosts v, hhosts, h.recast, hc]
  refine agree_bind f k _ _ _ _ _ _ hask fun l _ verdict verdict' hverdict => ?_
  rw [hverdict]
  unfold Run.require
  split
  · exact agree_pure f l _ _ _ fun _ _ => trivial
  · exact agree_fail f l _ _

/-- The decision to write, once it is made. -/
theorem agree_write (write write' : Write) (h : write.Alike f k write') :
    Agree f k (fun l => Option.Rel (Write.Alike f l)) (pure (some write)) (pure (some write')) :=
  agree_pure f k _ _ _ fun l hkl => .some (Write.Alike.mono f k l hkl write write' h)

/-- The decision to read. -/
theorem agree_noWrite :
    Agree f k (fun l => Option.Rel (Write.Alike f l)) (pure none) (pure none) :=
  agree_pure f k _ _ _ fun _ _ => .none

theorem planAssign_agree (spec spec' : FieldSpec) (hname : spec.name = spec'.name)
    (accepted : Check) (haccepted : accepted.Blind f) (args args' : Args)
    (hargs : args.Alike f k args') :
    Agree f k (fun l => Option.Rel (Write.Alike f l)) (spec.planAssign accepted args)
      (spec'.planAssign accepted args') := by
  obtain ⟨values, block⟩ := args
  obtain ⟨values', block'⟩ := args'
  obtain ⟨hvalues, hblock⟩ := hargs
  unfold FieldSpec.planAssign
  rw [hname]
  cases hblock with
  | some _ => exact agree_fail f k _ _
  | none =>
      simp only [Option.isSome_none, Bool.false_eq_true, if_false]
      rcases ValuesAlike.cases f k values values' hvalues with
        ⟨rfl, rfl⟩ | ⟨v, vs, w, ws, rfl, rfl, hvw, hrest⟩
      -- Without a value this is a read.
      · exact agree_noWrite f k
      · rcases ValuesAlike.cases f k vs ws hrest with
          ⟨rfl, rfl⟩ | ⟨v', vs', w', ws', rfl, rfl, -, hrest'⟩
        · refine agree_bind f k _ _ _ _ _ _
            (require_agree f k accepted haccepted v w hvw _) fun l hkl _ _ _ => ?_
          exact agree_write f l _ _ (.assign v w (Value.Alike.mono f k l hkl v w hvw))
        -- The fault names the number of values, which is the same.
        · simp only [List.length_cons, ValuesAlike.length_eq f k vs' ws' hrest']
          exact agree_fail f k _ _

theorem isEmpty_alike (args args' : Args) (hargs : args.Alike f k args') :
    args.isEmpty = args'.isEmpty := by
  obtain ⟨values, block⟩ := args
  obtain ⟨values', block'⟩ := args'
  obtain ⟨hvalues, hblock⟩ := hargs
  cases hblock <;>
    rcases ValuesAlike.cases f k values values' hvalues with
      ⟨rfl, rfl⟩ | ⟨v, vs, w, ws, rfl, rfl, -, -⟩ <;> rfl

theorem planRead_agree (spec spec' : FieldSpec) (hspec : spec.Alike f k spec') (args args' : Args)
    (hargs : args.Alike f k args') :
    Agree f k (fun l => Option.Rel (Write.Alike f l)) (spec.planRead args)
      (spec'.planRead args') := by
  unfold FieldSpec.planRead FieldSpec.singular?
  rw [hspec.name, singular_alike f k _ _ hspec.kind, isEmpty_alike f k args args' hargs]
  split
  · exact agree_noWrite f k
  · exact agree_fail f k _ _

theorem planAppend_agree (singular : String) (item : Option Constraint) (v w : Value)
    (h : v.Alike f k w) :
    Agree f k (fun l => Option.Rel (Write.Alike f l)) (planAppend singular item v)
      (planAppend singular item w) := by
  unfold planAppend
  refine agree_bind f k _ _ _ _ _ _ (require_agree f k _ (blind_ifAny f item) v w h _)
    fun l hkl _ _ _ => ?_
  exact agree_write f l _ _ (.append v w (Value.Alike.mono f k l hkl v w h))

theorem planEnter_agree (singular : String) (key value : Option Constraint) (u u' v w : Value)
    (hu : u.Alike f k u') (h : v.Alike f k w) :
    Agree f k (fun l => Option.Rel (Write.Alike f l)) (planEnter singular key value u v)
      (planEnter singular key value u' w) := by
  unfold planEnter
  refine agree_bind f k _ _ _ _ _ _ (require_agree f k _ (blind_ifAny f key) u u' hu _)
    fun l hkl _ _ _ => ?_
  have hlater := Value.Alike.mono f k l hkl v w h
  refine agree_bind f l _ _ _ _ _ _ (require_agree f l _ (blind_ifAny f value) v w hlater _)
    fun m hlm _ _ _ => ?_
  exact agree_write f m _ _ (.enter u u' v w (Value.Alike.mono f k m (hkl.trans hlm) u u' hu)
    (Value.Alike.mono f l m hlm v w hlater))

section

variable (dispatch : Dispatch) (hcalls : CallsAgree f dispatch)

include hcalls

theorem planItem_agree (singular : String) (item : Option Constraint)
    (schema schema' : Option SubSchema)
    (hschema : Option.Rel (SubSchema.Alike f k) schema schema') (args args' : Args)
    (hargs : args.Alike f k args') :
    Agree f k (fun l => Option.Rel (Write.Alike f l))
      (planItem dispatch singular item schema args)
      (planItem dispatch singular item schema' args') := by
  obtain ⟨values, block⟩ := args
  obtain ⟨values', block'⟩ := args'
  obtain ⟨hvalues, hblock⟩ := hargs
  -- What like blocks make is checked and appended in both runs.
  have hbuilt : ∀ block block', Block.Alike f k block block' →
      Agree f k (fun l => Option.Rel (Write.Alike f l))
        (buildNested dispatch singular schema block >>= planAppend singular item)
        (buildNested dispatch singular schema' block' >>= planAppend singular item) := by
    intro block block' halike
    refine agree_bind f k _ _ _ _ _ _
      (buildNested_agree f k dispatch hcalls singular schema schema' hschema block block' halike) ?_
    exact fun l _ v w hvw => planAppend_agree f l singular item v w hvw
  rcases ValuesAlike.cases f k values values' hvalues with
    ⟨rfl, rfl⟩ | ⟨v, vs, w, ws, rfl, rfl, hvw, hrest⟩
  · cases hblock with
    | none => exact agree_noWrite f k
    | some halike => exact hbuilt _ _ halike
  · rcases ValuesAlike.cases f k vs ws hrest with
      ⟨rfl, rfl⟩ | ⟨v', vs', w', ws', rfl, rfl, -, hrest'⟩
    · cases hblock with
      | none => exact planAppend_agree f k singular item v w hvw
      | some halike => exact hbuilt _ _ halike
    · have hlength := ValuesAlike.length_eq f k vs' ws' hrest'
      simp only [planItem, List.length_cons, hlength]
      exact agree_fail f k _ _

theorem planEntry_agree (singular : String) (key value : Option Constraint)
    (schema schema' : Option SubSchema)
    (hschema : Option.Rel (SubSchema.Alike f k) schema schema') (args args' : Args)
    (hargs : args.Alike f k args') :
    Agree f k (fun l => Option.Rel (Write.Alike f l))
      (planEntry dispatch singular key value schema args)
      (planEntry dispatch singular key value schema' args') := by
  obtain ⟨values, block⟩ := args
  obtain ⟨values', block'⟩ := args'
  obtain ⟨hvalues, hblock⟩ := hargs
  -- What like blocks make is entered under like keys.
  have hbuilt : ∀ block block' u u', Block.Alike f k block block' → u.Alike f k u' →
      Agree f k (fun l => Option.Rel (Write.Alike f l))
        (buildNested dispatch singular schema block >>= planEnter singular key none u)
        (buildNested dispatch singular schema' block' >>= planEnter singular key none u') := by
    intro block block' u u' halike hu
    refine agree_bind f k _ _ _ _ _ _
      (buildNested_agree f k dispatch hcalls singular schema schema' hschema block block' halike) ?_
    exact fun l hkl v w hvw =>
      planEnter_agree f l singular key none u u' v w (Value.Alike.mono f k l hkl u u' hu) hvw
  rcases ValuesAlike.cases f k values values' hvalues with
    ⟨rfl, rfl⟩ | ⟨u, us, u', us', rfl, rfl, hu, hrest⟩
  · exact agree_fail f k _ _
  rcases ValuesAlike.cases f k us us' hrest with
    ⟨rfl, rfl⟩ | ⟨v, vs, w, ws, rfl, rfl, hvw, hrest'⟩
  · cases hblock with
    | none => exact planEnter_agree f k singular key value u u' _ _ hu (Value.alike_nil f k)
    | some halike => exact hbuilt _ _ u u' halike hu
  rcases ValuesAlike.cases f k vs ws hrest' with
    ⟨rfl, rfl⟩ | ⟨v', vs', w', ws', rfl, rfl, -, hrest''⟩
  · cases hblock with
    | none => exact planEnter_agree f k singular key value u u' v w hu hvw
    | some halike =>
        -- Beside the block stands a value that counts as true in both runs or in none.
        have htruthy : v.isTruthy = w.isTruthy := by
          rw [← recast_isTruthy f v, hvw.recast, recast_isTruthy]
        simp only [planEntry, htruthy]
        split
        · exact agree_fail f k _ _
        · exact hbuilt _ _ u u' halike hu
  · have hlength := ValuesAlike.length_eq f k vs' ws' hrest''
    simp only [planEntry, List.length_cons, hlength]
    exact agree_fail f k _ _

end

end

/-- Like accessors make like decisions. -/
theorem plan_agree (k : Ledgers) (dispatch : Dispatch) (hcalls : CallsAgree f dispatch)
    (op op' : Operation) (hop : op.Alike f k op') (args args' : Args)
    (hargs : args.Alike f k args') :
    Agree f k (fun l => Option.Rel (Write.Alike f l)) (op.plan dispatch args)
      (op'.plan dispatch args') := by
  -- Fields of another kind are met with in both runs.
  have hmismatch : Agree f k (fun l => Option.Rel (Write.Alike f l)) (throw .kindMismatch)
      (throw .kindMismatch) := fun l _ _ _ hs => ⟨rfl, l, le_refl l, hs⟩
  cases hop with
  | scalar spec spec' h =>
      simp only [Operation.plan, check_alike f k spec spec' h]
      exact planAssign_agree f k spec spec' h.name _ (blind_check f spec') args args' hargs
  | arrayPlural spec spec' h =>
      -- The kinds of like fields are the same, so both runs take the same branch.
      have hkind := h.kind
      simp only [Operation.plan]
      generalize spec.kind = kind at hkind
      generalize spec'.kind = kind' at hkind
      cases hkind with
      | array singular item schema schema' itemCallback hschema =>
          exact planAssign_agree f k spec spec' h.name _ (blind_onItems f item) args args' hargs
      | scalar constraint => exact hmismatch
      | hash singular key value schema schema' hschema => exact hmismatch
  | arrayItem spec spec' h =>
      have hkind := h.kind
      simp only [Operation.plan]
      generalize spec.kind = kind at hkind
      generalize spec'.kind = kind' at hkind
      cases hkind with
      | array singular item schema schema' itemCallback hschema =>
          exact planItem_agree f k dispatch hcalls singular item schema schema' hschema args
            args' hargs
      | scalar constraint => exact hmismatch
      | hash singular key value schema schema' hschema => exact hmismatch
  | hashPlural spec spec' h => exact planRead_agree f k spec spec' h args args' hargs
  | hashEntry spec spec' h =>
      have hkind := h.kind
      simp only [Operation.plan]
      generalize spec.kind = kind at hkind
      generalize spec'.kind = kind' at hkind
      cases hkind with
      | hash singular key value schema schema' hschema =>
          exact planEntry_agree f k dispatch hcalls singular key value schema schema' hschema
            args args' hargs
      | scalar constraint => exact hmismatch
      | array singular item schema schema' itemCallback hschema => exact hmismatch
  | inspect => exact agree_noWrite f k
  | custom name trace body => exact agree_noWrite f k

/-- An accessor makes its plan and carries it out, and both parts agree. -/
theorem accessor_agree (k : Ledgers) (dispatch : Dispatch) (hcalls : CallsAgree f dispatch)
    (op op' : Operation) (hop : op.Alike f k op') (spec spec' : FieldSpec)
    (hspec : ∀ l, k ≤ l → spec.Alike f l spec') (h : op.spec? = some spec)
    (h' : op'.spec? = some spec') (args args' : Args) (hargs : args.Alike f k args') :
    Agree f k (Value.Alike f) (op.invoke dispatch args) (op'.invoke dispatch args') := by
  rw [invoke_eq op spec h, invoke_eq op' spec' h']
  refine agree_bind f k _ _ _ _ _ _ (plan_agree f k dispatch hcalls op op' hop args args' hargs) ?_
  exact fun l hkl plan plan' hplan => carryOut_agree f l dispatch hcalls spec spec'
    (fun m hlm => hspec m (hkl.trans hlm)) plan plan' hplan

theorem SubSchema.Alike.mono (k l : Ledgers) (hkl : k ≤ l) (sub sub' : SubSchema)
    (h : sub.Alike f k sub') : sub.Alike f l sub' :=
  ⟨h.recast, Ledger.Records.mono k.left l.left hkl.left sub h.left,
    Ledger.Records.mono k.right l.right hkl.right sub' h.right⟩

theorem FieldSpec.Alike.mono (k l : Ledgers) (hkl : k ≤ l) (spec spec' : FieldSpec)
    (h : spec.Alike f k spec') : spec.Alike f l spec' where
  name := h.name
  kind := by
    have hkind := h.kind
    generalize spec.kind = kind at hkind
    generalize spec'.kind = kind' at hkind
    -- Only the nested schema depends on the ledgers.
    have hschema : ∀ schema schema', Option.Rel (SubSchema.Alike f k) schema schema' →
        Option.Rel (SubSchema.Alike f l) schema schema' := by
      intro schema schema' hrel
      cases hrel with
      | none => exact .none
      | some hsub => exact .some (SubSchema.Alike.mono f k l hkl _ _ hsub)
    cases hkind with
    | scalar constraint => exact .scalar constraint
    | array singular item schema schema' itemCallback h =>
        exact .array singular item schema schema' itemCallback (hschema schema schema' h)
    | hash singular key value schema schema' h =>
        exact .hash singular key value schema schema' (hschema schema schema' h)
  validation := h.validation
  callback := h.callback

theorem inspectHost_agree (k : Ledgers) (args args' : Args) (hargs : args.Alike f k args') :
    Agree f k (Value.Alike f) (inspectHost args) (inspectHost args') := by
  obtain ⟨values, block⟩ := args
  obtain ⟨values', block'⟩ := args'
  obtain ⟨hvalues, hblock⟩ := hargs
  unfold inspectHost
  cases hblock with
  | some _ => exact agree_fail f k _ _
  | none =>
      simp only [Option.isSome_none, Bool.false_eq_true, if_false]
      rcases ValuesAlike.cases f k values values' hvalues with
        ⟨rfl, rfl⟩ | ⟨v, vs, w, ws, rfl, rfl, -, hrest⟩
      -- Like hosts are rendered as the same text.
      · refine agree_bind f k _ _ _ _ _ _ (agree_host f k) fun l _ h h' hh => ?_
        rw [Host.Alike.toText f l h h' hh]
        exact agree_pure f l _ _ _ fun m _ => Value.alike_string f m _
      · simp only [List.isEmpty_cons, Bool.not_false, if_true, List.length_cons,
          ValuesAlike.length_eq f k vs ws hrest]
        exact agree_fail f k _ _

theorem invokeCustom_agree (k : Ledgers) (dispatch : Dispatch) (hcalls : CallsAgree f dispatch)
    (name : String) (trace : Bool) (body : Expr) (args args' : Args)
    (hargs : args.Alike f k args') :
    Agree f k (Value.Alike f) (invokeCustom dispatch name trace body args)
      (invokeCustom dispatch name trace body args') := by
  obtain ⟨values, block⟩ := args
  obtain ⟨values', block'⟩ := args'
  obtain ⟨hvalues, hblock⟩ := hargs
  -- The code runs with like values, and with blocks that agree; a note before it changes nothing of
  -- this.
  have hc : ∀ l, k ≤ l → Context.Alike f l
      ⟨dispatch, values, block.map (runSteps dispatch)⟩
      ⟨dispatch, values', block'.map (runSteps dispatch)⟩ := by
    intro l hkl
    refine ⟨rfl, hcalls, ValuesAlike.mono f k l hkl _ _ hvalues, ?_⟩
    cases hblock with
    | none => exact .none
    | some halike =>
        exact .some (runSteps_agree f l dispatch hcalls _ _ (Block.Alike.mono f k l hkl _ _ halike))
  unfold invokeCustom
  cases trace with
  | false => exact eval_agree f k _ _ (hc k (le_refl k)) body
  | true =>
      exact agree_bind f k _ _ _ _ _ _ (agree_note f k _ _) fun l hkl _ _ _ =>
        eval_agree f l _ _ (hc l hkl) body

/-- Like operations agree if the calls in them do. -/
theorem invoke_agree (k : Ledgers) (dispatch : Dispatch) (hcalls : CallsAgree f dispatch)
    (op op' : Operation) (hop : op.Alike f k op') (args args' : Args)
    (hargs : args.Alike f k args') :
    Agree f k (Value.Alike f) (op.invoke dispatch args) (op'.invoke dispatch args') := by
  have haccessor := accessor_agree f k dispatch hcalls op op' hop
  have hmono := FieldSpec.Alike.mono f k
  -- All accessors are planned and carried out in the same way.
  cases hop with
  | scalar spec spec' h =>
      exact haccessor spec spec' (fun l hkl => hmono l hkl _ _ h) rfl rfl args args' hargs
  | arrayPlural spec spec' h =>
      exact haccessor spec spec' (fun l hkl => hmono l hkl _ _ h) rfl rfl args args' hargs
  | arrayItem spec spec' h =>
      exact haccessor spec spec' (fun l hkl => hmono l hkl _ _ h) rfl rfl args args' hargs
  | hashPlural spec spec' h =>
      exact haccessor spec spec' (fun l hkl => hmono l hkl _ _ h) rfl rfl args args' hargs
  | hashEntry spec spec' h =>
      exact haccessor spec spec' (fun l hkl => hmono l hkl _ _ h) rfl rfl args args' hargs
  | inspect => exact inspectHost_agree f k args args' hargs
  | custom name trace body =>
      exact invokeCustom_agree f k dispatch hcalls name trace body args args' hargs

/-- Calls with like input on like hosts agree, however deep they nest. -/
theorem callWithin_agree (depth : Nat) : CallsAgree f (callWithin depth) := by
  -- A depth that is too small is met with in both runs, and one more lets both look up the
  -- operation.
  induction depth with
  | zero => exact fun k name args args' _ l _ s s' hs => ⟨rfl, l, le_refl l, hs⟩
  | succ depth ih =>
      intro k name args args' hargs l hkl s s' hs
      have hlater := Args.Alike.mono f k l hkl args args' hargs
      rcases optionRel_cases _ _ (Host.Alike.operation? f l s.host s'.host hs.host name) with
        ⟨hop, hop'⟩ | ⟨op, op', hop, hop', halike⟩
      · rw [callWithin_of_missing depth name args s hop,
          callWithin_of_missing depth name args' s' hop']
        exact ⟨rfl, l, le_refl l, hs⟩
      · rw [callWithin_of_operation depth name args s op hop,
          callWithin_of_operation depth name args' s' op' hop']
        exact invoke_agree f l (callWithin depth) ih op op' halike args args' hlater l (le_refl l)
          s s' hs

/-- An expression that is run on like hosts agrees with itself. -/
theorem evalWithin_agree (k : Ledgers) (depth : Nat) (e : Expr) :
    Agree f k (Value.Alike f) (evalWithin depth [] e) (evalWithin depth [] e) := by
  have hc : Context.Alike f k ⟨callWithin depth, [], none⟩ ⟨callWithin depth, [], none⟩ :=
    ⟨rfl, callWithin_agree f depth, ValuesAlike.nil f k, .none⟩
  exact eval_agree f k _ _ hc e

end

end FieldSchema
