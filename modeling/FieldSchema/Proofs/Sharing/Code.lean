import FieldSchema.Proofs.Sharing.Agree

/-!
# Code That Agrees

An expression run twice, on hosts that differ in cells and policies alone.

The two runs evaluate the same expression. All that can differ between them is
the data, and it differs in what no expression can see: a condition goes the
same way, a function is given the same outlines, and what is rendered is the
same text. The
host at hand changes by calls, by installing and by attaching, in both runs at
the same points. So the induction over expressions asks of the calls that they
agree and of nothing else. That calls do is shown elsewhere, by an induction
on their depth.

## Main definitions

* `CallsAgree`: Calls with like input on like hosts agree.
* `Context.Alike`: Like arguments, blocks that agree, and calls that do.

## Theorems

* `outlines_alike`, `build_alike`: What is computed from like values is alike.
* `eval_agree`: An expression agrees with itself if the calls in it do.
* `runSteps_agree`: So does a block.
-/

namespace FieldSchema

section

variable (f : SubSchemaPolicy → SubSchemaPolicy)

/-- Calls by the given way of calling agree if their inputs are alike. -/
def CallsAgree (dispatch : Dispatch) : Prop :=
  ∀ k name args args', args.Alike f k args' →
    Agree f k (Value.Alike f) (dispatch name args) (dispatch name args')

/-- The arguments are alike, the blocks agree, and calls are made in the same way, by which they
    agree. -/
structure Context.Alike (k : Ledgers) (c c' : Context) : Prop where
  dispatch : c.dispatch = c'.dispatch
  calls : CallsAgree f c.dispatch
  values : ValuesAlike f k c.values c'.values
  block : Option.Rel (Agree f k Unrelated) c.block c'.block

theorem Context.Alike.mono (k l : Ledgers) (hkl : k ≤ l) (c c' : Context)
    (h : c.Alike f k c') : c.Alike f l c' where
  dispatch := h.dispatch
  calls := h.calls
  values := ValuesAlike.mono f k l hkl _ _ h.values
  block := by
    rcases optionRel_cases _ _ h.block with ⟨hb, hb'⟩ | ⟨b, b', hb, hb', hagree⟩
    · rw [hb, hb']
      exact .none
    · rw [hb, hb']
      exact .some (agree_mono f k l hkl _ _ _ hagree)

/-- Code sees the same of like values. -/
theorem outlines_alike (k : Ledgers) (vs ws : List Value) (h : ValuesAlike f k vs ws) :
    vs.map Value.outline = ws.map Value.outline := by
  have houtlines : ∀ values : List Value,
      values.map Value.outline = (values.map (Value.recast f)).map Value.outline := by
    intro values
    rw [List.map_map]
    exact List.map_congr_left fun v _ => (recast_outline f v).symm
  rw [houtlines vs, ValuesAlike.map_recast f k vs ws h, ← houtlines ws]

/-- A recipe makes like values of like values, in like worlds. -/
theorem build_alike (k : Ledgers) (w w' : World) (hw : w.Alike f k w') (vs ws : List Value)
    (h : ValuesAlike f k vs ws) (recipe : Recipe) :
    (recipe.build w.hosts vs).Alike f k (recipe.build w'.hosts ws) where
  recast := by
    rw [← build_recast, ← build_recast, hw.hosts, ValuesAlike.map_recast f k vs ws h]
  left := (confined_closed _).build _ hw.left.hosts vs ((Value.confined_list_iff _ vs).mp h.left)
    recipe
  right := (confined_closed _).build _ hw.right.hosts ws
    ((Value.confined_list_iff _ ws).mp h.right) recipe

/-- Attaching by name attaches like definitions, or nothing in both runs. -/
theorem agree_attach (k : Ledgers) (name : String) :
    Agree f k (Value.Alike f)
      (do
        match NameMap.get? (← get).world.definitions name with
        | some d => Run.modifyHost d.attachTo
        | none => pure ()
        return Value.nil)
      (do
        match NameMap.get? (← get).world.definitions name with
        | some d => Run.modifyHost d.attachTo
        | none => pure ()
        return Value.nil) := by
  intro l hkl s s' hs
  rw [get_bind, get_bind]
  -- Under the name there are like definitions, or none.
  have hfound := congrArg (fun definitions => NameMap.get? definitions name) hs.world.definitions
  simp only [NameMap.get?_mapValues] at hfound
  cases hd : NameMap.get? s.world.definitions name with
  | none =>
      rw [hd, Option.map_none, eq_comm, Option.map_eq_none_iff] at hfound
      rw [hfound]
      exact ⟨l, le_refl l, hs, Value.alike_nil f l⟩
  | some d =>
      rw [hd, Option.map_some, eq_comm, Option.map_eq_some_iff] at hfound
      obtain ⟨d', hd', hrecast⟩ := hfound
      rw [hd']
      refine ⟨l, le_refl l, ⟨?_, hs.world⟩, Value.alike_nil f l⟩
      exact Host.Alike.attachTo f l s.host s'.host hs.host d d' hrecast.symm
        (hs.world.left.definitions name d hd) (hs.world.right.definitions name d' hd')

theorem agree_host (k : Ledgers) :
    Agree f k (fun l h h' => h.Alike f l h') Run.host Run.host :=
  agree_look f k _ Scene.host Scene.host fun _ _ _ _ hs => hs.host

mutual

/-- An expression agrees with itself on like hosts, with like arguments, if the calls in it and
    the block beside it do. -/
theorem eval_agree (k : Ledgers) (c c' : Context) (hc : c.Alike f k c') (e : Expr) :
    Agree f k (Value.Alike f) (e.eval c) (e.eval c') := by
  match e with
  | .literal v =>
      exact agree_look f k _ (fun s => v.value s.world.hosts) (fun s => v.value s.world.hosts)
        fun l _ s s' hs => build_alike f l _ _ hs.world [] [] (ValuesAlike.nil f l) (.literal v)
  | .argument i =>
      exact agree_pure f k _ _ _ fun l hkl =>
        ValuesAlike.getD f l _ _ (ValuesAlike.mono f k l hkl _ _ hc.values) i
  | .arguments =>
      exact agree_pure f k _ _ _ fun l hkl => ValuesAlike.mono f k l hkl _ _ hc.values
  | .fail reason => exact agree_fail f k _ _
  | .log tag =>
      exact agree_bind f k _ _ _ _ _ _ (agree_note f k _ _) fun l _ _ _ _ =>
        agree_pure f l _ _ _ fun m _ => Value.alike_nil f m
  | .call operation arguments splat captures block =>
      rw [Expr.eval, Expr.eval]
      refine agree_bind f k _ _ _ _ _ _ (evalAll_agree k c c' hc arguments) ?_
      intro l hkl vs ws hvs
      refine agree_bind f l _ _ _ _ _ _
        (agree_mono f k l hkl _ _ _ (evalAll_agree k c c' hc captures)) ?_
      intro m hlm us us' hus
      rw [← hc.dispatch]
      refine hc.calls m operation _ _ ⟨?_, Block.alike_written f m us us' hus block⟩
      have hown := ValuesAlike.mono f l m hlm vs ws hvs
      cases splat with
      | false => exact hown
      | true =>
          exact ValuesAlike.append f m vs ws _ _ hown
            (ValuesAlike.mono f k m (hkl.trans hlm) _ _ hc.values)
  | .sequence steps => exact evalLast_agree k c c' hc .nil .nil (Value.alike_nil f k) steps
  | .attempt body => exact agree_recover f k _ _ (eval_agree k c c' hc body)
  | .choose condition consequent alternative =>
      rw [Expr.eval, Expr.eval]
      refine agree_bind f k _ _ _ _ _ _ (eval_agree k c c' hc condition) ?_
      intro l hkl v w hvw
      -- Both conditions count as true, or none does.
      rw [← recast_isTruthy f v, hvw.recast, recast_isTruthy]
      split
      · exact agree_mono f k l hkl _ _ _ (eval_agree k c c' hc consequent)
      · exact agree_mono f k l hkl _ _ _ (eval_agree k c c' hc alternative)
  | .stored name =>
      refine agree_bind f k _ _ _ _ _ _ (agree_host f k) fun l _ h h' hh => ?_
      refine agree_pure f l _ _ _ fun m hlm => Value.Alike.mono f l m hlm _ _ ?_
      rcases optionRel_cases _ _ (Host.Alike.stored? f l h h' hh name) with
        ⟨hv, hw⟩ | ⟨v, w, hv, hw, hvw⟩
      · rw [hv, hw]
        exact Value.alike_of_plain f l _ rfl rfl rfl
      · rw [hv, hw]
        exact hvw
  | .typeName of =>
      rw [Expr.eval, Expr.eval]
      refine agree_bind f k _ _ _ _ _ _ (eval_agree k c c' hc of) fun l _ v w hvw => ?_
      rw [← recast_typeName f v, hvw.recast, recast_typeName]
      exact agree_pure f l _ _ _ fun m _ => Value.alike_string f m _
  | .shown of =>
      rw [Expr.eval, Expr.eval]
      refine agree_bind f k _ _ _ _ _ _ (eval_agree k c c' hc of) fun l _ v w hvw => ?_
      rw [← recast_toText f v, hvw.recast, recast_toText]
      exact agree_pure f l _ _ _ fun m _ => Value.alike_string f m _
  | .render =>
      refine agree_bind f k _ _ _ _ _ _ (agree_host f k) fun l _ h h' hh => ?_
      rw [Host.Alike.toText f l h h' hh]
      exact agree_pure f l _ _ _ fun m _ => Value.alike_string f m _
  | .self =>
      refine agree_bind f k _ _ _ _ _ _ (agree_host f k) fun l _ h h' hh => ?_
      exact agree_pure f l _ _ _ fun m hlm => Value.Alike.mono f l m hlm _ _ hh
  | .responds name =>
      refine agree_bind f k _ _ _ _ _ _ (agree_host f k) fun l _ h h' hh => ?_
      rw [Host.Alike.respondsTo f l h h' hh]
      exact agree_pure f l _ _ _ fun m _ => Value.alike_boolean f m _
  | .define name trace body =>
      refine agree_bind f k _ _ _ _ _ _ (agree_modifyHost f k _ _ fun l _ h h' hh => ?_)
        fun l _ _ _ _ => agree_pure f l _ _ _ fun m _ => Value.alike_nil f m
      exact Host.Alike.installCustom f l h h' hh name name trace body
  | .attach definition => exact agree_attach f k definition
  | .hasBlock =>
      have hblock : c.block.isSome = c'.block.isSome := by
        rcases optionRel_cases _ _ hc.block with ⟨hb, hb'⟩ | ⟨b, b', hb, hb', -⟩
        · rw [hb, hb']
        · rw [hb, hb']
          rfl
      refine agree_pure f k _ _ _ fun l _ => ?_
      rw [hblock]
      exact Value.alike_boolean f l _
  | .runBlock =>
      rw [Expr.eval, Expr.eval]
      rcases optionRel_cases _ _ hc.block with ⟨hb, hb'⟩ | ⟨b, b', hb, hb', hagree⟩
      · rw [hb, hb']
        exact agree_pure f k _ _ _ fun m _ => Value.alike_nil f m
      · rw [hb, hb']
        exact agree_bind f k _ _ _ _ _ _ hagree fun l _ _ _ _ =>
          agree_pure f l _ _ _ fun m _ => Value.alike_nil f m
  | .compute function inputs =>
      rw [Expr.eval, Expr.eval]
      refine agree_bind f k _ _ _ _ _ _ (evalAll_agree k c c' hc inputs) fun l _ vs ws hvs => ?_
      -- The function is given the same outlines, so both runs follow the same recipe.
      rw [outlines_alike f l vs ws hvs]
      exact agree_look f l _ (fun s => Recipe.build s.world.hosts vs _)
        (fun s => Recipe.build s.world.hosts ws _) fun m hlm s s' hs =>
          build_alike f m _ _ hs.world vs ws (ValuesAlike.mono f l m hlm vs ws hvs) _

/-- Expressions that are evaluated in order agree with themselves. -/
theorem evalAll_agree (k : Ledgers) (c c' : Context) (hc : c.Alike f k c') (es : List Expr) :
    Agree f k (ValuesAlike f) (evalAll c es) (evalAll c' es) := by
  match es with
  | [] => exact agree_pure f k _ _ _ fun l _ => ValuesAlike.nil f l
  | e :: rest =>
      rw [evalAll, evalAll]
      refine agree_bind f k _ _ _ _ _ _ (eval_agree k c c' hc e) fun l hkl v w hvw => ?_
      refine agree_bind f l _ _ _ _ _ _
        (agree_mono f k l hkl _ _ _ (evalAll_agree k c c' hc rest)) fun m hlm vs ws hvs => ?_
      exact agree_pure f m _ _ _ fun n hmn => ValuesAlike.cons f n v w vs ws
        (Value.Alike.mono f l n (hlm.trans hmn) v w hvw) (ValuesAlike.mono f m n hmn vs ws hvs)

/-- The same holds if only the last value is wanted. -/
theorem evalLast_agree (k : Ledgers) (c c' : Context) (hc : c.Alike f k c') (last last' : Value)
    (hlast : last.Alike f k last') (es : List Expr) :
    Agree f k (Value.Alike f) (evalLast c last es) (evalLast c' last' es) := by
  match es with
  | [] => exact agree_pure f k _ _ _ fun l hkl => Value.Alike.mono f k l hkl _ _ hlast
  | e :: rest =>
      rw [evalLast, evalLast]
      refine agree_bind f k _ _ _ _ _ _ (eval_agree k c c' hc e) fun l hkl v w hvw => ?_
      exact evalLast_agree l c c' (Context.Alike.mono f k l hkl c c' hc) v w hvw rest

end

/-- Like blocks agree on like hosts if the calls in them do. -/
theorem runSteps_agree (k : Ledgers) (dispatch : Dispatch) (hcalls : CallsAgree f dispatch)
    (block block' : Block) (h : block.Alike f k block') :
    Agree f k Unrelated (runSteps dispatch block) (runSteps dispatch block') := by
  have hc : Context.Alike f k ⟨dispatch, block.captured, none⟩ ⟨dispatch, block'.captured, none⟩ :=
    ⟨rfl, hcalls, h.captured, .none⟩
  unfold runSteps
  rw [← h.steps]
  refine agree_bind f k _ _ _ _ _ _
    (evalLast_agree f k _ _ hc .nil .nil (Value.alike_nil f k) block.steps) fun l _ _ _ _ => ?_
  exact agree_pure f l _ _ _ fun _ _ => trivial

end

end FieldSchema
