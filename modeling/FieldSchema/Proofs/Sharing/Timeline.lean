import FieldSchema.Proofs.Sharing.Calls

/-!
# Timelines

What is seen of a host while one step after another is run on it.

A step is an expression without arguments, which may call an operation, with
values or with a block, and may do more than that. After each step everything
is looked at that a host shows of itself: what the step came to, be it a value
or a halt, what the host stores and which operations it has, and the text that
it renders itself as. A step that halts does not end the timeline. The next
one runs on the host as it was left, in the world as it was left.

Two moments are alike if all this is the same, recast. Of a host that is
everything but the cells and policies of its nested schemas, at every depth,
and text is the same as it stands. Scenes that are alike stay so from step to
step, so their timelines are alike from beginning to end.

A run is also alike to itself. That is worth saying because it means that the
run leads to a coherent world, whatever its code is.

## Main definitions

* `Moment`: What is seen after a step.
* `timeline`: What is seen after each of several steps, and the host at the end.
* `Moment.Alike`, `TimelinesAlike`: The same up to cells and policies.

## Theorems

* `inspectWithin_agree`: What like hosts render themselves as agrees.
* `timeline_alike`: Like scenes have like timelines.
* `run_leaves`, `evalWithin_grown`: A run, and so a step, leads to a coherent world.
-/

namespace FieldSchema

/-- The value or the fault, without the state. -/
def outcomeOf {ε σ α : Type} : EStateM.Result ε σ α → Except ε α
  | .ok a _ => .ok a
  | .error e _ => .error e

/-- What is seen of a host after a step: what the step came to, the host as it is now, and the text
    that it renders itself as. -/
structure Moment where
  outcome : Except Halt Value
  host : Host
  inspected : Except Halt String

/-- What is seen after a step, and the scene in which it ends. -/
def Scene.after (depth : Nat) (step : Expr) (s : Scene) : Moment × Scene :=
  let result := evalWithin depth [] step s
  let t := finalState result
  (⟨outcomeOf result, t.host, outcomeOf (inspectWithin depth t)⟩, t)

/-- What is seen after each step, and the host at the end. -/
def timeline (depth : Nat) : List Expr → Scene → List Moment × Host
  | [], s => ([], s.host)
  | step :: rest, s =>
      let (moment, t) := s.after depth step
      let (moments, host) := timeline depth rest t
      (moment :: moments, host)

section

variable (f : SubSchemaPolicy → SubSchemaPolicy)

/-- The moments show the same: recast, the values and the hosts, and as it stands all text. -/
structure Moment.Alike (m m' : Moment) : Prop where
  outcome : m.outcome.map (Value.recast f) = m'.outcome.map (Value.recast f)
  host : m.host.recast f = m'.host.recast f
  operationNames : m.host.operationNames = m'.host.operationNames
  text : m.host.toText = m'.host.toText
  inspected : m.inspected = m'.inspected

/-- The timelines show the same after each step, and the hosts at the end are the same, recast. -/
def TimelinesAlike (a b : List Moment × Host) : Prop :=
  List.Forall₂ (Moment.Alike f) a.1 b.1 ∧ a.2.recast f = b.2.recast f

/-- What a rendering came to, as text. -/
def renderedText : Value → String
  | .string text => text
  | v => v.toText

theorem renderedText_recast (v : Value) : renderedText (v.recast f) = renderedText v := by
  cases v with
  | string text => rfl
  | nil => rfl
  | atom name => rfl
  | number n => rfl
  | boolean b => rfl
  | callable name => rfl
  | list items => exact recast_toText f (.list items)
  | map m => exact recast_toText f (.map m)
  | nested h => exact recast_toText f (.nested h)

theorem inspectWithin_eq (depth : Nat) :
    inspectWithin depth = do
      let v ← callWithin depth Definition.inspectName .none
      return renderedText v := by
  unfold inspectWithin
  congr 1
  funext v
  cases v <;> rfl

/-- Like hosts render themselves as the same text, or halt in the same way. -/
theorem inspectWithin_agree (k : Ledgers) (depth : Nat) :
    Agree f k (fun _ text text' => text = text') (inspectWithin depth) (inspectWithin depth) := by
  have hargs : Args.none.Alike f k .none := ⟨ValuesAlike.nil f k, .none⟩
  rw [inspectWithin_eq]
  refine agree_bind f k _ _ _ _ _ _ (callWithin_agree f depth k _ _ _ hargs) fun l _ v w hvw => ?_
  rw [← renderedText_recast f v, hvw.recast, renderedText_recast]
  exact agree_pure f l _ _ _ fun _ _ => rfl

/-- After a step, like scenes show the same and are alike again. -/
theorem after_alike (depth : Nat) (step : Expr) (k : Ledgers) (s s' : Scene)
    (hs : s.Alike f k s') :
    (s.after depth step).1.Alike f (s'.after depth step).1 ∧
      ∃ m, k ≤ m ∧ (s.after depth step).2.Alike f m (s'.after depth step).2 := by
  -- What is seen of like scenes, once it is known that what the step came to is the same.
  have hseen : ∀ m (t t' : Scene) (outcome outcome' : Except Halt Value), t.Alike f m t' →
      outcome.map (Value.recast f) = outcome'.map (Value.recast f) →
      Moment.Alike f ⟨outcome, t.host, outcomeOf (inspectWithin depth t)⟩
        ⟨outcome', t'.host, outcomeOf (inspectWithin depth t')⟩ := by
    intro m t t' outcome outcome' ht houtcome
    have hhost := Host.Alike.eq f m _ _ ht.host
    refine ⟨houtcome, hhost, ?_, Host.Alike.toText f m _ _ ht.host, ?_⟩
    · change t.host.operationNames = t'.host.operationNames
      rw [← Host.recast_operationNames f, hhost, Host.recast_operationNames]
    · change outcomeOf (inspectWithin depth t) = outcomeOf (inspectWithin depth t')
      rcases endTogether_cases _ _ (inspectWithin_agree f m depth m (le_refl m) t t' ht) with
        ⟨text, u, text', u', h, h', -, -, -, htext⟩ | ⟨halt, u, u', h, h', -⟩
      · rw [h, h', htext]
        rfl
      · rw [h, h']
        rfl
  unfold Scene.after
  rcases endTogether_cases _ _ (evalWithin_agree f k depth step k (le_refl k) s s' hs) with
    ⟨v, t, w, t', h, h', m, hkm, ht, hvw⟩ | ⟨halt, t, t', h, h', m, hkm, ht⟩
  · rw [h, h']
    exact ⟨hseen m t t' (.ok v) (.ok w) ht (congrArg Except.ok hvw.recast), m, hkm, ht⟩
  · rw [h, h']
    exact ⟨hseen m t t' (.error halt) (.error halt) ht rfl, m, hkm, ht⟩

/-- Like scenes have like timelines, for any steps. -/
theorem timeline_alike (depth : Nat) (steps : List Expr) (k : Ledgers) (s s' : Scene)
    (hs : s.Alike f k s') :
    TimelinesAlike f (timeline depth steps s) (timeline depth steps s') := by
  induction steps generalizing k s s' with
  | nil => exact ⟨.nil, Host.Alike.eq f k _ _ hs.host⟩
  | cons step rest ih =>
      obtain ⟨hmoment, m, -, hafter⟩ := after_alike f depth step k s s' hs
      obtain ⟨hmoments, hhost⟩ := ih m _ _ hafter
      exact ⟨.cons hmoment hmoments, hhost⟩

end

/-- The two ledgers are one, as they are where a scene is compared to itself. -/
def World.own (w : World) (l : Ledger) : Ledgers := ⟨l, l, w.names, w.names⟩

/-- A world is alike to itself if it is coherent and the scripts of its nested schemas are blind. -/
theorem World.alike_self (f : SubSchemaPolicy → SubSchemaPolicy) (l : Ledger) (w : World)
    (hw : w.Coherent l) (hblind : ∀ sub ∈ l, Script.Blind f sub.script) :
    w.Alike f (w.own l) w :=
  ⟨hw, hw, hblind, rfl, rfl, rfl, rfl⟩

/-- A scene is alike to itself, with policies as they are, if its world is coherent and its host
    confined. -/
theorem Scene.alike_self (l : Ledger) (s : Scene) (hworld : s.world.Coherent l)
    (hhost : s.host.Confined l.Records) : s.Alike id (s.world.own l) s :=
  ⟨⟨rfl, hhost, hhost⟩, s.world.alike_self id l hworld fun sub _ => Script.blind_id sub.script⟩

/-- A run that agrees with itself leads to a coherent world and to a host that is confined to it. -/
theorem run_grown {α : Type} (act : Run α) (Q : Ledgers → α → α → Prop)
    (l : Ledger) (s : Scene) (hact : Agree id (s.world.own l) Q act act)
    (hworld : s.world.Coherent l) (hhost : s.host.Confined l.Records) :
    Ends
      (fun a t => ∃ m : Ledgers, s.world.Grown l m.left t.world ∧
        t.host.Confined m.left.Records ∧ Q m a a)
      (fun _ t => ∃ m : Ledgers, s.world.Grown l m.left t.world ∧
        t.host.Confined m.left.Records)
      (act s) := by
  have hself := Scene.alike_self l s hworld hhost
  -- Ledgers that follow the ones of the scene have grown from its own.
  have hgrown : ∀ m (t : Scene), s.world.own l ≤ m → t.Alike id m t →
      s.world.Grown l m.left t.world := by
    intro m t hle ht
    have hnames : t.world.names = s.world.names := ht.world.leftNames.trans hle.leftNames.symm
    exact ⟨hle.left, ht.world.left, congrArg Names.hosts hnames,
      congrArg Names.definitions hnames⟩
  rcases endTogether_cases _ _ (hact _ (le_refl _) s s hself) with
    ⟨a, t, b, t', h, h', m, hle, ht, hab⟩ | ⟨halt, t, t', h, h', m, hle, ht⟩
  · obtain ⟨rfl, rfl⟩ := EStateM.Result.ok.inj (h.symm.trans h')
    rw [h]
    exact ⟨m, hgrown m t hle ht, ht.host.left, hab⟩
  · obtain ⟨-, rfl⟩ := EStateM.Result.error.inj (h.symm.trans h')
    rw [h]
    exact ⟨m, hgrown m t hle ht, ht.host.left⟩

/-- However the run ends, the world that it leaves is coherent and the host is confined to it. -/
theorem run_leaves {α : Type} (act : Run α) (Q : Ledgers → α → α → Prop)
    (l : Ledger) (s : Scene) (hact : Agree id (s.world.own l) Q act act)
    (hworld : s.world.Coherent l) (hhost : s.host.Confined l.Records) :
    ∃ m, s.world.Grown l m (finalState (act s)).world ∧
      (finalState (act s)).host.Confined m.Records := by
  have hends := run_grown act Q l s hact hworld hhost
  cases hrun : act s with
  | ok a t =>
      obtain ⟨m, hgrown, hconfined, -⟩ := ends_value _ a t hends hrun
      exact ⟨m.left, hgrown, hconfined⟩
  | error halt t =>
      obtain ⟨m, hgrown, hconfined⟩ := ends_fault _ halt t hends hrun
      exact ⟨m.left, hgrown, hconfined⟩

/-- A step leads to a coherent world and to a host that is confined to it. -/
theorem evalWithin_grown (depth : Nat) (step : Expr) (l : Ledger) (s : Scene)
    (hworld : s.world.Coherent l) (hhost : s.host.Confined l.Records) :
    ∃ m, s.world.Grown l m (s.after depth step).2.world ∧
      (s.after depth step).2.host.Confined m.Records :=
  run_leaves (evalWithin depth [] step) (Value.Alike id) l s
    (evalWithin_agree id (s.world.own l) depth step) hworld hhost

end FieldSchema
