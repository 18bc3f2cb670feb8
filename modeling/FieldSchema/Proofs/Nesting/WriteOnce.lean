import FieldSchema.Proofs.Nesting.Cells

/-!
# The Definition That Is Kept

Of all the definitions that a nested schema makes, the first one is kept.

A nested schema is asked for its definition from many places, because it is
copied with the field that it belongs to: into the accessors, into the list of
fields, and with the accessors to hosts. A copy has the same cell, so all that
has been asked of the copies forms one history. In it the script may do
something else each time. It is code, and may fail at one time and not at
another.

A visit is one such request together with what the script would do this time.
Visits may follow each other, and they may also lie within each other, as when
the block of one calls an accessor that makes another. What counts is the order
in which they begin. Between the beginning of one visit and that of the next
anything may happen that is not a visit. It leaves the cell alone, which no one
else can reach, and does not bring another nested schema with this cell into
reach.

## Main definitions

* `Visit`: A request for a definition, or for a host on which a block has run.
* `SubSchema.InTurn`: Visits that begin one after the other.
* `SubSchema.keptAfter`: The definition that is kept after some visits.

## Theorems

* `answered_cached?`: What one visit does to the cell.
* `evalWithin_undisturbed`: What code does to it that runs between visits, namely nothing.
* `leave_undisturbed`: The block does nothing to it either, however it ends.
* `inTurn_cached?`: What is in the cell after any visits.
* `definition_kept_is_the_first`: Every visit to a nested schema of a definition runs the script,
  unless an earlier visit has made the definition that is kept.
-/

namespace FieldSchema

namespace SubSchema

/-- A nested schema that keeps its definition has what it answers with in its cell. -/
theorem cached?_of_definition (sub : SubSchema) (v : World) (hcached : sub.isCached = true) :
    Ends (fun d w => w.cached? sub.cell = some d) (fun _ _ => True) (sub.definition v) := by
  refine sub.definition_cases v (fun _ _ hkept => hkept) ?_ fun _ _ _ _ => trivial
  intro d w _ _
  simp only [Ends, keep, hcached, if_true, World.cached?_fill]

end SubSchema

/-- What is asked of a nested schema: its definition, or a host on which a block has run. -/
inductive Request where
  | definition
  | evaluate (depth : Nat) (host : Host) (block : Block)

/-- A request, the world in which it is made, and what the script would do there. -/
structure Visit where
  world : World
  script : Script
  request : Request

section

variable (sub : SubSchema) (visit : Visit)

/-- The nested schema as it is for this visit. -/
def Visit.schema : SubSchema :=
  { sub with script := visit.script }

/-- The world when the visit has its definition, or has been refused one. -/
def Visit.answered : World :=
  finalState ((visit.schema sub).definition visit.world)

/-- The world when the visit is over. -/
def Visit.leave : World :=
  match visit.request with
  | .definition => visit.answered sub
  | .evaluate depth host block =>
      (finalState ((visit.schema sub).evaluate (callWithin depth) block ⟨host, visit.world⟩)).world

end

namespace SubSchema

/-- What happened from one world to the other has left the cell alone, and has not brought into
    reach what fills the cell of a nested schema that does not keep its definition. -/
structure Undisturbed (sub : SubSchema) (w v : World) : Prop where
  content : v.cached? sub.cell = w.cached? sub.cell
  spares : sub.isCached = false → w.Spares sub.cell → v.Spares sub.cell

theorem Undisturbed.refl (sub : SubSchema) (w : World) : sub.Undisturbed w w :=
  ⟨rfl, fun _ h => h⟩

/-- From the world on, the visits begin one after the other. -/
def InTurn (sub : SubSchema) : World → List Visit → Prop
  | _, [] => True
  | w, visit :: rest => sub.Undisturbed w visit.world ∧ sub.InTurn (visit.answered sub) rest

/-- The definition that is kept after the visits: none under the one policy, and under the other the
    first one that the script has made. -/
def keptAfter (sub : SubSchema) (visits : List Visit) : Option Definition :=
  if sub.isCached then visits.findSome? fun visit => (visit.schema sub).attempt? visit.world
  else none

theorem keptAfter_append (sub : SubSchema) (first second : List Visit) :
    sub.keptAfter (first ++ second) = (sub.keptAfter first).or (sub.keptAfter second) := by
  unfold keptAfter
  cases sub.isCached with
  | true => exact List.findSome?_append
  | false => rfl

/-- A visit leaves in the cell what was there, and fills it with its own definition if it was
    empty. -/
theorem answered_cached? (sub : SubSchema) (visit : Visit) :
    (visit.answered sub).cached? sub.cell =
      (visit.world.cached? sub.cell).or (sub.keptAfter [visit]) := by
  unfold keptAfter
  cases hcached : sub.isCached with
  | true =>
      refine (definition_own (visit.schema sub) visit.world hcached).trans ?_
      simp only [if_true, List.findSome?_singleton]
      rfl
  | false =>
      refine (definition_other (visit.schema sub) visit.world sub.cell fun _ => hcached).trans ?_
      exact Option.or_none.symm

end SubSchema

/-- No code that runs on the host can change the cell: it is filled already, or nothing in reach
    fills it. -/
inductive SubSchema.Settled (sub : SubSchema) (s : Scene) : Prop
  | filled (hcached : sub.isCached = true) (d : Definition)
      (hd : s.world.cached? sub.cell = some d) : Settled sub s
  | spared (hworld : s.world.Spares sub.cell)
      (hhost : s.host.Spares sub.cell) : Settled sub s

/-- Nor does such code leave a world in which other code could, whatever values it works with. -/
theorem undisturbed_of_conveys {α : Type} (sub : SubSchema) (act : Run α)
    (hact : ∀ C, Transmits C → (∀ v, C.value v) → Conveys C (fun _ => True) act) (s : Scene)
    (h : sub.Settled s) :
    sub.Undisturbed s.world (finalState (act s)).world := by
  cases h with
  -- A filled cell is never written again.
  | filled hcached d hd =>
      have hrun := hact _ (filled_transmits sub.cell d) (fun _ => trivial) s ⟨trivial, hd⟩
      have hend := ends_finalState (act s) (ends_mono _ hrun (fun _ _ h => h.1) fun _ _ h => h)
      exact ⟨hend.world.trans hd.symm, fun h => absurd (hcached.symm.trans h) (by decide)⟩
  -- Nothing that runs here holds the cell.
  | spared hworld hhost =>
      have hrun := hact _ (spares_transmits sub.cell (s.world.cached? sub.cell))
        (fun _ => trivial) s ⟨hhost, hworld, rfl⟩
      have hend := ends_finalState (act s) (ends_mono _ hrun (fun _ _ h => h.1) fun _ _ h => h)
      exact ⟨hend.world.2, fun _ _ => hend.world.1⟩

/-- Code that runs between visits leaves the cell alone. -/
theorem evalWithin_undisturbed (sub : SubSchema) (depth : Nat) (values : List Value) (e : Expr)
    (s : Scene) (h : sub.Settled s) :
    sub.Undisturbed s.world (finalState (evalWithin depth values e s)).world := by
  refine undisturbed_of_conveys sub _ (fun C hT hall t ht => ?_) s h
  exact ends_mono _ (evalWithin_conveys hT depth values (fun v _ => hall v) e t ht)
    (fun _ _ h => ⟨h.1, trivial⟩) fun _ _ h => h

/-- So does a block on the host that it is given. -/
theorem onHost_undisturbed (sub : SubSchema) (depth : Nat) (child host : Host) (block : Block)
    (w : World) (h : sub.Settled ⟨child, w⟩) :
    sub.Undisturbed w
      (finalState (Run.onHost child (runSteps (callWithin depth) block) ⟨host, w⟩)).world := by
  have hrun := undisturbed_of_conveys sub (runSteps (callWithin depth) block)
    (fun _ hT hall => runSteps_conveys hT (callWithin depth) (callWithin_conveys hT depth) block
      fun v _ => hall v) ⟨child, w⟩ h
  unfold Run.onHost
  cases hresult : runSteps (callWithin depth) block ⟨child, w⟩ <;>
    (rw [hresult] at hrun; exact hrun)

namespace SubSchema

/-- A block does nothing to the cell, whether it fails or not. -/
theorem leave_undisturbed (sub : SubSchema) (visit : Visit)
    (hspares : sub.isCached = false → visit.world.Spares sub.cell) :
    sub.Undisturbed (visit.answered sub) (visit.leave sub) := by
  unfold Visit.leave Visit.answered
  cases visit.request with
  | definition => exact .refl sub _
  | evaluate depth host block =>
      simp only [evaluate_eq]
      cases hanswer : (visit.schema sub).definition visit.world with
      | error fault w => exact .refl sub w
      | ok d w =>
          refine onHost_undisturbed sub depth d.instantiate host block w ?_
          cases hcached : sub.isCached with
          | true =>
              -- The block only begins when the cell is filled.
              have hfilled := cached?_of_definition (visit.schema sub) visit.world hcached
              exact .filled hcached d (ends_value _ d w hfilled hanswer)
          | false =>
              have hanswered := spares_definition (visit.schema sub) visit.world sub.cell
                (hspares hcached)
              obtain ⟨hw, hd⟩ := ends_value _ d w hanswered hanswer
              exact .spared hw (Host.spares_instantiate sub.cell d hd)

/-- When a visit begins, there is in the cell what was there at first, or else what is kept after
    the visits before. -/
theorem inTurn_cached? (sub : SubSchema) (before : List Visit) (visit : Visit) (w : World)
    (h : sub.InTurn w (before ++ [visit])) :
    visit.world.cached? sub.cell = (w.cached? sub.cell).or (sub.keptAfter before) := by
  induction before generalizing w with
  | nil =>
      rw [h.1.content]
      unfold keptAfter
      split <;> exact Option.or_none.symm
  | cons head rest ih =>
      -- What is there when the second visit begins is what the first has left.
      calc visit.world.cached? sub.cell
          = ((head.answered sub).cached? sub.cell).or (sub.keptAfter rest) :=
            ih (head.answered sub) h.2
        _ = ((w.cached? sub.cell).or (sub.keptAfter [head])).or (sub.keptAfter rest) := by
            rw [answered_cached?, h.1.content]
        _ = (w.cached? sub.cell).or (sub.keptAfter (head :: rest)) := by
            rw [Option.or_assoc, ← keptAfter_append, List.singleton_append]

/-- Nor does anything come into reach that fills the cell, if the nested schema does not. -/
theorem inTurn_spares (sub : SubSchema) (hpolicy : sub.isCached = false) (before : List Visit)
    (visit : Visit) (w : World) (hw : w.Spares sub.cell)
    (h : sub.InTurn w (before ++ [visit])) : visit.world.Spares sub.cell := by
  induction before generalizing w with
  | nil => exact h.1.spares hpolicy hw
  | cons head rest ih =>
      have hhead := spares_definition (head.schema sub) head.world sub.cell (h.1.spares hpolicy hw)
      refine ih (head.answered sub) (ends_finalState _ ?_) h.2
      exact ends_mono _ hhead (fun _ _ hv => hv.1) fun _ _ hv => hv

end SubSchema

section

variable (inflector : Inflector) (options : Options) (script : Script) (w : World)
  (spec : FieldSpec) (hspec : spec ∈ (World.defineUpToFault inflector options script w).1.fields)
  (sub : SubSchema) (hsub : spec.kind.schema? = some sub)

include hspec

/-- The accessors of a field are in the definition, and with it on every host. -/
theorem operation?_of_field (name : String) (op : Operation) (hop : (name, op) ∈ spec.operations)
    (h : Host) :
    (name, op) ∈ (World.defineUpToFault inflector options script w).1.operations ∧
      ((World.defineUpToFault inflector options script w).1.attachTo h).operation? name =
        some op := by
  have htable := World.defineUpToFault_tabulates inflector options script w
  have hmem := htable.perm.mem_iff.mpr (List.mem_flatMap.mpr ⟨spec, hspec, hop⟩)
  exact ⟨hmem, attachWith_own _ _ h htable.nodup name op hmem⟩

include hsub

/-- The nested schema of a field is given a cell of which nothing in the world knows. -/
theorem new_cell (hw : w.InBounds) :
    (World.defineUpToFault inflector options script w).2.cached? sub.cell = none ∧
      (World.defineUpToFault inflector options script w).2.Spares sub.cell := by
  have hop : (spec.name, spec.wholeOperation) ∈ spec.operations := List.mem_cons_self
  obtain ⟨hmem, -⟩ := operation?_of_field inflector options script w spec hspec _ _ hop .empty
  have hschema := (Generator.schema?_of_mem spec _ hop).trans hsub
  obtain ⟨hnew, hgiven⟩ := (World.defineUpToFault_cells inflector options script w).2 _ hmem sub
    hschema
  constructor
  · rw [World.defineUpToFault_cached?, Option.eq_none_iff_forall_ne_some]
    exact fun d hd => absurd (hw.filled sub.cell d hd) (Nat.not_lt_of_le hnew)
  · refine ⟨hgiven, World.Confined.defineUpToFault _ inflector options script w ?_⟩
    -- A cell given out before is below every new one.
    refine hw.confined.mono _ w _ fun other hother heq => ?_
    exact absurd (heq ▸ hother) (Nat.not_lt_of_le hnew)

end

/-- A nested schema of a definition is the same in all accessors of its field, on every host. Of all
    visits to it the first one that makes a definition decides what is kept, if anything is to be
    kept. Up to this visit and in it the script runs once in each; after it the script does not run
    and each visit has that definition. A visit that is refused a definition changes nothing in the
    cell, and neither does a block. -/
theorem definition_kept_is_the_first (inflector : Inflector) (options : Options) (script : Script)
    (w : World) (hw : w.InBounds) (spec : FieldSpec)
    (hspec : spec ∈ (World.defineUpToFault inflector options script w).1.fields)
    (sub : SubSchema) (hsub : spec.kind.schema? = some sub) :
    let made := World.defineUpToFault inflector options script w
    (∀ name op, (name, op) ∈ spec.operations →
      op.schema? = some sub ∧ ∀ h, (made.1.attachTo h).operation? name = some op) ∧
    ∀ before visit, sub.InTurn made.2 (before ++ [visit]) →
      visit.world.cached? sub.cell = sub.keptAfter before ∧
      (sub.keptAfter before = none → sub.RunsIn visit.world) ∧
      (∀ d, sub.keptAfter before = some d → sub.RestsIn visit.world d) ∧
      (visit.leave sub).cached? sub.cell = sub.keptAfter (before ++ [visit]) := by
  intro made
  refine ⟨fun name op hop => ⟨(Generator.schema?_of_mem spec (name, op) hop).trans hsub, fun h =>
    (operation?_of_field inflector options script w spec hspec name op hop h).2⟩, ?_⟩
  intro before visit hturn
  obtain ⟨hempty, hspares⟩ := new_cell inflector options script w spec hspec sub hsub hw
  -- The cell was new when the definition was made, so only visits have filled it.
  have hcontent : visit.world.cached? sub.cell = sub.keptAfter before := by
    rw [sub.inTurn_cached? before visit made.2 hturn, hempty, Option.none_or]
  have hleave := sub.leave_undisturbed visit fun hpolicy =>
    sub.inTurn_spares hpolicy before visit made.2 hspares hturn
  refine ⟨hcontent, fun hnone => ?_, fun d hd => ?_, ?_⟩
  · exact sub.runsIn_of_empty visit.world fun _ => hcontent.trans hnone
  · cases hcached : sub.isCached with
    | true => exact sub.restsIn_of_filled visit.world hcached d (hcontent.trans hd)
    | false =>
        unfold SubSchema.keptAfter at hd
        rw [hcached] at hd
        exact nomatch hd
  · rw [hleave.content, sub.answered_cached?, hcontent, ← sub.keptAfter_append]

/-- Three visits to the nested schema of posts: the script fails, it makes a definition and the
    block fails, and it would fail again but is not run. -/
theorem definition_kept_is_the_first_posts :
    let post : Script := [.scalar .any "title" none none]
    let script : Script := [.array "posts" none (some post) none]
    let made := World.defineUpToFault (.ofSuffix "s") {} script .empty
    let sub : SubSchema := ⟨"post", post, .ofSuffix "s", {}, 0⟩
    let refused : Visit := ⟨made.2, [.fail "too early"], .definition⟩
    let first : Visit := ⟨refused.leave sub, post, .evaluate 1 .empty ⟨[.fail "no title"], []⟩⟩
    let second : Visit := ⟨first.leave sub, [.fail "too late"], .definition⟩
    World.empty.InBounds ∧
      (∃ spec ∈ made.1.fields, spec.kind.schema? = some sub) ∧
      sub.InTurn made.2 [refused, first, second] ∧
      ∃ d, sub.keptAfter [refused] = none ∧ sub.keptAfter [refused, first] = some d ∧
        sub.RunsIn first.world ∧ sub.RestsIn second.world d ∧
        (second.leave sub).cached? 0 = sub.keptAfter [refused, first, second] := by
  intro post script made sub refused first second
  let spec : FieldSpec := ⟨"posts", .array "post" none (some sub) .wrapped, none, none⟩
  have hspec : spec ∈ made.1.fields := List.mem_cons_self
  have hleave : ∀ visit : Visit, sub.Undisturbed (visit.answered sub) (visit.leave sub) :=
    fun visit => sub.leave_undisturbed visit fun h => nomatch h
  have hturn : sub.InTurn made.2 [refused, first, second] :=
    ⟨.refl sub made.2, hleave refused, hleave first, trivial⟩
  have hbounds := World.coherent_empty.inBounds
  have hvisits := (definition_kept_is_the_first (.ofSuffix "s") {} script .empty hbounds spec hspec
    sub rfl).2
  have hkept : sub.keptAfter [refused, first] =
      some (World.defineUpToFault (.ofSuffix "s") {} post first.world).1 := rfl
  obtain ⟨-, hruns, -, -⟩ := hvisits [refused] first ⟨hturn.1, hturn.2.1, trivial⟩
  obtain ⟨-, -, hrests, hcell⟩ := hvisits [refused, first] second hturn
  exact ⟨hbounds, ⟨spec, hspec, rfl⟩, hturn, _, rfl, hkept, hruns rfl, hrests _ hkept, hcell⟩

end FieldSchema
