import FieldSchema.Accessor
import FieldSchema.Proofs.Sequencing

/-!
# Asking a Nested Schema

What a nested schema does when it is asked for its definition.

It has three ways to answer. It gives the definition that it has kept; or it
runs its script and gives what the script makes, which it may then keep; or its
script fails, and it keeps nothing. Whatever is known of requests is found by
going through the three, and `definition_cases` does this once.

Whether the script has run cannot be read off one answer, since a script may
make what was kept before. But it can be told from what the answer would be with
other scripts. If the script runs, the answer is what the script makes in this
world, for every script; if not, it is one definition for all of them.

## Main definitions

* `SubSchema.keep`: The world after the nested schema has made a definition.
* `SubSchema.RunsIn`, `SubSchema.RestsIn`: A request runs the script, or does not.

## Theorems

* `definition_cases`: The ways to answer a request for a definition.
* `evaluate_eq`: A request for a nested host begins with one for the definition.
* `runsIn_of_empty`, `restsIn_of_filled`: The cell decides whether the script runs.
-/

namespace FieldSchema

namespace SubSchema

/-- The world after the nested schema has made a definition. -/
def keep (sub : SubSchema) (d : Definition) (w : World) : World :=
  if sub.isCached then w.fill sub.cell d else w

/-- What holds of all ways to answer a request for a definition holds of the answer. -/
@[elab_as_elim]
theorem definition_cases (sub : SubSchema) (w : World)
    {motive : EStateM.Result Fault World Definition → Prop}
    (kept : ∀ d, sub.isCached = true → w.cached? sub.cell = some d → motive (.ok d w))
    (made : ∀ d v, (sub.isCached = true → w.cached? sub.cell = none) →
      World.define sub.inflector sub.options sub.script w = .ok d v →
        motive (.ok d (sub.keep d v)))
    (failed : ∀ fault v, (sub.isCached = true → w.cached? sub.cell = none) →
      World.define sub.inflector sub.options sub.script w = .error fault v →
        motive (.error fault v)) :
    motive (sub.definition w) := by
  unfold definition
  cases hfound : if sub.isCached then w.cached? sub.cell else none with
  | some d =>
      cases hcached : sub.isCached with
      | true =>
          rw [hcached, if_pos rfl] at hfound
          exact kept d hcached hfound
      | false =>
          rw [hcached] at hfound
          exact nomatch hfound
  | none =>
      -- Nothing was found, so a nested schema that keeps its definition has an empty cell.
      have hempty : sub.isCached = true → w.cached? sub.cell = none := by
        intro hcached
        rw [if_pos hcached] at hfound
        exact hfound
      cases hresult : World.define sub.inflector sub.options sub.script w with
      | ok d v => exact made d v hempty hresult
      | error fault v => exact failed fault v hempty hresult

end SubSchema

/-- Making the definition of a nested schema changes none of the named hosts. -/
theorem definition_hosts (sub : SubSchema) (w : World) :
    (finalState (sub.definition w)).hosts = w.hosts := by
  -- A script makes no host and gives none a name.
  have hscript : (finalState (World.define sub.inflector sub.options sub.script w)).hosts =
      w.hosts := by
    unfold World.define
    cases Draft.runScript sub.script (w.draft sub.inflector sub.options) <;> rfl
  refine sub.definition_cases w ?_ ?_ ?_
  · exact fun _ _ _ => rfl
  · intro d v _ hresult
    rw [hresult] at hscript
    unfold SubSchema.keep
    split <;> exact hscript
  · intro fault v _ hresult
    rw [hresult] at hscript
    exact hscript

/-- Making a nested host begins with asking for the definition; only if there is one, the block
    runs. -/
theorem evaluate_eq (sub : SubSchema) (dispatch : Dispatch) (block : Block) (s : Scene) :
    sub.evaluate dispatch block s =
      match sub.definition s.world with
      | .ok d w => Run.onHost d.instantiate (runSteps dispatch block) ⟨s.host, w⟩
      | .error fault w => .error (.fault fault) ⟨s.host, w⟩ := by
  unfold SubSchema.evaluate Run.inWorld
  simp only [bind, EStateM.bind]
  cases sub.definition s.world <;> rfl

namespace SubSchema

/-- A request that is made in the world runs the script once, and comes to what this comes to. -/
structure RunsIn (sub : SubSchema) (v : World) : Prop where
  definition : ∀ script, { sub with script }.definition v =
    match World.define sub.inflector sub.options script v with
    | .ok d w => .ok d (sub.keep d w)
    | .error fault w => .error fault w
  evaluate : ∀ script dispatch block host, { sub with script }.evaluate dispatch block ⟨host, v⟩ =
    match World.define sub.inflector sub.options script v with
    | .ok d w => Run.onHost d.instantiate (runSteps dispatch block) ⟨host, sub.keep d w⟩
    | .error fault w => .error (.fault fault) ⟨host, w⟩

/-- A request that is made in the world comes to the definition, whatever the script would do. -/
structure RestsIn (sub : SubSchema) (v : World) (d : Definition) : Prop where
  definition : ∀ script, { sub with script }.definition v = .ok d v
  evaluate : ∀ script dispatch block host, { sub with script }.evaluate dispatch block ⟨host, v⟩ =
    Run.onHost d.instantiate (runSteps dispatch block) ⟨host, v⟩

/-- The two exclude each other: a script may fail at once. -/
theorem not_restsIn_of_runsIn (sub : SubSchema) (v : World) (d : Definition)
    (h : sub.RunsIn v) : ¬ sub.RestsIn v d := by
  intro hrests
  have hfails := h.definition [.fail "no definition"]
  rw [hrests.definition] at hfails
  exact nomatch hfails

/-- Where there is nothing in the cell, or nothing would be kept in it, the script runs. -/
theorem runsIn_of_empty (sub : SubSchema) (v : World)
    (h : sub.isCached = true → v.cached? sub.cell = none) : sub.RunsIn v := by
  have hdefinition : ∀ script, { sub with script }.definition v =
      match World.define sub.inflector sub.options script v with
      | .ok d w => .ok d (sub.keep d w)
      | .error fault w => .error fault w := by
    intro script
    refine definition_cases { sub with script } v ?_ ?_ ?_
    -- The first way to answer is closed, since the cell is empty.
    · exact fun d hcached hkept => nomatch (h hcached).symm.trans hkept
    · intro d w _ hresult
      rw [hresult]
      rfl
    · intro fault w _ hresult
      rw [hresult]
  refine ⟨hdefinition, fun script dispatch block host => ?_⟩
  rw [evaluate_eq, hdefinition]
  cases World.define sub.inflector sub.options script v <;> rfl

/-- Where a definition is kept, it does not. -/
theorem restsIn_of_filled (sub : SubSchema) (v : World) (hcached : sub.isCached = true)
    (d : Definition) (h : v.cached? sub.cell = some d) : sub.RestsIn v d := by
  have hdefinition : ∀ script, { sub with script }.definition v = .ok d v := by
    intro script
    refine definition_cases { sub with script } v ?_ ?_ ?_
    · intro e _ hkept
      rw [Option.some.inj (h.symm.trans hkept)]
    · exact fun e w hempty _ => nomatch h.symm.trans (hempty hcached)
    · exact fun fault w hempty _ => nomatch h.symm.trans (hempty hcached)
  refine ⟨hdefinition, fun script dispatch block host => ?_⟩
  rw [evaluate_eq, hdefinition]

end SubSchema

end FieldSchema
