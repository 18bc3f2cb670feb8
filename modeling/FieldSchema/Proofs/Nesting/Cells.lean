import FieldSchema.Proofs.Nesting.Confining
import FieldSchema.Proofs.Sharing.Ledger

/-!
# What Is in a Cell

Who can put a definition into a cell, and that none is ever replaced.

A cell is filled in one place, when a nested schema that keeps its definition
has found the cell empty and its script has succeeded. So a cell that is filled
stays as it is, whatever code runs. And a cell of which no such nested schema is
in reach stays as it is, too, be it empty or not.

The second of these needs an invariant, because scripts declare nested schemas
while code runs and these might turn out to have the cell. They do not: a
script gives out the cells from the next one on, and the cell was given out
before. No ledger has to be known for that. A script can be followed with any
ledger of the right length, so a nested schema with an old cell would have to be
recorded in all of them, also in those where it does not occur.

## Main definitions

* `SubSchema.attempt?`: The definition that the script makes now.
* `SubSchema.Spares`, `World.Spares`, `Host.Spares`: A cell is not filled by a nested schema, nor by
  any in reach, nor by calls on a host.
* `World.InBounds`: Only cells that were given out are used.

## Theorems

* `defineUpToFault_cells`: A script gives out new cells.
* `definition_own`, `definition_other`: What a request for a definition leaves in a cell.
* `filled_transmits`: No code changes a cell that is filled.
* `spares_transmits`: No code changes a cell that nothing in reach fills.
-/

namespace FieldSchema

/-- The definition that the script makes in the world, if it succeeds. -/
def SubSchema.attempt? (sub : SubSchema) (w : World) : Option Definition :=
  match World.define sub.inflector sub.options sub.script w with
  | .ok d _ => some d
  | .error _ _ => none

/-- The nested schema does not fill the cell: it has another, or does not keep its definition. -/
def SubSchema.Spares (cell : Nat) (sub : SubSchema) : Prop :=
  sub.cell = cell → sub.isCached = false

namespace World

/-- The cell was given out, and nothing that the world leads to fills it. -/
structure Spares (cell : Nat) (w : World) : Prop where
  given : cell < w.nextCell
  confined : w.Confined (SubSchema.Spares cell)

/-- Only cells that were given out are filled, and nothing that the world leads to has another. -/
structure InBounds (w : World) : Prop where
  confined : w.Confined fun sub => sub.cell < w.nextCell
  filled : ∀ cell d, w.cached? cell = some d → cell < w.nextCell

/-- A world that is coherent with a ledger is in bounds, with the length of the ledger as the
    bound. -/
theorem Coherent.inBounds (l : Ledger) (w : World) (h : w.Coherent l) : w.InBounds := by
  have hrecords : ∀ sub, l.Records sub → sub.cell < w.nextCell := fun sub hsub =>
    h.cells ▸ (List.getElem?_eq_some_iff.mp hsub).1
  refine ⟨⟨?_, ?_, ?_⟩, ?_⟩
  · exact fun name host hfound => Value.Confined.mono _ _ _ (h.hosts name host hfound) hrecords
  · exact fun cell d hd op hop sub hsub => hrecords sub ((h.cached cell d hd).1 op hop sub hsub)
  · exact fun name d hd op hop sub hsub => hrecords sub (h.definitions name d hd op hop sub hsub)
  · intro cell d hd
    obtain ⟨-, sub, hsub, -⟩ := h.cached cell d hd
    exact h.cells ▸ (List.getElem?_eq_some_iff.mp hsub).1

theorem cached?_fill (w : World) (cell other : Nat) (d : Definition) :
    (w.fill cell d).cached? other = if other = cell then some d else w.cached? other := by
  unfold cached? fill
  rw [List.lookup_cons]
  cases hcell : other == cell with
  | true => rw [if_pos (beq_iff_eq.mp hcell)]
  | false => rw [if_neg (beq_eq_false_iff_ne.mp hcell)]

section

variable (inflector : Inflector) (options : Options) (script : Script) (w : World)

/-- A script fills no cell. -/
theorem defineUpToFault_cached? (cell : Nat) :
    (defineUpToFault inflector options script w).2.cached? cell = w.cached? cell := by
  unfold defineUpToFault
  cases Draft.runScript script (w.draft inflector options) <;> rfl

/-- A script can be followed with any ledger as long as cells were given out. -/
theorem defineUpToFault_allotted (l : Ledger) (hl : w.nextCell = l.length) :
    ∃ m : Ledger, l <+: m ∧ (defineUpToFault inflector options script w).2.nextCell = m.length ∧
      (defineUpToFault inflector options script w).1.Confined m.Records := by
  obtain ⟨m, hlm, hend⟩ := runScript_allotted l w hl inflector options script
  refine ⟨m, hlm.ledger, ?_⟩
  unfold defineUpToFault
  cases hrun : Draft.runScript script (w.draft inflector options) <;>
    (rw [hrun] at hend; exact hend)

/-- The cells that a script gives out are new, and after it they are not new any more. -/
theorem defineUpToFault_cells :
    w.nextCell ≤ (defineUpToFault inflector options script w).2.nextCell ∧
      (defineUpToFault inflector options script w).1.Confined fun sub =>
        w.nextCell ≤ sub.cell ∧
          sub.cell < (defineUpToFault inflector options script w).2.nextCell := by
  -- The ledger is made up of one entry, which can be chosen.
  have hfollow := fun entry : SubSchema => defineUpToFault_allotted inflector options script w
    (List.replicate w.nextCell entry) List.length_replicate.symm
  constructor
  · obtain ⟨m, hlm, hcells, -⟩ := hfollow ⟨"", script, inflector, options, 0⟩
    have hlength := hlm.length_le
    rw [List.length_replicate] at hlength
    exact hcells ▸ hlength
  · intro op hop sub hsub
    let entry : SubSchema := { sub with cell := w.nextCell }
    obtain ⟨m, ⟨rest, rfl⟩, hcells, hconfined⟩ := hfollow entry
    have hrecords : (List.replicate w.nextCell entry ++ rest)[sub.cell]? = some sub :=
      hconfined op hop sub hsub
    refine ⟨?_, hcells ▸ (List.getElem?_eq_some_iff.mp hrecords).1⟩
    -- With an old cell the nested schema would be the entry, and that has no old cell.
    by_contra hold
    have hlt := Nat.lt_of_not_le hold
    rw [List.getElem?_append_left (by rwa [List.length_replicate]),
      List.getElem?_replicate_of_lt hlt] at hrecords
    have hcell : w.nextCell = sub.cell := congrArg SubSchema.cell (Option.some.inj hrecords)
    exact absurd hcell (Nat.ne_of_gt hlt)

/-- A script declares no nested schema that fills an old cell. -/
theorem spares_defineUpToFault (cell : Nat) (hw : w.Spares cell) :
    (defineUpToFault inflector options script w).2.Spares cell ∧
      (defineUpToFault inflector options script w).1.Confined (SubSchema.Spares cell) := by
  obtain ⟨hnext, hnew⟩ := defineUpToFault_cells inflector options script w
  have hconfined := hw.confined.defineUpToFault _ inflector options script w
  refine ⟨⟨Nat.lt_of_lt_of_le hw.given hnext, hconfined⟩, ?_⟩
  intro op hop sub hsub heq
  exact absurd (heq ▸ (hnew op hop sub hsub).1) (Nat.not_le_of_lt hw.given)

end

end World

section

variable (sub : SubSchema) (w : World) (cell : Nat)

/-- A nested schema that keeps its definition fills its cell with what its script makes, unless the
    cell is filled already. -/
theorem definition_own (hcached : sub.isCached = true) :
    (finalState (sub.definition w)).cached? sub.cell =
      (w.cached? sub.cell).or (sub.attempt? w) := by
  have hscript := World.define_world sub.inflector sub.options sub.script w
  unfold SubSchema.attempt?
  refine sub.definition_cases w ?_ ?_ ?_
  · intro d _ hkept
    rw [hkept]
    exact hkept
  · intro d v hempty hresult
    rw [hempty hcached, hresult]
    simp only [SubSchema.keep, hcached, if_true, finalState, World.cached?_fill, Option.none_or]
  · intro fault v hempty hresult
    rw [hresult] at hscript ⊢
    obtain rfl : v = _ := hscript
    -- The script has failed, and a script by itself fills no cell.
    rw [Option.or_none]
    exact World.defineUpToFault_cached? _ _ _ w sub.cell

/-- No other cell is filled, and none at all if it does not keep its definition. -/
theorem definition_other (hspares : sub.Spares cell) :
    (finalState (sub.definition w)).cached? cell = w.cached? cell := by
  have hleaves := World.defineUpToFault_cached? sub.inflector sub.options sub.script w cell
  rw [← World.define_world] at hleaves
  refine sub.definition_cases w ?_ ?_ ?_
  · exact fun _ _ _ => rfl
  · intro d v _ hresult
    rw [hresult] at hleaves
    unfold SubSchema.keep
    cases hcached : sub.isCached with
    | false => exact hleaves
    | true =>
        -- It does keep its definition, so the cell that it fills is another.
        have hne : cell ≠ sub.cell := by
          rintro rfl
          exact absurd (hspares rfl) (by rw [hcached]; decide)
        simp only [if_true, finalState, World.cached?_fill, if_neg hne]
        exact hleaves
  · intro fault v _ hresult
    rw [hresult] at hleaves
    exact hleaves

/-- A cell that is filled stays so. -/
theorem definition_filled (d : Definition) (h : w.cached? cell = some d) :
    (finalState (sub.definition w)).cached? cell = some d := by
  by_cases hspares : sub.Spares cell
  · exact (definition_other sub w cell hspares).trans h
  · obtain ⟨rfl, hcached⟩ := Classical.not_imp.mp hspares
    rw [definition_own sub w (Bool.eq_true_of_not_eq_false hcached), h]
    rfl

/-- A request for a definition brings nothing into reach that fills an old cell. -/
theorem spares_definition (hw : w.Spares cell) :
    Ends (fun d v => v.Spares cell ∧ d.Confined (SubSchema.Spares cell))
      (fun _ v => v.Spares cell) (sub.definition w) := by
  obtain ⟨hnext, hmade⟩ :=
    World.spares_defineUpToFault sub.inflector sub.options sub.script w cell hw
  have hstocks := definition_stocks sub w hw.confined.stocks hmade
  have hnamed := definition_hosts sub w
  -- Cells that were given out stay so, since the next one only moves on.
  have hgiven : cell < (finalState (sub.definition w)).nextCell := by
    rw [← World.define_world] at hnext
    refine sub.definition_cases w ?_ ?_ ?_
    · exact fun _ _ _ => hw.given
    · intro d v _ hresult
      rw [hresult] at hnext
      unfold SubSchema.keep
      split <;> exact hnext.given
    · intro fault v _ hresult
      rw [hresult] at hnext
      exact hnext.given
  cases hresult : sub.definition w with
  | ok d v =>
      rw [hresult] at hstocks hnamed hgiven
      exact ⟨⟨hgiven, hnamed ▸ hw.confined.hosts, hstocks.1⟩, hstocks.2⟩
  | error fault v =>
      rw [hresult] at hstocks hnamed hgiven
      exact ⟨hgiven, hnamed ▸ hw.confined.hosts, hstocks⟩

end

namespace Host

/-- None of the operations of the host was made for a nested schema that fills the cell. -/
def Spares (cell : Nat) (h : Host) : Prop :=
  ∀ name op, h.operation? name = some op → op.Confined (SubSchema.Spares cell)

theorem Spares.attachWith (cell : Nat) (d : Definition) (hd : d.Confined (SubSchema.Spares cell))
    (inspectable : Bool) (h : Host) (hh : h.Spares cell) :
    (d.attachWith inspectable h).Spares cell := by
  intro name op hop
  rcases attachWith_operation? d inspectable h name op hop with hown | rfl | hbefore
  · exact hd (name, op) hown
  · exact Operation.confined_inspect _
  · exact hh name op hbefore

theorem spares_instantiate (cell : Nat) (d : Definition)
    (hd : d.Confined (SubSchema.Spares cell)) : d.instantiate.Spares cell :=
  Spares.attachWith cell d hd d.inspectable .empty fun _ _ hop => nomatch hop

end Host

/-- No code changes a cell that is filled. -/
theorem filled_transmits (cell : Nat) (d : Definition) :
    Transmits (.ofValues (fun _ => True) fun w => w.cached? cell = some d) where
  closed := Value.closed_trivial
  self _ _ := trivial
  put _ _ _ _ _ := trivial
  named _ _ _ _ _ := trivial
  note _ _ hw := hw
  install _ _ _ _ _ _ := trivial
  attach _ _ _ _ _ _ _ := trivial
  nested _ w _ _ sub _ hw _ _ := by
    have hfilled := definition_filled sub w cell d hw
    unfold Conditions.Nests
    cases hresult : sub.definition w with
    | ok d' v =>
        rw [hresult] at hfilled
        exact ⟨hfilled, trivial⟩
    | error fault v =>
        rw [hresult] at hfilled
        exact hfilled

/-- No code changes a cell that nothing in reach fills, and nothing comes into reach that does. What
    the values lead to that the code works with is out of its reach. -/
theorem spares_transmits (cell : Nat) (content : Option Definition) :
    Transmits ⟨Host.Spares cell, fun _ => True, fun w => w.Spares cell ∧ w.cached? cell = content⟩
    where
  closed := Value.closed_trivial
  self _ _ := trivial
  put _ _ _ _ hh := hh
  named _ _ _ _ _ := trivial
  note w event hw :=
    ⟨⟨hw.1.given, hw.1.confined.hosts, stocks_note w event hw.1.confined.stocks⟩, hw.2⟩
  install h name tag trace body hh other op hop := by
    rw [install_operation?] at hop
    split at hop
    · obtain rfl := Option.some.inj hop
      exact Operation.confined_custom _ tag trace body
    · exact hh other op hop
  attach h _ name d hw hd hh :=
    hh.attachWith cell d (hw.1.confined.stocks.named name d hd) d.inspectable h
  nested h w name op sub hh hw hop hschema := by
    -- The operation is one of the host at hand, so its nested schema does not fill the cell.
    have hsub := hh name op hop sub hschema
    have hkept := (definition_other sub w cell hsub).trans hw.2
    have hspares := spares_definition sub w cell hw.1
    unfold Conditions.Nests
    cases hresult : sub.definition w with
    | ok d v =>
        rw [hresult] at hkept hspares
        exact ⟨⟨hspares.1, hkept⟩, Host.spares_instantiate cell d hspares.2⟩
    | error fault v =>
        rw [hresult] at hkept hspares
        exact ⟨hspares, hkept⟩

end FieldSchema
