import FieldSchema.Proofs.Code.Keeps
import FieldSchema.Proofs.Nesting.Asking
import FieldSchema.Proofs.Schema.InStep

/-!
# Definitions in Stock

Where the definitions and the operations come from that code can lay hands on.

A world keeps definitions in two places, in the cells of nested schemas and
under names. They were all made by scripts at some time, but a world does not
remember by which. What is to be known of them is therefore a condition on
worlds, which has to be kept while code runs. Code adds nothing under names.
It fills cells, and only with what the script of a nested schema makes at that
moment, so a condition on the definitions in cells is kept as soon as it holds
of everything that these scripts make.

The same question comes up for a host. An operation is on it because a
definition with that operation was attached, or because it was installed by
itself. Attaching a definition puts its operations in the place of others and
does nothing else.

## Main definitions

* `World.Stocks`: Conditions on the definitions that the world keeps.
* `Operation.From`: An operation is of one of certain definitions, or was installed by itself.
* `Host.Draws`: All operations of a host are such.

## Theorems

* `definition_stocks`: Making a nested definition keeps the conditions on the world.
* `attachWith_operation?`: What is under a name after a definition was attached.
* `attachWith_own`, `attachWith_other`: The same, for the names of the definition and for others.
* `draws_attachWith`, `draws_install`: How the operations of a host change.
-/

namespace FieldSchema

/-- Conditions on the definitions in the cells of a world and on those under names. -/
structure World.Stocks (C N : Definition → Prop) (w : World) : Prop where
  cached : ∀ cell d, w.cached? cell = some d → C d
  named : ∀ name d, NameMap.get? w.definitions name = some d → N d

section

variable {C N : Definition → Prop}

theorem stocks_empty : World.empty.Stocks C N :=
  ⟨fun _ _ h => (nomatch h), fun _ _ h => (nomatch h)⟩

theorem stocks_note (w : World) (event : Event) (h : w.Stocks C N) : (w.note event).Stocks C N :=
  ⟨h.cached, h.named⟩

/-- A script keeps nothing. -/
theorem stocks_defineUpToFault (inflector : Inflector) (options : Options) (script : Script)
    (w : World) (h : w.Stocks C N) :
    (World.defineUpToFault inflector options script w).2.Stocks C N := by
  unfold World.defineUpToFault
  cases Draft.runScript script (w.draft inflector options) <;> exact ⟨h.cached, h.named⟩

theorem stocks_fill (w : World) (cell : Nat) (d : Definition) (h : w.Stocks C N) (hd : C d) :
    (w.fill cell d).Stocks C N := by
  refine ⟨fun other e he => ?_, h.named⟩
  unfold World.cached? World.fill at he
  rw [List.lookup_cons] at he
  cases hcell : other == cell with
  | true =>
      rw [hcell] at he
      obtain rfl : d = e := Option.some.inj he
      exact hd
  | false =>
      rw [hcell] at he
      exact h.cached other e he

/-- Making the definition of a nested schema keeps the conditions on the world, if what its script
    makes there meets the condition on cells; and that is also met by the definition. -/
theorem definition_stocks (sub : SubSchema) (w : World) (hw : w.Stocks C N)
    (hmade : C (World.defineUpToFault sub.inflector sub.options sub.script w).1) :
    Ends (fun d v => v.Stocks C N ∧ C d) (fun _ v => v.Stocks C N) (sub.definition w) := by
  have hworld := stocks_defineUpToFault sub.inflector sub.options sub.script w hw
  rw [← World.define_world] at hworld
  -- The cell is full; or the script runs and the cell is filled; or the script fails.
  refine sub.definition_cases w ?_ ?_ ?_
  · exact fun d _ hkept => ⟨hw, hw.cached sub.cell d hkept⟩
  · intro d v _ hresult
    rw [hresult] at hworld
    have hd : C d := World.define_eq_ok _ _ _ w v d hresult ▸ hmade
    refine ⟨?_, hd⟩
    unfold SubSchema.keep
    split
    · exact stocks_fill v sub.cell d hworld hd
    · exact hworld
  · intro fault v _ hresult
    rw [hresult] at hworld
    exact hworld

end

/-- The operation is one of a definition as described, or was installed by itself and attaches only
    what is allowed. -/
inductive Operation.From (D : Definition → Prop) (allowed : String → Prop) : Operation → Prop
  | inspect : From D allowed .inspect
  | custom (name : String) (trace : Bool) (body : Expr) (hbody : ∀ d ∈ body.attached, allowed d) :
      From D allowed (.custom name trace body)
  | accessor (d : Definition) (hd : D d) (name : String) (op : Operation)
      (hop : (name, op) ∈ d.operations) : From D allowed op

/-- All operations of the host are of such origin. -/
def Host.Draws (D : Definition → Prop) (allowed : String → Prop) (h : Host) : Prop :=
  ∀ name op, h.operation? name = some op → op.From D allowed

theorem install_operation? (h : Host) (name other : String) (op : Operation) :
    (h.install name op).operation? other =
      if other = name then some op else h.operation? other :=
  NameMap.get?_insert h.operations name other op

theorem installAll_operation? (operations : List (String × Operation)) (h : Host) (name : String)
    (op : Operation)
    (hfound : (operations.foldl (fun h op => h.install op.1 op.2) h).operation? name = some op) :
    (name, op) ∈ operations ∨ h.operation? name = some op := by
  induction operations generalizing h with
  | nil => exact Or.inr hfound
  | cons head rest ih =>
      rcases ih (h.install head.1 head.2) hfound with hrest | hhead
      · exact Or.inl (List.mem_cons_of_mem head hrest)
      -- Found in the host with the first operation installed: it is that one, or was there before.
      · rw [install_operation?] at hhead
        by_cases hname : name = head.1
        · rw [if_pos hname] at hhead
          obtain rfl : head.2 = op := Option.some.inj hhead
          rw [hname]
          exact Or.inl List.mem_cons_self
        · rw [if_neg hname] at hhead
          exact Or.inr hhead

/-- After a definition was attached there is one of its operations under a name, or the one that
    renders the host, or what was there before. -/
theorem attachWith_operation? (d : Definition) (inspectable : Bool) (h : Host) (name : String)
    (op : Operation) (hfound : (d.attachWith inspectable h).operation? name = some op) :
    (name, op) ∈ d.operations ∨ op = .inspect ∨ h.operation? name = some op := by
  unfold Definition.attachWith at hfound
  rcases installAll_operation? d.operations _ name op hfound with hown | hbefore
  · exact Or.inl hown
  · cases inspectable with
    | false => exact Or.inr (Or.inr hbefore)
    | true =>
        simp only [if_true, install_operation?] at hbefore
        by_cases hname : name = Definition.inspectName
        · rw [if_pos hname] at hbefore
          exact Or.inr (Or.inl (Option.some.inj hbefore).symm)
        · rw [if_neg hname] at hbefore
          exact Or.inr (Or.inr hbefore)

theorem installAll_of_not_mem (operations : List (String × Operation)) (h : Host) (name : String)
    (hname : name ∉ NameMap.names operations) :
    (operations.foldl (fun h op => h.install op.1 op.2) h).operation? name =
      h.operation? name := by
  induction operations generalizing h with
  | nil => rfl
  | cons head rest ih =>
      obtain ⟨hhead, hrest⟩ := not_or.mp (fun hmem => hname (List.mem_cons.mpr hmem))
      rw [List.foldl_cons, ih _ hrest, install_operation?, if_neg hhead]

theorem installAll_of_mem (operations : List (String × Operation)) (h : Host)
    (hnodup : (NameMap.names operations).Nodup) (name : String) (op : Operation)
    (hmem : (name, op) ∈ operations) :
    (operations.foldl (fun h op => h.install op.1 op.2) h).operation? name = some op := by
  induction operations generalizing h with
  | nil => exact absurd hmem List.not_mem_nil
  | cons head rest ih =>
      obtain ⟨hhead, hrest⟩ := List.nodup_cons.mp hnodup
      rw [List.foldl_cons]
      rcases List.mem_cons.mp hmem with rfl | hlater
      · rw [installAll_of_not_mem rest _ name hhead, install_operation?, if_pos rfl]
      · exact ih _ hrest hlater

/-- After a definition was attached its operations are under their names, whatever was there. -/
theorem attachWith_own (d : Definition) (inspectable : Bool) (h : Host)
    (hnodup : d.operationNames.Nodup) (name : String) (op : Operation)
    (hmem : (name, op) ∈ d.operations) : (d.attachWith inspectable h).operation? name = some op :=
  installAll_of_mem d.operations _ hnodup name op hmem

/-- Under a name that the definition does not have there is the operation that renders the host, if
    it is the name of that, or what was there before. -/
theorem attachWith_other (d : Definition) (inspectable : Bool) (h : Host) (name : String)
    (hname : name ∉ d.operationNames) :
    (d.attachWith inspectable h).operation? name =
      if inspectable = true ∧ name = Definition.inspectName then some .inspect
      else h.operation? name := by
  unfold Definition.attachWith
  rw [installAll_of_not_mem d.operations _ name hname]
  cases inspectable with
  | false => rfl
  | true => simp only [if_true, true_and, install_operation?]

/-- Attaching stores nothing. -/
theorem attachWith_store (d : Definition) (inspectable : Bool) (h : Host) :
    (d.attachWith inspectable h).store = h.store := by
  have hall : ∀ (operations : List (String × Operation)) (h : Host),
      (operations.foldl (fun h op => h.install op.1 op.2) h).store = h.store := by
    intro operations
    induction operations with
    | nil => exact fun _ => rfl
    | cons head rest ih => exact fun h => ih (h.install head.1 head.2)
  unfold Definition.attachWith
  cases inspectable <;> exact hall d.operations _

theorem attachWith_stored? (d : Definition) (inspectable : Bool) (h : Host) (name : String) :
    (d.attachWith inspectable h).stored? name = h.stored? name := by
  unfold Host.stored?
  rw [attachWith_store]

section

variable {D : Definition → Prop} {allowed : String → Prop}

theorem draws_empty : Host.empty.Draws D allowed :=
  fun _ _ h => nomatch h

theorem draws_install (h : Host) (name tag : String) (trace : Bool) (body : Expr)
    (hbody : ∀ d ∈ body.attached, allowed d) (hh : h.Draws D allowed) :
    (h.install name (.custom tag trace body)).Draws D allowed := by
  intro other op hfound
  rw [install_operation?] at hfound
  by_cases hname : other = name
  · rw [if_pos hname] at hfound
    rw [← Option.some.inj hfound]
    exact .custom tag trace body hbody
  · rw [if_neg hname] at hfound
    exact hh other op hfound

theorem draws_attachWith (d : Definition) (inspectable : Bool) (h : Host) (hd : D d)
    (hh : h.Draws D allowed) : (d.attachWith inspectable h).Draws D allowed := by
  intro name op hfound
  rcases attachWith_operation? d inspectable h name op hfound with hown | rfl | hbefore
  · exact .accessor d hd name op hown
  · exact .inspect
  · exact hh name op hbefore

end

end FieldSchema
