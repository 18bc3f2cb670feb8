import FieldSchema.Proofs.Schema.Acceptance
import FieldSchema.Proofs.Sharing.Timeline

/-!
# The Order of Declarations

One script, and the same lines in another order.

Whether the lines are accepted is settled: it does not depend on their order.
If they are, both scripts make definitions with the same fields, and from then
on the order shows in one place only, the list of fields. The table of
operations is kept by name, and it consists of the operations of the fields,
so it is the same table. Only the cells are not the same. They were given out
in the order of the lines, and two nested schemas may have changed places.

Hosts get nothing from a definition but its operations. So a host with the one
definition is alike to the same host with the other, in worlds that are alike,
and alike scenes have alike timelines.

## Theorems

* `define_acceptable`: What a script of declarations makes, and when.
* `operations_eq_of_perm`: The same fields in another order have the same table.
* `order_of_declarations_unseen`: Scripts that differ in order succeed together, and hosts do not
  tell their definitions apart.
-/

namespace FieldSchema

/-- The tables that scripts make are in order. -/
theorem runScript_sorted (script : Script) (d : Draft) (h : NameMap.Sorted d.generator.operations) :
    NameMap.Sorted (finalState (Draft.runScript script d)).generator.operations := by
  refine Draft.runScript_keeps (fun g => NameMap.Sorted g.operations) script d ?_ h
  intro line _ act hact g hg
  rcases Generator.declaration_cases line act g hact with hsame | ⟨spec, n, -, hmore⟩
  · rw [hsame]
    exact hg
  · rw [hmore]
    exact NameMap.insertAll_sorted spec.operations g.operations hg

/-- A script of declarations makes a definition if its lines are acceptable, and not otherwise; the
    definition lists their fields in the order of the lines. -/
theorem define_acceptable (inflector : Inflector) (options : Options) (script : Script)
    (hplain : ∀ line ∈ script, line.act?.isSome = true) (w : World) :
    Ends
      (fun d _ => Acceptable inflector options script ∧
        d.fields.map (FieldSpec.recast id) = ownFields inflector options script ∧
        Tabulates d.operations d.fields ∧ NameMap.Sorted d.operations ∧
        d.inspectable = options.inspectable)
      (fun _ _ => ¬ Acceptable inflector options script)
      (World.define inflector options script w) := by
  -- Of no lines at all, nothing can be refused.
  have hnone : Acceptable inflector options [] := ⟨fun _ h => (nomatch h), List.nodup_nil⟩
  have hrun := runScript_acceptable inflector options script [] (w.draft inflector options) hplain
    hnone (holds_new inflector options w.nextCell)
  have hsorted := runScript_sorted script (w.draft inflector options) List.Pairwise.nil
  rw [List.nil_append] at hrun
  unfold World.define
  cases hresult : Draft.runScript script (w.draft inflector options) with
  | ok _ d =>
      rw [hresult] at hrun hsorted
      obtain ⟨hacceptable, hholds⟩ := hrun
      exact ⟨hacceptable, hholds.fields, hholds.inStep, hsorted,
        congrArg Options.inspectable hholds.options_eq⟩
  | error fault d =>
      rw [hresult] at hrun
      exact hrun

/-- Recasting the entries of a table leaves its names alone, and so their order. -/
theorem sorted_recast (operations : NameMap Operation) (h : NameMap.Sorted operations) :
    NameMap.Sorted (NameMap.mapValues (Operation.recast id) operations) := by
  unfold NameMap.Sorted
  rw [NameMap.names_mapValues]
  exact h

/-- Recast, the table consists of the operations of the recast fields. -/
theorem Tabulates.recast_perm (d : Definition) (h : Tabulates d.operations d.fields) :
    (NameMap.mapValues (Operation.recast id) d.operations).Perm
      ((d.fields.map (FieldSpec.recast id)).flatMap FieldSpec.operations) := by
  have hfields : (d.fields.map (FieldSpec.recast id)).flatMap FieldSpec.operations =
      NameMap.mapValues (Operation.recast id) (d.fields.flatMap FieldSpec.operations) := by
    unfold NameMap.mapValues
    rw [List.flatMap_map, List.map_flatMap]
    exact List.flatMap_congr fun spec _ => operations_recast id spec
  rw [hfields]
  exact h.perm.map _

/-- Definitions that have the same fields in another order have the same table. -/
theorem operations_eq_of_perm (d d' : Definition) (h : Tabulates d.operations d.fields)
    (h' : Tabulates d'.operations d'.fields) (hsorted : NameMap.Sorted d.operations)
    (hsorted' : NameMap.Sorted d'.operations)
    (hperm : (d.fields.map (FieldSpec.recast id)).Perm (d'.fields.map (FieldSpec.recast id))) :
    NameMap.mapValues (Operation.recast id) d.operations =
      NameMap.mapValues (Operation.recast id) d'.operations := by
  refine NameMap.eq_of_perm _ _ (sorted_recast d.operations hsorted)
    (sorted_recast d'.operations hsorted') ?_
  have hoperations := hperm.flatMap_right FieldSpec.operations
  exact ((h.recast_perm d).trans hoperations).trans (h'.recast_perm d').symm

/-- A host gets the same from definitions that have the same table. -/
theorem attachWith_alike (k : Ledgers) (d d' : Definition)
    (htable : NameMap.mapValues (Operation.recast id) d.operations =
      NameMap.mapValues (Operation.recast id) d'.operations)
    (hleft : d.Confined k.left.Records) (hright : d'.Confined k.right.Records)
    (inspectable : Bool) (h h' : Host) (hh : h.Alike id k h') :
    (d.attachWith inspectable h).Alike id k (d'.attachWith inspectable h') := by
  refine Host.Alike.mk id k _ _ ?_ ?_ ?_
  · -- The fields are of no account to what is attached.
    have hsame : (d.recast id).attachWith inspectable (h.recast id) =
        (d'.recast id).attachWith inspectable (h.recast id) := by
      unfold Definition.attachWith Definition.recast
      rw [htable]
    rw [recast_attachWith, recast_attachWith, ← Host.Alike.eq id k h h' hh, hsame]
  · exact confined_attachWith _ d hleft inspectable h hh.left
  · exact confined_attachWith _ d' hright inspectable h' hh.right

/-- Declarations in another order succeed if they succeed in this one. The definitions then list the
    same fields, each in the order of its script, and have operations under the same names; and
    whatever steps are run on a host with the one or the other attached, each comes to the same, or
    halts in the same way, and shows the same host, with the same text. -/
theorem order_of_declarations_unseen (l : Ledger) (w : World) (hw : w.Coherent l)
    (inflector : Inflector) (options : Options) (script script' : Script)
    (hplain : ∀ line ∈ script, line.act?.isSome = true) (hperm : script.Perm script') :
    SucceedTogether
      (fun d v d' v' => d.operationNames = d'.operationNames ∧
        d.fields.map (FieldSpec.recast id) = ownFields inflector options script ∧
        d'.fields.map (FieldSpec.recast id) = ownFields inflector options script' ∧
        (d.fields.map (FieldSpec.recast id)).Perm (d'.fields.map (FieldSpec.recast id)) ∧
        d.inspectable = d'.inspectable ∧
        ∀ inspectable h, h.Confined l.Records → ∀ depth steps,
          TimelinesAlike id (timeline depth steps ⟨d.attachWith inspectable h, v⟩)
            (timeline depth steps ⟨d'.attachWith inspectable h, v'⟩))
      (World.define inflector options script w) (World.define inflector options script' w) := by
  have hplain' : ∀ line ∈ script', line.act?.isSome = true :=
    fun line hline => hplain line (hperm.mem_iff.mpr hline)
  have hmade := define_acceptable inflector options script hplain w
  have hmade' := define_acceptable inflector options script' hplain' w
  have hgrown := World.define_grown l w hw inflector options script
  have hgrown' := World.define_grown l w hw inflector options script'
  cases hresult : World.define inflector options script w with
  | error fault v =>
      have hrefused := ends_fault _ fault v hmade hresult
      cases hresult' : World.define inflector options script' w with
      | error fault' v' => exact trivial
      | ok d' v' =>
          have haccepted := (ends_value _ d' v' hmade' hresult').1
          exact hrefused (acceptable_perm inflector options _ _ hperm.symm haccepted)
  | ok d v =>
      obtain ⟨hacceptable, hfields, htable, hsorted, hinspectable⟩ := ends_value _ d v hmade hresult
      cases hresult' : World.define inflector options script' w with
      | error fault' v' =>
          have hrefused := ends_fault _ fault' v' hmade' hresult'
          exact hrefused (acceptable_perm inflector options _ _ hperm hacceptable)
      | ok d' v' =>
          obtain ⟨-, hfields', htable', hsorted', hinspectable'⟩ :=
            ends_value _ d' v' hmade' hresult'
          obtain ⟨m, hw', hconfined, -⟩ := ends_value _ d v hgrown hresult
          obtain ⟨m', hw'', hconfined', -⟩ := ends_value _ d' v' hgrown' hresult'
          have hsame : (d.fields.map (FieldSpec.recast id)).Perm
              (d'.fields.map (FieldSpec.recast id)) := by
            rw [hfields, hfields']
            exact hperm.filterMap _
          have hoperations := operations_eq_of_perm d d' htable htable' hsorted hsorted' hsame
          have hself := w.alike_self id l hw fun sub _ => Script.blind_id sub.script
          -- Both scripts start in one world, but leave it with cells of their own.
          obtain ⟨k, hle, hworlds, rfl, rfl⟩ :=
            World.Grown.alike id (w.own l) m m' w w v v' hself hw' hw''
              fun sub _ => Script.blind_id sub.script
          refine ⟨?_, hfields, hfields', hsame, hinspectable.trans hinspectable'.symm, ?_⟩
          · have hnames := congrArg NameMap.names hoperations
            rwa [NameMap.names_mapValues, NameMap.names_mapValues] at hnames
          · intro inspectable h hh depth steps
            have hhost : h.Alike id k h :=
              Value.Alike.mono id (w.own l) k hle _ _ (Host.Alike.mk id (w.own l) h h rfl hh hh)
            have hattached := attachWith_alike k d d' hoperations hconfined hconfined' inspectable h h
              hhost
            exact timeline_alike id depth steps k _ _ ⟨hattached, hworlds⟩

/-- Three fields of a blog, one with a nested schema, and their order reversed. -/
theorem order_of_declarations_unseen_blog :
    let script : Script :=
      [.array "pages" none (some [.scalar .string "title" none none]) none,
        .hash "tags" none none (some [.array "notes" none none none]) none,
        .scalar .any "author" none none]
    let inflector := Inflector.ofSuffix "s"
    World.empty.Coherent [] ∧ (∀ line ∈ script, line.act?.isSome = true) ∧
      script.Perm script.reverse ∧
      (outcomeOf (World.define inflector {} script .empty)).toOption.map
        Definition.operationNames = some ["author", "page", "pages", "tag", "tags"] ∧
      SucceedTogether
        (fun d v d' v' => d.operationNames = d'.operationNames ∧
          d.fields.map (FieldSpec.recast id) = ownFields inflector {} script ∧
          d'.fields.map (FieldSpec.recast id) = ownFields inflector {} script.reverse ∧
          (d.fields.map (FieldSpec.recast id)).Perm (d'.fields.map (FieldSpec.recast id)) ∧
          d.inspectable = d'.inspectable ∧
          ∀ inspectable h, h.Confined (Ledger.Records []) → ∀ depth steps,
            TimelinesAlike id (timeline depth steps ⟨d.attachWith inspectable h, v⟩)
              (timeline depth steps ⟨d'.attachWith inspectable h, v'⟩))
        (World.define inflector {} script .empty)
        (World.define inflector {} script.reverse .empty) := by
  intro script inflector
  have hplain : ∀ line ∈ script, line.act?.isSome = true := by
    simp only [script, List.forall_mem_cons, List.not_mem_nil, false_implies, implies_true,
      Declaration.act?, Option.isSome_some, and_self]
  have hperm : script.Perm script.reverse := (List.reverse_perm script).symm
  refine ⟨World.coherent_empty, hplain, hperm, by decide +kernel, ?_⟩
  exact order_of_declarations_unseen [] .empty World.coherent_empty inflector {} script
    script.reverse hplain hperm

end FieldSchema
