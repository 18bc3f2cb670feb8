import FieldSchema.Proofs.Code.Inheriting
import FieldSchema.Proofs.History.Recording
import FieldSchema.Proofs.Schema.RightKind
import FieldSchema.Proofs.Schema.Stock

/-!
# The Life of a Host

Everything that has happened to a host since it was new.

A host is made without operations and without a store. After that it is
called, code runs on it, definitions are attached and custom operations are put
on it, from outside or by its own code, and in between other hosts change the
world. `Lives` goes along with all this and keeps the list of the changes. What
a host is at the end of such a life depends on the changes alone, which lead
to it from the new host.

Two things about a host can then be read off its list. A slot has been
changed by the writes to it, one after another, and by nothing else. And under
a name there is what was put there last.

A definition tells what its accessors do only as long as they are the ones
that are called. So it matters what else has been put on a host. Where a
definition is the only one, and none of its names has been given to a custom
operation, every write was made by one of its accessors, to the slot of that
accessor's own field.

## Main definitions

* `Lives`: A scene in which a host can be found, and the changes that led there.
* `writesTo`: The writes to one slot, in order.
* `Change.Respects`: The change keeps the definition the only one, with its operations in place.
* `Definition.Sole`: A definition that a script made is the only one in the history of a host.
* `lifeOf`: A definition is attached to a host, which is then called several times.

## Theorems

* `lives_leads`: The changes lead from the new host to the host at the end.
* `lives_meets`: What holds of everything given, and is heritable, holds of the host.
* `evaluate_lives`: A nested host has such a life, too.
* `leads_stored?`: A slot has been changed by the writes to it.
* `accessor_origin`, `leads_wrote`: Accessors and writes go back to attached definitions.
* `written_by_own`: Where a definition is the only one, its accessors have made all the writes.
* `lives_stored?`, `lives_operation?`: What is in a slot, and under a name of a field.
-/

namespace FieldSchema

/-- The host in the scene has come there from a new one, by way of the changes. What came in from
    outside, as an argument or as a host with a name, meets the condition. -/
inductive Lives (given : Value → Prop) : List Change → Scene → Prop
  /-- It is new. -/
  | new (w : World) (hw : HostsMeet given w.hosts) : Lives given [] ⟨.empty, w⟩
  /-- One of its operations was called, and the call has ended somehow. -/
  | called (changes : List Change) (s : Scene) (depth : Nat) (name : String) (args : Args)
      (hargs : ∀ v ∈ args.given, given v) (hs : Lives given changes s) :
      Lives given (changes ++ callChanges depth name args s)
        (finalState (callWithin depth name args s))
  /-- Code was run on it, and has ended somehow. -/
  | ran (changes : List Change) (s : Scene) (depth : Nat) (values : List Value) (e : Expr)
      (hvalues : ∀ v ∈ values, given v) (hs : Lives given changes s) :
      Lives given (changes ++ codeChanges depth values e s)
        (finalState (evalWithin depth values e s))
  /-- A custom operation was put on it from outside. -/
  | defined (changes : List Change) (s : Scene) (name tag : String) (trace : Bool) (body : Expr)
      (hs : Lives given changes s) :
      Lives given (changes ++ [.defined name tag trace body])
        ⟨s.host.install name (.custom tag trace body), s.world⟩
  /-- A definition was attached from outside. -/
  | attached (changes : List Change) (s : Scene) (d : Definition) (inspectable : Bool)
      (hs : Lives given changes s) :
      Lives given (changes ++ [.attached d inspectable])
        ⟨d.attachWith inspectable s.host, s.world⟩
  /-- The world has changed in between. -/
  | elsewhere (changes : List Change) (s : Scene) (w : World) (hw : HostsMeet given w.hosts)
      (hs : Lives given changes s) : Lives given changes ⟨s.host, w⟩

section

variable {given : Value → Prop}

/-- The changes lead from the new host to the host at the end. -/
theorem lives_leads (changes : List Change) (s : Scene) (h : Lives given changes s) :
    Leads .empty changes s.host := by
  induction h with
  | new w hw => exact .nil .empty
  | called changes s depth name args hargs hs ih =>
      exact leads_append _ _ _ _ _ ih (callWithin_records depth name args s)
  | ran changes s depth values e hvalues hs ih =>
      exact leads_append _ _ _ _ _ ih (evalWithin_records depth values e s)
  | defined changes s name tag trace body hs ih =>
      exact leads_append _ _ _ _ _ ih (leads_single (.defined name tag trace body) s.host trivial)
  | attached changes s d inspectable hs ih =>
      exact leads_append _ _ _ _ _ ih (leads_single (.attached d inspectable) s.host trivial)
  | elsewhere changes s w hw hs ih => exact ih

/-- A heritable condition on what comes in from outside holds of the host all the time. -/
theorem lives_meets (hgiven : Value.Heritable given) (changes : List Change) (s : Scene)
    (h : Lives given changes s) : s.Meets given := by
  induction h with
  | new w hw => exact ⟨hgiven.emptyHost, hw⟩
  | called changes s depth name args hargs hs ih =>
      have hcall := callWithin_inherits hgiven depth name args hargs s ih
      exact ends_finalState _ (ends_mono _ hcall (fun _ _ h => h.1) fun _ _ h => h)
  | ran changes s depth values e hvalues hs ih =>
      have hcode := evalWithin_inherits hgiven depth values hvalues e s ih
      exact ends_finalState _ (ends_mono _ hcode (fun _ _ h => h.1) fun _ _ h => h)
  | defined changes s name tag trace body hs ih =>
      exact ⟨hgiven.operations s.host _ rfl ih.host, ih.named⟩
  | attached changes s d inspectable hs ih =>
      exact ⟨hgiven.attachWith d inspectable s.host ih.host, ih.named⟩
  | elsewhere changes s w hw hs ih => exact ⟨ih.host, hw⟩

/-- The life of a nested host: its definition is attached to a new host, and the block runs. -/
theorem evaluate_lives (sub : SubSchema) (depth : Nat) (block : Block) (s t : Scene) (child : Host)
    (hs : HostsMeet given s.world.hosts) (hblock : ∀ v ∈ block.captured, given v)
    (h : sub.evaluate (callWithin depth) block s = .ok child t) :
    ∃ d w, sub.definition s.world = .ok d w ∧
      Lives given (.attached d d.inspectable ::
        codeChanges depth block.captured (.sequence block.steps) ⟨d.instantiate, w⟩)
          ⟨child, t.world⟩ := by
  unfold SubSchema.evaluate at h
  cases hd : sub.definition s.world with
  | error fault w =>
      have hfailed : Run.inWorld sub.definition s = .error (.fault fault) ⟨s.host, w⟩ := by
        unfold Run.inWorld
        rw [hd]
      rw [bind_of_error _ _ _ _ _ hfailed] at h
      exact nomatch h
  | ok d w =>
      have hmade : Run.inWorld sub.definition s = .ok d ⟨s.host, w⟩ := by
        unfold Run.inWorld
        rw [hd]
      rw [bind_of_ok _ _ _ _ _ hmade] at h
      refine ⟨d, w, rfl, ?_⟩
      have hw : HostsMeet given w.hosts := by
        have hnamed := definition_hosts sub s.world
        rw [hd] at hnamed
        exact hnamed ▸ hs
      have hlife := Lives.ran _ _ depth block.captured (.sequence block.steps) hblock
        (.attached [] ⟨.empty, w⟩ d d.inspectable (.new w hw))
      -- To run a block is to evaluate its steps in sequence, and to forget the last value.
      have hrun : finalState (runSteps (callWithin depth) block ⟨d.instantiate, w⟩) =
          finalState (evalWithin depth block.captured (.sequence block.steps)
            ⟨d.instantiate, w⟩) := by
        change finalState
          ((fun _ => ()) <$> evalWithin depth block.captured (.sequence block.steps) <|
            ⟨d.instantiate, w⟩) = _
        exact finalState_map _ _ _
      have hchild : (⟨child, t.world⟩ : Scene) =
          finalState (runSteps (callWithin depth) block ⟨d.instantiate, w⟩) := by
        simp only [Run.onHost] at h
        cases hsteps : runSteps (callWithin depth) block ⟨d.instantiate, w⟩ with
        | error halt u =>
            rw [hsteps] at h
            exact nomatch h
        | ok _ u =>
            rw [hsteps] at h
            obtain ⟨rfl, rfl⟩ := EStateM.Result.ok.inj h
            rfl
      rw [hchild, hrun]
      exact hlife

end

/-- The write that the change makes to the slot, if it makes one. -/
def Change.write? (name : String) : Change → Option Write
  | .wrote spec _ write => if spec.name = name then some write else none
  | .defined _ _ _ _ => none
  | .attached _ _ => none

/-- The writes to the slot, in order. -/
def writesTo (name : String) (changes : List Change) : List Write :=
  changes.filterMap (Change.write? name)

theorem mem_writesTo (name : String) (changes : List Change) (write : Write)
    (h : write ∈ writesTo name changes) :
    ∃ spec args, .wrote spec args write ∈ changes ∧ spec.name = name := by
  obtain ⟨change, hmem, hwrite⟩ := List.mem_filterMap.mp h
  cases change with
  | wrote spec args own =>
      obtain ⟨hname, heq⟩ := Option.ite_none_right_eq_some.mp hwrite
      obtain rfl := Option.some.inj heq
      exact ⟨spec, args, hmem, hname⟩
  | defined => exact nomatch hwrite
  | attached => exact nomatch hwrite

/-- What writes make of a slot, which may be empty. -/
def slotAfter (old : Option Value) (writes : List Write) : Option Value :=
  writes.foldl (fun slot write => some (write.update (slot.getD .nil))) old

theorem slotAfter_concat (old : Option Value) (writes : List Write) (write : Write) :
    slotAfter old (writes ++ [write]) =
      some (write.update ((slotAfter old writes).getD .nil)) := by
  unfold slotAfter
  rw [List.foldl_append]
  rfl

/-- A slot has been changed by the writes to it, one after another. -/
theorem leads_stored? (changes : List Change) (h h' : Host) (hleads : Leads h changes h')
    (name : String) : h'.stored? name = slotAfter (h.stored? name) (writesTo name changes) := by
  induction hleads with
  | nil h => rfl
  | cons change changes h h' hpossible hrest ih =>
      rw [ih]
      -- Of all changes only a write touches a slot, and only the slot of its own field.
      cases change with
      | wrote spec args write =>
          rw [Change.apply, FieldSpec.put_stored?]
          by_cases hname : spec.name = name
          · have hwrites : writesTo name (.wrote spec args write :: changes) =
                write :: writesTo name changes :=
              List.filterMap_cons_some (if_pos hname)
            rw [if_pos hname.symm, hwrites, hname]
            rfl
          · have hwrites : writesTo name (.wrote spec args write :: changes) =
                writesTo name changes :=
              List.filterMap_cons_none (if_neg hname)
            rw [if_neg (Ne.symm hname), hwrites]
      | defined other tag trace body => rfl
      | attached d inspectable => rw [Change.apply, attachWith_stored?]; rfl

/-- An accessor on a host was there before, or a definition has brought it. -/
theorem accessor_origin (changes : List Change) (h h' : Host) (hleads : Leads h changes h')
    (name : String) (op : Operation) (spec : FieldSpec) (hfound : h'.operation? name = some op)
    (hop : op.spec? = some spec) :
    h.operation? name = some op ∨
      ∃ d inspectable, .attached d inspectable ∈ changes ∧ (name, op) ∈ d.operations := by
  induction hleads with
  | nil h => exact Or.inl hfound
  | cons change changes h h' hpossible hrest ih =>
      rcases ih hfound with hhere | ⟨d, inspectable, hmem, hown⟩
      · -- It was there after this change, so it was there before, or this change has brought it.
        cases change with
        | wrote other args write => exact Or.inl hhere
        | defined other tag trace body =>
            rw [Change.apply, install_operation?] at hhere
            split at hhere
            · rw [← Option.some.inj hhere] at hop
              exact nomatch hop
            · exact Or.inl hhere
        | attached d inspectable =>
            rcases attachWith_operation? d inspectable h name op hhere with hown | rfl | hbefore
            · exact Or.inr ⟨d, inspectable, List.mem_cons_self, hown⟩
            · exact nomatch hop
            · exact Or.inl hbefore
      · exact Or.inr ⟨d, inspectable, List.mem_cons_of_mem change hmem, hown⟩

/-- A write was made on the host to which the changes before it lead, by an accessor of a definition
    that was attached before. -/
theorem leads_wrote (before after : List Change) (spec : FieldSpec) (args : Args) (write : Write)
    (h' : Host) (hleads : Leads .empty (before ++ .wrote spec args write :: after) h') :
    ∃ h, Leads .empty before h ∧ Leads (spec.put write h) after h' ∧
      ∃ d inspectable name op, .attached d inspectable ∈ before ∧ (name, op) ∈ d.operations ∧
        op.spec? = some spec ∧ Change.Accepts op h args write := by
  obtain ⟨h, hbefore, hrest⟩ := leads_split before _ .empty h' hleads
  obtain ⟨⟨name, op, hfound, hop, haccepts⟩, hafter⟩ := leads_cons _ after h h' hrest
  refine ⟨h, hbefore, hafter, ?_⟩
  rcases accessor_origin before .empty h hbefore name op spec hfound hop with hnone | horigin
  · exact nomatch hnone
  · obtain ⟨d, inspectable, hmem, hown⟩ := horigin
    exact ⟨d, inspectable, name, op, hmem, hown, hop, haccepts⟩

namespace Change

/-- The change attaches no other definition, and puts no custom operation under one of the names
    of this one. -/
def Respects (d : Definition) : Change → Prop
  | .wrote _ _ _ => True
  | .defined name _ _ _ => name ∉ d.operationNames
  | .attached other _ => other = d

end Change

section

variable (d : Definition)

/-- Every operation of the definition is on the host, under its name. -/
def Host.BearsAll (h : Host) : Prop :=
  ∀ name op, (name, op) ∈ d.operations → h.operation? name = some op

theorem bearsAll_apply (change : Change) (hchange : change.Respects d)
    (hnodup : d.operationNames.Nodup) (h : Host) (hh : h.BearsAll d) :
    (change.apply h).BearsAll d := by
  cases change with
  | wrote spec args write => exact hh
  | defined name tag trace body =>
      intro other op hmem
      have hne : other ≠ name := by
        rintro rfl
        exact hchange (List.mem_map_of_mem hmem)
      rw [Change.apply, install_operation?, if_neg hne]
      exact hh other op hmem
  | attached other inspectable =>
      obtain rfl : other = d := hchange
      exact fun name op hmem => attachWith_own other inspectable h hnodup name op hmem

/-- From the first time that it was attached, the operations of the definition are in place. -/
theorem leads_bearsAll (changes : List Change) (h h' : Host) (hleads : Leads h changes h')
    (hrespects : ∀ change ∈ changes, change.Respects d) (hnodup : d.operationNames.Nodup)
    (hattached : h.BearsAll d ∨ ∃ inspectable, .attached d inspectable ∈ changes) :
    h'.BearsAll d := by
  -- The definition is in place already, or is still to be attached; each change keeps one of both.
  induction hleads with
  | nil h =>
      rcases hattached with hh | ⟨inspectable, hmem⟩
      · exact hh
      · exact absurd hmem List.not_mem_nil
  | cons change changes h h' hpossible hrest ih =>
      obtain ⟨hchange, hchanges⟩ := List.forall_mem_cons.mp hrespects
      refine ih hchanges ?_
      rcases hattached with hh | ⟨inspectable, hmem⟩
      · exact Or.inl (bearsAll_apply d change hchange hnodup h hh)
      · rcases List.mem_cons.mp hmem with rfl | hlater
        · exact Or.inl fun name op hown => attachWith_own d inspectable h hnodup name op hown
        · exact Or.inr ⟨inspectable, hlater⟩

end

/-- The only definition that a host has ever had, made by a script, and its operations in place. -/
structure Definition.Sole (d : Definition) (changes : List Change) : Prop where
  genuine : d.Genuine
  respects : ∀ change ∈ changes, change.Respects d
  attached : ∃ inspectable, .attached d inspectable ∈ changes

theorem Definition.Genuine.inStep (d : Definition) (hd : d.Genuine) :
    Tabulates d.operations d.fields ∧ d.InStep := by
  obtain ⟨inflector, options, script, w, rfl⟩ := hd
  have htabulates := World.defineUpToFault_tabulates inflector options script w
  exact ⟨htabulates, htabulates.inStep⟩

/-- In one definition there is only one field of a name. -/
theorem Definition.Genuine.field_unique (d : Definition) (hd : d.Genuine) (spec other : FieldSpec)
    (hspec : spec ∈ d.fields) (hother : other ∈ d.fields) (hname : other.name = spec.name) :
    other = spec := by
  obtain ⟨-, hinStep⟩ := hd.inStep
  have hfirst := (hinStep.field?_iff spec.name other).mpr ⟨hother, hname⟩
  have hsecond := (hinStep.field?_iff spec.name spec).mpr ⟨hspec, rfl⟩
  exact Option.some.inj (hfirst.symm.trans hsecond)

section

variable {given : Value → Prop}

/-- A write to the slot of a field was made by an accessor of that field, which accepted the
    call. -/
theorem written_by_own (d : Definition) (changes : List Change) (s : Scene)
    (hlives : Lives given changes s) (hsole : d.Sole changes) (spec : FieldSpec)
    (hspec : spec ∈ d.fields) (other : FieldSpec) (args : Args) (write : Write)
    (hwrote : .wrote other args write ∈ changes) (hname : other.name = spec.name) :
    other = spec ∧ ∃ op around, spec.Accessor op ∧ Change.Accepts op around args write := by
  obtain ⟨before, after, rfl⟩ := List.append_of_mem hwrote
  obtain ⟨around, -, -, attached, inspectable, name, op, hmem, hoperation, hop, haccepts⟩ :=
    leads_wrote before after other args write s.host (lives_leads _ s hlives)
  obtain rfl : attached = d := hsole.respects _ (List.mem_append_left _ hmem)
  obtain ⟨own, hown, haccessor⟩ := hsole.genuine.accessor attached name op hoperation
  obtain rfl : own = other :=
    Option.some.inj ((accessor_spec? own op haccessor).symm.trans hop)
  obtain rfl := hsole.genuine.field_unique attached spec own hspec hown hname
  exact ⟨rfl, op, around, haccessor, haccepts⟩

/-- A field's slot holds what the writes to it have made, and was empty before them. -/
theorem lives_stored? (changes : List Change) (s : Scene) (hlives : Lives given changes s)
    (name : String) : s.host.stored? name = slotAfter none (writesTo name changes) :=
  leads_stored? changes .empty s.host (lives_leads changes s hlives) name

/-- A name of a field is bound to the accessor that the field has under it. -/
theorem lives_operation? (d : Definition) (changes : List Change) (s : Scene)
    (hlives : Lives given changes s) (hsole : d.Sole changes) (spec : FieldSpec)
    (hspec : spec ∈ d.fields) (name : String) (op : Operation)
    (hop : (name, op) ∈ spec.operations) : s.host.operation? name = some op := by
  obtain ⟨htabulates, -⟩ := hsole.genuine.inStep
  refine leads_bearsAll d changes .empty s.host (lives_leads changes s hlives) hsole.respects
    htabulates.nodup (Or.inr hsole.attached) name op ?_
  exact htabulates.perm.mem_iff.mpr (List.mem_flatMap.mpr ⟨spec, hspec, hop⟩)

end

/-- The change is a write. -/
def Change.isWrite : Change → Bool
  | .wrote _ _ _ => true
  | .defined _ _ _ _ => false
  | .attached _ _ => false

theorem wrote_of_isWrite (changes : List Change) (h : changes.all Change.isWrite = true)
    (change : Change) (hmem : change ∈ changes) :
    ∃ spec args write, change = .wrote spec args write := by
  have hwrite := List.all_eq_true.mp h change hmem
  cases change with
  | wrote spec args write => exact ⟨spec, args, write, rfl⟩
  | defined => exact nomatch hwrite
  | attached => exact nomatch hwrite

/-- A definition stays the only one if there are only writes after it was attached. -/
theorem sole_of_writes (d : Definition) (hd : d.Genuine) (inspectable : Bool)
    (changes : List Change) (hchanges : changes.all Change.isWrite = true) :
    d.Sole (.attached d inspectable :: changes) where
  genuine := hd
  respects := by
    refine List.forall_mem_cons.mpr ⟨rfl, fun change hmem => ?_⟩
    obtain ⟨spec, args, write, rfl⟩ := wrote_of_isWrite changes hchanges change hmem
    exact trivial
  attached := ⟨inspectable, List.mem_cons_self⟩

/-- A history and the scene at its end, with one more call. -/
def withCall (depth : Nat) (life : List Change × Scene) (call : String × Args) :
    List Change × Scene :=
  (life.1 ++ callChanges depth call.1 call.2 life.2,
    finalState (callWithin depth call.1 call.2 life.2))

/-- The life of a host to which a definition is attached and which is then called several times. -/
def lifeOf (d : Definition) (inspectable : Bool) (depth : Nat) (w : World)
    (calls : List (String × Args)) : List Change × Scene :=
  calls.foldl (withCall depth) ([.attached d inspectable], ⟨d.attachWith inspectable .empty, w⟩)

theorem lifeOf_lives {given : Value → Prop} (d : Definition) (inspectable : Bool) (depth : Nat)
    (w : World) (hw : HostsMeet given w.hosts) (calls : List (String × Args))
    (hcalls : ∀ call ∈ calls, ∀ v ∈ call.2.given, given v) :
    Lives given (lifeOf d inspectable depth w calls).1
      (lifeOf d inspectable depth w calls).2 := by
  have hall : ∀ life : List Change × Scene, Lives given life.1 life.2 →
      Lives given (calls.foldl (withCall depth) life).1
        (calls.foldl (withCall depth) life).2 := by
    induction calls with
    | nil => exact fun _ h => h
    | cons call rest ih =>
        obtain ⟨hcall, hrest⟩ := List.forall_mem_cons.mp hcalls
        exact fun life h => ih hrest _ (.called life.1 life.2 depth call.1 call.2 hcall h)
  exact hall _ (.attached [] ⟨.empty, w⟩ d inspectable (.new w hw))

end FieldSchema
