import FieldSchema.Session
import FieldSchema.Proofs.Sharing.Timeline

/-!
# Sessions Stay Coherent

That every world in which a session can be has a ledger.

What is said of hosts that share cells is said of coherent worlds, and of
definitions and hosts that are confined to their ledgers. A session is never
in any other world. It begins without anything, and each of its steps either
makes definitions with new cells, or runs code, or moves hosts and definitions
from name to name. The steps that run code need no look at the code, since a
run is alike to itself.

Steps that go by the fields of a definition, not by its operations, need one
thing more: that the two are in step. That is so for what scripts make, and
cells contain nothing else.

The values that a step hands to a host are written down where the step is, so
they contain hosts of the session only.

## Main definitions

* `Session.InOrder`: The session is coherent, and its definitions are in step.
* `Step.handed`: The values that a step hands to a host.
* `Session.Reachable`: The session has come about by steps.

## Theorems

* `makeDefinition_inOrder`, `onDefinition_inOrder`, `onHost_inOrder`: What steps of each kind keep.
* `perform_inOrder`: Every step keeps a session in order, with a ledger that grows at its end.
* `reachable_inOrder`: Every session is in order.
-/

namespace FieldSchema

namespace World

theorem Coherent.setHost (l : Ledger) (w : World) (hw : w.Coherent l) (name : String) (h : Host)
    (hh : h.Confined l.Records) : (w.setHost name h).Coherent l :=
  ⟨hw.cells, NameMap.forall_get?_insert w.hosts name h hw.hosts hh, hw.definitions, hw.cached⟩

theorem Coherent.setDefinition (l : Ledger) (w : World) (hw : w.Coherent l) (name : String)
    (d : Definition) (hd : d.Confined l.Records) : (w.setDefinition name d).Coherent l :=
  ⟨hw.cells, hw.hosts, NameMap.forall_get?_insert w.definitions name d hw.definitions hd,
    hw.cached⟩

end World

/-- What a script makes in some world is in step. -/
theorem SubSchema.Makes.tabulates (sub : SubSchema) (d : Definition) (h : sub.Makes d) :
    Tabulates d.operations d.fields := by
  obtain ⟨v, w, hmade⟩ := h
  rw [World.define_eq_ok _ _ _ v w d hmade]
  exact World.defineUpToFault_tabulates _ _ _ v

/-- The values that a step hands to a host, with those that a block has captured. -/
def Step.handed : Step → List Value
  | .host _ (.call _ call) => call.args.given
  | .definition _ (.evaluate _ block _) => block.captured
  | _ => []

namespace Session

/-- The session is coherent with the ledger, and each of its definitions is in step. -/
structure InOrder (l : Ledger) (s : Session) : Prop where
  coherent : s.Coherent l
  tabulates : ∀ name d, s.definition? name = some d → Tabulates d.operations d.fields

/-- The session is in order with a ledger that has grown at its end. -/
def StaysInOrder (l : Ledger) (s : Session) : Prop :=
  ∃ m, l <+: m ∧ InOrder m s

section

variable (l : Ledger) (s : Session) (hs : s.InOrder l)

include hs

theorem InOrder.stays : s.StaysInOrder l := ⟨l, List.prefix_refl l, hs⟩

theorem InOrder.grown (m : Ledger) (t : Session) (ht : World.Grown l s m t) : t.InOrder m where
  coherent := ht.coherent
  tabulates name d hd := by
    unfold definition? at hd
    rw [ht.definitions] at hd
    exact hs.tabulates name d hd

theorem InOrder.setHost (name : String) (h : Host) (hh : h.Confined l.Records) :
    InOrder l (s.setHost name h) :=
  ⟨hs.coherent.setHost l s name h hh, hs.tabulates⟩

theorem InOrder.setDefinition (name : String) (d : Definition) (hd : d.Confined l.Records)
    (htable : Tabulates d.operations d.fields) : InOrder l (s.setDefinition name d) :=
  ⟨hs.coherent.setDefinition l s name d hd,
    NameMap.forall_get?_insert s.definitions name d hs.tabulates htable⟩

/-- Taking the events changes the log alone. -/
theorem InOrder.settle (outcome : Outcome) : InOrder l (s.settle outcome).1 :=
  ⟨⟨hs.coherent.cells, hs.coherent.hosts, hs.coherent.definitions, hs.coherent.cached⟩,
    hs.tabulates⟩

theorem InOrder.confined (name : String) (d : Definition) (h : s.definition? name = some d) :
    d.Confined l.Records ∧ Tabulates d.operations d.fields :=
  ⟨hs.coherent.definitions name d h, hs.tabulates name d h⟩

end

/-- The schemas nested in the fields of a definition are those of its operations. -/
theorem confined_schema? (S : SubSchema → Prop) (d : Definition) (hd : d.Confined S)
    (htable : Tabulates d.operations d.fields) (field : String) (sub : SubSchema)
    (h : schema? d field = some sub) : S sub := by
  obtain ⟨spec, hfound, hsub⟩ := Option.bind_eq_some_iff.mp h
  have hspec : spec ∈ d.fields := List.mem_of_find?_eq_some hfound
  have hop : (spec.name, spec.wholeOperation) ∈ d.operations :=
    htable.perm.mem_iff.mpr (List.mem_flatMap.mpr ⟨spec, hspec, List.mem_cons_self⟩)
  refine hd _ hop sub ?_
  rw [Generator.schema?_of_mem spec _ List.mem_cons_self]
  exact hsub

/-- A host that is nested in a value leads to nothing to which the value does not lead. -/
theorem confined_nestedIn? (S : SubSchema → Prop) (v : Value) (hv : v.Confined S) (index : Nat)
    (key : Option Value) (h : Host) (hfound : nestedIn? v index key = some h) : h.Confined S := by
  obtain ⟨u, hu, hhost⟩ := Option.bind_eq_some_iff.mp hfound
  -- The candidate is an item of the list, a value of the map, or the value itself.
  have hconfined : u.Confined S := by
    split at hu
    · exact (Value.confined_list_iff S _).mp hv u (List.mem_of_getElem? hu)
    · obtain ⟨entry, hentry, rfl⟩ := Option.map_eq_some_iff.mp hu
      exact ((Value.confined_map_iff S _).mp hv entry (List.mem_of_find?_eq_some hentry)).2
    · rw [← Option.some.inj hu]
      exact hv
  cases u with
  | nested host =>
      rw [← Option.some.inj hhost]
      exact hconfined
  | _ => exact absurd hhost.symm (Option.some_ne_none h)

section

variable (l : Ledger) (s : Session) (hs : s.InOrder l)

include hs

/-- Making a definition keeps a session in order. -/
theorem makeDefinition_inOrder (name : String) (script : Script) (inflector : Inflector)
    (options : Options) (upToFault : Bool) :
    StaysInOrder l (s.makeDefinition name script inflector options upToFault).1 := by
  have htable := World.defineUpToFault_tabulates inflector options script s
  unfold makeDefinition
  cases upToFault with
  -- Up to its first fault, a script always comes to a definition.
  | true =>
      obtain ⟨m, hgrown, hd⟩ :=
        World.defineUpToFault_grown l s hs.coherent inflector options script
      have hnamed := (hs.grown l s m _ hgrown).setDefinition m _ name _ hd htable
      exact ⟨m, hgrown.ledger, hnamed.settle m _ _⟩
  | false =>
      have hends := World.define_grown l s hs.coherent inflector options script
      simp only [Bool.false_eq_true, if_false]
      cases hmade : World.define inflector options script s with
      | ok d t =>
          obtain ⟨m, hgrown, hd, -⟩ := ends_value _ d t hends hmade
          rw [← World.define_eq_ok inflector options script s t d hmade] at htable
          have hnamed := (hs.grown l s m t hgrown).setDefinition m t name d hd htable
          exact ⟨m, hgrown.ledger, hnamed.settle m _ _⟩
      | error fault t =>
          obtain ⟨m, hgrown, -⟩ := ends_fault _ fault t hends hmade
          exact ⟨m, hgrown.ledger, (hs.grown l s m t hgrown).settle m t _⟩

theorem define_inOrder (name : String) (script : Script) (setup : Setup) :
    StaysInOrder l (s.define name script setup).1 := by
  cases setup with
  | chosen source options upToFault =>
      simp only [define]
      cases source.inflector with
      | ok inflector => exact makeDefinition_inOrder l s hs name script inflector options upToFault
      -- Without an inflector nothing is made.
      | error e => exact hs.stays
  | configured text =>
      simp only [define]
      cases Config.parse? text with
      | none => exact hs.stays
      | some config =>
          simp only []
          cases config.inflector with
          | ok inflector =>
              exact makeDefinition_inOrder l s hs name script inflector config.options false
          | error e => exact hs.stays

/-- A step on one of its definitions keeps a session in order. -/
theorem onDefinition_inOrder (name : String) (d : Definition) (hd : s.definition? name = some d)
    (step : DefinitionStep)
    (hhanded : ∀ v ∈ (Step.definition name step).handed, v.Confined l.Records) :
    StaysInOrder l (s.onDefinition d step).1 := by
  obtain ⟨hconfined, htable⟩ := hs.confined l s name d hd
  cases step with
  | describe => exact hs.stays
  | structureText => exact hs.stays
  | field name => exact hs.stays
  | instantiate host =>
      have hnew := confined_instantiate l.Records d hconfined
      exact (hs.setHost l s host d.instantiate hnew).stays
  -- Asking for the definition may fill the cell, which the ledger allows for.
  | child field newName =>
      simp only [onDefinition]
      cases hsub : schema? d field with
      | none => exact hs.stays
      | some sub =>
          have hrecords := confined_schema? l.Records d hconfined htable field sub hsub
          have hends := SubSchema.definition_grown l s hs.coherent sub hrecords
          simp only []
          cases hmade : sub.definition s with
          | ok child t =>
              obtain ⟨m, hgrown, hchild, hmakes, -⟩ := ends_value _ child t hends hmade
              have hnamed := (hs.grown l s m t hgrown).setDefinition m t newName child hchild
                (hmakes.tabulates sub child)
              exact ⟨m, hgrown.ledger, hnamed.settle m _ _⟩
          | error fault t =>
              obtain ⟨m, hgrown, -⟩ := ends_fault _ fault t hends hmade
              exact ⟨m, hgrown.ledger, (hs.grown l s m t hgrown).settle m t _⟩
  -- The run is compared with itself, since what agrees with itself leads to a coherent world.
  | evaluate field block newName =>
      simp only [onDefinition]
      cases hsub : schema? d field with
      | none => exact hs.stays
      | some sub =>
          have hrecords := confined_schema? l.Records d hconfined htable field sub hsub
          have halike : sub.Alike id (s.own l) sub := ⟨rfl, hrecords, hrecords⟩
          have hcaptured : ValuesAlike id (s.own l) block.captured block.captured :=
            ⟨rfl, (Value.confined_list_iff _ _).mpr hhanded, (Value.confined_list_iff _ _).mpr hhanded⟩
          have hends := run_grown (sub.evaluate (callWithin callDepth) block) _ l ⟨.empty, s⟩
            (evaluate_agree id (s.own l) _ (callWithin_agree id callDepth) sub sub halike block block
              ⟨rfl, hcaptured⟩)
            hs.coherent (Host.confined_empty l.Records)
          simp only [runAside]
          cases hrun : sub.evaluate (callWithin callDepth) block ⟨.empty, s⟩ with
          | ok h t =>
              obtain ⟨m, hgrown, -, hmade⟩ := ends_value _ h t hends hrun
              have hnamed := (hs.grown l s m.left t.world hgrown).setHost m.left t.world newName h
                hmade.left
              exact ⟨m.left, hgrown.ledger, hnamed.settle m.left _ _⟩
          | error halt t =>
              obtain ⟨m, hgrown, -⟩ := ends_fault _ halt t hends hrun
              exact ⟨m.left, hgrown.ledger, (hs.grown l s m.left t.world hgrown).settle m.left _ _⟩

/-- A run on one of its hosts keeps a session in order if it leads to a coherent world. -/
theorem runOn_inOrder (name : String) (h : Host) (act : Run Payload)
    (hends : ∃ m, World.Grown l s m (finalState (act ⟨h, s⟩)).world ∧
      (finalState (act ⟨h, s⟩)).host.Confined m.Records) :
    StaysInOrder l (s.runOn name h act).1 := by
  obtain ⟨m, hgrown, hhost⟩ := hends
  have hnamed := (hs.grown l s m _ hgrown).setHost m _ name _ hhost
  unfold runOn
  cases hrun : act ⟨h, s⟩ with
  | ok payload scene =>
      rw [hrun] at hgrown hnamed
      exact ⟨m, hgrown.ledger, hnamed.settle m _ (.ok payload)⟩
  | error halt scene =>
      rw [hrun] at hgrown hnamed
      exact ⟨m, hgrown.ledger, hnamed.settle m _ halt.outcome⟩

/-- A step on one of its hosts keeps a session in order, if what it hands over is confined. -/
theorem onHost_inOrder (name : String) (h : Host) (hh : s.host? name = some h) (step : HostStep)
    (hhanded : ∀ v ∈ (Step.host name step).handed, v.Confined l.Records) :
    StaysInOrder l (s.onHost name h step).1 := by
  have hconfined : h.Confined l.Records := hs.coherent.hosts name h hh
  -- A run that agrees with itself may yield its value in any form.
  have hruns : ∀ (α : Type) (g : α → Payload) (act : Run α) (Q : Ledgers → α → α → Prop),
      Agree id (s.own l) Q act act → StaysInOrder l (s.runOn name h (g <$> act)).1 := by
    intro α g act Q hact
    refine runOn_inOrder l s hs name h (g <$> act) ?_
    rw [finalState_map]
    exact run_leaves act Q l ⟨h, s⟩ hact hs.coherent hconfined
  cases step with
  | render => exact hs.stays
  | structureText => exact hs.stays
  | operations => exact hs.stays
  | responds operation => exact hs.stays
  | stored field => exact hs.stays
  | state => exact hs.stays
  | same other =>
      simp only [onHost]
      cases s.host? other <;> exact hs.stays
  | copy newName => exact (hs.setHost l s newName h hconfined).stays
  | extract field index key newName =>
      simp only [onHost]
      cases hfound : (h.stored? field).bind fun v => nestedIn? v index key with
      | none => exact hs.stays
      | some nested =>
          obtain ⟨v, hv, hnested⟩ := Option.bind_eq_some_iff.mp hfound
          have hvalue := Host.confined_stored? l.Records h hconfined field v hv
          have hinner := confined_nestedIn? l.Records v hvalue index key nested hnested
          exact (hs.setHost l s newName nested hinner).stays
  | attach definition inspectable =>
      simp only [onHost]
      cases hfound : s.definition? definition with
      | none => exact hs.stays
      | some d =>
          have hd := (hs.confined l s definition d hfound).1
          refine runOn_inOrder l s hs name h _ ⟨l, ?_, ?_⟩
          · exact ⟨List.prefix_refl l, hs.coherent, rfl, rfl⟩
          · exact confined_attachWith l.Records d hd _ h hconfined
  | define operation trace body =>
      refine runOn_inOrder l s hs name h _ ⟨l, ?_, ?_⟩
      · exact ⟨List.prefix_refl l, hs.coherent, rfl, rfl⟩
      · exact Host.confined_install l.Records h hconfined operation _
          (Operation.confined_custom l.Records operation trace body)
  | call operation call =>
      have hargs := Args.alike_self id (s.own l) call.args hhanded hhanded
      exact hruns Value .value (call.run callDepth operation) _
        (callWithin_agree id callDepth (s.own l) operation _ _ hargs)
  | inspect =>
      exact hruns String .text (inspectWithin callDepth) _
        (inspectWithin_agree id (s.own l) callDepth)
  | run e =>
      exact hruns Value .value (evalWithin callDepth [] e) _
        (evalWithin_agree id (s.own l) callDepth e)

/-- Every step keeps a session in order, if what it hands over is confined. -/
theorem perform_inOrder (step : Step) (hhanded : ∀ v ∈ step.handed, v.Confined l.Records) :
    StaysInOrder l (s.perform step).1 := by
  cases step with
  | define name script setup => exact define_inOrder l s hs name script setup
  | definition name step =>
      simp only [perform]
      cases hd : s.definition? name with
      | none => exact hs.stays
      | some d => exact onDefinition_inOrder l s hs name d hd step hhanded
  | newHost name => exact (hs.setHost l s name .empty (Host.confined_empty l.Records)).stays
  | host name step =>
      simp only [perform]
      cases hh : s.host? name with
      | none => exact hs.stays
      | some h => exact onHost_inOrder l s hs name h hh step hhanded

end

/-- Values that can be written down in a session lead to what its hosts lead to. -/
theorem handed_confined (S : SubSchema → Prop) (s : Session) (hs : HostsConfined S s.hosts)
    (step : Step) (hhanded : ∀ v ∈ step.handed, ∃ literal : Literal, v = literal.value s.hosts) :
    ∀ v ∈ step.handed, v.Confined S := by
  intro v hv
  obtain ⟨literal, rfl⟩ := hhanded v hv
  exact (confined_closed S).literal s.hosts hs literal

/-- The session has come about by steps, which hand over what can be written down where they are. -/
inductive Reachable : Session → Prop
  /-- It is new. -/
  | empty : Reachable Session.empty
  /-- A step was performed. -/
  | performed (s : Session) (step : Step) (hs : Reachable s)
      (hhanded : ∀ v ∈ step.handed, ∃ literal : Literal, v = literal.value s.hosts) :
      Reachable (s.perform step).1

/-- Every session is in order with some ledger. -/
theorem reachable_inOrder (s : Session) (h : Reachable s) : ∃ l, InOrder l s := by
  induction h with
  | empty => exact ⟨[], World.coherent_empty, fun _ _ hd => nomatch hd⟩
  | performed s step _ hhanded ih =>
      obtain ⟨l, hs⟩ := ih
      obtain ⟨m, -, hm⟩ := perform_inOrder l s hs step
        (handed_confined l.Records s hs.coherent.hosts step hhanded)
      exact ⟨m, hm⟩

end Session

end FieldSchema
