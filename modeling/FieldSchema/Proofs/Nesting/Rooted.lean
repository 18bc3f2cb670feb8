import FieldSchema.Proofs.Nesting.Attested
import FieldSchema.Proofs.Nesting.Descent
import FieldSchema.Proofs.Sharing.Sessions

/-!
# Sessions and Their Roots

The generators from which everything in a session descends.

A definition gets into a session by a step that sets up a generator and runs a
script on it. The inflector and the options are given in the step, or they are
read from the text of a configuration file. Whatever else is done, with
definitions, with hosts and by code that runs on them, brings in no other
nested schemas than those that descend from these generators. A host may have
operations from several definitions, so a session has not one root but a list
of them, and every nested schema descends from one on the list.

The steps are those for which it was shown that sessions stay in order. Here
it is shown along the same lines that they do not leave a family.

## Main definitions

* `Step.root?`: The generator that a step sets up, with its script.
* `Session.Rooted`: The session has come about by steps that set up these generators.
* `Session.births`: The nested hosts that a step makes.

## Theorems

* `perform_confined`: A step does not lead out of a family that contains what its script declares.
* `rooted_confined`: All that is in a session descends from its roots.
* `births_attested`: So do the nested hosts that a step makes.
-/

namespace FieldSchema

/-- The generator that is set up for a definition. A source of words may not make an inflector, and
    a text may not be that of a configuration. -/
def Setup.generator? : Setup → Option (Inflector × Options)
  | .chosen source options _ =>
      match source.inflector with
      | .ok inflector => some (inflector, options)
      | .error _ => none
  | .configured text =>
      match Config.parse? text with
      | none => none
      | some config =>
          match config.inflector with
          | .ok inflector => some (inflector, config.options)
          | .error _ => none

/-- The generator that a step sets up, with the script that is run on it. -/
def Step.root? : Step → Option Root
  | .define _ script setup =>
      setup.generator?.map fun generator => ⟨generator.1, generator.2, script⟩
  | _ => none

namespace World

section

variable (S : SubSchema → Prop) (w : World) (hw : w.Confined S)

include hw

theorem Confined.setHost (name : String) (h : Host) (hh : h.Confined S) :
    (w.setHost name h).Confined S :=
  ⟨NameMap.forall_get?_insert w.hosts name h hw.hosts hh, hw.stocks.cached, hw.stocks.named⟩

theorem Confined.setDefinition (name : String) (d : Definition) (hd : d.Confined S) :
    (w.setDefinition name d).Confined S :=
  ⟨hw.hosts, hw.stocks.cached,
    NameMap.forall_get?_insert w.definitions name d hw.stocks.named hd⟩

/-- Taking the events changes the log alone. -/
theorem Confined.settle (outcome : Outcome) : World.Confined S (Session.settle w outcome).1 :=
  ⟨hw.hosts, hw.stocks.cached, hw.stocks.named⟩

end

end World

namespace Session

/-- A run on a host does not lead out of a set if neither the host nor the world does that it
    leaves. -/
theorem runOn_confined (S : SubSchema → Prop) (s : Session) (name : String) (h : Host)
    (act : Run Payload)
    (hleaves : (finalState (act ⟨h, s⟩)).Upholds (.ofValues (Value.Confined S) (World.Confined S))) :
    World.Confined S (s.runOn name h act).1 := by
  unfold runOn
  cases hrun : act ⟨h, s⟩ with
  | ok payload t =>
      rw [hrun] at hleaves
      exact (hleaves.world.setHost S t.world name t.host hleaves.host).settle S _ (.ok payload)
  | error halt t =>
      rw [hrun] at hleaves
      exact (hleaves.world.setHost S t.world name t.host hleaves.host).settle S _ halt.outcome

section

variable (S : SubSchema → Prop) (s : Session) (hs : s.Confined S)

include hs

/-- Making a definition does not lead out of a set that contains what the script declares. -/
theorem makeDefinition_confined (name : String) (script : Script) (inflector : Inflector)
    (options : Options) (upToFault : Bool)
    (hmade : ∀ w, (World.defineUpToFault inflector options script w).1.Confined S) :
    World.Confined S (s.makeDefinition name script inflector options upToFault).1 := by
  have hdefined := World.define_eq_ok inflector options script s
  have hnew := hmade s
  have hnext := World.Confined.defineUpToFault S inflector options script s hs
  unfold makeDefinition
  cases upToFault with
  -- Up to its first fault, a script always comes to a definition.
  | true =>
      simp only [if_true]
      exact (hnext.setDefinition S _ name _ hnew).settle S _ _
  | false =>
      simp only [Bool.false_eq_true, if_false]
      rw [← World.define_world] at hnext
      cases hresult : World.define inflector options script s with
      | ok d t =>
          rw [hresult] at hnext
          rw [← hdefined t d hresult] at hnew
          exact (hnext.setDefinition S t name d hnew).settle S _ _
      | error fault t =>
          rw [hresult] at hnext
          exact hnext.settle S t _

theorem define_confined (name : String) (script : Script) (setup : Setup)
    (hmade : ∀ root, (Step.define name script setup).root? = some root →
      ∀ w, (World.defineUpToFault root.inflector root.options root.script w).1.Confined S) :
    World.Confined S (s.define name script setup).1 := by
  cases setup with
  | chosen source options upToFault =>
      simp only [define]
      simp only [Step.root?, Setup.generator?] at hmade
      cases hsource : source.inflector with
      | ok inflector =>
          rw [hsource] at hmade
          exact makeDefinition_confined S s hs name script inflector options upToFault
            (hmade ⟨inflector, options, script⟩ rfl)
      -- Without an inflector nothing is made.
      | error e => exact hs
  | configured text =>
      simp only [define]
      simp only [Step.root?, Setup.generator?] at hmade
      cases hparse : Config.parse? text with
      | none => exact hs
      | some config =>
          rw [hparse] at hmade
          simp only [] at hmade ⊢
          cases hsource : config.inflector with
          | ok inflector =>
              rw [hsource] at hmade
              exact makeDefinition_confined S s hs name script inflector config.options false
                (hmade ⟨inflector, config.options, script⟩ rfl)
          | error e => exact hs

variable (hS : Family S)

include hS

/-- A step on a definition does not lead out of a family. -/
theorem onDefinition_confined (d : Definition) (hd : d.Confined S)
    (htable : Tabulates d.operations d.fields) (name : String) (step : DefinitionStep)
    (hhanded : ∀ v ∈ (Step.definition name step).handed, v.Confined S) :
    World.Confined S (s.onDefinition d step).1 := by
  cases step with
  | describe | structureText | field => exact hs
  | instantiate host => exact hs.setHost S s host _ (confined_instantiate S d hd)
  | child field newName =>
      simp only [onDefinition]
      cases hsub : schema? d field with
      | none => exact hs
      | some sub =>
          have hends := definition_confined hS sub (confined_schema? S d hd htable field sub hsub)
            s hs
          simp only []
          cases hmade : sub.definition s with
          | ok child t =>
              obtain ⟨ht, hchild⟩ := ends_value _ child t hends hmade
              exact (ht.setDefinition S t newName child hchild).settle S _ _
          | error fault t => exact (ends_fault _ fault t hends hmade).settle S t _
  -- The block runs on a host of the nested schema, and what it has captured was handed over.
  | evaluate field block newName =>
      simp only [onDefinition]
      cases hsub : schema? d field with
      | none => exact hs
      | some sub =>
          have hends := evaluate_conveys (confined_transmits hS) (callWithin callDepth)
            (callWithin_conveys (confined_transmits hS) callDepth) sub block ⟨.empty, s⟩ hhanded <| by
              refine ends_mono _ (definition_confined hS sub
                (confined_schema? S d hd htable field sub hsub) s hs) ?_ fun _ _ h => h
              exact fun d v h => ⟨h.1, confined_instantiate S d h.2⟩
          simp only [runAside]
          cases hrun : sub.evaluate (callWithin callDepth) block ⟨.empty, s⟩ with
          | ok h t =>
              obtain ⟨-, ht, hh⟩ := ends_value _ h t hends hrun
              exact (ht.setHost S t.world newName h hh).settle S _ _
          | error halt t => exact (ends_fault _ halt t hends hrun).2.1.settle S _ _

/-- A step on a host does not lead out of a family if what it hands over does not. -/
theorem onHost_confined (name : String) (h : Host) (hh : s.host? name = some h) (step : HostStep)
    (hhanded : ∀ v ∈ (Step.host name step).handed, v.Confined S) :
    World.Confined S (s.onHost name h step).1 := by
  have hconfined : h.Confined S := hs.hosts name h hh
  have hT := confined_transmits hS
  -- A run may yield its value in any form.
  have hruns : ∀ (α : Type) (g : α → Payload) (act : Run α) (Q : α → Prop),
      Conveys (.ofValues (Value.Confined S) (World.Confined S)) Q act →
        World.Confined S (s.runOn name h (g <$> act)).1 := by
    intro α g act Q hact
    refine runOn_confined S s name h (g <$> act) ?_
    rw [finalState_map]
    exact ends_finalState _
      (ends_mono _ (hact ⟨h, s⟩ ⟨hconfined, hs⟩) (fun _ _ ht => ht.1) fun _ _ ht => ht)
  cases step with
  | render | structureText | operations | responds | stored | state => exact hs
  | same other =>
      simp only [onHost]
      cases s.host? other <;> exact hs
  | copy newName => exact hs.setHost S s newName h hconfined
  | extract field index key newName =>
      simp only [onHost]
      cases hfound : (h.stored? field).bind fun v => nestedIn? v index key with
      | none => exact hs
      | some nested =>
          obtain ⟨v, hv, hnested⟩ := Option.bind_eq_some_iff.mp hfound
          have hvalue := Host.confined_stored? S h hconfined field v hv
          exact hs.setHost S s newName nested
            (confined_nestedIn? S v hvalue index key nested hnested)
  | attach definition inspectable =>
      simp only [onHost]
      cases hfound : s.definition? definition with
      | none => exact hs
      | some d =>
          refine runOn_confined S s name h _ ⟨?_, hs⟩
          exact confined_attachWith S d (hs.stocks.named definition d hfound) _ h hconfined
  | define operation trace body =>
      refine runOn_confined S s name h _ ⟨?_, hs⟩
      exact Host.confined_install S h hconfined operation _
        (Operation.confined_custom S operation trace body)
  | call operation call =>
      exact hruns Value .value (call.run callDepth operation) _
        (callWithin_conveys hT callDepth operation call.args hhanded)
  | inspect =>
      refine hruns String .text (inspectWithin callDepth) (fun _ => True) ?_
      rw [inspectWithin_eq]
      exact conveys_bind _ _ (callWithin_conveys hT callDepth _ .none
        fun _ h => absurd h List.not_mem_nil) fun _ _ => conveys_pure _ trivial
  | run e =>
      exact hruns Value .value (evalWithin callDepth [] e) _
        (evalWithin_conveys hT callDepth [] (fun _ h => absurd h List.not_mem_nil) e)

/-- A step does not lead out of a family that contains what its script declares and what its values
    lead to. -/
theorem perform_confined (htables : ∀ name d, s.definition? name = some d →
      Tabulates d.operations d.fields) (step : Step)
    (hmade : ∀ root, step.root? = some root →
      ∀ w, (World.defineUpToFault root.inflector root.options root.script w).1.Confined S)
    (hhanded : ∀ v ∈ step.handed, v.Confined S) : World.Confined S (s.perform step).1 := by
  cases step with
  | define name script setup => exact define_confined S s hs name script setup hmade
  | definition name step =>
      simp only [perform]
      cases hd : s.definition? name with
      | none => exact hs
      | some d =>
          exact onDefinition_confined S s hs hS d (hs.stocks.named name d hd)
            (htables name d hd) name step hhanded
  | newHost name => exact hs.setHost S s name .empty (Host.confined_empty S)
  | host name step =>
      simp only [perform]
      cases hh : s.host? name with
      | none => exact hs
      | some h => exact onHost_confined S s hs hS name h hh step hhanded

end

/-- The session has come about by steps, some of which set up the generators, the latest one first.
    A definition may also be made with an inflector that no step can describe, and a step hands over
    what can be written down where it is taken. -/
inductive Rooted : List Root → Session → Prop
  /-- It is new. -/
  | empty : Rooted [] Session.empty
  /-- A definition was made with an inflector and options, whatever these are. -/
  | defined (roots : List Root) (s : Session) (hs : Rooted roots s) (name : String) (root : Root)
      (upToFault : Bool) :
      Rooted (root :: roots)
        (s.makeDefinition name root.script root.inflector root.options upToFault).1
  /-- A step was performed. -/
  | performed (roots : List Root) (s : Session) (hs : Rooted roots s) (step : Step)
      (hhanded : ∀ v ∈ step.handed, ∃ literal : Literal, v = literal.value s.hosts) :
      Rooted (step.root?.toList ++ roots) (s.perform step).1

/-- Every session that steps lead to has its roots. -/
theorem rooted_of_reachable (s : Session) (h : Reachable s) : ∃ roots, Rooted roots s := by
  induction h with
  | empty => exact ⟨[], .empty⟩
  | performed s step _ hhanded ih =>
      obtain ⟨roots, hs⟩ := ih
      exact ⟨_, .performed roots s hs step hhanded⟩

theorem rooted_inOrder (roots : List Root) (s : Session) (h : Rooted roots s) :
    ∃ l, s.InOrder l := by
  induction h with
  | empty => exact reachable_inOrder _ .empty
  | defined roots s _ name root upToFault ih =>
      obtain ⟨l, hs⟩ := ih
      obtain ⟨m, -, hm⟩ := makeDefinition_inOrder l s hs name root.script root.inflector
        root.options upToFault
      exact ⟨m, hm⟩
  | performed roots s _ step hhanded ih =>
      obtain ⟨l, hs⟩ := ih
      obtain ⟨m, -, hm⟩ := perform_inOrder l s hs step
        (handed_confined l.Records s hs.coherent.hosts step hhanded)
      exact ⟨m, hm⟩

/-- Every nested schema in a session descends from a generator that was set up for it. -/
theorem rooted_confined (roots : List Root) (s : Session) (h : Rooted roots s) :
    s.Confined (DescendsFrom roots) := by
  -- With each step there may be one root more, and what descended from the others still does.
  induction h with
  | empty => exact World.confined_empty _
  | defined roots s hs name root upToFault ih =>
      have hmore := ih.mono _ s (DescendsFrom (root :: roots))
        (descendsFrom_mono roots _ (List.subset_cons_self root roots))
      exact makeDefinition_confined _ s hmore name root.script root.inflector root.options upToFault
        (definition_descends _ root List.mem_cons_self)
  | performed roots s hs step hhanded ih =>
      obtain ⟨l, horder⟩ := rooted_inOrder roots s hs
      have hmore := ih.mono _ s (DescendsFrom (step.root?.toList ++ roots))
        (descendsFrom_mono roots _ (List.subset_append_right _ _))
      refine perform_confined _ s hmore (descendants_family _) horder.tabulates step ?_
        (handed_confined _ s hmore.hosts step hhanded)
      intro root hroot
      refine definition_descends _ root (List.mem_append_left _ ?_)
      rw [hroot]
      exact List.mem_singleton.mpr rfl

end Session

/-- The nested hosts that a step on a host makes, with calls nested at most so deep. -/
def HostStep.births (depth : Nat) : HostStep → Register
  | .call operation input => callBirths depth operation input.args
  | .inspect => callBirths depth Definition.inspectName .none
  | .run e => codeBirths depth [] e
  | _ => .quiet

namespace Session

/-- The nested hosts that a step makes, with calls nested at most so deep. -/
def births (depth : Nat) (s : Session) : Step → List Birth
  | .definition name (.evaluate field block _) =>
      match (s.definition? name).bind fun d => schema? d field with
      | some sub => sub.births (callWithin depth) (callBirths depth) block ⟨.empty, s⟩
      | none => []
  | .host name step =>
      match s.host? name with
      | some h => step.births depth ⟨h, s⟩
      | none => []
  | _ => []

/-- A host of a session is in a scene that goes with the ledger of the session. -/
theorem scene_within (S : SubSchema → Prop) (l : Ledger) (s : Session) (hs : s.Confined S)
    (horder : s.InOrder l) (h : Host) (hh : h.Confined S) (hrecords : h.Confined l.Records) :
    Scene.Within S (s.own l) ⟨h, s⟩ :=
  ⟨Scene.alike_self l ⟨h, s⟩ horder.coherent hrecords, ⟨hh, hs⟩⟩

/-- The nested hosts that a step makes belong to schemas that descend from the roots of the session,
    and their definitions are what the scripts of these make. -/
theorem births_attested (roots : List Root) (s : Session) (h : Rooted roots s) (step : Step)
    (hhanded : ∀ v ∈ step.handed, ∃ literal : Literal, v = literal.value s.hosts) (depth : Nat) :
    ∀ b ∈ s.births depth step, b.Attested (DescendsFrom roots) := by
  have hS := descendants_family roots
  have hs := rooted_confined roots s h
  obtain ⟨l, horder⟩ := rooted_inOrder roots s h
  have hrun : ∀ register, Attests (DescendsFrom roots) (s.own l) register →
      ∀ host : Host, host.Confined (DescendsFrom roots) → host.Confined l.Records →
        ∀ b ∈ register ⟨host, s⟩, b.Attested (DescendsFrom roots) :=
    fun register hattests host hhost hrecords => hattests (s.own l) (le_refl _) ⟨host, s⟩
      (scene_within _ l s hs horder host hhost hrecords)
  -- What the step hands over was written down in the session, so it is in the family.
  have hwithin : ∀ args : Args, args.given = step.handed →
      args.Within (DescendsFrom roots) (s.own l) := by
    intro args hargs
    have hrecords := handed_confined l.Records s horder.coherent.hosts step hhanded
    rw [← hargs] at hrecords
    exact ⟨Args.alike_self id (s.own l) args hrecords hrecords,
      hargs ▸ handed_confined _ s hs.hosts step hhanded⟩
  unfold births
  split
  · rename_i name field block _
    cases hfound : (s.definition? name).bind fun d => schema? d field with
    | none => exact fun _ hb => absurd hb List.not_mem_nil
    | some sub =>
        obtain ⟨d, hd, hsub⟩ := Option.bind_eq_some_iff.mp hfound
        obtain ⟨hrecords, htable⟩ := horder.confined l s name d hd
        have hmember := confined_schema? _ d (hs.stocks.named name d hd) htable field sub hsub
        have hown := confined_schema? l.Records d hrecords htable field sub hsub
        exact hrun _ (births_attests hS (callWithin depth) (callBirths depth)
          (callWithin_agree id depth) (callWithin_conveys (confined_transmits hS) depth)
          (callWithin_attests hS depth) (s.own l) sub hmember ⟨rfl, hown, hown⟩ block
          ((hwithin ⟨[], some block⟩ rfl).captured (s.own l) _ block rfl)) .empty
          (Host.confined_empty _) (Host.confined_empty _)
  -- A step on a host makes what the call or the code makes that it runs.
  · rename_i name step
    cases hfound : s.host? name with
    | none => exact fun _ hb => absurd hb List.not_mem_nil
    | some host =>
        have hhost := hs.hosts name host hfound
        have hrecords := horder.coherent.hosts name host hfound
        refine hrun _ ?_ host hhost hrecords
        cases step with
        | call operation call =>
            exact callWithin_attests hS depth (s.own l) operation call.args (hwithin call.args rfl)
        | inspect =>
            exact callWithin_attests hS depth (s.own l) _ .none (hwithin .none rfl)
        | run e => exact evalWithin_attests hS depth (s.own l) e
        | _ => exact attests_quiet _
  · exact fun _ hb => absurd hb List.not_mem_nil

end Session

end FieldSchema
