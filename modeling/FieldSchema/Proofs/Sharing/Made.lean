import FieldSchema.Proofs.Sharing.Ledger
import FieldSchema.Proofs.Sharing.Recast

/-!
# What Scripts Make

A script makes the same definition whenever it runs.

A script works on a generator, and of the world it sees nothing: the number of
the next cell goes into the nested schemas that it declares and nowhere else.
The names that decide whether a declaration is accepted do not depend on it,
nor does what the generator shows of itself. Two runs of one script therefore
take the same course. They end in the same fault or make definitions that
differ in cells alone.

This stays so if one of them runs under another policy, but not for every
script. The policy is among the options, a generator shows its options, and a
script may choose by them. It takes the same course under both policies if
none of its questions has an answer that depends on the policy, and no question
of a script that is nested in it.

This is what makes it sound to keep a definition. What is found in a cell was
made at another time, in another world, and still it is what the script would
make now.

## Main definitions

* `Script.Blind`: Nothing that a script asks of its generator tells policies apart.
* `Generator.Alike`: Two generators differ in cells and policies alone.

## Theorems

* `blind_id`: Scripts are not told anything by cells.
* `view_alike`: Generators that differ in cells and policies show the same but for the policy.
* `withPlural_alike`, `declaration_alike`: A declaration does the same to both.
* `runScript_alike`: So does a script.
* `define_alike`: A script makes the same definition in any two worlds.
* `makes_alike`, `not_fails_of_makes`, `fails_alike`: The same for nested schemas.
-/

namespace FieldSchema

section

variable (f : SubSchemaPolicy → SubSchemaPolicy)

/-- No question that the script asks, or that a script nested in it asks, has an answer which depends
    on the policy: it is the same where the generators show the same once the policies are recast. -/
def Script.Blind (script : Script) : Prop :=
  ∀ question ∈ questionsOfScript script, ∀ view view' : GeneratorView,
    view.recast f = view'.recast f → question view = question view'

theorem Script.Blind.mono (script inner : Script)
    (h : questionsOfScript inner ⊆ questionsOfScript script) (hscript : Script.Blind f script) :
    Script.Blind f inner :=
  fun question hquestion => hscript question (h hquestion)

/-- Where policies are not recast, generators that are to show the same do show the same. -/
theorem Script.blind_id (script : Script) : Script.Blind id script := by
  intro question _ view view' h
  exact congrArg question h

/-- The generators differ in cells and policies alone. -/
structure Generator.Alike (g g' : Generator) : Prop where
  inflector : g.inflector = g'.inflector
  options : g.options.recast f = g'.options.recast f
  fields : g.fields.map (FieldSpec.recast f) = g'.fields.map (FieldSpec.recast f)
  operations : NameMap.mapValues (Operation.recast f) g.operations =
    NameMap.mapValues (Operation.recast f) g'.operations

/-- The operations of a recast field are those of the field, recast. -/
theorem operations_recast (spec : FieldSpec) :
    (spec.recast f).operations = NameMap.mapValues (Operation.recast f) spec.operations := by
  obtain ⟨name, kind, validation, callback⟩ := spec
  cases kind <;> rfl

/-- What a field shows of itself does not change when it is recast. -/
theorem outline_recast (spec : FieldSpec) : (spec.recast f).outline = spec.outline := by
  obtain ⟨name, kind, validation, callback⟩ := spec
  cases kind with
  | scalar constraint => rfl
  | array singular item schema itemCallback => cases schema <;> rfl
  | hash singular key value schema => cases schema <;> rfl

theorem insertAll_recast (entries map : NameMap Operation) :
    NameMap.mapValues (Operation.recast f) (NameMap.insertAll entries map) =
      NameMap.insertAll (NameMap.mapValues (Operation.recast f) entries)
        (NameMap.mapValues (Operation.recast f) map) := by
  induction entries generalizing map with
  | nil => rfl
  | cons head rest ih =>
      refine (ih (NameMap.insert head.1 head.2 map)).trans ?_
      rw [NameMap.insert_mapValues]
      rfl

namespace Generator

theorem contains_alike (g g' : Generator) (h : g.Alike f g') (name : String) :
    NameMap.contains g.operations name = NameMap.contains g'.operations name := by
  rw [← NameMap.contains_mapValues (Operation.recast f), h.operations,
    NameMap.contains_mapValues]

theorem checkName_alike (g g' : Generator) (h : g.Alike f g') (name : String) :
    g.checkName name = g'.checkName name := by
  simp only [checkName, contains_alike f g g' h]

theorem singularName_alike (g g' : Generator) (h : g.Alike f g') (plural : String) :
    g.singularName plural = g'.singularName plural := by
  simp only [singularName, contains_alike f g g' h, h.inflector]

/-- What the generators show differs in the policy alone. -/
theorem view_alike (g g' : Generator) (h : g.Alike f g') :
    g.view.recast f = g'.view.recast f := by
  have houtlines : ∀ fields : List FieldSpec,
      fields.map FieldSpec.outline = (fields.map (FieldSpec.recast f)).map FieldSpec.outline := by
    intro fields
    rw [List.map_map]
    exact List.map_congr_left fun spec _ => (outline_recast f spec).symm
  rw [view, view, GeneratorView.recast, GeneratorView.recast, GeneratorView.mk.injEq]
  exact ⟨h.inflector, h.options, by rw [houtlines, h.fields, ← houtlines]⟩

theorem extend_alike (g g' : Generator) (h : g.Alike f g') (spec spec' : FieldSpec)
    (hspec : spec.recast f = spec'.recast f) (n n' : Nat) :
    (g.extend spec n).Alike f (g'.extend spec' n') where
  inflector := h.inflector
  options := h.options
  fields := by
    change (g.fields ++ [spec]).map _ = (g'.fields ++ [spec']).map _
    rw [List.map_append, List.map_append, h.fields, List.map_singleton, List.map_singleton, hspec]
  operations := by
    change NameMap.mapValues _ (NameMap.insertAll _ _) = NameMap.mapValues _ (NameMap.insertAll _ _)
    rw [insertAll_recast, insertAll_recast, ← operations_recast, ← operations_recast, hspec,
      h.operations]

theorem nested_alike (g g' : Generator) (h : g.Alike f g') (singular : String)
    (schema : Option Script) :
    (g.nested singular schema).map (SubSchema.recast f) =
      (g'.nested singular schema).map (SubSchema.recast f) := by
  cases schema with
  | none => rfl
  | some script =>
      simp only [nested, Option.map_some, SubSchema.recast, h.inflector, h.options]

/-- What a declaration does to two generators ends together in alike generators. -/
def EndAlike (r r' : EStateM.Result DefinitionFault Generator Unit) : Prop :=
  EndTogether (fun _ g _ g' => g.Alike f g') (fun g g' => g.Alike f g') r r'

theorem withPlural_alike (g g' : Generator) (h : g.Alike f g') (name : String)
    (inConflict : Bool) (conflict : String → DefinitionFault) (schema : Option Script)
    (callback : Option Expr) (kind : Options → String → Option SubSchema → FieldKind)
    (hkind : ∀ o o' singular nested nested', o.recast f = o'.recast f →
      nested.map (SubSchema.recast f) = nested'.map (SubSchema.recast f) →
      (kind o singular nested).recast f = (kind o' singular nested').recast f) :
    EndAlike f (g.withPlural name inConflict conflict schema (g.pluralSpec schema callback kind))
      (g'.withPlural name inConflict conflict schema (g'.pluralSpec schema callback kind)) := by
  unfold withPlural
  -- The generators refuse the same names, so both go on or both stop at the same check.
  rw [← checkName_alike f g g' h name]
  cases g.checkName name with
  | error fault => exact ⟨rfl, h⟩
  | ok plural =>
      simp only []
      rw [← singularName_alike f g g' h plural]
      cases g.singularName plural with
      | error fault => exact ⟨rfl, h⟩
      | ok singular =>
          cases inConflict with
          | true => exact ⟨rfl, h⟩
          | false =>
              refine extend_alike f g g' h _ _ ?_ _ _
              have hkinds := hkind g.options g'.options singular _ _ h.options
                (nested_alike f g g' h singular schema)
              simp only [FieldSpec.recast, pluralSpec, hkinds]

/-- A declaration takes the same course on both generators. -/
theorem declaration_alike (g g' : Generator) (h : g.Alike f g') (line : Declaration)
    (act : Declaring Unit) (hact : line.act? = some act) : EndAlike f (act g) (act g') := by
  cases line with
  | scalar category name validation callback =>
      obtain rfl := Option.some.inj hact
      rw [declareScalar_eq, declareScalar_eq, ← checkName_alike f g g' h name]
      cases g.checkName name with
      | error fault => exact ⟨rfl, h⟩
      | ok accepted => exact extend_alike f g g' h _ _ rfl _ _
  | array name item schema callback =>
      obtain rfl := Option.some.inj hact
      rw [declareArray_eq, declareArray_eq]
      refine withPlural_alike f g g' h name _ _ schema callback _ ?_
      intro o o' singular nested nested' ho hnested
      -- How a callback is given an item is no matter of the policy.
      have hitem : (o.recast f).itemCallback = (o'.recast f).itemCallback := by rw [ho]
      simp only [FieldKind.recast, hnested]
      exact congrArg _ hitem
  | hash name key value schema callback =>
      obtain rfl := Option.some.inj hact
      rw [declareHash_eq, declareHash_eq]
      refine withPlural_alike f g g' h name _ _ schema callback _ ?_
      intro o o' singular nested nested' _ hnested
      simp only [FieldKind.recast, hnested]
  | report tag => exact nomatch hact
  | fail reason => exact nomatch hact
  | attempt lines => exact nomatch hact
  | choose question consequent alternative => exact nomatch hact

end Generator

namespace Draft

/-- What a script does to two drafts ends together in drafts of alike generators. -/
def EndAlike (r r' : EStateM.Result Fault Draft Unit) : Prop :=
  EndTogether (fun _ d _ d' => d.generator.Alike f d'.generator)
    (fun d d' => d.generator.Alike f d'.generator) r r'

theorem declare_alike (line : Declaration) (act : Declaring Unit) (hact : line.act? = some act)
    (d d' : Draft) (h : d.generator.Alike f d'.generator) :
    EndAlike f (declare act d) (declare act d') := by
  have hdeclared := Generator.declaration_alike f _ _ h line act hact
  unfold declare
  rcases endTogether_cases _ _ hdeclared with
    ⟨_, g, _, g', hrun, hrun', hg⟩ | ⟨fault, g, g', hrun, hrun', hg⟩
  · rw [hrun, hrun']
    exact hg
  · rw [hrun, hrun']
    exact ⟨rfl, hg⟩

mutual

/-- A line of a blind script takes the same course on both drafts. -/
theorem runLine_alike (line : Declaration) (hline : Script.Blind f [line]) (d d' : Draft)
    (h : d.generator.Alike f d'.generator) :
    EndAlike f (runLine line d) (runLine line d') := by
  match line with
  | .scalar category name validation callback =>
      rw [runLine, runLine]
      exact declare_alike f (.scalar category name validation callback) _ rfl d d' h
  | .array name item schema callback =>
      rw [runLine, runLine]
      exact declare_alike f (.array name item schema callback) _ rfl d d' h
  | .hash name key value schema callback =>
      rw [runLine, runLine]
      exact declare_alike f (.hash name key value schema callback) _ rfl d d' h
  | .report tag => exact h
  | .fail reason => exact ⟨rfl, h⟩
  | .attempt lines =>
      have hlines := runScript_alike lines
        (hline.mono f [.attempt lines] lines (List.subset_append_left _ _)) d d' h
      rw [runLine, runLine]
      rcases endTogether_cases _ _ hlines with
        ⟨_, e, _, e', hrun, hrun', he⟩ | ⟨fault, e, e', hrun, hrun', he⟩
      · rw [hrun, hrun']
        exact he
      · rw [hrun, hrun']
        exact he
  | .choose question consequent alternative =>
      have hsides := Script.Blind.mono f [.choose question consequent alternative]
      -- Both drafts get the same answer, and so they go on with the same lines.
      have hanswer := hline question List.mem_cons_self _ _ (Generator.view_alike f _ _ h)
      rw [runLine, runLine, ← hanswer]
      by_cases hyes : question d.generator.view = true
      · rw [if_pos hyes, if_pos hyes]
        exact runScript_alike consequent (hsides consequent (fun _ hquestion =>
          List.mem_cons_of_mem _ (List.mem_append_left _ (List.mem_append_left _ hquestion))) hline)
          d d' h
      · rw [if_neg hyes, if_neg hyes]
        exact runScript_alike alternative (hsides alternative (fun _ hquestion =>
          List.mem_cons_of_mem _ (List.mem_append_left _ (List.mem_append_right _ hquestion))) hline)
          d d' h

/-- A blind script takes the same course on both drafts. -/
theorem runScript_alike (lines : List Declaration) (hlines : Script.Blind f lines) (d d' : Draft)
    (h : d.generator.Alike f d'.generator) :
    EndAlike f (runScript lines d) (runScript lines d') := by
  match lines with
  | [] => exact h
  | line :: rest =>
      have hline := runLine_alike line (hlines.mono f (line :: rest) [line] (by
        rw [questionsOfScript, questionsOfScript, questionsOfScript, List.append_nil]
        exact List.subset_append_left _ _)) d d' h
      rw [runScript, runScript]
      -- The first line ends in the same way on both sides.
      rcases endTogether_cases _ _ hline with
        ⟨_, e, _, e', hrun, hrun', he⟩ | ⟨fault, e, e', hrun, hrun', he⟩
      · rw [hrun, hrun']
        exact runScript_alike rest
          (hlines.mono f (line :: rest) rest (List.subset_append_right _ _)) e e' he
      · rw [hrun, hrun']
        exact ⟨rfl, he⟩

end

end Draft

/-- A blind script makes the same definition in any two worlds, up to cells and policies, or ends in
    the same fault. -/
theorem define_alike (inflector : Inflector) (o o' : Options) (ho : o.recast f = o'.recast f)
    (script : Script) (hscript : Script.Blind f script) (v v' : World) :
    EndTogether (fun d _ d' _ => d.recast f = d'.recast f) (fun _ _ => True)
      (World.define inflector o script v) (World.define inflector o' script v') := by
  have hstart : (v.draft inflector o).generator.Alike f (v'.draft inflector o').generator :=
    ⟨rfl, ho, rfl, rfl⟩
  unfold World.define
  rcases endTogether_cases _ _ (Draft.runScript_alike f script hscript _ _ hstart) with
    ⟨_, e, _, e', hrun, hrun', he⟩ | ⟨fault, e, e', hrun, hrun', _⟩
  · rw [hrun, hrun']
    -- Recasting leaves the other options as they are.
    have hinspectable : (e.generator.options.recast f).inspectable =
        (e'.generator.options.recast f).inspectable := by rw [he.options]
    change Definition.mk _ _ _ = Definition.mk _ _ _
    rw [Definition.mk.injEq]
    exact ⟨he.fields, he.operations, hinspectable⟩
  · rw [hrun, hrun']
    exact ⟨rfl, trivial⟩

section

variable (sub sub' : SubSchema) (h : sub.recast f = sub'.recast f)
  (hblind : Script.Blind f sub.script)

include h hblind

theorem define_sub_alike (v v' : World) :
    EndTogether (fun d _ d' _ => d.recast f = d'.recast f) (fun _ _ => True)
      (World.define sub.inflector sub.options sub.script v)
      (World.define sub'.inflector sub'.options sub'.script v') := by
  obtain ⟨field, script, inflector, options, cell⟩ := sub
  obtain ⟨field', script', inflector', options', cell'⟩ := sub'
  simp only [SubSchema.recast, SubSchema.mk.injEq] at h
  obtain ⟨-, rfl, rfl, ho, -⟩ := h
  exact define_alike f inflector options options' ho script hblind v v'

/-- What one nested schema makes is what the other makes. -/
theorem makes_alike (d d' : Definition) (hd : sub.Makes d) (hd' : sub'.Makes d') :
    d.recast f = d'.recast f := by
  obtain ⟨v, w, hv⟩ := hd
  obtain ⟨v', w', hv'⟩ := hd'
  have hboth := define_sub_alike f sub sub' h hblind v v'
  rw [hv, hv'] at hboth
  exact hboth

/-- If one nested schema makes a definition, the other does not fail. -/
theorem not_fails_of_makes (d : Definition) (hd : sub.Makes d) (fault : Fault) :
    ¬ sub'.Fails fault := by
  rintro ⟨v', w', hv'⟩
  obtain ⟨v, w, hv⟩ := hd
  have hboth := define_sub_alike f sub sub' h hblind v v'
  rw [hv, hv'] at hboth
  exact hboth

/-- If both nested schemas fail, they fail alike. -/
theorem fails_alike (fault fault' : Fault) (hfault : sub.Fails fault)
    (hfault' : sub'.Fails fault') : fault = fault' := by
  obtain ⟨v, w, hv⟩ := hfault
  obtain ⟨v', w', hv'⟩ := hfault'
  have hboth := define_sub_alike f sub sub' h hblind v v'
  rw [hv, hv'] at hboth
  exact hboth.1

end

end

end FieldSchema
