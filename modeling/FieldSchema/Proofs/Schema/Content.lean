import FieldSchema.Proofs.Code.Footprint
import FieldSchema.Proofs.Schema.InStep

/-!
# What Ends Up in Fields

From conditions on scripts to conditions on fields.

A script is checked as a whole: that none of its code attaches a definition,
and that all its predicates are pure. Later on such things are needed of single
fields, and of the nested scripts in them. They carry over because a
declaration puts into its field what stands in its line and nothing else, and
because the lines of an attempt, and those between which a script chooses, are
lines of the script around it.

That a hash has not both a constraint on its values and a nested schema is not
a condition on scripts. A script may ask for both, but the declaration is
refused.

## Main definitions

* `SelfContained`: A script attaches nothing, and its predicates are pure.
* `FieldSpec.SelfContained`: The same of a field, and no two sources of values.
* `Definition.SelfContained`: Such a script made the definition.

## Theorems

* `mem_of_plainLinesOf`: What lines mention, also those of attempts and choices, the script mentions.
* `declaration_selfContained`: A declaration adds a field of the same quality.
* `fields_selfContained`: So all fields are, and the scripts nested in them.
-/

namespace FieldSchema

/-- No code in the script attaches a definition, and all its predicates are pure. -/
structure SelfContained (script : Script) : Prop where
  attached : attachedByScript script = []
  pure : ∀ p ∈ predicatesOfScript script, p.IsPure

/-- No code of the field attaches a definition, its predicates are pure, and the values of a hash
    are either constrained or made by a nested schema. -/
structure FieldSpec.SelfContained (spec : FieldSpec) : Prop where
  attached : spec.attached = []
  pure : ∀ p ∈ spec.predicates, p.IsPure
  oneSource : ∀ singular key value schema, spec.kind = .hash singular key value schema →
    value = none ∨ schema = none

/-- The definition is that of what a self-contained script declared, maybe up to a fault. -/
def Definition.SelfContained (d : Definition) : Prop :=
  ∃ inflector options script w, FieldSchema.SelfContained script ∧
    d = (World.defineUpToFault inflector options script w).1

/-- What one of its plain lines mentions, the script mentions, if it mentions what its lines do, and
    attempts and choices mention at least what the scripts in them do. -/
theorem mem_of_plainLinesOf {α : Type} (ofLine : Declaration → List α)
    (ofScript : List Declaration → List α)
    (hcons : ∀ line rest, ofScript (line :: rest) = ofLine line ++ ofScript rest)
    (hattempt : ∀ lines, ofLine (.attempt lines) = ofScript lines)
    (hchoose : ∀ question consequent alternative,
      ofScript consequent ++ ofScript alternative ⊆
        ofLine (.choose question consequent alternative))
    (lines : List Declaration) (plain : Declaration) (h : plain ∈ plainLinesOf lines) (a : α)
    (ha : a ∈ ofLine plain) : a ∈ ofScript lines := by
  induction lines using Script.inductOn with
  | nil => exact absurd h List.not_mem_nil
  | plain line rest hline ih =>
      rw [plainLinesOf, line.plainLines_of_isPlain hline, List.mem_append, List.mem_singleton] at h
      rw [hcons, List.mem_append]
      rcases h with rfl | hrest
      · exact Or.inl ha
      · exact Or.inr (ih hrest)
  | attempt lines rest ihLines ih =>
      rw [plainLinesOf, Declaration.plainLines, List.mem_append] at h
      rw [hcons, hattempt, List.mem_append]
      exact h.imp ihLines ih
  | choose question consequent alternative rest ihConsequent ihAlternative ih =>
      rw [plainLinesOf, Declaration.plainLines, List.mem_append, List.mem_append] at h
      rw [hcons, List.mem_append]
      refine h.imp (fun hsides => hchoose question consequent alternative ?_) ih
      exact List.mem_append.mpr (hsides.imp ihConsequent ihAlternative)

namespace Generator

/-- All fields that were declared so far are self-contained. -/
def HasSelfContained (g : Generator) : Prop :=
  ∀ spec ∈ g.fields, spec.SelfContained

theorem script_nested (g : Generator) (singular : String) (schema : Option Script) :
    (g.nested singular schema).map (·.script) = schema := by
  cases schema <;> rfl

/-- The field that a self-contained line declares is self-contained. -/
theorem Declares.selfContained (g : Generator) (line : Declaration) (spec : FieldSpec)
    (nextCell : Nat) (h : g.Declares line spec nextCell) (hattached : line.attached = [])
    (hpure : ∀ p ∈ line.predicates, p.IsPure) : spec.SelfContained := by
  cases h with
  | scalar category name accepted validation callback haccepted =>
      refine ⟨?_, ?_, ?_⟩
      · rw [Declaration.attached] at hattached
        simp only [FieldSpec.attached, hattached, FieldSpec.script?, FieldKind.schema?,
          Option.map_none, attachedBySchema, List.append_nil]
      · rw [Declaration.predicates] at hpure
        simpa only [FieldSpec.predicates, FieldKind.constraints, Constraint.predicates,
          FieldSpec.script?, FieldKind.schema?, Option.map_none, predicatesOfSchema,
          List.flatMap_cons, List.flatMap_nil, List.append_nil] using hpure
      · intro singular key value schema hkind
        exact absurd hkind (by simp only [reduceCtorEq, not_false_eq_true])
  | array name plural singular item schema callback _ _ _ =>
      refine ⟨?_, ?_, ?_⟩
      · rw [Declaration.attached] at hattached
        simp only [FieldSpec.attached, pluralSpec, FieldSpec.script?, FieldKind.schema?,
          script_nested, hattached]
      · rw [Declaration.predicates, predicatesOfAny] at hpure
        simpa only [FieldSpec.predicates, pluralSpec, FieldKind.constraints, FieldSpec.script?,
          FieldKind.schema?, script_nested, Option.toList_none, List.nil_append] using hpure
      · intro own key value nested hkind
        exact absurd hkind (by simp only [pluralSpec, reduceCtorEq, not_false_eq_true])
  | hash name plural singular key value schema callback _ _ hconflict =>
      refine ⟨?_, ?_, ?_⟩
      · rw [Declaration.attached] at hattached
        simp only [FieldSpec.attached, pluralSpec, FieldSpec.script?, FieldKind.schema?,
          script_nested, hattached]
      · rw [Declaration.predicates, predicatesOfAny, predicatesOfAny] at hpure
        simpa only [FieldSpec.predicates, pluralSpec, FieldKind.constraints, FieldSpec.script?,
          FieldKind.schema?, script_nested, Option.toList_none, List.nil_append,
          List.flatMap_append] using hpure
      · intro own k v nested hkind
        simp only [pluralSpec, FieldKind.hash.injEq] at hkind
        obtain ⟨-, -, rfl, rfl⟩ := hkind
        -- With both a constraint on values and a script the declaration was refused.
        cases value with
        | none => exact Or.inl rfl
        | some c =>
            cases schema with
            | none => exact Or.inr rfl
            | some script =>
                exact absurd hconflict (by simp only [Option.isSome_some, Bool.and_self,
                  Bool.true_eq_false, not_false_eq_true])

/-- A declaration whose line is self-contained adds such a field or none. -/
theorem declaration_selfContained (line : Declaration) (act : Declaring Unit) (g : Generator)
    (hact : line.act? = some act) (hattached : line.attached = [])
    (hpure : ∀ p ∈ line.predicates, p.IsPure) (h : g.HasSelfContained) :
    (finalState (act g)).HasSelfContained := by
  rcases declaration_cases line act g hact with hsame | ⟨spec, nextCell, hspec, hmore⟩
  · rw [hsame]
    exact h
  · have hnew := hspec.selfContained g line spec nextCell hattached hpure
    rw [hmore]
    exact List.forall_mem_append.mpr ⟨h, List.forall_mem_singleton.mpr hnew⟩

end Generator

/-- The fields of a self-contained definition are self-contained. -/
theorem fields_selfContained (d : Definition) (h : d.SelfContained) (spec : FieldSpec)
    (hspec : spec ∈ d.fields) : spec.SelfContained := by
  obtain ⟨inflector, options, script, w, hscript, rfl⟩ := h
  rw [World.defineUpToFault_eq] at hspec
  -- Every accepted line adds a self-contained field, and the generator starts with none.
  refine Draft.runScript_keeps Generator.HasSelfContained script _ ?_
    (fun other hother => absurd hother List.not_mem_nil) spec hspec
  intro plain hplain act hact g hg
  refine Generator.declaration_selfContained plain act g hact ?_ ?_ hg
  -- A plain line attaches only what the script it stands in attaches, which is nothing.
  · refine List.eq_nil_iff_forall_not_mem.mpr fun name hname => ?_
    have hmem := mem_of_plainLinesOf Declaration.attached attachedByScript (fun _ _ => rfl)
      (fun _ => rfl) (fun _ _ _ => List.Subset.refl _) script plain hplain name hname
    rw [hscript.attached] at hmem
    exact List.not_mem_nil hmem
  · intro p hp
    exact hscript.pure p (mem_of_plainLinesOf Declaration.predicates predicatesOfScript
      (fun _ _ => rfl) (fun _ => rfl) (fun _ _ _ => List.Subset.refl _) script plain hplain p hp)

/-- The script of a schema that is nested in a self-contained field is self-contained. -/
theorem FieldSpec.SelfContained.script (spec : FieldSpec) (h : spec.SelfContained)
    (sub : SubSchema) (hsub : spec.kind.schema? = some sub) :
    FieldSchema.SelfContained sub.script := by
  have hscript : spec.script? = some sub.script := by
    rw [FieldSpec.script?, hsub, Option.map_some]
  constructor
  · have hattached := h.attached
    rw [FieldSpec.attached, List.append_eq_nil_iff, hscript] at hattached
    exact hattached.2
  · intro p hp
    refine h.pure p ?_
    rw [FieldSpec.predicates, hscript]
    exact List.mem_append_right _ hp

theorem FieldSpec.SelfContained.callback (spec : FieldSpec) (h : spec.SelfContained) :
    attachedByCallback spec.callback = [] := by
  have hattached := h.attached
  rw [FieldSpec.attached, List.append_eq_nil_iff] at hattached
  exact hattached.1

end FieldSchema
