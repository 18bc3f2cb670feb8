import FieldSchema.Proofs.Schema.InStep

/-!
# When a Declaration Is Refused

The conditions on a declaration, as a list, and what becomes of a script whose refusals are ignored.

The conditions are checked by helpers that call each other in different orders,
one of them twice, under two names. Here they are listed, each with the fault
that it is violated by, in the order in which they count. A declaration is
refused with the first of them that is violated, and then the generator is
what it was, the next cell included; otherwise it adds its field. Nothing is
assumed of the generator. Its table may hold anything, and need not be in step
with its fields.

A refusal that leaves no trace can be left out. For a script that goes on after
refusals this is not quite a statement about single lines. An attempt ends at
its first fault, so the lines after it are out as well, and the lines before it
stand although the attempt as a whole has failed. Of the lines between which a
script chooses only those of one side are run, and a refusal that was ignored
does not show in what the script chooses by. `acceptedOf` says which lines
stand, by running the script. The log is not compared: a fault that was ignored
is noted, and one that was left out is not.

## Main definitions

* `Generator.nameConditions`, `Generator.pluralConditions`: What a declaration is checked for.
* `firstViolated`: The fault of the first condition that is violated.
* `acceptedOf`: The lines of a script that stand, up to its first fault.
* `heededOf`: The script without the lines whose faults it ignores.

## Theorems

* `declareScalar_settled`, `withPlural_settled`: A declaration is settled by its conditions.
* `plural_refused_of_same`: What is refused for want of a singular form.
* `runScript_acceptedOf`: The lines that stand succeed, and come to the same generator.
* `runScript_heededOf`: Without the lines that are ignored a script takes the same course.
* `declarations_refused_without_trace`: When a declaration succeeds, how it fails, and that
  ignored declarations could have been left out.
-/

namespace FieldSchema

/-- The fault of the first condition that is violated. -/
def firstViolated (conditions : List (Bool × DefinitionFault)) : Option DefinitionFault :=
  (conditions.find? (·.1)).map (·.2)

theorem firstViolated_nil : firstViolated [] = none := rfl

theorem firstViolated_cons_true (fault : DefinitionFault)
    (rest : List (Bool × DefinitionFault)) :
    firstViolated ((true, fault) :: rest) = some fault := rfl

theorem firstViolated_cons_false (fault : DefinitionFault)
    (rest : List (Bool × DefinitionFault)) :
    firstViolated ((false, fault) :: rest) = firstViolated rest := rfl

/-- Of two lists of conditions the first one counts first. -/
theorem firstViolated_append (conditions more : List (Bool × DefinitionFault)) :
    firstViolated (conditions ++ more) = (firstViolated conditions).or (firstViolated more) := by
  unfold firstViolated
  rw [List.find?_append, Option.map_or]

/-- No condition is violated if none of them is. -/
theorem firstViolated_eq_none_iff (conditions : List (Bool × DefinitionFault)) :
    firstViolated conditions = none ↔ ∀ condition ∈ conditions, condition.1 = false := by
  unfold firstViolated
  rw [Option.map_eq_none_iff, List.find?_eq_none]
  simp only [Bool.not_eq_true]

namespace Generator

/-- A name without the white space around it. -/
def trimmed (name : String) : String :=
  String.ofList (Text.trim name.toList)

/-- What violates the conditions on the trimmed name of a field. -/
def nameConditions (g : Generator) (name : String) : List (Bool × DefinitionFault) :=
  [(name.isEmpty, .emptyName), (NameMap.contains g.operations name, .duplicateField name)]

/-- What violates the conditions on a field with a trimmed plural name. -/
def pluralConditions (g : Generator) (plural : String) (inConflict : Bool)
    (conflict : String → DefinitionFault) : List (Bool × DefinitionFault) :=
  let singular := g.inflector.singularize plural
  g.nameConditions plural ++
    [(singular == plural, .cannotSingularize plural),
     (NameMap.contains g.operations singular, .duplicateField singular),
     (inConflict, conflict plural)]

/-- The result of a declaration that is refused by the first violated condition, or by none. -/
def settled (g : Generator) (conditions : List (Bool × DefinitionFault)) (next : Generator) :
    EStateM.Result DefinitionFault Generator Unit :=
  match firstViolated conditions with
  | some fault => .error fault g
  | none => .ok () next

theorem settled_ok_iff (g next : Generator) (conditions : List (Bool × DefinitionFault)) :
    (∃ g', g.settled conditions next = .ok () g') ↔ firstViolated conditions = none := by
  unfold settled
  cases firstViolated conditions with
  | none => exact ⟨fun _ => rfl, fun _ => ⟨next, rfl⟩⟩
  | some fault => exact ⟨fun ⟨_, h⟩ => (nomatch h), fun h => (nomatch h)⟩

theorem settled_error_iff (g next : Generator) (conditions : List (Bool × DefinitionFault))
    (fault : DefinitionFault) (g' : Generator) :
    g.settled conditions next = .error fault g' ↔
      firstViolated conditions = some fault ∧ g' = g := by
  unfold settled
  cases firstViolated conditions with
  | none => exact ⟨fun h => (nomatch h), fun h => (nomatch h.1)⟩
  | some first =>
      simp only [EStateM.Result.error.injEq, Option.some.injEq, eq_comm (a := g)]

/-- The check of a name is the first of its conditions that is violated. -/
theorem checkName_eq (g : Generator) (name : String) :
    g.checkName name =
      match firstViolated (g.nameConditions (trimmed name)) with
      | some fault => .error fault
      | none => .ok (trimmed name) := by
  unfold checkName nameConditions
  change (if (trimmed name).isEmpty then _ else
    if NameMap.contains g.operations (trimmed name) then _ else _) = _
  cases (trimmed name).isEmpty with
  | true => rfl
  | false => cases NameMap.contains g.operations (trimmed name) <;> rfl

/-- A scalar is settled by the conditions on its name. -/
theorem declareScalar_settled (g : Generator) (category : Category) (name : String)
    (validation : Option Predicate) (callback : Option Expr) :
    declareScalar category name validation callback g =
      g.settled (g.nameConditions (trimmed name))
        (g.extend ⟨trimmed name, .scalar (.category category), validation, callback⟩
          g.nextCell) := by
  rw [declareScalar_eq, checkName_eq]
  unfold settled
  cases firstViolated (g.nameConditions (trimmed name)) <;> rfl

/-- A field with a plural name is settled by the conditions on its two names and its options. -/
theorem withPlural_settled (g : Generator) (name : String) (inConflict : Bool)
    (conflict : String → DefinitionFault) (schema : Option Script)
    (spec : String → String → FieldSpec) :
    g.withPlural name inConflict conflict schema spec =
      g.settled (g.pluralConditions (trimmed name) inConflict conflict)
        (g.extend (spec (trimmed name) (g.inflector.singularize (trimmed name)))
          (g.cellAfter schema)) := by
  unfold withPlural
  rw [checkName_eq]
  unfold settled pluralConditions nameConditions
  cases (trimmed name).isEmpty with
  | true => rfl
  | false =>
      cases NameMap.contains g.operations (trimmed name) with
      | true => rfl
      | false =>
          -- The name is fine, so what is left is the check of the singular form.
          simp only [firstViolated_cons_false, List.cons_append, List.nil_append, firstViolated_nil]
          unfold singularName
          by_cases hsame : g.inflector.singularize (trimmed name) = trimmed name
          · simp only [hsame, if_true, beq_self_eq_true, firstViolated_cons_true]
          · simp only [if_neg hsame, beq_eq_false_iff_ne.mpr hsame, firstViolated_cons_false]
            cases NameMap.contains g.operations (g.inflector.singularize (trimmed name)) with
            | true => rfl
            | false => cases inConflict <;> rfl

/-- Neither an array nor a hash can be declared under a name that is its own singular form, whatever
    else is wrong with it. -/
theorem plural_refused_of_same (g : Generator) (name : String)
    (hsame : g.inflector.singularize (trimmed name) = trimmed name) :
    let fault := (firstViolated (g.nameConditions (trimmed name))).getD
      (.cannotSingularize (trimmed name))
    (∀ item schema callback, declareArray name item schema callback g = .error fault g) ∧
      ∀ key value schema callback, declareHash name key value schema callback g =
        .error fault g := by
  intro fault
  have hrefused : ∀ inConflict conflict schema spec,
      g.withPlural name inConflict conflict schema spec = .error fault g := by
    intro inConflict conflict schema spec
    rw [withPlural_settled, settled, pluralConditions, firstViolated_append, hsame,
      beq_self_eq_true, firstViolated_cons_true]
    unfold fault
    cases firstViolated (g.nameConditions (trimmed name)) <;> rfl
  refine ⟨fun item schema callback => ?_, fun key value schema callback => ?_⟩
  · rw [declareArray_eq, hrefused]
  · rw [declareHash_eq, hrefused]

theorem nameConditions_kept_iff (g : Generator) (name : String) :
    firstViolated (g.nameConditions name) = none ↔
      name ≠ "" ∧ name ∉ NameMap.names g.operations := by
  rw [firstViolated_eq_none_iff, nameConditions]
  simp only [List.forall_mem_cons, List.not_mem_nil, false_implies, implies_true, and_true,
    ← NameMap.contains_iff, Bool.not_eq_true, String.isEmpty_eq_false_iff, ne_eq]

theorem pluralConditions_kept_iff (g : Generator) (plural : String) (inConflict : Bool)
    (conflict : String → DefinitionFault) :
    firstViolated (g.pluralConditions plural inConflict conflict) = none ↔
      plural ≠ "" ∧ plural ∉ NameMap.names g.operations ∧
        g.inflector.singularize plural ≠ plural ∧
        g.inflector.singularize plural ∉ NameMap.names g.operations ∧ inConflict = false := by
  rw [firstViolated_eq_none_iff, pluralConditions, List.forall_mem_append,
    ← firstViolated_eq_none_iff, nameConditions_kept_iff]
  simp only [List.forall_mem_cons, List.not_mem_nil, false_implies, implies_true, and_true,
    ← NameMap.contains_iff, Bool.not_eq_true, beq_eq_false_iff_ne, ne_eq, and_assoc]

end Generator

mutual

/-- The lines that stand of a line: those that stand of a script which the line holds and runs, or
    else the line itself, unless it fails. -/
def Declaration.accepted : Declaration → Draft → List Declaration
  | .attempt lines, d => acceptedOf lines d
  | .choose question consequent alternative, d =>
      if question d.generator.view then acceptedOf consequent d else acceptedOf alternative d
  | line, d =>
      match Draft.runLine line d with
      | .ok _ _ => [line]
      | .error _ _ => []
termination_by structural line => line

/-- The lines that stand of a script, up to its first fault. -/
def acceptedOf : List Declaration → Draft → List Declaration
  | [], _ => []
  | line :: rest, d =>
      line.accepted d ++
        match Draft.runLine line d with
        | .ok _ next => acceptedOf rest next
        | .error _ _ => []
termination_by structural lines => lines

end

mutual

/-- A line that fails, without the lines whose faults it ignores: only a choice holds such lines. -/
def Declaration.heeded : Declaration → Draft → List Declaration
  | .choose question consequent alternative, d =>
      if question d.generator.view then heededOf consequent d else heededOf alternative d
  | line, _ => [line]
termination_by structural line => line

/-- The script without the lines whose faults it ignores, and with the lines in place of a choice
    between which it chooses; its own fault stays in place. -/
def heededOf : List Declaration → Draft → List Declaration
  | [], _ => []
  | line :: rest, d =>
      match Draft.runLine line d with
      | .ok _ next => line.accepted d ++ heededOf rest next
      | .error _ _ => line.heeded d ++ rest
termination_by structural lines => lines

end

theorem accepted_of_isPlain (line : Declaration) (hline : line.isPlain = true) (d : Draft) :
    line.accepted d =
      match Draft.runLine line d with
      | .ok _ _ => [line]
      | .error _ _ => [] := by
  cases line with
  | attempt lines => exact nomatch hline
  | choose question consequent alternative => exact nomatch hline
  | _ => simp only [Declaration.accepted]

/-- The lines that stand are lines of the script, or of its attempts and choices, in their order. -/
theorem acceptedOf_sublist (lines : List Declaration) (d : Draft) :
    (acceptedOf lines d).Sublist (plainLinesOf lines) := by
  -- After a fault nothing more is accepted; otherwise the later lines go on from the next draft.
  have hcons : ∀ line rest (d : Draft), (line.accepted d).Sublist line.plainLines →
      (∀ d, (acceptedOf rest d).Sublist (plainLinesOf rest)) →
        (acceptedOf (line :: rest) d).Sublist (plainLinesOf (line :: rest)) := by
    intro line rest d hline hrest
    rw [acceptedOf, plainLinesOf]
    refine hline.append ?_
    cases Draft.runLine line d with
    | ok _ next => exact hrest next
    | error fault next => exact List.nil_sublist _
  induction lines using Script.inductOn generalizing d with
  | nil => exact List.Sublist.refl _
  | plain line rest hline ih =>
      refine hcons line rest d ?_ ih
      rw [accepted_of_isPlain line hline, line.plainLines_of_isPlain hline]
      cases Draft.runLine line d with
      | ok _ next => exact List.Sublist.refl _
      | error fault next => exact List.nil_sublist _
  | attempt lines rest ihLines ih =>
      refine hcons (.attempt lines) rest d ?_ ih
      rw [Declaration.accepted, Declaration.plainLines]
      exact ihLines d
  | choose question consequent alternative rest ihConsequent ihAlternative ih =>
      refine hcons _ rest d ?_ ih
      rw [Declaration.accepted, Declaration.plainLines]
      split
      · exact (ihConsequent d).trans (List.sublist_append_left _ _)
      · exact (ihAlternative d).trans (List.sublist_append_right _ _)

namespace Draft

theorem runScript_append (lines more : List Declaration) (d : Draft) :
    runScript (lines ++ more) d =
      match runScript lines d with
      | .ok _ next => runScript more next
      | .error fault next => .error fault next := by
  induction lines generalizing d with
  | nil => rfl
  | cons line rest ih =>
      rw [List.cons_append, runScript, runScript]
      cases runLine line d with
      | ok _ next => exact ih next
      | error fault next => rfl

/-- Lines that succeed are followed by the others. -/
theorem runScript_append_of_ok (lines more : List Declaration) (d next : Draft)
    (h : runScript lines d = .ok () next) : runScript (lines ++ more) d = runScript more next := by
  rw [runScript_append, h]

theorem runScript_singleton (line : Declaration) (d : Draft) :
    runScript [line] d = runLine line d := by
  rw [runScript]
  cases runLine line d <;> rfl

/-- Two results end in the same generator, and with the same fault if with any. -/
def SameCourse (r r' : EStateM.Result Fault Draft Unit) : Prop :=
  EndTogether (fun _ d _ d' => d.generator = d'.generator)
    (fun d d' => d.generator = d'.generator) r r'

theorem declare_sameCourse (act : Declaring Unit) (d d' : Draft)
    (h : d.generator = d'.generator) : SameCourse (declare act d) (declare act d') := by
  unfold declare
  rw [h]
  cases act d'.generator with
  | ok _ g => exact rfl
  | error fault g => exact ⟨rfl, rfl⟩

mutual

/-- The log is nothing to a line of a script. -/
theorem runLine_sameCourse (line : Declaration) (d d' : Draft)
    (h : d.generator = d'.generator) : SameCourse (runLine line d) (runLine line d') := by
  match line with
  | .scalar category name validation callback =>
      rw [runLine, runLine]
      exact declare_sameCourse _ d d' h
  | .array name item schema callback =>
      rw [runLine, runLine]
      exact declare_sameCourse _ d d' h
  | .hash name key value schema callback =>
      rw [runLine, runLine]
      exact declare_sameCourse _ d d' h
  | .report tag => exact h
  | .fail reason => exact ⟨rfl, h⟩
  -- An ignored failure ends the same way on both sides, with generators that still agree.
  | .attempt lines =>
      rw [runLine, runLine]
      rcases endTogether_cases _ _ (runScript_sameCourse lines d d' h) with
        ⟨_, e, _, e', hrun, hrun', he⟩ | ⟨fault, e, e', hrun, hrun', he⟩
      · rw [hrun, hrun']
        exact he
      · rw [hrun, hrun']
        exact he
  -- The question is put to the same generator, so both sides take the same branch.
  | .choose question consequent alternative =>
      rw [runLine, runLine, ← h]
      by_cases hyes : question d.generator.view = true
      · rw [if_pos hyes, if_pos hyes]
        exact runScript_sameCourse consequent d d' h
      · rw [if_neg hyes, if_neg hyes]
        exact runScript_sameCourse alternative d d' h

/-- The log is nothing to a script. -/
theorem runScript_sameCourse (lines : List Declaration) (d d' : Draft)
    (h : d.generator = d'.generator) : SameCourse (runScript lines d) (runScript lines d') := by
  match lines with
  | [] => exact h
  | line :: rest =>
      rw [runScript, runScript]
      rcases endTogether_cases _ _ (runLine_sameCourse line d d' h) with
        ⟨_, e, _, e', hrun, hrun', he⟩ | ⟨fault, e, e', hrun, hrun', he⟩
      · rw [hrun, hrun']
        exact runScript_sameCourse rest e e' he
      · rw [hrun, hrun']
        exact ⟨rfl, he⟩

end

/-- A plain line that fails leaves the generator as it was. -/
theorem runLine_error (line : Declaration) (hline : line.isPlain = true) (d next : Draft)
    (fault : Fault) (h : runLine line d = .error fault next) : next.generator = d.generator := by
  -- A refused declaration leaves the generator as it was.
  have hdeclared : ∀ act, line.act? = some act → next.generator = d.generator := by
    intro act hact
    rw [runLine_of_act? line act hact] at h
    unfold declare at h
    rcases Generator.declaration_result line act d.generator hact with
      ⟨refusal, hresult⟩ | ⟨spec, nextCell, -, hresult⟩
    · rw [hresult] at h
      cases h
      rfl
    · rw [hresult] at h
      exact nomatch h
  match line with
  | .scalar _ _ _ _ => exact hdeclared _ rfl
  | .array _ _ _ _ => exact hdeclared _ rfl
  | .hash _ _ _ _ _ => exact hdeclared _ rfl
  | .report _ => exact nomatch h
  | .fail _ =>
      cases h
      rfl

/-- What stands of a plain line comes to the generator in which the line ends. -/
theorem runLine_accepted_of_isPlain (line : Declaration) (hline : line.isPlain = true)
    (d d' : Draft) (hsame : d.generator = d'.generator) :
    ∃ e, runScript (line.accepted d) d' = .ok () e ∧
      e.generator = (finalState (runLine line d)).generator := by
  have hcourse := runLine_sameCourse line d d' hsame
  rw [accepted_of_isPlain line hline]
  cases hrun : runLine line d with
  | ok _ next =>
      rw [hrun] at hcourse
      simp only [runScript_singleton]
      cases hrun' : runLine line d' with
      | ok _ e =>
          rw [hrun'] at hcourse
          exact ⟨e, rfl, hcourse.symm⟩
      | error fault e =>
          rw [hrun'] at hcourse
          exact False.elim hcourse
  -- Nothing is accepted of a line that fails, and it has changed nothing.
  | error fault next =>
      exact ⟨d', rfl, hsame.symm.trans (runLine_error line hline d next fault hrun).symm⟩

mutual

/-- What stands of a line succeeds, and comes to the generator in which the line ends. -/
theorem runLine_accepted (line : Declaration) (d d' : Draft)
    (hsame : d.generator = d'.generator) :
    ∃ e, runScript (line.accepted d) d' = .ok () e ∧
      e.generator = (finalState (runLine line d)).generator := by
  match line with
  | .scalar _ _ _ _ => exact runLine_accepted_of_isPlain _ rfl d d' hsame
  | .array _ _ _ _ => exact runLine_accepted_of_isPlain _ rfl d d' hsame
  | .hash _ _ _ _ _ => exact runLine_accepted_of_isPlain _ rfl d d' hsame
  | .report _ => exact runLine_accepted_of_isPlain _ rfl d d' hsame
  | .fail _ => exact runLine_accepted_of_isPlain _ rfl d d' hsame
  | .attempt lines =>
      obtain ⟨e, hrun, he⟩ := runScript_acceptedOf lines d d' hsame
      rw [Declaration.accepted, runLine]
      refine ⟨e, hrun, he.trans ?_⟩
      -- An attempt goes on from where its script ends, a fault or not.
      cases runScript lines d <;> rfl
  | .choose question consequent alternative =>
      rw [Declaration.accepted, runLine]
      split
      · exact runScript_acceptedOf consequent d d' hsame
      · exact runScript_acceptedOf alternative d d' hsame

/-- The lines that stand succeed, and come to the generator at which the script ends. -/
theorem runScript_acceptedOf (lines : List Declaration) (d d' : Draft)
    (hsame : d.generator = d'.generator) :
    ∃ e, runScript (acceptedOf lines d) d' = .ok () e ∧
      e.generator = (finalState (runScript lines d)).generator := by
  match lines with
  | [] => exact ⟨d', rfl, hsame.symm⟩
  | line :: rest =>
      obtain ⟨e, hrun, he⟩ := runLine_accepted line d d' hsame
      rw [acceptedOf, runScript_append_of_ok _ _ d' e hrun, runScript]
      cases hline : runLine line d with
      | ok _ next =>
          rw [hline] at he
          exact runScript_acceptedOf rest next e he.symm
      | error fault next =>
          -- Of a line that fails there stands what it comes to, and no line after it.
          rw [hline] at he
          exact ⟨e, rfl, he⟩

end

mutual

/-- Without the lines whose faults it ignores, a line that fails takes the same course. -/
theorem runLine_heeded (line : Declaration) (d d' : Draft) (hsame : d.generator = d'.generator) :
    SameCourse (runLine line d) (runScript (line.heeded d) d') := by
  -- Every line but a choice is heeded as it stands.
  have hself : line.heeded d = [line] →
      SameCourse (runLine line d) (runScript (line.heeded d) d') := by
    intro halone
    rw [halone, runScript_singleton]
    exact runLine_sameCourse line d d' hsame
  match line with
  | .scalar _ _ _ _ => exact hself (by simp only [Declaration.heeded])
  | .array _ _ _ _ => exact hself (by simp only [Declaration.heeded])
  | .hash _ _ _ _ _ => exact hself (by simp only [Declaration.heeded])
  | .report _ => exact hself (by simp only [Declaration.heeded])
  | .fail _ => exact hself (by simp only [Declaration.heeded])
  | .attempt _ => exact hself (by simp only [Declaration.heeded])
  | .choose question consequent alternative =>
      rw [runLine, Declaration.heeded]
      split
      · exact runScript_heededOf consequent d d' hsame
      · exact runScript_heededOf alternative d d' hsame

/-- Without the lines whose faults it ignores, a script takes the same course. -/
theorem runScript_heededOf (lines : List Declaration) (d d' : Draft)
    (hsame : d.generator = d'.generator) :
    SameCourse (runScript lines d) (runScript (heededOf lines d) d') := by
  match lines with
  | [] => exact hsame
  | line :: rest =>
      rw [heededOf, runScript]
      cases hline : runLine line d with
      | ok _ next =>
          -- The line succeeds: what it accepted is run in its place, and the rest follows by
          -- induction.
          obtain ⟨e, hrun, he⟩ := runLine_accepted line d d' hsame
          rw [hline] at he
          simp only []
          rw [runScript_append_of_ok _ _ d' e hrun]
          exact runScript_heededOf rest next e he.symm
      | error fault next =>
          -- The line fails: what it heeded up to there fails with the same fault.
          have hcourse := runLine_heeded line d d' hsame
          rw [hline] at hcourse
          simp only []
          rw [runScript_append]
          cases hrun : runScript (line.heeded d) d' with
          | ok _ e =>
              rw [hrun] at hcourse
              exact False.elim hcourse
          | error fault' e =>
              rw [hrun] at hcourse
              exact hcourse

end

end Draft

namespace World

/-- The lines that stand make the definition of what the script declared before its first fault. -/
theorem define_acceptedOf (inflector : Inflector) (options : Options) (script : Script)
    (w : World) :
    ∃ v, define inflector options (acceptedOf script (w.draft inflector options)) w =
      .ok (defineUpToFault inflector options script w).1 v := by
  obtain ⟨e, hrun, he⟩ :=
    Draft.runScript_acceptedOf script _ (w.draft inflector options) rfl
  rw [defineUpToFault_eq, ← he]
  unfold define
  rw [hrun]
  exact ⟨_, rfl⟩

/-- A script makes the same definition without the lines whose faults it ignores, or ends in the
    same fault. -/
theorem define_heededOf (inflector : Inflector) (options : Options) (script : Script)
    (w : World) :
    EndTogether (fun d v d' v' => d = d' ∧ v.nextCell = v'.nextCell)
      (fun v v' => v.nextCell = v'.nextCell)
      (define inflector options script w)
      (define inflector options (heededOf script (w.draft inflector options)) w) := by
  have hcourse := Draft.runScript_heededOf script _ (w.draft inflector options) rfl
  unfold define
  rcases endTogether_cases _ _ hcourse with
    ⟨_, e, _, e', hrun, hrun', he⟩ | ⟨fault, e, e', hrun, hrun', he⟩
  · rw [hrun, hrun']
    exact ⟨congrArg Generator.finish he, congrArg Generator.nextCell he⟩
  · rw [hrun, hrun']
    exact ⟨rfl, congrArg Generator.nextCell he⟩

end World

/-- Whatever the generator, a declaration succeeds exactly if none of its conditions is violated.
    If it fails, it does so with the first one that is, and the generator stays what it was. So a
    script that ignores some faults makes the same definition as the script without the lines that
    it ignores, and these are lines of its own in their order. -/
theorem declarations_refused_without_trace :
    (∀ (g : Generator) (category : Category) (name : String) (validation : Option Predicate)
        (callback : Option Expr),
      let t := Generator.trimmed name
      let act := Generator.declareScalar category name validation callback
      ((∃ g', act g = .ok () g') ↔ t ≠ "" ∧ t ∉ NameMap.names g.operations) ∧
      ∀ fault g', act g = .error fault g' ↔
        firstViolated [(t.isEmpty, .emptyName),
          (NameMap.contains g.operations t, .duplicateField t)] = some fault ∧ g' = g) ∧
    (∀ (g : Generator) (name : String) (item : Option Constraint) (schema : Option Script)
        (callback : Option Expr),
      let t := Generator.trimmed name
      let s := g.inflector.singularize t
      let act := Generator.declareArray name item schema callback
      ((∃ g', act g = .ok () g') ↔
        t ≠ "" ∧ t ∉ NameMap.names g.operations ∧ s ≠ t ∧ s ∉ NameMap.names g.operations ∧
          (item.isSome && schema.isSome) = false) ∧
      ∀ fault g', act g = .error fault g' ↔
        firstViolated [(t.isEmpty, .emptyName),
          (NameMap.contains g.operations t, .duplicateField t),
          (s == t, .cannotSingularize t),
          (NameMap.contains g.operations s, .duplicateField s),
          (item.isSome && schema.isSome, .conflictingItemType t)] = some fault ∧ g' = g) ∧
    (∀ (g : Generator) (name : String) (key value : Option Constraint) (schema : Option Script)
        (callback : Option Expr),
      let t := Generator.trimmed name
      let s := g.inflector.singularize t
      let act := Generator.declareHash name key value schema callback
      ((∃ g', act g = .ok () g') ↔
        t ≠ "" ∧ t ∉ NameMap.names g.operations ∧ s ≠ t ∧ s ∉ NameMap.names g.operations ∧
          (value.isSome && schema.isSome) = false) ∧
      ∀ fault g', act g = .error fault g' ↔
        firstViolated [(t.isEmpty, .emptyName),
          (NameMap.contains g.operations t, .duplicateField t),
          (s == t, .cannotSingularize t),
          (NameMap.contains g.operations s, .duplicateField s),
          (value.isSome && schema.isSome, .conflictingValueType t)] = some fault ∧ g' = g) ∧
    (∀ (inflector : Inflector) (options : Options) (script : Script) (w : World),
      let start := w.draft inflector options
      (acceptedOf script start).Sublist (plainLinesOf script) ∧
      (∃ v, World.define inflector options (acceptedOf script start) w =
        .ok (World.defineUpToFault inflector options script w).1 v) ∧
      EndTogether (fun d v d' v' => d = d' ∧ v.nextCell = v'.nextCell)
        (fun v v' => v.nextCell = v'.nextCell)
        (World.define inflector options script w)
        (World.define inflector options (heededOf script start) w)) := by
  refine ⟨?_, ?_, ?_, ?_⟩
  -- A scalar: the name alone is checked.
  · intro g category name validation callback t act
    change ((∃ g', Generator.declareScalar category name validation callback g = _) ↔ _) ∧
      ∀ fault g', Generator.declareScalar category name validation callback g = _ ↔ _
    rw [Generator.declareScalar_settled, Generator.settled_ok_iff,
      Generator.nameConditions_kept_iff]
    exact ⟨Iff.rfl, Generator.settled_error_iff g _ _⟩
  -- An array: the name, then its singular form, then the two forms of the items.
  · intro g name item schema callback t s act
    change ((∃ g', Generator.declareArray name item schema callback g = _) ↔ _) ∧
      ∀ fault g', Generator.declareArray name item schema callback g = _ ↔ _
    rw [Generator.declareArray_eq, Generator.withPlural_settled, Generator.settled_ok_iff,
      Generator.pluralConditions_kept_iff]
    exact ⟨Iff.rfl, Generator.settled_error_iff g _ _⟩
  -- A hash: the same checks, with the values in place of the items.
  · intro g name key value schema callback t s act
    change ((∃ g', Generator.declareHash name key value schema callback g = _) ↔ _) ∧
      ∀ fault g', Generator.declareHash name key value schema callback g = _ ↔ _
    rw [Generator.declareHash_eq, Generator.withPlural_settled, Generator.settled_ok_iff,
      Generator.pluralConditions_kept_iff]
    exact ⟨Iff.rfl, Generator.settled_error_iff g _ _⟩
  · intro inflector options script w start
    exact ⟨acceptedOf_sublist script start, World.define_acceptedOf inflector options script w,
      World.define_heededOf inflector options script w⟩

end FieldSchema
