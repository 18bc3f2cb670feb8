import FieldSchema.World
import FieldSchema.Proofs.Schema.Declaring

/-!
# Fields and Operations in Step

The table of operations of a schema against its list of fields.

A schema keeps two records of what was declared: the fields in order, and the
operations by name. An array or a hash takes two names at once, and a name may
have been taken before in any of three roles, as a scalar, as a plural or as a
singular form. What holds the records together is that the table is never
anything but the operations of the listed fields, rearranged, with no name
twice. `Tabulates` says so, a declaration keeps it, and it determines the rest:
which names there are, what each is bound to, and that a field is found under
its name.

The invariant is one of generators, not of scripts. A script may go on after a
refused declaration or end in a fault, and `runScript_keeps` carries the
invariant through all of that: it needs to know only what single declarations
do to the generator, whether they are accepted or refused.

## Main definitions

* `Tabulates`: A table consists of the operations of the listed fields.
* `Definition.InStep`: What that means to those who use a definition.
* `Declaration.act?`: What a line of a script does to the generator.
* `plainLinesOf`: The lines of a script, those of its attempts and choices included.
* `Generator.Declares`: The field that a line declares, with all that was checked of it.

## Theorems

* `tabulates_extend`: One more field under free names keeps the records in step.
* `Script.inductOn`: Induction on the lines of a script, and on the scripts that lines hold.
* `runScript_keeps`: A script keeps what its declarations keep.
* `declaration_result`: A declaration is refused, or adds the field of its line.
* `declaration_cases`: What becomes of the generator in both cases.
* `declaration_inStep`: A declaration keeps the records in step.
* `defineUpToFault_tabulates`: Every finished schema is in step.
-/

namespace FieldSchema

/-- The table consists of the operations of the listed fields, in any order, no name twice. -/
structure Tabulates (operations : List (String × Operation)) (fields : List FieldSpec) : Prop where
  perm : operations.Perm (fields.flatMap FieldSpec.operations)
  nodup : (NameMap.names operations).Nodup

theorem tabulates_nil : Tabulates [] [] := ⟨List.Perm.refl _, List.nodup_nil⟩

/-- One more field whose operations have free and distinct names keeps the records in step. -/
theorem tabulates_extend (g : Generator) (spec : FieldSpec) (nextCell : Nat)
    (h : Tabulates g.operations g.fields) (hnodup : (NameMap.names spec.operations).Nodup)
    (hnew : ∀ name ∈ NameMap.names spec.operations,
      NameMap.contains g.operations name = false) :
    Tabulates (g.extend spec nextCell).operations (g.extend spec nextCell).fields := by
  have hfresh : ∀ name ∈ NameMap.names spec.operations, name ∉ NameMap.names g.operations :=
    fun name hname => NameMap.not_mem_names _ name (hnew name hname)
  have hperm := NameMap.insertAll_perm spec.operations g.operations hnodup hfresh
  constructor
  · simp only [Generator.extend, List.flatMap_append, List.flatMap_singleton]
    exact hperm.trans (h.perm.append_right spec.operations)
  -- The new names are distinct from each other and from the old ones.
  · have hnames := hperm.map Prod.fst
    rw [List.map_append] at hnames
    refine hnames.nodup_iff.mpr (List.nodup_append.mpr ⟨h.nodup, hnodup, ?_⟩)
    rintro name hold other hspec rfl
    exact hfresh name hspec hold

/-- What the table and the fields of a definition in step have to do with each other. -/
structure Definition.InStep (d : Definition) : Prop where
  /-- No two fields have one name. -/
  fields_nodup : (d.fields.map FieldSpec.name).Nodup
  /-- No two operations have one name. -/
  operations_nodup : d.operationNames.Nodup
  /-- The names of the operations are those of the fields together with the singular ones. -/
  names_perm : d.operationNames.Perm
    (d.fields.map FieldSpec.name ++ d.fields.filterMap FieldSpec.singular?)
  /-- A name is bound to the accessor that one of the fields has under it. -/
  bound_iff : ∀ name operation, NameMap.get? d.operations name = some operation ↔
    ∃ spec ∈ d.fields, (name, operation) ∈ spec.operations
  /-- A field is found under its name, and nothing else is. -/
  field?_iff : ∀ name spec, d.field? name = some spec ↔ spec ∈ d.fields ∧ spec.name = name

theorem names_flatMap_perm (fields : List FieldSpec) :
    (NameMap.names (fields.flatMap FieldSpec.operations)).Perm
      (fields.map FieldSpec.name ++ fields.filterMap FieldSpec.singular?) := by
  induction fields with
  | nil => exact List.Perm.refl _
  | cons spec rest ih =>
      have hhead := FieldSpec.names_operations spec
      simp only [NameMap.names, List.flatMap_cons, List.map_append] at hhead ih ⊢
      rw [hhead, List.map_cons, List.cons_append, List.cons_append]
      -- The singular name has to move behind the names of the other fields.
      refine List.Perm.cons spec.name ?_
      cases hsingular : spec.singular? with
      | none => simpa only [Option.toList_none, List.nil_append, List.filterMap_cons, hsingular]
      | some singular =>
          simp only [Option.toList_some, List.filterMap_cons, hsingular, List.singleton_append]
          exact (ih.cons singular).trans List.perm_middle.symm

/-- Where names are distinct, a search by name finds the field that has it. -/
theorem find?_name_iff (fields : List FieldSpec) (hnodup : (fields.map FieldSpec.name).Nodup)
    (name : String) (spec : FieldSpec) :
    fields.find? (fun other => other.name == name) = some spec ↔
      spec ∈ fields ∧ spec.name = name := by
  constructor
  · intro h
    have hname := List.find?_some h
    exact ⟨List.mem_of_find?_eq_some h, beq_iff_eq.mp hname⟩
  · rintro ⟨hmem, rfl⟩
    induction fields with
    | nil => exact absurd hmem List.not_mem_nil
    | cons head rest ih =>
        rw [List.map_cons, List.nodup_cons] at hnodup
        rcases List.mem_cons.mp hmem with heq | hrest
        · rw [heq]
          exact List.find?_cons_of_pos (beq_self_eq_true head.name)
        -- Names are distinct, so the search passes by the head.
        · have hne : head.name ≠ spec.name := by
            intro heq
            exact hnodup.1 (heq ▸ List.mem_map_of_mem hrest)
          rw [List.find?_cons_of_neg (by rw [beq_iff_eq]; exact hne)]
          exact ih hnodup.2 hrest

/-- Everything that users of a definition are promised follows from its table. -/
theorem Tabulates.inStep (d : Definition) (h : Tabulates d.operations d.fields) : d.InStep := by
  have hperm := (h.perm.map Prod.fst).trans (names_flatMap_perm d.fields)
  have hfields : (d.fields.map FieldSpec.name).Nodup :=
    (List.nodup_append.mp (hperm.nodup_iff.mp h.nodup)).1
  refine ⟨hfields, h.nodup, hperm, ?_, ?_⟩
  · intro name operation
    rw [NameMap.get?_eq_some_iff d.operations name operation h.nodup, h.perm.mem_iff,
      List.mem_flatMap]
  · intro name spec
    exact find?_name_iff d.fields hfields name spec

/-- What a line of a script does to the generator, if it declares a field. -/
def Declaration.act? : Declaration → Option (Declaring Unit)
  | .scalar category name validation callback =>
      some (Generator.declareScalar category name validation callback)
  | .array name item schema callback => some (Generator.declareArray name item schema callback)
  | .hash name key value schema callback =>
      some (Generator.declareHash name key value schema callback)
  | .report _ => none
  | .fail _ => none
  | .attempt _ => none
  | .choose _ _ _ => none

mutual

/-- The lines that a line of a script can come to: itself, or the lines of an attempt, or those
    between which it chooses. -/
def Declaration.plainLines : Declaration → List Declaration
  | .attempt lines => plainLinesOf lines
  | .choose _ consequent alternative => plainLinesOf consequent ++ plainLinesOf alternative
  | line => [line]
termination_by structural line => line

/-- The lines of a script, those of its attempts and choices included. -/
def plainLinesOf : List Declaration → List Declaration
  | [] => []
  | line :: rest => line.plainLines ++ plainLinesOf rest
termination_by structural lines => lines

end

/-- The line holds no scripts that are run with it. -/
def Declaration.isPlain : Declaration → Bool
  | .attempt _ => false
  | .choose _ _ _ => false
  | _ => true

theorem Declaration.plainLines_of_isPlain (line : Declaration) (h : line.isPlain = true) :
    line.plainLines = [line] := by
  cases line with
  | attempt lines => exact nomatch h
  | choose question consequent alternative => exact nomatch h
  | _ => rfl

/-- Scripts are made of plain lines and of lines that hold scripts. -/
theorem Script.inductOn {P : Script → Prop} (nil : P [])
    (plain : ∀ line rest, line.isPlain = true → P rest → P (line :: rest))
    (attempt : ∀ lines rest, P lines → P rest → P (.attempt lines :: rest))
    (choose : ∀ question consequent alternative rest, P consequent → P alternative → P rest →
      P (.choose question consequent alternative :: rest))
    (script : Script) : P script :=
  match script with
  | [] => nil
  | .scalar _ _ _ _ :: rest => plain _ rest rfl (inductOn nil plain attempt choose rest)
  | .array _ _ _ _ :: rest => plain _ rest rfl (inductOn nil plain attempt choose rest)
  | .hash _ _ _ _ _ :: rest => plain _ rest rfl (inductOn nil plain attempt choose rest)
  | .report _ :: rest => plain _ rest rfl (inductOn nil plain attempt choose rest)
  | .fail _ :: rest => plain _ rest rfl (inductOn nil plain attempt choose rest)
  | .attempt lines :: rest =>
      attempt lines rest (inductOn nil plain attempt choose lines)
        (inductOn nil plain attempt choose rest)
  | .choose question consequent alternative :: rest =>
      choose question consequent alternative rest (inductOn nil plain attempt choose consequent)
        (inductOn nil plain attempt choose alternative) (inductOn nil plain attempt choose rest)
termination_by script

namespace Draft

theorem declare_generator (act : Declaring Unit) (d : Draft) :
    (finalState (declare act d)).generator = finalState (act d.generator) := by
  unfold declare
  cases act d.generator <;> rfl

/-- A line that declares a field works on the generator alone. -/
theorem runLine_of_act? (line : Declaration) (act : Declaring Unit) (hact : line.act? = some act)
    (d : Draft) : runLine line d = declare act d := by
  cases line with
  | scalar => exact congrArg (declare · d) (Option.some.inj hact)
  | array => exact congrArg (declare · d) (Option.some.inj hact)
  | hash => exact congrArg (declare · d) (Option.some.inj hact)
  | report => exact nomatch hact
  | fail => exact nomatch hact
  | attempt => exact nomatch hact
  | choose => exact nomatch hact

section

variable (P : Generator → Prop)

mutual

/-- A line keeps what its declarations keep, whether it ends in a fault or not. -/
theorem runLine_keeps (line : Declaration) (d : Draft)
    (hkeep : ∀ plain ∈ line.plainLines, ∀ act, plain.act? = some act →
      ∀ g, P g → P (finalState (act g)))
    (h : P d.generator) : P (finalState (runLine line d)).generator := by
  match line with
  | .scalar category name validation callback =>
      rw [runLine, declare_generator]
      exact hkeep _ List.mem_cons_self _ rfl _ h
  | .array name item schema callback =>
      rw [runLine, declare_generator]
      exact hkeep _ List.mem_cons_self _ rfl _ h
  | .hash name key value schema callback =>
      rw [runLine, declare_generator]
      exact hkeep _ List.mem_cons_self _ rfl _ h
  | .report tag => exact h
  | .fail reason => exact h
  | .attempt lines =>
      -- A fault in the attempt leaves the generator where it was, and is only noted.
      have hlines := runScript_keeps lines d hkeep h
      rw [runLine]
      cases hrun : runScript lines d <;> (rw [hrun] at hlines; exact hlines)
  | .choose question consequent alternative =>
      rw [runLine]
      split
      · exact runScript_keeps consequent d
          (fun plain hmem => hkeep plain (List.mem_append_left _ hmem)) h
      · exact runScript_keeps alternative d
          (fun plain hmem => hkeep plain (List.mem_append_right _ hmem)) h

/-- A script keeps what its declarations keep, whether it ends in a fault or not. -/
theorem runScript_keeps (lines : List Declaration) (d : Draft)
    (hkeep : ∀ plain ∈ plainLinesOf lines, ∀ act, plain.act? = some act →
      ∀ g, P g → P (finalState (act g)))
    (h : P d.generator) : P (finalState (runScript lines d)).generator := by
  match lines with
  | [] => exact h
  | line :: rest =>
      rw [plainLinesOf] at hkeep
      -- The first line keeps the property however it ends; only if it succeeds do the others run.
      have hline := runLine_keeps line d
        (fun plain hmem => hkeep plain (List.mem_append_left _ hmem)) h
      rw [runScript]
      cases hrun : runLine line d with
      | ok _ next =>
          rw [hrun] at hline
          exact runScript_keeps rest next
            (fun plain hmem => hkeep plain (List.mem_append_right _ hmem)) hline
      | error fault next =>
          rw [hrun] at hline
          exact hline

end

end

end Draft

namespace Generator

/-- The fields and the table of a generator are in step. -/
def InStep (g : Generator) : Prop :=
  Tabulates g.operations g.fields

/-- A line of a script declares the field on the generator, and this is the next cell after it. -/
inductive Declares (g : Generator) : Declaration → FieldSpec → Nat → Prop
  | scalar (category : Category) (name accepted : String) (validation : Option Predicate)
      (callback : Option Expr) (haccepted : g.checkName name = .ok accepted) :
      Declares g (.scalar category name validation callback)
        ⟨accepted, .scalar (.category category), validation, callback⟩ g.nextCell
  | array (name plural singular : String) (item : Option Constraint) (schema : Option Script)
      (callback : Option Expr) (hplural : g.checkName name = .ok plural)
      (hsingular : g.singularName plural = .ok singular)
      (hconflict : (item.isSome && schema.isSome) = false) :
      Declares g (.array name item schema callback)
        (g.pluralSpec schema callback
          (fun options singular nested => .array singular item nested options.itemCallback)
          plural singular)
        (g.cellAfter schema)
  | hash (name plural singular : String) (key value : Option Constraint) (schema : Option Script)
      (callback : Option Expr) (hplural : g.checkName name = .ok plural)
      (hsingular : g.singularName plural = .ok singular)
      (hconflict : (value.isSome && schema.isSome) = false) :
      Declares g (.hash name key value schema callback)
        (g.pluralSpec schema callback (fun _ singular nested => .hash singular key value nested)
          plural singular)
        (g.cellAfter schema)

/-- A declaration is refused and leaves the generator as it was, or succeeds and adds the field
    that its line declares. -/
theorem declaration_result (line : Declaration) (act : Declaring Unit) (g : Generator)
    (hact : line.act? = some act) :
    (∃ fault, act g = .error fault g) ∨
      ∃ spec nextCell, g.Declares line spec nextCell ∧ act g = .ok () (g.extend spec nextCell) := by
  cases line with
  | scalar category name validation callback =>
      obtain rfl := Option.some.inj hact
      rw [declareScalar_eq]
      cases hname : g.checkName name with
      | error fault => exact Or.inl ⟨fault, rfl⟩
      | ok accepted =>
          exact Or.inr ⟨_, _, .scalar category name accepted validation callback hname, rfl⟩
  | array name item schema callback =>
      obtain rfl := Option.some.inj hact
      rw [declareArray_eq]
      rcases withPlural_cases g name _ .conflictingItemType schema _ with
        ⟨fault, hresult⟩ | ⟨plural, singular, hplural, hsingular, hconflict, hresult⟩
      · exact Or.inl ⟨fault, hresult⟩
      · rw [hresult]
        exact Or.inr ⟨_, _, .array name plural singular item schema callback hplural hsingular
          hconflict, rfl⟩
  | hash name key value schema callback =>
      obtain rfl := Option.some.inj hact
      rw [declareHash_eq]
      rcases withPlural_cases g name _ .conflictingValueType schema _ with
        ⟨fault, hresult⟩ | ⟨plural, singular, hplural, hsingular, hconflict, hresult⟩
      · exact Or.inl ⟨fault, hresult⟩
      · rw [hresult]
        exact Or.inr ⟨_, _, .hash name plural singular key value schema callback hplural hsingular
          hconflict, rfl⟩
  -- The remaining lines are not declarations.
  | report tag => exact absurd hact.symm (Option.some_ne_none act)
  | fail reason => exact absurd hact.symm (Option.some_ne_none act)
  | attempt lines => exact absurd hact.symm (Option.some_ne_none act)
  | choose question consequent alternative => exact absurd hact.symm (Option.some_ne_none act)

/-- However it ends, a declaration leaves the generator as it was, or adds the field of its line. -/
theorem declaration_cases (line : Declaration) (act : Declaring Unit) (g : Generator)
    (hact : line.act? = some act) :
    finalState (act g) = g ∨
      ∃ spec nextCell, g.Declares line spec nextCell ∧
        finalState (act g) = g.extend spec nextCell := by
  rcases declaration_result line act g hact with ⟨fault, hresult⟩ | ⟨spec, nextCell, h, hresult⟩
  · rw [hresult]
    exact Or.inl rfl
  · rw [hresult]
    exact Or.inr ⟨spec, nextCell, h, rfl⟩

/-- An accepted plural name and its singular form are distinct, and both are free. -/
theorem plural_singular_free (g : Generator) (name plural singular : String)
    (hplural : g.checkName name = .ok plural) (hsingular : g.singularName plural = .ok singular) :
    [plural, singular].Nodup ∧
      ∀ free ∈ [plural, singular], NameMap.contains g.operations free = false := by
  obtain ⟨-, -, hfree⟩ := (checkName_eq_ok_iff g name plural).mp hplural
  obtain ⟨-, hne, hfree'⟩ := (singularName_eq_ok_iff g plural singular).mp hsingular
  refine ⟨List.nodup_cons.mpr ⟨?_, List.nodup_singleton singular⟩, ?_⟩
  · rw [List.mem_singleton]
    exact fun heq => hne heq.symm
  · exact List.forall_mem_cons.mpr ⟨hfree, List.forall_mem_singleton.mpr hfree'⟩

/-- The names of the operations of a declared field are distinct and were free. -/
theorem Declares.names_free (g : Generator) (line : Declaration) (spec : FieldSpec)
    (nextCell : Nat) (h : g.Declares line spec nextCell) :
    (NameMap.names spec.operations).Nodup ∧
      ∀ name ∈ NameMap.names spec.operations, NameMap.contains g.operations name = false := by
  rw [FieldSpec.names_operations]
  cases h with
  | scalar category name accepted validation callback haccepted =>
      have hfree := ((checkName_eq_ok_iff g name accepted).mp haccepted).2.2
      exact ⟨List.nodup_singleton accepted, List.forall_mem_singleton.mpr hfree⟩
  | array name plural singular item schema callback hplural hsingular _ =>
      exact plural_singular_free g name plural singular hplural hsingular
  | hash name plural singular key value schema callback hplural hsingular _ =>
      exact plural_singular_free g name plural singular hplural hsingular

/-- A declaration keeps the records in step, whether it is accepted or refused. -/
theorem declaration_inStep (line : Declaration) (act : Declaring Unit) (g : Generator)
    (hact : line.act? = some act) (h : g.InStep) : (finalState (act g)).InStep := by
  rcases declaration_cases line act g hact with hsame | ⟨spec, nextCell, hspec, hmore⟩
  · rw [hsame]
    exact h
  · obtain ⟨hnodup, hfree⟩ := hspec.names_free g line spec nextCell
    rw [hmore]
    exact tabulates_extend g spec nextCell h hnodup hfree

/-- A new generator is in step, and so is every generator that a script makes of it. -/
theorem runScript_inStep (inflector : Inflector) (options : Options) (script : Script)
    (w : World) :
    (finalState (Draft.runScript script (w.draft inflector options))).generator.InStep :=
  Draft.runScript_keeps InStep script _
    (fun line _ act hact g hg => declaration_inStep line act g hact hg) tabulates_nil

end Generator

namespace World

/-- The definition that is made of what a script declared, whether it ended in a fault or not. -/
theorem defineUpToFault_eq (inflector : Inflector) (options : Options) (script : Script)
    (w : World) :
    (defineUpToFault inflector options script w).1 =
      (finalState (Draft.runScript script (w.draft inflector options))).generator.finish := by
  unfold defineUpToFault
  cases Draft.runScript script (w.draft inflector options) <;> rfl

/-- A script that succeeds makes the definition of everything that it declared. -/
theorem define_eq_ok (inflector : Inflector) (options : Options) (script : Script)
    (w w' : World) (d : Definition) (h : define inflector options script w = .ok d w') :
    d = (defineUpToFault inflector options script w).1 := by
  unfold define at h
  rw [defineUpToFault_eq]
  cases hrun : Draft.runScript script (w.draft inflector options) with
  | ok _ draft =>
      rw [hrun] at h
      simp only [EStateM.Result.ok.injEq] at h
      exact h.1.symm
  | error fault draft =>
      rw [hrun] at h
      exact absurd h (by simp only [reduceCtorEq, not_false_eq_true])

/-- A script leads to one world, whether a definition is made up to its fault or not at all. -/
theorem define_world (inflector : Inflector) (options : Options) (script : Script) (w : World) :
    finalState (define inflector options script w) =
      (defineUpToFault inflector options script w).2 := by
  unfold define defineUpToFault
  cases Draft.runScript script (w.draft inflector options) <;> rfl

theorem defineUpToFault_tabulates (inflector : Inflector) (options : Options) (script : Script)
    (w : World) :
    Tabulates (defineUpToFault inflector options script w).1.operations
      (defineUpToFault inflector options script w).1.fields := by
  rw [defineUpToFault_eq]
  exact Generator.runScript_inStep inflector options script w

end World

end FieldSchema
