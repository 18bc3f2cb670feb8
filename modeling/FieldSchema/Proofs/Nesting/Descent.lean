import FieldSchema.Proofs.Nesting.Confining
import FieldSchema.Proofs.Schema.Content
import FieldSchema.Proofs.Sharing.Ledger

/-!
# Descent of Nested Schemas

What a nested schema has from the generator at the root of it.

A script declares fields, and some of its lines have scripts of their own. Each
such script goes into a nested schema, together with the inflector and the
options that the generator has at that moment. A generator does not change
these while a script works on it, so they are those that it was set up with.
When the definition of the nested schema is made, a new generator is set up
from them, and so on, one level after the other.

There is thus one line of descent to each nested schema. It begins where a
definition was asked for by name, with an inflector and options of choice, and
at every further step both are handed over by what is already nested. The
induction is on the length of this line. It has to be said of any two
neighbours on it that nothing is lost between them: neither the inflector nor
an option, whether the level is made now or was kept.

## Main definitions

* `scriptsIn`: The scripts of all schemas that are nested in a script, at any depth.
* `Root`: What a generator is set up with, and its script.
* `Root.Descendant`: The nested schema is declared by the root's script or by that of a descendant.
* `SubSchema.Follows`: It has the inflector, the options and one of the scripts.

## Theorems

* `fields_follow`: What a script declares follows the generator on which it runs.
* `descendant_follows`: A descendant follows its root, however deep it is nested.
* `descendants_family`: The descendants of some roots are a family.
-/

namespace FieldSchema

mutual

/-- The scripts of all schemas that are nested in a line of a script. -/
def Declaration.scripts : Declaration → List Script
  | .array _ _ schema _ => scriptsOfSchema schema
  | .hash _ _ _ schema _ => scriptsOfSchema schema
  | .attempt lines => scriptsIn lines
  | .choose _ consequent alternative => scriptsIn consequent ++ scriptsIn alternative
  | _ => []
termination_by structural line => line

/-- The scripts of all schemas that are nested in a script, at any depth. -/
def scriptsIn : List Declaration → List Script
  | [] => []
  | line :: rest => line.scripts ++ scriptsIn rest
termination_by structural lines => lines

/-- A nested script, if there is one, and all that are nested in it. -/
def scriptsOfSchema : Option (List Declaration) → List Script
  | none => []
  | some lines => lines :: scriptsIn lines
termination_by structural schema => schema

end

/-- What a generator is set up with, and the script that runs on it. -/
structure Root where
  inflector : Inflector
  options : Options
  script : Script

/-- The nested schema has the inflector and the options, and its script is one of those that are
    nested in the given one, together with all that are nested in it. -/
structure SubSchema.Follows (inflector : Inflector) (options : Options) (script : Script)
    (sub : SubSchema) : Prop where
  inflector_eq : sub.inflector = inflector
  options_eq : sub.options = options
  scripts : ∀ inner ∈ scriptsOfSchema (some sub.script), inner ∈ scriptsIn script

/-- The nested schema of the field follows, and so does the way in which items are handed over. -/
structure FieldSpec.Follows (inflector : Inflector) (options : Options) (script : Script)
    (spec : FieldSpec) : Prop where
  schema : ∀ sub, spec.kind.schema? = some sub → sub.Follows inflector options script
  items : ∀ singular item schema itemCallback,
    spec.kind = .array singular item schema itemCallback → itemCallback = options.itemCallback

namespace Generator

/-- The generator is set up as it was, and all its fields follow. -/
structure Follows (inflector : Inflector) (options : Options) (script : Script)
    (g : Generator) : Prop where
  inflector_eq : g.inflector = inflector
  options_eq : g.options = options
  fields : ∀ spec ∈ g.fields, spec.Follows inflector options script

section

variable (inflector : Inflector) (options : Options) (script : Script) (g : Generator)

/-- A nested schema that is declared now takes over what the generator has. -/
theorem nested_follows (hinflector : g.inflector = inflector) (hoptions : g.options = options)
    (singular : String) (schema : Option Script)
    (hscripts : ∀ inner ∈ scriptsOfSchema schema, inner ∈ scriptsIn script) (sub : SubSchema)
    (hsub : g.nested singular schema = some sub) : sub.Follows inflector options script := by
  cases schema with
  | none => exact nomatch hsub
  | some lines =>
      obtain rfl := Option.some.inj hsub
      exact ⟨hinflector, hoptions, hscripts⟩

/-- A declaration keeps what a generator was set up with, and adds a field that follows, or none. -/
theorem declaration_follows (line : Declaration) (hline : line ∈ plainLinesOf script)
    (act : Declaring Unit) (hact : line.act? = some act) (hg : g.Follows inflector options script) :
    (finalState (act g)).Follows inflector options script := by
  -- A script that is nested in the line is nested in the script.
  have hscripts : ∀ inner ∈ line.scripts, inner ∈ scriptsIn script :=
    mem_of_plainLinesOf Declaration.scripts scriptsIn (fun _ _ => rfl) (fun _ => rfl)
      (fun _ _ _ => List.Subset.refl _) script line hline
  rcases declaration_cases line act g hact with hsame | ⟨spec, nextCell, hspec, hmore⟩
  · rw [hsame]
    exact hg
  · rw [hmore]
    refine ⟨hg.inflector_eq, hg.options_eq, List.forall_mem_append.mpr
      ⟨hg.fields, List.forall_mem_singleton.mpr ?_⟩⟩
    have hnested := nested_follows inflector options script g hg.inflector_eq hg.options_eq
    cases hspec with
    | scalar => exact ⟨fun _ h => (nomatch h), fun _ _ _ _ h => nomatch h⟩
    | array name plural singular item schema =>
        refine ⟨hnested singular schema hscripts, fun _ _ _ itemCallback h => ?_⟩
        obtain ⟨-, -, -, rfl⟩ := FieldKind.array.inj h
        rw [hg.options_eq]
    | hash name plural singular key value schema =>
        exact ⟨hnested singular schema hscripts, fun _ _ _ _ h => nomatch h⟩

end

end Generator

section

variable (inflector : Inflector) (options : Options) (script : Script) (w : World)

/-- Every field of a definition follows what its generator was set up with, whether the script ended
    in a fault or not. -/
theorem fields_follow :
    ∀ spec ∈ (World.defineUpToFault inflector options script w).1.fields,
      spec.Follows inflector options script := by
  rw [World.defineUpToFault_eq]
  refine (Draft.runScript_keeps (Generator.Follows inflector options script) script _ ?_ ?_).fields
  · exact fun line hline act hact g hg =>
      Generator.declaration_follows inflector options script g line hline act hact hg
  · exact ⟨rfl, rfl, fun _ h => absurd h List.not_mem_nil⟩

/-- So does the nested schema of every operation. -/
theorem operations_follow (op : String × Operation)
    (hop : op ∈ (World.defineUpToFault inflector options script w).1.operations) (sub : SubSchema)
    (hsub : op.2.schema? = some sub) : sub.Follows inflector options script := by
  -- Each operation was made for one of the fields.
  have htable := World.defineUpToFault_tabulates inflector options script w
  obtain ⟨spec, hspec, hmem⟩ := List.mem_flatMap.mp (htable.perm.mem_iff.mp hop)
  rw [Generator.schema?_of_mem spec op hmem] at hsub
  exact (fields_follow inflector options script w spec hspec).schema sub hsub

end

/-- The nested schema is declared by the script of the root, or by that of one of its descendants. -/
inductive Root.Descendant (root : Root) : SubSchema → Prop
  | child (sub : SubSchema) (w : World) (op : String × Operation)
      (hop : op ∈ (World.defineUpToFault root.inflector root.options root.script w).1.operations)
      (hsub : op.2.schema? = some sub) : Descendant root sub
  | further (parent sub : SubSchema) (hparent : Descendant root parent) (w : World)
      (op : String × Operation)
      (hop : op ∈
        (World.defineUpToFault parent.inflector parent.options parent.script w).1.operations)
      (hsub : op.2.schema? = some sub) : Descendant root sub

/-- However deep it is nested, a descendant has the inflector and the options of the root, and its
    script is one of those that are nested in the script of the root. -/
theorem descendant_follows (root : Root) (sub : SubSchema) (h : root.Descendant sub) :
    sub.Follows root.inflector root.options root.script := by
  induction h with
  | child sub w op hop hsub => exact operations_follow _ _ _ w op hop sub hsub
  | further parent sub _ w op hop hsub ih =>
      -- It follows its parent, which follows the root.
      have hown := operations_follow _ _ _ w op hop sub hsub
      refine ⟨hown.inflector_eq.trans ih.inflector_eq, hown.options_eq.trans ih.options_eq, ?_⟩
      exact fun inner hinner => ih.scripts inner (List.mem_cons_of_mem _ (hown.scripts inner hinner))

/-- The nested schema descends from one of the roots. -/
def DescendsFrom (roots : List Root) (sub : SubSchema) : Prop :=
  ∃ root ∈ roots, root.Descendant sub

/-- What descends from some roots is a family: their descendants declare descendants. -/
theorem descendants_family (roots : List Root) : Family (DescendsFrom roots) := by
  rintro parent ⟨root, hroot, hparent⟩ w op hop sub hsub
  exact ⟨root, hroot, .further parent sub hparent w op hop hsub⟩

/-- The definition that the script of a root makes leads to descendants alone. -/
theorem definition_descends (roots : List Root) (root : Root) (hroot : root ∈ roots) (w : World) :
    (World.defineUpToFault root.inflector root.options root.script w).1.Confined
      (DescendsFrom roots) :=
  fun op hop sub hsub => ⟨root, hroot, .child sub w op hop hsub⟩

/-- With more roots there are more descendants. -/
theorem descendsFrom_mono (roots more : List Root) (h : roots ⊆ more) (sub : SubSchema)
    (hsub : DescendsFrom roots sub) : DescendsFrom more sub := by
  obtain ⟨root, hroot, hdescends⟩ := hsub
  exact ⟨root, h hroot, hdescends⟩

end FieldSchema
