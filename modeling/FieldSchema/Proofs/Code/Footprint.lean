import FieldSchema.World

/-!
# The Footprint of Code

What code mentions, wherever in it.

Code is kept in callbacks, custom operations and blocks, and in scripts that
declare further code. Most of what it does is calling operations of the host it
runs on. Three things matter beyond that. It may attach a definition by name,
and so give its host fields that nobody declared for it. The predicates in a
script may mention named hosts, so that their verdict on a value is not the
value's alone. And a script may choose by what it sees of its generator, which
includes the options.

All are read off the code here, as the list of definitions it attaches, that of
the predicates it declares, and that of the questions it asks, at any depth.
Conditions on code are conditions on these lists. Code that only calls
operations attaches nothing; a schema has pure checks if every predicate in it
is pure.

## Main definitions

* `Expr.attached`: The definitions that an expression may attach.
* `Declaration.attached`, `Declaration.predicates`: What a line of a script mentions.
* `Declaration.questions`: What a line of a script asks the generator.
* `Predicate.IsPure`: The verdict depends on the value alone.
* `Args.attached`, `Args.given`: What a call hands over, in its block and as values.
* `FieldSpec.attached`, `FieldSpec.predicates`: What a field mentions.
-/

namespace FieldSchema

mutual

/-- The names of the definitions that an expression may attach to its host. -/
def Expr.attached : Expr → List String
  | .attach definition => [definition]
  | .call _ arguments _ captures block =>
      attachedByAll arguments ++ attachedByAll captures ++ attachedByBlock block
  | .sequence steps => attachedByAll steps
  | .attempt body => body.attached
  | .choose condition consequent alternative =>
      condition.attached ++ consequent.attached ++ alternative.attached
  | .typeName e => e.attached
  | .shown e => e.attached
  | .define _ _ body => body.attached
  | .compute _ inputs => attachedByAll inputs
  | _ => []
termination_by structural e => e

/-- The names of the definitions that some of the expressions may attach. -/
def attachedByAll : List Expr → List String
  | [] => []
  | e :: rest => e.attached ++ attachedByAll rest
termination_by structural es => es

/-- The names of the definitions that a block may attach, if there is one. -/
def attachedByBlock : Option (List Expr) → List String
  | none => []
  | some steps => attachedByAll steps
termination_by structural block => block

end

/-- The names of the definitions that the callback of a field may attach. -/
def attachedByCallback : Option Expr → List String
  | none => []
  | some e => e.attached

/-- The predicate of a constraint that holds one. -/
def Constraint.predicates : Constraint → List Predicate
  | .category _ => []
  | .custom p => [p]

/-- The predicate of a constraint, if there is a constraint and it holds one. -/
def predicatesOfAny (c : Option Constraint) : List Predicate :=
  c.toList.flatMap Constraint.predicates

mutual

/-- The names of the definitions that code in a line of a script may attach. -/
def Declaration.attached : Declaration → List String
  | .scalar _ _ _ callback => attachedByCallback callback
  | .array _ _ schema callback => attachedByCallback callback ++ attachedBySchema schema
  | .hash _ _ _ schema callback => attachedByCallback callback ++ attachedBySchema schema
  | .report _ => []
  | .fail _ => []
  | .attempt lines => attachedByScript lines
  | .choose _ consequent alternative => attachedByScript consequent ++ attachedByScript alternative
termination_by structural line => line

/-- The names of the definitions that code in a script may attach. -/
def attachedByScript : List Declaration → List String
  | [] => []
  | line :: rest => line.attached ++ attachedByScript rest
termination_by structural lines => lines

/-- The names of the definitions that code in a nested script may attach, if there is one. -/
def attachedBySchema : Option (List Declaration) → List String
  | none => []
  | some lines => attachedByScript lines
termination_by structural schema => schema

end

mutual

/-- The predicates in a line of a script. -/
def Declaration.predicates : Declaration → List Predicate
  | .scalar _ _ validation _ => validation.toList
  | .array _ item schema _ => predicatesOfAny item ++ predicatesOfSchema schema
  | .hash _ key value schema _ =>
      predicatesOfAny key ++ predicatesOfAny value ++ predicatesOfSchema schema
  | .report _ => []
  | .fail _ => []
  | .attempt lines => predicatesOfScript lines
  | .choose _ consequent alternative =>
      predicatesOfScript consequent ++ predicatesOfScript alternative
termination_by structural line => line

/-- The predicates in a script. -/
def predicatesOfScript : List Declaration → List Predicate
  | [] => []
  | line :: rest => line.predicates ++ predicatesOfScript rest
termination_by structural lines => lines

/-- The predicates in a nested script, if there is one. -/
def predicatesOfSchema : Option (List Declaration) → List Predicate
  | none => []
  | some lines => predicatesOfScript lines
termination_by structural schema => schema

end

mutual

/-- The questions that a line of a script asks, on its own generator or on a nested one. -/
def Declaration.questions : Declaration → List (GeneratorView → Bool)
  | .array _ _ schema _ => questionsOfSchema schema
  | .hash _ _ _ schema _ => questionsOfSchema schema
  | .attempt lines => questionsOfScript lines
  | .choose question consequent alternative =>
      question :: (questionsOfScript consequent ++ questionsOfScript alternative)
  | _ => []
termination_by structural line => line

/-- The questions that a script asks, or a script that is nested in it. -/
def questionsOfScript : List Declaration → List (GeneratorView → Bool)
  | [] => []
  | line :: rest => line.questions ++ questionsOfScript rest
termination_by structural lines => lines

/-- The questions that a nested script asks, if there is one. -/
def questionsOfSchema : Option (List Declaration) → List (GeneratorView → Bool)
  | none => []
  | some lines => questionsOfScript lines
termination_by structural schema => schema

end

/-- The verdict depends on the value alone, and not on the hosts that literals name. -/
def Predicate.IsPure (p : Predicate) : Prop :=
  ∀ (hosts others : NameMap Host) (v : Value), p.holds hosts v = p.holds others v

namespace Args

/-- The names of the definitions that a block of a call may attach, if there is one. -/
def attached (args : Args) : List String :=
  attachedByBlock (args.block.map Block.steps)

/-- The values that a call hands over, with those that its block has captured. -/
def given (args : Args) : List Value :=
  args.values ++ args.block.elim [] Block.captured

theorem attached_written (values captured : List Value) (steps : Option (List Expr)) :
    attached ⟨values, steps.map (Block.mk · captured)⟩ = attachedByBlock steps := by
  cases steps <;> rfl

/-- What is written in code hands over the values that the code has made for it. -/
theorem given_written (S : Value → Prop) (values captured : List Value)
    (steps : Option (List Expr)) (hvalues : ∀ v ∈ values, S v) (hcaptured : ∀ v ∈ captured, S v) :
    ∀ v ∈ given ⟨values, steps.map (Block.mk · captured)⟩, S v := by
  refine List.forall_mem_append.mpr ⟨hvalues, ?_⟩
  cases steps with
  | none => exact fun _ h => absurd h List.not_mem_nil
  | some _ => exact hcaptured

theorem mem_given_of_captured (args : Args) (block : Block) (hblock : args.block = some block)
    (v : Value) (hv : v ∈ block.captured) : v ∈ args.given := by
  refine List.mem_append_right _ ?_
  rw [hblock]
  exact hv

end Args

namespace FieldKind

/-- The constraints that values of the shape are checked against. -/
def constraints : FieldKind → List Constraint
  | .scalar c => [c]
  | .array _ item _ _ => item.toList
  | .hash _ key value _ => key.toList ++ value.toList

end FieldKind

namespace FieldSpec

/-- The script of the schema nested in the field, if it has one. -/
def script? (spec : FieldSpec) : Option Script :=
  spec.kind.schema?.map (·.script)

/-- The names of the definitions that code of the field may attach. -/
def attached (spec : FieldSpec) : List String :=
  attachedByCallback spec.callback ++ attachedBySchema spec.script?

/-- The predicates that the field's values, and those of nested fields, are checked against. -/
def predicates (spec : FieldSpec) : List Predicate :=
  spec.validation.toList ++ spec.kind.constraints.flatMap Constraint.predicates ++
    predicatesOfSchema spec.script?

end FieldSpec

end FieldSchema
