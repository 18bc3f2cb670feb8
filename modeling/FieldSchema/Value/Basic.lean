import FieldSchema.NameMap
import FieldSchema.Value.Plain

/-!
# Values, Hosts and the Code They Hold

The one family of types that everything else is about.

A value may be a host, a host holds operations, and an operation holds the
specification of a field, whose validation and callback are code. That code
again mentions values. So all of these are one mutual family. Code is kept as
syntax rather than as a function, because hosts are values: they are stored,
copied and compared, and a schema nested in another is declared anew whenever
it is needed, from the script that is kept for it.

There are four small languages. A predicate judges a value. An expression
runs on a host and yields a value. A block is a list of expressions that are
run on a nested host; it takes along values of the code that it stands in. A
declaration adds a field to a schema, and a list of declarations is a script. A
script may ask the generator that it works on anything that a generator shows
of itself, and go one way or another with the answer; the question is a
function of what is shown. In the same way a predicate may test what it sees of
a value, and an expression may compute a value from what it sees of others, by
any function.

Code does not hold the values it mentions but writes them as literals. A
literal names hosts rather than holding them, so that code, which is kept for
long, always means the hosts of the time at which it runs.

A nested schema names the cell in which its definition is cached. All copies
of the nested schema name the same cell, which is how they share what one of
them has made.

## Main definitions

* `Value`: What a field can hold.
* `Mapping`: A map from values to values, in the order of insertion.
* `Host`: Operations by name, and the values stored so far.
* `Operation`: What a host does when one of its operations is called.
* `FieldSpec`: The description of a declared field.
* `SubSchema`: A schema nested in a field.
* `Constraint`, `Predicate`: What values are checked against.
* `Expr`, `Block`: Code that runs on a host, and on a nested one.
* `Declaration`: One line of a script.
-/

namespace FieldSchema

/-- The categories of values that fields can be limited to. -/
inductive Category where
  | any
  | string
  | atom
  | numeric
  | boolean
  | callable
  | nested
  | sequence
  | mapping
deriving DecidableEq

mutual

/-- What a field can hold. -/
inductive Value where
  | nil
  | string (text : String)
  | atom (name : String)
  | number (n : Number)
  | boolean (b : Bool)
  | callable (name : String)
  | list (items : List Value)
  | map (mapping : Mapping)
  | nested (host : Host)

/-- A map from values to values, in the order of insertion. -/
structure Mapping where
  entries : List (Value × Value)

/-- Operations by name, and the values stored so far; nothing at all before the first write. -/
structure Host where
  operations : List (String × Operation)
  store : Option (List (String × Value))

/-- What a host does when one of its operations is called. -/
inductive Operation where
  /-- Reads or assigns a scalar. -/
  | scalar (spec : FieldSpec)
  /-- Reads an array or replaces all of it. -/
  | arrayPlural (spec : FieldSpec)
  /-- Reads an array or adds one item to it. -/
  | arrayItem (spec : FieldSpec)
  /-- Reads a hash. -/
  | hashPlural (spec : FieldSpec)
  /-- Adds one entry to a hash. -/
  | hashEntry (spec : FieldSpec)
  /-- Renders the host. -/
  | inspect
  /-- Runs code; a traced operation first notes how it was called. -/
  | custom (name : String) (trace : Bool) (body : Expr)

/-- The description of a declared field. -/
structure FieldSpec where
  name : String
  kind : FieldKind
  validation : Option Predicate
  callback : Option Expr

/-- The shape of a field. -/
inductive FieldKind where
  | scalar (constraint : Constraint)
  | array (singular : String) (item : Option Constraint) (schema : Option SubSchema)
      (itemCallback : ItemCallback)
  | hash (singular : String) (key value : Option Constraint) (schema : Option SubSchema)

/-- A schema nested in a field, with the options and the inflector of the schema around it. -/
structure SubSchema where
  field : String
  script : List Declaration
  inflector : Inflector
  options : Options
  cell : Nat

/-- What a value is checked against. -/
inductive Constraint where
  | category (category : Category)
  | custom (predicate : Predicate)

/-- A judgement of a value. -/
inductive Predicate where
  | const (verdict : Bool)
  | test (verdict : Outline → Bool)
  | intRange (least most : Int)
  | maxBytes (most : Nat)
  | lessThan (bound : Binary64)
  | is (category : Category)
  | equals (value : Literal)
  | truthy
  | not (p : Predicate)
  | all (ps : List Predicate)
  | any (ps : List Predicate)
  | minLength (least : Nat)
  | hasKey (key : Literal)
  | child (field : String) (p : Predicate)
  | log (tag : String) (p : Predicate)

/-- Code that runs on a host with arguments and yields a value. -/
inductive Expr where
  | literal (value : Literal)
  | argument (index : Nat)
  | arguments
  | fail (reason : String)
  | log (tag : String)
  | call (operation : String) (arguments : List Expr) (splat : Bool) (captures : List Expr)
      (block : Option (List Expr))
  | sequence (steps : List Expr)
  | attempt (body : Expr)
  | choose (condition consequent alternative : Expr)
  | stored (name : String)
  | typeName (of : Expr)
  | shown (of : Expr)
  | render
  | self
  | responds (name : String)
  | define (name : String) (trace : Bool) (body : Expr)
  | attach (definition : String)
  | hasBlock
  | runBlock
  | compute (function : List Outline → Recipe) (inputs : List Expr)

/-- One line of a script. -/
inductive Declaration where
  | scalar (category : Category) (name : String) (validation : Option Predicate)
      (callback : Option Expr)
  | array (name : String) (item : Option Constraint) (schema : Option (List Declaration))
      (callback : Option Expr)
  | hash (name : String) (key value : Option Constraint) (schema : Option (List Declaration))
      (callback : Option Expr)
  | report (tag : String)
  | fail (reason : String)
  | attempt (lines : List Declaration)
  | choose (question : GeneratorView → Bool) (consequent alternative : List Declaration)

end

instance : Inhabited Value := ⟨.nil⟩

/-- Code that is run on a nested host, step by step, with the values that it has captured. -/
structure Block where
  steps : List Expr
  captured : List Value

/-- Declarations that are run in order. -/
abbrev Script := List Declaration

namespace Host

/-- No operations, and nothing stored. -/
def empty : Host := ⟨[], none⟩

instance : Inhabited Host := ⟨empty⟩

end Host

end FieldSchema
