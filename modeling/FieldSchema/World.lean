import FieldSchema.Constraint
import FieldSchema.Generator

/-!
# The World Around Hosts

What running code can see and change besides its own host.

Three things outlive a call. The log records what code noted. The cache holds
the definitions that nested schemas made, one for each cell, and is what makes
a nested schema with the cached policy run its script only until the script
first succeeds. The named definitions are there to be attached by name.

The named hosts are what literals of the code refer to. Code works on copies
of them: it sees each as it was when the run began, even the one it is running
on, and a run changes none of them.

Scripts are lists of declarations. They run up to the first fault, except that
an attempt within a script ends at its own fault and notes it. What a script
can see of its generator it can report, and it can choose by it which of two
lists of lines to go on with. Making a
definition runs a script, and the script may note things and take new cells
even if it fails in the end; so a failure, too, comes with the world as the
script left it. A cell is filled only after a success.

## Main definitions

* `Event`: An entry of the log.
* `World`: The log, the cache, and the named hosts and definitions.
* `Draft.runScript`: Runs a script on a generator.
* `World.define`: The definition that a script makes.
* `SubSchema.definition`: The definition of a nested schema.
-/

namespace FieldSchema

/-- The values and the block that an operation is called with. -/
structure Args where
  values : List Value
  block : Option Block

namespace Args

/-- Values without a block. -/
def ofValues (values : List Value) : Args := ⟨values, none⟩

/-- Neither values nor a block. -/
def none : Args := ofValues []

/-- There are neither values nor a block. -/
def isEmpty (args : Args) : Bool :=
  args.values.isEmpty && args.block.isNone

end Args

/-- An entry of the log. -/
inductive Event where
  /-- Code noted the values it was given. -/
  | noted (tag : String) (values : List Value)
  /-- A traced operation was called. -/
  | called (operation : String) (args : Args)
  /-- A script noted what it saw of its generator. -/
  | reported (tag : String) (view : GeneratorView)
  /-- A script went on after a fault. -/
  | caught (fault : Fault)

/-- What running code can see and change besides its own host; the latest event comes first. -/
structure World where
  hosts : NameMap Host
  definitions : NameMap Definition
  cache : List (Nat × Definition)
  nextCell : Nat
  log : List Event

namespace World

/-- Nothing named, cached or noted. -/
def empty : World := ⟨[], [], [], 0, []⟩

/-- One more event. -/
def note (w : World) (event : Event) : World :=
  { w with log := event :: w.log }

/-- The notes of predicates as events. -/
def noteAll (w : World) (notes : List Note) : World :=
  notes.foldl (fun w n => w.note (.noted n.1 [n.2])) w

/-- The definition in a cell. -/
def cached? (w : World) (cell : Nat) : Option Definition :=
  w.cache.lookup cell

/-- A definition put under a name. -/
def setDefinition (w : World) (name : String) (d : Definition) : World :=
  { w with definitions := NameMap.insert name d w.definitions }

/-- A host put under a name. -/
def setHost (w : World) (name : String) (h : Host) : World :=
  { w with hosts := NameMap.insert name h w.hosts }

/-- A definition put into a cell. -/
def fill (w : World) (cell : Nat) (d : Definition) : World :=
  { w with cache := (cell, d) :: w.cache }

end World

/-- A generator at work, and the log that its script adds to. -/
structure Draft where
  generator : Generator
  log : List Event

namespace Draft

/-- One more event. -/
def note (d : Draft) (event : Event) : Draft :=
  { d with log := event :: d.log }

/-- Works on the generator of a draft. -/
def declare (act : Declaring Unit) : EStateM Fault Draft Unit := fun d =>
  match act d.generator with
  | .ok _ g => .ok () { d with generator := g }
  | .error fault g => .error (.definition fault) { d with generator := g }

mutual

/-- Runs one line of a script. -/
def runLine : Declaration → EStateM Fault Draft Unit
  | .scalar category name validation callback, d =>
      declare (Generator.declareScalar category name validation callback) d
  | .array name item schema callback, d =>
      declare (Generator.declareArray name item schema callback) d
  | .hash name key value schema callback, d =>
      declare (Generator.declareHash name key value schema callback) d
  | .report tag, d => .ok () (d.note (.reported tag d.generator.view))
  | .fail reason, d => .error (.callback reason) d
  | .attempt lines, d =>
      match runScript lines d with
      | .ok _ d => .ok () d
      | .error fault d => .ok () (d.note (.caught fault))
  | .choose question consequent alternative, d =>
      if question d.generator.view then runScript consequent d else runScript alternative d
termination_by structural line => line

/-- Runs the lines of a script up to the first fault. -/
def runScript : List Declaration → EStateM Fault Draft Unit
  | [], d => .ok () d
  | line :: rest, d =>
      match runLine line d with
      | .ok _ d => runScript rest d
      | .error fault d => .error fault d
termination_by structural lines => lines

end

end Draft

namespace World

/-- The draft on which a script starts. -/
def draft (w : World) (inflector : Inflector) (options : Options) : Draft :=
  ⟨.new inflector options w.nextCell, w.log⟩

/-- The world after a script has worked on a draft. -/
def afterDraft (w : World) (d : Draft) : World :=
  { w with nextCell := d.generator.nextCell, log := d.log }

/-- The definition that a script makes. -/
def define (inflector : Inflector) (options : Options) (script : Script) :
    EStateM Fault World Definition := fun w =>
  match Draft.runScript script (w.draft inflector options) with
  | .ok _ d => .ok d.generator.finish (w.afterDraft d)
  | .error fault d => .error fault (w.afterDraft d)

/-- The definition of what a script declares before its first fault, if it has one. -/
def defineUpToFault (inflector : Inflector) (options : Options) (script : Script) (w : World) :
    Definition × World :=
  match Draft.runScript script (w.draft inflector options) with
  | .ok _ d => (d.generator.finish, w.afterDraft d)
  | .error _ d => (d.generator.finish, w.afterDraft d)

end World

namespace SubSchema

/-- The definition is made once and kept. -/
def isCached (s : SubSchema) : Bool :=
  s.options.subSchemas == .cached

/-- The definition of a nested schema: the one that was kept, or else a new one. -/
def definition (s : SubSchema) : EStateM Fault World Definition := fun w =>
  match if s.isCached then w.cached? s.cell else none with
  | some d => .ok d w
  | none =>
      match World.define s.inflector s.options s.script w with
      | .ok d w => .ok d (if s.isCached then w.fill s.cell d else w)
      | .error fault w => .error fault w

end SubSchema

end FieldSchema
