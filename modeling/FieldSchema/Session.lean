import FieldSchema.Call
import FieldSchema.Config
import FieldSchema.Value.Structure

/-!
# Sessions

Named definitions and named hosts, worked on step by step.

A session is what a person at a prompt would have: definitions and hosts with
names, and the world they share. A step that names something that is not there
is turned down and changes nothing. Every other step is answered with what it
yielded or with its fault, together with the events it noted, and a step that
works on a host also with what that host stores afterwards.

A definition that cannot be made leaves its name as it was. A step on a host
keeps the host even when it fails, because a fault does not take back what was
written before it.

## Main definitions

* `Session`: A world in which steps are performed.
* `Step`: What can be asked of a session.
* `Answer`: What a step is answered with.
* `Session.perform`: Performs a step.
-/

namespace FieldSchema

/-- The structure of the input of a call. -/
def Args.structureText (args : Args) : String :=
  recordText "Args"
    [("values", delimited "[" "]" (itemTexts args.values)),
     ("block", truthText args.block.isSome)]

/-- Where the inflector of a schema comes from. -/
inductive InflectorSource where
  | english
  | table (table : InflectionTable)
  | words (plurals : List (String × String))
  | suffix (ending : String)

/-- The inflector from a source. -/
def InflectorSource.inflector : InflectorSource → Except InvalidPattern Inflector
  | .english => .ok .english
  | .table t => t.compile.map .ofRules
  | .words plurals => .ok (.ofWords plurals)
  | .suffix ending => .ok (.ofSuffix ending)

/-- How the generator for a definition is set up. -/
inductive Setup where
  /-- With an inflector and options; the script may be cut short at its first fault. -/
  | chosen (source : InflectorSource) (options : Options) (upToFault : Bool)
  /-- From the text of a configuration file. -/
  | configured (text : String)

/-- What can be asked of a definition. -/
inductive DefinitionStep where
  | describe
  | structureText
  | field (name : String)
  | instantiate (host : String)
  | child (field newName : String)
  | evaluate (field : String) (block : Block) (newName : String)

/-- What can be asked of a host. -/
inductive HostStep where
  | render
  | structureText
  | operations
  | responds (name : String)
  | stored (name : String)
  | state
  | same (other : String)
  | copy (newName : String)
  | extract (name : String) (index : Nat) (key : Option Value) (newName : String)
  | attach (definition : String) (inspectable : Option Bool)
  | define (name : String) (trace : Bool) (body : Expr)
  | call (name : String) (call : Call)
  | inspect
  | run (e : Expr)

/-- What can be asked of a session. -/
inductive Step where
  | define (name : String) (script : Script) (setup : Setup)
  | definition (name : String) (step : DefinitionStep)
  | newHost (name : String)
  | host (name : String) (step : HostStep)

/-- What a step names that is not there. -/
inductive Missing where
  | definition
  | host
  | schema
  | nestedHost
deriving DecidableEq

/-- The wording of a step that is turned down. -/
def Missing.message : Missing → String
  | .definition => "no such def"
  | .host => "no such host"
  | .schema => "no such schema"
  | .nestedHost => "no such nested host"

/-- A field together with the structure of its nested schema, if it has one. -/
structure FieldView where
  spec : FieldSpec
  schema : Option String

/-- What a step yields. -/
inductive Payload where
  | nothing
  | text (text : String)
  | names (names : List String)
  | truth (verdict : Bool)
  | value (value : Value)
  | stored (value : Option Value)
  | state (store : Option (NameMap Value))
  | field (field : Option FieldView)
  | description (fields : List FieldView) (operations : List String) (inspectable : Bool)

/-- How a step ended. -/
inductive Outcome where
  | ok (payload : Payload)
  | fault (fault : Fault)
  | pattern (e : InvalidPattern)
  | config (e : ConfigFault)
  | missing (what : Missing)
  | exhausted

/-- How a step ended, the events it noted in order, and the host's store after it. -/
structure Answer where
  outcome : Outcome
  events : List Event := []
  state : Option (Option (NameMap Value)) := none

/-- The outcome of a halt; one that has no fault to show is shown as cut off. -/
def Halt.outcome : Halt → Outcome
  | .fault f => .fault f
  | .exhausted => .exhausted
  | .kindMismatch => .exhausted

/-- A world in which steps are performed, which refer to its hosts and definitions by name. -/
abbrev Session := World

namespace Session

/-- Nothing named yet. -/
def empty : Session := World.empty

/-- How deep calls may nest in a session. -/
def callDepth : Nat := 1000000

/-- The host with a name. -/
def host? (s : Session) (name : String) : Option Host :=
  NameMap.get? s.hosts name

/-- The definition with a name. -/
def definition? (s : Session) (name : String) : Option Definition :=
  NameMap.get? s.definitions name

/-- The events that were noted, in order, and the session without them. -/
def takeEvents (s : Session) : List Event × Session :=
  (s.log.reverse, { s with log := [] })

/-- A field as it is shown: whether its nested schema has a definition yet belongs to the world. -/
def fieldView (w : World) (spec : FieldSpec) : FieldView :=
  ⟨spec, spec.kind.schema?.map fun schema =>
    schema.structureText (w.cached? schema.cell).isSome⟩

/-- A definition as it is shown. -/
def description (w : World) (d : Definition) : Payload :=
  .description (d.fields.map (fieldView w)) d.operationNames d.inspectable

/-- The structure of a definition. -/
def definitionText (d : Definition) : String :=
  recordText "Definition"
    [("fields", delimited "[" "]" (d.fields.map FieldSpec.structureText)),
     ("attach_options", recordText "AttachOptions" [("inspectable", truthText d.inspectable)])]

/-- An answer without events or a state. -/
def answer (outcome : Outcome) : Answer := { outcome := outcome }

/-- A step that was turned down. -/
def turnDown (s : Session) (what : Missing) : Session × Answer :=
  (s, answer (.missing what))

/-- The session after a step, and the answer with the events that the step noted. -/
def settle (s : Session) (outcome : Outcome) : Session × Answer :=
  let (events, s) := s.takeEvents
  (s, { outcome := outcome, events := events })

/-- Makes a definition with an inflector and options, and puts it under a name. -/
def makeDefinition (s : Session) (name : String) (script : Script) (inflector : Inflector)
    (options : Options) (upToFault : Bool) : Session × Answer :=
  let made :=
    if upToFault then
      let (d, s) := World.defineUpToFault inflector options script s
      .ok d s
    else World.define inflector options script s
  match made with
  | .ok d s => settle (s.setDefinition name d) (.ok (description s d))
  | .error fault s => settle s (.fault fault)

/-- Makes a definition and puts it under a name. -/
def define (s : Session) (name : String) (script : Script) : Setup → Session × Answer
  | .chosen source options upToFault =>
      match source.inflector with
      | .ok inflector => s.makeDefinition name script inflector options upToFault
      | .error e => (s, answer (.pattern e))
  | .configured text =>
      match Config.parse? text with
      | none => (s, answer (.config .malformed))
      | some config =>
          match config.inflector with
          | .ok inflector => s.makeDefinition name script inflector config.options false
          | .error e => (s, answer (.config (.pattern e)))

/-- The nested schema of a field. -/
def schema? (d : Definition) (field : String) : Option SubSchema :=
  (d.field? field).bind fun spec => spec.kind.schema?

/-- Runs on a host that belongs to no name. -/
def runAside {α : Type} (s : Session) (act : Run α) : EStateM.Result Halt World α :=
  match act ⟨.empty, s⟩ with
  | .ok a scene => .ok a scene.world
  | .error halt scene => .error halt scene.world

/-- Performs a step on a definition. -/
def onDefinition (s : Session) (d : Definition) : DefinitionStep → Session × Answer
  | .describe => (s, answer (.ok (description s d)))
  | .structureText => (s, answer (.ok (.text (definitionText d))))
  | .field name => (s, answer (.ok (.field ((d.field? name).map (fieldView s)))))
  | .instantiate host =>
      let h := d.instantiate
      (s.setHost host h, answer (.ok (.names h.operationNames)))
  | .child field newName =>
      match schema? d field with
      | none => s.turnDown .schema
      | some schema =>
          match schema.definition s with
          | .ok child s =>
              settle (s.setDefinition newName child) (.ok (description s child))
          | .error fault s => settle s (.fault fault)
  | .evaluate field block newName =>
      match schema? d field with
      | none => s.turnDown .schema
      | some schema =>
          match s.runAside (schema.evaluate (callWithin callDepth) block) with
          | .ok h s => settle (s.setHost newName h) (.ok (.state h.store))
          | .error halt s => settle s halt.outcome

/-- The nested host in a stored value: an item of a list, the value under a key, or the value. -/
def nestedIn? (v : Value) (index : Nat) (key : Option Value) : Option Host :=
  let candidate :=
    match v, key with
    | .list items, _ => items[index]?
    | .map mapping, some key => mapping.get? key
    | v, _ => some v
  candidate.bind Value.asHost?

/-- Runs on a named host, which is kept as the run leaves it. -/
def runOn (s : Session) (name : String) (h : Host) (act : Run Payload) : Session × Answer :=
  let (scene, outcome) :=
    match act ⟨h, s⟩ with
    | .ok payload scene => (scene, Outcome.ok payload)
    | .error halt scene => (scene, halt.outcome)
  let (s, answer) := settle (scene.world.setHost name scene.host) outcome
  (s, { answer with state := some scene.host.store })

/-- Performs a step on a host. -/
def onHost (s : Session) (name : String) (h : Host) : HostStep → Session × Answer
  | .render => (s, answer (.ok (.text h.toText)))
  | .structureText => (s, answer (.ok (.text h.structureText)))
  | .operations => (s, answer (.ok (.names h.operationNames)))
  | .responds operation => (s, answer (.ok (.truth (h.respondsTo operation))))
  | .stored field => (s, answer (.ok (.stored (h.stored? field))))
  | .state => (s, answer (.ok (.state h.store)))
  | .same other =>
      match s.host? other with
      | some k => (s, answer (.ok (.truth (h == k))))
      | none => s.turnDown .host
  | .copy newName => (s.setHost newName h, answer (.ok .nothing))
  | .extract field index key newName =>
      match (h.stored? field).bind fun v => nestedIn? v index key with
      | some nested => (s.setHost newName nested, answer (.ok (.state nested.store)))
      | none => s.turnDown .nestedHost
  | .attach definition inspectable =>
      match s.definition? definition with
      | none => s.turnDown .definition
      | some d =>
          s.runOn name h do
            Run.modifyHost (d.attachWith (inspectable.getD d.inspectable))
            return .names (← Run.host).operationNames
  | .define operation trace body =>
      s.runOn name h do
        Run.modifyHost fun h => h.install operation (.custom operation trace body)
        return .nothing
  | .call operation call => s.runOn name h (.value <$> call.run callDepth operation)
  | .inspect => s.runOn name h (.text <$> inspectWithin callDepth)
  | .run e => s.runOn name h (.value <$> evalWithin callDepth [] e)

/-- Performs a step. -/
def perform (s : Session) : Step → Session × Answer
  | .define name script setup => s.define name script setup
  | .definition name step =>
      match s.definition? name with
      | some d => s.onDefinition d step
      | none => s.turnDown .definition
  | .newHost name => (s.setHost name .empty, answer (.ok .nothing))
  | .host name step =>
      match s.host? name with
      | some h => s.onHost name h step
      | none => s.turnDown .host

end Session

end FieldSchema
