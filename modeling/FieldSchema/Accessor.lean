import FieldSchema.Run

/-!
# Accessors

What the operations made for fields do.

Every accessor does one of three things. Called without input it reads. Input
that it rejects changes nothing. Input that it accepts is written first, and
then the field's callback runs and yields the value of the call; a callback
that fails does not take the write back. All checks come before the write,
and the nested host of a block is complete before any check on it.

## Main definitions

* `SubSchema.evaluate`: A nested host made by a block.
* `Check.require`: Rejects what a check refuses.
* `FieldSpec.readOrAssign`, `readHash`, `addItem`, `addEntry`: The accessors.
* `Operation.invoke`: What an operation does.
-/

namespace FieldSchema

/-- A new host with the operations of a nested schema, after a block has run on it. -/
def SubSchema.evaluate (s : SubSchema) (dispatch : Dispatch) (block : Block) : Run Host := do
  let d ← Run.inWorld s.definition
  Run.onHost d.instantiate (runSteps dispatch block)

/-- A nested host as a value, unless the field has no nested schema. -/
def buildNested (dispatch : Dispatch) (singular : String) (schema : Option SubSchema)
    (block : Block) : Run Value :=
  match schema with
  | none => Run.fail (.validation (.noSubSchema singular))
  | some s => return .nested (← s.evaluate dispatch block)

/-- Asks for a verdict on a value, leaving the notes of the check. -/
def Check.ask (c : Check) (v : Value) : Run Bool := do
  let hosts ← Run.namedHosts
  Run.modifyWorld fun w => w.noteAll (c.notes hosts v)
  return c.holds hosts v

/-- Rejects input that a check refuses. -/
def Check.require (c : Check) (v : Value) (fault : ValidationFault) : Run Unit := do
  Run.require (← c.ask v) (.validation fault)

namespace FieldSpec

/-- The check of the scalar's constraint, and then of the validation. -/
def check (spec : FieldSpec) : Check :=
  let typed :=
    match spec.kind with
    | .scalar c => c.check
    | _ => .pass
  typed.andThen (Predicate.ifAny spec.validation)

/-- Runs the field's callback, if there is one. -/
def runCallback (spec : FieldSpec) (dispatch : Dispatch) (values : List Value) : Run Value :=
  match spec.callback with
  | some callback => callback.eval ⟨dispatch, values, none⟩
  | none => return .nil

/-- Reads the field. -/
def read (spec : FieldSpec) : Run Value :=
  return (← Run.host).stored spec.name

/-- Reads the whole field, or assigns a value to it that passes the check. -/
def readOrAssign (spec : FieldSpec) (accepted : Check) (dispatch : Dispatch) (args : Args) :
    Run Value :=
  if args.block.isSome then Run.fail (.validation (.unexpectedBlock spec.name))
  else
    match args.values with
    | [] => spec.read
    | [v] => do
        accepted.require v (.invalidValue spec.name)
        -- From here on the write stands, even if the callback fails.
        Run.modifyHost fun h => h.write spec.name v
        spec.runCallback dispatch [v]
    | values => Run.fail (.validation (.tooManyArguments spec.name 1 values.length))

/-- Reads a hash; it cannot be assigned as a whole. -/
def readHash (spec : FieldSpec) (args : Args) : Run Value :=
  if args.isEmpty then spec.read
  else Run.fail (.definition (.pluralHashAssignment spec.name (spec.singular?.getD "")))

end FieldSpec

/-- The items of a list, none if the value is not one. -/
def listItems : Value → List Value
  | .list items => items
  | _ => []

/-- The map that the value is, empty if it is not one. -/
def mapEntries : Value → Mapping
  | .map mapping => mapping
  | _ => .empty

/-- An item as the callback of an array is given it. -/
def ItemCallback.wrap : ItemCallback → Value → Value
  | .wrapped, v => .list [v]
  | .bare, v => v

namespace FieldSpec

/-- Appends an item to the list in the field's slot. -/
def appendItem (spec : FieldSpec) (v : Value) (h : Host) : Host :=
  h.write spec.name (.list (listItems (h.stored spec.name) ++ [v]))

/-- Inserts an entry into the map in the field's slot. -/
def insertEntry (spec : FieldSpec) (key v : Value) (h : Host) : Host :=
  h.write spec.name (.map ((mapEntries (h.stored spec.name)).insert key v))

/-- Reads an array, or adds one item to it; a block makes the item even beside a value. -/
def addItem (spec : FieldSpec) (dispatch : Dispatch) (singular : String)
    (item : Option Constraint) (schema : Option SubSchema) (itemCallback : ItemCallback)
    (args : Args) : Run Value :=
  match args.values, args.block with
  | _ :: _ :: _, _ =>
      Run.fail (.validation (.tooManyArguments singular 1 args.values.length))
  | [], none => spec.read
  -- A value beside a block is dropped without a look.
  | _, some block => do
      commit (← buildNested dispatch singular schema block)
  | [v], none => commit v
where
  /-- Checks and appends the item, and runs the callback. -/
  commit (v : Value) : Run Value := do
    (Constraint.ifAny item).require v (.invalidItem singular)
    Run.modifyHost (spec.appendItem v)
    spec.runCallback dispatch [itemCallback.wrap v]

/-- Adds one entry to a hash; beside a block only a value that counts as false may stand. -/
def addEntry (spec : FieldSpec) (dispatch : Dispatch) (singular : String)
    (key value : Option Constraint) (schema : Option SubSchema) (args : Args) : Run Value :=
  match args.values with
  | [] => Run.fail (.validation (.missingKey singular))
  | [k] =>
      match args.block with
      | some block => do
          commit k (← buildNested dispatch singular schema block) none
      | none => commit k .nil value
  | [k, v] =>
      match args.block with
      | some block =>
          if v.isTruthy then Run.fail (.validation (.ambiguousEntry singular))
          -- What a block makes is not held against the value constraint.
          else do
            commit k (← buildNested dispatch singular schema block) none
      | none => commit k v value
  | values => Run.fail (.validation (.tooManyArguments singular 2 values.length))
where
  /-- Checks the key and the value, inserts the entry, and runs the callback. -/
  commit (k v : Value) (valueConstraint : Option Constraint) : Run Value := do
    (Constraint.ifAny key).require k (.invalidKey singular)
    (Constraint.ifAny valueConstraint).require v (.invalidEntryValue singular)
    Run.modifyHost (spec.insertEntry k v)
    spec.runCallback dispatch [k, v]

end FieldSpec

/-- Renders the host at hand; this takes no input. -/
def inspectHost (args : Args) : Run Value :=
  if args.block.isSome then Run.fail (.validation (.unexpectedBlock Definition.inspectName))
  else if !args.values.isEmpty then
    Run.fail (.validation (.tooManyArguments Definition.inspectName 0 args.values.length))
  else return .string (← Run.host).toText

/-- Runs the code of a custom operation; if traced, it first notes how it was called. -/
def invokeCustom (dispatch : Dispatch) (name : String) (trace : Bool) (body : Expr) (args : Args) :
    Run Value := do
  if trace then Run.note (.called name args)
  body.eval ⟨dispatch, args.values, args.block.map (runSteps dispatch)⟩

/-- What an operation does. -/
def Operation.invoke (dispatch : Dispatch) : Operation → Args → Run Value
  | .scalar spec, args => spec.readOrAssign spec.check dispatch args
  | .arrayPlural spec, args =>
      match spec.kind with
      | .array _ item _ _ => spec.readOrAssign (Constraint.onItems item) dispatch args
      | _ => throw .kindMismatch
  | .arrayItem spec, args =>
      match spec.kind with
      | .array singular item schema itemCallback =>
          spec.addItem dispatch singular item schema itemCallback args
      | _ => throw .kindMismatch
  | .hashPlural spec, args => spec.readHash args
  | .hashEntry spec, args =>
      match spec.kind with
      | .hash singular key value schema => spec.addEntry dispatch singular key value schema args
      | _ => throw .kindMismatch
  | .inspect, args => inspectHost args
  | .custom name trace body, args => invokeCustom dispatch name trace body args

end FieldSchema
