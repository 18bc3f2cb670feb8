import FieldSchema.Value.Render
import FieldSchema.World

/-!
# Running Code on a Host

How expressions and blocks are evaluated.

Code runs on one host at a time, in the world around it. A fault ends the run
but undoes nothing: whatever was written or noted before it stays. Only an
attempt goes on after a fault, with the fault's wording as its value.

An expression can call operations of its host, and an operation can run
expressions again. That circle is cut here: evaluation is defined for any
given way to call an operation, and recurses on the expression alone. A run
that was cut off is kept apart from one that failed, and no attempt hides it;
the same holds of a run that reached an accessor of the wrong kind.

## Main definitions

* `Scene`: A host and the world around it.
* `Halt`: Why a run ended without a value.
* `Run`: What runs on a host.
* `Expr.eval`: The value of an expression.
* `runSteps`: Runs a block.
-/

namespace FieldSchema

/-- A host and the world around it. -/
structure Scene where
  host : Host
  world : World

/-- Why a run ended without a value. -/
inductive Halt where
  | fault (fault : Fault)
  /-- It was cut off. -/
  | exhausted
  /-- An accessor was called that had been made for a field of another kind. -/
  | kindMismatch

/-- What runs on a host and yields a value, or halts. -/
abbrev Run (α : Type) := EStateM Halt Scene α

/-- A way to call an operation of the host at hand. -/
abbrev Dispatch := String → Args → Run Value

namespace Run

/-- Ends in a fault. -/
def fail {α : Type} (fault : Fault) : Run α :=
  throw (.fault fault)

/-- Ends in a fault unless the condition is met. -/
def require (met : Bool) (fault : Fault) : Run Unit :=
  if met then pure () else fail fault

/-- The host at hand. -/
def host : Run Host :=
  return (← get).host

/-- The named hosts that literals refer to. -/
def namedHosts : Run (NameMap Host) :=
  return (← get).world.hosts

/-- Changes the host at hand. -/
def modifyHost (change : Host → Host) : Run Unit :=
  modify fun scene => { scene with host := change scene.host }

/-- Changes the world around the host. -/
def modifyWorld (change : World → World) : Run Unit :=
  modify fun scene => { scene with world := change scene.world }

/-- One more event. -/
def note (event : Event) : Run Unit :=
  modifyWorld fun w => w.note event

/-- What runs in the world alone, run beside the host at hand. -/
def inWorld {α : Type} (act : EStateM Fault World α) : Run α := fun scene =>
  match act scene.world with
  | .ok a w => .ok a ⟨scene.host, w⟩
  | .error fault w => .error (.fault fault) ⟨scene.host, w⟩

/-- Runs on another host in the same world; yields that host, and the one at hand stays. -/
def onHost (h : Host) (act : Run Unit) : Run Host := fun scene =>
  match act ⟨h, scene.world⟩ with
  | .ok _ inner => .ok inner.host ⟨scene.host, inner.world⟩
  | .error halt inner => .error halt ⟨scene.host, inner.world⟩

/-- Goes on after a fault with the fault's wording. -/
def recover (act : Run Value) : Run Value := fun scene =>
  match act scene with
  | .error (.fault fault) scene => .ok (.string (fault.kind ++ ": " ++ fault.message)) scene
  | result => result

end Run

/-- What an expression runs with: its arguments, the block it may run, and how to call. -/
structure Context where
  dispatch : Dispatch
  values : List Value
  block : Option (Run Unit)

mutual

/-- The value of an expression. -/
def Expr.eval (c : Context) : Expr → Run Value
  | .literal v => return v.value (← Run.namedHosts)
  | .argument i => return c.values.getD i .nil
  | .arguments => return .list c.values
  | .fail reason => Run.fail (.callback reason)
  | .log tag => do
      Run.note (.noted tag c.values)
      return .nil
  | .call operation arguments splat captures block => do
      let values ← evalAll c arguments
      let captured ← evalAll c captures
      let values := if splat then values ++ c.values else values
      c.dispatch operation ⟨values, block.map (Block.mk · captured)⟩
  | .sequence steps => evalLast c .nil steps
  | .attempt body => Run.recover (body.eval c)
  | .choose condition consequent alternative => do
      let v ← condition.eval c
      if v.isTruthy then consequent.eval c else alternative.eval c
  | .stored name => return ((← Run.host).stored? name).getD (.atom "absent")
  | .typeName e => return .string (← e.eval c).typeName
  | .shown e => return .string (← e.eval c).toText
  | .render => return .string (← Run.host).toText
  | .self => return .nested (← Run.host)
  | .responds name => return .boolean ((← Run.host).respondsTo name)
  | .define name trace body => do
      Run.modifyHost fun h => h.install name (.custom name trace body)
      return .nil
  | .attach definition => do
      match NameMap.get? (← get).world.definitions definition with
      | some d => Run.modifyHost d.attachTo
      | none => pure ()
      return .nil
  | .hasBlock => return .boolean c.block.isSome
  | .runBlock => do
      match c.block with
      | some block => block
      | none => pure ()
      return .nil
  | .compute function inputs => do
      let values ← evalAll c inputs
      return (function (values.map Value.outline)).build (← Run.namedHosts) values
termination_by structural e => e

/-- The values of expressions that are evaluated in order. -/
def evalAll (c : Context) : List Expr → Run (List Value)
  | [] => return []
  | e :: rest => do
      let v ← e.eval c
      return v :: (← evalAll c rest)
termination_by structural es => es

/-- The value of the last of the expressions that are evaluated in order. -/
def evalLast (c : Context) (last : Value) : List Expr → Run Value
  | [] => return last
  | e :: rest => do
      let v ← e.eval c
      evalLast c v rest
termination_by structural es => es

end

/-- Runs a block step by step; its arguments are what it has captured, and it has no block. -/
def runSteps (dispatch : Dispatch) (block : Block) : Run Unit := do
  let _ ← evalLast ⟨dispatch, block.captured, none⟩ .nil block.steps

end FieldSchema
