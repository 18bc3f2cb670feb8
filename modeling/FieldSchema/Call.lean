import FieldSchema.Accessor

/-!
# Calls

Calling the operations of a host.

An operation may run code that calls operations in turn, so calls nest, and
nothing in the code bounds how deep. The depth is therefore bounded from
outside, and a run that would go deeper is cut off. A call that comes to its
end is not affected by a larger bound.

The conveniences below are calls with input of one shape each: reading,
assigning, adding an item or an entry, with a value or with a block.

## Main definitions

* `callWithin`: A call with at most so many calls nested in it.
* `Call`: The conveniences, as data.
* `Call.run`: Performs one of them.
-/

namespace FieldSchema

/-- Calls an operation of the host at hand, with calls nested at most so deep. -/
def callWithin : Nat → Dispatch
  | 0, _, _ => throw .exhausted
  | depth + 1, name, args => do
      match (← Run.host).operation? name with
      | none => Run.fail (.unknownOperation name)
      | some operation => operation.invoke (callWithin depth) args

/-- Runs an expression on the host at hand, with the given arguments. -/
def evalWithin (depth : Nat) (values : List Value) (e : Expr) : Run Value :=
  e.eval ⟨callWithin depth, values, none⟩

/-- A call by name with input of one shape. -/
inductive Call where
  | plain (args : Args)
  | get
  | set (value : Value)
  | item (value : Value)
  | itemWith (block : Block)
  | entry (key value : Value)
  | entryWith (key : Value) (block : Block)

namespace Call

/-- The input of a call. -/
def args : Call → Args
  | .plain args => args
  | .get => .none
  | .set v => .ofValues [v]
  | .item v => .ofValues [v]
  | .itemWith block => ⟨[], some block⟩
  | .entry k v => .ofValues [k, v]
  | .entryWith k block => ⟨[k], some block⟩

/-- Performs a call. -/
def run (depth : Nat) (name : String) (call : Call) : Run Value :=
  callWithin depth name call.args

end Call

/-- The text that the host at hand renders itself as, through its operation for that. -/
def inspectWithin (depth : Nat) : Run String := do
  match ← callWithin depth Definition.inspectName .none with
  | .string text => return text
  | v => return v.toText

end FieldSchema
