import FieldSchema.Call
import FieldSchema.Proofs.Schema.Declaring

/-!
# Checks Before the Write

Every accessor as a decision and what follows from it.

The accessors differ in what input they take, in the checks they make of it
and in whether a block has to run first, and each of these may reject the
call. What they have in common shows only when a call is split in two. In the
first part it is decided what to do, which is to read the field or to make a
certain write; in the second part that is done. The first part is where all
rejections are. It leaves the host alone and knows nothing of the callback.
The second part makes the write and runs the callback, and rejects nothing.

`Operation.plan` is the first part and `FieldSpec.carryOut` the second, and
`invoke_eq` says that together they are the accessor.

## Main definitions

* `Write`: What an accepted call does to the slot of its field.
* `FieldSpec.put`: A host after the write.
* `FieldSpec.Written`: The same, told by what is stored.
* `FieldSpec.carryOut`: A call once it is decided.
* `Operation.plan`: The decision, in which the call may be rejected.

## Theorems

* `put_stored?`: A write changes one slot.
* `readOrAssign_eq`, `readHash_eq`, `addItem_eq`, `addEntry_eq`: The same of each accessor.
* `invoke_eq`: An accessor makes its plan and carries it out.
* `callWithin_of_operation`: A call does what the operation under the name does.
-/

namespace FieldSchema

/-- What an accepted call does to the slot of its field. -/
inductive Write where
  /-- It overwrites the slot. -/
  | assign (v : Value)
  /-- It adds an item at the end of the list in the slot. -/
  | append (v : Value)
  /-- It adds or replaces an entry of the map in the slot. -/
  | enter (key v : Value)

namespace Write

/-- The value that the slot holds after the write; what is not of the right kind counts as empty. -/
def update (old : Value) : Write → Value
  | .assign v => v
  | .append v => .list (listItems old ++ [v])
  | .enter key v => .map ((mapEntries old).insert key v)

end Write

namespace FieldKind

/-- How items are handed to the callback; it matters for arrays alone. -/
def itemCallback : FieldKind → ItemCallback
  | .array _ _ _ itemCallback => itemCallback
  | _ => .bare

end FieldKind

/-- The slots of a host are found under their names, as if it had always had a store. -/
theorem stored?_eq (h : Host) (name : String) :
    h.stored? name = NameMap.get? (h.store.getD []) name := by
  unfold Host.stored?
  cases h.store <;> rfl

namespace FieldSpec

/-- The host after a write to the field. -/
def put (spec : FieldSpec) (write : Write) (h : Host) : Host :=
  h.write spec.name (write.update (h.stored spec.name))

/-- A write leaves the operations of the host alone. -/
theorem put_operations (spec : FieldSpec) (write : Write) (h : Host) :
    (spec.put write h).operations = h.operations := rfl

/-- A write changes the slot of the field and no other. -/
theorem put_stored? (spec : FieldSpec) (write : Write) (h : Host) (name : String) :
    (spec.put write h).stored? name =
      if name = spec.name then some (write.update (h.stored spec.name)) else h.stored? name := by
  rw [stored?_eq h name]
  exact NameMap.get?_insert (h.store.getD []) spec.name name _

/-- The host after is the one before with the write in the slot of the field, and nothing else has
    changed. -/
structure Written (spec : FieldSpec) (write : Write) (before after : Host) : Prop where
  operations : after.operations = before.operations
  slot : after.stored? spec.name = some (write.update (before.stored spec.name))
  others : ∀ name, name ≠ spec.name → after.stored? name = before.stored? name

theorem put_written (spec : FieldSpec) (write : Write) (h : Host) :
    spec.Written write h (spec.put write h) where
  operations := spec.put_operations write h
  slot := by rw [put_stored?, if_pos rfl]
  others name hname := by rw [put_stored?, if_neg hname]

/-- The arguments that the callback is given for a write: what was assigned, the key and the value
    of an entry, or the item of a list, which stands in a list of its own if items are wrapped. -/
def handed (spec : FieldSpec) : Write → List Value
  | .assign v => [v]
  | .append v =>
      match spec.kind.itemCallback with
      | .wrapped => [.list [v]]
      | .bare => [v]
  | .enter key v => [key, v]

theorem handed_append (spec : FieldSpec) (v : Value) :
    spec.handed (.append v) = [spec.kind.itemCallback.wrap v] := by
  unfold handed
  cases spec.kind.itemCallback <;> rfl

/-- What is left of a call when it is decided: a read, or a write and then the callback. -/
def carryOut (spec : FieldSpec) (dispatch : Dispatch) : Option Write → Run Value
  | none => spec.read
  | some write => do
      Run.modifyHost (spec.put write)
      spec.runCallback dispatch (spec.handed write)

/-- Decides about input for the whole field, which is at most one value. -/
def planAssign (spec : FieldSpec) (accepted : Check) (args : Args) : Run (Option Write) :=
  if args.block.isSome then Run.fail (.validation (.unexpectedBlock spec.name))
  else
    match args.values with
    | [] => return none
    | [v] => do
        accepted.require v (.invalidValue spec.name)
        return some (.assign v)
    | values => Run.fail (.validation (.tooManyArguments spec.name 1 values.length))

/-- Decides about input for a whole hash, which is none. -/
def planRead (spec : FieldSpec) (args : Args) : Run (Option Write) :=
  if args.isEmpty then return none
  else Run.fail (.definition (.pluralHashAssignment spec.name (spec.singular?.getD "")))

end FieldSpec

/-- Decides about an item. -/
def planAppend (singular : String) (item : Option Constraint) (v : Value) :
    Run (Option Write) := do
  (Constraint.ifAny item).require v (.invalidItem singular)
  return some (.append v)

/-- Decides about input for one item, which is a value or a block. -/
def planItem (dispatch : Dispatch) (singular : String) (item : Option Constraint)
    (schema : Option SubSchema) (args : Args) : Run (Option Write) :=
  match args.values, args.block with
  | _ :: _ :: _, _ =>
      Run.fail (.validation (.tooManyArguments singular 1 args.values.length))
  | [], none => return none
  | _, some block => do
      planAppend singular item (← buildNested dispatch singular schema block)
  | [v], none => planAppend singular item v

/-- Decides about an entry. -/
def planEnter (singular : String) (key value : Option Constraint) (k v : Value) :
    Run (Option Write) := do
  (Constraint.ifAny key).require k (.invalidKey singular)
  (Constraint.ifAny value).require v (.invalidEntryValue singular)
  return some (.enter k v)

/-- Decides about input for one entry, which is a key, and a value or a block. -/
def planEntry (dispatch : Dispatch) (singular : String) (key value : Option Constraint)
    (schema : Option SubSchema) (args : Args) : Run (Option Write) :=
  match args.values with
  | [] => Run.fail (.validation (.missingKey singular))
  | [k] =>
      match args.block with
      | some block => do
          planEnter singular key none k (← buildNested dispatch singular schema block)
      | none => planEnter singular key value k .nil
  | [k, v] =>
      match args.block with
      | some block =>
          if v.isTruthy then Run.fail (.validation (.ambiguousEntry singular))
          else do
            planEnter singular key none k (← buildNested dispatch singular schema block)
      | none => planEnter singular key value k v
  | values => Run.fail (.validation (.tooManyArguments singular 2 values.length))

namespace Operation

/-- The field that the operation was made for, if it is an accessor. -/
def spec? : Operation → Option FieldSpec
  | .scalar spec => some spec
  | .arrayPlural spec => some spec
  | .arrayItem spec => some spec
  | .hashPlural spec => some spec
  | .hashEntry spec => some spec
  | .inspect => none
  | .custom _ _ _ => none

/-- Decides what a call of an accessor comes to; no plan means to read, and a call that is not of
    an accessor is never planned. -/
def plan (dispatch : Dispatch) : Operation → Args → Run (Option Write)
  | .scalar spec, args => spec.planAssign spec.check args
  | .arrayPlural spec, args =>
      match spec.kind with
      | .array _ item _ _ => spec.planAssign (Constraint.onItems item) args
      | _ => throw .kindMismatch
  | .arrayItem spec, args =>
      match spec.kind with
      | .array singular item schema _ => planItem dispatch singular item schema args
      | _ => throw .kindMismatch
  | .hashPlural spec, args => spec.planRead args
  | .hashEntry spec, args =>
      match spec.kind with
      | .hash singular key value schema => planEntry dispatch singular key value schema args
      | _ => throw .kindMismatch
  | .inspect, _ => return none
  | .custom _ _ _, _ => return none

end Operation

namespace FieldSpec

theorem readOrAssign_eq (spec : FieldSpec) (accepted : Check) (dispatch : Dispatch)
    (args : Args) :
    spec.readOrAssign accepted dispatch args =
      spec.planAssign accepted args >>= spec.carryOut dispatch := by
  obtain ⟨values, block⟩ := args
  unfold readOrAssign planAssign
  by_cases hblock : block.isSome = true
  · rw [if_pos hblock, if_pos hblock]
    rfl
  · rw [if_neg hblock, if_neg hblock]
    match values with
    | [] => rfl
    | [v] =>
        simp only [bind_assoc, pure_bind]
        rfl
    | _ :: _ :: _ => rfl

theorem readHash_eq (spec : FieldSpec) (dispatch : Dispatch) (args : Args) :
    spec.readHash args = spec.planRead args >>= spec.carryOut dispatch := by
  unfold readHash planRead
  split
  · rw [pure_bind]
    rfl
  · rfl

/-- Checking and appending an item is to decide about it and to carry that out. -/
theorem commitItem_eq (spec : FieldSpec) (dispatch : Dispatch) (singular : String)
    (item : Option Constraint) (schema : Option SubSchema) (itemCallback : ItemCallback)
    (hkind : spec.kind = .array singular item schema itemCallback) (v : Value) :
    addItem.commit spec dispatch singular item itemCallback v =
      planAppend singular item v >>= spec.carryOut dispatch := by
  have hhanded : spec.handed (.append v) = [itemCallback.wrap v] := by
    rw [handed_append, hkind, FieldKind.itemCallback]
  unfold addItem.commit planAppend
  rw [bind_assoc]
  simp only [pure_bind, carryOut, hhanded]
  rfl

theorem addItem_eq (spec : FieldSpec) (dispatch : Dispatch) (singular : String)
    (item : Option Constraint) (schema : Option SubSchema) (itemCallback : ItemCallback)
    (hkind : spec.kind = .array singular item schema itemCallback) (args : Args) :
    spec.addItem dispatch singular item schema itemCallback args =
      planItem dispatch singular item schema args >>= spec.carryOut dispatch := by
  have hcommit := commitItem_eq spec dispatch singular item schema itemCallback hkind
  obtain ⟨values, block⟩ := args
  unfold addItem planItem
  match values, block with
  | _ :: _ :: _, _ => rfl
  | [], none =>
      rw [pure_bind]
      rfl
  | [], some block => simp only [bind_assoc, hcommit]
  | [v], some block => simp only [bind_assoc, hcommit]
  | [v], none => exact hcommit v

/-- Checking and inserting an entry is to decide about it and to carry that out. -/
theorem commitEntry_eq (spec : FieldSpec) (dispatch : Dispatch) (singular : String)
    (key value : Option Constraint) (k v : Value) :
    addEntry.commit spec dispatch singular key k v value =
      planEnter singular key value k v >>= spec.carryOut dispatch := by
  unfold addEntry.commit planEnter
  simp only [bind_assoc, pure_bind]
  rfl

theorem addEntry_eq (spec : FieldSpec) (dispatch : Dispatch) (singular : String)
    (key value : Option Constraint) (schema : Option SubSchema) (args : Args) :
    spec.addEntry dispatch singular key value schema args =
      planEntry dispatch singular key value schema args >>= spec.carryOut dispatch := by
  have hcommit := commitEntry_eq spec dispatch singular key
  obtain ⟨values, block⟩ := args
  unfold addEntry planEntry
  match values, block with
  | [], _ => rfl
  | [k], some block => simp only [bind_assoc, hcommit]
  | [k], none => exact hcommit value k .nil
  | [k, v], some block =>
      simp only []
      split
      · rfl
      · simp only [bind_assoc, hcommit]
  | [k, v], none => exact hcommit value k v
  | _ :: _ :: _ :: _, _ => rfl

end FieldSpec

/-- An accessor makes its plan and carries it out. -/
theorem invoke_eq (op : Operation) (spec : FieldSpec) (hop : op.spec? = some spec)
    (dispatch : Dispatch) (args : Args) :
    op.invoke dispatch args = op.plan dispatch args >>= spec.carryOut dispatch := by
  -- An accessor whose field is of its kind first decides and then carries out; one whose field is
  -- of another kind does neither in both forms.
  cases op with
  | scalar own =>
      obtain rfl : own = spec := Option.some.inj hop
      exact own.readOrAssign_eq _ dispatch args
  | arrayPlural own =>
      obtain rfl : own = spec := Option.some.inj hop
      cases hkind : own.kind with
      | array singular item schema itemCallback =>
          simp only [Operation.invoke, Operation.plan, hkind]
          exact own.readOrAssign_eq _ dispatch args
      | scalar constraint =>
          simp only [Operation.invoke, Operation.plan, hkind]
          rfl
      | hash singular key value schema =>
          simp only [Operation.invoke, Operation.plan, hkind]
          rfl
  | arrayItem own =>
      obtain rfl : own = spec := Option.some.inj hop
      cases hkind : own.kind with
      | array singular item schema itemCallback =>
          simp only [Operation.invoke, Operation.plan, hkind]
          exact own.addItem_eq dispatch singular item schema itemCallback hkind args
      | scalar constraint =>
          simp only [Operation.invoke, Operation.plan, hkind]
          rfl
      | hash singular key value schema =>
          simp only [Operation.invoke, Operation.plan, hkind]
          rfl
  | hashPlural own =>
      obtain rfl : own = spec := Option.some.inj hop
      exact own.readHash_eq dispatch args
  | hashEntry own =>
      obtain rfl : own = spec := Option.some.inj hop
      cases hkind : own.kind with
      | hash singular key value schema =>
          simp only [Operation.invoke, Operation.plan, hkind]
          exact own.addEntry_eq dispatch singular key value schema args
      | scalar constraint =>
          simp only [Operation.invoke, Operation.plan, hkind]
          rfl
      | array singular item schema itemCallback =>
          simp only [Operation.invoke, Operation.plan, hkind]
          rfl
  | inspect =>
      exact absurd hop (by simp only [Operation.spec?, reduceCtorEq, not_false_eq_true])
  | custom name trace body =>
      exact absurd hop (by simp only [Operation.spec?, reduceCtorEq, not_false_eq_true])

theorem accessor_spec? (spec : FieldSpec) (op : Operation) (h : spec.Accessor op) :
    op.spec? = some spec := by
  cases h <;> rfl

theorem callWithin_succ (depth : Nat) (name : String) (args : Args) (s : Scene) :
    callWithin (depth + 1) name args s =
      (match s.host.operation? name with
        | none => Run.fail (.unknownOperation name)
        | some op => op.invoke (callWithin depth) args) s := rfl

theorem callWithin_of_missing (depth : Nat) (name : String) (args : Args) (s : Scene)
    (h : s.host.operation? name = none) :
    callWithin (depth + 1) name args s = .error (.fault (.unknownOperation name)) s := by
  rw [callWithin_succ, h]
  rfl

theorem callWithin_of_operation (depth : Nat) (name : String) (args : Args) (s : Scene)
    (op : Operation) (h : s.host.operation? name = some op) :
    callWithin (depth + 1) name args s = op.invoke (callWithin depth) args s := by
  rw [callWithin_succ, h]

end FieldSchema
