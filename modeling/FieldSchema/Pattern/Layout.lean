/-!
# Layouts of Automata

How much room an automaton takes up.

An automaton need not be built for its size to be known. A layout keeps the
number of states, because a state is known by the number of those before it,
and their total size. Every state takes up the same room, and some take up
more: a fork a little for each of its branches, a state with byte ranges for
each of those. There is a limit, and a layout that would exceed it is given
up.

A part is laid out with an open end, which is connected to whatever comes
next. If the open end is a fork, the connection is one more branch.
Repetitions are written out copy by copy, since where a part begins may decide
how much of it can be shared.

## Main definitions

* `Layout`: How much of an automaton is laid out.
* `Laying`: What lays out a part.
* `layRepetition`: The copies of a part.
-/

namespace FieldSchema

namespace Pattern

/-- How many states there are, how many bytes they take up, and whether the open end is a fork. -/
structure Layout where
  states : Nat
  bytes : Nat
  endsInFork : Bool

namespace Layout

/-- The most bytes that an automaton may take up. -/
def mostBytes : Nat := 10485760

/-- The bytes of every state. -/
def stateBytes : Nat := 32

/-- The bytes of every branch of a fork. -/
def branchBytes : Nat := 4

/-- The bytes of every byte range of a state. -/
def rangeBytes : Nat := 8

/-- Nothing is laid out. -/
def empty : Layout := ⟨0, 0, false⟩

/-- So many bytes more, if there is room for them. -/
def spend (l : Layout) (bytes : Nat) : Option Layout :=
  if l.bytes + bytes ≤ mostBytes then some { l with bytes := l.bytes + bytes } else none

/-- So many states more, the last of which is the open end. -/
def addStates (l : Layout) (count : Nat) : Option Layout :=
  spend ⟨l.states + count, l.bytes, false⟩ (count * stateBytes)

/-- One more state with a table of so many byte ranges. -/
def addTable (l : Layout) (ranges : Nat) : Option Layout := do
  (← l.addStates 1).spend (ranges * rangeBytes)

/-- So many more branches of forks. -/
def addBranches (l : Layout) (count : Nat) : Option Layout :=
  l.spend (count * branchBytes)

/-- The open end is connected, to a state that there is or will be. -/
def connect (l : Layout) : Option Layout :=
  if l.endsInFork then l.addBranches 1 else some l

/-- A fork is the open end. -/
def openFork (l : Layout) : Layout :=
  { l with endsInFork := true }

end Layout

/-- What lays out a part of an automaton, if there is room for it. -/
abbrev Laying := Layout → Option Layout

/-- As many copies in a row; in place of none, a state that does nothing. -/
def layCopies (body : Laying) : Nat → Laying
  | 0, l => l.addStates 1
  | copies + 1, l => more copies (body l)
where
  /-- So many copies more, after what is there. -/
  more : Nat → Option Layout → Option Layout
    | _, none => none
    | 0, l => l
    | copies + 1, some l => more copies (l.connect.bind body)

/-- Up to as many copies, each only after the one before; all of them may leave for the same end. -/
def layUpTo (body : Laying) : Nat → Laying
  | 0, l => some { l with endsInFork := false }
  | copies + 1, l =>
      match (l.addStates 1).bind body with
      | none => none
      | some l =>
          match (l.addBranches 2).bind Layout.connect with
          | none => none
          | some l => layUpTo body copies l

/-- Any number of copies, from so many on. -/
def layAtLeast (body : Laying) (consumes : Bool) : Nat → Laying
  | 0, l =>
      if consumes then do
        let l ← (← l.addStates 1 >>= body).connect
        return (← l.addBranches 1).openFork
      else do
        -- Two forks: one to begin at all, and one to go on.
        let l ← (← body l).connect
        (← l.addStates 3).addBranches 4
  | 1, l => do
      let l ← (← body l).connect
      return (← (← l.addStates 1).addBranches 1).openFork
  | least + 2, l => do
      let l ← (← layCopies body (least + 1) l).connect
      let l ← (← body l).connect
      return (← (← l.addStates 1).addBranches 1).openFork

/-- A bounded number of copies. -/
def layBetween (body : Laying) (least most : Nat) : Laying := fun l => do
  let l ← (← layCopies body least l).connect
  layUpTo body (most - least) (← l.addStates 1)

/-- A repetition. -/
def layRepetition (body : Laying) (consumes : Bool) (least : Nat) : Option Nat → Laying
  | none => layAtLeast body consumes least
  | some most => fun l =>
      if least = most then layCopies body least l
      else if least = 0 && most = 1 then do
        let l ← (← l.addStates 1 >>= body).connect
        (← l.addStates 1).addBranches 2
      else layBetween body least most l

end Pattern

end FieldSchema
