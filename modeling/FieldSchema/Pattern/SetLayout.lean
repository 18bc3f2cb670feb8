import FieldSchema.Pattern.CharSet
import FieldSchema.Pattern.Layout
import FieldSchema.Text.Utf8
import Std.Data.TreeMap

/-!
# Layouts of Sets

How much room a set of characters takes up in an automaton over bytes.

A set within ASCII is a single state. Any other set is laid out as the
automaton of its byte sequences. Read forwards, sequences that begin alike
share their states, and so do those that end alike; read backwards, only
those that end alike, in the order of reading.

To be shared, states are looked up in a store with a fixed number of places. A
state that finds its place taken by another is laid out once more, and takes
the place over. So a large set does not take up the least possible room, and
how much it takes up depends on where it stands: a state is known by what it
does, and thus by the numbers of the states that it leads to. The store is
emptied for every set.

## Main definitions

* `Direction`: The way in which a text is read.
* `SetLayout.share`: A state from the store, or else a new one.
* `laySet`: Lays out a set.
-/

namespace FieldSchema

namespace Pattern

/-- The way in which a text is read. -/
inductive Direction where
  | forward
  | backward
deriving DecidableEq

/-- The states that were laid out last for each place of a store, under what they do. -/
abbrev Store := Std.TreeMap Nat (List Nat × Nat)

/-- What the hash of a key begins with. -/
def hashBasis : UInt64 := 14695981039346656037

/-- The prime by which a hash is multiplied for each number of a key. -/
def hashPrime : UInt64 := 1099511628211

/-- The place of a state in a store of so many places, by a hash of what the state does. -/
def storePlace (places : Nat) (key : List Nat) : Nat :=
  (key.foldl (fun hash n => (hash ^^^ UInt64.ofNat n) * hashPrime) hashBasis).toNat % places

/-- The number of places of the store for reading in a direction. -/
def Direction.places : Direction → Nat
  | .forward => 10000
  | .backward => 1000

/-- A layout in the middle of a set, and the states that can be shared. -/
structure SetLayout where
  layout : Layout
  store : Store

namespace SetLayout

/-- A new state, which is put into its place of the store. -/
def add (place : Nat) (key : List Nat) (new : Laying) (s : SetLayout) :
    Option (Nat × SetLayout) :=
  let state := s.layout.states
  (new s.layout).map fun l => (state, ⟨l, s.store.insert place (key, state)⟩)

/-- The number of the state that does what the key says: the one in the store, or else a new one. -/
def share (d : Direction) (key : List Nat) (new : Laying) (s : SetLayout) :
    Option (Nat × SetLayout) :=
  let place := storePlace d.places key
  match s.store.get? place with
  | some (other, state) => if other = key then some (state, s) else s.add place key new
  | none => s.add place key new

end SetLayout

/-- Sequences that stand next to each other and begin alike, under what they begin with. -/
def groupByFirst : List (List Text.ByteRange) → List (Text.ByteRange × List (List Text.ByteRange))
  | [] => []
  | [] :: rest => groupByFirst rest
  | (range :: tail) :: rest =>
      match groupByFirst rest with
      | (other, tails) :: groups =>
          if range = other then (range, tail :: tails) :: groups
          else (range, [tail]) :: (other, tails) :: groups
      | [] => [(range, [tail])]

/--
The state that reads any of some byte sequences forwards, on the way to a target; the states that
it leads to come before it. No sequence is longer than the first argument.
-/
def layForward (target : Nat) :
    Nat → List (List Text.ByteRange) → SetLayout → Option (Nat × SetLayout)
  | 0, _, s => some (target, s)
  | length + 1, sequences, s => do
      let groups := groupByFirst sequences
      if groups.isEmpty then return (target, s)
      let (keys, s) ← groups.foldlM (fun (keys, s) (range, tails) => do
        let (next, s) ← layForward target length tails s
        return ([range.1, range.2, next] :: keys, s)) (([], s) : List (List Nat) × SetLayout)
      s.share .forward keys.reverse.flatten fun l => l.addTable groups.length

/-- The states that read a byte sequence backwards, one for each of its ranges. -/
def layBackward (target : Nat) (sequence : List Text.ByteRange) (s : SetLayout) :
    Option SetLayout := do
  let (_, s) ← sequence.foldlM (fun (next, s) range =>
    SetLayout.share .backward [next, range.1, range.2] (·.addStates 1) s) (target, s)
  -- The last state is one more branch of the fork in which the set begins.
  return { s with layout := ← s.layout.addBranches 1 }

/-- One of several byte sequences. -/
def laySequences (d : Direction) (sequences : List (List Text.ByteRange)) : Laying := fun l =>
  match d with
  | .forward => do
      let (_, s) ← layForward l.states 4 sequences ⟨← l.addStates 1, ∅⟩
      return s.layout
  | .backward => do
      let target := l.states + 1
      let s ← sequences.foldlM (fun s sequence => layBackward target sequence s)
        ⟨← l.addStates 2, ∅⟩
      return s.layout

/-- One character of a set; in ASCII, characters are bytes. -/
def laySet (d : Direction) (set : CharSet) : Laying :=
  if set.isAscii then fun l => do (← l.addStates 1).addTable set.ranges.length
  else laySequences d (set.ranges.flatMap Text.byteSequences)

end Pattern

end FieldSchema
