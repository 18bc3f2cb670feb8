import FieldSchema.Pattern.Machine
import Std.Data.TreeSet

/-!
# Searching a Text

The first match of a pattern in a text.

The search goes through the starting places from the left, and from each of
them depth first through the choices of the pattern, the preferred one first.
So the match that is found starts as far left as possible, and among those it
is the one that the pattern prefers.

A thread is one branch of that walk: what is still to be matched, and the
place it has reached. A choice is followed only on the first visit at its
place. Visits are remembered even from one starting place to the next, for a
choice that led nowhere leads nowhere again. This bounds the walk by the
number of labels times the number of places, and the same bound, times the
longest stretch between two choices, is the fuel.

## Main definitions

* `Thread`: One branch of the walk.
* `Thread.advance`: The threads that take the place of a thread.
* `run`: The depth-first walk.
* `search`: The first match, as a starting place and the marks passed.
-/

namespace FieldSchema

namespace Pattern

/-- The places at which marks were passed, the latest first. -/
abbrev Marks := List (Nat × Nat)

/-- A node that is still to be matched; its labels are shifted. -/
structure Task where
  node : Node
  shift : Nat

/-- One branch of the walk: what is still to be matched, and the place it has reached. -/
structure Thread where
  todo : List Task
  before : Option Char
  rest : List Char
  place : Nat
  marks : Marks

/-- What becomes of a thread in one step. -/
inductive Progress where
  | finished
  | threads (next : List Thread)
  | choice (label : Nat) (next : List Thread)

namespace Thread

/-- The thread with something else to match. -/
def matching (t : Thread) (todo : List Task) : Thread :=
  { t with todo := todo }

/-- The thread after the character that it has reached. -/
def step (t : Thread) (todo : List Task) (accepts : Char → Bool) : Option Thread :=
  match t.rest with
  | [] => none
  | c :: rest => if accepts c then some ⟨todo, some c, rest, t.place + 1, t.marks⟩ else none

/-- The thread after the characters of a literal. -/
def literal (t : Thread) (todo : List Task) : List Char → Option Thread
  | [] => some (t.matching todo)
  | c :: text => (t.step todo (· == c)).bind fun t => t.literal todo text

/-- Two ways to go on, the first of which a greedy pattern prefers. -/
def inOrder (t : Thread) (greedy : Bool) (more less : List Task) : List Thread :=
  if greedy then [t.matching more, t.matching less] else [t.matching less, t.matching more]

/-- What becomes of a thread that has something to match. -/
def perform (t : Thread) (shift : Nat) (todo : List Task) : Node → Progress
  | .skip => .threads [t.matching todo]
  | .literal text => .threads (t.literal todo text).toList
  | .chars set => .threads (t.step todo set.contains).toList
  | .check assertion =>
      if assertion.holds t.before t.rest.head? then .threads [t.matching todo] else .threads []
  | .mark slot => .threads [{ t.matching todo with marks := (slot, t.place) :: t.marks }]
  | .cat a b => .threads [t.matching (⟨a, shift⟩ :: ⟨b, shift⟩ :: todo)]
  | .branch label a b =>
      .choice (label + shift) [t.matching (⟨a, shift⟩ :: todo), t.matching (⟨b, shift⟩ :: todo)]
  | .loop label greedy body =>
      .choice (label + shift)
        (t.inOrder greedy (⟨body, shift⟩ :: ⟨.loop label greedy body, shift⟩ :: todo) todo)
  | .passes label greedy body =>
      .threads [t.matching (⟨body, shift⟩ :: ⟨.loop label greedy body, shift⟩ :: todo)]
  | .copies 0 _ _ => .threads [t.matching todo]
  | .copies (count + 1) labels body =>
      .threads
        [t.matching (⟨body, shift⟩ :: ⟨.copies count labels body, shift + labels⟩ :: todo)]
  | .upTo 0 _ _ _ _ => .threads [t.matching todo]
  | .upTo (count + 1) labels label greedy body =>
      let more := ⟨.upTo count labels label greedy body, shift + labels⟩
      .choice (label + shift) (t.inOrder greedy (⟨body, shift⟩ :: more :: todo) todo)

/-- What becomes of a thread in one step. -/
def advance (t : Thread) : Progress :=
  match t.todo with
  | [] => .finished
  | task :: todo => t.perform task.shift todo task.node

end Thread

/-- The choices that were followed, each numbered by its label and its place. -/
abbrev Visits := Std.TreeSet Nat

/-- The depth-first walk from a stack of threads: the thread that finished, and the visits made. -/
def run (places : Nat) : Nat → List Thread → Visits → Option Thread × Visits
  | 0, _, visits => (none, visits)
  | _, [], visits => (none, visits)
  | fuel + 1, t :: stack, visits =>
      match t.advance with
      | .finished => (some t, visits)
      | .threads next => run places fuel (next ++ stack) visits
      | .choice label next =>
          let visit := label * places + t.place
          if visits.contains visit then run places fuel stack visits
          else run places fuel (next ++ stack) (visits.insert visit)

/-- Enough steps for a walk over so many nodes with so many labels through so many places. -/
def stepBound (size labels places : Nat) : Nat :=
  (2 * labels * places + 2) * (size + 2)

/-- The first match from one of the places on: where it starts, and the thread that finished. -/
def searchFrom (node : Node) (places fuel : Nat) :
    Option Char → List Char → Nat → Visits → Option (Nat × Thread)
  | before, rest, place, visits =>
      let start : Thread := ⟨[⟨node, 0⟩], before, rest, place, []⟩
      match run places fuel [start] visits with
      | (some t, _) => some (place, t)
      | (none, visits) =>
          match rest with
          | [] => none
          | c :: rest => searchFrom node places fuel (some c) rest (place + 1) visits

/-- The first match in a text: where it starts, and the thread that finished. -/
def search (node : Node) (labels : Nat) (text : List Char) : Option (Nat × Thread) :=
  let places := text.length + 1
  searchFrom node places (stepBound node.size labels places) none text 0 ∅

end Pattern

end FieldSchema
