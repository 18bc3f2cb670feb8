import FieldSchema.Pattern.Tree

/-!
# Branching Programs

A pattern in which every choice has a label of its own.

The search must know when it meets the same choice again at the same place,
because a second visit can find nothing that the first did not. A label makes
that a comparison of two numbers. The two passes of a loop over its body meet
the same choices, but two copies of a counted body have choices of their own.
Copies are not written out, because there can be very many of them: the body
is labelled once, and each copy shifts its labels by the number of labels in
the copies before it.

A loop whose body can match nothing is entered through a choice of its own:
either at least one pass, or none. Without it an empty first pass would
already count as a visit of the loop and would hide the passes that consume.

## Main definitions

* `Node`: A pattern whose choices are labelled.
* `Tree.toNode`: Labels the choices of a pattern, in order.
* `Node.size`: How many nodes there are once the copies are written out.
-/

namespace FieldSchema

namespace Pattern

/-- A pattern whose choices are labelled. -/
inductive Node where
  | skip
  | literal (text : List Char)
  | chars (set : CharSet)
  | check (assertion : Assertion)
  | mark (slot : Nat)
  | cat (first second : Node)
  | branch (label : Nat) (preferred other : Node)
  /-- Any number of passes, with a choice before each. -/
  | loop (label : Nat) (greedy : Bool) (body : Node)
  /-- One pass or more, with a choice after each. -/
  | passes (label : Nat) (greedy : Bool) (body : Node)
  /-- So many copies, each of which has so many labels. -/
  | copies (count labels : Nat) (body : Node)
  /-- Up to so many copies, with a choice before each. -/
  | upTo (count labels label : Nat) (greedy : Bool) (body : Node)

/-- The number of nodes once the copies are written out. -/
def Node.size : Node → Nat
  | .cat a b => a.size + b.size + 1
  | .branch _ a b => a.size + b.size + 1
  | .loop _ _ a => a.size + 1
  | .passes _ _ a => a.size + 2
  | .copies count _ a => count * (a.size + 1) + 1
  | .upTo count _ _ _ a => count * (a.size + 1) + 1
  | _ => 1

/-- A way to build a node from the next free label, which also returns the label after its own. -/
abbrev Numbering := Nat → Node × Nat

namespace Numbering

/-- Two choices, the first of which a greedy pattern prefers. -/
def prefer (label : Nat) (greedy : Bool) (more less : Node) : Node :=
  if greedy then .branch label more less else .branch label less more

/-- As many copies in a row. -/
def times (body : Numbering) (count : Nat) : Numbering := fun n =>
  let (a, m) := body n
  (.copies count (m - n) a, n + count * (m - n))

/-- Up to as many copies in a row, each only after the one before. -/
def upTo (body : Numbering) (greedy : Bool) (count : Nat) : Numbering := fun n =>
  let (a, m) := body (n + 1)
  (.upTo count (m - n) n greedy a, n + count * (m - n))

/-- One copy or more. -/
def atLeastOne (body : Numbering) (greedy : Bool) : Numbering := fun n =>
  let (a, m) := body n
  (.passes m greedy a, m + 1)

/-- Any number of copies. -/
def anyNumber (body : Numbering) (greedy consumes : Bool) : Numbering := fun n =>
  if consumes then
    let (a, m) := body (n + 1)
    (.loop n greedy a, m)
  else
    let (a, m) := atLeastOne body greedy (n + 1)
    (prefer n greedy a .skip, m)

/-- One after the other. -/
def both (first second : Numbering) : Numbering := fun n =>
  let (a, n) := first n
  let (b, n) := second n
  (.cat a b, n)

end Numbering

/-- Labels the choices of a pattern, in order. -/
def Tree.toNode : Tree → Numbering
  | .empty, n => (.skip, n)
  | .literal text, n => (.literal text, n)
  | .chars set, n => (.chars set, n)
  | .check assertion, n => (.check assertion, n)
  | .cat p q, n => Numbering.both p.toNode q.toNode n
  | .alt p q, n =>
      let (a, m) := p.toNode (n + 1)
      let (b, m) := q.toNode m
      (.branch n a b, m)
  | .group i p, n =>
      let (a, n) := p.toNode n
      (.cat (.mark (2 * i)) (.cat a (.mark (2 * i + 1))), n)
  | .rep p least (some most) greedy, n =>
      Numbering.both (Numbering.times p.toNode least)
        (Numbering.upTo p.toNode greedy (most - least)) n
  | .rep p 0 none greedy, n => Numbering.anyNumber p.toNode greedy p.consumes n
  | .rep p (least + 1) none greedy, n =>
      Numbering.both (Numbering.times p.toNode least) (Numbering.atLeastOne p.toNode greedy) n

end Pattern

end FieldSchema
