import FieldSchema.Pattern.CharSet

/-!
# Pattern Trees

The structure of a pattern, in its simplest form.

The same pattern can be written in many ways, and some of them ask for work
that changes nothing: a group that only holds things together, a choice
between single characters, a thousand copies of nothing. Trees are therefore
built by functions that simplify as they go. A sequence has no sequences and
no empty parts within it, and characters that follow one another are one
literal. A choice has no choices within it, a choice between single characters
or between sets is a set, and parts with which all branches begin are taken
out in front. A repetition of what can only match nothing has at most one
copy.

None of this changes what is matched, or which of several matches is
preferred. It decides how much room the pattern takes up.

## Main definitions

* `Assertion`: A condition on a place between characters.
* `Tree`: The structure of a pattern.
* `Tree.ofSet`, `Tree.seq`, `Tree.choice`, `Tree.repeated`: How trees are
  built.
* `Tree.shortest?`, `Tree.longest?`: How many characters a tree can match.
-/

namespace FieldSchema

namespace Pattern

/-- A condition on a place between characters. -/
inductive Assertion where
  | start
  | stop
  | wordBoundary
  | noWordBoundary
  | wordStart
  | wordStop
deriving DecidableEq

/-- The condition holds between the character before and the character after. -/
def Assertion.holds : Assertion → Option Char → Option Char → Bool
  | .start, before, _ => before.isNone
  | .stop, _, after => after.isNone
  | .wordBoundary, before, after => before.any Text.isWord != after.any Text.isWord
  | .noWordBoundary, before, after => before.any Text.isWord == after.any Text.isWord
  | .wordStart, before, after => !before.any Text.isWord && after.any Text.isWord
  | .wordStop, before, after => before.any Text.isWord && !after.any Text.isWord

/-- The structure of a pattern; sequences and choices go on in their second part. -/
inductive Tree where
  | empty
  | literal (text : List Char)
  | chars (set : CharSet)
  | check (assertion : Assertion)
  | cat (first second : Tree)
  | alt (preferred other : Tree)
  | rep (body : Tree) (least : Nat) (most : Option Nat) (greedy : Bool)
  | group (index : Nat) (body : Tree)
deriving DecidableEq

namespace Tree

/-- The fewest characters that the tree can match, none if a part of it matches nothing at all. -/
def shortest? : Tree → Option Nat
  | .empty => some 0
  | .literal text => some text.length
  | .chars set => if set.isEmpty then none else some 1
  | .check _ => some 0
  | .cat p q => do return (← p.shortest?) + (← q.shortest?)
  | .alt p q => do return min (← p.shortest?) (← q.shortest?)
  | .rep p least _ _ => p.shortest?.map (least * ·)
  | .group _ p => p.shortest?

/-- The most characters that the tree can match, none if there is no limit to them. -/
def longest? : Tree → Option Nat
  | .empty => some 0
  | .literal text => some text.length
  | .chars set => if set.isEmpty then none else some 1
  | .check _ => some 0
  | .cat p q => do return (← p.longest?) + (← q.longest?)
  | .alt p q => do return max (← p.longest?) (← q.longest?)
  | .rep p _ most _ => do return (← most) * (← p.longest?)
  | .group _ p => p.longest?

/-- The tree certainly consumes a character. -/
def consumes (t : Tree) : Bool :=
  t.shortest?.any (0 < ·)

/-- The tree can only match nothing. -/
def isZeroWidth (t : Tree) : Bool :=
  t.longest? == some 0

/-- One character of a set; a set that has only one is a literal. -/
def ofSet (set : CharSet) : Tree :=
  match set.only? with
  | some c => .literal [c]
  | none => .chars set

/-- The parts of a sequence in order, none of the empty tree. -/
def parts : Tree → List Tree
  | .empty => []
  | .cat p q => p :: q.parts
  | t => [t]

/-- The sequence of parts that are already simplified. -/
def ofParts : List Tree → Tree
  | [] => .empty
  | [t] => t
  | t :: rest => .cat t (ofParts rest)

/-- Adds a part in front of others; a literal in front of a literal goes into it. -/
def joinPart (t : Tree) (rest : List Tree) : List Tree :=
  match t, rest with
  | .literal text, .literal more :: rest => .literal (text ++ more) :: rest
  | t, rest => t :: rest

/-- The trees one after another. -/
def seq (ts : List Tree) : Tree :=
  ofParts ((ts.flatMap parts).foldr joinPart [])

/-- The branches of a choice in order. -/
def branches : Tree → List Tree
  | .alt p q => p :: q.branches
  | t => [t]

/-- The choice between branches that are already simplified; between none it matches nothing. -/
def ofBranches : List Tree → Tree
  | [] => .chars .empty
  | [t] => t
  | t :: rest => .alt t (ofBranches rest)

/-- The set that a tree is, if it is one. -/
def set? : Tree → Option CharSet
  | .chars set => some set
  | _ => none

/-- The set of the character that a tree is, if it is one. -/
def character? : Tree → Option CharSet
  | .literal [c] => some (.single c false)
  | _ => none

/-- The union of sets. -/
def unionAll (sets : List CharSet) : CharSet :=
  sets.foldl CharSet.union .empty

/-- The choice between branches, which is a set if they are all single characters or all sets. -/
def choiceOrSet (branches : List Tree) : Tree :=
  match branches.mapM character?, branches.mapM set? with
  | some sets, _ => ofSet (unionAll sets)
  | none, some sets => ofSet (unionAll sets)
  | none, none => ofBranches branches

/-- The parts with which both lists begin. -/
def commonParts : List Tree → List Tree → List Tree
  | p :: ps, q :: qs => if p = q then p :: commonParts ps qs else []
  | _, _ => []

/-- The tree is a sequence of several parts. -/
def isSequence : Tree → Bool
  | .cat _ _ => true
  | _ => false

/-- The parts with which all of several branches begin; there are none unless all are sequences. -/
def sharedParts : List Tree → List Tree
  | first :: second :: rest =>
      if (first :: second :: rest).all isSequence then
        (second :: rest).foldl (fun shared t => commonParts shared t.parts) first.parts
      else []
  | _ => []

/-- A choice between the trees, the first of which is preferred to the others. -/
def choice (ts : List Tree) : Tree :=
  let all := ts.flatMap branches
  let shared := sharedParts all
  if shared.isEmpty then choiceOrSet all
  else
    let rests := all.map fun t => seq (t.parts.drop shared.length)
    -- What is left of the branches has nothing more in common.
    seq (shared ++ [choiceOrSet (rests.flatMap branches)])

/-- The tree repeated so many times; more copies are preferred if the repetition is greedy. -/
def repeated (t : Tree) (least : Nat) (most : Option Nat) (greedy : Bool) : Tree :=
  let (least, most) :=
    if t.isZeroWidth then (min least 1, some (min (most.getD 1) 1)) else (least, most)
  if most = some 0 then .empty
  else if least = 1 && most = some 1 then t
  else .rep t least most greedy

end Tree

end Pattern

end FieldSchema
