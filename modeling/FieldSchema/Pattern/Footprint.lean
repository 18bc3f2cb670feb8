import FieldSchema.Pattern.SetLayout
import FieldSchema.Pattern.Tree

/-!
# The Size of a Pattern

Whether a pattern is small enough to be used.

Counted repetitions are written out, so a short text can describe a very large
pattern, and such a text is to be refused. What counts is the size of the
automaton that reads UTF-8 byte by byte, and of the one that reads it
backwards: neither may exceed the limit.

A choice forks to its branches, which meet again at its end. A choice between
literals only is laid out as a tree of their bytes. There a literal that ends
closes the branches so far, because it is preferred to whatever comes later.

Unless a pattern can only match where the text to be read begins, its
automaton starts with a loop that passes over text.

## Main definitions

* `layChoice`: Lays out a choice between branches.
* `Tree.layOut`: Lays out a part of a pattern.
* `Tree.automaton`: The layout of a whole pattern.
* `Tree.fits`: A pattern is small enough in both directions.
-/

namespace FieldSchema

namespace Pattern

/-! ## Choices -/

/-- The texts up to each end of a text, and those after the last. -/
def splitAtEnds : List (List Nat) → List (List (List Nat))
  | [] => [[]]
  | [] :: rest => [] :: splitAtEnds rest
  | text :: rest =>
      match splitAtEnds rest with
      | chunk :: chunks => (text :: chunk) :: chunks
      | [] => [[text]]

/-- The texts without those that end before any goes on, of which one is as good as several. -/
def mergeLeadingEnds (texts : List (List Nat)) : List (List Nat) :=
  match texts with
  | [] :: rest => [] :: rest.dropWhile List.isEmpty
  | texts => texts

/-- What follows each of the bytes with which texts begin. -/
def followers (texts : List (List Nat)) : List (List (List Nat)) :=
  (texts.filterMap List.head?).eraseDups.map fun byte =>
    texts.filterMap fun text =>
      match text with
      | first :: rest => if first = byte then some rest else none
      | [] => none

/-- The tree of some texts, none of which is as long as the first argument. -/
def layTree : Nat → List (List Nat) → Laying
  | 0, _, l => some l
  | length + 1, texts, l => do
      let chunks := splitAtEnds (mergeLeadingEnds texts)
      let full := chunks.filter fun chunk => !chunk.isEmpty
      let l ← full.foldlM (fun l chunk => do
        let next := followers chunk
        let l ← if next.length = 1 then l.addStates 1 else l.addTable next.length
        -- Where all texts end, the end of the tree is the next state.
        (next.filter fun texts => !texts.all List.isEmpty).foldlM (fun l texts =>
          layTree length texts l) l) l
      (← l.addStates 1).addBranches (full.length + (chunks.length - 1))

/-- The bytes of a literal in the order of reading. -/
def Direction.bytes (d : Direction) (text : List Char) : List Nat :=
  let bytes := text.flatMap fun c => Text.utf8Bytes c.toNat
  match d with
  | .forward => bytes
  | .backward => bytes.reverse

/-- A choice between literals. -/
def layLiterals (d : Direction) (literals : List (List Char)) : Laying := fun l => do
  let texts := literals.map d.bytes
  layTree ((texts.map List.length).foldl max 0 + 1) texts (← l.addStates 1)

/-- A branch of a choice, with its text if it is a literal. -/
structure Branch where
  literal : Option (List Char)
  lay : Laying

namespace Branch

/-- A branch that is no literal. -/
def ofLaying (lay : Laying) : Branch := ⟨none, lay⟩

/-- The branch, from the fork in which the choice begins to the state in which it ends. -/
def layWithin (branch : Branch) : Laying := fun l => do
  (← (← branch.lay l).connect).addBranches 1

end Branch

/-- A choice between branches; one alone is no choice. -/
def layChoice (d : Direction) (branches : List Branch) : Laying :=
  match branches with
  | [] => fun l => l.addStates 1
  | [branch] => branch.lay
  | first :: second :: rest => fun l =>
      match branches.mapM Branch.literal with
      | some literals => layLiterals d literals l
      | none => do
          let l ← second.layWithin (← first.layWithin l)
          let l ← rest.foldlM (fun l branch => branch.layWithin l) (← l.addStates 2)
          return { l with endsInFork := false }

/-! ## Patterns -/

/-- A part, and then another. -/
def layBoth (first second : Laying) : Laying := fun l =>
  ((first l).bind Layout.connect).bind second

/-- Lays out the branches of a tree, of which only a choice has more than one. -/
def Tree.layBranches (d : Direction) : Tree → List Branch
  | .empty => [.ofLaying fun l => l.addStates 1]
  | .literal text => [⟨some text, fun l => l.addStates (d.bytes text).length⟩]
  | .chars set => [.ofLaying (laySet d set)]
  | .check _ => [.ofLaying fun l => l.addStates 1]
  | .cat p q =>
      let first := layChoice d (p.layBranches d)
      let second := layChoice d (q.layBranches d)
      match d with
      | .forward => [.ofLaying (layBoth first second)]
      | .backward => [.ofLaying (layBoth second first)]
  | .alt p q => p.layBranches d ++ q.layBranches d
  | .rep p least most _ =>
      [.ofLaying (layRepetition (layChoice d (p.layBranches d)) p.consumes least most)]
  | .group _ p =>
      let body := layChoice d (p.layBranches d)
      match d with
      -- Only forwards are the places noted at which a group begins and ends.
      | .forward => [.ofLaying fun l => do (← (← l.addStates 1 >>= body).connect).addStates 1]
      | .backward => [.ofLaying body]

/-- Lays out a part of a pattern. -/
def Tree.layOut (d : Direction) (t : Tree) : Laying :=
  layChoice d (t.layBranches d)

/-- The tree matches only where the text to be read begins, and its first parts say so. -/
def Tree.isAnchored (d : Direction) : Tree → Bool
  | .check assertion => assertion == match d with | .forward => .start | .backward => .stop
  | .cat p q =>
      match d with
      | .forward => p.isAnchored d || (p.isZeroWidth && q.isAnchored d)
      | .backward => q.isAnchored d || (q.isZeroWidth && p.isAnchored d)
  | .alt p q => p.isAnchored d && q.isAnchored d
  | .rep p least _ _ => least != 0 && p.isAnchored d
  | .group _ p => p.isAnchored d
  | _ => false

/-- What comes before the pattern: passing over text, unless the pattern is anchored. -/
def layEntry (anchored : Bool) : Laying := fun l =>
  if anchored then l.addStates 1
  else do
    -- A loop over all bytes, connected to itself and to the pattern.
    let l ← (← l.addStates 2).addTable 1
    l.addBranches 2

/-- The whole automaton of a pattern. -/
def Tree.automaton (d : Direction) (t : Tree) : Option Layout := do
  let l ← layEntry (t.isAnchored d) .empty
  -- The whole match counts as a group.
  let l ← (Tree.group 0 t).layOut d l
  (← l.connect).addStates 1

/-- The pattern is small enough in both directions. -/
def Tree.fits (t : Tree) : Bool :=
  (t.automaton .forward).isSome && (t.automaton .backward).isSome

end Pattern

end FieldSchema
