import FieldSchema.Pattern.Tree
import FieldSchema.Text.Alphabet

/-!
# Reading Patterns

The tree that the text of a pattern describes, if it describes one.

A pattern is a choice of sequences of repeated atoms. The reader goes once
through the text and keeps the sequences and atoms read so far in the group
at hand; an opening parenthesis starts a group of its own, and the rest of
the text is handed back with it. Ignoring case is a mode, switched on from
inside the pattern, and holds to the end of the group.

A text is refused when a group, a set or a count does not close, when there
is nothing to repeat, when the bounds of a range or a count are reversed,
when an escape has no meaning, when a group has no proper name or the name
of another group, and when it asks for what patterns cannot do: to look
around, or to refer back to a group. It is also refused when it nests too
deeply. The tree cannot tell, because it is simplified while it is built; so
the depth is counted along with it. Groups, repetitions and sets are one level
each, and so are sequences and choices that have more than one member.

## Main definitions

* `Parsed`: A tree with the number and names of its groups.
* `read?`: The tree that a text describes.
-/

namespace FieldSchema

namespace Pattern

/-- Groups are numbered in the order in which they open; some have names. -/
structure Groups where
  count : Nat
  names : List (List Char × Nat)

/-- A tree with the number and names of its groups. -/
structure Parsed where
  tree : Tree
  groups : Groups

namespace Reader

/-- What an escape stands for. -/
inductive Escape where
  | literal (c : Char)
  | set (set : CharSet)
  | check (assertion : Assertion)

/-- The character may follow a backslash, and then stands for itself unless it has a meaning. -/
def isPunctuation (c : Char) : Bool :=
  c.val < 128 && !c.isAlphanum

/-- What a backslash and the character after it stand for. -/
def escape? (c : Char) : Option Escape :=
  match c with
  | 'd' => some (.set .digit)
  | 'D' => some (.set CharSet.digit.complement)
  | 's' => some (.set .space)
  | 'S' => some (.set CharSet.space.complement)
  | 'w' => some (.set .word)
  | 'W' => some (.set CharSet.word.complement)
  | 'b' => some (.check .wordBoundary)
  | 'B' => some (.check .noWordBoundary)
  | 'A' => some (.check .start)
  | 'z' => some (.check .stop)
  | '<' => some (.check .wordStart)
  | '>' => some (.check .wordStop)
  | 'n' => some (.literal '\n')
  | 'r' => some (.literal '\r')
  | 't' => some (.literal '\t')
  | 'a' => some (.literal '\x07')
  | 'f' => some (.literal '\x0c')
  | 'v' => some (.literal '\x0b')
  | c => if isPunctuation c then some (.literal c) else none

/-- One member of a set: a character, which may begin a range, or a class. -/
def setMember? : List Char → Option ((Char ⊕ CharSet) × List Char)
  | [] => none
  | ['\\'] => none
  | '\\' :: c :: rest =>
      match escape? c with
      | some (.literal c) => some (.inl c, rest)
      | some (.set set) => some (.inr set, rest)
      | _ => none
  | c :: rest => some (.inl c, rest)

/-- What has been read of a set: its members, how many they are, and how deeply they nest. -/
structure SetProgress where
  negated : Bool
  members : CharSet
  count : Nat
  depth : Nat

namespace SetProgress

/-- No members. -/
def initial (negated : Bool) : SetProgress := ⟨negated, .empty, 0, 0⟩

/-- One more member, which nests so deeply. -/
def push (p : SetProgress) (set : CharSet) (depth : Nat) : SetProgress :=
  { p with members := p.members.union set, count := p.count + 1, depth := max p.depth depth }

/-- The set that was read. -/
def set (p : SetProgress) : CharSet :=
  if p.negated then p.members.complement else p.members

/-- How deeply the set nests; several members are a level of their own. -/
def fullDepth (p : SetProgress) : Nat :=
  p.depth + if p.count ≤ 1 then 1 else 2

end SetProgress

/-- The hyphens that open a set, each for itself. -/
def leadingHyphens (ignoreCase : Bool) (p : SetProgress) : List Char → SetProgress × List Char
  | '-' :: rest => leadingHyphens ignoreCase (p.push (.single '-' ignoreCase) 0) rest
  | rest => (p, rest)

/-- What follows an opening bracket: whether the set is negated, and its first members. -/
def setOpening (ignoreCase : Bool) (s : List Char) : SetProgress × List Char :=
  let (negated, s) :=
    match s with
    | '^' :: s => (true, s)
    | s => (false, s)
  match leadingHyphens ignoreCase (.initial negated) s with
  | (p, ']' :: s) =>
      if p.count = 0 then (p.push (.single ']' ignoreCase) 0, s) else (p, ']' :: s)
  | (p, s) => (p, s)

/-- Reads a set up to its closing bracket, given what has been read of it. -/
def setMembers? (ignoreCase : Bool) :
    Nat → SetProgress → List Char → Option (SetProgress × List Char)
  | 0, _, _ => none
  | _, _, [] => none
  | _, p, ']' :: rest => some (p, rest)
  | fuel + 1, p, '[' :: rest =>
      let (opening, rest) := setOpening ignoreCase rest
      match setMembers? ignoreCase fuel opening rest with
      | some (inner, rest) =>
          setMembers? ignoreCase fuel (p.push inner.set inner.fullDepth) rest
      | none => none
  | fuel + 1, p, s =>
      match setMember? s with
      | none => none
      | some (.inr set, rest) =>
          match rest with
          | '-' :: ']' :: _ => setMembers? ignoreCase fuel (p.push set 0) rest
          | '-' :: '-' :: _ => setMembers? ignoreCase fuel (p.push set 0) rest
          | '-' :: _ => none
          | _ => setMembers? ignoreCase fuel (p.push set 0) rest
      | some (.inl first, rest) =>
          let alone := p.push (.single first ignoreCase) 0
          match rest with
          | '-' :: ']' :: _ => setMembers? ignoreCase fuel alone rest
          | '-' :: '-' :: _ => setMembers? ignoreCase fuel alone rest
          | '-' :: rest =>
              match setMember? rest with
              | some (.inl last, rest) =>
                  if first.val ≤ last.val then
                    setMembers? ignoreCase fuel (p.push (.range first last ignoreCase) 0) rest
                  else none
              | _ => none
          | _ => setMembers? ignoreCase fuel alone rest

/-- The set after an opening bracket, and what follows it. -/
def set? (ignoreCase : Bool) (s : List Char) : Option (SetProgress × List Char) :=
  let (opening, rest) := setOpening ignoreCase s
  setMembers? ignoreCase (s.length + 1) opening rest

/-- A whole number that fits a repetition count, with the white space around it. -/
def count? (s : List Char) : Option Nat × List Char :=
  let s := s.dropWhile Text.isSpace
  let digits := s.takeWhile Char.isDigit
  let n := digits.foldl (fun n c => 10 * n + (c.toNat - '0'.toNat)) 0
  let rest := (s.dropWhile Char.isDigit).dropWhile Text.isSpace
  (if digits.isEmpty || n ≥ UInt32.size then none else some n, rest)

/-- The bounds after an opening brace, and what follows the closing one. -/
def bounds? (s : List Char) : Option (Nat × Option Nat × List Char) :=
  match count? s with
  | (some least, '\x7d' :: rest) => some (least, some least, rest)
  | (some least, ',' :: '\x7d' :: rest) => some (least, none, rest)
  | (some least, ',' :: rest) =>
      match count? rest with
      | (some most, '\x7d' :: rest) =>
          if least ≤ most then some (least, some most, rest) else none
      | _ => none
  | _ => none

/-- A question mark after a repetition makes it prefer fewer copies. -/
def preference : List Char → Bool × List Char
  | '?' :: rest => (false, rest)
  | rest => (true, rest)

/-- What opens after a parenthesis. -/
inductive Opening where
  | numbered
  | named (name : List Char)
  | unnumbered (ignoreCase : Bool)
  | mode (ignoreCase : Bool)

/-- The name of a group up to the closing angle bracket. -/
def groupName? (s : List Char) : Option (List Char × List Char) :=
  let name := s.takeWhile (· != '>')
  let isFirst (c : Char) : Bool := c == '_' || Text.isAlphabetic c
  let isLater (c : Char) : Bool :=
    isFirst c || c == '.' || c == '[' || c == ']' || Text.isNumeric c
  match name, s.drop name.length with
  | first :: later, '>' :: rest =>
      if isFirst first && later.all isLater then some (name, rest) else none
  | _, _ => none

/-- What opens after a parenthesis, and what follows. -/
def opening? (ignoreCase : Bool) : List Char → Option (Opening × List Char)
  | '?' :: 'P' :: '<' :: rest => (groupName? rest).map fun (name, rest) => (.named name, rest)
  | '?' :: '<' :: '=' :: _ => none
  | '?' :: '<' :: '!' :: _ => none
  | '?' :: '<' :: rest => (groupName? rest).map fun (name, rest) => (.named name, rest)
  | '?' :: ':' :: rest => some (.unnumbered ignoreCase, rest)
  | '?' :: 'i' :: ':' :: rest => some (.unnumbered true, rest)
  | '?' :: '-' :: 'i' :: ':' :: rest => some (.unnumbered false, rest)
  | '?' :: 'i' :: ')' :: rest => some (.mode true, rest)
  | '?' :: '-' :: 'i' :: ')' :: rest => some (.mode false, rest)
  | '?' :: _ => none
  | rest => some (.numbered, rest)

/-- A tree, and how deeply the text that describes it nests. -/
structure Nested where
  tree : Tree
  depth : Nat

/-- The depth of members that stand together; more than one are a level of their own. -/
def depthOfAll (members : List Nested) : Nat :=
  let deepest := (members.map Nested.depth).foldl max 0
  if members.length ≤ 1 then deepest else deepest + 1

/-- The atoms of a sequence, given the latest first. -/
def sequence (atoms : List Nested) : Nested :=
  ⟨.seq (atoms.reverse.map Nested.tree), depthOfAll atoms⟩

/-- The alternatives of a choice, given the latest first. -/
def choice (alternatives : List Nested) : Nested :=
  ⟨.choice (alternatives.reverse.map Nested.tree), depthOfAll alternatives⟩

/-- The part of the group at hand that has been read, the latest first. -/
structure Progress where
  alternatives : List Nested
  atoms : List Nested
  repeatable : Bool

namespace Progress

/-- Nothing has been read. -/
def initial : Progress := ⟨[], [], false⟩

/-- One more atom has been read. -/
def push (p : Progress) (tree : Tree) (depth : Nat) : Progress :=
  { p with atoms := ⟨tree, depth⟩ :: p.atoms, repeatable := true }

/-- A change of mode has been read: it matches nothing and cannot be repeated. -/
def pushMode (p : Progress) : Progress :=
  { p.push .empty 0 with repeatable := false }

/-- One more alternative begins. -/
def bar (p : Progress) : Progress :=
  ⟨sequence p.atoms :: p.alternatives, [], false⟩

/-- All that has been read. -/
def all (p : Progress) : Nested :=
  choice p.bar.alternatives

/-- The last atom is repeated. -/
def repeatLast? (p : Progress) (least : Nat) (most : Option Nat) (greedy : Bool) :
    Option Progress :=
  match p.repeatable, p.atoms with
  | true, atom :: atoms =>
      let repetition : Nested := ⟨.repeated atom.tree least most greedy, atom.depth + 1⟩
      some { p with atoms := repetition :: atoms }
  | _, _ => none

end Progress

/-- What stands next in a pattern. -/
inductive Item where
  | close
  | bar
  | opening (o : Opening)
  | repetition (least : Nat) (most : Option Nat) (greedy : Bool)
  | atom (tree : Tree) (depth : Nat)

/-- A repetition and the question mark that may follow it. -/
def repetition (least : Nat) (most : Option Nat) (rest : List Char) : Item × List Char :=
  let (greedy, rest) := preference rest
  (.repetition least most greedy, rest)

/-- What an escape stands for, as an atom. -/
def Escape.tree (ignoreCase : Bool) : Escape → Tree
  | .literal c => .ofSet (.single c ignoreCase)
  | .set members => .ofSet members
  | .check assertion => .check assertion

/-- What stands next in a pattern, and what follows it. -/
def item? (ignoreCase : Bool) : List Char → Option (Item × List Char)
  | [] => none
  | ')' :: rest => some (.close, rest)
  | '|' :: rest => some (.bar, rest)
  | '(' :: rest => (opening? ignoreCase rest).map fun (o, rest) => (.opening o, rest)
  | '*' :: rest => some (repetition 0 none rest)
  | '+' :: rest => some (repetition 1 none rest)
  | '?' :: rest => some (repetition 0 (some 1) rest)
  | '\x7b' :: rest => (bounds? rest).map fun (least, most, rest) => repetition least most rest
  | '[' :: rest =>
      (set? ignoreCase rest).map fun (p, rest) => (.atom (.ofSet p.set) p.fullDepth, rest)
  | '.' :: rest => some (.atom (.ofSet .notNewline) 0, rest)
  | '^' :: rest => some (.atom (.check .start) 0, rest)
  | '$' :: rest => some (.atom (.check .stop) 0, rest)
  | ['\\'] => none
  | '\\' :: c :: rest => (escape? c).map fun escape => (.atom (escape.tree ignoreCase) 0, rest)
  | c :: rest => some (.atom (.ofSet (.single c ignoreCase)) 0, rest)

/--
Reads a group up to its closing parenthesis or the end of the text, and returns what is in it, the
groups opened so far and what follows, the parenthesis included.
-/
def group? : Nat → Bool → Groups → Progress → List Char → Option (Nested × Groups × List Char)
  | 0, _, _, _, _ => none
  | _, _, groups, p, [] => some (p.all, groups, [])
  | fuel + 1, ignoreCase, groups, p, s =>
      match item? ignoreCase s with
      | none => none
      | some (.close, _) => some (p.all, groups, s)
      | some (.bar, rest) => group? fuel ignoreCase groups p.bar rest
      | some (.repetition least most greedy, rest) =>
          match p.repeatLast? least most greedy with
          | some p => group? fuel ignoreCase groups p rest
          | none => none
      | some (.atom tree depth, rest) => group? fuel ignoreCase groups (p.push tree depth) rest
      | some (.opening (.mode ignoreCase), rest) =>
          group? fuel ignoreCase groups p.pushMode rest
      | some (.opening (.unnumbered inner), rest) =>
          match group? fuel inner groups .initial rest with
          | some (body, groups, ')' :: rest) =>
              group? fuel ignoreCase groups (p.push body.tree (body.depth + 1)) rest
          | _ => none
      | some (.opening .numbered, rest) =>
          let index := groups.count + 1
          match group? fuel ignoreCase ⟨index, groups.names⟩ .initial rest with
          | some (body, groups, ')' :: rest) =>
              let tree := .group index body.tree
              group? fuel ignoreCase groups (p.push tree (body.depth + 1)) rest
          | _ => none
      | some (.opening (.named name), rest) =>
          let index := groups.count + 1
          if (groups.names.lookup name).isSome then none
          else
            match group? fuel ignoreCase ⟨index, (name, index) :: groups.names⟩ .initial rest with
            | some (body, groups, ')' :: rest) =>
                let tree := .group index body.tree
                group? fuel ignoreCase groups (p.push tree (body.depth + 1)) rest
            | _ => none

/-- How deeply a pattern may nest. -/
def mostDepth : Nat := 250

end Reader

/-- The tree that a text describes. -/
def read? (text : List Char) : Option Parsed :=
  match Reader.group? (text.length + 1) false ⟨0, []⟩ .initial text with
  | some (body, groups, []) =>
      if body.depth ≤ Reader.mostDepth then some ⟨body.tree, groups⟩ else none
  | _ => none

end Pattern

end FieldSchema
