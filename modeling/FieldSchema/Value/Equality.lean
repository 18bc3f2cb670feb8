import FieldSchema.Value.Kind

/-!
# Equality of Values

When two values are equal.

Kinds never mix, numbers compare by what they denote, lists item by item, and
hosts by what they store. Two maps are equal if they have the same number of
entries and every entry of the first is found in the second: under the first
key of the second that equals its own, with an equal value. That test asks the
second map about the keys of the first, so the two maps change sides in it,
and equality of keys need not be transitive. Which side is asked therefore
matters, and `sameFrom` carries it: swapped, it decides the equality of its
arguments in the other order. It recurses on its first argument either way.

## Main definitions

* `Value.same`, `Host.same`, `Mapping.same`: Equality.
* `Mapping.get?`: The value under the first key that equals a given one.
* `Mapping.insert`, `Mapping.exchange`: A map with one more entry, and what that has replaced.
-/

namespace FieldSchema

mutual

/-- The first value equals the second; if swapped, the second equals the first. -/
def Value.sameFrom (swapped : Bool) : Value → Value → Bool
  | .nil, .nil => true
  | .string s, .string t => s == t
  | .atom s, .atom t => s == t
  | .number m, .number n => m.same n
  | .boolean b, .boolean c => b == c
  | .callable s, .callable t => s == t
  | .list xs, .list ys => sameItems swapped xs ys
  | .map m, .map n => m.sameFrom swapped n
  | .nested h, .nested k => h.sameFrom swapped k
  | _, _ => false
termination_by structural v => v

/-- The lists have equal items in the same places. -/
def sameItems (swapped : Bool) : List Value → List Value → Bool
  | [], [] => true
  | x :: xs, y :: ys => x.sameFrom swapped y && sameItems swapped xs ys
  | _, _ => false
termination_by structural vs => vs

/-- The maps have as many entries, and the entries of the one are found in the other. -/
def Mapping.sameFrom (swapped : Bool) : Mapping → Mapping → Bool
  | ⟨xs⟩, ⟨ys⟩ =>
      xs.length == ys.length &&
        (if swapped then ys.all (holdsEntry xs) else entriesFound xs ys)
termination_by structural m => m

/-- Every entry is found in a list of entries. -/
def entriesFound : List (Value × Value) → List (Value × Value) → Bool
  | [], _ => true
  | x :: xs, ys => entryFound x ys && entriesFound xs ys
termination_by structural entries => entries

/-- The first entry of a list whose key equals the entry's has an equal value. -/
def entryFound : Value × Value → List (Value × Value) → Bool
  | (k, v), ys =>
      match ys.find? fun y => k.sameFrom true y.1 with
      | some y => v.sameFrom true y.2
      | none => false
termination_by structural entry => entry

/-- The first entry in the list whose key equals the given entry's has an equal value. -/
def holdsEntry : List (Value × Value) → Value × Value → Bool
  | [], _ => false
  | x :: xs, y =>
      match answersEntry x y with
      | some verdict => verdict
      | none => holdsEntry xs y
termination_by structural entries => entries

/-- If the keys are equal, whether the values are. -/
def answersEntry : Value × Value → Value × Value → Option Bool
  | (k, v), y => if k.sameFrom false y.1 then some (v.sameFrom false y.2) else none
termination_by structural entry => entry

/-- The hosts store equal values under the same names; what was never stored counts as empty. -/
def Host.sameFrom (swapped : Bool) : Host → Host → Bool
  | ⟨_, store⟩, ⟨_, other⟩ => sameStores swapped store (other.getD [])
termination_by structural h => h

/-- A store that may not exist holds the same as one that does. -/
def sameStores (swapped : Bool) : Option (List (String × Value)) → List (String × Value) → Bool
  | none, other => other.isEmpty
  | some store, other => sameNamed swapped store other
termination_by structural store => store

/-- The stores hold equal values under the same names. -/
def sameNamed (swapped : Bool) : List (String × Value) → List (String × Value) → Bool
  | [], [] => true
  | x :: xs, y :: ys => sameNamedEntry swapped x y && sameNamed swapped xs ys
  | _, _ => false
termination_by structural store => store

/-- The entries have the same name and equal values. -/
def sameNamedEntry (swapped : Bool) : String × Value → String × Value → Bool
  | (name, v), (other, w) => name == other && v.sameFrom swapped w
termination_by structural entry => entry

end

namespace Value

/-- The values are equal. -/
def same (v w : Value) : Bool :=
  v.sameFrom false w

instance : BEq Value := ⟨same⟩

end Value

namespace Host

/-- The hosts store equal values. -/
def same (h k : Host) : Bool :=
  h.sameFrom false k

instance : BEq Host := ⟨same⟩

end Host

namespace Mapping

/-- The maps are equal. -/
def same (m n : Mapping) : Bool :=
  m.sameFrom false n

instance : BEq Mapping := ⟨same⟩

/-- No entries. -/
def empty : Mapping := ⟨[]⟩

/-- The number of entries. -/
def size (m : Mapping) : Nat :=
  m.entries.length

/-- The keys in the order of insertion. -/
def keys (m : Mapping) : List Value :=
  m.entries.map (·.1)

/-- The values in the order in which their keys were inserted. -/
def values (m : Mapping) : List Value :=
  m.entries.map (·.2)

/-- The value under the first key that equals the given one. -/
def get? (m : Mapping) (key : Value) : Option Value :=
  (m.entries.find? fun entry => entry.1 == key).map (·.2)

/-- There is a value under the key. -/
def contains (m : Mapping) (key : Value) : Bool :=
  (m.get? key).isSome

/-- Entries with a value put under the first key that equals the given one, or else at the end. -/
def insertInto (key value : Value) : List (Value × Value) → List (Value × Value)
  | [] => [(key, value)]
  | (k, v) :: rest =>
      if k == key then (k, value) :: rest else (k, v) :: insertInto key value rest

/-- The map with a value put under a key; a key that is already there keeps its place and form. -/
def insert (m : Mapping) (key value : Value) : Mapping :=
  ⟨insertInto key value m.entries⟩

/-- The entries after an insertion, and the value that it has replaced. -/
def exchangeIn (key value : Value) :
    List (Value × Value) → Option Value × List (Value × Value)
  | [] => (none, [(key, value)])
  | (k, v) :: rest =>
      if k == key then (some v, (k, value) :: rest)
      else
        let (old, others) := exchangeIn key value rest
        (old, (k, v) :: others)

/-- The map after an insertion, and the value that was under the key before. -/
def exchange (m : Mapping) (key value : Value) : Option Value × Mapping :=
  let (old, entries) := exchangeIn key value m.entries
  (old, ⟨entries⟩)

/-- The map that comes from inserting the entries one after another. -/
def ofList (entries : List (Value × Value)) : Mapping :=
  entries.foldl (fun m entry => m.insert entry.1 entry.2) empty

end Mapping

end FieldSchema
