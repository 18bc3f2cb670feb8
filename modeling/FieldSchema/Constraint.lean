import FieldSchema.Value.Compute

/-!
# Constraints

What values are accepted.

A predicate has a verdict and, apart from it, leaves notes: the values that
were handed to the parts of it that keep a log. The verdict is a function of
the value, and of the named hosts if a literal of the predicate mentions one;
so it is defined without the notes, and the notes follow the order in which
the parts are asked. A conjunction asks no further once a part refuses, nor a
disjunction once a part accepts.

## Main definitions

* `Predicate.holds`: The verdict on a value.
* `Predicate.notes`: The notes that asking for the verdict leaves.
* `Constraint.holds`, `Constraint.notes`: The same of a constraint.
* `Check`: A verdict together with its notes, however it comes about.
-/

namespace FieldSchema

/-- A remark left while a predicate is asked: a tag, and the value asked about. -/
abbrev Note := String × Value

mutual

/-- The verdict on a value. -/
def Predicate.holds (hosts : NameMap Host) : Predicate → Value → Bool
  | .const verdict, _ => verdict
  | .test verdict, v => verdict v.outline
  | .intRange least most, v =>
      match v.asInt64? with
      | some n => least ≤ n.toInt && n.toInt ≤ most
      | none => false
  | .maxBytes most, v => v.asString?.any fun text => text.utf8ByteSize ≤ most
  | .lessThan bound, v => v.asBinary64?.any fun x => x.below bound
  | .is category, v => category.holds v
  | .equals w, v => v == w.value hosts
  | .truthy, v => v.isTruthy
  | .not p, v => !p.holds hosts v
  | .all ps, v => allHold hosts ps v
  | .any ps, v => someHolds hosts ps v
  | .minLength least, v =>
      match v with
      | .list items => least ≤ items.length
      | .map mapping => least ≤ mapping.size
      | _ => false
  | .hasKey key, v => v.asMap?.any fun mapping => mapping.contains (key.value hosts)
  | .child field p, v =>
      match v.asHost?.bind fun host => host.stored? field with
      | some w => p.holds hosts w
      | none => false
  | .log _ p, v => p.holds hosts v
termination_by structural p => p

/-- All of the predicates accept the value. -/
def allHold (hosts : NameMap Host) : List Predicate → Value → Bool
  | [], _ => true
  | p :: ps, v => p.holds hosts v && allHold hosts ps v
termination_by structural ps => ps

/-- One of the predicates accepts the value. -/
def someHolds (hosts : NameMap Host) : List Predicate → Value → Bool
  | [], _ => false
  | p :: ps, v => p.holds hosts v || someHolds hosts ps v
termination_by structural ps => ps

end

mutual

/-- The notes that asking for the verdict leaves, in order. -/
def Predicate.notes (hosts : NameMap Host) : Predicate → Value → List Note
  | .not p, v => p.notes hosts v
  | .all ps, v => notesWhile hosts true ps v
  | .any ps, v => notesWhile hosts false ps v
  | .child field p, v =>
      match v.asHost?.bind fun host => host.stored? field with
      | some w => p.notes hosts w
      | none => []
  | .log tag p, v => (tag, v) :: p.notes hosts v
  | _, _ => []
termination_by structural p => p

/-- The notes of predicates that are asked in order as long as the verdict stays the same. -/
def notesWhile (hosts : NameMap Host) (verdict : Bool) :
    List Predicate → Value → List Note
  | [], _ => []
  | p :: ps, v =>
      p.notes hosts v ++
        (if p.holds hosts v == verdict then notesWhile hosts verdict ps v else [])
termination_by structural ps => ps

end

namespace Constraint

/-- The constraint accepts the value. -/
def holds (hosts : NameMap Host) : Constraint → Value → Bool
  | .category c, v => c.holds v
  | .custom p, v => p.holds hosts v

/-- The notes that checking the value leaves. -/
def notes (hosts : NameMap Host) : Constraint → Value → List Note
  | .category _, _ => []
  | .custom p, v => p.notes hosts v

/-- The notes that checking values in order leaves, up to the first that is refused. -/
def notesOnAll (hosts : NameMap Host) (c : Constraint) : List Value → List Note
  | [] => []
  | v :: rest =>
      c.notes hosts v ++ (if c.holds hosts v then c.notesOnAll hosts rest else [])

end Constraint

/-- A verdict on values, and the notes that asking for it leaves. -/
structure Check where
  holds : NameMap Host → Value → Bool
  notes : NameMap Host → Value → List Note

namespace Check

/-- Everything is accepted. -/
def pass : Check where
  holds _ _ := true
  notes _ _ := []

/-- What both checks accept; the second is only asked about what passes the first. -/
def andThen (first second : Check) : Check where
  holds hosts v := first.holds hosts v && second.holds hosts v
  notes hosts v :=
    first.notes hosts v ++ (if first.holds hosts v then second.notes hosts v else [])

end Check

namespace Predicate

/-- The check that a predicate makes. -/
def check (p : Predicate) : Check where
  holds hosts v := p.holds hosts v
  notes hosts v := p.notes hosts v

/-- The check of a predicate if there is one. -/
def ifAny (p : Option Predicate) : Check :=
  (p.map check).getD .pass

end Predicate

namespace Constraint

/-- The check that a constraint makes. -/
def check (c : Constraint) : Check where
  holds hosts v := c.holds hosts v
  notes hosts v := c.notes hosts v

/-- The check of a constraint if there is one. -/
def ifAny (c : Option Constraint) : Check :=
  (c.map check).getD .pass

/-- The check that a value is a list, and all its items pass the constraint if there is one. -/
def onItems (item : Option Constraint) : Check where
  holds hosts v :=
    match v with
    | .list items => item.all fun c => items.all (c.holds hosts)
    | _ => false
  notes hosts v :=
    match item, v with
    | some c, .list items => c.notesOnAll hosts items
    | _, _ => []

end Constraint

end FieldSchema
