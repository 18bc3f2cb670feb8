import FieldSchema.Value.Basic

/-!
# Kinds of Values

Which kind a value is of, and what it can be read as.

Reading never converts between kinds: a string of digits is not a number.
The one exception lies inside the numbers, where a double that is whole can
be read as a whole number, and any number as a double.

## Main definitions

* `Value.typeName`: The name of a value's kind.
* `Value.isTruthy`: Everything counts as true but nil and false.
* `Value.asInt64?`, `Value.asBinary64?`: A number read as one kind of number.
-/

namespace FieldSchema

namespace Value

/-- The name of a value's kind. -/
def typeName : Value → String
  | .nil => "nil"
  | .string _ => "string"
  | .atom _ => "atom"
  | .number _ => "number"
  | .boolean _ => "boolean"
  | .callable _ => "callable"
  | .list _ => "list"
  | .map _ => "map"
  | .nested _ => "nested"

/-- Everything counts as true but nil and false. -/
def isTruthy : Value → Bool
  | .nil => false
  | .boolean b => b
  | _ => true

/-- The value is nil. -/
def isNil : Value → Bool
  | .nil => true
  | _ => false

/-- The value is a string. -/
def isString : Value → Bool
  | .string _ => true
  | _ => false

/-- The value is an atom. -/
def isAtom : Value → Bool
  | .atom _ => true
  | _ => false

/-- The value is a number. -/
def isNumeric : Value → Bool
  | .number _ => true
  | _ => false

/-- The value is true or false. -/
def isBoolean : Value → Bool
  | .boolean _ => true
  | _ => false

/-- The value is a callable. -/
def isCallable : Value → Bool
  | .callable _ => true
  | _ => false

/-- The value is a list. -/
def isList : Value → Bool
  | .list _ => true
  | _ => false

/-- The value is a map. -/
def isMap : Value → Bool
  | .map _ => true
  | _ => false

/-- The value is a host. -/
def isNested : Value → Bool
  | .nested _ => true
  | _ => false

/-- The text of a string. -/
def asString? : Value → Option String
  | .string text => some text
  | _ => none

/-- The name of an atom. -/
def asAtom? : Value → Option String
  | .atom name => some name
  | _ => none

/-- The number that the value is. -/
def asNumber? : Value → Option Number
  | .number n => some n
  | _ => none

/-- A number read as a whole number of 64 bits, if it is one. -/
def asInt64? (v : Value) : Option Int64 :=
  v.asNumber?.bind Number.toInt64?

/-- A number read as a double. -/
def asBinary64? (v : Value) : Option Binary64 :=
  v.asNumber?.map Number.toBinary64

/-- The truth value that the value is. -/
def asBoolean? : Value → Option Bool
  | .boolean b => some b
  | _ => none

/-- The name of a callable. -/
def asCallable? : Value → Option String
  | .callable name => some name
  | _ => none

/-- The items of a list. -/
def asList? : Value → Option (List Value)
  | .list items => some items
  | _ => none

/-- The map that the value is. -/
def asMap? : Value → Option Mapping
  | .map mapping => some mapping
  | _ => none

/-- The host that the value is. -/
def asHost? : Value → Option Host
  | .nested host => some host
  | _ => none

/-- A whole number as a value. -/
def int (n : Int64) : Value :=
  .number (.int n)

end Value

namespace Category

/-- The value belongs to the category. -/
def holds : Category → Value → Bool
  | .any, _ => true
  | .string, v => v.isString
  | .atom, v => v.isAtom
  | .numeric, v => v.isNumeric
  | .boolean, v => v.isBoolean
  | .callable, v => v.isCallable
  | .nested, v => v.isNested
  | .sequence, v => v.isList
  | .mapping, v => v.isMap

/-- The name of the category. -/
def name : Category → String
  | .any => "any"
  | .string => "string"
  | .atom => "atom"
  | .numeric => "numeric"
  | .boolean => "boolean"
  | .callable => "callable"
  | .nested => "nested"
  | .sequence => "sequence"
  | .mapping => "mapping"

end Category

/-- The name of a constraint; all constraints that hold code have one name. -/
def Constraint.name : Constraint → String
  | .category c => c.name
  | .custom _ => "custom"

end FieldSchema
