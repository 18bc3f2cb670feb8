/-!
# Faults

What can go wrong while fields are declared or used.

Faults fall into four families. A definition fault is found while a schema is
declared, save for the assignment of a whole hash, which the schema rules out
but only a call can attempt. A validation fault rejects the input of a call.
Calling what is not there and failing on purpose are families of their own.

## Main definitions

* `DefinitionFault`, `ValidationFault`: The two families with several causes.
* `Fault`: Any of them.
* `Fault.kind`, `Fault.message`: The name and the wording of a fault.
-/

namespace FieldSchema

/-- A schema that cannot be declared or used as asked. -/
inductive DefinitionFault where
  | emptyName
  | duplicateField (name : String)
  | cannotSingularize (name : String)
  | conflictingItemType (name : String)
  | conflictingValueType (name : String)
  | pluralHashAssignment (field singular : String)
deriving DecidableEq

/-- Input that an accessor rejects. -/
inductive ValidationFault where
  | invalidValue (name : String)
  | invalidItem (name : String)
  | invalidKey (name : String)
  | invalidEntryValue (name : String)
  | ambiguousEntry (name : String)
  | missingKey (name : String)
  | tooManyArguments (name : String) (most given : Nat)
  | unexpectedBlock (name : String)
  | noSubSchema (name : String)
deriving DecidableEq

/-- Anything that can go wrong while fields are declared or used. -/
inductive Fault where
  | definition (fault : DefinitionFault)
  | validation (fault : ValidationFault)
  | unknownOperation (name : String)
  | callback (reason : String)
deriving DecidableEq

namespace DefinitionFault

/-- The name of the cause. -/
def kind : DefinitionFault → String
  | .emptyName => "EmptyName"
  | .duplicateField _ => "DuplicateField"
  | .cannotSingularize _ => "CannotSingularize"
  | .conflictingItemType _ => "ConflictingItemType"
  | .conflictingValueType _ => "ConflictingValueType"
  | .pluralHashAssignment _ _ => "PluralHashAssignment"

/-- The wording of the fault. -/
def message : DefinitionFault → String
  | .emptyName => "field name cannot be empty"
  | .duplicateField name => "duplicate field in definition: " ++ name
  | .cannotSingularize name =>
      "can not singularize " ++ name ++ ", please make sure to provide the plural form and that " ++
        "the inflector can singularize it"
  | .conflictingItemType name =>
      name ++ " item type can not be given at the same time as a sub-schema"
  | .conflictingValueType name =>
      name ++ " value type can not be given at the same time as a sub-schema"
  | .pluralHashAssignment field singular =>
      "hashes do not support setting values with the plural form, please use " ++ singular ++
        " to define items of " ++ field

end DefinitionFault

namespace ValidationFault

/-- The name of the cause. -/
def kind : ValidationFault → String
  | .invalidValue _ => "InvalidValue"
  | .invalidItem _ => "InvalidItem"
  | .invalidKey _ => "InvalidKey"
  | .invalidEntryValue _ => "InvalidEntryValue"
  | .ambiguousEntry _ => "AmbiguousEntry"
  | .missingKey _ => "MissingKey"
  | .tooManyArguments _ _ _ => "TooManyArguments"
  | .unexpectedBlock _ => "UnexpectedBlock"
  | .noSubSchema _ => "NoSubSchema"

/-- The wording of the fault. -/
def message : ValidationFault → String
  | .invalidValue name => name ++ " is not valid"
  | .invalidItem name => name ++ " is not valid"
  | .invalidKey name => name ++ "'s key is not valid"
  | .invalidEntryValue name => name ++ "'s value is not valid"
  | .ambiguousEntry name =>
      name ++ ": value can not be given at the same time as a block for a hash"
  | .missingKey name => name ++ " requires a key"
  | .tooManyArguments name most given =>
      name ++ " accepts at most " ++ toString most ++ " argument(s), got " ++ toString given
  | .unexpectedBlock name => name ++ " does not accept a block"
  | .noSubSchema name => name ++ " has no sub-schema to evaluate a block against"

end ValidationFault

namespace Fault

/-- The name of the family and, where it has several causes, of the cause. -/
def kind : Fault → String
  | .definition fault => "Definition." ++ fault.kind
  | .validation fault => "Validation." ++ fault.kind
  | .unknownOperation _ => "UnknownOperation"
  | .callback _ => "Callback"

/-- The wording of the fault. -/
def message : Fault → String
  | .definition fault => fault.message
  | .validation fault => fault.message
  | .unknownOperation name => "undefined operation: " ++ name
  | .callback reason => "callback failed: " ++ reason

/-- The fault lies in the schema. -/
def isDefinition : Fault → Bool
  | .definition _ => true
  | _ => false

/-- The fault lies in the input of a call. -/
def isValidation : Fault → Bool
  | .validation _ => true
  | _ => false

end Fault

end FieldSchema
