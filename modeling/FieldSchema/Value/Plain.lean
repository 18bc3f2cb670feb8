import FieldSchema.Inflection.Table
import FieldSchema.Number.Basic
import FieldSchema.Options

/-!
# What Code Writes and Sees

The data that passes between values and the code that they hold.

Values hold hosts, and hosts hold code. Code that was itself a function of
values could therefore not be a part of them. It deals with plain data instead.
It writes a value as a literal, in which hosts stand under their names. It sees
of a value the outline, in which hosts have the names of their operations but
not what these do. And it says by a recipe how the value that it makes is
composed of what it was given, so that hosts can be passed on without being
looked into. What code computes is then any function from outlines to recipes.

A script sees of its generator the inflector, the options and the fields so
far, which are plain data as well.

## Main definitions

* `Literal`: A value as code writes it.
* `Outline`: A value as code sees it.
* `Recipe`: How code makes a value of others.
* `GeneratorView`: A generator as a script sees it.
-/

namespace FieldSchema

/-- A value as code writes it: hosts stand under their names. -/
inductive Literal where
  | nil
  | string (text : String)
  | atom (name : String)
  | number (n : Number)
  | boolean (b : Bool)
  | callable (name : String)
  | list (items : List Literal)
  | map (entries : List (Literal × Literal))
  | host (name : String)

instance : Inhabited Literal := ⟨.nil⟩

/-- A value as code sees it: hosts have the names of their operations, and what they store. -/
inductive Outline where
  | nil
  | string (text : String)
  | atom (name : String)
  | number (n : Number)
  | boolean (b : Bool)
  | callable (name : String)
  | list (items : List Outline)
  | map (entries : List (Outline × Outline))
  | host (operations : List String) (store : Option (List (String × Outline)))

/-- Where in a value another one is. -/
inductive Part where
  | item (index : Nat)
  | key (index : Nat)
  | value (index : Nat)
  | stored (name : String)

/-- How code makes a value, of literals and of the values that it is given. -/
inductive Recipe where
  | literal (value : Literal)
  | given (index : Nat)
  | part (whole : Recipe) (part : Part)
  | list (items : List Recipe)
  | map (entries : List (Recipe × Recipe))

/-- What a declared field shows of itself. -/
structure FieldOutline where
  name : String
  kind : String
  singular : Option String
  nested : Bool
  validated : Bool
  calledBack : Bool
deriving DecidableEq

/-- What a script can see of the generator that it works on. -/
structure GeneratorView where
  inflector : Inflector
  options : Options
  fields : List FieldOutline

end FieldSchema
