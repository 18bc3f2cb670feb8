import FieldSchema.Inflection.English

/-!
# Inflection Tables

A vocabulary as it is written down, and inflectors made from one.

A table is data: its patterns are texts, some of which may describe none.
Compiling it adds its entries on top of its base, the rules before the pairs
and the pairs before the uncountable words, and the first pattern that is none
is reported, those for singular forms first.

An inflector is any pair of functions on words, so a schema can be given a
vocabulary that no rule set describes. Besides rule sets there are inflectors
that know singular forms only and leave every word alone when a plural is
asked for. Two of these need no code: a list of words, of which the last entry
counts if a word is listed twice, and a suffix that plurals have.

## Main definitions

* `InflectionTable`: A vocabulary as data.
* `InflectionTable.compile`: The rule set that a table describes.
* `Inflector`: What singular and plural forms are taken from.
* `Inflector.ofRules`, `Inflector.ofSingulars`: Inflectors of a rule set and of a function.
-/

namespace FieldSchema

/-- What a table is added on top of. -/
inductive Base where
  | english
  | empty
deriving DecidableEq

/-- A rule as a table writes it. -/
structure RuleEntry where
  pattern : String
  replacement : String
deriving DecidableEq

/-- An irregular pair as a table writes it. -/
structure IrregularEntry where
  singular : String
  plural : String
deriving DecidableEq

/-- A vocabulary as data. -/
structure InflectionTable where
  base : Base := .english
  singulars : List RuleEntry := []
  plurals : List RuleEntry := []
  irregulars : List IrregularEntry := []
  uncountables : List String := []
deriving DecidableEq

/-- The rule set below the entries of a table. -/
def Base.rules : Base → RuleSet
  | .english => .english
  | .empty => .empty

/-- The rule that an entry describes. -/
def RuleEntry.compile (entry : RuleEntry) : Except InvalidPattern Rule :=
  Rule.ofText entry.pattern entry.replacement

/-- The rule set that a table describes. -/
def InflectionTable.compile (table : InflectionTable) : Except InvalidPattern RuleSet := do
  let singulars ← table.singulars.mapM RuleEntry.compile
  let plurals ← table.plurals.mapM RuleEntry.compile
  let rules := singulars.foldl RuleSet.addSingular table.base.rules
  let rules := plurals.foldl RuleSet.addPlural rules
  let rules := table.irregulars.foldl (fun r e => r.addIrregular e.singular e.plural) rules
  return table.uncountables.foldl RuleSet.addUncountable rules

/-- What singular and plural forms are taken from; either gives a word back that has no such form. -/
structure Inflector where
  singularize : String → String
  pluralize : String → String

namespace Inflector

/-- The inflector that follows a rule set. -/
def ofRules (r : RuleSet) : Inflector where
  singularize word := .ofList (r.singularize word.toList)
  pluralize word := .ofList (r.pluralize word.toList)

/-- The English inflector. -/
def english : Inflector := ofRules .english

/-- An inflector that knows singular forms only. -/
def ofSingulars (singularize : String → String) : Inflector where
  singularize := singularize
  pluralize word := word

/-- The inflector of a list of plural words, each with its singular. -/
def ofWords (plurals : List (String × String)) : Inflector :=
  ofSingulars fun word => (plurals.reverse.lookup word).getD word

/-- The text without the ending, or the text itself if it does not end in it. -/
def stripEnding (ending s : List Char) : List Char :=
  if ending.isSuffixOf s then s.take (s.length - ending.length) else s

/-- The inflector of words whose plural adds an ending. -/
def ofSuffix (ending : String) : Inflector :=
  ofSingulars fun word => .ofList (stripEnding ending.toList word.toList)

end Inflector

end FieldSchema
