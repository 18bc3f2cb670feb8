import FieldSchema.Pattern.Compiled
import FieldSchema.Text.Casing
import FieldSchema.Text.Quoted

/-!
# Inflection Rules

Singular and plural forms by rule.

A word is inflected by the first of three authorities that knows it. Words
that are the same in both forms come first and are left alone. Then come the
irregular pairs, and last the rules, each of which replaces the first match of
its pattern. Among the pairs and among the rules the latest has priority, so
a vocabulary is extended by adding to it.

The first two look only at the last segment of a word, the part after its
last underscore, and regardless of case; the rules look at the whole word. A
word that is already in the wanted form of an irregular pair is left alone
too: being unchanged is how a word says that it has no such form.

## Main definitions

* `Rule`: A pattern with a replacement.
* `RuleSet`: Rules, irregular pairs and uncountable words.
* `RuleSet.singularize`, `RuleSet.pluralize`: The two forms of a word.
-/

namespace FieldSchema

/-- A text that is refused as a pattern, and why. -/
structure InvalidPattern where
  source : String
  cause : Pattern.Refusal
deriving DecidableEq

namespace InvalidPattern

/-- The report on a text that is refused. -/
def message (e : InvalidPattern) : String :=
  "invalid inflection pattern " ++ String.ofList (Text.quoted e.source.toList)

end InvalidPattern

/-- A pattern with the template that replaces its first match. -/
structure Rule where
  pattern : Pattern
  replacement : String

namespace Rule

/-- The rule with a pattern and a replacement given as text. -/
def ofText (source replacement : String) : Except InvalidPattern Rule :=
  match Pattern.ofText source with
  | .ok pattern => .ok ⟨pattern, replacement⟩
  | .error cause => .error ⟨source, cause⟩

/-- The word with the first match replaced, if the rule matches it. -/
def replaceIn? (rule : Rule) (word : List Char) : Option (List Char) :=
  rule.pattern.replaceFirst? rule.replacement.toList word

end Rule

/-- The part of a word after its last underscore. -/
def lastSegment (word : List Char) : List Char :=
  (word.reverse.takeWhile (· != '_')).reverse

/-- The word with its first letter in upper case if the model begins with an upper-case letter. -/
def matchCase (model word : List Char) : List Char :=
  match model, word with
  | m :: _, c :: rest => if Text.isUppercase m then Text.uppercase c ++ rest else c :: rest
  | _, _ => word

/-- The two forms of an irregular word, in lower case. -/
structure IrregularPair where
  singular : List Char
  plural : List Char
deriving DecidableEq

/-- The form that a word is to be given. -/
inductive Form where
  | singular
  | plural
deriving DecidableEq

namespace IrregularPair

/-- The word in one form of the pair. -/
def get (pair : IrregularPair) : Form → List Char
  | .singular => pair.singular
  | .plural => pair.plural

end IrregularPair

/-- The other form. -/
def Form.opposite : Form → Form
  | .singular => .plural
  | .plural => .singular

/-- Rules, irregular pairs and uncountable words, each in the order in which they were added. -/
structure RuleSet where
  singulars : List Rule
  plurals : List Rule
  irregulars : List IrregularPair
  uncountables : List (List Char)

namespace RuleSet

/-- No rules: every word is left alone. -/
def empty : RuleSet := ⟨[], [], [], []⟩

/-- One more rule for singular forms, with priority over the others. -/
def addSingular (r : RuleSet) (rule : Rule) : RuleSet :=
  { r with singulars := r.singulars ++ [rule] }

/-- One more rule for plural forms, with priority over the others. -/
def addPlural (r : RuleSet) (rule : Rule) : RuleSet :=
  { r with plurals := r.plurals ++ [rule] }

/-- One more irregular pair, with priority over the others. -/
def addIrregular (r : RuleSet) (singular plural : String) : RuleSet :=
  let pair := ⟨Text.lowercase singular.toList, Text.lowercase plural.toList⟩
  { r with irregulars := r.irregulars ++ [pair] }

/-- One more word that is the same in both forms. -/
def addUncountable (r : RuleSet) (word : String) : RuleSet :=
  { r with uncountables := r.uncountables ++ [Text.lowercase word.toList] }

/-- The rules for a form. -/
def rulesFor (r : RuleSet) : Form → List Rule
  | .singular => r.singulars
  | .plural => r.plurals

/-- The last segment of the word is the same in both forms. -/
def isUncountable (r : RuleSet) (word : List Char) : Bool :=
  r.uncountables.contains (Text.lowercase (lastSegment word))

/-- The form of a word by the latest irregular pair that has its last segment. -/
def irregular? (r : RuleSet) (form : Form) (word : List Char) : Option (List Char) :=
  let segment := lastSegment word
  let lower := Text.lowercase segment
  r.irregulars.reverse.findSome? fun pair =>
    if lower = pair.get form then some word
    else if lower = pair.get form.opposite then
      some (word.take (word.length - segment.length) ++ matchCase segment (pair.get form))
    else none

/-- The form of a word by the latest rule that matches it. -/
def regular? (r : RuleSet) (form : Form) (word : List Char) : Option (List Char) :=
  (r.rulesFor form).reverse.findSome? fun rule => rule.replaceIn? word

/-- A word in the given form, or the word itself if it has none. -/
def inflect (r : RuleSet) (form : Form) (word : List Char) : List Char :=
  if word.isEmpty || r.isUncountable word then word
  else ((r.irregular? form word).or (r.regular? form word)).getD word

/-- The singular form of a word. -/
def singularize (r : RuleSet) (word : List Char) : List Char :=
  r.inflect .singular word

/-- The plural form of a word. -/
def pluralize (r : RuleSet) (word : List Char) : List Char :=
  r.inflect .plural word

end RuleSet

end FieldSchema
