import FieldSchema.Inflection.Rules

/-!
# English

The vocabulary that is used unless another is given.

The rules stand with the lowest priority first: a bare final `s` is removed
or added only if nothing more specific applies.

## Main definitions

* `English.singulars`, `English.plurals`: The rules, as pattern and template.
* `English.irregulars`: The irregular pairs.
* `English.uncountables`: The words that are the same in both forms.
* `RuleSet.english`: All of them as a rule set.
-/

namespace FieldSchema

namespace English

/-- The rules for singular forms, lowest priority first. -/
def singulars : List (String × String) :=
  [("(?i)s$", ""),
   ("(?i)(ss)$", "$\x7b1\x7d"),
   ("(?i)(n)ews$", "$\x7b1\x7dews"),
   ("(?i)([ti])a$", "$\x7b1\x7dum"),
   ("(?i)((a)naly|(b)a|(d)iagno|(p)arenthe|(p)rogno|(s)ynop|(t)he)(sis|ses)$", "$\x7b1\x7dsis"),
   ("(?i)(^analy)(sis|ses)$", "$\x7b1\x7dsis"),
   ("(?i)([^f])ves$", "$\x7b1\x7dfe"),
   ("(?i)(hive)s$", "$\x7b1\x7d"),
   ("(?i)(tive)s$", "$\x7b1\x7d"),
   ("(?i)([lr])ves$", "$\x7b1\x7df"),
   ("(?i)([^aeiouy]|qu)ies$", "$\x7b1\x7dy"),
   ("(?i)(s)eries$", "$\x7b1\x7deries"),
   ("(?i)(m)ovies$", "$\x7b1\x7dovie"),
   ("(?i)(x|ch|ss|sh)es$", "$\x7b1\x7d"),
   ("(?i)^(m|l)ice$", "$\x7b1\x7douse"),
   ("(?i)(bus)(es)?$", "$\x7b1\x7d"),
   ("(?i)(o)es$", "$\x7b1\x7d"),
   ("(?i)(shoe)s$", "$\x7b1\x7d"),
   ("(?i)(cris|test)(is|es)$", "$\x7b1\x7dis"),
   ("(?i)^(a)x[ie]s$", "$\x7b1\x7dxis"),
   ("(?i)(octop|vir)(us|i)$", "$\x7b1\x7dus"),
   ("(?i)(alias|status)(es)?$", "$\x7b1\x7d"),
   ("(?i)^(ox)en", "$\x7b1\x7d"),
   ("(?i)(vert|ind)ices$", "$\x7b1\x7dex"),
   ("(?i)(matr)ices$", "$\x7b1\x7dix"),
   ("(?i)(quiz)zes$", "$\x7b1\x7d"),
   ("(?i)(database)s$", "$\x7b1\x7d")]

/-- The rules for plural forms, lowest priority first. -/
def plurals : List (String × String) :=
  [("$", "s"),
   ("(?i)s$", "s"),
   ("(?i)^(ax|test)is$", "$\x7b1\x7des"),
   ("(?i)(octop|vir)us$", "$\x7b1\x7di"),
   ("(?i)(octop|vir)i$", "$\x7b1\x7di"),
   ("(?i)(alias|status)$", "$\x7b1\x7des"),
   ("(?i)(bu)s$", "$\x7b1\x7dses"),
   ("(?i)(buffal|tomat)o$", "$\x7b1\x7does"),
   ("(?i)([ti])um$", "$\x7b1\x7da"),
   ("(?i)([ti])a$", "$\x7b1\x7da"),
   ("(?i)sis$", "ses"),
   ("(?i)(?:([^f])fe|([lr])f)$", "$\x7b1\x7d$\x7b2\x7dves"),
   ("(?i)(hive)$", "$\x7b1\x7ds"),
   ("(?i)([^aeiouy]|qu)y$", "$\x7b1\x7dies"),
   ("(?i)(x|ch|ss|sh)$", "$\x7b1\x7des"),
   ("(?i)(matr|vert|ind)(?:ix|ex)$", "$\x7b1\x7dices"),
   ("(?i)^(m|l)ouse$", "$\x7b1\x7dice"),
   ("(?i)^(m|l)ice$", "$\x7b1\x7dice"),
   ("(?i)^(ox)$", "$\x7b1\x7den"),
   ("(?i)^(oxen)$", "$\x7b1\x7d"),
   ("(?i)(quiz)$", "$\x7b1\x7dzes")]

/-- The irregular pairs, each with its singular first. -/
def irregulars : List (String × String) :=
  [("person", "people"),
   ("man", "men"),
   ("child", "children"),
   ("sex", "sexes"),
   ("move", "moves"),
   ("zombie", "zombies")]

/-- The words that are the same in both forms. -/
def uncountables : List String :=
  ["equipment", "information", "rice", "money", "species", "series", "fish", "sheep", "jeans",
   "police"]

/-- The rules that a list of patterns and templates describes. -/
def compile (rules : List (String × String)) : List Rule :=
  rules.filterMap fun (source, replacement) => (Rule.ofText source replacement).toOption

end English

/-- The English vocabulary. -/
def RuleSet.english : RuleSet :=
  let rules : RuleSet :=
    ⟨English.compile English.singulars, English.compile English.plurals, [], []⟩
  let rules := English.irregulars.foldl (fun r pair => r.addIrregular pair.1 pair.2) rules
  English.uncountables.foldl RuleSet.addUncountable rules

end FieldSchema
