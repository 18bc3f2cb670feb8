import Mathlib.Data.List.TakeWhile
import FieldSchema.Proofs.Inflection.Irregulars
import FieldSchema.Proofs.Schema.Refusal

/-!
# Uncountable Words

Which words can be made uncountable.

A word is registered as a whole, in lower case, and looked up by its last
segment. The two meet where a word is its own last segment, that is, where it
has no underscore. Such a word is uncountable from then on, whatever the
vocabulary knew before and whatever is added later, because uncountable words
are asked before all others and are never taken out. A word with an underscore
is registered as well, but no last segment of any word is like it. So it is
not uncountable for having been registered, and nothing else changes either.
The entry is never found.

What is said of an addition goes for an entry of a table. A field name without
underscores that a table lists cannot be declared as an array or a hash. A name
with underscores can be taken out of the table, and what is left describes the
same inflector.

## Main definitions

* `RuleSet.Alike`: Two vocabularies with the same rules and pairs and the same answers about
  uncountable words.
* `InflectionTable.unlist`: A table without an uncountable word.

## Theorems

* `lowerSegment_eq_lowercase_iff`: Which words are looked up as they are registered.
* `isUncountable_addAll`: What is uncountable remains so.
* `Alike.add`, `Alike.addAll`: Additions keep vocabularies alike.
* `Alike.inflect`: Alike vocabularies give all words the same forms.
* `uncountable_takes_effect_iff`: A registered word is uncountable if it has no underscore.
* `rain_boots_stay_countable`: A word that is registered in vain.
-/

namespace FieldSchema

theorem underscore_not_mem_lowerSegment (word : List Char) : '_' ∉ lowerSegment word := by
  rw [lowerSegment, Text.underscore_mem_lowercase_iff, lastSegment, List.mem_reverse]
  intro hmem
  exact absurd (List.mem_takeWhile_imp hmem) (by decide)

/-- A word is looked up as it is registered if it has no underscore. -/
theorem lowerSegment_eq_lowercase_iff (word : List Char) :
    lowerSegment word = Text.lowercase word ↔ '_' ∉ word := by
  constructor
  · intro heq
    rw [← Text.underscore_mem_lowercase_iff, ← heq]
    exact underscore_not_mem_lowerSegment word
  · intro hsingle
    rw [lowerSegment]
    exact congrArg Text.lowercase (lastSegment_append [] word (Or.inl rfl) hsingle)

/-- A word that is registered with an underscore is not found for any word. -/
theorem Addition.not_names_of_underscore (u : String) (hu : '_' ∈ u.toList) (form : Form)
    (word : List Char) : ¬(Addition.uncountable u).Names form word := by
  intro hnames
  refine underscore_not_mem_lowerSegment word ?_
  rw [hnames, Text.underscore_mem_lowercase_iff]
  exact hu

namespace RuleSet

/-- What is uncountable remains so, whatever is added. -/
theorem isUncountable_addAll (r : RuleSet) (word : List Char) (more : List Addition)
    (h : r.isUncountable word = true) : (r.addAll more).isUncountable word = true := by
  unfold addAll
  induction more generalizing r with
  | nil => exact h
  | cons a rest ih =>
      refine ih (r.add a) ?_
      rw [isUncountable_add, h, Bool.true_or]

/-- An uncountable word has no other form than itself. -/
theorem inflect_of_isUncountable (r : RuleSet) (form : Form) (word : List Char)
    (h : r.isUncountable word = true) : r.inflect form word = word := by
  rw [inflect, h, Bool.or_true, if_pos rfl]

/-- The vocabularies have the same rules and pairs, and the same words are uncountable in both. -/
structure Alike (r r' : RuleSet) : Prop where
  rules : ∀ form, r.rulesFor form = r'.rulesFor form
  irregulars : r.irregulars = r'.irregulars
  uncountable : ∀ word, r.isUncountable word = r'.isUncountable word

namespace Alike

variable {r r' : RuleSet}

/-- An addition keeps vocabularies alike. -/
theorem add (h : r.Alike r') (a : Addition) : (r.add a).Alike (r'.add a) where
  rules form := by
    have hsingulars : r.singulars = r'.singulars := h.rules .singular
    have hplurals : r.plurals = r'.plurals := h.rules .plural
    -- The addition puts the same entries on top of both.
    rw [add_eq_onto, add_eq_onto]
    cases form <;> simp only [rulesFor, onto, hsingulars, hplurals]
  irregulars := by
    rw [add_eq_onto, add_eq_onto]
    simp only [onto, h.irregulars]
  uncountable word := by
    rw [isUncountable_add, isUncountable_add, h.uncountable]

/-- So do any number of additions. -/
theorem addAll (h : r.Alike r') (more : List Addition) :
    (r.addAll more).Alike (r'.addAll more) := by
  unfold RuleSet.addAll
  induction more generalizing r r' with
  | nil => exact h
  | cons a rest ih => exact ih (h.add a)

/-- Alike vocabularies give all words the same forms. -/
theorem inflect (h : r.Alike r') (form : Form) (word : List Char) :
    r.inflect form word = r'.inflect form word := by
  simp only [RuleSet.inflect, irregular?, regular?, h.uncountable, h.irregulars, h.rules]

/-- Alike vocabularies make the same inflector. -/
theorem inflector (h : r.Alike r') : Inflector.ofRules r = Inflector.ofRules r' := by
  simp only [Inflector.ofRules, singularize, pluralize, h.inflect]

end Alike

/-- A word that is registered with an underscore leaves the vocabulary alike. -/
theorem alike_of_underscore (r : RuleSet) (u : String) (hu : '_' ∈ u.toList) :
    (r.add (.uncountable u)).Alike r where
  rules form := by cases form <;> rfl
  irregulars := rfl
  uncountable word := by
    have hsilent := silent_of_not_names .singular word (.uncountable u)
      (Addition.not_names_of_underscore u hu .singular word)
    rw [isUncountable_add, hsilent.1, Bool.or_false]

/-- A word that is registered without an underscore is uncountable. -/
theorem isUncountable_of_single (r : RuleSet) (u : String) (hu : '_' ∉ u.toList) :
    (r.add (.uncountable u)).isUncountable u.toList = true := by
  have halone : (Addition.uncountable u).alone.isUncountable u.toList = true :=
    (isUncountable_alone u.toList _).mpr ⟨u, rfl, (lowerSegment_eq_lowercase_iff _).mpr hu⟩
  rw [isUncountable_add, halone, Bool.or_true]

end RuleSet

namespace InflectionTable

/-- The table without an uncountable word. -/
def unlist (table : InflectionTable) (u : String) : InflectionTable :=
  { table with uncountables := table.uncountables.filter (· ≠ u) }

/-- A word without underscores that a table lists is uncountable in its vocabulary. -/
theorem isUncountable_of_mem (table : InflectionTable) (rules : RuleSet)
    (h : table.compile = .ok rules) (u : String) (hlisted : u ∈ table.uncountables)
    (hu : '_' ∉ u.toList) : rules.isUncountable u.toList = true := by
  obtain ⟨singulars, plurals, -, -, rfl⟩ := (compile_eq_ok_iff table rules).mp h
  have hentry : (table.entries singulars plurals).isUncountable u.toList = true := by
    rw [RuleSet.isUncountable_iff, (lowerSegment_eq_lowercase_iff _).mpr hu]
    exact List.mem_map_of_mem hlisted
  rw [RuleSet.isUncountable_onto, hentry, Bool.or_true]

/-- A word with an underscore can be taken out of a table. -/
theorem compile_unlist (table : InflectionTable) (rules : RuleSet) (h : table.compile = .ok rules)
    (u : String) (hu : '_' ∈ u.toList) :
    ∃ others, (table.unlist u).compile = .ok others ∧ rules.Alike others := by
  obtain ⟨singulars, plurals, hsingulars, hplurals, rfl⟩ := (compile_eq_ok_iff table rules).mp h
  refine ⟨_, (compile_eq_ok_iff _ _).mpr ⟨singulars, plurals, hsingulars, hplurals, rfl⟩,
    fun form => by cases form <;> rfl, rfl, fun word => ?_⟩
  have hentries : (table.entries singulars plurals).isUncountable word =
      ((table.unlist u).entries singulars plurals).isUncountable word := by
    rw [Bool.eq_iff_iff, RuleSet.isUncountable_iff, RuleSet.isUncountable_iff]
    simp only [entries, unlist, List.mem_map, List.mem_filter, decide_eq_true_eq]
    constructor
    · -- The entry that is found has no underscore, so it is not the one that was taken out.
      rintro ⟨v, hv, hword⟩
      refine ⟨v, ⟨hv, ?_⟩, hword⟩
      rintro rfl
      exact Addition.not_names_of_underscore v hu .singular word hword.symm
    · rintro ⟨v, ⟨hv, -⟩, hword⟩
      exact ⟨v, hv, hword⟩
  rw [RuleSet.isUncountable_onto, RuleSet.isUncountable_onto, hentries]
  rfl

end InflectionTable

/-- A word that is registered without an underscore is uncountable and is its own singular and
    plural form, now and after all further additions. One with an underscore never has any effect:
    all words are as they would be without it, and the word itself is uncountable only if it is so
    for another reason. For the words that a table lists this decides whether a field of that name
    can be declared as an array or a hash. -/
theorem uncountable_takes_effect_iff (u : String) :
    (∀ (r : RuleSet) (more : List Addition),
      let known := (r.add (.uncountable u)).addAll more
      let unknown := r.addAll more
      (known.isUncountable u.toList = true ↔
        '_' ∉ u.toList ∨ unknown.isUncountable u.toList = true) ∧
      ('_' ∉ u.toList →
        known.singularize u.toList = u.toList ∧ known.pluralize u.toList = u.toList) ∧
      ('_' ∈ u.toList → ∀ word, known.isUncountable word = unknown.isUncountable word ∧
        ∀ form, known.inflect form word = unknown.inflect form word)) ∧
    ∀ (table : InflectionTable) (rules : RuleSet), table.compile = .ok rules →
      u ∈ table.uncountables →
      ('_' ∉ u.toList → ∀ (g : Generator) (name : String), g.inflector = .ofRules rules →
        Generator.trimmed name = u →
        let fault := (firstViolated (g.nameConditions u)).getD (.cannotSingularize u)
        (∀ item schema callback,
          Generator.declareArray name item schema callback g = .error fault g) ∧
        ∀ key value schema callback,
          Generator.declareHash name key value schema callback g = .error fault g) ∧
      ('_' ∈ u.toList → ∃ others, (table.unlist u).compile = .ok others ∧
        Inflector.ofRules rules = Inflector.ofRules others) := by
  refine ⟨fun r more => ?_, fun table rules hcompile hlisted => ⟨?_, ?_⟩⟩
  · -- Both properties hold after the registration, and each is kept by the later additions.
    intro known unknown
    have hsingle : '_' ∉ u.toList → known.isUncountable u.toList = true := fun hu =>
      RuleSet.isUncountable_addAll _ _ more (RuleSet.isUncountable_of_single r u hu)
    have halike : '_' ∈ u.toList → known.Alike unknown := fun hu =>
      (RuleSet.alike_of_underscore r u hu).addAll more
    refine ⟨?_, fun hu => ?_, fun hu word => ?_⟩
    · by_cases hu : '_' ∈ u.toList
      · rw [(halike hu).uncountable]
        exact ⟨Or.inr, fun h => h.resolve_left (not_not_intro hu)⟩
      · exact iff_of_true (hsingle hu) (Or.inl hu)
    · exact ⟨RuleSet.inflect_of_isUncountable known .singular _ (hsingle hu),
        RuleSet.inflect_of_isUncountable known .plural _ (hsingle hu)⟩
    · exact ⟨(halike hu).uncountable word, fun form => (halike hu).inflect form word⟩
  · intro hu g name hinflector htrimmed fault
    have hsame : g.inflector.singularize (Generator.trimmed name) = Generator.trimmed name := by
      rw [hinflector, htrimmed]
      change String.ofList (rules.inflect .singular u.toList) = u
      rw [RuleSet.inflect_of_isUncountable rules .singular _
        (table.isUncountable_of_mem rules hcompile u hlisted hu), String.ofList_toList]
    subst htrimmed
    exact g.plural_refused_of_same name hsame
  · intro hu
    obtain ⟨others, hothers, halike⟩ := table.compile_unlist rules hcompile u hu
    exact ⟨others, hothers, halike.inflector⟩

/-- On top of English, `Metadata` is uncountable whatever is added to it, and a table that lists
    `metadata` keeps it from being declared. Its other entry can be taken out. -/
theorem uncountable_takes_effect_iff_metadata :
    let known := (RuleSet.english.add (.uncountable "Metadata")).addAll
      [.irregular "metadatum" "metadata", .uncountable "data"]
    (known.isUncountable "Metadata".toList = true ∧
      known.singularize "Metadata".toList = "Metadata".toList ∧
      known.pluralize "Metadata".toList = "Metadata".toList) ∧
    ∃ rules, ({ uncountables := ["metadata", "rain_boots"] } : InflectionTable).compile =
        .ok rules ∧
      Generator.declareArray "metadata" none none none (.new (.ofRules rules) {} 0) =
        .error (.cannotSingularize "metadata") (.new (.ofRules rules) {} 0) ∧
      ∃ others, ({ uncountables := ["metadata"] } : InflectionTable).compile = .ok others ∧
        Inflector.ofRules rules = Inflector.ofRules others := by
  let table : InflectionTable := { uncountables := ["metadata", "rain_boots"] }
  have hcompile : table.compile = .ok
      ((RuleSet.english.addUncountable "metadata").addUncountable "rain_boots") := rfl
  refine ⟨?_, _, hcompile, ?_, ?_⟩
  · obtain ⟨huncountable, hforms, -⟩ := (uncountable_takes_effect_iff "Metadata").1
      RuleSet.english [.irregular "metadatum" "metadata", .uncountable "data"]
    exact ⟨huncountable.mpr (Or.inl (by decide)), hforms (by decide)⟩
  · obtain ⟨hrefused, -⟩ :=
      (uncountable_takes_effect_iff "metadata").2 table _ hcompile (by decide)
    exact (hrefused (by decide) (.new _ {} 0) "metadata" rfl (by decide)).1 none none none
  · obtain ⟨-, hvain⟩ :=
      (uncountable_takes_effect_iff "rain_boots").2 table _ hcompile (by decide)
    exact hvain (by decide)

/-- English with `rain_boots` as an uncountable word still gives it a singular form, and a table
    that lists it lets it be declared. -/
theorem rain_boots_stay_countable :
    let known := RuleSet.english.add (.uncountable "rain_boots")
    (known.isUncountable "rain_boots".toList = false ∧
      known.singularize "rain_boots".toList = "rain_boot".toList) ∧
    ∃ rules, ({ uncountables := ["rain_boots"] } : InflectionTable).compile = .ok rules ∧
      ∃ g, Generator.declareArray "rain_boots" none none none (.new (.ofRules rules) {} 0) =
        .ok () g := by
  have hform : (RuleSet.english.add (.uncountable "rain_boots")).singularize
      "rain_boots".toList = "rain_boot".toList := by
    decide +kernel
  refine ⟨⟨by decide +kernel, hform⟩, RuleSet.english.add (.uncountable "rain_boots"), rfl, ?_⟩
  rw [Generator.declareArray_eq, Generator.withPlural_settled, Generator.settled_ok_iff,
    Generator.pluralConditions_kept_iff]
  have htrimmed : Generator.trimmed "rain_boots" = "rain_boots" := by decide
  rw [htrimmed]
  refine ⟨by decide, List.not_mem_nil, ?_, List.not_mem_nil, rfl⟩
  change String.ofList (RuleSet.singularize _ "rain_boots".toList) ≠ "rain_boots"
  rw [hform]
  decide

end FieldSchema
