import FieldSchema.Proofs.Inflection.Endings
import FieldSchema.Proofs.Inflection.Irregulars
import FieldSchema.Proofs.Schema.Naming
import FieldSchema.Proofs.Schema.Refusal

/-!
# Regular Nouns in English

Which regular nouns English takes for singular, and gets back from their
plural.

The words are those in small letters that end in one of eight letters after
which a plural takes an `s` and nothing else. For nearly all of them the
vocabulary does what one expects. Their plural has an `s` more, the singular
form of that is the word again, and the word itself has no singular form, so
that it cannot be declared as an array or a hash. All but two of the entries
of the vocabulary are about other endings, and that is computed for all rules
at once.

The first of the two is the pair of `child`, which is settled before any rule
is asked, and works just as well. The second is the singular rule about
`oxen`. It has no mark for the end of the word, as all other singular rules
and its own counterpart among the plurals have, so it applies to every word
that begins with these four letters. The singular form of `oxen_cart` is
`ox_cart`, and so a word that is singular already can be declared.

## Main definitions

* `English.IsRegularNoun`: A word with a regular plural, as far as its letters go.
* `English.ReadsAsOxen`: The rule about `oxen` gets to see the word.
* `Generator.RefusesPlural`, `Generator.GivesSingle`: What can be declared under a name.

## Theorems

* `singularize_regular`, `pluralize_regular`: The forms of these words.
* `singularize_pluralize_regular`: What becomes of their plurals.
* `declares_regular`: What can be declared with the words that come out right.
* `regular_noun_iff`: Which words come out right, and what becomes of the others.
* `oxen_cart_is_no_singular`: A word that does not.
-/

namespace FieldSchema

open Pattern Text

namespace English

/-- Letters after which a plural takes an `s` and nothing else. -/
def regularEndings : List Char := ['b', 'd', 'g', 'k', 'l', 'p', 'r', 't']

/-- The word is in small letters and underscores, it ends in a letter with a regular plural, and its
    last segment is not uncountable. -/
structure IsRegularNoun (word : List Char) : Prop where
  letters : ∀ c ∈ word, c.isLower = true ∨ c = '_'
  ending : ∃ c ∈ word.getLast?, c ∈ regularEndings
  countable : RuleSet.english.isUncountable word = false

/-- Whether a word is a regular noun can be computed. -/
theorem isRegularNoun_iff (word : List Char) :
    IsRegularNoun word ↔ word.all (fun c => c.isLower || c == '_') = true ∧
      word.getLast?.any regularEndings.contains = true ∧
        RuleSet.english.isUncountable word = false := by
  simp only [List.all_eq_true, Bool.or_eq_true, beq_iff_eq, Option.any_eq_true,
    List.contains_iff_mem]
  exact ⟨fun h => ⟨h.letters, h.ending, h.countable⟩, fun h => ⟨h.1, h.2.1, h.2.2⟩⟩

instance (word : List Char) : Decidable (IsRegularNoun word) :=
  decidable_of_iff _ (isRegularNoun_iff word).symm

/-- The word begins with `oxen`, and no irregular pair settles it before. -/
def ReadsAsOxen (word : List Char) : Prop :=
  "oxen".toList <+: word ∧ lastSegment word ≠ "child".toList

instance (word : List Char) : Decidable (ReadsAsOxen word) :=
  inferInstanceAs (Decidable (_ ∧ _))

/-- Where the rule for a final `s` is asked last, the others are not about regular nouns or their
    plurals, but for the one about `oxen`. -/
def missRegular : List Rule → Bool
  | [] => false
  | first :: others => first.misses [regularEndings] && others.all fun rule =>
      if isOxen rule then rule.replacement == "$\x7b1\x7d"
      else rule.misses [regularEndings] && rule.misses [['s'], regularEndings]

theorem singulars_missRegular : missRegular (compile singulars) = true := by
  decide +kernel

/-- The rule that is asked last adds an `s`, and the others are not about regular nouns. -/
def addRegular : List Rule → Bool
  | [] => false
  | first :: others => isAdding first && others.all fun rule => rule.misses [regularEndings]

theorem plurals_addRegular : addRegular (compile plurals) = true := by
  decide +kernel

/-- No uncountable word and no form of a pair is the plural of a regular noun, and there is only one
    form with its ending. -/
theorem vocabulary_regular :
    (∀ known ∈ RuleSet.english.uncountables, ¬EndsIn [['s'], regularEndings] known) ∧
      ∀ pair ∈ RuleSet.english.irregulars, ∀ known ∈ pair.forms,
        ¬EndsIn [['s'], regularEndings] known ∧
          (EndsIn [regularEndings] known → known = "child".toList) := by
  decide +kernel

theorem endsIn_concat (front : List Char) (c : Char) (hc : c ∈ regularEndings) :
    EndsIn [regularEndings] (front ++ [c]) ∧
      EndsIn [['s'], regularEndings] (front ++ [c] ++ ['s']) := by
  simp [EndsIn, beginsIn, hc]

section

variable (word : List Char) (h : IsRegularNoun word)

include h

theorem small_of_regular : ∀ c ∈ word, IsSmall c ∧ isSpace c = false := by
  intro c hc
  have hletter : c.toNat < 128 := by
    rcases h.letters c hc with hlower | rfl
    · have hle : c.toNat ≤ 122 := of_decide_eq_true (Bool.and_eq_true_iff.mp hlower).2
      omega
    · decide
  have hall := forall_ascii (fun c => c.isLower = true ∨ c = '_' →
    c.isUpper = false ∧ isSpace c = false) (by decide +kernel) c hletter (h.letters c hc)
  exact ⟨⟨hletter, hall.1⟩, hall.2⟩

/-- The word and its last segment end in the same letter, and the segment is in lower case, with or
    without an `s` behind it. -/
theorem exists_segment : ∃ c front, c ∈ regularEndings ∧ word = front ++ [c] ∧
    lowerSegment word = lastSegment word ∧ lastSegment word = lastSegment front ++ [c] ∧
      lowerSegment (word ++ ['s']) = lastSegment word ++ ['s'] := by
  obtain ⟨c, hlast, hc⟩ := h.ending
  obtain ⟨front, rfl⟩ := List.getLast?_eq_some_iff.mp hlast
  obtain ⟨q, -, hword⟩ := exists_segmentPrefix (front ++ [c])
  have hsmall : ∀ d ∈ lastSegment (front ++ [c]), IsSmall d := by
    intro d hd
    refine (small_of_regular _ h d ?_).1
    rw [hword]
    exact List.mem_append_right q hd
  have hne : ∀ d ∈ regularEndings, d ≠ '_' := by simp [regularEndings]
  refine ⟨c, front, hc, rfl, lowercase_of_small _ hsmall, lastSegment_concat front c (hne c hc), ?_⟩
  rw [lowerSegment, lastSegment_concat _ 's' (by decide)]
  exact lowercase_of_small _ (List.forall_mem_append.mpr
    ⟨hsmall, List.forall_mem_singleton.mpr (by decide)⟩)

/-- Of the irregular pairs only that of `child` has a form like a regular noun. -/
theorem asksRules_of_regular (hchild : lastSegment word ≠ "child".toList) :
    RuleSet.english.AsksRules word := by
  obtain ⟨c, front, hc, hword, hlower, hsegment, -⟩ := exists_segment word h
  refine ⟨?_, h.countable, ?_⟩
  · rw [hword]
    exact List.concat_ne_nil c front
  · -- A pair would have the last segment as a form, which ends as only `child` does.
    rintro ⟨pair, hpair, form, hform⟩
    have honly := (vocabulary_regular.2 pair hpair _ (pair.get_mem_forms form)).2
    rw [← hform, hlower, hsegment] at honly
    rw [hsegment] at hchild
    exact hchild (honly (endsIn_concat _ c hc).1)

/-- No entry but a rule is about a plural of a regular noun. -/
theorem asksRules_of_plural : RuleSet.english.AsksRules (word ++ ['s']) := by
  obtain ⟨c, front, hc, -, -, hsegment, hlower⟩ := exists_segment word h
  rw [hsegment] at hlower
  have hends := (endsIn_concat (lastSegment front) c hc).2
  rw [← hlower] at hends
  refine ⟨List.concat_ne_nil 's' word, ?_, ?_⟩
  · rw [← Bool.not_eq_true, RuleSet.isUncountable_iff]
    exact fun hmem => vocabulary_regular.1 _ hmem hends
  · rintro ⟨pair, hpair, form, hform⟩
    rw [hform] at hends
    exact (vocabulary_regular.2 pair hpair _ (pair.get_mem_forms form)).1 hends

/-- The rules for singular forms have nothing to say about a regular noun, and take the `s` from its
    plural, unless the word begins with `oxen`. -/
theorem regular?_singular :
    RuleSet.english.regular? .singular word = oxenForm? word ∧
      RuleSet.english.regular? .singular (word ++ ['s']) =
        (oxenForm? (word ++ ['s'])).or (some word) := by
  obtain ⟨first, others, hrules, hfinal, hoxen, -⟩ := exists_rules
  have hchecked := singulars_missRegular
  rw [hrules, missRegular, Bool.and_eq_true, List.all_eq_true] at hchecked
  obtain ⟨hfirst, hothers⟩ := hchecked
  have hreplacement : ∀ rule ∈ others, isOxen rule = true → rule.replacement = "$\x7b1\x7d" := by
    intro rule hmem hrule
    have hcase := hothers rule hmem
    rw [if_pos hrule] at hcase
    exact beq_iff_eq.mp hcase
  have hmisses : ∀ rule ∈ others, isOxen rule = true ∨
      (rule.misses [regularEndings] = true ∧ rule.misses [['s'], regularEndings] = true) := by
    intro rule hmem
    by_cases hrule : isOxen rule = true
    · exact Or.inl hrule
    · have hcase := hothers rule hmem
      rw [if_neg hrule, Bool.and_eq_true] at hcase
      exact Or.inr hcase
  have hsmall : ∀ c ∈ word, c.isUpper = false := fun c hc => (small_of_regular word h c hc).1.2
  obtain ⟨c, front, hc, hword, -⟩ := exists_segment word h
  have hends := endsIn_concat front c hc
  rw [← hword] at hends
  -- The rule that is asked last takes an `s` away, and there is one in the plural only.
  constructor
  · rw [regular?_singulars word first others hrules,
      findSome?_of_misses others _ hoxen hreplacement
        (fun rule hmem => (hmisses rule hmem).imp_right And.left) word hsmall hends.1,
      first.replaceIn?_of_misses _ hfirst word hends.1, Option.or_none]
  · have hsmall' : ∀ c ∈ word ++ ['s'], c.isUpper = false :=
      List.forall_mem_append.mpr ⟨hsmall, List.forall_mem_singleton.mpr (by decide)⟩
    rw [regular?_singulars _ first others hrules,
      findSome?_of_misses others _ hoxen hreplacement
        (fun rule hmem => (hmisses rule hmem).imp_right And.right) _ hsmall' hends.2,
      (final_replaceIn?_iff first hfinal _ word).mpr ⟨'s', by decide, rfl⟩]

/-- The rules for plural forms add an `s` to a regular noun. -/
theorem regular?_plural : RuleSet.english.regular? .plural word = some (word ++ ['s']) := by
  have hchecked := plurals_addRegular
  have hplurals : RuleSet.english.plurals = compile plurals := rfl
  rw [RuleSet.regular?, RuleSet.rulesFor, hplurals]
  cases hrules : compile plurals with
  | nil =>
      rw [hrules] at hchecked
      exact absurd hchecked Bool.false_ne_true
  | cons first others =>
      rw [hrules, addRegular, Bool.and_eq_true, List.all_eq_true] at hchecked
      obtain ⟨hfirst, hothers⟩ := hchecked
      obtain ⟨c, front, hc, hword, -⟩ := exists_segment word h
      have hends := (endsIn_concat front c hc).1
      rw [← hword] at hends
      -- All rules that are asked before the last one are about other endings.
      have hnone : (others.reverse.findSome? fun rule => rule.replaceIn? word) = none :=
        List.findSome?_eq_none_iff.mpr fun rule hmem =>
          rule.replaceIn?_of_misses _ (hothers rule (List.mem_reverse.mp hmem)) word hends
      rw [List.reverse_cons, List.findSome?_append, hnone, Option.none_or,
        List.findSome?_singleton, adding_replaceIn? first hfirst]

end

/-- The pair of `child` settles all words that end in that segment. -/
theorem forms_of_child (word : List Char) (hchild : lastSegment word = "child".toList) :
    RuleSet.english.singularize word = word ∧
      RuleSet.english.pluralize word = word ++ "ren".toList ∧
        RuleSet.english.singularize (word ++ "ren".toList) = word := by
  obtain ⟨q, hq, hword⟩ := exists_segmentPrefix word
  rw [hchild] at hword
  -- The word ends in the singular form of an irregular pair, and with the ending added in the
  -- plural form of it.
  have hpair : (⟨"child".toList, "children".toList⟩ : IrregularPair) ∈
      RuleSet.english.irregulars := by decide +kernel
  have hforms := fun own form => RuleSet.inflect_form RuleSet.english RuleSet.english_hasPlainPairs
    _ hpair own form q hq
  have hmore : word ++ "ren".toList = q ++ "children".toList := by
    rw [hword, List.append_assoc]
    rfl
  refine ⟨?_, ?_, ?_⟩
  · rw [hword]
    exact hforms .singular .singular
  · rw [hmore, hword]
    exact hforms .singular .plural
  · rw [hmore, hword]
    exact hforms .plural .singular

/-- The plural of a regular noun has an `s` more, or `ren` if it is that of `child`. -/
theorem pluralize_regular (word : List Char) (h : IsRegularNoun word) :
    RuleSet.english.pluralize word =
      word ++ if lastSegment word = "child".toList then "ren".toList else ['s'] := by
  by_cases hchild : lastSegment word = "child".toList
  · rw [if_pos hchild]
    exact (forms_of_child word hchild).2.1
  · rw [if_neg hchild, RuleSet.pluralize,
      RuleSet.inflect_of_asksRules .plural word _ (asksRules_of_regular word h hchild),
      regular?_plural word h, Option.getD_some]

/-- A regular noun has no singular form, unless it reads as `oxen` and loses two letters. -/
theorem singularize_regular (word : List Char) (h : IsRegularNoun word) :
    RuleSet.english.singularize word =
      if ReadsAsOxen word then "ox".toList ++ word.drop 4 else word := by
  by_cases hchild : lastSegment word = "child".toList
  · rw [if_neg fun hoxen => hoxen.2 hchild]
    exact (forms_of_child word hchild).1
  · rw [RuleSet.singularize,
      RuleSet.inflect_of_asksRules .singular word _ (asksRules_of_regular word h hchild),
      (regular?_singular word h).1, oxenForm?]
    by_cases hbegins : "oxen".toList <+: word
    · rw [if_pos hbegins, if_pos ⟨hbegins, hchild⟩, Option.getD_some]
    · rw [if_neg hbegins, if_neg fun hoxen => hbegins hoxen.1, Option.getD_none]

/-- Its plural has the word itself as the singular form, with the same exception. -/
theorem singularize_pluralize_regular (word : List Char) (h : IsRegularNoun word) :
    RuleSet.english.singularize (RuleSet.english.pluralize word) =
      if ReadsAsOxen word then "ox".toList ++ word.drop 4 ++ ['s'] else word := by
  rw [pluralize_regular word h]
  by_cases hchild : lastSegment word = "child".toList
  · rw [if_pos hchild, if_neg fun hoxen => hoxen.2 hchild]
    exact (forms_of_child word hchild).2.2
  · rw [if_neg hchild, RuleSet.singularize,
      RuleSet.inflect_of_asksRules .singular _ _ (asksRules_of_plural word h),
      (regular?_singular word h).2, oxenForm?_plural word, oxenForm?]
    by_cases hbegins : "oxen".toList <+: word
    · rw [if_pos hbegins, if_pos ⟨hbegins, hchild⟩]
      rfl
    · rw [if_neg hbegins, if_neg fun hoxen => hbegins hoxen.1]
      rfl

end English

namespace Generator

/-- Neither an array nor a hash can be declared under the name, because it has no singular form. -/
def RefusesPlural (g : Generator) (name : String) : Prop :=
  (∀ item schema callback,
    declareArray name item schema callback g = .error (.cannotSingularize name) g) ∧
  ∀ key value schema callback,
    declareHash name key value schema callback g = .error (.cannotSingularize name) g

/-- An array or a hash can be declared under the plural name, and has one accessor more, under the
    singular name. -/
def GivesSingle (g : Generator) (plural singular : String) : Prop :=
  (∀ item schema callback, (item.isSome && schema.isSome) = false → ∃ spec n,
    declareArray plural item schema callback g = .ok () (g.extend spec n) ∧
      NameMap.names spec.operations = [plural, singular]) ∧
  ∀ key value schema callback, (value.isSome && schema.isSome) = false → ∃ spec n,
    declareHash plural key value schema callback g = .ok () (g.extend spec n) ∧
      NameMap.names spec.operations = [plural, singular]

section

variable (g : Generator) (name : String) (hneat : Neat name.toList)
  (hfree : name ∉ NameMap.names g.operations)

include hneat hfree

/-- A free name that is its own singular form is refused. -/
theorem refusesPlural_of_same (hsame : g.inflector.singularize name = name) :
    g.RefusesPlural name := by
  have htrimmed : trimmed name = name := by
    rw [trimmed, hneat.2, String.ofList_toList]
  have hkept : firstViolated (g.nameConditions name) = none :=
    (nameConditions_kept_iff g name).mpr ⟨fun hnil => hneat.1 (by rw [hnil]; rfl), hfree⟩
  have hrefused := g.plural_refused_of_same name (by rw [htrimmed, hsame])
  rw [htrimmed, hkept] at hrefused
  exact hrefused

/-- A free name with another singular form, which is free as well, is accepted. -/
theorem givesSingle_of_other (singular : String) (hform : g.inflector.singularize name = singular)
    (hne : singular ≠ name) (hsingle : singular ∉ NameMap.names g.operations) :
    g.GivesSingle name singular := by
  have htrimmed : trimmed name = name := by
    rw [trimmed, hneat.2, String.ofList_toList]
  have hempty : name ≠ "" := fun hnil => hneat.1 (by rw [hnil]; rfl)
  -- Nothing stands against the declaration: both names are free, and they differ.
  have hresult : ∀ conflict schema spec, g.withPlural name false conflict schema spec =
      .ok () (g.extend (spec name singular) (g.cellAfter schema)) := by
    intro conflict schema spec
    subst hform
    have hkept := (pluralConditions_kept_iff g name false conflict).mpr
      ⟨hempty, hfree, hne, hsingle, rfl⟩
    rw [withPlural_settled, htrimmed, settled, hkept]
  refine ⟨fun item schema callback hconflict => ?_, fun key value schema callback hconflict => ?_⟩
  · rw [declareArray_eq, hconflict, hresult]
    exact ⟨_, _, rfl, FieldSpec.names_operations _⟩
  · rw [declareHash_eq, hconflict, hresult]
    exact ⟨_, _, rfl, FieldSpec.names_operations _⟩

end

end Generator

namespace English

/-- A regular noun or the plural of one is neat, because there is no white space in it. -/
theorem neat_of_regular (word : List Char) (h : IsRegularNoun word) :
    Neat word ∧ Neat (RuleSet.english.pluralize word) := by
  obtain ⟨c, front, -, hword, -⟩ := exists_segment word h
  have hsolid : ∀ d ∈ word, Solid d := fun d hd => (small_of_regular word h d hd).2
  -- Every character is solid, so the word has solid ends, with or without the ending of the plural.
  have hneat : ∀ more : List Char, (∀ d ∈ more, Solid d) → Neat (word ++ more) := by
    intro more hmore
    have hall : ∀ d ∈ word ++ more, Solid d := List.forall_mem_append.mpr ⟨hsolid, hmore⟩
    have hne : word ++ more ≠ [] := by simp [hword]
    refine (neat_iff_ends _).mpr ⟨⟨_, List.head?_eq_some_head hne, hall _ (List.head_mem hne)⟩,
      ⟨_, List.getLast?_eq_some_getLast hne, hall _ (List.getLast_mem hne)⟩⟩
  have hsame := hneat [] fun d hd => absurd hd List.not_mem_nil
  rw [List.append_nil] at hsame
  refine ⟨hsame, ?_⟩
  rw [pluralize_regular word h]
  have hadded : ∀ more : List Char, more.any isSpace = false → ∀ d ∈ more, Solid d :=
    fun more hmore d hd => eq_false_of_ne_true (List.any_eq_false.mp hmore d hd)
  exact hneat _ (hadded _ (by split <;> decide))

/-- A word that reads as `oxen` loses two letters, in both numbers. -/
theorem loses_of_readsAsOxen (word : List Char) (h : IsRegularNoun word)
    (hoxen : ReadsAsOxen word) : ∃ rest, word = "oxen".toList ++ rest ∧
      RuleSet.english.singularize word = "ox".toList ++ rest ∧
      RuleSet.english.singularize (RuleSet.english.pluralize word) =
        "ox".toList ++ rest ++ ['s'] := by
  have hsingular := singularize_regular word h
  have hback := singularize_pluralize_regular word h
  obtain ⟨rest, hrest⟩ := hoxen.1
  rw [if_pos hoxen] at hsingular hback
  refine ⟨rest, hrest.symm, ?_, ?_⟩
  · rw [hsingular, ← hrest]
    rfl
  · rw [hback, ← hrest]
    rfl

/-- All other words are their own singular form and that of their plural. -/
theorem keeps_of_not_readsAsOxen (word : List Char) (h : IsRegularNoun word)
    (hnot : ¬ReadsAsOxen word) : RuleSet.english.singularize word = word ∧
      RuleSet.english.singularize (RuleSet.english.pluralize word) = word := by
  have hsingular := singularize_regular word h
  have hback := singularize_pluralize_regular word h
  rw [if_neg hnot] at hsingular hback
  exact ⟨hsingular, hback⟩

/-- Such a word cannot be declared with a plural name, and its plural gives an accessor for it. -/
theorem declares_regular (word : List Char) (h : IsRegularNoun word) (hnot : ¬ReadsAsOxen word)
    (g : Generator) (name : String) (hinflector : g.inflector = .english)
    (hname : name.toList = word) (hfree : name ∉ NameMap.names g.operations) :
    g.RefusesPlural name ∧
      (g.inflector.pluralize name ∉ NameMap.names g.operations →
        g.GivesSingle (g.inflector.pluralize name) name) := by
  obtain ⟨hsingular, hback⟩ := keeps_of_not_readsAsOxen word h hnot
  obtain ⟨hneat, hneatPlural⟩ := neat_of_regular word h
  have hplural : (Inflector.english.pluralize name).toList = RuleSet.english.pluralize word := by
    rw [← hname]
    exact String.toList_ofList
  have hsame : g.inflector.singularize name = name := by
    refine String.toList_injective ?_
    rw [hinflector, Inflector.english_singularize_toList, hname]
    exact hsingular
  rw [← hname] at hneat
  refine ⟨g.refusesPlural_of_same name hneat hfree hsame, ?_⟩
  rw [hinflector]
  intro hpluralFree
  rw [← hplural] at hneatPlural
  refine g.givesSingle_of_other _ hneatPlural hpluralFree name ?_ ?_ hfree
  · refine String.toList_injective ?_
    rw [hinflector, Inflector.english_singularize_toList, hplural, hname]
    exact hback
  · -- The plural is longer than the word.
    intro heq
    have hlength := congrArg (fun name => name.toList.length) heq
    simp only [hplural, hname, pluralize_regular word h, List.length_append] at hlength
    split at hlength <;> simp at hlength

/-- English is right about a regular noun exactly if the rule about `oxen` does not get to see it.
    Then the word cannot be declared with a plural name, and its plural gives one accessor more,
    under the word. Otherwise the word and its plural lose two letters. -/
theorem regular_noun_iff (word : List Char) (h : IsRegularNoun word) :
    (RuleSet.english.singularize word = word ↔ ¬ReadsAsOxen word) ∧
      (RuleSet.english.singularize (RuleSet.english.pluralize word) = word ↔ ¬ReadsAsOxen word) ∧
      (ReadsAsOxen word → ∃ rest, word = "oxen".toList ++ rest ∧
        RuleSet.english.singularize word = "ox".toList ++ rest ∧
        RuleSet.english.singularize (RuleSet.english.pluralize word) =
          "ox".toList ++ rest ++ ['s']) ∧
      ∀ (g : Generator) (name : String), g.inflector = .english → name.toList = word →
        ¬ReadsAsOxen word → name ∉ NameMap.names g.operations →
          g.RefusesPlural name ∧
            (g.inflector.pluralize name ∉ NameMap.names g.operations →
              g.GivesSingle (g.inflector.pluralize name) name) := by
  have hkept := keeps_of_not_readsAsOxen word h
  have hlost := loses_of_readsAsOxen word h
  refine ⟨⟨fun hsame hoxen => ?_, fun hnot => (hkept hnot).1⟩,
    ⟨fun hsame hoxen => ?_, fun hnot => (hkept hnot).2⟩, hlost, ?_⟩
  -- What is left of the word is shorter, even with the `s` of the plural.
  · obtain ⟨rest, hword, hless, -⟩ := hlost hoxen
    rw [hsame] at hless
    have hlength := congrArg List.length (hword.symm.trans hless)
    simp at hlength
    omega
  · obtain ⟨rest, hword, -, hless⟩ := hlost hoxen
    rw [hsame] at hless
    have hlength := congrArg List.length (hword.symm.trans hless)
    simp at hlength
  · intro g name hinflector hname hnot hfree
    exact declares_regular word h hnot g name hinflector hname hfree

/-- A word with several segments is right in both directions, and settles what can be declared. -/
theorem regular_noun_iff_shopping_cart :
    IsRegularNoun "shopping_cart".toList ∧ ¬ReadsAsOxen "shopping_cart".toList ∧
      RuleSet.english.singularize "shopping_carts".toList = "shopping_cart".toList ∧
      (Generator.new .english {} 0).RefusesPlural "shopping_cart" ∧
      (Generator.new .english {} 0).GivesSingle "shopping_carts" "shopping_cart" := by
  have hregular : IsRegularNoun "shopping_cart".toList :=
    by decide +kernel
  have hnot : ¬ReadsAsOxen "shopping_cart".toList := by decide
  have hform : RuleSet.english.pluralize "shopping_cart".toList = "shopping_carts".toList := by
    rw [pluralize_regular _ hregular]
    decide
  have hplural : Inflector.english.pluralize "shopping_cart" = "shopping_carts" :=
    String.toList_injective (String.toList_ofList.trans hform)
  -- The noun does not read as oxen, so the plural leads back to it, and the array gets it as its
  -- singular name.
  obtain ⟨-, hback, -, hdeclared⟩ := regular_noun_iff _ hregular
  obtain ⟨hrefused, hgiven⟩ := hdeclared (.new .english {} 0) "shopping_cart" rfl rfl hnot
    List.not_mem_nil
  refine ⟨hregular, hnot, ?_, hrefused, ?_⟩
  · rw [hform] at hback
    exact hback.mpr hnot
  · rw [← hplural]
    exact hgiven List.not_mem_nil

/-- A word that reads as `oxen` is given a singular form, although it is singular. -/
theorem oxen_cart_is_no_singular :
    IsRegularNoun "oxen_cart".toList ∧
      RuleSet.english.singularize "oxen_cart".toList = "ox_cart".toList ∧
      RuleSet.english.pluralize "oxen_cart".toList = "oxen_carts".toList ∧
      RuleSet.english.singularize "oxen_carts".toList = "ox_carts".toList := by
  have hregular : IsRegularNoun "oxen_cart".toList :=
    by decide +kernel
  have hplural : RuleSet.english.pluralize "oxen_cart".toList = "oxen_carts".toList := by
    rw [pluralize_regular _ hregular]
    decide
  have hback := singularize_pluralize_regular _ hregular
  rw [hplural] at hback
  refine ⟨hregular, ?_, hplural, ?_⟩
  · rw [singularize_regular _ hregular]
    decide
  · rw [hback]
    decide

end English

end FieldSchema
