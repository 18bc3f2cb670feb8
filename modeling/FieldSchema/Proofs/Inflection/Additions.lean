import Mathlib.Tactic.ByContra
import FieldSchema.Proofs.Inflection.Priority

/-!
# Adding to a Vocabulary

What one more entry changes, and for which words.

Entries are of three sorts, and each sort has its turn. An uncountable word is
left alone before any irregular pair is looked at, and where a pair has a word
no rule is asked. Within a sort the latest entry is asked first. So a new entry
has a say in a word under two conditions. It has to name the word, which for a
rule means that its pattern matches, and no entry of an earlier turn may have
settled the word already.

Where both hold, the word has the form that the entry alone would give it, and
all older entries are out. That is so even if the new entry leaves the word as
it is. A replacement that changes nothing is still a replacement, and the rule
below it, which would have changed something, is not asked. Where one of the
conditions fails, the word has the form that it had before. Nothing has to be
assumed about the other entries, so the same goes for each of many additions,
one after another.

## Main definitions

* `RuleSet.IsIrregular`, `RuleSet.AsksRules`: How far a word gets.
* `Addition`, `RuleSet.add`, `RuleSet.addAll`: An entry of any sort, and a vocabulary with more.
* `Addition.Names`: The entry is about the word.
* `RuleSet.LeavesTo`: No entry of an earlier turn settles the word.

## Theorems

* `irregular?_eq_none_iff`: Pairs are asked about their own words only.
* `inflect_of_asksRules`: What becomes of a word that gets as far as the rules.
* `inflect_add_of_names`, `inflect_add_of_not_names`: The forms of a word after an addition.
* `addition_has_priority`: What each sort of entry changes, and what it does not.
-/

namespace FieldSchema

/-- The last segment of a word in lower case, under which words and pairs are looked up. -/
def lowerSegment (word : List Char) : List Char :=
  Text.lowercase (lastSegment word)

/-- The word with the text of a match replaced by what the template of the rule stands for. -/
def Rule.replaceAt (rule : Rule) (m : Pattern.Match) (word : List Char) : List Char :=
  word.take m.start ++ rule.pattern.expand m word rule.replacement.toList ++ word.drop m.stop

/-- The rule has a match in the word. -/
def Rule.Matches (rule : Rule) (word : List Char) : Prop :=
  ∃ m, rule.pattern.find? word = some m

theorem Rule.replaceIn?_eq (rule : Rule) (word : List Char) :
    rule.replaceIn? word = (rule.pattern.find? word).map fun m => rule.replaceAt m word := rfl

theorem Rule.replaceIn?_eq_none_iff (rule : Rule) (word : List Char) :
    rule.replaceIn? word = none ↔ ¬rule.Matches word := by
  rw [replaceIn?_eq, Option.map_eq_none_iff, Matches, ← Option.isSome_iff_exists,
    Option.not_isSome_iff_eq_none]

namespace RuleSet

/-- The last segment of the word is a form of an irregular pair. -/
def IsIrregular (r : RuleSet) (word : List Char) : Prop :=
  ∃ pair ∈ r.irregulars, ∃ form, lowerSegment word = IrregularPair.get pair form

/-- The rules are asked about the word: it is not empty, and neither uncountable nor irregular. -/
def AsksRules (r : RuleSet) (word : List Char) : Prop :=
  word ≠ [] ∧ r.isUncountable word = false ∧ ¬r.IsIrregular word

theorem isUncountable_iff (r : RuleSet) (word : List Char) :
    r.isUncountable word = true ↔ lowerSegment word ∈ r.uncountables :=
  List.contains_iff_mem

/-- The irregular pairs have a form for their own words and for no other. -/
theorem irregular?_eq_none_iff (r : RuleSet) (form : Form) (word : List Char) :
    r.irregular? form word = none ↔ ¬r.IsIrregular word := by
  constructor
  · rintro hnone ⟨pair, hpair, f, hf⟩
    -- The pair that names the word would have given it a form.
    have hsome : (r.irregular? form word).isSome = true := by
      refine irregular?_isSome r form word pair hpair ?_
      cases f with
      | singular => exact Or.inl hf
      | plural => exact Or.inr hf
    rw [hnone] at hsome
    exact nomatch hsome
  · intro hregular
    -- No pair has the segment as one of its forms, so none is used.
    refine List.findSome?_eq_none_iff.mpr fun pair hpair => ?_
    have hother : ∀ f, lowerSegment word ≠ pair.get f := by
      intro f hf
      exact hregular ⟨pair, List.mem_reverse.mp hpair, f, hf⟩
    exact (if_neg (hother form)).trans (if_neg (hother form.opposite))

end RuleSet

/-- An entry that a vocabulary can be given. -/
inductive Addition where
  | rule (form : Form) (rule : Rule)
  | irregular (singular plural : String)
  | uncountable (word : String)

/-- The vocabulary with one more entry. -/
def RuleSet.add (r : RuleSet) : Addition → RuleSet
  | .rule .singular rule => r.addSingular rule
  | .rule .plural rule => r.addPlural rule
  | .irregular singular plural => r.addIrregular singular plural
  | .uncountable word => r.addUncountable word

/-- The vocabulary with more entries, the last of which is the latest. -/
def RuleSet.addAll (r : RuleSet) (additions : List Addition) : RuleSet :=
  additions.foldl RuleSet.add r

namespace Addition

/-- The entry and nothing else, as a vocabulary. -/
def alone (a : Addition) : RuleSet :=
  RuleSet.empty.add a

/-- The entry is about the word, when its form is asked for. -/
def Names (form : Form) (word : List Char) : Addition → Prop
  | .rule f own => f = form ∧ own.Matches word
  | .irregular singular plural =>
      lowerSegment word = Text.lowercase singular.toList ∨
        lowerSegment word = Text.lowercase plural.toList
  | .uncountable u => lowerSegment word = Text.lowercase u.toList

end Addition

namespace RuleSet

/-- No entry whose turn comes before that of the new entry settles the word. -/
def LeavesTo (r : RuleSet) (word : List Char) : Addition → Prop
  | .rule _ _ => r.AsksRules word
  | .irregular _ _ => word ≠ [] ∧ r.isUncountable word = false
  | .uncountable _ => True

theorem add_eq_onto (r : RuleSet) (a : Addition) : r.add a = a.alone.onto r := by
  cases a with
  | rule form rule =>
      cases form <;> simp only [Addition.alone, add, addSingular, addPlural, onto, empty,
        List.nil_append, List.append_nil]
  | irregular singular plural =>
      simp only [Addition.alone, add, addIrregular, onto, empty, List.nil_append, List.append_nil]
  | uncountable word =>
      simp only [Addition.alone, add, addUncountable, onto, empty, List.nil_append,
        List.append_nil]

section

variable (form : Form) (word : List Char)

/-- What a new entry holds to be uncountable is the word that it names as such. -/
theorem isUncountable_alone (a : Addition) :
    a.alone.isUncountable word = true ↔
      ∃ u, a = .uncountable u ∧ lowerSegment word = Text.lowercase u.toList := by
  rw [isUncountable_iff]
  cases a with
  | rule f rule => cases f <;> simp [Addition.alone, add, addSingular, addPlural, empty]
  | irregular singular plural => simp [Addition.alone, add, addIrregular, empty]
  | uncountable u => simp [Addition.alone, add, addUncountable, empty]

theorem isUncountable_rule (f : Form) (rule : Rule) :
    (Addition.rule f rule).alone.isUncountable word = false := by
  cases f <;> rfl

theorem irregular?_rule (f : Form) (rule : Rule) :
    (Addition.rule f rule).alone.irregular? form word = none := by
  cases f <;> rfl

/-- A rule has a form for the words that it matches, when its own form is asked for. -/
theorem regular?_rule (f : Form) (rule : Rule) :
    (Addition.rule f rule).alone.regular? form word =
      if f = form then rule.replaceIn? word else none := by
  have hone : [rule].reverse.findSome? (fun rule => rule.replaceIn? word) =
      rule.replaceIn? word := by
    rw [List.reverse_singleton, List.findSome?_singleton]
  cases f <;> cases form
  · exact hone
  · rfl
  · rfl
  · exact hone

/-- An entry that does not name the word has nothing to say about it. -/
theorem silent_of_not_names (a : Addition) (h : ¬a.Names form word) :
    a.alone.isUncountable word = false ∧ a.alone.irregular? form word = none ∧
      a.alone.regular? form word = none := by
  cases a with
  | rule f rule =>
      -- A rule speaks in its own form only, and there its pattern does not match.
      refine ⟨isUncountable_rule word f rule, irregular?_rule form word f rule, ?_⟩
      rw [regular?_rule]
      by_cases hf : f = form
      · rw [if_pos hf, rule.replaceIn?_eq_none_iff]
        exact fun hmatches => h ⟨hf, hmatches⟩
      · rw [if_neg hf]
  | irregular singular plural =>
      -- The only pair there is does not have the word.
      refine ⟨rfl, ?_, by cases form <;> rfl⟩
      rw [irregular?_eq_none_iff]
      rintro ⟨pair, hpair, f, hf⟩
      obtain rfl := List.mem_singleton.mp hpair
      cases f with
      | singular => exact h (Or.inl hf)
      | plural => exact h (Or.inr hf)
  | uncountable u =>
      refine ⟨eq_false_of_ne_true fun hu => ?_, rfl, by cases form <;> rfl⟩
      obtain ⟨v, hv, hnamed⟩ := (isUncountable_alone word _).mp hu
      rw [← Addition.uncountable.inj hv] at hnamed
      exact h hnamed

theorem isUncountable_add (r : RuleSet) (a : Addition) :
    (r.add a).isUncountable word = (r.isUncountable word || a.alone.isUncountable word) := by
  rw [add_eq_onto, isUncountable_onto]

/-- Where the rules are asked, they have the last word. -/
theorem inflect_of_asksRules (r : RuleSet) (h : r.AsksRules word) :
    r.inflect form word = (r.regular? form word).getD word := by
  obtain ⟨hempty, hcountable, hregular⟩ := h
  unfold inflect
  rw [List.isEmpty_eq_false_iff.mpr hempty, hcountable,
    (irregular?_eq_none_iff r form word).mpr hregular, Option.none_or]
  rfl

/-- An entry that does not name the word leaves its form alone. -/
theorem inflect_add_of_not_names (r : RuleSet) (a : Addition) (h : ¬a.Names form word) :
    (r.add a).inflect form word = r.inflect form word := by
  obtain ⟨huncountable, hirregular, hregular⟩ := silent_of_not_names form word a h
  unfold inflect
  rw [isUncountable_add, huncountable, Bool.or_false, add_eq_onto, irregular?_onto, regular?_onto,
    hirregular, hregular, Option.none_or, Option.none_or]

/-- So does a rule that is never asked, because the word is settled before. -/
theorem inflect_addRule_of_settled (r : RuleSet) (f : Form) (rule : Rule)
    (h : ¬r.AsksRules word) : (r.add (.rule f rule)).inflect form word = r.inflect form word := by
  unfold inflect
  rw [isUncountable_add, isUncountable_rule, Bool.or_false, add_eq_onto, irregular?_onto,
    regular?_onto, irregular?_rule, Option.none_or]
  by_cases hempty : word = []
  · rw [hempty]
    rfl
  cases hr : r.isUncountable word with
  | true => simp only [Bool.or_true, if_true]
  | false =>
      -- The word is neither empty nor uncountable, so it is a pair that has settled it.
      have hirregular : r.IsIrregular word := by
        by_contra hregular
        exact h ⟨hempty, hr, hregular⟩
      cases hpair : r.irregular? form word with
      | none => exact absurd hirregular ((irregular?_eq_none_iff r form word).mp hpair)
      | some v => simp only [Option.some_or]

/-- Where an entry names the word and its turn comes, the word has the form that the entry alone
    would give it, whatever the older entries of its sort say. -/
theorem inflect_add_of_names (r : RuleSet) (a : Addition) (hnames : a.Names form word)
    (hturn : r.LeavesTo word a) : (r.add a).inflect form word = a.alone.inflect form word := by
  -- The vocabulary with the entry is the entry alone on top of the vocabulary: each of the three
  -- turns asks the entry first.
  unfold inflect
  rw [isUncountable_add, add_eq_onto, irregular?_onto, regular?_onto]
  cases a with
  | rule f rule =>
      -- Nothing below settles the word before the rules are asked, and the new rule is asked first.
      obtain ⟨-, hr, hregular⟩ := hturn
      obtain ⟨rfl, m, hm⟩ := hnames
      have hown : (Addition.rule f rule).alone.regular? f word = some (rule.replaceAt m word) := by
        rw [regular?_rule, if_pos rfl, rule.replaceIn?_eq, hm]
        rfl
      rw [hr, isUncountable_rule, hown, irregular?_rule,
        (irregular?_eq_none_iff r f word).mpr hregular]
      rfl
  | irregular singular plural =>
      -- The word is countable, so the pairs are asked, and the new pair first.
      obtain ⟨-, hr⟩ := hturn
      have hown : ((Addition.irregular singular plural).alone.irregular? form word).isSome :=
        irregular?_isSome _ form word _ (List.mem_singleton_self _) hnames
      obtain ⟨v, hv⟩ := Option.isSome_iff_exists.mp hown
      rw [hr, hv, Bool.false_or]
      simp only [Option.some_or]
  | uncountable u =>
      rw [(isUncountable_alone word _).mpr ⟨u, rfl, hnames⟩]
      simp only [Bool.or_true, if_true]

end

/-- A new rule replaces its first match in every word that gets as far as the rules and matches, and
    leaves alone all other words, the other form, and what is uncountable. A new pair decides about
    the words whose last segment is one of its forms, unless they are uncountable, and about no
    others. A new uncountable word settles the words whose last segment it is, and no others. -/
theorem addition_has_priority (r : RuleSet) (word : List Char) :
    (∀ form rule,
      (∀ m, r.AsksRules word → rule.pattern.find? word = some m →
        (r.add (.rule form rule)).inflect form word = rule.replaceAt m word) ∧
      ((r.add (.rule form rule)).inflect form word ≠ r.inflect form word →
        r.AsksRules word ∧ rule.Matches word) ∧
      (r.add (.rule form rule)).inflect form.opposite word = r.inflect form.opposite word ∧
      (r.add (.rule form rule)).isUncountable word = r.isUncountable word) ∧
    (∀ singular plural,
      (r.add (.irregular singular plural)).isUncountable word = r.isUncountable word ∧
      ∀ form,
        (lowerSegment word ≠ Text.lowercase singular.toList ∧
            lowerSegment word ≠ Text.lowercase plural.toList →
          (r.add (.irregular singular plural)).inflect form word = r.inflect form word) ∧
        (lowerSegment word = Text.lowercase singular.toList ∨
            lowerSegment word = Text.lowercase plural.toList →
          word ≠ [] → r.isUncountable word = false →
          (r.add (.irregular singular plural)).inflect form word =
            (RuleSet.empty.add (.irregular singular plural)).inflect form word)) ∧
    ∀ u,
      (lowerSegment word ≠ Text.lowercase u.toList →
        (r.add (.uncountable u)).isUncountable word = r.isUncountable word ∧
        ∀ form, (r.add (.uncountable u)).inflect form word = r.inflect form word) ∧
      (lowerSegment word = Text.lowercase u.toList →
        (r.add (.uncountable u)).isUncountable word = true ∧
        ∀ form, (r.add (.uncountable u)).inflect form word = word) := by
  refine ⟨fun form rule => ⟨?_, ?_, ?_, ?_⟩, fun singular plural => ⟨?_, fun form => ⟨?_, ?_⟩⟩,
    fun u => ⟨fun hother => ?_, fun hnamed => ?_⟩⟩
  -- A rule that matches: the word gets as far as the rules, also in the vocabulary of the rule
  -- alone.
  · intro m hasks hm
    have halone : (Addition.rule form rule).alone.AsksRules word :=
      ⟨hasks.1, isUncountable_rule word form rule,
        (irregular?_eq_none_iff _ form word).mp (irregular?_rule form word form rule)⟩
    rw [inflect_add_of_names form word r (.rule form rule) ⟨rfl, m, hm⟩ hasks,
      inflect_of_asksRules form word _ halone, regular?_rule, if_pos rfl, rule.replaceIn?_eq, hm]
    rfl
  · intro hchanged
    -- If the word was settled before, or the pattern does not match, the form would be the old one.
    refine ⟨?_, ?_⟩
    · by_contra hsettled
      exact hchanged (inflect_addRule_of_settled form word r form rule hsettled)
    · by_contra hnone
      exact hchanged (inflect_add_of_not_names form word r (.rule form rule) fun h => hnone h.2)
  -- The rule is for one form and does not name any word in the other.
  · refine inflect_add_of_not_names form.opposite word r (.rule form rule) fun h => ?_
    cases form <;> exact nomatch h.1
  · rw [isUncountable_add, isUncountable_rule, Bool.or_false]
  · exact (isUncountable_add word r _).trans (Bool.or_false _)
  -- A pair, for words that it does not have and for words that it has.
  · intro hother
    refine inflect_add_of_not_names form word r (.irregular singular plural) fun h => ?_
    exact h.elim hother.1 hother.2
  · intro hnamed hempty hcountable
    exact inflect_add_of_names form word r (.irregular singular plural) hnamed ⟨hempty, hcountable⟩
  -- An uncountable word, for other words and for the words whose last segment it is.
  · have hsilent : ∀ form, (Addition.uncountable u).alone.isUncountable word = false := fun form =>
      (silent_of_not_names form word (.uncountable u) hother).1
    refine ⟨?_, fun form => inflect_add_of_not_names form word r (.uncountable u) hother⟩
    rw [isUncountable_add, hsilent .singular, Bool.or_false]
  · have huncountable : (r.add (.uncountable u)).isUncountable word = true := by
      rw [isUncountable_add, (isUncountable_alone word _).mpr ⟨u, rfl, hnamed⟩, Bool.or_true]
    refine ⟨huncountable, fun form => ?_⟩
    rw [inflect, huncountable, Bool.or_true, if_pos rfl]

/-- With a rule that puts `data` in its own place, English leaves it alone and does not ask its own
    rule, which would make `datum` of it. A pair with that word decides about it, too, and what is
    added about another word does not. -/
theorem addition_has_priority_data :
    ∃ rule m, English.compile [("(?i)data$", "data")] = [rule] ∧
      english.AsksRules "data".toList ∧ rule.pattern.find? "data".toList = some m ∧
      english.inflect .singular "data".toList = "datum".toList ∧
      (english.add (.rule .singular rule)).inflect .singular "data".toList = "data".toList ∧
      (english.add (.irregular "Date" "Data")).inflect .singular "data".toList =
        (empty.add (.irregular "Date" "Data")).inflect .singular "data".toList ∧
      (english.add (.uncountable "datum")).inflect .singular "data".toList =
        english.inflect .singular "data".toList := by
  obtain ⟨hrules, hpairs, huncountables⟩ := addition_has_priority english "data".toList
  have hasks : english.AsksRules "data".toList := by
    refine ⟨by decide, by decide +kernel, ?_⟩
    rw [← irregular?_eq_none_iff english .singular]
    decide +kernel
  have hreplaces : ∀ rule ∈ English.compile [("(?i)data$", "data")],
      rule.replaceIn? "data".toList = some "data".toList := by decide +kernel
  obtain ⟨rule, hrule⟩ : ∃ rule, English.compile [("(?i)data$", "data")] = [rule] :=
    List.length_eq_one_iff.mp (by decide +kernel)
  have hdata := hreplaces rule (hrule ▸ List.mem_singleton_self rule)
  rw [rule.replaceIn?_eq] at hdata
  obtain ⟨m, hm, hresult⟩ := Option.map_eq_some_iff.mp hdata
  refine ⟨rule, m, hrule, hasks, hm, by decide +kernel, ?_, ?_, ?_⟩
  · exact ((hrules .singular rule).1 m hasks hm).trans hresult
  · exact ((hpairs "Date" "Data").2 .singular).2 (Or.inr (by decide +kernel)) hasks.1 hasks.2.1
  · exact ((huncountables "datum").1 (by decide +kernel)).2 .singular

end RuleSet

end FieldSchema
