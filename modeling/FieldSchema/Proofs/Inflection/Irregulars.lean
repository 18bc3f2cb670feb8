import Mathlib.Data.List.Lattice
import Mathlib.Data.List.Nodup
import Mathlib.Data.List.Pairwise
import FieldSchema.Proofs.Inflection.Additions
import FieldSchema.Proofs.Text.Ascii

/-!
# Irregular Pairs

The two forms of an irregular pair are each other's forms.

A pair is looked up by the last segment of a word in lower case, and what is
found is put behind the rest of the word with a capital letter if the segment
had one. For this to lead from one form to the other and back, three things
could stand in the way, and all of them are in the vocabulary and not in the
word. Another pair could have the same form and be asked first. The form could
be uncountable. Or it could be written in letters that the lower-case form of
a word never has. Where none of this is the case, nothing else matters:
neither the rules, which are not asked, nor what stands before the segment,
which may be anything at all.

A capital first letter is carried over from the segment to the form, so it
survives the way there and back if both forms begin with a letter. A form that
begins with a digit has no capital, and would lose that of the other.

## Main definitions

* `IsPlain`: A word of small ASCII characters without underscores.
* `RuleSet.HasPlainPairs`: The forms of all pairs are plain, distinct and countable.
* `RuleSet.Inverts`: Two words are each other's forms, behind a prefix.

## Theorems

* `form_unique`: A form belongs to one pair, and to one side of it.
* `inflect_segment`: What becomes of a word whose last segment is a form of a pair.
* `inflect_form`, `inflect_capitalized`: Behind a prefix, each form becomes the other.
* `irregular_pairs_invert`: The forms of a pair are each other's, in small and in capital letters.
-/

namespace FieldSchema

open Text

/-- The word is not empty and consists of small ASCII characters other than the underscore. -/
def IsPlain (word : List Char) : Prop :=
  word ≠ [] ∧ ∀ c ∈ word, IsSmall c ∧ c ≠ '_'

instance (word : List Char) : Decidable (IsPlain word) :=
  have : Decidable (∀ c ∈ word, IsSmall c ∧ c ≠ '_') := List.decidableBAll _ word
  inferInstanceAs (Decidable (_ ∧ _))

/-- The text can stand before a segment: it is empty or ends in an underscore. -/
def IsSegmentPrefix (q : List Char) : Prop :=
  q = [] ∨ q.getLast? = some '_'

/-- Behind such a text the last segment begins. -/
theorem lastSegment_append (q segment : List Char) (hq : IsSegmentPrefix q)
    (hsegment : '_' ∉ segment) : lastSegment (q ++ segment) = segment := by
  have hall : ∀ c ∈ segment.reverse, (c != '_') = true := by
    intro c hc
    rw [bne_iff_ne]
    rintro rfl
    exact hsegment (List.mem_reverse.mp hc)
  unfold lastSegment
  rw [List.reverse_append, List.takeWhile_append_of_pos hall]
  rcases hq with rfl | hlast
  · rw [List.reverse_nil, List.takeWhile_nil, List.append_nil, List.reverse_reverse]
  · obtain ⟨front, rfl⟩ := List.getLast?_eq_some_iff.mp hlast
    rw [List.reverse_append]
    simp

/-- What is added to a word, other than an underscore, is added to its last segment. -/
theorem lastSegment_concat (front : List Char) (c : Char) (hc : c ≠ '_') :
    lastSegment (front ++ [c]) = lastSegment front ++ [c] := by
  simp [lastSegment, hc]

/-- A word is its last segment behind a text that can stand before one. -/
theorem exists_segmentPrefix (word : List Char) :
    ∃ q, IsSegmentPrefix q ∧ word = q ++ lastSegment word := by
  refine ⟨(word.reverse.dropWhile (· != '_')).reverse, ?_, ?_⟩
  · cases hrest : word.reverse.dropWhile (· != '_') with
    | nil => exact Or.inl rfl
    | cons c rest =>
        have hhead := List.head?_dropWhile_not (· != '_') word.reverse
        rw [hrest] at hhead
        have hc : c = '_' := by simpa using hhead
        exact Or.inr (by rw [hc, List.getLast?_reverse, List.head?_cons])
  · rw [lastSegment, ← List.reverse_append, List.takeWhile_append_dropWhile, List.reverse_reverse]

/-- A model that begins in a small character leaves the word as it is. -/
theorem matchCase_of_small (segment word : List Char) (h : ∀ c ∈ segment, IsSmall c) :
    matchCase segment word = word := by
  cases segment with
  | nil => rfl
  | cons m rest =>
      cases word with
      | nil => rfl
      | cons c tail =>
          have hm := not_isUppercase_of_small m (h m List.mem_cons_self)
          simp only [matchCase, hm, Bool.false_eq_true, if_false]

/-- A capitalized model capitalizes the word, if both begin with a letter or neither does. -/
theorem matchCase_capitalized (segment word : List Char) (h : ∀ c ∈ segment, IsSmall c)
    (hword : ∀ c ∈ word, IsSmall c) (hletters : BeginsSmall segment ↔ BeginsSmall word) :
    matchCase (capitalized segment) word = capitalized word := by
  by_cases hbegins : BeginsSmall segment
  · cases segment with
    | nil => exact absurd hbegins (by decide)
    | cons m rest =>
        have hm := (toUpper_of_small m (h m List.mem_cons_self)).1 hbegins
        cases word with
        | nil => rfl
        | cons c tail =>
            have hc := (upperForm_of_small c (hword c List.mem_cons_self)).1
            simp only [capitalized, matchCase, hm, if_true, hc, List.singleton_append]
  · -- There is no capital in the model, and none to be put into the word.
    rw [capitalized_of_not_beginsSmall segment h hbegins,
      capitalized_of_not_beginsSmall word hword fun hother => hbegins (hletters.mpr hother)]
    exact matchCase_of_small segment word h

theorem underscore_not_mem_capitalized (segment : List Char) (h : IsPlain segment) :
    '_' ∉ capitalized segment := by
  obtain ⟨-, hplain⟩ := h
  cases segment with
  | nil => exact List.not_mem_nil
  | cons c rest =>
      obtain ⟨⟨hc, hne⟩, hrest⟩ := List.forall_mem_cons.mp hplain
      intro hmem
      rcases List.mem_cons.mp hmem with heq | hin
      · exact hne ((upperForm_of_small c hc).2.2.1 heq.symm)
      · exact (hrest '_' hin).2 rfl

/-- The two forms of a pair. -/
def IrregularPair.forms (pair : IrregularPair) : List (List Char) :=
  [pair.singular, pair.plural]

theorem IrregularPair.get_mem_forms (pair : IrregularPair) (form : Form) :
    pair.get form ∈ pair.forms := by
  cases form with
  | singular => exact List.mem_cons_self
  | plural => exact List.mem_cons_of_mem _ (List.mem_singleton_self _)

namespace RuleSet

/-- The forms of all pairs are plain words and countable, and no two of them are the same. -/
structure HasPlainPairs (r : RuleSet) : Prop where
  plain : ∀ pair ∈ r.irregulars, ∀ form ∈ pair.forms, IsPlain form
  countable : ∀ pair ∈ r.irregulars, ∀ form ∈ pair.forms, r.isUncountable form = false
  distinct : (r.irregulars.flatMap IrregularPair.forms).Nodup

/-- Behind a prefix, two words are the singular and the plural form of each other and of
    themselves. -/
structure Inverts (r : RuleSet) (q singular plural : List Char) : Prop where
  singular_of_plural : r.singularize (q ++ plural) = q ++ singular
  plural_of_singular : r.pluralize (q ++ singular) = q ++ plural
  singular_of_singular : r.singularize (q ++ singular) = q ++ singular
  plural_of_plural : r.pluralize (q ++ plural) = q ++ plural

section

variable (r : RuleSet) (h : r.HasPlainPairs)

include h

theorem plain_get (pair : IrregularPair) (hpair : pair ∈ r.irregulars) (form : Form) :
    IsPlain (pair.get form) :=
  h.plain pair hpair _ (pair.get_mem_forms form)

/-- A form belongs to one pair, and to one side of it. -/
theorem form_unique (pair other : IrregularPair) (hpair : pair ∈ r.irregulars)
    (hother : other ∈ r.irregulars) (form side : Form) (heq : other.get side = pair.get form) :
    other = pair ∧ side = form := by
  obtain ⟨heach, hapart⟩ := List.nodup_flatMap.mp h.distinct
  by_cases hsame : other = pair
  · subst hsame
    refine ⟨rfl, ?_⟩
    have hne : other.singular ≠ other.plural := by
      simpa [IrregularPair.forms] using heach other hother
    cases form <;> cases side
    · rfl
    · exact absurd heq.symm hne
    · exact absurd heq hne
    · rfl
  · -- Two pairs have no form in common.
    have hsymm : Std.Symm (Function.onFun List.Disjoint IrregularPair.forms) :=
      ⟨fun _ _ => List.Disjoint.symm⟩
    have hdisjoint : List.Disjoint other.forms pair.forms := hapart.forall hother hpair hsame
    have hmem := other.get_mem_forms side
    rw [heq] at hmem
    exact absurd (pair.get_mem_forms form) (hdisjoint hmem)

/-- A word whose last segment is a form of a pair, in small or capital letters, is left alone if
    that is the form asked for, and ends in the other form if it is not. -/
theorem inflect_segment (pair : IrregularPair) (hpair : pair ∈ r.irregulars) (own form : Form)
    (q segment : List Char) (hq : IsSegmentPrefix q) (hsegment : '_' ∉ segment)
    (hlower : lowercase segment = pair.get own) :
    r.inflect form (q ++ segment) =
      q ++ if own = form then segment else matchCase segment (pair.get form) := by
  have hplain := plain_get r h pair hpair own
  have hlast : lastSegment (q ++ segment) = segment := lastSegment_append q segment hq hsegment
  have hcountable : r.isUncountable (q ++ segment) = false := by
    have hform := h.countable pair hpair _ (pair.get_mem_forms own)
    have halone : lastSegment (pair.get own) = pair.get own :=
      lastSegment_append [] _ (Or.inl rfl) fun hmem => (hplain.2 '_' hmem).2 rfl
    rw [isUncountable, halone, lowercase_of_small _ fun c hc => (hplain.2 c hc).1] at hform
    rw [isUncountable, hlast, hlower, hform]
  have hnonempty : (q ++ segment).isEmpty = false := by
    rw [List.isEmpty_eq_false_iff]
    intro hnil
    obtain rfl := (List.append_eq_nil_iff.mp hnil).2
    exact hplain.1 hlower.symm
  -- Some pair is found, and it can be no other than this one.
  have hfound : (r.irregular? form (q ++ segment)).isSome = true := by
    refine irregular?_isSome r form _ pair hpair ?_
    rw [hlast, hlower]
    cases own with
    | singular => exact Or.inl rfl
    | plural => exact Or.inr rfl
  obtain ⟨result, hresult⟩ := Option.isSome_iff_exists.mp hfound
  obtain ⟨other, hmem, hother⟩ := List.exists_of_findSome?_eq_some hresult
  rw [List.mem_reverse] at hmem
  rw [inflect, hnonempty, hcountable, hresult]
  simp only [hlast, hlower] at hother
  by_cases hside : pair.get own = other.get form
  · obtain ⟨rfl, rfl⟩ := form_unique r h pair other hpair hmem own form hside.symm
    rw [if_pos rfl] at hother ⊢
    exact (Option.some.inj hother).symm
  · rw [if_neg hside, Option.ite_none_right_eq_some] at hother
    obtain ⟨hopposite, heq⟩ := hother
    obtain ⟨rfl, rfl⟩ := form_unique r h pair other hpair hmem own form.opposite hopposite.symm
    have hne : form.opposite ≠ form := by cases form <;> decide
    rw [if_neg hne, ← Option.some.inj heq, List.length_append, Nat.add_sub_cancel,
      List.take_left]
    rfl

/-- Behind a prefix each form of a pair becomes the one that is asked for. -/
theorem inflect_form (pair : IrregularPair) (hpair : pair ∈ r.irregulars) (own form : Form)
    (q : List Char) (hq : IsSegmentPrefix q) :
    r.inflect form (q ++ pair.get own) = q ++ pair.get form := by
  obtain ⟨-, hplain⟩ := plain_get r h pair hpair own
  have hsmall : ∀ c ∈ pair.get own, IsSmall c := fun c hc => (hplain c hc).1
  have hsegment : '_' ∉ pair.get own := fun hmem => (hplain '_' hmem).2 rfl
  rw [inflect_segment r h pair hpair own form q _ hq hsegment (lowercase_of_small _ hsmall),
    matchCase_of_small _ _ hsmall]
  by_cases hside : own = form
  · rw [if_pos hside, hside]
  · rw [if_neg hside]

/-- So it does with a capital letter, if both begin with a letter or neither does. -/
theorem inflect_capitalized (pair : IrregularPair) (hpair : pair ∈ r.irregulars) (own form : Form)
    (q : List Char) (hq : IsSegmentPrefix q)
    (hletters : BeginsSmall (pair.get own) ↔ BeginsSmall (pair.get form)) :
    r.inflect form (q ++ capitalized (pair.get own)) = q ++ capitalized (pair.get form) := by
  have hplain := plain_get r h pair hpair
  have hsmall : ∀ side, ∀ c ∈ pair.get side, IsSmall c := fun side c hc => ((hplain side).2 c hc).1
  rw [inflect_segment r h pair hpair own form q _ hq
    (underscore_not_mem_capitalized _ (hplain own)) (lowercase_capitalized _ (hsmall own)),
    matchCase_capitalized _ _ (hsmall own) (hsmall form) hletters]
  by_cases hside : own = form
  · rw [if_pos hside, hside]
  · rw [if_neg hside]

end

/-- Words that stand for the forms invert each other if each becomes the one for the form that is
    asked for. -/
theorem inverts_of_forms (r : RuleSet) (q : List Char) (word : Form → List Char)
    (h : ∀ own form, r.inflect form (q ++ word own) = q ++ word form) :
    r.Inverts q (word .singular) (word .plural) where
  singular_of_plural := h .plural .singular
  plural_of_singular := h .singular .plural
  singular_of_singular := h .singular .singular
  plural_of_plural := h .plural .plural

/-- The forms of a pair are each other's forms, whatever the rules are and whatever stands before
    them. With capital letters they are so, too, if both begin with a letter or neither does, as is
    the case for all words of letters. -/
theorem irregular_pairs_invert (r : RuleSet) (h : r.HasPlainPairs) (pair : IrregularPair)
    (hpair : pair ∈ r.irregulars) (q : List Char) (hq : IsSegmentPrefix q) :
    r.Inverts q pair.singular pair.plural ∧
      ((BeginsSmall pair.singular ↔ BeginsSmall pair.plural) →
        r.Inverts q (capitalized pair.singular) (capitalized pair.plural)) := by
  refine ⟨inverts_of_forms r q pair.get fun own form => inflect_form r h pair hpair own form q hq,
    fun hletters => inverts_of_forms r q (fun form => capitalized (pair.get form)) ?_⟩
  intro own form
  refine inflect_capitalized r h pair hpair own form q hq ?_
  cases own <;> cases form
  · exact Iff.rfl
  · exact hletters
  · exact hletters.symm
  · exact Iff.rfl

/-- The pairs of the English vocabulary are of this kind. -/
theorem english_hasPlainPairs : RuleSet.english.HasPlainPairs where
  plain := by decide +kernel
  countable := by decide +kernel
  distinct := by decide +kernel

/-- The last segment of `Step_Children` is a form of an English pair. -/
theorem irregular_pairs_invert_children :
    ∃ pair ∈ english.irregulars, pair.singular = "child".toList ∧
      english.Inverts "Step_".toList (capitalized pair.singular) (capitalized pair.plural) := by
  have hpair : (⟨"child".toList, "children".toList⟩ : IrregularPair) ∈ english.irregulars := by
    decide +kernel
  exact ⟨_, hpair, rfl, (irregular_pairs_invert english english_hasPlainPairs _ hpair
    "Step_".toList (Or.inr rfl)).2 (by decide)⟩

end RuleSet

end FieldSchema
