import FieldSchema.Proofs.Inflection.LoneEnding

/-!
# Rules and the Endings of Words

Which rules do not apply to words with a certain ending.

A rule whose matches all reach the end of a word reads the last characters of
the word from the last sets of a path. If one of these sets has none of the
letters that stand at its place, there is no match. So that a rule misses all
words with an ending is computed from its paths and a list of the letters that
may stand at each place, without a look at any word. For the rules of English
this leaves only the few that are about the ending in question, and those that
do not reach the end of the word.

Two rules are left to be looked at one by one. The plural rule that is asked
last reads nothing and adds an `s`. The one about `oxen` is the only singular
rule that is not tied to the end of a word. It takes two letters out of every
word that begins with these four, whatever follows them.

## Main definitions

* `EndsIn`: A word ends in letters from given lists.
* `Rule.misses`: No path of a rule can read such an ending.
* `English.isAdding`: The rule adds an `s`.
* `English.oxenForm?`: What the rule about `oxen` makes of a word in small letters.

## Theorems

* `replaceIn?_of_misses`: A rule does not apply to words with an ending that it misses.
* `adding_replaceIn?`: What the rule for a plural `s` makes of a word.
* `oxen_replaceIn?`: What the rule about `oxen` makes of a word.
* `oxenForm?_plural`: That rule sees a word and its plural alike.
* `findSome?_of_misses`: Among rules that miss an ending, only the one about `oxen` has a say.
-/

namespace FieldSchema

open Pattern Text

/-- The text begins with a letter of the first list, then one of the second, and so on. -/
def beginsIn : List (List Char) → List Char → Bool
  | [], _ => true
  | _ :: _, [] => false
  | allowed :: more, c :: rest => allowed.contains c && beginsIn more rest

/-- The word ends in a letter of the first list, before it stands one of the second, and so on. -/
def EndsIn (ending : List (List Char)) (word : List Char) : Prop :=
  beginsIn ending word.reverse = true

instance (ending : List (List Char)) (word : List Char) : Decidable (EndsIn ending word) :=
  inferInstanceAs (Decidable (_ = true))

namespace Pattern

/-- At some place the set has none of the letters that may stand there. -/
def clashes : List CharSet → List (List Char) → Bool
  | set :: sets, allowed :: more =>
      allowed.all (fun c => !set.contains c) || clashes sets more
  | _, _ => false

/-- What is read from sets that clash with the beginning of a text is not at its beginning. -/
theorem not_beginsIn_of_clashes (sets : List CharSet) (text rest : List Char)
    (h : List.Forall₂ (fun set c => CharSet.contains set c = true) sets text)
    (letters : List (List Char)) (hclash : clashes sets letters = true) :
    beginsIn letters (text ++ rest) = false := by
  induction h generalizing letters with
  | nil => exact nomatch hclash
  | @cons set c sets text hc _ ih =>
      cases letters with
      | nil => exact nomatch hclash
      | cons allowed more =>
          rw [List.cons_append, beginsIn]
          rcases Bool.or_eq_true_iff.mp hclash with hnone | hmore
          · -- The character that was read is in the set, so it is not one of the letters.
            have hother : allowed.contains c = false := by
              rw [← Bool.not_eq_true, List.contains_iff_mem]
              intro hmem
              have hnot := List.all_eq_true.mp hnone c hmem
              rw [hc] at hnot
              exact nomatch hnot
            rw [hother, Bool.false_and]
          · rw [ih more hmore, Bool.and_false]

/-- The path leads to the end of the text and reads other letters there. -/
def Path.clashesWith (ending : List (List Char)) (p : Path) : Bool :=
  p.getLast? == some (.check .stop) && clashes p.sets.reverse ending

end Pattern

namespace Rule

/-- All matches of the rule reach the end of the word and read other letters there. -/
def misses (rule : Rule) (ending : List (List Char)) : Bool :=
  rule.everyPath (Path.clashesWith ending)

/-- A rule does not apply to words with an ending that it misses. -/
theorem replaceIn?_of_misses (rule : Rule) (ending : List (List Char))
    (h : rule.misses ending = true) (word : List Char) (hword : EndsIn ending word) :
    rule.replaceIn? word = none := by
  cases hresult : rule.replaceIn? word with
  | none => rfl
  | some result =>
      obtain ⟨path, hpath, skipped, text, rest, hreplaces⟩ :=
        replaces_of_everyPath rule _ h word result hresult
      obtain ⟨hstop, hclash⟩ := Bool.and_eq_true_iff.mp hpath
      have hrest := hreplaces.atStop (beq_iff_eq.mp hstop)
      have hspells := List.forall₂_reverse_iff.mpr hreplaces.spells
      have hnot := not_beginsIn_of_clashes _ _ skipped.reverse hspells ending hclash
      rw [← List.reverse_append] at hnot
      rw [EndsIn, hreplaces.word, hrest, List.append_nil, hnot] at hword
      exact nomatch hword

end Rule

namespace English

/-- The rule adds an `s`. -/
def isAdding (rule : Rule) : Bool :=
  rule.pattern.node.isStraight && rule.replacement == "s" &&
    rule.pattern.node.paths? == some [[.check .stop]]

/-- The rule for a plural `s` applies to every word. -/
theorem adding_replaceIn? (rule : Rule) (h : isAdding rule = true) (word : List Char) :
    rule.replaceIn? word = some (word ++ ['s']) := by
  simp only [isAdding, Bool.and_eq_true, beq_iff_eq] at h
  obtain ⟨⟨hstraight, hreplacement⟩, hpaths⟩ := h
  -- There is a match at the end, if there is none before.
  have hpasses : Path.Passes [.check .stop] ⟨word.getLast?, [], word.length, []⟩
      ⟨word.getLast?, [], word.length, []⟩ := ⟨rfl, rfl⟩
  have hsome := replaceFirst?_of_path rule.pattern hstraight _ hpaths _ (List.mem_singleton_self _)
    word [] _ hpasses rule.replacement.toList
  rw [List.append_nil] at hsome
  obtain ⟨result, hresult⟩ := Option.isSome_iff_exists.mp hsome
  obtain ⟨path, hmem, skipped, text, rest, hreplaces⟩ :=
    replaceFirst?_replaces rule.pattern _ hpaths _ word result hresult
  obtain rfl := List.mem_singleton.mp hmem
  obtain rfl := hreplaces.atStop rfl
  obtain rfl := List.forall₂_nil_left_iff.mp hreplaces.spells
  have hword := hreplaces.word
  have hmade := hreplaces.result
  rw [List.append_nil, List.append_nil] at hword
  rw [hreplacement, ← hword] at hmade
  rw [Rule.replaceIn?, hresult, hmade]
  rfl

/-- What the rule about `oxen` makes of a word in small letters. -/
def oxenForm? (word : List Char) : Option (List Char) :=
  if "oxen".toList <+: word then some ("ox".toList ++ word.drop 4) else none

/-- The rule about `oxen` takes two letters out of the words that begin with these four. -/
theorem oxen_replaceIn? (rule : Rule) (h : isOxen rule = true)
    (hreplacement : rule.replacement = "$\x7b1\x7d") (word : List Char)
    (hword : ∀ c ∈ word, c.isUpper = false) : rule.replaceIn? word = oxenForm? word := by
  have hsome := oxen_replaceIn?_iff rule h word
  simp only [isOxen, Bool.and_eq_true, beq_iff_eq] at h
  unfold oxenForm?
  by_cases hbegins : "oxen".toList <+: word
  · obtain ⟨rest, rfl⟩ := hbegins
    have hoxen : BeginsWithOxen ("oxen".toList ++ rest) :=
      ⟨"oxen".toList, rest, rfl, by decide⟩
    obtain ⟨result, hresult⟩ := Option.isSome_iff_exists.mp (hsome.mpr hoxen)
    obtain ⟨path, hmem, skipped, text, rest', hreplaces⟩ :=
      replaceFirst?_replaces rule.pattern _ h.2 _ _ result hresult
    obtain rfl := List.mem_singleton.mp hmem
    obtain rfl := hreplaces.atStart rfl
    -- The path reads four characters, and those are the ones that the word begins with.
    have hsplit : "oxen".toList ++ rest = text ++ rest' := hreplaces.word
    obtain ⟨rfl, rfl⟩ := List.append_inj hsplit hreplaces.spells.length_eq
    have hmade := hreplaces.result
    rw [hreplacement] at hmade
    rw [if_pos (List.prefix_append _ _), hresult, hmade]
    rfl
  · rw [if_neg hbegins, ← Option.not_isSome_iff_eq_none, hsome]
    rintro ⟨start, rest, rfl, hstart⟩
    -- As there are no capitals in the word, it begins with the very letters.
    have hletter : ∀ letter ∈ ['o', 'x', 'e', 'n'], ∀ c ∈ start ++ rest,
        c = letter ∨ c = letter.toUpper → c = letter := by
      intro letter hmem c hc hcase
      have hcapital : ∀ other ∈ ['o', 'x', 'e', 'n'], other.toUpper.isUpper = true := by simp
      refine hcase.resolve_right fun heq => ?_
      have hnot := hword c hc
      rw [heq, hcapital letter hmem] at hnot
      cases hnot
    simp only [List.forall₂_cons_left_iff, List.forall₂_nil_left_iff] at hstart
    obtain ⟨o, -, ho, ⟨x, -, hx, ⟨e, -, he, ⟨n, -, hn, rfl, rfl⟩, rfl⟩, rfl⟩, rfl⟩ := hstart
    obtain rfl := hletter 'o' (by decide) o (by simp) ho
    obtain rfl := hletter 'x' (by decide) x (by simp) hx
    obtain rfl := hletter 'e' (by decide) e (by simp) he
    obtain rfl := hletter 'n' (by decide) n (by simp) hn
    exact hbegins (List.prefix_append _ rest)

/-- The rule about `oxen` sees a word and its plural alike. -/
theorem oxenForm?_plural (word : List Char) :
    oxenForm? (word ++ ['s']) = (oxenForm? word).map fun form => form ++ ['s'] := by
  unfold oxenForm?
  by_cases hbegins : "oxen".toList <+: word
  · have hlength : 4 ≤ word.length := hbegins.length_le
    have hplural : "oxen".toList <+: word ++ ['s'] := hbegins.trans (List.prefix_append _ _)
    rw [if_pos hbegins, if_pos hplural, List.drop_append_of_le_length hlength, Option.map_some,
      List.append_assoc]
  · have hplural : ¬"oxen".toList <+: word ++ ['s'] := by
      intro hprefix
      rcases List.prefix_concat_iff.mp hprefix with heq | hword
      · exact absurd (congrArg List.getLast? heq) (by simp)
      · exact hbegins hword
    rw [if_neg hbegins, if_neg hplural, Option.map_none]

/-- Where a list has a form for a word and all forms that it has are the same, that is what it
    finds. -/
theorem findSome?_eq_of_agree {α β : Type} (xs : List α) (f : α → Option β) (y : Option β)
    (hsome : ∃ x ∈ xs, f x = y) (hall : ∀ x ∈ xs, f x = none ∨ f x = y) : xs.findSome? f = y := by
  cases hfound : xs.findSome? f with
  | none =>
      obtain ⟨x, hx, rfl⟩ := hsome
      exact (List.findSome?_eq_none_iff.mp hfound x hx).symm
  | some v =>
      obtain ⟨x, hx, hv⟩ := List.exists_of_findSome?_eq_some hfound
      rcases hall x hx with hnone | heq
      · rw [hnone] at hv
        exact nomatch hv
      · rw [← hv, heq]

/-- Rules of which one is about `oxen` and all others miss the ending of a word, in small letters,
    make of it what that one makes of it. -/
theorem findSome?_of_misses (rules : List Rule) (ending : List (List Char))
    (hoxen : ∃ rule ∈ rules, isOxen rule = true)
    (hreplacement : ∀ rule ∈ rules, isOxen rule = true → rule.replacement = "$\x7b1\x7d")
    (hmisses : ∀ rule ∈ rules, isOxen rule = true ∨ rule.misses ending = true) (word : List Char)
    (hword : ∀ c ∈ word, c.isUpper = false) (hends : EndsIn ending word) :
    (rules.reverse.findSome? fun rule => rule.replaceIn? word) = oxenForm? word := by
  refine findSome?_eq_of_agree _ _ _ ?_ fun rule hmem => ?_
  · obtain ⟨rule, hmem, hrule⟩ := hoxen
    refine ⟨rule, List.mem_reverse.mpr hmem, ?_⟩
    exact oxen_replaceIn? rule hrule (hreplacement rule hmem hrule) word hword
  · rw [List.mem_reverse] at hmem
    rcases hmisses rule hmem with hrule | hrule
    · exact Or.inr (oxen_replaceIn? rule hrule (hreplacement rule hmem hrule) word hword)
    · exact Or.inl (rule.replaceIn?_of_misses ending hrule word hends)

end English

end FieldSchema
