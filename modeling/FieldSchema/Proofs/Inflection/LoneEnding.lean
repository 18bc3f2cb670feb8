import FieldSchema.Inflection.Table
import FieldSchema.Proofs.Inflection.Ends
import FieldSchema.Proofs.Pattern.Straight

/-!
# English Words with a Lone Ending

The only words of which English makes singular forms that are not neat.

Of all the rules for singular forms one does not keep the ends of words: the
one that takes away a final `s`, which is asked last. It leaves nothing of a
word that is only an `s`, and leaves white space at the end of a word if there
is some before its `s`. So these words, and no others, may come out wrong.

They do come out wrong, nearly always. No uncountable word looks like this, no
irregular pair has such a form, and all other rules read at least two solid
characters at the end of a word. There is a single exception, because there is
a single rule that looks at the beginning of a word only. It makes `ox s` of
`oxen s`, and the final `s` stays.

## Main definitions

* `English.LoneEnding`: A word ends in an `s` with nothing but white space, or nothing, before it.
* `English.BeginsWithOxen`: A word begins with `oxen`, in small or capital letters.

## Theorems

* `singulars_checked`: What is computed of the rules.
* `final_replaceIn?_iff`, `oxen_replaceIn?_iff`: What the two rules in question apply to.
* `not_known_of_loneEnding`: No word with a lone ending is uncountable or irregular.
* `english_singularize_of_loneEnding`: What becomes of a word with a lone ending.
* `english_singularize_not_neat_iff`: Which singular forms are not neat.
-/

namespace FieldSchema

open Pattern Text

namespace English

/-- The word ends in an `s`, of either size or long, with nothing before it or white space. -/
def LoneEnding (word : List Char) : Prop :=
  ∃ front c, word = front ++ [c] ∧ c ∈ ['S', 's', 'ſ'] ∧
    (front = [] ∨ ∃ d ∈ front.getLast?, isSpace d = true)

/-- The word begins with `oxen`, each letter small or capital. -/
def BeginsWithOxen (word : List Char) : Prop :=
  ∃ start rest, word = start ++ rest ∧
    List.Forall₂ (fun letter c => c = letter ∨ c = letter.toUpper) ['o', 'x', 'e', 'n'] start

/-- The letter and its case variants. -/
def letter (c : Char) : Step := .chars (.single c true)

/-- The rule takes away a final `s`. -/
def isFinal (rule : Rule) : Bool :=
  rule.pattern.node.isStraight && rule.replacement == "" &&
    rule.pattern.node.paths? == some [[letter 's', .check .stop]]

/-- The rule is about words that begin with `oxen`. -/
def isOxen (rule : Rule) : Bool :=
  rule.pattern.node.isStraight && rule.pattern.node.paths? ==
    some [[.check .start, .mark 2, letter 'o', letter 'x', .mark 3, letter 'e', letter 'n']]

/-- The first rule takes away a final `s`. The others keep the ends of words, and read solid ends,
    but for one about `oxen`. -/
def areChecked : List Rule → Bool
  | [] => false
  | first :: others => isFinal first && others.any isOxen &&
      others.all fun rule => rule.keepsEnds && (rule.endsSolid || isOxen rule)

theorem singulars_checked : areChecked (compile singulars) = true := by
  decide +kernel

/-- A set of single code points contains a character if its code point is one of them. -/
theorem contains_points_iff (points : List Nat) (h : points.Pairwise (· < ·)) (c : Char) :
    CharSet.contains ⟨points.map fun n => (n, n)⟩ c = true ↔ c.toNat ∈ points := by
  unfold CharSet.contains
  induction points with
  | nil => exact ⟨fun h => absurd h Bool.false_ne_true, fun h => absurd h List.not_mem_nil⟩
  | cons n rest ih =>
      obtain ⟨hn, hrest⟩ := List.pairwise_cons.mp h
      rw [List.map_cons, CodeRange.anyContains, List.mem_cons]
      split
      -- The search has gone past the character: the points are in order, so all that are left are
      -- greater.
      · rename_i hlt
        refine ⟨fun h => absurd h Bool.false_ne_true, fun h => ?_⟩
        rcases h with heq | hmem
        · omega
        · have := hn _ hmem
          omega
      · rename_i hle
        rw [Bool.or_eq_true, ih hrest, decide_eq_true_iff]
        -- The character is within the range of one point exactly if it is that point.
        constructor
        · rintro (hle' | hmem)
          · exact Or.inl (by omega)
          · exact Or.inr hmem
        · rintro (heq | hmem)
          · exact Or.inl (by omega)
          · exact Or.inr hmem

theorem contains_s_iff (c : Char) :
    (CharSet.single 's' true).contains c = true ↔ c ∈ ['S', 's', 'ſ'] := by
  have hset : CharSet.single 's' true =
      ⟨['S'.toNat, 's'.toNat, 'ſ'.toNat].map fun n => (n, n)⟩ := by decide +kernel
  rw [hset, contains_points_iff _ (by decide)]
  simp only [List.mem_cons, List.not_mem_nil, or_false, Char.toNat_inj]

theorem contains_oxen_iff (x c : Char) (hx : x ∈ ['o', 'x', 'e', 'n']) :
    (CharSet.single x true).contains c = true ↔ c = x ∨ c = x.toUpper := by
  have hset : ∀ y ∈ ['o', 'x', 'e', 'n'], CharSet.single y true =
      ⟨[y.toUpper.toNat, y.toNat].map fun n => (n, n)⟩ ∧ y.toUpper.toNat < y.toNat := by
    rw [List.forall_mem_cons, List.forall_mem_cons, List.forall_mem_cons, List.forall_mem_singleton]
    decide +kernel
  obtain ⟨heq, hlt⟩ := hset x hx
  rw [heq, contains_points_iff _ (List.pairwise_pair.mpr hlt)]
  simp only [List.mem_cons, List.not_mem_nil, or_false, Char.toNat_inj]
  exact or_comm

/-- The rule for a final `s` applies to words with one, and leaves what is before it. -/
theorem final_replaceIn?_iff (rule : Rule) (h : isFinal rule = true) (word result : List Char) :
    rule.replaceIn? word = some result ↔ ∃ c ∈ ['S', 's', 'ſ'], word = result ++ [c] := by
  simp only [isFinal, Bool.and_eq_true, beq_iff_eq] at h
  obtain ⟨⟨hstraight, hreplacement⟩, hpaths⟩ := h
  -- The rule has one path, a letter and the end of the word, so a match is the last letter, and
  -- what is left is the rest.
  have hshape : ∀ result, rule.replaceIn? word = some result →
      ∃ c ∈ ['S', 's', 'ſ'], word = result ++ [c] := by
    intro result hresult
    obtain ⟨path, hmem, skipped, text, rest, hreplaces⟩ :=
      replaceFirst?_replaces rule.pattern _ hpaths _ word result hresult
    obtain rfl := List.mem_singleton.mp hmem
    obtain ⟨c, tail, hc, htail, rfl⟩ := List.forall₂_cons_left_iff.mp hreplaces.spells
    obtain rfl := List.forall₂_nil_left_iff.mp htail
    obtain rfl := hreplaces.atStop rfl
    have hword := hreplaces.word
    have hleft := hreplaces.result
    rw [hreplacement] at hleft
    rw [List.append_nil] at hword
    refine ⟨c, (contains_s_iff c).mp hc, ?_⟩
    rw [hword, hleft]
    simp [Path.expand, Template.pieces, Template.scan]
  refine ⟨hshape result, ?_⟩
  -- Conversely the path leads through the last letter, so the rule replaces something; what it
  -- makes then is known from its shape.
  rintro ⟨c, hc, rfl⟩
  have hpasses : Path.Passes [letter 's', .check .stop]
      ⟨result.getLast?, [c], result.length, []⟩ ⟨some c, [], result.length + 1, []⟩ :=
    Path.passes_chars _ _ c _ [] _ [] _ ((contains_s_iff c).mpr hc) ⟨rfl, rfl⟩
  obtain ⟨other, hother⟩ := Option.isSome_iff_exists.mp
    (replaceFirst?_of_path rule.pattern hstraight _ hpaths _ (List.mem_singleton_self _) result [c] _
      hpasses rule.replacement.toList)
  obtain ⟨d, -, hword⟩ := hshape other hother
  obtain ⟨rfl, -⟩ := List.append_inj' hword rfl
  exact hother

/-- The rule about `oxen` applies to words that begin with it. -/
theorem oxen_replaceIn?_iff (rule : Rule) (h : isOxen rule = true) (word : List Char) :
    (rule.replaceIn? word).isSome ↔ BeginsWithOxen word := by
  simp only [isOxen, Bool.and_eq_true, beq_iff_eq] at h
  obtain ⟨hstraight, hpaths⟩ := h
  have ho := fun c => contains_oxen_iff 'o' c (by decide)
  have hx := fun c => contains_oxen_iff 'x' c (by decide)
  have he := fun c => contains_oxen_iff 'e' c (by decide)
  have hn := fun c => contains_oxen_iff 'n' c (by decide)
  constructor
  · intro hsome
    obtain ⟨result, hresult⟩ := Option.isSome_iff_exists.mp hsome
    obtain ⟨path, hmem, skipped, text, rest, hreplaces⟩ :=
      replaceFirst?_replaces rule.pattern _ hpaths _ word result hresult
    obtain rfl := List.mem_singleton.mp hmem
    -- The path is anchored at the start, so nothing was skipped and the four letters come first.
    obtain rfl := hreplaces.atStart rfl
    refine ⟨text, rest, hreplaces.word, ?_⟩
    have hspells := hreplaces.spells
    simp only [Path.Spells, Path.sets, letter, List.forall₂_cons_left_iff,
      List.forall₂_nil_left_iff, ho, hx, he, hn] at hspells ⊢
    exact hspells
  · rintro ⟨start, rest, rfl, hstart⟩
    simp only [List.forall₂_cons_left_iff, List.forall₂_nil_left_iff] at hstart
    obtain ⟨o, -, hlo, ⟨x, -, hlx, ⟨e, -, hle, ⟨n, -, hln, rfl, rfl⟩, rfl⟩, rfl⟩, rfl⟩ := hstart
    -- The path is walked letter by letter.
    refine replaceFirst?_of_path rule.pattern hstraight _ hpaths _ (List.mem_singleton_self _) []
      (o :: x :: e :: n :: rest) ⟨some n, rest, 4, [(3, 2), (2, 0)]⟩ ⟨rfl, ?_⟩ _
    refine Path.passes_chars _ _ o _ _ _ _ _ ((ho o).mpr hlo) ?_
    refine Path.passes_chars _ _ x _ _ _ _ _ ((hx x).mpr hlx) ?_
    refine Path.passes_chars _ _ e _ _ _ _ _ ((he e).mpr hle) ?_
    exact Path.passes_chars _ _ n _ _ _ _ _ ((hn n).mpr hln) rfl

/-- The two last characters of the word are solid. -/
def hasSolidEnd (word : List Char) : Bool :=
  match word.reverse with
  | c :: d :: _ => !isSpace c && !isSpace d
  | _ => false

/-- All words that are uncountable or a form of an irregular pair have a solid end. -/
theorem vocabulary_checked :
    (RuleSet.english.uncountables.all hasSolidEnd && RuleSet.english.irregulars.all fun pair =>
      hasSolidEnd pair.singular && hasSolidEnd pair.plural) = true := by
  decide +kernel

/-- White space has no other form in lower case. -/
theorem lowerForm_of_isSpace (d : Char) (h : isSpace d = true) :
    d ≠ 'Σ' ∧ mapCase lowerRuns lowerExpansions d = [d] := by
  have hpoints : ∀ range ∈ spaceRanges, ∀ n ∈ List.range' range.1 (range.2 - range.1 + 1),
      n ≠ 'Σ'.toNat ∧ lowerExpansions.lookup n = none ∧ ShiftRun.shifted? lowerRuns n = none := by
    decide +kernel
  obtain ⟨range, hrange, hlow, hhigh⟩ := exists_range_of_anyContains spaceRanges d.toNat h
  obtain ⟨hsigma, hexpansion, hshift⟩ := hpoints range hrange d.toNat
    (List.mem_range'_1.mpr ⟨hlow, by omega⟩)
  refine ⟨fun heq => hsigma (congrArg Char.toNat heq), ?_⟩
  unfold mapCase
  rw [hexpansion, hshift]

/-- The lower-case form of a text ends in that of its end, given what is before. -/
theorem lowerFrom_append (before s ending : List Char) :
    ∃ front, lowerFrom before (s ++ ending) = front ++ lowerFrom (s.reverse ++ before) ending := by
  induction s generalizing before with
  | nil => exact ⟨[], rfl⟩
  | cons c rest ih =>
      obtain ⟨front, hfront⟩ := ih (c :: before)
      rw [List.cons_append, lowerFrom, hfront, List.reverse_cons, List.append_assoc]
      exact ⟨_, (List.append_assoc _ _ _).symm⟩

/-- A character that stands at the end after white space stays there in the last segment, and in
    lower case. -/
theorem lowercase_lastSegment (front : List Char) (d c e : Char) (hd : isSpace d = true)
    (hc : c ≠ '_') (hsigma : c ≠ 'Σ') (he : mapCase lowerRuns lowerExpansions c = [e]) :
    ∃ more, lowercase (lastSegment (front ++ [d, c])) = more ++ [d, e] := by
  have hblank : isSpace '_' = false := by decide
  have hne : d ≠ '_' := fun heq => by
    rw [heq, hblank] at hd
    exact nomatch hd
  obtain ⟨hsigma', hsame⟩ := lowerForm_of_isSpace d hd
  have hsegment : lastSegment (front ++ [d, c]) = lastSegment front ++ [d, c] := by
    simp [lastSegment, hc, hne]
  obtain ⟨more, hmore⟩ := lowerFrom_append [] (lastSegment front) [d, c]
  refine ⟨more, ?_⟩
  rw [hsegment, lowercase, hmore]
  simp only [lowerFrom, if_neg hsigma', if_neg hsigma, hsame, he]
  rfl

/-- A word with a lone ending has no solid end, not even as its last segment in lower case. -/
theorem hasSolidEnd_of_loneEnding (word : List Char) (h : LoneEnding word) :
    hasSolidEnd (lowercase (lastSegment word)) = false := by
  have hletters : ∀ c ∈ ['S', 's', 'ſ'], hasSolidEnd (lowercase (lastSegment [c])) = false ∧
      c ≠ '_' ∧ c ≠ 'Σ' ∧ (mapCase lowerRuns lowerExpansions c).length = 1 := by
    rw [List.forall_mem_cons, List.forall_mem_cons, List.forall_mem_singleton]
    decide +kernel
  -- The ending is the whole word, or white space stands before it and becomes the end of the
  -- segment without it.
  obtain ⟨front, c, rfl, hc, hfront⟩ := h
  obtain ⟨halone, hne, hsigma, hform⟩ := hletters c hc
  rcases hfront with rfl | ⟨d, hd, hspace⟩
  · exact halone
  · obtain ⟨start, rfl⟩ := List.getLast?_eq_some_iff.mp hd
    obtain ⟨e, he⟩ := List.length_eq_one_iff.mp hform
    obtain ⟨more, hmore⟩ := lowercase_lastSegment start d c e hspace hne hsigma he
    rw [List.append_assoc]
    change hasSolidEnd (lowercase (lastSegment (start ++ [d, c]))) = false
    rw [hmore, hasSolidEnd, List.reverse_append]
    simp [hspace]

/-- No word with a lone ending is uncountable or a form of an irregular pair. -/
theorem not_known_of_loneEnding (word : List Char) (h : LoneEnding word) (form : Form) :
    RuleSet.english.isUncountable word = false ∧ RuleSet.english.irregular? form word = none := by
  obtain ⟨huncountable, hirregular⟩ := Bool.and_eq_true_iff.mp vocabulary_checked
  have hend := hasSolidEnd_of_loneEnding word h
  -- Whatever the word is compared with has a solid end.
  have hne : ∀ known, hasSolidEnd known = true → lowercase (lastSegment word) ≠ known := by
    rintro known hknown rfl
    rw [hend] at hknown
    exact nomatch hknown
  constructor
  · rw [RuleSet.isUncountable, ← Bool.not_eq_true, List.contains_iff_mem]
    exact fun hmem => hne _ (List.all_eq_true.mp huncountable _ hmem) rfl
  · refine List.findSome?_eq_none_iff.mpr fun pair hmem => ?_
    have hpair := List.all_eq_true.mp hirregular pair (List.mem_reverse.mp hmem)
    obtain ⟨hsingular, hplural⟩ := Bool.and_eq_true_iff.mp hpair
    have hforms : ∀ f, hasSolidEnd (pair.get f) = true := fun f => by
      cases f with
      | singular => exact hsingular
      | plural => exact hplural
    rw [if_neg (hne _ (hforms form)), if_neg (hne _ (hforms form.opposite))]

/-- What is before a final character of a neat word is neat, or there is nothing or white space at
    its end. -/
theorem neat_or_blankEnd (front : List Char) (c : Char) (h : Neat (front ++ [c])) :
    Neat front ∨ front = [] ∨ ∃ d ∈ front.getLast?, isSpace d = true := by
  obtain ⟨hfirst, -⟩ := (neat_iff_ends _).mp h
  cases hlast : front.getLast? with
  | none => exact Or.inr (Or.inl (List.getLast?_eq_none_iff.mp hlast))
  | some d =>
      cases hspace : isSpace d with
      | true => exact Or.inr (Or.inr ⟨d, rfl, hspace⟩)
      | false =>
          refine Or.inl ((neat_iff_ends front).mpr ⟨?_, d, hlast, hspace⟩)
          cases front with
          | nil => exact nomatch hlast
          | cons first rest => exact hfirst

/-- Nothing but a solid end makes a text neat. -/
theorem not_neat_of_blankEnd (front : List Char)
    (h : front = [] ∨ ∃ d ∈ front.getLast?, isSpace d = true) : ¬Neat front := by
  rintro hneat
  obtain ⟨-, d, hd, hsolid⟩ := (neat_iff_ends front).mp hneat
  rcases h with rfl | ⟨e, he, hspace⟩
  · exact nomatch hd
  · obtain rfl := Option.mem_unique hd he
    exact not_solid_of_isSpace _ hspace hsolid

/-- A word with a lone ending does not have two solid characters at its end. -/
theorem not_solid_of_loneEnding (front : List Char) (c d : Char) (h : LoneEnding (front ++ [c, d])) :
    ¬Solid c := by
  obtain ⟨front', e, heq, -, hblank⟩ := h
  have hsplit : (front ++ [c]) ++ [d] = front' ++ [e] := by
    rw [List.append_assoc]
    exact heq
  obtain ⟨rfl, -⟩ := List.append_inj' hsplit rfl
  intro hsolid
  rcases hblank with hnil | ⟨b, hb, hspace⟩
  · exact absurd hnil (by simp)
  · rw [Option.mem_def, List.getLast?_concat] at hb
    obtain rfl := Option.some.inj hb
    exact not_solid_of_isSpace _ hspace hsolid

theorem english_singulars : RuleSet.english.singulars = compile singulars := rfl

/-- The rules in the order of priority are the one for a final `s` behind all others. -/
theorem regular?_singulars (word : List Char) (first : Rule) (others : List Rule)
    (h : compile singulars = first :: others) :
    RuleSet.english.regular? .singular word =
      (others.reverse.findSome? fun rule => rule.replaceIn? word).or (first.replaceIn? word) := by
  rw [RuleSet.regular?, RuleSet.rulesFor, english_singulars, h, List.reverse_cons,
    List.findSome?_append]
  cases hfirst : first.replaceIn? word <;> simp [hfirst]

/-- What is known of the rules for singular forms. -/
theorem exists_rules : ∃ first others, compile singulars = first :: others ∧
    isFinal first = true ∧ (∃ rule ∈ others, isOxen rule = true) ∧
      ∀ rule ∈ others, rule.keepsEnds = true ∧ (rule.endsSolid = true ∨ isOxen rule = true) := by
  have hchecked := singulars_checked
  cases hrules : compile singulars with
  | nil =>
      rw [hrules] at hchecked
      exact nomatch hchecked
  | cons first others =>
      rw [hrules] at hchecked
      simp only [areChecked, Bool.and_eq_true, List.any_eq_true, List.all_eq_true,
        Bool.or_eq_true] at hchecked
      exact ⟨first, others, rfl, hchecked.1.1, hchecked.1.2, hchecked.2⟩

theorem irregulars_neat : ∀ pair ∈ RuleSet.english.irregulars, pair.IsNeat .singular := by
  decide +kernel

/-- No other rule applies to a word with a lone ending that does not begin with `oxen`. -/
theorem others_of_loneEnding (word : List Char) (hlone : LoneEnding word)
    (hnot : ¬BeginsWithOxen word) (others : List Rule)
    (hothers : ∀ rule ∈ others, rule.endsSolid = true ∨ isOxen rule = true) :
    (others.reverse.findSome? fun rule => rule.replaceIn? word) = none := by
  refine List.findSome?_eq_none_iff.mpr fun rule hmem => ?_
  cases hresult : rule.replaceIn? word with
  | none => rfl
  | some result =>
      rcases hothers rule (List.mem_reverse.mp hmem) with hsolid | hoxen
      · obtain ⟨front, c, d, rfl, hc, -⟩ := Rule.word_of_endsSolid rule hsolid word result hresult
        exact absurd hc (not_solid_of_loneEnding front c d hlone)
      · exact absurd ((oxen_replaceIn?_iff rule hoxen word).mp (Option.isSome_of_eq_some hresult)) hnot

/-- If a rule that keeps the ends of words applies, the first that does makes a neat word. -/
theorem neat_of_others (word result other : List Char) (hword : Neat word) (others : List Rule)
    (hothers : ∀ rule ∈ others, rule.keepsEnds = true) (rule : Rule) (hmem : rule ∈ others)
    (hrule : rule.replaceIn? word = some other) (last : Option (List Char))
    (h : ((others.reverse.findSome? fun rule => rule.replaceIn? word).or last) = some result) :
    Neat result := by
  cases hfound : others.reverse.findSome? fun rule => rule.replaceIn? word with
  | none =>
      have hnone := List.findSome?_eq_none_iff.mp hfound rule (List.mem_reverse.mpr hmem)
      rw [hrule] at hnone
      exact nomatch hnone
  | some found =>
      rw [hfound] at h
      obtain rfl := Option.some.inj h
      obtain ⟨rule', hmem', hresult⟩ := List.exists_of_findSome?_eq_some hfound
      exact Rule.neat_of_keepsEnds rule' (hothers rule' (List.mem_reverse.mp hmem')) word found
        hresult hword

/-- A word with a lone ending loses it, unless the word begins with `oxen`. -/
theorem english_singularize_of_loneEnding (word : List Char) (hlone : LoneEnding word)
    (hnotOxen : ¬BeginsWithOxen word) : RuleSet.english.singularize word = word.dropLast := by
  obtain ⟨first, others, hrules, hfinal, -, hothers⟩ := exists_rules
  have hregular := regular?_singulars word first others hrules
  obtain ⟨huncountable, hirregular⟩ := not_known_of_loneEnding word hlone .singular
  rw [others_of_loneEnding word hlone hnotOxen others fun rule h => (hothers rule h).2,
    Option.none_or] at hregular
  obtain ⟨front, c, heq, hc, -⟩ := hlone
  rw [(final_replaceIn?_iff first hfinal word front).mpr ⟨c, hc, heq⟩] at hregular
  unfold RuleSet.singularize RuleSet.inflect
  rw [huncountable, hirregular, hregular, heq, List.dropLast_concat]
  simp

/-- The singular form of a neat word is not neat exactly if the word has a lone ending and does not
    begin with `oxen`. -/
theorem english_singularize_not_neat_iff (word : List Char) (hword : Neat word) :
    ¬Neat (RuleSet.english.singularize word) ↔ LoneEnding word ∧ ¬BeginsWithOxen word := by
  obtain ⟨first, others, hrules, hfinal, ⟨oxen, hmem, hoxen⟩, hothers⟩ := exists_rules
  have hregular := regular?_singulars word first others hrules
  constructor
  · intro hnot
    -- Only a rule that does not keep the ends of words can spoil a neat one, and that is the rule
    -- for a final letter.
    rcases RuleSet.neat_or_rule RuleSet.english .singular irregulars_neat word hword with
      hneat | ⟨rule, hrule, hkeeps, -, hfound, hresult⟩
    · exact absurd hneat hnot
    · change rule ∈ RuleSet.english.singulars at hrule
      rw [english_singulars, hrules] at hrule
      rcases List.mem_cons.mp hrule with rfl | hother
      · obtain ⟨c, hc, heq⟩ := (final_replaceIn?_iff rule hfinal word _).mp hresult
        -- What it leaves ends in a blank or is empty. If the word began with oxen, the rule for
        -- that would have been asked first.
        refine ⟨⟨_, c, heq, hc, ?_⟩, fun hbegins => ?_⟩
        · rw [heq] at hword
          exact (neat_or_blankEnd _ c hword).resolve_left hnot
        · obtain ⟨other, hother⟩ :=
            Option.isSome_iff_exists.mp ((oxen_replaceIn?_iff oxen hoxen word).mpr hbegins)
          rw [hfound] at hregular
          exact hnot (neat_of_others word _ other hword others (fun rule h => (hothers rule h).1)
            oxen hmem hother _ hregular.symm)
      · rw [(hothers rule hother).1] at hkeeps
        exact nomatch hkeeps
  · rintro ⟨hlone, hnotOxen⟩
    rw [english_singularize_of_loneEnding word hlone hnotOxen]
    obtain ⟨front, c, rfl, hc, hblank⟩ := hlone
    rw [List.dropLast_concat]
    exact not_neat_of_blankEnd front hblank

end English

end FieldSchema
