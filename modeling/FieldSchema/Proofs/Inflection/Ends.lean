import FieldSchema.Inflection.Rules
import FieldSchema.Proofs.Pattern.Replacing
import FieldSchema.Proofs.Text.Neat

/-!
# Rules and the Ends of Words

When a rule makes a neat word of a neat word.

A replacement leaves what is before and behind the match as it was, so only
the match itself matters, and only if it is at an end of the word. Most rules
put the first group back and then some letters. If that group is where every
match begins and is not empty, the first character of the word stays where it
was. If letters follow the group, or the group ends in a set without spaces,
the word ends in something solid as well.

All of this can be read off the paths of the pattern and the pieces of the
template, so whether it holds of a rule is computed. Whoever writes rules of
this kind need not prove anything.

## Main definitions

* `CharSet.isSolid`: There is no white space in a set.
* `Path.keepsEnds`, `Rule.keepsEnds`: The ends of words stay solid.
* `Path.endsSolid`, `Rule.endsSolid`: A match reads the two last characters, and they are solid.

## Theorems

* `neat_of_keepsEnds`: A rule that keeps the ends of words makes neat words of neat ones.
* `word_of_endsSolid`: A rule that reads solid ends applies to words with such ends only.
* `neat_or_rule`: Only rules that do not keep ends make words that are not neat.
-/

namespace FieldSchema

namespace Text

theorem exists_range_of_anyContains (ranges : List CodeRange) (n : Nat)
    (h : CodeRange.anyContains ranges n = true) : ∃ r ∈ ranges, r.1 ≤ n ∧ n ≤ r.2 := by
  induction ranges with
  | nil => exact nomatch h
  | cons range rest ih =>
      obtain ⟨first, last⟩ := range
      rw [CodeRange.anyContains] at h
      split at h
      · exact nomatch h
      · rename_i hfirst
        rcases Bool.or_eq_true_iff.mp h with hlast | hrest
        · exact ⟨(first, last), List.mem_cons_self, Nat.le_of_not_lt hfirst, of_decide_eq_true hlast⟩
        · obtain ⟨r, hr, hle⟩ := ih hrest
          exact ⟨r, List.mem_cons_of_mem _ hr, hle⟩

end Text

namespace Pattern

open Text (Solid Neat neat_iff_ends)

/-- There is no white space in the set. -/
def CharSet.isSolid (set : CharSet) : Bool :=
  set.ranges.all fun range => Text.spaceRanges.all fun space =>
    range.2 < space.1 || space.2 < range.1

theorem CharSet.solid_of_isSolid (set : CharSet) (hset : set.isSolid = true) (c : Char)
    (hc : set.contains c = true) : Solid c := by
  obtain ⟨range, hrange, hlow, hhigh⟩ := Text.exists_range_of_anyContains set.ranges c.toNat hc
  by_contra hspace
  obtain ⟨space, hmem, hlow', hhigh'⟩ :=
    Text.exists_range_of_anyContains Text.spaceRanges c.toNat (eq_true_of_ne_false hspace)
  have hapart := List.all_eq_true.mp (List.all_eq_true.mp hset range hrange) space hmem
  simp only [Bool.or_eq_true, decide_eq_true_eq] at hapart
  omega

/-- The text of pieces that are solid characters and nothing else. -/
def solidText? : List Piece → Option (List Char)
  | [] => some []
  | .char c :: rest => if Text.isSpace c then none else (solidText? rest).map (c :: ·)
  | .numbered _ :: _ => none
  | .named _ :: _ => none

theorem solidText?_eq_some (pieces : List Piece) (letters : List Char)
    (h : solidText? pieces = some letters) :
    (∀ c ∈ letters, Solid c) ∧
      ∀ names path text, pieces.flatMap (Path.expandPiece names path text) = letters := by
  induction pieces generalizing letters with
  | nil =>
      obtain rfl := Option.some.inj h
      exact ⟨fun _ hc => absurd hc List.not_mem_nil, fun _ _ _ => rfl⟩
  | cons piece rest ih =>
      cases piece with
      | char c =>
          rw [solidText?, Option.ite_none_left_eq_some] at h
          -- A literal character stands for itself whatever the match was; a reference to a group
          -- would not.
          obtain ⟨hc, hrest⟩ := h
          obtain ⟨more, hmore, rfl⟩ := Option.map_eq_some_iff.mp hrest
          obtain ⟨hsolid, htext⟩ := ih more hmore
          refine ⟨List.forall_mem_cons.mpr ⟨eq_false_of_ne_true hc, hsolid⟩, fun names path text => ?_⟩
          rw [List.flatMap_cons, htext names path text]
          rfl
      | numbered index => exact nomatch h
      | named name => exact nomatch h

namespace Path

/-- The set from which the path reads its character number `n` has no white space in it. -/
def isSolidAt (p : Path) (n : Nat) : Bool :=
  p.sets[n]?.any CharSet.isSolid

theorem solid_of_isSolidAt (p : Path) (text : List Char) (hspells : p.Spells text) (n : Nat)
    (h : p.isSolidAt n = true) : ∃ c ∈ text[n]?, Solid c := by
  unfold isSolidAt at h
  cases hset : p.sets[n]? with
  | none =>
      rw [hset] at h
      exact nomatch h
  | some set =>
      rw [hset] at h
      obtain ⟨hn, rfl⟩ := List.getElem?_eq_some_iff.mp hset
      have hn' : n < text.length := hspells.length_eq ▸ hn
      exact ⟨text[n], List.getElem?_eq_getElem hn',
        CharSet.solid_of_isSolid _ h _ (hspells.get hn hn')⟩

/-- Every match by way of the path begins with the first group, which is not empty; the pieces put
    it back, and what they put is solid at its end. -/
def keepsEnds (pieces : List Piece) (p : Path) : Bool :=
  match pieces with
  | .numbered 1 :: more =>
      match p.markAt 2, p.markAt 3, solidText? more with
      | some 0, some (n + 1), some letters => !letters.isEmpty || p.isSolidAt n
      | _, _, _ => false
  | _ => false

theorem keepsEnds_cases (pieces : List Piece) (p : Path) (h : p.keepsEnds pieces = true) :
    ∃ more n letters, pieces = .numbered 1 :: more ∧ p.markAt 2 = some 0 ∧
      p.markAt 3 = some (n + 1) ∧ solidText? more = some letters ∧
        (letters ≠ [] ∨ p.isSolidAt n = true) := by
  unfold keepsEnds at h
  split at h
  · rename_i more
    split at h
    · rename_i n letters hstart hstop hletters
      refine ⟨more, n, letters, rfl, hstart, hstop, hletters, ?_⟩
      simpa using h
    · exact nomatch h
  · exact nomatch h

/-- Where a path keeps the ends, a replacement of a match by way of it is neat if the word is. -/
theorem keepsEnds_neat (names : List (List Char × Nat)) (template : List Char) (p : Path)
    (hp : p.keepsEnds (Template.pieces template) = true) (skipped text rest word result : List Char)
    (h : p.Replaces names template skipped text rest word result) (hword : Neat word) :
    Neat result := by
  obtain ⟨more, n, letters, hpieces, hstart, hstop, hletters, hend⟩ := keepsEnds_cases _ p hp
  obtain ⟨hsolid, htext⟩ := solidText?_eq_some more letters hletters
  have hn : n < text.length := by
    rw [← h.spells.length_eq]
    exact markAt_le p 3 (n + 1) hstop
  -- What is put in the place of the match begins like it.
  have hexpand : p.expand names text template = text.take (n + 1) ++ letters := by
    rw [expand, hpieces, List.flatMap_cons, htext]
    simp [expandPiece, group, hstart, hstop]
  have hresult := h.result
  rw [hexpand, List.append_assoc] at hresult
  obtain ⟨hfirst, hlast⟩ := (neat_iff_ends word).mp hword
  refine (neat_iff_ends result).mpr ⟨?_, ?_⟩
  · suffices hhead : result.head? = word.head? by
      rw [hhead]
      exact hfirst
    rw [hresult, h.word]
    obtain ⟨c, text, rfl⟩ := List.exists_cons_of_length_pos (Nat.zero_lt_of_lt hn)
    cases skipped <;> rfl
  · rw [hresult]
    rw [h.word] at hlast
    simp only [List.getLast?_append] at hlast ⊢
    cases hrest : rest.getLast? with
    | some c =>
        rw [hrest] at hlast
        simpa using hlast
    | none =>
        -- With nothing behind the match it depends on the letters, or else on the group.
        cases hletter : letters.getLast? with
        | some c => exact ⟨c, rfl, hsolid c (List.mem_of_getLast? hletter)⟩
        | none =>
            have hnil : letters = [] := List.getLast?_eq_none_iff.mp hletter
            obtain ⟨c, hc, hsolid⟩ := solid_of_isSolidAt p text h.spells n (hend.resolve_left fun hne => hne hnil)
            have htake : (text.take (n + 1)).getLast? = some c := by
              rw [List.getLast?_take]
              simp [Option.mem_def.mp hc]
            rw [htake]
            exact ⟨c, rfl, hsolid⟩

/-- The path leads to the end of the text, and the two characters before it are solid. -/
def endsSolid (p : Path) : Bool :=
  p.getLast? == some (.check .stop) &&
    match p.sets.reverse with
    | last :: other :: _ => last.isSolid && other.isSolid
    | _ => false

theorem endsSolid_cases (p : Path) (h : p.endsSolid = true) :
    p.getLast? = some (.check .stop) ∧ ∃ last other more, p.sets.reverse = last :: other :: more ∧
      last.isSolid = true ∧ other.isSolid = true := by
  obtain ⟨hstop, hsets⟩ := Bool.and_eq_true_iff.mp h
  refine ⟨beq_iff_eq.mp hstop, ?_⟩
  split at hsets
  · rename_i last other more heq
    obtain ⟨hlast, hother⟩ := Bool.and_eq_true_iff.mp hsets
    exact ⟨last, other, more, heq, hlast, hother⟩
  · exact nomatch hsets

/-- A word in which there is a match by way of such a path has two solid characters at its end. -/
theorem endsSolid_word (names : List (List Char × Nat)) (template : List Char) (p : Path)
    (hp : p.endsSolid = true) (skipped text rest word result : List Char)
    (h : p.Replaces names template skipped text rest word result) :
    ∃ front c d, word = front ++ [c, d] ∧ Solid c ∧ Solid d := by
  obtain ⟨hstop, last, other, more, hsets, hlast, hother⟩ := endsSolid_cases p hp
  have hspells := List.forall₂_reverse_iff.mpr h.spells
  rw [hsets, List.forall₂_cons_left_iff] at hspells
  obtain ⟨d, tail, hd, hspells, htext⟩ := hspells
  rw [List.forall₂_cons_left_iff] at hspells
  obtain ⟨c, tail', hc, -, rfl⟩ := hspells
  have hword := h.word
  rw [h.atStop hstop, List.append_nil, ← List.reverse_reverse text, htext] at hword
  refine ⟨skipped ++ tail'.reverse, c, d, ?_, CharSet.solid_of_isSolid other hother c hc,
    CharSet.solid_of_isSolid last hlast d hd⟩
  rw [hword]
  simp

end Path

end Pattern

namespace Rule

open Pattern Text

/-- There are finitely many paths through the pattern, and all of them meet the condition. -/
def everyPath (rule : Rule) (P : Path → Bool) : Bool :=
  rule.pattern.node.paths?.any fun paths => paths.all P

theorem replaces_of_everyPath (rule : Rule) (P : Path → Bool) (h : rule.everyPath P = true)
    (word result : List Char) (hresult : rule.replaceIn? word = some result) :
    ∃ path : Path, P path = true ∧ ∃ skipped text rest,
      path.Replaces rule.pattern.names rule.replacement.toList skipped text rest word result := by
  unfold everyPath at h
  cases hpaths : rule.pattern.node.paths? with
  | none =>
      rw [hpaths] at h
      exact nomatch h
  | some paths =>
      rw [hpaths] at h
      obtain ⟨path, hmem, hreplaces⟩ :=
        replaceFirst?_replaces rule.pattern paths hpaths _ word result hresult
      exact ⟨path, List.all_eq_true.mp h path hmem, hreplaces⟩

/-- The rule puts the first group back at the start of every match, and something solid at its
    end. -/
def keepsEnds (rule : Rule) : Bool :=
  rule.everyPath (Path.keepsEnds (Template.pieces rule.replacement.toList))

/-- The rule reads two solid characters at the end of a word in every match. -/
def endsSolid (rule : Rule) : Bool :=
  rule.everyPath Path.endsSolid

/-- A rule that keeps the ends of words makes neat words of neat ones. -/
theorem neat_of_keepsEnds (rule : Rule) (h : rule.keepsEnds = true) (word result : List Char)
    (hresult : rule.replaceIn? word = some result) (hword : Neat word) : Neat result := by
  obtain ⟨path, hpath, skipped, text, rest, hreplaces⟩ :=
    replaces_of_everyPath rule _ h word result hresult
  exact Path.keepsEnds_neat _ _ path hpath skipped text rest word result hreplaces hword

/-- A rule that reads solid ends applies to words with such ends only. -/
theorem word_of_endsSolid (rule : Rule) (h : rule.endsSolid = true) (word result : List Char)
    (hresult : rule.replaceIn? word = some result) :
    ∃ front c d, word = front ++ [c, d] ∧ Solid c ∧ Solid d := by
  obtain ⟨path, hpath, skipped, text, rest, hreplaces⟩ :=
    replaces_of_everyPath rule _ h word result hresult
  exact Path.endsSolid_word _ _ path hpath skipped text rest word result hreplaces

end Rule

namespace IrregularPair

open Text

/-- The form of the pair is neat, written with a small or a capital letter. -/
def IsNeat (pair : IrregularPair) (form : Form) : Prop :=
  Neat (pair.get form) ∧ Neat (matchCase ['A'] (pair.get form))

instance (pair : IrregularPair) (form : Form) : Decidable (pair.IsNeat form) :=
  inferInstanceAs (Decidable (_ ∧ _))

theorem matchCase_cases (model word : List Char) :
    matchCase model word = word ∨ matchCase model word = matchCase ['A'] word := by
  cases model with
  | nil => exact Or.inl rfl
  | cons m model =>
      cases word with
      | nil => exact Or.inl rfl
      | cons c rest =>
          cases hm : isUppercase m with
          | true =>
              have hcapital : isUppercase 'A' = true := by decide
              exact Or.inr (by simp only [matchCase, hm, hcapital])
          | false => exact Or.inl (by simp only [matchCase, hm, Bool.false_eq_true, if_false])

theorem neat_matchCase (pair : IrregularPair) (form : Form) (h : pair.IsNeat form)
    (model : List Char) : Neat (matchCase model (pair.get form)) := by
  rcases matchCase_cases model (pair.get form) with heq | heq
  · rw [heq]
    exact h.1
  · rw [heq]
    exact h.2

end IrregularPair

namespace RuleSet

open Text

/-- An irregular form of a neat word is neat if the forms of the pairs are. -/
theorem neat_irregular? (r : RuleSet) (form : Form) (word result : List Char)
    (hpairs : ∀ pair ∈ r.irregulars, pair.IsNeat form) (hword : Neat word)
    (h : r.irregular? form word = some result) : Neat result := by
  obtain ⟨pair, hmem, hresult⟩ := List.exists_of_findSome?_eq_some h
  split at hresult
  · obtain rfl := Option.some.inj hresult
    exact hword
  · split at hresult
    · obtain rfl := Option.some.inj hresult
      exact neat_take_append word _ _ hword
        (IrregularPair.neat_matchCase pair form (hpairs pair (List.mem_reverse.mp hmem)) _)
    · exact nomatch hresult

/-- A form of a neat word is neat, or it was made by a rule that does not keep the ends of
    words. -/
theorem neat_or_rule (r : RuleSet) (form : Form)
    (hpairs : ∀ pair ∈ r.irregulars, pair.IsNeat form) (word : List Char) (hword : Neat word) :
    Neat (r.inflect form word) ∨ ∃ rule ∈ r.rulesFor form, rule.keepsEnds = false ∧
      r.irregular? form word = none ∧ r.regular? form word = some (r.inflect form word) ∧
      rule.replaceIn? word = some (r.inflect form word) := by
  unfold inflect
  split
  · exact Or.inl hword
  · cases hirregular : r.irregular? form word with
    | some result => exact Or.inl (neat_irregular? r form word result hpairs hword hirregular)
    | none =>
        cases hregular : r.regular? form word with
        | none => exact Or.inl hword
        | some result =>
            obtain ⟨rule, hmem, hresult⟩ := List.exists_of_findSome?_eq_some hregular
            cases hkeeps : rule.keepsEnds with
            | true => exact Or.inl (Rule.neat_of_keepsEnds rule hkeeps word result hresult hword)
            | false =>
                exact Or.inr ⟨rule, List.mem_reverse.mp hmem, hkeeps, rfl, rfl, hresult⟩

end RuleSet

end FieldSchema
