import FieldSchema.Inflection.Table

/-!
# What Takes Priority

Whether the entries of a table prevail over the vocabulary below them.

A table adds its entries behind those of its base, and later entries are asked
first. But they are asked first among entries of their own sort. The sorts
have an order that does not depend on where an entry comes from: uncountable
words before irregular pairs before rules. So a table prevails over its base
within each sort, and an entry of a higher sort in the base prevails over the
table. A rule or a pair for a word that the base holds to be uncountable is
never asked, nor is a rule for a word of which the base has an irregular pair.

`Overrules` says when that happens and shows in the result. It is stated for
any two vocabularies of which one lies on top of the other, and it is exact:
where the table has an entry for a word, the word has the form that it would
have without the base unless the base overrules it.

## Main definitions

* `RuleSet.onto`: A vocabulary on top of another.
* `RuleSet.Knows`: A vocabulary has an entry for a word.
* `RuleSet.Overrules`: A vocabulary prevails over the one on top of it.
* `InflectionTable.AppliesTo`: A table has an entry for a word.

## Theorems

* `compile_eq_ok_iff`: A compiled table is its entries on top of its base.
* `inflect_onto_eq_iff`: An entry prevails unless it is overruled.
* `compile_english_eq_iff`: So it is with tables on top of the English vocabulary.
* `english_overrules_fish`: A table that the English vocabulary overrules.
-/

namespace FieldSchema

namespace RuleSet

/-- A vocabulary whose entries were added on top of another. -/
def onto (own base : RuleSet) : RuleSet :=
  ⟨base.singulars ++ own.singulars, base.plurals ++ own.plurals,
    base.irregulars ++ own.irregulars, base.uncountables ++ own.uncountables⟩

theorem isUncountable_onto (own base : RuleSet) (word : List Char) :
    (own.onto base).isUncountable word =
      (base.isUncountable word || own.isUncountable word) := by
  simp only [isUncountable, onto, List.contains_eq_any_beq, List.any_append]

/-- Among irregular pairs the upper vocabulary is asked first. -/
theorem irregular?_onto (own base : RuleSet) (form : Form) (word : List Char) :
    (own.onto base).irregular? form word =
      (own.irregular? form word).or (base.irregular? form word) := by
  simp only [irregular?, onto, List.reverse_append, List.findSome?_append]

/-- Among rules the upper vocabulary is asked first. -/
theorem regular?_onto (own base : RuleSet) (form : Form) (word : List Char) :
    (own.onto base).regular? form word =
      (own.regular? form word).or (base.regular? form word) := by
  cases form <;>
    simp only [regular?, rulesFor, onto, List.reverse_append, List.findSome?_append]

theorem onto_empty (own : RuleSet) : own.onto .empty = own := by
  simp only [onto, empty, List.nil_append]

/-- A pair is found for a word whose last segment is one of its forms. -/
theorem irregular?_isSome (r : RuleSet) (form : Form) (word : List Char) (pair : IrregularPair)
    (hpair : pair ∈ r.irregulars)
    (h : Text.lowercase (lastSegment word) = pair.singular ∨
      Text.lowercase (lastSegment word) = pair.plural) :
    (r.irregular? form word).isSome = true := by
  have hforms : Text.lowercase (lastSegment word) = pair.get form ∨
      Text.lowercase (lastSegment word) = pair.get form.opposite := by
    cases form with
    | singular => exact h
    | plural => exact h.symm
  unfold irregular?
  rw [List.findSome?_isSome_iff]
  refine ⟨pair, List.mem_reverse.mpr hpair, ?_⟩
  split
  · rfl
  · rename_i hother
    rw [if_pos (hforms.resolve_left hother)]
    rfl

/-- There is an entry for the last segment of the word, or a rule that matches the word. -/
def Knows (r : RuleSet) (form : Form) (word : List Char) : Prop :=
  r.isUncountable word = true ∨ (r.irregular? form word).isSome = true ∨
    (r.regular? form word).isSome = true

/-- The vocabulary prevails over the one on top of it: it holds the word to be uncountable where
    the other changes it, or has an irregular pair for it where the other follows a rule to a
    different form. -/
def Overrules (base own : RuleSet) (form : Form) (word : List Char) : Prop :=
  word ≠ [] ∧ own.isUncountable word = false ∧
    ((base.isUncountable word = true ∧ own.inflect form word ≠ word) ∨
      (base.isUncountable word = false ∧ own.irregular? form word = none ∧
        ∃ inflected, base.irregular? form word = some inflected ∧
          inflected ≠ own.inflect form word))

/-- An entry of the upper vocabulary prevails unless it is overruled. -/
theorem inflect_onto_eq_iff (own base : RuleSet) (form : Form) (word : List Char)
    (h : own.Knows form word) :
    (own.onto base).inflect form word = own.inflect form word ↔
      ¬ base.Overrules own form word := by
  unfold Overrules
  by_cases hempty : word = []
  · subst hempty
    simp only [inflect, List.isEmpty_nil, Bool.true_or, if_true, ne_eq, not_true, false_and,
      not_false_eq_true]
  have hnonempty : word.isEmpty = false := by
    rw [List.isEmpty_eq_false_iff]
    exact hempty
  cases hown : own.isUncountable word with
  -- What is uncountable above is so on top, too.
  | true =>
      simp only [inflect, isUncountable_onto, hown, Bool.or_true, if_true, Bool.true_eq_false,
        false_and, and_false, not_false_eq_true]
  | false =>
      have hinflect : own.inflect form word =
          ((own.irregular? form word).or (own.regular? form word)).getD word := by
        simp only [inflect, hnonempty, hown, Bool.or_self, Bool.false_eq_true, if_false]
      cases hbase : base.isUncountable word with
      | true =>
          have honto : (own.onto base).inflect form word = word := by
            simp only [inflect, isUncountable_onto, hbase, Bool.true_or, Bool.or_true, if_true]
          rw [honto]
          simp only [hempty, ne_eq, not_false_eq_true, true_and, Bool.true_eq_false, false_and,
            or_false, Decidable.not_not]
          exact eq_comm
      | false =>
          have honto : (own.onto base).inflect form word =
              (((own.irregular? form word).or (base.irregular? form word)).or
                ((own.regular? form word).or (base.regular? form word))).getD word := by
            simp only [inflect, hnonempty, isUncountable_onto, hbase, hown, Bool.or_self,
              Bool.false_eq_true, if_false, irregular?_onto, regular?_onto]
          rw [honto, hinflect]
          -- A pair of the upper vocabulary is found first; for a rule, the pairs below come before.
          cases hirregular : own.irregular? form word with
          | some v => simp
          | none =>
              obtain ⟨v, hregular⟩ : ∃ v, own.regular? form word = some v := by
                rcases h with h | h | h
                · exact absurd h (by rw [hown]; exact Bool.false_ne_true)
                · rw [hirregular] at h
                  exact nomatch h
                · exact Option.isSome_iff_exists.mp h
              rw [hregular]
              cases hpair : base.irregular? form word with
              | none => simp
              | some u => simp [hempty]

end RuleSet

/-- The pair that an entry describes. -/
def IrregularEntry.pair (entry : IrregularEntry) : IrregularPair :=
  ⟨Text.lowercase entry.singular.toList, Text.lowercase entry.plural.toList⟩

/-- Adding entries one after another puts all of them behind those of one sort, if adding one puts
    it there. -/
theorem foldl_add {α β : Type} (add : RuleSet → α → RuleSet) (put : RuleSet → List β → RuleSet)
    (entry : α → β) (hnil : ∀ r, put r [] = r)
    (hcons : ∀ r a rest, put (add r a) rest = put r (entry a :: rest)) (entries : List α)
    (r : RuleSet) : entries.foldl add r = put r (entries.map entry) := by
  induction entries generalizing r with
  | nil => exact (hnil r).symm
  | cons a rest ih =>
      rw [List.foldl_cons, ih, hcons]
      rfl

/-- Whatever a list of texts compiles to has the result of each. -/
theorem mem_of_mapM {ε α β : Type} (f : α → Except ε β) (xs : List α) (ys : List β)
    (h : xs.mapM f = .ok ys) (x : α) (hx : x ∈ xs) (y : β) (hy : f x = .ok y) : y ∈ ys := by
  induction xs generalizing ys with
  | nil => exact absurd hx List.not_mem_nil
  | cons head rest ih =>
      rw [List.mapM_cons] at h
      -- The list has come to values, so the head has, and so have the others.
      cases hhead : f head with
      | error e =>
          rw [hhead] at h
          exact nomatch h
      | ok first =>
          cases hrest : rest.mapM f with
          | error e =>
              rw [hhead, hrest] at h
              exact nomatch h
          | ok others =>
              rw [hhead, hrest] at h
              obtain rfl : first :: others = ys := Except.ok.inj h
              rcases List.mem_cons.mp hx with rfl | hmem
              · rw [hhead] at hy
                rw [Except.ok.inj hy]
                exact List.mem_cons_self
              · exact List.mem_cons_of_mem first (ih others hrest hmem)

namespace InflectionTable

/-- The entries of a table whose rules have been compiled. -/
def entries (table : InflectionTable) (singulars plurals : List Rule) : RuleSet :=
  ⟨singulars, plurals, table.irregulars.map IrregularEntry.pair,
    table.uncountables.map fun word => Text.lowercase word.toList⟩

theorem foldl_entries (table : InflectionTable) (singulars plurals : List Rule)
    (base : RuleSet) :
    table.uncountables.foldl RuleSet.addUncountable
      (table.irregulars.foldl (fun r e => r.addIrregular e.singular e.plural)
        (plurals.foldl RuleSet.addPlural (singulars.foldl RuleSet.addSingular base))) =
      (table.entries singulars plurals).onto base := by
  -- Each of the four loops appends its entries to one list of the vocabulary and leaves the others
  -- alone.
  rw [foldl_add RuleSet.addSingular (fun r rules => { r with singulars := r.singulars ++ rules })
    id (fun r => by simp only [List.append_nil])
    (fun r a rest => by simp only [RuleSet.addSingular, List.append_assoc]; rfl)]
  rw [foldl_add RuleSet.addPlural (fun r rules => { r with plurals := r.plurals ++ rules })
    id (fun r => by simp only [List.append_nil])
    (fun r a rest => by simp only [RuleSet.addPlural, List.append_assoc]; rfl)]
  rw [foldl_add (fun r (e : IrregularEntry) => r.addIrregular e.singular e.plural)
    (fun r pairs => { r with irregulars := r.irregulars ++ pairs })
    IrregularEntry.pair (fun r => by simp only [List.append_nil])
    (fun r a rest => by simp only [RuleSet.addIrregular, List.append_assoc]; rfl)]
  rw [foldl_add RuleSet.addUncountable
    (fun r words => { r with uncountables := r.uncountables ++ words })
    (fun word => Text.lowercase word.toList) (fun r => by simp only [List.append_nil])
    (fun r a rest => by simp only [RuleSet.addUncountable, List.append_assoc]; rfl)]
  simp only [entries, RuleSet.onto, List.map_id]

/-- A compiled table is its entries on top of its base. -/
theorem compile_eq_ok_iff (table : InflectionTable) (r : RuleSet) :
    table.compile = .ok r ↔
      ∃ singulars plurals, table.singulars.mapM RuleEntry.compile = .ok singulars ∧
        table.plurals.mapM RuleEntry.compile = .ok plurals ∧
        r = (table.entries singulars plurals).onto table.base.rules := by
  unfold compile
  cases hsingulars : table.singulars.mapM RuleEntry.compile with
  | error fault =>
      simp only [bind, Except.bind, reduceCtorEq, false_and, exists_false]
  | ok singulars =>
      cases hplurals : table.plurals.mapM RuleEntry.compile with
      | error fault =>
          simp only [bind, Except.bind, reduceCtorEq, false_and, and_false, exists_false]
      | ok plurals =>
          simp only [bind, Except.bind, pure, Except.pure, Except.ok.injEq, foldl_entries,
            exists_and_left, exists_eq_left']
          exact eq_comm

/-- The rules of the table for a form. -/
def rulesFor (table : InflectionTable) : Form → List RuleEntry
  | .singular => table.singulars
  | .plural => table.plurals

/-- An entry of the table applies to the word: its last segment is uncountable or in an irregular
    pair, regardless of case, or a rule for the form matches it. -/
def AppliesTo (table : InflectionTable) (form : Form) (word : List Char) : Prop :=
  (∃ entry ∈ table.uncountables,
    Text.lowercase (lastSegment word) = Text.lowercase entry.toList) ∨
  (∃ entry ∈ table.irregulars,
    Text.lowercase (lastSegment word) = Text.lowercase entry.singular.toList ∨
      Text.lowercase (lastSegment word) = Text.lowercase entry.plural.toList) ∨
  ∃ entry ∈ table.rulesFor form, ∃ rule, entry.compile = .ok rule ∧
    (rule.replaceIn? word).isSome = true

/-- What the table has an entry for, its compiled entries know. -/
theorem knows_of_appliesTo (table : InflectionTable) (singulars plurals : List Rule)
    (hsingulars : table.singulars.mapM RuleEntry.compile = .ok singulars)
    (hplurals : table.plurals.mapM RuleEntry.compile = .ok plurals) (form : Form)
    (word : List Char) (h : table.AppliesTo form word) :
    (table.entries singulars plurals).Knows form word := by
  -- The word is uncountable in the table, or a form of one of its pairs, or a rule of it matches.
  rcases h with ⟨entry, hentry, hword⟩ | ⟨entry, hentry, hword⟩ | ⟨entry, hentry, rule, hrule, hword⟩
  · left
    unfold RuleSet.isUncountable
    rw [List.contains_iff_mem, hword]
    exact List.mem_map_of_mem hentry
  · right
    left
    exact RuleSet.irregular?_isSome _ form word entry.pair (List.mem_map_of_mem hentry) hword
  · right
    right
    have hmem : rule ∈ (table.entries singulars plurals).rulesFor form := by
      cases form with
      | singular => exact mem_of_mapM _ table.singulars singulars hsingulars entry hentry rule hrule
      | plural => exact mem_of_mapM _ table.plurals plurals hplurals entry hentry rule hrule
    unfold RuleSet.regular?
    rw [List.findSome?_isSome_iff]
    exact ⟨rule, List.mem_reverse.mpr hmem, hword⟩

/-- A word to which an entry of a table applies has the same forms on top of the English vocabulary
    as on top of none, unless the English vocabulary overrules the table. -/
theorem compile_english_eq_iff (table : InflectionTable) (own : RuleSet)
    (hown : { table with base := .empty }.compile = .ok own) :
    ∃ layered, { table with base := .english }.compile = .ok layered ∧
      ∀ word,
        (table.AppliesTo .singular word →
          (layered.singularize word = own.singularize word ↔
            ¬ RuleSet.english.Overrules own .singular word)) ∧
        (table.AppliesTo .plural word →
          (layered.pluralize word = own.pluralize word ↔
            ¬ RuleSet.english.Overrules own .plural word)) := by
  obtain ⟨singulars, plurals, hsingulars, hplurals, heq⟩ :=
    (compile_eq_ok_iff { table with base := .empty } own).mp hown
  obtain rfl : own = table.entries singulars plurals := heq.trans (RuleSet.onto_empty _)
  have hforms : ∀ form word, table.AppliesTo form word →
      (((table.entries singulars plurals).onto .english).inflect form word =
          (table.entries singulars plurals).inflect form word ↔
        ¬ RuleSet.english.Overrules (table.entries singulars plurals) form word) := by
    intro form word h
    exact RuleSet.inflect_onto_eq_iff _ .english form word
      (knows_of_appliesTo table singulars plurals hsingulars hplurals form word h)
  refine ⟨(table.entries singulars plurals).onto .english, ?_, fun word => ?_⟩
  · exact (compile_eq_ok_iff { table with base := .english } _).mpr
      ⟨singulars, plurals, hsingulars, hplurals, rfl⟩
  · exact ⟨hforms .singular word, hforms .plural word⟩

/-- A table with another irregular pair for a word of which there is one in English. -/
def peopleTable : InflectionTable where
  irregulars := [⟨"peep", "people"⟩]

/-- Within the irregular pairs the table prevails. -/
theorem compile_english_eq_iff_people :
    ∃ own layered, { peopleTable with base := .empty }.compile = .ok own ∧
      { peopleTable with base := .english }.compile = .ok layered ∧
      peopleTable.AppliesTo .singular "people".toList ∧
      layered.singularize "people".toList = own.singularize "people".toList := by
  obtain ⟨layered, hlayered, hforms⟩ := compile_english_eq_iff peopleTable _ rfl
  have happlies : peopleTable.AppliesTo .singular "people".toList :=
    Or.inr (Or.inl ⟨_, List.mem_cons_self, Or.inr rfl⟩)
  refine ⟨_, layered, rfl, hlayered, happlies, ((hforms _).1 happlies).mpr ?_⟩
  rintro ⟨-, -, ⟨huncountable, -⟩ | ⟨-, hnone, -⟩⟩
  · exact absurd huncountable (by decide +kernel)
  · exact nomatch hnone

/-- A table with an irregular pair for a word that is uncountable in English. -/
def fishTable : InflectionTable where
  irregulars := [⟨"fisch", "fish"⟩]

/-- The pair is never asked, although it is an entry of the table and applies to the word. -/
theorem english_overrules_fish :
    ∃ own layered, { fishTable with base := .empty }.compile = .ok own ∧
      { fishTable with base := .english }.compile = .ok layered ∧
      fishTable.AppliesTo .singular "fish".toList ∧
      own.singularize "fish".toList = "fisch".toList ∧
      layered.singularize "fish".toList = "fish".toList := by
  refine ⟨_, _, rfl, rfl, Or.inr (Or.inl ⟨_, List.mem_cons_self, Or.inr rfl⟩), ?_, ?_⟩
  · decide +kernel
  · decide +kernel

end InflectionTable

end FieldSchema
