import Mathlib.Data.List.Basic
import FieldSchema.Text.Casing

/-!
# Case in ASCII

What the case tables say about plain text.

The tables cover all of Unicode, where a letter may have several characters as
its other form, or a different one at the end of a word. In ASCII there is
nothing of the kind. A character that is not a capital letter is its own
lower-case form, a small letter has one capital, and the lower-case form of
that is the small letter again. There are few enough characters to go through
all of them, once for each fact.

## Main definitions

* `IsSmall`: An ASCII character other than a capital letter.
* `capitalized`: A word with its first letter as a capital.

## Theorems

* `lowerFrom_eq_flatMap`: In ASCII the lower-case form of a text is that of its characters.
* `lowercase_of_small`: A text of small characters is in lower case.
* `lowercase_capitalized`: It is so again after its first letter was made a capital.
* `underscore_mem_lowercase_iff`: Underscores neither come nor go, in any text.
-/

namespace FieldSchema

namespace Text

/-- The character is an ASCII character, but not a capital letter. -/
def IsSmall (c : Char) : Prop :=
  c.toNat < 128 ∧ c.isUpper = false

instance (c : Char) : Decidable (IsSmall c) :=
  inferInstanceAs (Decidable (_ ∧ _))

/-- The word with its first letter as a capital, if it begins with a small letter. -/
def capitalized : List Char → List Char
  | [] => []
  | c :: rest => c.toUpper :: rest

/-- The word begins with a small letter. -/
def BeginsSmall (word : List Char) : Prop :=
  word.head?.any Char.isLower = true

instance (word : List Char) : Decidable (BeginsSmall word) :=
  inferInstanceAs (Decidable (_ = true))

/-- What holds of the characters one by one holds of ASCII. -/
theorem forall_ascii (P : Char → Prop) (h : ∀ n < 128, P (Char.ofNat n)) (c : Char)
    (hc : c.toNat < 128) : P c := by
  have hcode := h c.toNat hc
  rwa [Char.ofNat_toNat] at hcode

/-- A small character has no other lower-case form. -/
theorem lowerForm_of_small (c : Char) (h : IsSmall c) :
    mapCase lowerRuns lowerExpansions c = [c] :=
  forall_ascii (fun c => c.isUpper = false → mapCase lowerRuns lowerExpansions c = [c])
    (by decide +kernel) c h.1 h.2

theorem not_isUppercase_of_small (c : Char) (h : IsSmall c) : isUppercase c = false :=
  forall_ascii (fun c => c.isUpper = false → isUppercase c = false) (by decide +kernel) c h.1 h.2

/-- The upper-case form of a small character is one character, and still in ASCII. -/
theorem upperForm_of_small (c : Char) (h : IsSmall c) :
    uppercase c = [c.toUpper] ∧ c.toUpper.toNat < 128 ∧ (c.toUpper = '_' → c = '_') ∧
      mapCase lowerRuns lowerExpansions c.toUpper = [c] :=
  forall_ascii (fun c => c.isUpper = false → uppercase c = [c.toUpper] ∧ c.toUpper.toNat < 128 ∧
      (c.toUpper = '_' → c = '_') ∧ mapCase lowerRuns lowerExpansions c.toUpper = [c])
    (by decide +kernel) c h.1 h.2

/-- It is a capital letter if the character is a small letter, and otherwise the same character. -/
theorem toUpper_of_small (c : Char) (h : IsSmall c) :
    (c.isLower = true → isUppercase c.toUpper = true) ∧ (c.isLower = false → c.toUpper = c) :=
  forall_ascii (fun c => c.isUpper = false →
      (c.isLower = true → isUppercase c.toUpper = true) ∧ (c.isLower = false → c.toUpper = c))
    (by decide +kernel) c h.1 h.2

/-- In ASCII there is no capital sigma, so the characters have their forms one by one. -/
theorem lowerFrom_eq_flatMap (before s : List Char) (h : ∀ c ∈ s, c.toNat < 128) :
    lowerFrom before s = s.flatMap (mapCase lowerRuns lowerExpansions) := by
  induction s generalizing before with
  | nil => rfl
  | cons c rest ih =>
      obtain ⟨hc, hrest⟩ := List.forall_mem_cons.mp h
      have hsigma : c ≠ 'Σ' := by
        rintro rfl
        exact absurd hc (by decide)
      rw [lowerFrom, if_neg hsigma, ih _ hrest, List.flatMap_cons]

/-- A text of small characters is in lower case. -/
theorem lowercase_of_small (s : List Char) (h : ∀ c ∈ s, IsSmall c) : lowercase s = s := by
  rw [lowercase, lowerFrom_eq_flatMap [] s fun c hc => (h c hc).1]
  have hforms : s.flatMap (mapCase lowerRuns lowerExpansions) = s.flatMap fun c => [c] :=
    List.flatMap_congr fun c hc => lowerForm_of_small c (h c hc)
  rw [hforms, List.flatMap_singleton']

/-- A capital at the beginning makes no difference to the lower-case form. -/
theorem lowercase_capitalized (s : List Char) (h : ∀ c ∈ s, IsSmall c) :
    lowercase (capitalized s) = s := by
  cases s with
  | nil => rfl
  | cons c rest =>
      obtain ⟨hc, hrest⟩ := List.forall_mem_cons.mp h
      obtain ⟨-, hascii, -, hlower⟩ := upperForm_of_small c hc
      have hall : ∀ d ∈ capitalized (c :: rest), d.toNat < 128 :=
        List.forall_mem_cons.mpr ⟨hascii, fun d hd => (hrest d hd).1⟩
      have hsame := lowercase_of_small rest hrest
      rw [lowercase, lowerFrom_eq_flatMap [] rest fun d hd => (hrest d hd).1] at hsame
      rw [lowercase, lowerFrom_eq_flatMap [] _ hall, capitalized, List.flatMap_cons, hlower, hsame]
      rfl

/-- A word that does not begin with a small letter has nothing to capitalize. -/
theorem capitalized_of_not_beginsSmall (s : List Char) (h : ∀ c ∈ s, IsSmall c)
    (hbegins : ¬BeginsSmall s) : capitalized s = s := by
  cases s with
  | nil => rfl
  | cons c rest =>
      have hlower : c.isLower = false := eq_false_of_ne_true hbegins
      rw [capitalized, (toUpper_of_small c (h c List.mem_cons_self)).2 hlower]

/-- What a table of runs moves is in one of the runs. -/
theorem exists_run_of_shifted? (runs : List ShiftRun) (n image : Nat)
    (h : ShiftRun.shifted? runs n = some image) :
    ∃ run ∈ runs, n ≤ run.last ∧ image = run.shifted n := by
  induction runs with
  | nil => exact nomatch h
  | cons run rest ih =>
      rw [ShiftRun.shifted?] at h
      split at h
      · exact nomatch h
      · split at h
        · rename_i hcontains
          simp only [ShiftRun.contains, Bool.and_eq_true, decide_eq_true_eq] at hcontains
          exact ⟨run, List.mem_cons_self, hcontains.1.2, (Option.some.inj h).symm⟩
        · obtain ⟨other, hother, hfound⟩ := ih h
          exact ⟨other, List.mem_cons_of_mem _ hother, hfound⟩

/-- The underscore is the lower-case form of itself alone. -/
theorem underscore_mem_lowerForm_iff (c : Char) :
    '_' ∈ mapCase lowerRuns lowerExpansions c ↔ c = '_' := by
  have hcode : ∀ n : Nat, n ≠ 95 → Char.ofNat n ≠ '_' := by
    intro n hn heq
    by_cases hvalid : n.isValidChar
    · rw [Char.ofNat, dif_pos hvalid] at heq
      exact hn (congrArg Char.toNat heq)
    · rw [Char.ofNat, dif_neg hvalid] at heq
      exact absurd heq (by decide)
  constructor
  · intro hmem
    unfold mapCase at hmem
    split at hmem
    · rename_i ns hexpansion
      obtain ⟨before, after, hsplit, -⟩ := List.lookup_eq_some_iff.mp hexpansion
      have hrow : (c.toNat, ns) ∈ lowerExpansions :=
        hsplit ▸ List.mem_append_right _ List.mem_cons_self
      have hchecked : ∀ row ∈ lowerExpansions, ∀ n ∈ row.2, n ≠ 95 := by decide
      obtain ⟨n, hn, heq⟩ := List.mem_map.mp hmem
      exact absurd heq (hcode n (hchecked _ hrow n hn))
    · split at hmem
      · rename_i image hshift
        obtain ⟨run, hrun, hlast, rfl⟩ := exists_run_of_shifted? _ _ _ hshift
        -- A run moves its members to one side of the underscore.
        have hchecked : ∀ run ∈ lowerRuns,
            95 < run.image ∨ run.image + (run.last - run.first) < 95 := by decide +kernel
        refine absurd (List.mem_singleton.mp hmem).symm (hcode _ ?_)
        rcases hchecked run hrun with hbeyond | hbelow
        · exact Nat.ne_of_gt (Nat.lt_add_right _ hbeyond)
        · unfold ShiftRun.shifted
          omega
      · exact (List.mem_singleton.mp hmem).symm
  · rintro rfl
    rw [lowerForm_of_small '_' (by decide)]
    exact List.mem_singleton_self _

/-- A text in lower case has an underscore where it had one before, and nowhere else. -/
theorem underscore_mem_lowercase_iff (s : List Char) : '_' ∈ lowercase s ↔ '_' ∈ s := by
  have hfrom : ∀ before, '_' ∈ lowerFrom before s ↔ '_' ∈ s := by
    induction s with
    | nil => exact fun _ => Iff.rfl
    | cons c rest ih =>
        intro before
        -- No character but the underscore has one in its lowercase form; the final sigma, which
        -- depends on its neighbours, has none either way.
        have hform : '_' ∈ (if c = 'Σ' then
            if seesCased before && !seesCased rest then ['ς'] else ['σ']
            else mapCase lowerRuns lowerExpansions c) ↔ '_' = c := by
          split
          · rename_i hsigma
            subst hsigma
            split <;> decide
          · rw [underscore_mem_lowerForm_iff, eq_comm]
        rw [lowerFrom, List.mem_append, List.mem_cons, hform, ih]
  exact hfrom []

end Text

end FieldSchema
