import Mathlib.Data.List.DropRight
import FieldSchema.Text.CharClass

/-!
# Neat Texts

Texts that have something in them and no white space around it.

That is what is asked of the name of a field, and it can be put in two ways. A
name is trimmed and then tested for emptiness, so a neat text is one that
comes through this unchanged. Or one looks at the first and the last
character: there are both, and neither is a space. The second way is the one
to argue with, because what is done to a text rarely touches both of its ends.

## Main definitions

* `Neat`: The text is not empty, and trimming leaves it alone.
* `Solid`: The character is not white space.

## Theorems

* `neat_iff_ends`: A text is neat if its ends are solid.
* `neat_trim`: What is left of a text after trimming is neat, unless nothing is left.
* `neat_take_append`: A neat text with another ending.
-/

namespace FieldSchema

namespace Text

/-- The character is not white space. -/
def Solid (c : Char) : Prop := isSpace c = false

theorem not_solid_of_isSpace (c : Char) (h : isSpace c = true) : ¬Solid c := by
  simp only [Solid, h, Bool.true_eq_false, not_false_eq_true]

/-- The text is not empty, and trimming leaves it alone. -/
def Neat (s : List Char) : Prop := s ≠ [] ∧ trim s = s

instance (s : List Char) : Decidable (Neat s) :=
  inferInstanceAs (Decidable (_ ∧ _))

theorem trim_eq (s : List Char) : trim s = (s.dropWhile isSpace).rdropWhile isSpace := rfl

/-- Trimming takes nothing from a text only if it takes nothing from either side. -/
theorem trim_eq_self_iff (s : List Char) :
    trim s = s ↔ s.dropWhile isSpace = s ∧ s.rdropWhile isSpace = s := by
  constructor
  · intro h
    have hleft : s.dropWhile isSpace <:+ s := List.dropWhile_suffix isSpace
    have hright : trim s <+: s.dropWhile isSpace := List.rdropWhile_prefix isSpace _
    have hlength : s.length ≤ (s.dropWhile isSpace).length := by
      have := hright.length_le
      rwa [h] at this
    have heq := hleft.eq_of_length (Nat.le_antisymm hleft.length_le hlength)
    rw [trim_eq, heq] at h
    exact ⟨heq, h⟩
  · rintro ⟨hleft, hright⟩
    rw [trim_eq, hleft, hright]

theorem dropWhile_eq_self_iff_head (s : List Char) (hne : s ≠ []) :
    s.dropWhile isSpace = s ↔ ∃ c ∈ s.head?, Solid c := by
  rw [List.dropWhile_eq_self_iff]
  cases s with
  | nil => exact absurd rfl hne
  | cons c rest => simp [Solid]

theorem rdropWhile_eq_self_iff_getLast (s : List Char) (hne : s ≠ []) :
    s.rdropWhile isSpace = s ↔ ∃ c ∈ s.getLast?, Solid c := by
  rw [List.rdropWhile_eq_self_iff, List.getLast?_eq_some_getLast hne]
  simp [Solid, hne]

/-- A text is neat if there are a first and a last character and both are solid. -/
theorem neat_iff_ends (s : List Char) :
    Neat s ↔ (∃ c ∈ s.head?, Solid c) ∧ ∃ c ∈ s.getLast?, Solid c := by
  cases s with
  | nil => simp [Neat]
  | cons c rest =>
      have hne : c :: rest ≠ [] := List.cons_ne_nil c rest
      rw [Neat, trim_eq_self_iff, dropWhile_eq_self_iff_head _ hne,
        rdropWhile_eq_self_iff_getLast _ hne]
      exact and_iff_right hne

/-- What is left of a text after trimming is neat, unless nothing is left. -/
theorem neat_trim (s : List Char) (h : trim s ≠ []) : Neat (trim s) := by
  have hright : (trim s).rdropWhile isSpace = trim s := List.rdropWhile_idempotent isSpace _
  refine ⟨h, (trim_eq_self_iff _).mpr ⟨?_, hright⟩⟩
  -- The first character of what is left is the first one that was left on that side.
  obtain ⟨c, rest, hcons⟩ := List.exists_cons_of_ne_nil h
  obtain ⟨more, hmore⟩ : trim s <+: s.dropWhile isSpace := List.rdropWhile_prefix isSpace _
  have hleft : (s.dropWhile isSpace).dropWhile isSpace = s.dropWhile isSpace :=
    List.dropWhile_idempotent isSpace _
  rw [← hmore, hcons, List.cons_append, List.dropWhile_eq_self_iff] at hleft
  rw [hcons, List.dropWhile_eq_self_iff]
  exact fun _ => hleft (Nat.zero_lt_succ _)

/-- A text is neat if it begins as a neat text does and ends in a neat text. -/
theorem neat_take_append (s ending : List Char) (n : Nat) (hs : Neat s) (hending : Neat ending) :
    Neat (s.take n ++ ending) := by
  obtain ⟨hfirst, -⟩ := (neat_iff_ends s).mp hs
  obtain ⟨hfirst', ⟨d, hd, hlast'⟩⟩ := (neat_iff_ends ending).mp hending
  refine (neat_iff_ends _).mpr ⟨?_, d, ?_, hlast'⟩
  · obtain ⟨c, rest, rfl⟩ := List.exists_cons_of_ne_nil hs.1
    cases n with
    | zero => exact hfirst'
    | succ n => exact hfirst
  · rw [Option.mem_def] at hd ⊢
    rw [List.getLast?_append, hd]
    rfl

end Text

end FieldSchema
