import Mathlib.Data.List.Basic
import FieldSchema.Text.Quoted

/-!
# Reading Quotations

A quotation can be read back, and it is clear where it ends.

Every character of a text is written so that the first character written tells
how many more belong to it. A backslash is followed by one letter, or by a
number between braces; anything else but a quotation mark stands for itself.
So the written characters come apart again one by one, whatever follows them,
and a quotation mark that begins none of them ends the quotation.

## Main definitions

* `hexValue`: The number that hexadecimal digits denote.
* `readChar?`: The first character of a quotation and what follows it.

## Theorems

* `hexValue_toDigits`: Digits denote the number of which they are the digits.
* `readChar?_escape`: A written character is read back, whatever follows it.
* `quoted_append_inj`: Texts that begin with quotations are equal part by part.
-/

namespace FieldSchema

namespace Text

/-- The number that a hexadecimal digit stands for. -/
def hexDigitValue (c : Char) : Nat :=
  if c.isDigit then c.toNat - '0'.toNat else c.toNat - 'a'.toNat + 10

/-- The number that hexadecimal digits denote. -/
def hexValue (digits : List Char) : Nat :=
  digits.foldl (fun n c => 16 * n + hexDigitValue c) 0

theorem hexDigitValue_digitChar : ∀ n < 16, hexDigitValue n.digitChar = n := by
  decide

/-- Digits denote the number of which they are the digits. -/
theorem hexValue_toDigits (n : Nat) : hexValue (Nat.toDigits 16 n) = n := by
  induction n using Nat.strongRecOn with
  | ind n ih =>
      rw [Nat.toDigits_eq_if (by decide)]
      split
      · rename_i hlt
        change 16 * 0 + hexDigitValue n.digitChar = n
        rw [hexDigitValue_digitChar n hlt, Nat.mul_zero, Nat.zero_add]
      · have hrest := ih (n / 16) (by omega)
        have hlast := hexDigitValue_digitChar (n % 16) (Nat.mod_lt n (by decide))
        unfold hexValue at hrest ⊢
        rw [List.foldl_append, hrest]
        change 16 * (n / 16) + hexDigitValue (n % 16).digitChar = n
        rw [hlast]
        exact Nat.div_add_mod n 16

theorem brace_ne_digitChar : ∀ n < 16, n.digitChar ≠ '\x7d' := by
  decide

theorem brace_not_mem_toDigits (n : Nat) : ∀ c ∈ Nat.toDigits 16 n, c ≠ '\x7d' := by
  induction n using Nat.strongRecOn with
  | ind n ih =>
      rw [Nat.toDigits_eq_if (by decide)]
      split
      · rename_i hlt
        exact List.forall_mem_singleton.mpr (brace_ne_digitChar n hlt)
      · have hlast := brace_ne_digitChar (n % 16) (Nat.mod_lt n (by decide))
        refine List.forall_mem_append.mpr ⟨ih (n / 16) (by omega), ?_⟩
        exact List.forall_mem_singleton.mpr hlast

/-- The first character of what stands between quotation marks, and what follows it; nothing if
    the quotation ends here. -/
def readChar? : List Char → Option (Char × List Char)
  | [] => none
  | '"' :: _ => none
  | '\\' :: 'n' :: rest => some ('\n', rest)
  | '\\' :: 'r' :: rest => some ('\r', rest)
  | '\\' :: 't' :: rest => some ('\t', rest)
  | '\\' :: '0' :: rest => some ('\x00', rest)
  | '\\' :: 'u' :: rest =>
      let digits := (rest.drop 1).takeWhile (· ≠ '\x7d')
      some (.ofNat (hexValue digits), rest.drop (digits.length + 2))
  | '\\' :: c :: rest => some (c, rest)
  | c :: rest => some (c, rest)

/-- A written character is read back, whatever follows it. -/
theorem readChar?_escape (c : Char) (rest : List Char) :
    readChar? (escape c ++ rest) = some (c, rest) := by
  unfold escape
  split_ifs with hmark hslash hline hreturn htab hnull hcode
  · subst hmark; rfl
  · subst hslash; rfl
  · subst hline; rfl
  · subst hreturn; rfl
  · subst htab; rfl
  · subst hnull; rfl
  -- The code in braces: its digits end at the closing brace, and they read back as the code.
  · have hdigits : (Nat.toDigits 16 c.toNat ++ '\x7d' :: rest).takeWhile (· ≠ '\x7d') =
        Nat.toDigits 16 c.toNat := by
      rw [List.takeWhile_append_of_pos fun d hd =>
        decide_eq_true (brace_not_mem_toDigits c.toNat d hd)]
      simp
    simp only [List.append_assoc, List.cons_append, List.nil_append,
      readChar?, List.drop_succ_cons, List.drop_zero, hdigits, hexValue_toDigits,
      Char.ofNat_toNat]
    simp [List.drop_append]
  -- A character that stands for itself is none of those that begin an escape.
  · rw [List.singleton_append]
    unfold readChar?
    split <;> simp_all

/-- Texts that begin with written characters are equal part by part. -/
theorem escape_append_inj (c d : Char) (s t : List Char) (h : escape c ++ s = escape d ++ t) :
    c = d ∧ s = t := by
  have hread := readChar?_escape c s
  rw [h, readChar?_escape] at hread
  exact (Prod.mk.inj (Option.some.inj hread)).imp Eq.symm Eq.symm

theorem escape_ne_mark (c : Char) (s t : List Char) : escape c ++ s ≠ '"' :: t := by
  intro h
  have hread := readChar?_escape c s
  rw [h] at hread
  exact nomatch hread

theorem escaped_append_inj (u v s t : List Char)
    (h : u.flatMap escape ++ '"' :: s = v.flatMap escape ++ '"' :: t) : u = v ∧ s = t := by
  -- No escape begins like the closing quote, so the texts go on together or end together.
  induction u generalizing v with
  | nil =>
      cases v with
      | nil => exact ⟨rfl, List.tail_eq_of_cons_eq h⟩
      | cons d v =>
          rw [List.flatMap_cons, List.append_assoc] at h
          exact absurd h.symm (escape_ne_mark d _ s)
  | cons c u ih =>
      rw [List.flatMap_cons, List.append_assoc] at h
      cases v with
      | nil => exact absurd h (escape_ne_mark c _ t)
      | cons d v =>
          rw [List.flatMap_cons, List.append_assoc] at h
          obtain ⟨rfl, hrest⟩ := escape_append_inj c d _ _ h
          obtain ⟨rfl, rfl⟩ := ih v hrest
          exact ⟨rfl, rfl⟩

/-- Texts that begin with quotations are equal part by part. -/
theorem quoted_append_inj (u v s t : List Char) (h : quoted u ++ s = quoted v ++ t) :
    u = v ∧ s = t := by
  unfold quoted at h
  rw [List.append_assoc, List.append_assoc, List.cons_append, List.cons_append] at h
  exact escaped_append_inj u v s t (List.tail_eq_of_cons_eq h)

end Text

end FieldSchema
