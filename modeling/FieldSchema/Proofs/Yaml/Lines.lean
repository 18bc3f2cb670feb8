import FieldSchema.Yaml.Reader

/-!
# Between Lines

What the reader passes over from the end of a line to the next character that counts.

A written document has neither comments nor empty lines, and every line begins
with spaces and then with a key or with a dash. So what lies between two nodes
is a line break and spaces, and what comes after them is one of three things:
the end, a key, or a dash before a blank. `Onset` names these, and it is all
that has to be known of the rest of a document in order to say that the reader
stops there: an onset is no white space, no comment, and no marker between
documents.

The cursor behind a node is not determined by the text of the node. A plain
scalar is read until the character that turns out not to belong to it, on a
later line, while quotes end on their own line. Both come to the same place
once what lies between is skipped, and only that place is spoken of.

## Main definitions

* `isWordChar`: The characters of keys.
* `Onset`: What a line begins with after its spaces.

## Theorems

* `skip_line`: From the end of a line the reader comes to the onset of the next one.
* `Onset.not_atMarker`, `Onset.not_atColon`: No onset separates documents, or ends a key.
* `crosses_append`: What lies between two cursors, for a text in two parts.
-/

namespace FieldSchema

namespace Yaml

/-- The character can stand in a key. -/
def isWordChar (c : Char) : Bool :=
  ('a' ≤ c && c ≤ 'z') || c == '_'

/-- A character of keys differs from all others. -/
theorem ne_of_isWordChar (c d : Char) (h : isWordChar c = true) (hd : isWordChar d = false) :
    c ≠ d := by
  rintro rfl
  rw [hd] at h
  exact nomatch h

theorem isBlank_of_ne (c : Char) (hspace : c ≠ ' ') (htab : c ≠ '\t') : isBlank c = false := by
  rw [isBlank, beq_eq_false_iff_ne.mpr hspace, beq_eq_false_iff_ne.mpr htab, Bool.or_self]

theorem isBlank_of_isWordChar (c : Char) (h : isWordChar c = true) : isBlank c = false :=
  isBlank_of_ne c (ne_of_isWordChar c ' ' h (by decide)) (ne_of_isWordChar c '\t' h (by decide))

theorem isBreak_of_isWordChar (c : Char) (h : isWordChar c = true) : isBreak c = false := by
  have hline := ne_of_isWordChar c '\n' h (by decide)
  have hseparator := ne_of_isWordChar c '\u2028' h (by decide)
  have hparagraph := ne_of_isWordChar c '\u2029' h (by decide)
  simp only [isBreak, beq_eq_false_iff_ne.mpr hline, beq_eq_false_iff_ne.mpr hseparator,
    beq_eq_false_iff_ne.mpr hparagraph, Bool.or_self]

/-- What a line begins with after its spaces: nothing, a key, or the dash of an item. -/
inductive Onset : List Char → Prop
  | stop : Onset []
  | key (c : Char) (rest : List Char) (h : isWordChar c = true) : Onset (c :: rest)
  | dash (rest : List Char) (h : blankFollows rest = true) : Onset ('-' :: rest)

/-- Spaces are passed over. -/
theorem skipFrom_replicate (flow fresh : Bool) (n : Nat) (rest : List Char) (column : Nat) :
    Cursor.skipFrom flow false fresh (List.replicate n ' ' ++ rest) column =
      Cursor.skipFrom flow false fresh rest (column + n) := by
  induction n generalizing column with
  | zero => rfl
  | succ n ih =>
      rw [List.replicate_succ, List.cons_append, Cursor.skipFrom]
      simp only [show isBreak ' ' = false from rfl, Bool.false_eq_true, if_false, decide_true,
        Bool.true_or, if_true]
      rw [ih, Nat.add_right_comm, Nat.add_assoc]

/-- A line break is passed over. -/
theorem skipFrom_break (flow fresh : Bool) (rest : List Char) (column : Nat) :
    Cursor.skipFrom flow false fresh ('\n' :: rest) column =
      Cursor.skipFrom flow false (fresh || !flow) rest 0 := rfl

namespace Onset

/-- An onset is not passed over. -/
theorem skipFrom (flow fresh : Bool) (lead : List Char) (column : Nat) (h : Onset lead) :
    Cursor.skipFrom flow false fresh lead column = ⟨lead, column⟩ := by
  cases h with
  | stop => rfl
  | key c rest hc =>
      have hblank := isBlank_of_isWordChar c hc
      have hspace := ne_of_isWordChar c ' ' hc (by decide)
      have htab := ne_of_isWordChar c '\t' hc (by decide)
      have hhash := ne_of_isWordChar c '#' hc (by decide)
      have hmark := ne_of_isWordChar c byteOrderMark hc (by decide)
      rw [Cursor.skipFrom]
      simp only [isBreak_of_isWordChar c hc, hspace, htab, hhash, hmark, Bool.false_eq_true,
        if_false, decide_false, Bool.false_and, Bool.or_false]
  | dash rest hrest => rfl

theorem not_atMarker (lead : List Char) (column : Nat) (h : Onset lead) :
    Cursor.atMarker ⟨lead, column⟩ = false := by
  unfold Cursor.atMarker
  cases h with
  | stop => exact Bool.and_false _
  | key c rest hc =>
      have hdash := ne_of_isWordChar c '-' hc (by decide)
      have hdot := ne_of_isWordChar c '.' hc (by decide)
      simp only [Bool.and_eq_false_iff]
      refine Or.inr ?_
      split
      · rename_i heq
        exact absurd (List.cons.inj heq).1 hdash
      · rename_i heq
        exact absurd (List.cons.inj heq).1 hdot
      · rfl
  | dash rest hrest =>
      -- A marker goes on with a second dash, and an item with white space.
      simp only [Bool.and_eq_false_iff]
      refine Or.inr ?_
      split
      · rename_i heq
        rw [(List.cons.inj heq).2] at hrest
        exact absurd hrest Bool.false_ne_true
      · rename_i heq
        exact absurd (List.cons.inj heq).1 (by decide)
      · rfl

/-- No onset is the colon of a key. -/
theorem not_atColon (lead : List Char) (column : Nat) (h : Onset lead) :
    (Cursor.skipBlanks ⟨lead, column⟩).atColon = false := by
  unfold Cursor.skipBlanks
  cases h with
  | stop => rfl
  | key c rest hc =>
      -- A word character is never the colon.
      have hcolon := ne_of_isWordChar c ':' hc (by decide)
      simp only [List.takeWhile_cons, isBlank_of_isWordChar c hc, Bool.false_eq_true, if_false,
        List.length_nil, Cursor.advance, List.drop_zero, Cursor.atColon]
      split
      · rename_i heq
        exact absurd (List.cons.inj heq).1 hcolon
      · rfl
  | dash rest hrest => rfl

/-- The reader stops at an onset. -/
theorem skip (flow fresh : Bool) (lead : List Char) (column : Nat) (h : Onset lead) :
    Cursor.skip ⟨lead, column⟩ flow fresh = ⟨lead, column⟩ :=
  h.skipFrom flow fresh lead column

end Onset

/-- From the end of a line the reader comes to the onset of the next one. -/
theorem skip_line (flow fresh : Bool) (n : Nat) (lead : List Char) (column : Nat)
    (h : Onset lead) :
    Cursor.skip ⟨'\n' :: (List.replicate n ' ' ++ lead), column⟩ flow fresh = ⟨lead, n⟩ := by
  unfold Cursor.skip
  rw [skipFrom_break, skipFrom_replicate, h.skipFrom, Nat.zero_add]

/-- After one space the reader comes to an onset. -/
theorem Onset.skip_space (flow fresh : Bool) (lead : List Char) (column : Nat) (h : Onset lead) :
    Cursor.skip ⟨' ' :: lead, column⟩ flow fresh = ⟨lead, column + 1⟩ :=
  (skipFrom_replicate flow fresh 1 lead column).trans (h.skipFrom flow fresh lead (column + 1))

/-- After one space the reader comes to a character that is not passed over. -/
theorem skip_space (flow fresh : Bool) (c : Char) (rest : List Char) (column : Nat)
    (hbreak : isBreak c = false) (hblank : isBlank c = false) (hhash : c ≠ '#')
    (hmark : c ≠ byteOrderMark) :
    Cursor.skip ⟨' ' :: c :: rest, column⟩ flow fresh = ⟨c :: rest, column + 1⟩ := by
  have hspace : c ≠ ' ' := by
    rintro rfl
    exact nomatch hblank
  have htab : c ≠ '\t' := by
    rintro rfl
    exact nomatch hblank
  -- One space is skipped, and the character after it stops the scan.
  have hstop : Cursor.skipFrom flow false fresh (c :: rest) (column + 1) =
      ⟨c :: rest, column + 1⟩ := by
    rw [Cursor.skipFrom]
    simp only [hbreak, hspace, htab, hhash, hmark, Bool.false_eq_true, if_false, decide_false,
      Bool.false_and, Bool.or_false]
  exact (skipFrom_replicate flow fresh 1 (c :: rest) column).trans hstop

/-- What lies between two cursors, for a text in two parts. -/
theorem textUpTo_append (between rest : List Char) (column column' : Nat) :
    Cursor.textUpTo ⟨between ++ rest, column⟩ ⟨rest, column'⟩ = between := by
  unfold Cursor.textUpTo
  simp only [List.length_append, Nat.add_sub_cancel, List.take_left]

theorem crosses_append (between rest : List Char) (column column' : Nat) :
    Cursor.crosses ⟨between ++ rest, column⟩ ⟨rest, column'⟩ = between.any isBreak := by
  unfold Cursor.crosses
  rw [textUpTo_append]

end Yaml

end FieldSchema
