import FieldSchema.Yaml.Writer
import FieldSchema.Proofs.Yaml.Lines

/-!
# Scalars Read Back

Every string is read back from the scalar that is written for it.

A string is written in one of three ways, and for each there is a loop of the
reader that has to come through it. All three loops collect white space in a
gap and add it to the text only when a character follows that is none. In a
scalar on one line the gap holds blanks alone, and what has been read is the
text with those blanks after it. That is the invariant of the three inductions.
None of them ends at the end of the string. It ends where the reader ends, at
the quote or at the onset of a later line.

Which strings are written plainly does not matter here as such. A plain scalar
must only not end early, and the three conditions under which the reader ends
one are those that the writer looks for.

In double quotes most characters stand for themselves. The others are few, and
that their digits give them back is checked one by one.

## Main definitions

* `IsWord`: The text is a key that is written as it is.
* `doubled`: A character inside single quotes.
* `readsBack`: The digits of an escape give the character.

## Theorems

* `plainFrom_body`: A plain scalar is read up to its end.
* `plain?_word`: A key is read up to its colon.
* `singleQuotedFrom_body`, `doubleQuotedFrom_body`: Quotes are read up to the closing one.
* `atom?_scalarText`: Every string is read back from its scalar.
-/

namespace FieldSchema

namespace Yaml

theorem atMarker_of_ne_zero (rest : List Char) (column : Nat) (h : column ≠ 0) :
    Cursor.atMarker ⟨rest, column⟩ = false := by
  unfold Cursor.atMarker
  rw [beq_eq_false_iff_ne.mpr h, Bool.false_and]

theorem isBreak_of_isQuotable (c : Char) (h : isQuotable c = true) : isBreak c = false := by
  simp only [isQuotable, Bool.and_eq_true, Bool.not_eq_true'] at h
  exact h.1.1.1.2

theorem endsEarly_tail (c : Char) (rest : List Char) (h : endsEarly (c :: rest) = false) :
    endsEarly rest = false := by
  unfold endsEarly at h
  split at h
  · rename_i heq
    exact nomatch heq
  · rename_i heq
    cases heq
    exact (Bool.or_eq_false_iff.mp h).2
  · exact nomatch h
  · rename_i heq
    cases heq
    exact h

/-- A plain scalar is read up to its end, whatever follows, with the blanks before it. -/
theorem plainFrom_body (least : Nat) (s rest text blanks : List Char) (column : Nat)
    (hmark : Cursor.atMarker ⟨s ++ rest, column⟩ = false)
    (hchars : ∀ c ∈ s, isQuotable c = true ∧ c ≠ '\t') (hlast : s.getLast? ≠ some ' ')
    (hends : endsEarly s = false) (hhead : blanks ≠ [] → s.head? ≠ some '#')
    (hnil : s = [] → blanks = []) :
    plainFrom false least text ⟨blanks, [], false⟩ (s ++ rest) column =
      plainFrom false least (s.reverse ++ (blanks ++ text)) .none rest (column + s.length) := by
  induction s generalizing text blanks column with
  | nil =>
      rw [hnil rfl]
      rfl
  | cons c s ih =>
      obtain ⟨⟨hquotable, htab⟩, hrest⟩ := List.forall_mem_cons.mp hchars
      have hbreak := isBreak_of_isQuotable c hquotable
      have hnext := atMarker_of_ne_zero (s ++ rest) (column + 1) (Nat.succ_ne_zero column)
      have hends' := endsEarly_tail c s hends
      have hlast' : s.getLast? ≠ some ' ' := by
        cases s with
        | nil => exact Option.some_ne_none ' ' ∘ Eq.symm
        | cons d more => rwa [List.getLast?_cons_cons] at hlast
      rw [List.cons_append, plainFrom]
      by_cases hspace : c = ' '
      · -- A blank waits until something follows, which is there and is no hash sign.
        subst hspace
        have hmore : s ≠ [] := by
          rintro rfl
          exact hlast rfl
        have hhash : s.head? ≠ some '#' := by
          cases s with
          | nil => exact absurd rfl hmore
          | cons d more =>
              rintro hd
              rw [List.head?_cons, Option.some.injEq] at hd
              rw [hd] at hends
              exact nomatch hends
        have hstep := ih text (' ' :: blanks) (column + 1) hnext hrest hlast' hends'
          (fun _ => hhash) (fun h => absurd h hmore)
        rw [List.reverse_cons, List.append_assoc, List.length_cons, Nat.add_comm s.length,
          ← Nat.add_assoc]
        exact hstep
      · have hblank := isBlank_of_ne c hspace htab
        have hhash : (!(Gap.isNone ⟨blanks, [], false⟩) && decide (c = '#')) = false := by
          cases blanks with
          | nil => rfl
          | cons b more =>
              have hc : c ≠ '#' := by
                rintro rfl
                exact hhead (List.cons_ne_nil b more) rfl
              rw [decide_eq_false hc, Bool.and_false]
        have hcolon : (decide (c = ':') && blankFollows (s ++ rest)) = false := by
          by_cases hc : c = ':'
          · subst hc
            have hfollows : blankFollows s = false := (Bool.or_eq_false_iff.mp hends).1
            cases s with
            | nil => exact nomatch hfollows
            | cons d more => exact hfollows
          · rw [decide_eq_false hc, Bool.false_and]
        have hstep := ih (c :: (blanks ++ text)) [] (column + 1) hnext hrest hlast' hends'
          (fun h => absurd rfl h) (fun _ => rfl)
        simp only [List.cons_append] at hmark
        simp only [hbreak, hblank, hhash, hcolon, hmark, Gap.isBroken, List.isEmpty_nil,
          Bool.not_true, Bool.or_self, Bool.false_and, Bool.false_eq_true, if_false]
        rw [List.reverse_cons, List.append_assoc, List.length_cons, Nat.add_comm s.length,
          ← Nat.add_assoc]
        exact hstep

/-- After a line break the spaces that indent the next line are passed over. -/
theorem plainFrom_spaces (least n : Nat) (text rest : List Char) (column : Nat) :
    plainFrom false least text ⟨[], ['\n'], false⟩ (List.replicate n ' ' ++ rest) column =
      plainFrom false least text ⟨[], ['\n'], false⟩ rest (column + n) := by
  induction n generalizing column with
  | zero => rfl
  | succ n ih =>
      rw [List.replicate_succ, List.cons_append, Nat.add_comm n, ← Nat.add_assoc, ← ih]
      rfl

/-- At the end of a line a plain scalar ends, if the next line is not indented far enough. -/
theorem plainFrom_line (least n : Nat) (text lead : List Char) (column : Nat) (h : Onset lead)
    (hleast : lead ≠ [] → n < least) :
    plainFrom false least text .none ('\n' :: (List.replicate n ' ' ++ lead)) column =
      some (text.reverse, ⟨lead, n⟩) := by
  change plainFrom false least text ⟨[], ['\n'], false⟩ (List.replicate n ' ' ++ lead) 0 = _
  rw [plainFrom_spaces, Nat.zero_add]
  -- The next line is not indented far enough to go on with the scalar, be it a key or a dash.
  cases h with
  | stop => rfl
  | key c rest hc =>
      have hless := decide_eq_true (hleast (List.cons_ne_nil c rest))
      rw [plainFrom]
      simp only [isBreak_of_isWordChar c hc, isBlank_of_isWordChar c hc, Gap.isBroken, hless,
        List.isEmpty_cons, Bool.not_false, Bool.or_true, Bool.and_self, Bool.true_or,
        Bool.false_eq_true, if_false, if_true]
  | dash rest hrest =>
      have hless := decide_eq_true (hleast (List.cons_ne_nil '-' rest))
      rw [plainFrom]
      simp only [show isBreak '-' = false from rfl, show isBlank '-' = false from rfl,
        Gap.isBroken, hless, List.isEmpty_cons, Bool.not_false, Bool.or_true, Bool.and_self,
        Bool.true_or, Bool.false_eq_true, if_false, if_true]

/-- At a colon before a blank a plain scalar ends. -/
theorem plainFrom_colon (least : Nat) (text rest : List Char) (column : Nat)
    (h : blankFollows rest = true) :
    plainFrom false least text .none (':' :: rest) column =
      some (text.reverse, ⟨':' :: rest, column⟩) := by
  rw [plainFrom]
  simp only [show isBreak ':' = false from rfl, show isBlank ':' = false from rfl, h, decide_true,
    Bool.and_self, Bool.or_true, Bool.true_or, Bool.false_eq_true, if_false, if_true]

/-- What a string that is written plainly consists of. -/
theorem isPlain_cons (c : Char) (rest : List Char) (h : isPlain (c :: rest) = true) :
    isIndicator c = false ∧ c ≠ ' ' ∧ (c :: rest).getLast? ≠ some ' ' ∧
      endsEarly (c :: rest) = false ∧ ∀ d ∈ c :: rest, isQuotable d = true ∧ d ≠ '\t' := by
  simp only [isPlain, Bool.and_eq_true, Bool.not_eq_true', bne_iff_ne, List.all_eq_true] at h
  exact ⟨h.1.1.1.1, h.1.1.1.2, h.1.1.2, h.1.2, h.2⟩

/-- What a string that is written plainly begins with begins a plain scalar. -/
theorem beginsPlain_of_isPlain (c : Char) (rest after : List Char)
    (h : isPlain (c :: rest) = true) : beginsPlain false (c :: after) = true := by
  obtain ⟨hindicator, hspace, -, -, hchars⟩ := isPlain_cons c rest h
  obtain ⟨hquotable, htab⟩ := hchars c List.mem_cons_self
  have hblank := isBlank_of_ne c hspace htab
  have hbreak := isBreak_of_isQuotable c hquotable
  simp only [isIndicator, List.contains_cons, List.contains_nil, Bool.or_false,
    Bool.or_eq_false_iff, beq_eq_false_iff_ne] at hindicator
  unfold beginsPlain
  simp [hindicator, hblank, hbreak, isFlowMark]

/-- A string that is written plainly is read back, up to the onset of the next line. -/
theorem plain?_scalar (least n : Nat) (s lead : List Char) (column : Nat)
    (hplain : isPlain s = true) (hcolumn : column ≠ 0) (h : Onset lead)
    (hleast : lead ≠ [] → n < least) :
    plain? false least ⟨s ++ '\n' :: (List.replicate n ' ' ++ lead), column⟩ =
      some (s, ⟨lead, n⟩) := by
  cases s with
  | nil => exact nomatch hplain
  | cons c rest =>
      obtain ⟨-, -, hlast, hends, hchars⟩ := isPlain_cons c rest hplain
      have hbegins := beginsPlain_of_isPlain c rest
        (rest ++ '\n' :: (List.replicate n ' ' ++ lead)) hplain
      unfold plain?
      rw [List.cons_append, if_pos hbegins, ← List.cons_append]
      refine (plainFrom_body least (c :: rest) _ [] [] column
        (atMarker_of_ne_zero _ column hcolumn) hchars hlast hends (fun h => absurd rfl h)
        (fun _ => rfl)).trans ?_
      rw [plainFrom_line least n _ lead _ h hleast]
      simp only [List.append_nil, List.reverse_reverse]

/-- The text is a key that is written as it is. -/
structure IsWord (key : List Char) : Prop where
  nonempty : key ≠ []
  chars : ∀ c ∈ key, isWordChar c = true
  short : (String.ofList key).utf8ByteSize ≤ Cursor.mostKeyBytes

theorem isQuotable_of_isWordChar (c : Char) (h : isWordChar c = true) : isQuotable c = true := by
  have hmark := ne_of_isWordChar c byteOrderMark h (by decide)
  have hreturn := ne_of_isWordChar c '\r' h (by decide)
  have hnext := ne_of_isWordChar c '\u0085' h (by decide)
  have hallowed : isAllowed c = true := by
    simp only [isWordChar, Bool.or_eq_true, Bool.and_eq_true, decide_eq_true_eq, beq_iff_eq] at h
    rcases h with ⟨hlow, hhigh⟩ | rfl
    · have hlow' : 97 ≤ c.toNat := hlow
      have hhigh' : c.toNat ≤ 122 := hhigh
      have hrange : 0x20 ≤ c.toNat ∧ c.toNat ≤ 0x7E := by omega
      simp only [isAllowed, hrange, decide_true, Bool.and_self, Bool.or_true, Bool.true_or]
    · rfl
  simp only [isQuotable, hallowed, isBreak_of_isWordChar c h, bne_iff_ne.mpr hreturn,
    bne_iff_ne.mpr hnext, bne_iff_ne.mpr hmark, Bool.not_false, Bool.and_self]

theorem endsEarly_of_word (s : List Char) (h : ∀ c ∈ s, isWordChar c = true) :
    endsEarly s = false := by
  induction s with
  | nil => rfl
  | cons c rest ih =>
      obtain ⟨hc, hrest⟩ := List.forall_mem_cons.mp h
      unfold endsEarly
      -- A word has neither a colon nor a blank.
      split
      · rename_i heq
        exact nomatch heq
      · rename_i heq
        exact absurd (List.cons.inj heq).1 (ne_of_isWordChar c ':' hc (by decide))
      · rename_i heq
        exact absurd (List.cons.inj heq).1 (ne_of_isWordChar c ' ' hc (by decide))
      · rename_i heq
        cases heq
        exact ih hrest

namespace IsWord

/-- A key is written plainly. -/
theorem isPlain (key : List Char) (h : IsWord key) : isPlain key = true := by
  have hends := endsEarly_of_word key h.chars
  cases key with
  | nil => exact absurd rfl h.nonempty
  | cons c rest =>
      have hc := h.chars c List.mem_cons_self
      have hindicator : isIndicator c = false := by
        cases hindicator : isIndicator c with
        | false => rfl
        | true =>
            -- None of the indicators is a character of keys.
            rw [isIndicator, List.contains_iff_mem] at hindicator
            have hnone : ['-', '?', ':', ',', '[', ']', '\x7b', '\x7d', '#', '&', '*', '!',
                '|', '>', '\'', '"', '%', '@', '\x60'].all (fun d => !isWordChar d) = true := by
              decide
            have hother := List.all_eq_true.mp hnone c hindicator
            rw [hc] at hother
            exact nomatch hother
      have hlast : (c :: rest).getLast? ≠ some ' ' := by
        intro heq
        exact absurd (h.chars ' ' (List.mem_of_getLast? heq)) (by decide)
      simp only [Yaml.isPlain, hindicator, hends, Bool.and_eq_true, Bool.not_false, bne_iff_ne,
        List.all_eq_true, true_and, and_true]
      refine ⟨⟨ne_of_isWordChar c ' ' hc (by decide), hlast⟩, fun d hd => ?_⟩
      exact ⟨isQuotable_of_isWordChar d (h.chars d hd),
        ne_of_isWordChar d '\t' (h.chars d hd) (by decide)⟩

theorem onset (key rest : List Char) (h : IsWord key) : Onset (key ++ rest) := by
  cases key with
  | nil => exact absurd rfl h.nonempty
  | cons c more => exact .key c (more ++ rest) (h.chars c List.mem_cons_self)

end IsWord

/-- A key is read up to its colon. -/
theorem plain?_word (least : Nat) (key rest : List Char) (column : Nat) (hkey : IsWord key)
    (h : blankFollows rest = true) :
    plain? false least ⟨key ++ ':' :: rest, column⟩ =
      some (key, ⟨':' :: rest, column + key.length⟩) := by
  have hmark := (hkey.onset key (':' :: rest)).not_atMarker _ column
  have hplain := hkey.isPlain
  cases key with
  | nil => exact absurd rfl hkey.nonempty
  | cons c more =>
      obtain ⟨-, -, hlast, hends, hchars⟩ := isPlain_cons c more hplain
      have hbegins := beginsPlain_of_isPlain c more (more ++ ':' :: rest) hplain
      unfold plain?
      rw [List.cons_append, if_pos hbegins, ← List.cons_append]
      refine (plainFrom_body least (c :: more) _ [] [] column hmark hchars hlast hends
        (fun h => absurd rfl h) (fun _ => rfl)).trans ?_
      rw [plainFrom_colon least _ rest _ h]
      simp only [List.append_nil, List.reverse_reverse]

/-- A character inside single quotes. -/
def doubled (c : Char) : List Char :=
  if c = '\'' then ['\'', '\''] else [c]

/-- Single quotes are read up to the closing one, with the blanks before it. -/
theorem singleQuotedFrom_body (s rest text blanks : List Char) (column : Nat)
    (hcolumn : column ≠ 0) (hchars : ∀ c ∈ s, isQuotable c = true)
    (hrest : rest.head? ≠ some '\'') :
    ∃ column', singleQuotedFrom text ⟨blanks, [], false⟩ (s.flatMap doubled ++ '\'' :: rest)
      column = some ((s.reverse ++ (blanks ++ text)).reverse, ⟨rest, column'⟩) := by
  -- On the body: a quote is written twice, blanks wait until something follows, and the rest goes
  -- to the text.
  induction s generalizing text blanks column with
  | nil =>
      refine ⟨column + 1, ?_⟩
      rw [List.flatMap_nil, List.nil_append, singleQuotedFrom,
        atMarker_of_ne_zero _ column hcolumn]
      -- The closing quote is not doubled, as no quote follows it.
      cases rest with
      | nil => rfl
      | cons d more =>
          have hd : d ≠ '\'' := fun heq => hrest (congrArg some heq)
          simp only [show isBreak '\'' = false from rfl, show isBlank '\'' = false from rfl,
            Bool.false_eq_true, if_false, if_true]
          split
          · rename_i heq
            exact absurd (List.cons.inj heq).1 hd
          · rfl
  | cons c s ih =>
      obtain ⟨hquotable, hmore⟩ := List.forall_mem_cons.mp hchars
      have hbreak := isBreak_of_isQuotable c hquotable
      have hmark : ∀ after, Cursor.atMarker ⟨after, column⟩ = false :=
        fun after => atMarker_of_ne_zero after column hcolumn
      rw [List.flatMap_cons, List.append_assoc, List.reverse_cons, List.append_assoc]
      by_cases hquote : c = '\''
      · obtain ⟨column', hstep⟩ := ih ('\'' :: (blanks ++ text)) [] (column + 2)
          (Nat.succ_ne_zero _) hmore
        refine ⟨column', ?_⟩
        rw [doubled, if_pos hquote, hquote, List.cons_append, List.cons_append, List.nil_append,
          singleQuotedFrom, hmark]
        exact hstep
      · rw [doubled, if_neg hquote, List.singleton_append, singleQuotedFrom, hmark]
        cases hblank : isBlank c with
        | true =>
            obtain ⟨column', hstep⟩ := ih text (c :: blanks) (column + 1) (Nat.succ_ne_zero _)
              hmore
            refine ⟨column', ?_⟩
            simp only [hbreak, Bool.false_eq_true, if_false, if_true]
            exact hstep
        | false =>
            obtain ⟨column', hstep⟩ := ih (c :: (blanks ++ text)) [] (column + 1)
              (Nat.succ_ne_zero _) hmore
            refine ⟨column', ?_⟩
            simp only [hbreak, hquote, Bool.false_eq_true, if_false]
            exact hstep

/-- The digits of a character's escape give the character, and can be quoted. -/
def readsBack (c : Char) : Bool :=
  match escaped c with
  | '\\' :: letter :: digits =>
      (letterEscape? letter).isNone && hexDigits? letter == some digits.length
        && hexEscape? digits.length digits == some c && (escaped c).all isQuotable
  | _ => false

/-- Of the characters that cannot be quoted, all but the line break are escaped by digits that give
    them back. -/
theorem readsBack_of_not_isQuotable (c : Char) (h : isQuotable c = false) (hline : c ≠ '\n') :
    readsBack c = true := by
  have hlow : ∀ n < 0xA0, isQuotable (Char.ofNat n) = true ∨ Char.ofNat n = '\n' ∨
      readsBack (Char.ofNat n) = true := by
    decide +kernel
  have hhigh : ['\u2028', '\u2029', byteOrderMark, Char.ofNat 0xFFFE, Char.ofNat 0xFFFF].all
      readsBack = true := by
    decide +kernel
  by_cases hsmall : c.toNat < 0xA0
  · have hcases := hlow c.toNat hsmall
    rw [Char.ofNat_toNat, h] at hcases
    rcases hcases with hquotable | heq | hreads
    · exact nomatch hquotable
    · exact absurd heq hline
    · exact hreads
  · refine List.all_eq_true.mp hhigh c ?_
    -- Above the first block only five characters are left, surrogates being none.
    have hvalid : c.toNat < 0xD800 ∨ (0xDFFF < c.toNat ∧ c.toNat < 0x110000) := c.valid
    have hreturn : c ≠ '\r' := by
      rintro rfl
      exact hsmall (by decide)
    have hnext : c ≠ '\u0085' := by
      rintro rfl
      exact hsmall (by decide)
    by_cases hallowed : isAllowed c = true
    · simp only [isQuotable, hallowed, isBreak, beq_eq_false_iff_ne.mpr hline,
        bne_iff_ne.mpr hreturn, bne_iff_ne.mpr hnext, Bool.true_and, Bool.and_true,
        Bool.false_or] at h
      simp only [Bool.and_eq_false_iff, Bool.not_eq_false', Bool.or_eq_true, beq_iff_eq,
        bne_eq_false_iff_eq] at h
      rw [List.mem_cons, List.mem_cons, List.mem_cons]
      rcases h with (heq | heq) | heq
      · exact Or.inl heq
      · exact Or.inr (Or.inl heq)
      · exact Or.inr (Or.inr (Or.inl heq))
    · simp only [isAllowed, Bool.or_eq_true, beq_iff_eq, Bool.and_eq_true,
        decide_eq_true_eq] at hallowed
      have hlast : c.toNat = 0xFFFE ∨ c.toNat = 0xFFFF := by omega
      rcases hlast with heq | heq <;>
        (rw [← Char.ofNat_toNat c, heq]; decide)

theorem hexEscape?_append (digits rest : List Char) :
    hexEscape? digits.length (digits ++ rest) = hexEscape? digits.length digits := by
  unfold hexEscape?
  rw [List.take_left, List.take_length, List.length_append,
    if_neg (Nat.not_lt.mpr (Nat.le_add_right _ _)), if_neg (Nat.lt_irrefl _)]

/-- The digits of an escape are passed over. -/
theorem doubleQuotedFrom_digits (digits rest text : List Char) (gap : Gap) (column : Nat) :
    doubleQuotedFrom (.digits digits.length) text gap (digits ++ rest) column =
      doubleQuotedFrom .text text gap rest (column + digits.length) := by
  induction digits generalizing column with
  | nil => cases rest <;> rfl
  | cons d more ih =>
      refine (ih (column + 1)).trans ?_
      rw [List.length_cons, Nat.add_assoc, Nat.add_comm 1]

/-- What becomes of a character inside double quotes. -/
theorem doubleQuotedFrom_cons (text : List Char) (gap : Gap) (c : Char) (rest : List Char)
    (column : Nat) (hcolumn : column ≠ 0) :
    doubleQuotedFrom .text text gap (c :: rest) column =
      if isBreak c then doubleQuotedFrom .text text (gap.newline c) rest 0
      else if isBlank c then doubleQuotedFrom .text text (gap.blank c) rest (column + 1)
      else if c = '"' then some ((gap.folded ++ text).reverse, ⟨rest, column + 1⟩)
      else if c = '\\' then
        doubleQuotedFrom .escape (gap.folded ++ text) .none rest (column + 1)
      else doubleQuotedFrom .text (c :: (gap.folded ++ text)) .none rest (column + 1) := by
  change (if Cursor.atMarker ⟨c :: rest, column⟩ then _ else _) = _
  rw [atMarker_of_ne_zero _ column hcolumn]
  rfl

/-- A backslash begins an escape, after the blanks before it. -/
theorem doubleQuotedFrom_backslash (text blanks after : List Char) (column : Nat)
    (hcolumn : column ≠ 0) :
    doubleQuotedFrom .text text ⟨blanks, [], false⟩ ('\\' :: after) column =
      doubleQuotedFrom .escape (blanks ++ text) .none after (column + 1) :=
  doubleQuotedFrom_cons text ⟨blanks, [], false⟩ '\\' after column hcolumn

/-- A character that can be quoted and needs no backslash is written as it is. -/
theorem escaped_of_isQuotable (c : Char) (hslash : ¬ (c = '"' ∨ c = '\\'))
    (hquotable : isQuotable c = true) : escaped c = [c] := by
  have hslash' : (decide (c = '"') || decide (c = '\\')) = false := by
    simpa using hslash
  have hline : c ≠ '\n' := by
    rintro rfl
    exact nomatch hquotable
  simp only [escaped, hslash', hline, hquotable, Bool.false_eq_true, if_false, if_true]

/-- However a character is escaped, it is read back, with the blanks before it. -/
theorem doubleQuotedFrom_escaped (c : Char) (text blanks rest : List Char) (column : Nat)
    (hcolumn : column ≠ 0) (hblank : isBlank c = false) :
    ∃ column', column' ≠ 0 ∧
      doubleQuotedFrom .text text ⟨blanks, [], false⟩ (escaped c ++ rest) column =
        doubleQuotedFrom .text (c :: (blanks ++ text)) .none rest column' := by
  by_cases hslash : c = '"' ∨ c = '\\'
  · refine ⟨column + 2, Nat.succ_ne_zero _, ?_⟩
    have hescaped : escaped c = ['\\', c] := by
      rcases hslash with rfl | rfl <;> rfl
    rw [hescaped, List.cons_append, doubleQuotedFrom_backslash _ _ _ _ hcolumn]
    rcases hslash with rfl | rfl <;> rfl
  · by_cases hline : c = '\n'
    · refine ⟨column + 2, Nat.succ_ne_zero _, ?_⟩
      rw [hline, show escaped '\n' = ['\\', 'n'] from rfl, List.cons_append,
        doubleQuotedFrom_backslash _ _ _ _ hcolumn]
      rfl
    · cases hquotable : isQuotable c with
      | true =>
          refine ⟨column + 1, Nat.succ_ne_zero _, ?_⟩
          have hbreak := isBreak_of_isQuotable c hquotable
          rw [escaped_of_isQuotable c hslash hquotable, List.singleton_append,
            doubleQuotedFrom_cons _ _ _ _ _ hcolumn]
          simp only [not_or] at hslash
          simp only [hbreak, hblank, hslash.1, hslash.2, Bool.false_eq_true, if_false]
          rfl
      | false =>
          -- The digits give the character back, and the reader asks for as many as there are.
          have hreads := readsBack_of_not_isQuotable c hquotable hline
          unfold readsBack at hreads
          split at hreads
          · rename_i letter digits hescaped
            simp only [Bool.and_eq_true, beq_iff_eq, Option.isNone_iff_eq_none] at hreads
            obtain ⟨⟨⟨hletter, hdigits⟩, hvalue⟩, -⟩ := hreads
            have hletterBreak : isBreak letter = false := by
              cases hbreak : isBreak letter with
              | false => rfl
              | true =>
                  simp only [isBreak, Bool.or_eq_true, beq_iff_eq] at hbreak
                  rcases hbreak with (rfl | rfl) | rfl <;> cases hdigits
            refine ⟨column + 1 + 1 + digits.length, by omega, ?_⟩
            rw [hescaped, List.cons_append, List.cons_append,
              doubleQuotedFrom_backslash _ _ _ _ hcolumn, doubleQuotedFrom, hletterBreak,
              hletter, hdigits]
            simp only [Bool.false_eq_true, if_false, hexEscape?_append, hvalue,
              doubleQuotedFrom_digits]
          · cases hreads

/-- Double quotes are read up to the closing one, with the blanks before it. -/
theorem doubleQuotedFrom_body (s rest text blanks : List Char) (column : Nat)
    (hcolumn : column ≠ 0) :
    ∃ column', doubleQuotedFrom .text text ⟨blanks, [], false⟩ (s.flatMap escaped ++ '"' :: rest)
      column = some ((s.reverse ++ (blanks ++ text)).reverse, ⟨rest, column'⟩) := by
  induction s generalizing text blanks column with
  | nil =>
      refine ⟨column + 1, ?_⟩
      exact doubleQuotedFrom_cons text ⟨blanks, [], false⟩ '"' rest column hcolumn
  | cons c s ih =>
      rw [List.flatMap_cons, List.append_assoc, List.reverse_cons, List.append_assoc]
      cases hblank : isBlank c with
      | true =>
          -- A blank waits in the gap.
          have hspace : c = ' ' ∨ c = '\t' := by
            simpa only [isBlank, Bool.or_eq_true, beq_iff_eq] using hblank
          have hescaped : escaped c = [c] := by
            rcases hspace with rfl | rfl <;> rfl
          have hbreak : isBreak c = false := by
            rcases hspace with rfl | rfl <;> rfl
          obtain ⟨column', hstep⟩ := ih text (c :: blanks) (column + 1) (Nat.succ_ne_zero _)
          refine ⟨column', ?_⟩
          rw [hescaped, List.singleton_append, doubleQuotedFrom_cons _ _ _ _ _ hcolumn, hbreak,
            hblank, if_neg Bool.false_ne_true, if_pos rfl]
          exact hstep
      | false =>
          obtain ⟨column', hcolumn', hread⟩ := doubleQuotedFrom_escaped c text blanks
            (s.flatMap escaped ++ '"' :: rest) column hcolumn hblank
          obtain ⟨column'', hstep⟩ := ih (c :: (blanks ++ text)) [] column' hcolumn'
          exact ⟨column'', hread.trans hstep⟩

/-- A scalar that does not begin with an indicator is read as a plain one. -/
theorem atom?_of_not_isIndicator (fuel least : Nat) (c : Char) (rest : List Char) (column : Nat)
    (h : isIndicator c = false) :
    atom? fuel least ⟨c :: rest, column⟩ =
      (plain? false least ⟨c :: rest, column⟩).map fun (text, after) =>
        (.scalar false text, after) := by
  unfold atom?
  -- The four characters that open something else are all indicators.
  split
  · rename_i heq
    rw [(List.cons.inj heq).1] at h
    exact nomatch h
  · rename_i heq
    rw [(List.cons.inj heq).1] at h
    exact nomatch h
  · rename_i heq
    rw [(List.cons.inj heq).1] at h
    exact nomatch h
  · rename_i heq
    rw [(List.cons.inj heq).1] at h
    exact nomatch h
  · rfl

/-- Every string is read back from its scalar, and what follows is the next line. -/
theorem atom?_scalarText (fuel least n : Nat) (s lead : List Char) (column : Nat)
    (hcolumn : column ≠ 0) (h : Onset lead) (hleast : lead ≠ [] → n < least) :
    ∃ after, atom? (fuel + 1) least
        ⟨scalarText s ++ '\n' :: (List.replicate n ' ' ++ lead), column⟩ =
          some (.scalar (!isPlain s) s, after) ∧
      after.skip false false = ⟨lead, n⟩ ∧ after.skipBlanks.atColon = false := by
  unfold scalarText
  cases hplain : isPlain s with
  | true =>
      refine ⟨⟨lead, n⟩, ?_, h.skip false false lead n, h.not_atColon lead n⟩
      -- Written plainly, the scalar ends with its line, and what is skipped after it is the
      -- indentation of the next.
      have hread := plain?_scalar least n s lead column hplain hcolumn h hleast
      cases s with
      | nil => exact nomatch hplain
      | cons c rest =>
          rw [if_pos rfl, List.cons_append, atom?_of_not_isIndicator _ _ _ _ _
            (isPlain_cons c rest hplain).1, ← List.cons_append, hread]
          rfl
  | false =>
      have hmark := fun rest => atMarker_of_ne_zero rest column hcolumn
      rw [if_neg Bool.false_ne_true]
      -- In quotes, the scalar ends at the closing one, and the rest of its line is skipped after
      -- it.
      cases hquotable : s.all isQuotable with
      | true =>
          obtain ⟨column', hread⟩ := singleQuotedFrom_body s
            ('\n' :: (List.replicate n ' ' ++ lead)) [] [] (column + 1) (Nat.succ_ne_zero _)
            (List.all_eq_true.mp hquotable) (by simp)
          refine ⟨⟨'\n' :: (List.replicate n ' ' ++ lead), column'⟩, ?_,
            skip_line false false n lead column' h, rfl⟩
          rw [if_pos rfl, List.cons_append, List.cons_append, List.append_assoc,
            List.singleton_append]
          simp only [List.append_nil, List.reverse_reverse] at hread
          simp only [atom?, flowNode?, hmark, Bool.false_eq_true, if_false]
          exact congrArg (Option.map fun r => (Node.scalar true r.1, r.2)) hread
      | false =>
          obtain ⟨column', hread⟩ := doubleQuotedFrom_body s
            ('\n' :: (List.replicate n ' ' ++ lead)) [] [] (column + 1) (Nat.succ_ne_zero _)
          refine ⟨⟨'\n' :: (List.replicate n ' ' ++ lead), column'⟩, ?_,
            skip_line false false n lead column' h, rfl⟩
          rw [if_neg Bool.false_ne_true, List.cons_append, List.cons_append, List.append_assoc,
            List.singleton_append]
          simp only [List.append_nil, List.reverse_reverse] at hread
          simp only [atom?, flowNode?, hmark, Bool.false_eq_true, if_false]
          exact congrArg (Option.map fun r => (Node.scalar true r.1, r.2)) hread

/-- What a line or an item goes on with: no white space, no comment, and no dash. -/
structure Opens (c : Char) : Prop where
  not_break : isBreak c = false
  not_blank : isBlank c = false
  not_hash : c ≠ '#'
  not_byteOrderMark : c ≠ byteOrderMark
  not_dash : c ≠ '-'

/-- A scalar that is written begins with a character of the scalar. -/
theorem scalarText_opens (s : List Char) : ∃ c rest, scalarText s = c :: rest ∧ Opens c := by
  unfold scalarText
  cases hplain : isPlain s with
  | true =>
      cases s with
      | nil => exact nomatch hplain
      | cons c rest =>
          -- The first character of a plain scalar is no indicator and no blank, so nothing else can
          -- begin with it.
          obtain ⟨hindicator, hspace, -, -, hchars⟩ := isPlain_cons c rest hplain
          obtain ⟨hquotable, htab⟩ := hchars c List.mem_cons_self
          refine ⟨c, rest, rfl, isBreak_of_isQuotable c hquotable,
            isBlank_of_ne c hspace htab, ?_, ?_, ?_⟩
          · rintro rfl
            exact nomatch hindicator
          · rintro rfl
            exact nomatch hquotable
          · rintro rfl
            exact nomatch hindicator
  | false =>
      rw [if_neg Bool.false_ne_true]
      cases s.all isQuotable with
      | true => exact ⟨'\'', _, rfl, rfl, rfl, by decide, by decide, by decide⟩
      | false => exact ⟨'"', _, rfl, rfl, rfl, by decide, by decide, by decide⟩

/-- What a character is written as in double quotes can be quoted. -/
theorem escaped_all_isQuotable (c : Char) : (escaped c).all isQuotable = true := by
  by_cases hline : c = '\n'
  · rw [hline]
    rfl
  · cases hquotable : isQuotable c with
    | true =>
        rw [escaped, if_neg hline, if_pos hquotable]
        split
        · simp only [List.all_cons, List.all_nil, hquotable, Bool.and_true]
          rfl
        · simp only [List.all_cons, List.all_nil, hquotable, Bool.and_true]
    | false =>
        -- What cannot stand as it is becomes a number in hexadecimal digits.
        have hreads := readsBack_of_not_isQuotable c hquotable hline
        unfold readsBack at hreads
        split at hreads
        · rw [Bool.and_eq_true] at hreads
          exact hreads.2
        · exact nomatch hreads

/-- The characters of a scalar that is written can be quoted. -/
theorem scalarText_all_isQuotable (s : List Char) : (scalarText s).all isQuotable = true := by
  unfold scalarText
  cases hplain : isPlain s with
  | true =>
      rw [if_pos rfl]
      cases s with
      | nil => rfl
      | cons c rest =>
          obtain ⟨-, -, -, -, hchars⟩ := isPlain_cons c rest hplain
          exact List.all_eq_true.mpr fun d hd => (hchars d hd).1
  | false =>
      rw [if_neg Bool.false_ne_true]
      cases hquotable : s.all isQuotable with
      | true =>
          -- Doubling a quote adds a quote.
          have hdoubled : ∀ c ∈ s, (doubled c).all isQuotable = true := by
            intro c hc
            have hone := List.all_eq_true.mp hquotable c hc
            unfold doubled
            split
            · rfl
            · simp only [List.all_cons, List.all_nil, hone, Bool.and_true]
          rw [if_pos rfl, List.cons_append, List.all_cons, List.all_append, List.all_flatMap]
          simp only [Bool.and_eq_true]
          exact ⟨rfl, List.all_eq_true.mpr hdoubled, rfl⟩
      | false =>
          rw [if_neg Bool.false_ne_true, List.cons_append, List.all_cons, List.all_append,
            List.all_flatMap]
          simp only [Bool.and_eq_true]
          exact ⟨rfl, List.all_eq_true.mpr fun c _ => escaped_all_isQuotable c, rfl⟩

end Yaml

end FieldSchema
