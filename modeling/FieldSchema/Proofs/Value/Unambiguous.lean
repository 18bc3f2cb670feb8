import Std.Data.String.ToInt
import FieldSchema.Proofs.Text.Quotation
import FieldSchema.Proofs.Value.Equivalence
import FieldSchema.Proofs.Value.Rendering

/-!
# The Text of a Value Tells the Value

Values with the same text are equal, if names are plain words.

The first character of a text tells the kind of the value, and by the kind it
is clear where the text ends: at the closing bracket or mark, or, for what has
none, where the word ends. So the statement to be proved is about texts that
go on. If two texts of values go on in the same way, and what follows does
not begin like a word, then the values are equal and so is what follows. In
this form a part can be taken off a list, a map or a host, since every part
is followed by a separator or the closing bracket.

Three things stand outside. Callables look alike, a double is written like
no other number but can equal one, and an atom or a stored name with a
separator in it could pass for several values. Strings are quoted and can hold
anything.

What comes out is that lists, entries and slots are equal one by one. For
hosts that is equality. For maps it is more: equal maps can have different
texts, because the entries stand in the order of insertion.

## Main definitions

* `Value.Legible`: A value whose atoms and stored names are plain words.
* `Stops`: What follows a text does not continue its last word.
* `Value.Tells`: The text of a value tells it from another one, whatever follows.

## Theorems

* `word_append_inj`, `separated_append_inj`: Words and sequences are told apart.
* `render_head`: The first character of the text tells the kind.
* `tells_of_legible`: The text of a legible value tells the value.
* `eq_of_toText_eq`: Legible values with the same text are equal.
-/

namespace FieldSchema

/-- A character of words and of numbers. -/
def continuesWord (c : Char) : Bool :=
  c.isAlphanum || c == '_' || c == '-'

/-- A word of letters, digits and underscores. -/
def IsPlainWord (s : List Char) : Prop :=
  s ≠ [] ∧ ∀ c ∈ s, (c.isAlphanum || c == '_') = true

instance (s : List Char) : Decidable (IsPlainWord s) :=
  inferInstanceAs (Decidable (_ ∧ _))

/-- What follows does not continue a word. -/
def Stops (s : List Char) : Prop :=
  ∀ c ∈ s.head?, continuesWord c = false

theorem stops_nil : Stops [] := by
  intro c hc
  exact nomatch hc

theorem stops_cons (c : Char) (s : List Char) (h : continuesWord c = false) : Stops (c :: s) := by
  rintro d ⟨⟩
  exact h

theorem IsPlainWord.chars (s : List Char) (h : IsPlainWord s) :
    ∀ c ∈ s, continuesWord c = true := by
  intro c hc
  unfold continuesWord
  rw [h.2 c hc]
  rfl

theorem takeWhile_word (u s : List Char) (hu : ∀ c ∈ u, continuesWord c = true) (hs : Stops s) :
    (u ++ s).takeWhile continuesWord = u := by
  rw [List.takeWhile_append_of_pos hu]
  cases s with
  | nil => rw [List.takeWhile_nil, List.append_nil]
  | cons c s => rw [List.takeWhile_cons, hs c rfl, if_neg Bool.false_ne_true, List.append_nil]

/-- Texts that begin with words are equal part by part if the words stop there. -/
theorem word_append_inj (u v s t : List Char) (hu : ∀ c ∈ u, continuesWord c = true)
    (hv : ∀ c ∈ v, continuesWord c = true) (hs : Stops s) (ht : Stops t) (h : u ++ s = v ++ t) :
    u = v ∧ s = t := by
  have hword : u = v := by
    rw [← takeWhile_word u s hu hs, h, takeWhile_word v t hv ht]
  subst hword
  exact ⟨rfl, List.append_cancel_left h⟩

section

variable {α : Type} (write : α → List Char) (r : α → α → Prop) (closing : Char)

/-- No word goes on into pieces that begin with a separator, nor into what closes them. -/
theorem stops_pieces (opening : Char) (hopen : continuesWord opening = false)
    (hclose : continuesWord closing = false) (hbegin : ∀ x, ∃ rest, write x = opening :: rest)
    (xs : List α) (s : List Char) : Stops (xs.flatMap write ++ closing :: s) := by
  cases xs with
  | nil => exact stops_cons closing s hclose
  | cons x xs =>
      obtain ⟨rest, hrest⟩ := hbegin x
      rw [List.flatMap_cons, hrest]
      exact stops_cons opening _ hopen

/-- Pieces that all begin with the same separator, up to a closing bracket, are equal one by one. -/
theorem pieces_append_inj (opening : Char) (hopen : continuesWord opening = false)
    (hclose : continuesWord closing = false) (hne : opening ≠ closing)
    (hbegin : ∀ x, ∃ rest, write x = opening :: rest) (xs ys : List α)
    (hpiece : ∀ x ∈ xs, ∀ y ∈ ys, ∀ s t, Stops s → Stops t → write x ++ s = write y ++ t →
      r x y ∧ s = t) (s t : List Char)
    (h : xs.flatMap write ++ closing :: s = ys.flatMap write ++ closing :: t) :
    List.Forall₂ r xs ys ∧ s = t := by
  have hstops := stops_pieces write closing opening hopen hclose hbegin
  -- A piece begins with another character than the one that closes the list, so both lists end at
  -- the same place.
  have hopened : ∀ (z : α) (zs : List α) (rest rest' : List Char),
      (z :: zs).flatMap write ++ rest ≠ closing :: rest' := by
    intro z zs rest rest' heq
    obtain ⟨more, hmore⟩ := hbegin z
    rw [List.flatMap_cons, hmore] at heq
    exact hne (List.head_eq_of_cons_eq heq)
  induction xs generalizing ys with
  | nil =>
      cases ys with
      | nil => exact ⟨.nil, List.tail_eq_of_cons_eq h⟩
      | cons y ys => exact absurd h.symm (hopened y ys _ s)
  | cons x xs ih =>
      cases ys with
      | nil => exact absurd h (hopened x xs _ t)
      | cons y ys =>
          rw [List.flatMap_cons, List.flatMap_cons, List.append_assoc, List.append_assoc] at h
          -- The first pieces end where the following text begins, which is the same in both.
          obtain ⟨hxy, hrest⟩ := hpiece x List.mem_cons_self y List.mem_cons_self _ _
            (hstops xs s) (hstops ys t) h
          obtain ⟨hall, hend⟩ := ih ys (fun x hx y hy =>
            hpiece x (List.mem_cons_of_mem _ hx) y (List.mem_cons_of_mem _ hy)) hrest
          exact ⟨.cons hxy hall, hend⟩

theorem commaSeparated_cons (x : α) (xs : List α) :
    commaSeparated ((x :: xs).map write) =
      write x ++ xs.flatMap fun y => ',' :: ' ' :: write y := by
  induction xs generalizing x with
  | nil => simp [commaSeparated]
  | cons y ys ih =>
      have hrest := ih y
      unfold commaSeparated at hrest ⊢
      rw [List.map_cons, List.map_cons, List.intercalate_cons_cons, ← List.map_cons, hrest,
        List.flatMap_cons, List.append_assoc]
      rfl

/-- Texts that begin with sequences, up to a closing bracket, have equal items one by one. -/
theorem separated_append_inj (hclose : continuesWord closing = false) (hcomma : ',' ≠ closing)
    (xs ys : List α)
    (hbegin : ∀ z, z ∈ xs ∨ z ∈ ys → ∀ rest rest', write z ++ rest ≠ closing :: rest')
    (hpiece : ∀ x ∈ xs, ∀ y ∈ ys, ∀ s t, Stops s → Stops t → write x ++ s = write y ++ t →
      r x y ∧ s = t) (s t : List Char)
    (h : commaSeparated (xs.map write) ++ closing :: s =
      commaSeparated (ys.map write) ++ closing :: t) : List.Forall₂ r xs ys ∧ s = t := by
  cases xs with
  | nil =>
      cases ys with
      | nil => exact ⟨.nil, List.tail_eq_of_cons_eq h⟩
      | cons y ys =>
          rw [commaSeparated_cons, List.append_assoc] at h
          exact absurd h.symm (hbegin y (.inr List.mem_cons_self) _ _)
  | cons x xs =>
      cases ys with
      | nil =>
          rw [commaSeparated_cons, List.append_assoc] at h
          exact absurd h (hbegin x (.inl List.mem_cons_self) _ _)
      | cons y ys =>
          -- After the first piece every other one comes with its comma, and the case of pieces
          -- without separators applies.
          let following (z : α) : List Char := ',' :: ' ' :: write z
          have hbegins : ∀ z, ∃ rest, following z = ',' :: rest := fun z => ⟨_, rfl⟩
          have hstops := stops_pieces following closing ',' rfl hclose hbegins
          rw [commaSeparated_cons, commaSeparated_cons, List.append_assoc, List.append_assoc] at h
          obtain ⟨hxy, hrest⟩ := hpiece x List.mem_cons_self y List.mem_cons_self _ _
            (hstops xs s) (hstops ys t) h
          have hfollowing : ∀ x ∈ xs, ∀ y ∈ ys, ∀ s t, Stops s → Stops t →
              following x ++ s = following y ++ t → r x y ∧ s = t := by
            intro x hx y hy s t hs ht heq
            refine hpiece x (List.mem_cons_of_mem _ hx) y (List.mem_cons_of_mem _ hy) s t hs ht ?_
            exact List.tail_eq_of_cons_eq (List.tail_eq_of_cons_eq heq)
          obtain ⟨hall, hend⟩ := pieces_append_inj following r closing ',' rfl hclose hcomma
            hbegins xs ys hfollowing s t hrest
          exact ⟨.cons hxy hall, hend⟩

end

namespace Value

/-- A value without doubles and callables whose atoms and stored names, at every depth, are
    words. -/
inductive Legible : Value → Prop where
  | nil : Legible .nil
  | string (text : String) : Legible (.string text)
  | atom (name : String) (h : IsPlainWord name.toList) : Legible (.atom name)
  | whole (n : Int64) : Legible (.number (.int n))
  | boolean (b : Bool) : Legible (.boolean b)
  | list (items : List Value) (h : ∀ v ∈ items, Legible v) : Legible (.list items)
  | map (m : Mapping) (hkeys : ∀ entry ∈ m.entries, Legible entry.1)
      (hvalues : ∀ entry ∈ m.entries, Legible entry.2) : Legible (.map m)
  | nested (host : Host) (hnames : ∀ slot ∈ host.store.getD [], IsPlainWord slot.1.toList)
      (h : ∀ slot ∈ host.store.getD [], Legible slot.2) : Legible (.nested host)

/-- The kind of value whose text begins with the character, if there is one. -/
def kindOfHead? : Char → Option String
  | 'n' => some "nil"
  | '"' => some "string"
  | ':' => some "atom"
  | 't' => some "boolean"
  | 'f' => some "boolean"
  | '[' => some "list"
  | '\x7b' => some "map"
  | '#' => some "nested"
  | '-' => some "number"
  | c => if c.isDigit then some "number" else none

/-- Whatever follows the texts of two values, what is read as the first equals the second. -/
def Tells (a b : Value) : Prop :=
  ∀ s t, Stops s → Stops t → a.render ++ s = b.render ++ t → SameValue a b ∧ s = t

end Value

/-- A character of a number. -/
def isNumeral (c : Char) : Bool :=
  c.isDigit || c == '-'

theorem continuesWord_of_isNumeral (c : Char) (h : isNumeral c = true) :
    continuesWord c = true := by
  simp only [isNumeral, Bool.or_eq_true, beq_iff_eq] at h
  rcases h with hdigit | rfl
  · simp only [continuesWord, Char.isAlphanum, hdigit, Bool.or_true, Bool.true_or]
  · rfl

theorem kindOfHead?_of_isNumeral (c : Char) (h : isNumeral c = true) :
    Value.kindOfHead? c = some "number" := by
  unfold Value.kindOfHead?
  split
  case h_10 hminus =>
    have hdigit : c.isDigit = true := by
      simpa only [isNumeral, Bool.or_eq_true, beq_iff_eq, or_iff_left hminus] using h
    rw [if_pos hdigit]
  all_goals first | rfl | exact absurd h (by decide)

/-- A whole number is written in digits, with a sign if it is negative. -/
theorem Number.text_int (n : Int64) :
    (∀ c ∈ (Number.int n).text, isNumeral c = true) ∧ (Number.int n).text ≠ [] := by
  have hdigits : ∀ m : Nat, ∀ c ∈ m.repr.toList, isNumeral c = true := by
    intro m c hc
    rw [Nat.toList_repr] at hc
    rw [isNumeral, Nat.isDigit_of_mem_toDigits (by decide) (by decide) hc]
    rfl
  have hsome : ∀ m : Nat, m.repr.toList ≠ [] := by
    intro m
    rw [Nat.toList_repr]
    exact Nat.toDigits_ne_nil
  -- A negative number has the digits of its size after a sign.
  rw [text, Int.toString_eq_repr, Int.repr_eq_if]
  split
  · exact ⟨hdigits _, hsome _⟩
  · rw [String.toList_append]
    refine ⟨List.forall_mem_append.mpr ⟨List.forall_mem_singleton.mpr rfl, hdigits _⟩, ?_⟩
    exact List.append_ne_nil_of_right_ne_nil _ (hsome _)

theorem Number.text_int_inj (m n : Int64) (h : (Number.int m).text = (Number.int n).text) :
    m = n := by
  have hrepr : m.toInt.repr = n.toInt.repr := String.toList_inj.mp h
  exact Int64.toInt_inj.mp (Int.repr_injective hrepr)

namespace Value

/-- The first character of the text tells the kind. -/
theorem render_head (v : Value) (hv : v.Legible) :
    ∃ c rest, v.render = c :: rest ∧ kindOfHead? c = some v.typeName := by
  -- Every kind of value begins with a character of its own.
  cases hv with
  | nil => exact ⟨'n', _, rfl, rfl⟩
  | string text => exact ⟨'"', _, rfl, rfl⟩
  | atom name h => exact ⟨':', _, rfl, rfl⟩
  | whole n =>
      obtain ⟨hnumerals, hsome⟩ := Number.text_int n
      obtain ⟨c, rest, htext⟩ := List.exists_cons_of_ne_nil hsome
      refine ⟨c, rest, htext, kindOfHead?_of_isNumeral c (hnumerals c ?_)⟩
      rw [htext]
      exact List.mem_cons_self
  | boolean b => cases b <;> exact ⟨_, _, rfl, rfl⟩
  | list items h => exact ⟨'[', _, rfl, rfl⟩
  | map m hkeys hvalues =>
      obtain ⟨entries⟩ := m
      exact ⟨'\x7b', _, rfl, rfl⟩
  | nested host hnames h =>
      obtain ⟨operations, store⟩ := host
      exact ⟨'#', _, rfl, rfl⟩

theorem typeName_eq_of_render_append (a b : Value) (ha : a.Legible) (hb : b.Legible)
    (s t : List Char) (h : a.render ++ s = b.render ++ t) : a.typeName = b.typeName := by
  obtain ⟨c, rest, hrender, hkind⟩ := render_head a ha
  obtain ⟨c', rest', hrender', hkind'⟩ := render_head b hb
  rw [hrender, hrender'] at h
  obtain rfl : c = c' := List.head_eq_of_cons_eq h
  exact Option.some.inj (hkind.symm.trans hkind')

/-- No text of a value begins with a closing bracket. -/
theorem render_append_ne (v : Value) (hv : v.Legible) (closing : Char)
    (hclosing : kindOfHead? closing = none) (s t : List Char) : v.render ++ s ≠ closing :: t := by
  intro h
  obtain ⟨c, rest, hrender, hkind⟩ := render_head v hv
  rw [hrender] at h
  obtain rfl : c = closing := List.head_eq_of_cons_eq h
  exact nomatch hclosing.symm.trans hkind

theorem renderItems_eq_map (items : List Value) : renderItems items = items.map render := by
  induction items with
  | nil => rfl
  | cons v rest ih => exact congrArg (List.cons v.render) ih

theorem renderEntries_eq_map (entries : List (Value × Value)) :
    renderEntries entries = entries.map renderEntry := by
  induction entries with
  | nil => rfl
  | cons entry rest ih => exact congrArg (List.cons (renderEntry entry)) ih

theorem render_list_append (items : List Value) (s : List Char) :
    (list items).render ++ s = '[' :: (commaSeparated (items.map render) ++ ']' :: s) := by
  rw [render_list, renderItems_eq_map, List.cons_append, List.cons_append, List.append_assoc]
  rfl

theorem render_map_append (m : Mapping) (s : List Char) :
    (map m).render ++ s =
      '\x7b' :: (commaSeparated (m.entries.map renderEntry) ++ '\x7d' :: s) := by
  obtain ⟨entries⟩ := m
  rw [render_map, renderEntries_eq_map, List.cons_append, List.cons_append, List.append_assoc]
  rfl

theorem render_nested_append (host : Host) (s : List Char) :
    (nested host).render ++ s =
      "#<Host".toList ++ ((host.store.getD []).flatMap renderField ++ '>' :: s) := by
  rw [render_nested, host_render, List.append_assoc, List.append_assoc]
  rfl

theorem renderEntry_append (entry : Value × Value) (s : List Char) :
    renderEntry entry ++ s = entry.1.render ++ (" => ".toList ++ (entry.2.render ++ s)) := by
  obtain ⟨k, v⟩ := entry
  rw [renderEntry, List.append_assoc, List.append_assoc]

theorem renderField_append (slot : String × Value) (s : List Char) :
    renderField slot ++ s = ' ' :: (slot.1.toList ++ '=' :: (slot.2.render ++ s)) := by
  obtain ⟨name, v⟩ := slot
  rw [renderField, List.cons_append, List.cons_append, List.append_assoc, List.cons_append]

theorem tells_of_number (m n : Int64) : (number (.int m)).Tells (number (.int n)) := by
  intro s t hs ht h
  have hchars := fun k c hc => continuesWord_of_isNumeral c ((Number.text_int k).1 c hc)
  obtain ⟨htext, hrest⟩ := word_append_inj _ _ s t (hchars m) (hchars n) hs ht h
  obtain rfl := Number.text_int_inj m n htext
  exact ⟨beq_self_eq_true m, hrest⟩

theorem tells_of_atom (name other : String) (hname : IsPlainWord name.toList)
    (hother : IsPlainWord other.toList) : (atom name).Tells (atom other) := by
  intro s t hs ht h
  obtain ⟨hword, hrest⟩ := word_append_inj _ _ s t hname.chars hother.chars hs ht
    (List.tail_eq_of_cons_eq h)
  obtain rfl := String.toList_inj.mp hword
  exact ⟨beq_self_eq_true name, hrest⟩

theorem tells_of_string (text other : String) : (string text).Tells (string other) := by
  intro s t _ _ h
  obtain ⟨htext, hrest⟩ := Text.quoted_append_inj text.toList other.toList s t h
  obtain rfl := String.toList_inj.mp htext
  exact ⟨beq_self_eq_true text, hrest⟩

theorem tells_of_boolean (b c : Bool) : (boolean b).Tells (boolean c) := by
  intro s t _ _ h
  obtain rfl : b = c := by
    cases b <;> cases c <;> first | rfl | exact nomatch List.head_eq_of_cons_eq h
  exact ⟨beq_self_eq_true b, List.append_cancel_left h⟩

theorem tells_of_list (items others : List Value) (hitems : ∀ v ∈ items, v.Legible)
    (hothers : ∀ v ∈ others, v.Legible) (htells : ∀ v ∈ items, ∀ w ∈ others, v.Tells w) :
    (list items).Tells (list others) := by
  intro s t _ _ h
  rw [render_list_append, render_list_append] at h
  have hbegin : ∀ z, z ∈ items ∨ z ∈ others → ∀ rest rest', z.render ++ rest ≠ ']' :: rest' := by
    rintro z (hz | hz)
    · exact render_append_ne z (hitems z hz) ']' rfl
    · exact render_append_ne z (hothers z hz) ']' rfl
  obtain ⟨hall, hrest⟩ := separated_append_inj render SameValue ']' rfl (by decide) items others
    hbegin htells s t (List.tail_eq_of_cons_eq h)
  exact ⟨(list_beq_iff items others).mpr hall, hrest⟩

/-- An entry ends where its value ends, and its key where the arrow begins. -/
theorem entry_append_inj (x y : Value × Value) (hkey : x.1.Tells y.1) (hvalue : x.2.Tells y.2)
    (s t : List Char) (hs : Stops s) (ht : Stops t)
    (h : renderEntry x ++ s = renderEntry y ++ t) : SameEntry x y ∧ s = t := by
  rw [renderEntry_append, renderEntry_append] at h
  have harrow : ∀ u, Stops (" => ".toList ++ u) := fun u => stops_cons ' ' _ rfl
  obtain ⟨hsameKey, hrest⟩ := hkey _ _ (harrow _) (harrow _) h
  obtain ⟨hsameValue, hend⟩ := hvalue s t hs ht (List.append_cancel_left hrest)
  exact ⟨⟨hsameKey, hsameValue⟩, hend⟩

theorem tells_of_map (m n : Mapping) (hm : m.Over Built) (hn : n.Over Built)
    (hlegible : ∀ x ∈ m.entries, x.1.Legible) (hlegible' : ∀ y ∈ n.entries, y.1.Legible)
    (htells : ∀ x ∈ m.entries, ∀ y ∈ n.entries, x.1.Tells y.1 ∧ x.2.Tells y.2) :
    (map m).Tells (map n) := by
  intro s t _ _ h
  rw [render_map_append, render_map_append] at h
  -- No key begins with the closing brace, so an empty map cannot be taken for one with entries.
  have hbegin : ∀ z, z ∈ m.entries ∨ z ∈ n.entries →
      ∀ rest rest', renderEntry z ++ rest ≠ '\x7d' :: rest' := by
    intro z hz rest rest'
    rw [renderEntry_append]
    rcases hz with hz | hz
    · exact render_append_ne z.1 (hlegible z hz) '\x7d' rfl _ _
    · exact render_append_ne z.1 (hlegible' z hz) '\x7d' rfl _ _
  have hentries : ∀ x ∈ m.entries, ∀ y ∈ n.entries, ∀ s t, Stops s → Stops t →
      renderEntry x ++ s = renderEntry y ++ t → SameEntry x y ∧ s = t := fun x hx y hy =>
    entry_append_inj x y (htells x hx y hy).1 (htells x hx y hy).2
  obtain ⟨hall, hrest⟩ := separated_append_inj renderEntry SameEntry '\x7d' rfl (by decide)
    m.entries n.entries hbegin hentries s t (List.tail_eq_of_cons_eq h)
  -- Entries that agree one by one, in the same order, are more than equality asks for.
  have hsame := Mapping.same_iff_sameEntries built_equivalenceOn m n hm hn
  exact ⟨hsame.mpr ⟨n.entries, List.Perm.refl _, hall⟩, hrest⟩

/-- A slot ends where its value ends, and its name where the equals sign stands. -/
theorem slot_append_inj (x y : String × Value) (hname : IsPlainWord x.1.toList)
    (hname' : IsPlainWord y.1.toList) (hvalue : x.2.Tells y.2) (s t : List Char) (hs : Stops s)
    (ht : Stops t) (h : renderField x ++ s = renderField y ++ t) : SameSlot x y ∧ s = t := by
  rw [renderField_append, renderField_append] at h
  obtain ⟨hnames, hrest⟩ := word_append_inj _ _ _ _ hname.chars hname'.chars
    (stops_cons '=' _ rfl) (stops_cons '=' _ rfl) (List.tail_eq_of_cons_eq h)
  obtain ⟨hsame, hend⟩ := hvalue s t hs ht (List.tail_eq_of_cons_eq hrest)
  exact ⟨⟨String.toList_inj.mp hnames, hsame⟩, hend⟩

theorem tells_of_nested (host other : Host)
    (hnames : ∀ x ∈ host.store.getD [], IsPlainWord x.1.toList)
    (hnames' : ∀ y ∈ other.store.getD [], IsPlainWord y.1.toList)
    (htells : ∀ x ∈ host.store.getD [], ∀ y ∈ other.store.getD [], x.2.Tells y.2) :
    (nested host).Tells (nested other) := by
  intro s t _ _ h
  rw [render_nested_append, render_nested_append] at h
  have hslots : ∀ x ∈ host.store.getD [], ∀ y ∈ other.store.getD [], ∀ s t, Stops s → Stops t →
      renderField x ++ s = renderField y ++ t → SameSlot x y ∧ s = t := fun x hx y hy =>
    slot_append_inj x y (hnames x hx) (hnames' y hy) (htells x hx y hy)
  obtain ⟨hall, hrest⟩ := pieces_append_inj renderField SameSlot '>' ' ' rfl rfl (by decide)
    (fun ⟨_, _⟩ => ⟨_, rfl⟩) _ _ hslots s t (List.append_cancel_left h)
  exact ⟨(nested_beq_iff host other).mpr hall, hrest⟩

theorem tells_of_typeName (a b : Value) (ha : a.Legible) (hb : b.Legible)
    (h : a.typeName = b.typeName → a.Tells b) : a.Tells b := by
  intro s t hs ht heq
  exact h (typeName_eq_of_render_append a b ha hb s t heq) s t hs ht heq

/-- The text of a legible value tells the value, whatever follows it. -/
theorem tells_of_legible (a b : Value) (ha : a.Built) (hb : b.Built) (ha' : a.Legible)
    (hb' : b.Legible) : a.Tells b := by
  -- On the first value. The first character of a text gives away the kind, so only values of the
  -- same kind remain, and for these it is a matter of their parts.
  induction a using Value.inductOn generalizing b with
  | nil =>
      refine tells_of_typeName _ b ha' hb' fun hkind => ?_
      cases b with
      | nil => exact fun s t _ _ h => ⟨rfl, List.append_cancel_left h⟩
      | _ => simp [typeName] at hkind
  | string text =>
      refine tells_of_typeName _ b ha' hb' fun hkind => ?_
      cases b with
      | string other => exact tells_of_string text other
      | _ => simp [typeName] at hkind
  | atom name =>
      refine tells_of_typeName _ b ha' hb' fun hkind => ?_
      cases ha' with
      | atom _ hname =>
          cases hb' with
          | atom other hother => exact tells_of_atom name other hname hother
          | _ => simp [typeName] at hkind
  | number n =>
      refine tells_of_typeName _ b ha' hb' fun hkind => ?_
      cases ha' with
      | whole m =>
          cases hb' with
          | whole n => exact tells_of_number m n
          | _ => simp [typeName] at hkind
  | boolean b' =>
      refine tells_of_typeName _ b ha' hb' fun hkind => ?_
      cases b with
      | boolean c => exact tells_of_boolean b' c
      | _ => simp [typeName] at hkind
  -- Callables all look alike, which is why they are not legible.
  | callable name => exact nomatch ha'
  | list items ih =>
      refine tells_of_typeName _ b ha' hb' fun hkind => ?_
      cases ha' with
      | list _ hitems =>
          cases hb' with
          | list others hothers =>
              cases ha with
              | list _ hbuilt =>
                  cases hb with
                  | list _ hbuilt' =>
                      -- Items are told apart by the induction hypothesis, and so is the list.
                      exact tells_of_list items others hitems hothers fun v hv w hw =>
                        ih v hv w (hbuilt v hv) (hbuilt' w hw) (hitems v hv) (hothers w hw)
          | _ => simp [typeName] at hkind
  | map entries ihKey ihValue =>
      refine tells_of_typeName _ b ha' hb' fun hkind => ?_
      have hm := Built.mapping _ ha
      cases ha' with
      | map _ hkeys hvalues =>
          cases hb' with
          | map n hkeys' hvalues' =>
              have hn := Built.mapping _ hb
              -- Keys and values alike, each against each of the other map.
              refine tells_of_map ⟨entries⟩ n hm hn hkeys hkeys' fun x hx y hy => ⟨?_, ?_⟩
              · exact ihKey x hx y.1 (hm.keys x hx) (hn.keys y hy) (hkeys x hx) (hkeys' y hy)
              · exact ihValue x hx y.2 (hm.values x hx) (hn.values y hy) (hvalues x hx)
                  (hvalues' y hy)
          | _ => simp [typeName] at hkind
  | nested operations store ih =>
      refine tells_of_typeName _ b ha' hb' fun hkind => ?_
      have hhost := Built.host _ ha
      cases ha' with
      | nested _ hnames hslots =>
          cases hb' with
          | nested other hnames' hslots' =>
              have hother := Built.host _ hb
              -- A host shows its store and nothing of its operations.
              refine tells_of_nested _ other hnames hnames' fun x hx y hy => ?_
              cases store with
              | none => exact absurd hx List.not_mem_nil
              | some slots =>
                  exact ih slots rfl x hx y.2 (hhost.values x hx) (hother.values y hy)
                    (hslots x hx) (hslots' y hy)
          | _ => simp [typeName] at hkind

/-- Legible values with the same text are equal. -/
theorem eq_of_toText_eq (a b : Value) (ha : a.Built) (hb : b.Built) (ha' : a.Legible)
    (hb' : b.Legible) (h : a.toText = b.toText) : (a == b) = true := by
  have hrender : a.render = b.render := String.ofList_injective h
  have hall : a.render ++ [] = b.render ++ [] := by rw [hrender]
  exact (tells_of_legible a b ha hb ha' hb' [] [] stops_nil stops_nil hall).1

/-- Two hosts that share no operation and were not stored into alike, within lists. -/
theorem eq_of_toText_eq_hosts :
    let a := list [.string "], [", .nested ⟨[("inspect", .inspect)], none⟩]
    let b := list [.string "], [", .nested ⟨[], some []⟩]
    a.Built ∧ b.Built ∧ a.Legible ∧ b.Legible ∧ a.toText = b.toText ∧ (a == b) = true := by
  intro a b
  -- Two hosts with nothing in their stores, one of which has a store and the other an operation.
  have hhost : ∀ operations store, store.getD [] = [] →
      (nested ⟨operations, store⟩).Built ∧ (nested ⟨operations, store⟩).Legible := by
    intro operations store hstore
    have hnone : ∀ slot ∈ store.getD [], False := by
      intro slot hslot
      rw [hstore] at hslot
      exact nomatch hslot
    exact ⟨.nested operations store hstore [] fun _ h => absurd h List.not_mem_nil,
      .nested _ (fun slot h => (hnone slot h).elim) fun slot h => (hnone slot h).elim⟩
  have hpair : ∀ host, (nested host).Built ∧ (nested host).Legible →
      (list [.string "], [", .nested host]).Built ∧ (list [.string "], [", .nested host]).Legible :=
    fun host h =>
      ⟨.list _ (List.forall_mem_cons.mpr ⟨.string _, List.forall_mem_singleton.mpr h.1⟩),
        .list _ (List.forall_mem_cons.mpr ⟨.string _, List.forall_mem_singleton.mpr h.2⟩)⟩
  obtain ⟨ha, ha'⟩ := hpair _ (hhost [("inspect", .inspect)] none rfl)
  obtain ⟨hb, hb'⟩ := hpair _ (hhost [] (some []) rfl)
  have htext : a.toText = b.toText := rfl
  exact ⟨ha, hb, ha', hb', htext, eq_of_toText_eq a b ha hb ha' hb' htext⟩

/-- An atom that is no word can pass for several values. -/
example :
    (list [.atom "a, :b"]).toText = (list [.atom "a", .atom "b"]).toText ∧
      (list [.atom "a, :b"] == list [.atom "a", .atom "b"]) = false := by
  decide +kernel

end Value

end FieldSchema
