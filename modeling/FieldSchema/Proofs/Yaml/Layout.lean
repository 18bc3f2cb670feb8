import FieldSchema.Proofs.Yaml.Scalars

/-!
# Layout Read Back

Mappings and sequences are read back from the lines that are written for them.

The reader knows where a node ends by what the next line begins with and in
which column. So a node cannot be read back on its own. It is followed by the
rest of the document, of which one has to know its onset and its column, and
the column is to the left of the node, or at most in it where a sequence stands
beneath a key. `Below` is that condition. It passes from a node to its parts,
because the parts stand further to the right, and the next entry or item is the
onset that follows the one before it.

The induction is on the fuel of the reader, which falls with every call, and
goes to the parts of a node with the fuel that is left. How much is needed is
bounded by the length of what is written, four for each character; it is
consumed a little faster than the text is where brackets or quotes open, but
not so much.

## Main definitions

* `Node.reread`: A node as it is read back.
* `Node.Keyed`: All keys in the node are words.
* `Below`: The rest of the document is to the left of a column.

## Theorems

* `block?_inline`: What is written on one line is read back.
* `block?_key`: A key begins a mapping.
* `blockValue?_valueText`, `blockItems?_itemsText`, `blockEntries?_entriesText`: What is written
  on several lines is read back.
* `document_chars`: The characters of a document are the harmless ones.
* `parse?_document`: The document of a mapping is read back as the mapping.
-/

namespace FieldSchema

namespace Yaml

mutual

/-- A node as it is read back: a scalar counts as quoted unless it is written plainly. -/
def Node.reread : Node → Node
  | .scalar _ text => .scalar (!isPlain text) text
  | .sequence items => .sequence (rereadItems items)
  | .mapping entries => .mapping (rereadEntries entries)
termination_by structural node => node

/-- Items as they are read back. -/
def rereadItems : List Node → List Node
  | [] => []
  | item :: rest => item.reread :: rereadItems rest
termination_by structural items => items

/-- Entries as they are read back. -/
def rereadEntries : List (Node × Node) → List (Node × Node)
  | [] => []
  | entry :: rest => rereadEntry entry :: rereadEntries rest
termination_by structural entries => entries

/-- An entry as it is read back. -/
def rereadEntry : Node × Node → Node × Node
  | (key, value) => (key.reread, value.reread)
termination_by structural entry => entry

end

/-- All keys in the node are words. -/
inductive Node.Keyed : Node → Prop
  | scalar (quoted : Bool) (text : List Char) : Keyed (.scalar quoted text)
  | sequence (items : List Node) (hitems : ∀ item ∈ items, Keyed item) : Keyed (.sequence items)
  | mapping (entries : List (Node × Node))
      (hkeys : ∀ entry ∈ entries, ∃ quoted text, entry.1 = .scalar quoted text ∧ IsWord text)
      (hvalues : ∀ entry ∈ entries, Keyed entry.2) : Keyed (.mapping entries)

/-- The text of a node that is written on one line. -/
def Node.inline? : Node → Option (List Char)
  | .scalar _ text => some (scalarText text)
  | .sequence [] => some ['[', ']']
  | .mapping [] => some ['\x7b', '\x7d']
  | _ => none

/-- A node on one line is a scalar, or a sequence or a mapping that holds nothing. -/
theorem inline?_cases (node : Node) (text : List Char) (h : node.inline? = some text) :
    (∃ quoted s, node = .scalar quoted s ∧ text = scalarText s) ∨
      (node = .sequence [] ∧ text = ['[', ']']) ∨
        (node = .mapping [] ∧ text = ['\x7b', '\x7d']) := by
  cases node with
  | scalar quoted s => exact Or.inl ⟨quoted, s, rfl, (Option.some.inj h).symm⟩
  | sequence items =>
      cases items with
      | nil => exact Or.inr (Or.inl ⟨rfl, (Option.some.inj h).symm⟩)
      | cons item rest => exact nomatch h
  | mapping entries =>
      cases entries with
      | nil => exact Or.inr (Or.inr ⟨rfl, (Option.some.inj h).symm⟩)
      | cons entry rest => exact nomatch h

/-- The rest of the document is to the left of the column, or is a key in the column. -/
def Below (column : Nat) (beneathKey : Bool) (lead : List Char) (n : Nat) : Prop :=
  lead ≠ [] → n < column ∨ (beneathKey = true ∧ n = column ∧ Cursor.atDash ⟨lead, n⟩ = false)

theorem Below.le (column : Nat) (beneathKey : Bool) (lead : List Char) (n : Nat)
    (h : Below column beneathKey lead n) (hlead : lead ≠ []) : n ≤ column := by
  rcases h hlead with hless | ⟨-, heq, -⟩
  · exact Nat.le_of_lt hless
  · exact Nat.le_of_eq heq

theorem Below.of_lt (column : Nat) (beneathKey : Bool) (lead : List Char) (n : Nat)
    (h : lead ≠ [] → n < column) : Below column beneathKey lead n :=
  fun hlead => Or.inl (h hlead)

theorem Onset.atEnd (lead : List Char) (column : Nat) (h : Onset lead) (hlead : lead ≠ []) :
    Cursor.atEnd ⟨lead, column⟩ = false := by
  unfold Cursor.atEnd
  rw [h.not_atMarker, List.isEmpty_eq_false_iff.mpr hlead]
  rfl

/-- Brackets that hold nothing are read as such. -/
theorem flowNode?_empty (fuel least : Nat) (rest : List Char) (column : Nat) :
    flowNode? least (fuel + 2) ⟨'[' :: ']' :: rest, column⟩ =
        some (.sequence [], ⟨rest, column + 1 + 1⟩) ∧
      flowNode? least (fuel + 2) ⟨'\x7b' :: '\x7d' :: rest, column⟩ =
        some (.mapping [], ⟨rest, column + 1 + 1⟩) := by
  have hmark : ∀ c, c = '[' ∨ c = '\x7b' →
      ∀ after, Cursor.atMarker ⟨c :: after, column⟩ = false := by
    rintro c (rfl | rfl) after <;> exact Bool.and_false _
  constructor
  · rw [flowNode?, hmark '[' (Or.inl rfl)]
    rfl
  · rw [flowNode?, hmark '\x7b' (Or.inr rfl)]
    rfl

/-- What is written on one line is read back, and what follows is the next line. -/
theorem block?_inline (node : Node) (text : List Char) (hinline : node.inline? = some text)
    (fuel least n : Nat) (fresh : Bool) (lead : List Char) (column : Nat) (hcolumn : column ≠ 0)
    (h : Onset lead) (hleast : lead ≠ [] → n < least) :
    ∃ after, block? (fuel + 3) least fresh
        ⟨text ++ '\n' :: (List.replicate n ' ' ++ lead), column⟩ = some (node.reread, after) ∧
      after.skip false false = ⟨lead, n⟩ := by
  -- An empty sequence and an empty mapping are read inside their brackets.
  have hbrackets : ∀ c d read, (c = '[' ∧ d = ']' ∨ c = '\x7b' ∧ d = '\x7d') →
      (∀ rest, flowNode? least (fuel + 2) ⟨c :: d :: rest, column⟩ =
        some (read, ⟨rest, column + 1 + 1⟩)) →
      ∃ after, block? (fuel + 3) least fresh
          ⟨[c, d] ++ '\n' :: (List.replicate n ' ' ++ lead), column⟩ = some (read, after) ∧
        after.skip false false = ⟨lead, n⟩ := by
    intro c d read hcd hflow
    refine ⟨⟨'\n' :: (List.replicate n ' ' ++ lead), column + 1 + 1⟩, ?_,
      skip_line false false n lead _ h⟩
    have hread := hflow ('\n' :: (List.replicate n ' ' ++ lead))
    rcases hcd with ⟨rfl, rfl⟩ | ⟨rfl, rfl⟩ <;>
      (simp only [List.cons_append, List.nil_append, block?, Cursor.atDash, atom?]
       rw [hread]
       rfl)
  rcases inline?_cases node text hinline with ⟨quoted, s, rfl, rfl⟩ | ⟨rfl, rfl⟩ | ⟨rfl, rfl⟩
  -- A scalar is no key, because no colon follows it on its line.
  · obtain ⟨after, hread, hskip, hcolon⟩ :=
      atom?_scalarText (fuel + 1) least n s lead column hcolumn h hleast
    obtain ⟨c, rest, htext, hopens⟩ := scalarText_opens s
    have hdash : Cursor.atDash
        ⟨scalarText s ++ '\n' :: (List.replicate n ' ' ++ lead), column⟩ = false := by
      rw [htext, List.cons_append, Cursor.atDash]
      split
      · rename_i heq
        exact absurd (List.cons.inj heq).1 hopens.not_dash
      · rfl
    refine ⟨after, ?_, hskip⟩
    rw [block?, hdash, hread]
    simp only [Bool.false_eq_true, if_false, hcolon]
    rfl
  · exact hbrackets '[' ']' _ (Or.inl ⟨rfl, rfl⟩)
      fun rest => (flowNode?_empty fuel least rest column).1
  · exact hbrackets '\x7b' '\x7d' _ (Or.inr ⟨rfl, rfl⟩)
      fun rest => (flowNode?_empty fuel least rest column).2

theorem inline?_opens (node : Node) (text : List Char) (h : node.inline? = some text) :
    ∃ c rest, text = c :: rest ∧ Opens c := by
  rcases inline?_cases node text h with ⟨quoted, s, -, rfl⟩ | ⟨-, rfl⟩ | ⟨-, rfl⟩
  · exact scalarText_opens s
  · exact ⟨'[', _, rfl, rfl, rfl, by decide, by decide, by decide⟩
  · exact ⟨'\x7b', _, rfl, rfl, rfl, by decide, by decide, by decide⟩

theorem valueText_inline (node : Node) (text : List Char) (h : node.inline? = some text)
    (column : Nat) :
    valueText column node = ' ' :: (text ++ ['\n']) ∧
      itemText column node = ' ' :: (text ++ ['\n']) := by
  rcases inline?_cases node text h with ⟨quoted, s, rfl, rfl⟩ | ⟨rfl, rfl⟩ | ⟨rfl, rfl⟩ <;>
    exact ⟨rfl, rfl⟩

/-- A key is read with its colon. -/
theorem atom?_word (fuel least : Nat) (key rest : List Char) (column : Nat) (hkey : IsWord key)
    (h : blankFollows rest = true) :
    atom? fuel least ⟨key ++ ':' :: rest, column⟩ =
      some (.scalar false key, ⟨':' :: rest, column + key.length⟩) := by
  have hread := plain?_word least key rest column hkey h
  have hplain := hkey.isPlain
  cases key with
  | nil => exact nomatch hplain
  | cons c more =>
      rw [List.cons_append, atom?_of_not_isIndicator _ _ _ _ _ (isPlain_cons c more hplain).1,
        ← List.cons_append, hread]
      rfl

/-- The colon of a key ends it, on the same line and near enough. -/
theorem colon_of_word (key rest : List Char) (column : Nat) (hkey : IsWord key)
    (h : blankFollows rest = true) :
    (Cursor.skipBlanks ⟨':' :: rest, column + key.length⟩).atColon = true ∧
      Cursor.spansKey ⟨key ++ ':' :: rest, column⟩
        (Cursor.skipBlanks ⟨':' :: rest, column + key.length⟩) = true := by
  refine ⟨h, ?_⟩
  change Cursor.spansKey _ ⟨':' :: rest, column + key.length⟩ = true
  unfold Cursor.spansKey
  rw [textUpTo_append]
  have hbreak : key.any isBreak = false := by
    rw [List.any_eq_false]
    intro c hc
    rw [isBreak_of_isWordChar c (hkey.chars c hc)]
    exact Bool.false_ne_true
  simp only [hbreak, decide_eq_true hkey.short, Bool.not_false, Bool.and_self]

theorem key?_word (fuel least : Nat) (key rest : List Char) (column : Nat) (hkey : IsWord key)
    (h : blankFollows rest = true) :
    key? fuel least ⟨key ++ ':' :: rest, column⟩ =
      some (.scalar false key, ⟨rest, column + key.length + 1⟩) := by
  obtain ⟨hcolon, hspans⟩ := colon_of_word key rest column hkey h
  unfold key?
  rw [atom?_word fuel least key rest column hkey h]
  simp only [hcolon, hspans, Bool.and_self, if_true]
  rfl

/-- An onset that is a key is no dash. -/
theorem not_atDash_of_word (key rest : List Char) (column : Nat) (hkey : IsWord key) :
    Cursor.atDash ⟨key ++ rest, column⟩ = false := by
  cases key with
  | nil => exact absurd rfl hkey.nonempty
  | cons c more =>
      have hdash := ne_of_isWordChar c '-' (hkey.chars c List.mem_cons_self) (by decide)
      rw [List.cons_append, Cursor.atDash]
      split
      · rename_i heq
        exact absurd (List.cons.inj heq).1 hdash
      · rfl

/-- A key begins a mapping, where one can begin. -/
theorem block?_key (fuel least : Nat) (key rest : List Char) (column : Nat) (hkey : IsWord key)
    (h : blankFollows rest = true) :
    block? (fuel + 1) least true ⟨key ++ ':' :: rest, column⟩ =
      blockEntries? fuel column [] (.scalar false key) ⟨rest, column + key.length + 1⟩ := by
  obtain ⟨hcolon, hspans⟩ := colon_of_word key rest column hkey h
  rw [block?, not_atDash_of_word key _ column hkey, atom?_word fuel least key rest column hkey h]
  simp only [hcolon, hspans, Bool.false_eq_true, if_false, Bool.and_self, if_true]
  rfl

/-- A dash begins a sequence, where one can begin. -/
theorem block?_dash (fuel least : Nat) (rest : List Char) (column : Nat)
    (h : blankFollows rest = true) :
    block? (fuel + 1) least true ⟨'-' :: rest, column⟩ =
      blockItems? fuel column false [] ⟨'-' :: rest, column⟩ := by
  have hdash : Cursor.atDash ⟨'-' :: rest, column⟩ = true := h
  rw [block?, hdash]
  rfl

/-- A value is written after a space or on the next line. -/
theorem blankFollows_valueText (column : Nat) (node : Node) (rest : List Char) :
    blankFollows (valueText column node ++ rest) = true := by
  cases node with
  | scalar quoted text => rfl
  | sequence items => cases items <;> rfl
  | mapping entries => cases entries <;> rfl

/-- An item is written after a space or on the next line. -/
theorem blankFollows_itemText (column : Nat) (node : Node) (rest : List Char) :
    blankFollows (itemText column node ++ rest) = true := by
  cases node with
  | scalar quoted text => rfl
  | sequence items => cases items <;> rfl
  | mapping entries => cases entries <;> rfl

theorem itemsText_cons (column : Nat) (item : Node) (rest : List Node) :
    itemsText column (item :: rest) =
      List.replicate column ' ' ++ ('-' :: (itemText column item ++ itemsText column rest)) := by
  rw [itemsText, List.append_assoc, List.cons_append]

theorem entriesText_cons (column : Nat) (quoted : Bool) (key : List Char) (hkey : IsWord key)
    (value : Node) (rest : List (Node × Node)) :
    entriesText column ((.scalar quoted key, value) :: rest) =
      List.replicate column ' ' ++
        (key ++ ':' :: (valueText column value ++ entriesText column rest)) := by
  have hinline : (Node.scalar quoted key).inlineText = key := by
    rw [Node.inlineText, scalarText, if_pos hkey.isPlain]
  rw [entriesText, entryText, hinline]
  simp only [List.append_assoc, List.cons_append]

/-- Reading gives the node, and what follows it is the onset of the rest, in its column. -/
def ReadsTo (read : Option (Node × Cursor)) (node : Node) (lead : List Char) (n : Nat) : Prop :=
  ∃ after, read = some (node, after) ∧ after.skip false false = ⟨lead, n⟩

/-- A value on the line of its key is read back. -/
theorem blockValue?_inline (node : Node) (text : List Char) (hinline : node.inline? = some text)
    (fuel column n : Nat) (lead : List Char) (position : Nat) (h : Onset lead)
    (hleast : lead ≠ [] → n ≤ column) :
    ReadsTo (blockValue? (fuel + 4) column
      ⟨' ' :: (text ++ '\n' :: (List.replicate n ' ' ++ lead)), position⟩) node.reread lead n := by
  obtain ⟨c, more, rfl, hopens⟩ := inline?_opens node text hinline
  have hskip := skip_space false false c (more ++ '\n' :: (List.replicate n ' ' ++ lead)) position
    hopens.not_break hopens.not_blank hopens.not_hash hopens.not_byteOrderMark
  have hend : Cursor.atEnd
      ⟨c :: (more ++ '\n' :: (List.replicate n ' ' ++ lead)), position + 1⟩ = false := by
    unfold Cursor.atEnd
    rw [atMarker_of_ne_zero _ _ (Nat.succ_ne_zero position)]
    rfl
  -- There is no line break before the text, so it is not looked for as a block.
  have hcrosses := crosses_append [' '] (c :: (more ++ '\n' :: (List.replicate n ' ' ++ lead)))
    position (position + 1)
  rw [List.singleton_append] at hcrosses
  have hread := block?_inline node (c :: more) hinline fuel (column + 1) n false lead
    (position + 1) (Nat.succ_ne_zero position) h (fun hlead => Nat.lt_succ_of_le (hleast hlead))
  rw [List.cons_append] at hread ⊢
  rw [blockValue?, hskip]
  simp only [hend, hcrosses, show [' '].any isBreak = false from rfl, Bool.not_false,
    Bool.false_eq_true, if_false, if_true]
  exact hread

/-- From the line of a key the reader comes to the line below it. -/
theorem blockValue?_below (fuel column n : Nat) (lead : List Char) (position : Nat)
    (h : Onset lead) (hlead : lead ≠ []) :
    blockValue? (fuel + 1) column ⟨'\n' :: (List.replicate n ' ' ++ lead), position⟩ =
      if column < n then block? fuel (column + 1) true ⟨lead, n⟩
      else if n = column && Cursor.atDash ⟨lead, n⟩ then
        blockItems? fuel column true [] ⟨lead, n⟩
      else some (.missing, ⟨'\n' :: (List.replicate n ' ' ++ lead), position⟩) := by
  have hcrosses := crosses_append ('\n' :: List.replicate n ' ') lead position n
  rw [List.any_cons, show isBreak '\n' = true from rfl, Bool.true_or, List.cons_append] at hcrosses
  rw [blockValue?, skip_line false false n lead position h]
  simp only [h.atEnd lead n hlead, hcrosses, Bool.not_true, Bool.false_eq_true, if_false]

/-- The last item of a sequence, after which the rest is to the left. -/
theorem blockItems?_last (fuel column : Nat) (beneathKey : Bool) (items : List Node) (item : Node)
    (text lead : List Char) (n : Nat)
    (hend : (Cursor.skip ⟨text, column + 1⟩ false true).atEnd = false)
    (hcolumn : column < (Cursor.skip ⟨text, column + 1⟩ false true).column)
    (hread : ReadsTo (block? fuel (column + 1) true (Cursor.skip ⟨text, column + 1⟩ false true))
      item lead n)
    (h : Onset lead) (hbelow : Below column beneathKey lead n) :
    ReadsTo (blockItems? (fuel + 1) column beneathKey items ⟨'-' :: text, column⟩)
      (.sequence (item :: items).reverse) lead n := by
  obtain ⟨after, hitem, hskip⟩ := hread
  refine ⟨after, ?_, hskip⟩
  have hafter : Cursor.advance ⟨'-' :: text, column⟩ 1 = ⟨text, column + 1⟩ := rfl
  rw [blockItems?, hafter]
  simp only [hend, hcolumn, decide_true, Bool.or_true, Bool.false_eq_true, if_false, if_true,
    hitem, hskip]
  by_cases hlead : lead = []
  · subst hlead
    rfl
  · rw [h.atEnd lead n hlead]
    rcases hbelow hlead with hless | ⟨rfl, rfl, hdash⟩
    · simp only [hless, decide_true, Bool.or_true, if_true]
    · simp only [Nat.lt_irrefl, hdash, decide_false, Bool.or_self, Bool.false_eq_true, if_false,
        if_true]

/-- An item of a sequence that is followed by another one. -/
theorem blockItems?_more (fuel column : Nat) (beneathKey : Bool) (items : List Node) (item : Node)
    (text more : List Char) (hend : (Cursor.skip ⟨text, column + 1⟩ false true).atEnd = false)
    (hcolumn : column < (Cursor.skip ⟨text, column + 1⟩ false true).column)
    (hread : ReadsTo (block? fuel (column + 1) true (Cursor.skip ⟨text, column + 1⟩ false true))
      item ('-' :: more) column)
    (hmore : blankFollows more = true) :
    blockItems? (fuel + 1) column beneathKey items ⟨'-' :: text, column⟩ =
      blockItems? fuel column beneathKey (item :: items) ⟨'-' :: more, column⟩ := by
  obtain ⟨after, hitem, hskip⟩ := hread
  have hnext := (Onset.dash more hmore).atEnd _ column (List.cons_ne_nil '-' more)
  have hdash : Cursor.atDash ⟨'-' :: more, column⟩ = true := hmore
  have hafter : Cursor.advance ⟨'-' :: text, column⟩ 1 = ⟨text, column + 1⟩ := rfl
  rw [blockItems?, hafter]
  simp only [hend, hcolumn, decide_true, Bool.or_true, Bool.false_eq_true, if_false, if_true,
    hitem, hskip, hnext, Nat.lt_irrefl, hdash, decide_false, Bool.or_self]

/-- The last entry of a mapping, after which the rest is to the left. -/
theorem blockEntries?_last (fuel column : Nat) (entries : List (Node × Node)) (key value : Node)
    (afterColon : Cursor) (lead : List Char) (n : Nat)
    (hread : ReadsTo (blockValue? fuel column afterColon) value lead n) (h : Onset lead)
    (hless : lead ≠ [] → n < column) :
    ReadsTo (blockEntries? (fuel + 1) column entries key afterColon)
      (.mapping ((key, value) :: entries).reverse) lead n := by
  obtain ⟨after, hvalue, hskip⟩ := hread
  refine ⟨after, ?_, hskip⟩
  rw [blockEntries?, hvalue]
  simp only [hskip]
  by_cases hlead : lead = []
  · subst hlead
    rfl
  · simp only [h.atEnd lead n hlead, hless hlead, decide_true, Bool.or_true, if_true]

/-- An entry of a mapping that is followed by another one. -/
theorem blockEntries?_more (fuel column : Nat) (entries : List (Node × Node)) (key value : Node)
    (afterColon : Cursor) (next more : List Char) (hnext : IsWord next)
    (hmore : blankFollows more = true)
    (hread : ReadsTo (blockValue? fuel column afterColon) value (next ++ ':' :: more) column) :
    blockEntries? (fuel + 1) column entries key afterColon =
      blockEntries? fuel column ((key, value) :: entries) (.scalar false next)
        ⟨more, column + next.length + 1⟩ := by
  obtain ⟨after, hvalue, hskip⟩ := hread
  have hend := (hnext.onset next (':' :: more)).atEnd _ column
    (List.append_ne_nil_of_left_ne_nil hnext.nonempty _)
  rw [blockEntries?, hvalue]
  simp only [hskip, hend, Nat.lt_irrefl, not_atDash_of_word next _ column hnext, decide_false,
    Bool.or_self, Bool.false_eq_true, if_false, key?_word fuel (column + 1) next more column hnext
    hmore]

mutual

/-- A value is read back, if the rest of the document is to the left of its key or a key below. -/
theorem blockValue?_valueText (node : Node) (hkeyed : node.Keyed) (fuel column n : Nat)
    (lead : List Char) (position : Nat) (hfuel : 4 * (valueText column node).length ≤ fuel)
    (h : Onset lead) (hbelow : Below column true lead n) :
    ReadsTo (blockValue? fuel column
      ⟨valueText column node ++ (List.replicate n ' ' ++ lead), position⟩)
      node.reread lead n := by
  -- What fits on the line of its key.
  have hinline : ∀ text, node.inline? = some text →
      ReadsTo (blockValue? fuel column
        ⟨valueText column node ++ (List.replicate n ' ' ++ lead), position⟩)
        node.reread lead n := by
    intro text htext
    rw [(valueText_inline node text htext column).1] at hfuel ⊢
    obtain ⟨more, rfl⟩ : ∃ more, fuel = more + 4 := by
      simp only [List.length_cons, List.length_append, List.length_nil] at hfuel
      exact ⟨fuel - 4, by omega⟩
    rw [List.cons_append, List.append_assoc, List.singleton_append]
    exact blockValue?_inline node text htext more column n lead position h (hbelow.le column true
      lead n)
  match node with
  | .scalar quoted text => exact hinline _ rfl
  | .sequence [] => exact hinline _ rfl
  | .mapping [] => exact hinline _ rfl
  | .sequence (item :: rest) =>
      cases hkeyed with
      | sequence _ hitems =>
          have htext : valueText column (.sequence (item :: rest)) =
              '\n' :: itemsText column (item :: rest) := rfl
          rw [htext, List.length_cons] at hfuel
          obtain ⟨more, rfl⟩ : ∃ more, fuel = more + 1 := ⟨fuel - 1, by omega⟩
          -- The dashes of a sequence stand in the column of the key, and its lead is what follows
          -- the whole value.
          have hread := blockItems?_itemsText (item :: rest) hitems item rest rfl more column n
            true [] lead (by omega) h hbelow
          rw [htext, itemsText_cons]
          simp only [List.cons_append, List.append_assoc]
          have hblank := blankFollows_itemText column item
            (itemsText column rest ++ (List.replicate n ' ' ++ lead))
          rw [blockValue?_below more column column _ position (.dash _ hblank)
            (List.cons_ne_nil _ _), if_neg (Nat.lt_irrefl column)]
          have hdash : Cursor.atDash ⟨'-' :: (itemText column item ++
            (itemsText column rest ++ (List.replicate n ' ' ++ lead))), column⟩ = true := hblank
          simp only [hdash, decide_true, Bool.and_self, if_true]
          exact hread
  | .mapping (entry :: rest) =>
      cases hkeyed with
      | mapping _ hkeys hvalues =>
          obtain ⟨key, value⟩ := entry
          obtain ⟨quoted, word, rfl, hword⟩ := hkeys (key, value) List.mem_cons_self
          have htext : valueText column (.mapping ((.scalar quoted word, value) :: rest)) =
              '\n' :: entriesText (column + 2) ((.scalar quoted word, value) :: rest) := rfl
          rw [htext, List.length_cons, entriesText_cons _ _ _ hword] at hfuel
          simp only [List.length_append, List.length_replicate, List.length_cons] at hfuel
          obtain ⟨more, rfl⟩ : ∃ more, fuel = more + 1 + 1 := ⟨fuel - 2, by omega⟩
          -- A mapping is indented by two, so its first key is found in the deeper column.
          have hread := blockEntries?_entriesText ((.scalar quoted word, value) :: rest) hkeys
            hvalues quoted word value rest rfl more (column + 2) n [] lead
            (column + 2 + word.length + 1) (by omega) h (fun hlead =>
              Nat.lt_of_le_of_lt (hbelow.le column true lead n hlead) (by omega))
          rw [htext, entriesText_cons _ _ _ hword]
          simp only [List.cons_append, List.append_assoc]
          have hblank := blankFollows_valueText (column + 2) value
            (entriesText (column + 2) rest ++ (List.replicate n ' ' ++ lead))
          rw [blockValue?_below (more + 1) column (column + 2) _ position
            (hword.onset word _) (List.append_ne_nil_of_left_ne_nil hword.nonempty _),
            if_pos (by omega), block?_key more (column + 1) word _ (column + 2) hword hblank]
          exact hread
termination_by fuel

/-- An item is read back, from the character after its dash that is not passed over. -/
theorem block?_itemText (node : Node) (hkeyed : node.Keyed) (fuel column n : Nat)
    (lead : List Char) (hfuel : 4 * (itemText column node).length ≤ fuel) (h : Onset lead)
    (hleast : lead ≠ [] → n ≤ column) :
    let c := Cursor.skip ⟨itemText column node ++ (List.replicate n ' ' ++ lead), column + 1⟩
      false true
    c.atEnd = false ∧ column < c.column ∧
      ReadsTo (block? fuel (column + 1) true c) node.reread lead n := by
  -- What fits on the line of its dash.
  have hinline : ∀ text, node.inline? = some text →
      let c := Cursor.skip ⟨itemText column node ++ (List.replicate n ' ' ++ lead), column + 1⟩
        false true
      c.atEnd = false ∧ column < c.column ∧
        ReadsTo (block? fuel (column + 1) true c) node.reread lead n := by
    intro text htext
    rw [(valueText_inline node text htext column).2] at hfuel ⊢
    obtain ⟨c, more, rfl, hopens⟩ := inline?_opens node text htext
    obtain ⟨less, rfl⟩ : ∃ less, fuel = less + 3 := by
      simp only [List.length_cons, List.length_append, List.length_nil] at hfuel
      exact ⟨fuel - 3, by omega⟩
    simp only [List.cons_append, List.append_assoc, List.nil_append]
    rw [skip_space false true c _ (column + 1) hopens.not_break hopens.not_blank hopens.not_hash
      hopens.not_byteOrderMark]
    refine ⟨?_, by simp only []; omega, ?_⟩
    · unfold Cursor.atEnd
      rw [atMarker_of_ne_zero _ _ (Nat.succ_ne_zero _)]
      rfl
    · exact block?_inline node (c :: more) htext less (column + 1) n true lead (column + 1 + 1)
        (Nat.succ_ne_zero _) h (fun hlead => Nat.lt_succ_of_le (hleast hlead))
  match node with
  | .scalar quoted text => exact hinline _ rfl
  | .sequence [] => exact hinline _ rfl
  | .mapping [] => exact hinline _ rfl
  | .sequence (item :: rest) =>
      cases hkeyed with
      | sequence _ hitems =>
          have htext : itemText column (.sequence (item :: rest)) =
              '\n' :: itemsText (column + 2) (item :: rest) := rfl
          rw [htext, List.length_cons] at hfuel
          obtain ⟨more, rfl⟩ : ∃ more, fuel = more + 1 := ⟨fuel - 1, by omega⟩
          -- A sequence inside a sequence begins on a line of its own, two columns deeper.
          have hread := blockItems?_itemsText (item :: rest) hitems item rest rfl more
            (column + 2) n false [] lead (by omega) h
            (.of_lt _ false lead n fun hlead => Nat.lt_of_le_of_lt (hleast hlead) (by omega))
          have honset := Onset.dash _ (blankFollows_itemText (column + 2) item
            (itemsText (column + 2) rest ++ (List.replicate n ' ' ++ lead)))
          rw [htext, itemsText_cons]
          simp only [List.cons_append, List.append_assoc]
          rw [skip_line false true (column + 2) _ (column + 1) honset]
          refine ⟨honset.atEnd _ _ (List.cons_ne_nil _ _), by simp only []; omega, ?_⟩
          rw [block?_dash more _ _ _ (blankFollows_itemText (column + 2) item _)]
          exact hread
  | .mapping (entry :: rest) =>
      cases hkeyed with
      | mapping _ hkeys hvalues =>
          obtain ⟨key, value⟩ := entry
          obtain ⟨quoted, word, rfl, hword⟩ := hkeys (key, value) List.mem_cons_self
          -- The first entry follows the dash, with the spaces of its line left out.
          have htext : itemText column (.mapping ((.scalar quoted word, value) :: rest)) =
              ' ' :: (word ++ ':' :: (valueText (column + 2) value ++
                entriesText (column + 2) rest)) := by
            rw [itemText, entriesText_cons _ _ _ hword, List.isEmpty_cons,
              List.drop_left' (List.length_replicate ..)]
            rfl
          rw [htext] at hfuel
          simp only [List.length_append, List.length_cons] at hfuel
          obtain ⟨more, rfl⟩ : ∃ more, fuel = more + 1 := ⟨fuel - 1, by omega⟩
          -- The further entries stand in the column of the first, which the dash and the blank make
          -- two deeper.
          have hread := blockEntries?_entriesText ((.scalar quoted word, value) :: rest) hkeys
            hvalues quoted word value rest rfl more (column + 2) n [] lead
            (column + 2 + word.length + 1) (by omega) h (fun hlead =>
              Nat.lt_of_le_of_lt (hleast hlead) (by omega))
          have hblank := blankFollows_valueText (column + 2) value
            (entriesText (column + 2) rest ++ (List.replicate n ' ' ++ lead))
          rw [htext]
          simp only [List.cons_append, List.append_assoc]
          rw [(hword.onset word _).skip_space]
          refine ⟨(hword.onset word _).atEnd _ _
            (List.append_ne_nil_of_left_ne_nil hword.nonempty _), by simp only []; omega, ?_⟩
          rw [block?_key more _ word _ (column + 1 + 1) hword hblank]
          exact hread
termination_by fuel

/-- The items of a sequence are read back. -/
theorem blockItems?_itemsText (all : List Node) (hkeyed : ∀ item ∈ all, item.Keyed)
    (item : Node) (rest : List Node) (hall : all = item :: rest) (fuel column n : Nat)
    (beneathKey : Bool) (items : List Node) (lead : List Char)
    (hfuel : 4 * (itemsText column all).length ≤ fuel) (h : Onset lead)
    (hbelow : Below column beneathKey lead n) :
    ReadsTo (blockItems? fuel column beneathKey items
      ⟨'-' :: (itemText column item ++ (itemsText column rest ++ (List.replicate n ' ' ++ lead))),
        column⟩)
      (.sequence (items.reverse ++ rereadItems all)) lead n := by
  match all, hall with
  | item :: rest, rfl =>
      obtain ⟨hitem, hrest⟩ := List.forall_mem_cons.mp hkeyed
      rw [itemsText_cons, List.length_append, List.length_cons, List.length_append] at hfuel
      obtain ⟨more, rfl⟩ : ∃ more, fuel = more + 1 := ⟨fuel - 1, by omega⟩
      cases rest with
      | nil =>
          obtain ⟨hend, hcolumn, hread⟩ := block?_itemText item hitem more column n lead
            (by omega) h (hbelow.le column beneathKey lead n)
          have hlast := blockItems?_last more column beneathKey items item.reread _ lead n hend
            hcolumn hread h hbelow
          rw [List.reverse_cons] at hlast
          exact hlast
      | cons next others =>
          rw [itemsText_cons, List.length_append, List.length_replicate, List.length_cons,
            List.length_append] at hfuel
          have hnext := blankFollows_itemText column next
            (itemsText column others ++ (List.replicate n ' ' ++ lead))
          -- The next item is the rest of the document as far as this one is concerned.
          obtain ⟨hend, hcolumn, hread⟩ := block?_itemText item hitem more column column
            ('-' :: (itemText column next ++
              (itemsText column others ++ (List.replicate n ' ' ++ lead))))
            (by omega) (.dash _ hnext) (fun _ => Nat.le_refl column)
          have hothers := blockItems?_itemsText (next :: others) hrest next others rfl more column
            n beneathKey (item.reread :: items) lead (by
              rw [itemsText_cons, List.length_append, List.length_replicate, List.length_cons,
                List.length_append]
              omega) h hbelow
          rw [itemsText_cons]
          simp only [List.cons_append, List.append_assoc]
          rw [blockItems?_more more column beneathKey items item.reread _ _ hend hcolumn hread
            hnext]
          rw [List.reverse_cons, List.append_assoc] at hothers
          exact hothers
termination_by fuel

/-- The entries of a mapping are read back, from after the colon of the first key. -/
theorem blockEntries?_entriesText (all : List (Node × Node))
    (hkeys : ∀ entry ∈ all, ∃ quoted text, entry.1 = .scalar quoted text ∧ IsWord text)
    (hvalues : ∀ entry ∈ all, entry.2.Keyed) (quoted : Bool) (word : List Char) (value : Node)
    (rest : List (Node × Node)) (hall : all = (.scalar quoted word, value) :: rest)
    (fuel column n : Nat) (entries : List (Node × Node)) (lead : List Char) (position : Nat)
    (hfuel : 4 * ((valueText column value).length + (entriesText column rest).length) + 4 ≤ fuel)
    (h : Onset lead) (hless : lead ≠ [] → n < column) :
    ReadsTo (blockEntries? fuel column entries (.scalar false word)
      ⟨valueText column value ++ (entriesText column rest ++ (List.replicate n ' ' ++ lead)),
        position⟩)
      (.mapping (entries.reverse ++ rereadEntries all)) lead n := by
  match all, hall with
  | (.scalar quoted word, value) :: rest, rfl =>
      obtain ⟨more, rfl⟩ : ∃ more, fuel = more + 1 := ⟨fuel - 1, by omega⟩
      obtain ⟨hvalue, hothers⟩ := List.forall_mem_cons.mp hvalues
      obtain ⟨⟨_, _, heq, hword⟩, hrest⟩ := List.forall_mem_cons.mp hkeys
      cases heq
      cases rest with
      | nil =>
          have hread := blockValue?_valueText value hvalue more column n lead position (by omega) h
            (.of_lt column true lead n hless)
          have hlast := blockEntries?_last more column entries (.scalar false word) value.reread _
            lead n hread h hless
          rw [List.reverse_cons] at hlast
          rw [rereadEntries, rereadEntry, Node.reread, hword.isPlain]
          exact hlast
      | cons entry others =>
          obtain ⟨key, second⟩ := entry
          obtain ⟨quoted', next, rfl, hnext⟩ := (List.forall_mem_cons.mp hrest).1
          rw [entriesText_cons _ _ _ hnext] at hfuel
          simp only [List.length_append, List.length_replicate, List.length_cons] at hfuel
          have hblank := blankFollows_valueText column second
            (entriesText column others ++ (List.replicate n ' ' ++ lead))
          -- The next entry is the rest of the document as far as this one is concerned.
          have hread := blockValue?_valueText value hvalue more column column
            (next ++ ':' :: (valueText column second ++
              (entriesText column others ++ (List.replicate n ' ' ++ lead))))
            position (by omega) (hnext.onset next _)
            (fun _ => Or.inr ⟨rfl, rfl, not_atDash_of_word next _ column hnext⟩)
          have hlater := blockEntries?_entriesText ((.scalar quoted' next, second) :: others) hrest
            hothers quoted' next second others rfl more column n
            ((.scalar false word, value.reread) :: entries) lead (column + next.length + 1)
            (by omega) h hless
          rw [entriesText_cons _ _ _ hnext]
          simp only [List.cons_append, List.append_assoc]
          rw [blockEntries?_more more column entries (.scalar false word) value.reread _ next _
            hnext hblank hread, rereadEntries, rereadEntry, Node.reread, hword.isPlain]
          rw [List.reverse_cons, List.append_assoc] at hlater
          exact hlater
termination_by fuel

end

/-- The character can be quoted or is the break of a line. -/
def isWritten (c : Char) : Bool :=
  isQuotable c || c == '\n'

theorem all_isWritten_of_quotable (s : List Char) (h : s.all isQuotable = true) :
    s.all isWritten = true := by
  rw [List.all_eq_true] at h ⊢
  intro c hc
  rw [isWritten, h c hc, Bool.true_or]

theorem replicate_all_isWritten (n : Nat) : (List.replicate n ' ').all isWritten = true := by
  rw [List.all_eq_true]
  intro c hc
  rw [List.eq_of_mem_replicate hc]
  rfl

theorem inlineText_all_isWritten (node : Node) : node.inlineText.all isWritten = true := by
  cases node with
  | scalar quoted text => exact all_isWritten_of_quotable _ (scalarText_all_isQuotable text)
  | sequence items => rfl
  | mapping entries => rfl

mutual

/-- The characters that are written for a value. -/
theorem valueText_all_isWritten (node : Node) (column : Nat) :
    (valueText column node).all isWritten = true := by
  match node with
  | .scalar quoted text =>
      have hscalar := all_isWritten_of_quotable _ (scalarText_all_isQuotable text)
      rw [valueText, List.all_append, List.all_cons, hscalar]
      rfl
  | .sequence [] => rfl
  | .mapping [] => rfl
  | .sequence (item :: rest) => exact itemsText_all_isWritten (item :: rest) column
  | .mapping (entry :: rest) => exact entriesText_all_isWritten (entry :: rest) (column + 2)
termination_by structural node

/-- The characters that are written for items. -/
theorem itemsText_all_isWritten (items : List Node) (column : Nat) :
    (itemsText column items).all isWritten = true := by
  match items with
  | [] => rfl
  | item :: rest =>
      rw [itemsText_cons, List.all_append, List.all_cons, List.all_append,
        replicate_all_isWritten, itemText_all_isWritten item column,
        itemsText_all_isWritten rest column]
      rfl
termination_by structural items

/-- The characters that are written for an item. -/
theorem itemText_all_isWritten (node : Node) (column : Nat) :
    (itemText column node).all isWritten = true := by
  match node with
  | .scalar quoted text =>
      have hscalar := all_isWritten_of_quotable _ (scalarText_all_isQuotable text)
      rw [itemText, List.all_append, List.all_cons, hscalar]
      rfl
  | .sequence [] => rfl
  | .mapping [] => rfl
  | .sequence (item :: rest) => exact itemsText_all_isWritten (item :: rest) (column + 2)
  | .mapping (entry :: rest) =>
      have hall := entriesText_all_isWritten (entry :: rest) (column + 2)
      rw [List.all_eq_true] at hall
      exact List.all_eq_true.mpr fun c hc => (List.mem_cons.mp hc).elim
        (fun heq => heq ▸ rfl) fun hrest => hall c (List.mem_of_mem_drop hrest)
termination_by structural node

/-- The characters that are written for entries. -/
theorem entriesText_all_isWritten (entries : List (Node × Node)) (column : Nat) :
    (entriesText column entries).all isWritten = true := by
  match entries with
  | [] => rfl
  | entry :: rest =>
      rw [entriesText, List.all_append, List.all_append, replicate_all_isWritten,
        entryText_all_isWritten entry column, entriesText_all_isWritten rest column]
      rfl
termination_by structural entries

/-- The characters that are written for an entry. -/
theorem entryText_all_isWritten (entry : Node × Node) (column : Nat) :
    (entryText column entry).all isWritten = true := by
  match entry with
  | (key, value) =>
      rw [entryText, List.all_append, List.all_cons, inlineText_all_isWritten key,
        valueText_all_isWritten value column]
      rfl
termination_by structural entry

end

/-- What is written holds no character that documents may not hold. -/
theorem all_isAllowed_of_isWritten (s : List Char) (h : s.all isWritten = true) :
    s.all isAllowed = true := by
  rw [List.all_eq_true] at h ⊢
  intro c hc
  have hwritten := h c hc
  rw [isWritten, Bool.or_eq_true, beq_iff_eq] at hwritten
  rcases hwritten with hquotable | rfl
  · simp only [isQuotable, Bool.and_eq_true] at hquotable
    exact hquotable.1.1.1.1
  · rfl

/-- What is written has its line breaks in one form. -/
theorem unifyBreaks_eq_self (s : List Char) (h : s.all isWritten = true) : unifyBreaks s = s := by
  induction s with
  | nil => rfl
  | cons c rest ih =>
      rw [List.all_cons, Bool.and_eq_true] at h
      have hother : c ≠ '\r' ∧ c ≠ '\u0085' := by
        constructor <;> (rintro rfl; exact absurd h.1 (by decide))
      unfold unifyBreaks
      -- Only two characters are changed into line breaks, and neither is ever written.
      split
      · rename_i heq
        exact nomatch heq
      · rename_i heq
        exact absurd (List.cons.inj heq).1 hother.1
      · rename_i heq
        cases heq
        rw [ih h.2]
        simp only [hother.1, hother.2, decide_false, Bool.or_self, Bool.false_eq_true, if_false]

/-- A text is read as the node that it begins with, if nothing else follows. -/
theorem parse?_of_block (text : List Char) (hwritten : text.all isWritten = true)
    (honset : Onset text) (hne : text ≠ []) (node : Node)
    (hread : ReadsTo (block? (4 * text.length + 8) 0 true ⟨text, 0⟩) node [] 0) :
    parse? (.ofList text) = some (some node) := by
  obtain ⟨after, hblock, hskip⟩ := hread
  have hroot : root? (4 * text.length + 8) ⟨text, 0⟩ = some (some node, after) := by
    rw [root?, honset.not_atMarker text 0]
    cases text with
    | nil => exact absurd rfl hne
    | cons c rest =>
        simp only []
        rw [hblock]
        rfl
  unfold parse?
  rw [String.toList_ofList]
  simp only [all_isAllowed_of_isWritten text hwritten, unifyBreaks_eq_self text hwritten, if_true,
    honset.skip false true text 0, hroot, hskip]
  rfl

/-- The document of a mapping is read back as the mapping. -/
theorem parse?_document (entries : List (Node × Node)) (hne : entries ≠ [])
    (hkeyed : (Node.mapping entries).Keyed) :
    parse? (Node.mapping entries).document = some (some (Node.mapping entries).reread) := by
  cases hkeyed with
  | mapping _ hkeys hvalues =>
      obtain ⟨⟨key, value⟩, rest, rfl⟩ := List.exists_cons_of_ne_nil hne
      obtain ⟨quoted, word, rfl, hword⟩ := hkeys (key, value) List.mem_cons_self
      have hwritten := entriesText_all_isWritten ((.scalar quoted word, value) :: rest) 0
      have htext := entriesText_cons 0 quoted word hword value rest
      rw [List.replicate_zero, List.nil_append] at htext
      have hdocument : (Node.mapping ((.scalar quoted word, value) :: rest)).document =
          .ofList (entriesText 0 ((.scalar quoted word, value) :: rest)) := rfl
      rw [hdocument, htext]
      rw [htext] at hwritten
      refine parse?_of_block _ hwritten (hword.onset word _)
        (List.append_ne_nil_of_left_ne_nil hword.nonempty _) _ ?_
      rw [block?_key _ 0 word _ 0 hword (blankFollows_valueText 0 value (entriesText 0 rest))]
      -- Nothing follows the document, so its rest is the end, in the first column.
      have hread := blockEntries?_entriesText ((.scalar quoted word, value) :: rest) hkeys hvalues
        quoted word value rest rfl
        (4 * (word ++ ':' :: (valueText 0 value ++ entriesText 0 rest)).length + 7) 0 0 [] []
        (0 + word.length + 1) (by
          simp only [List.length_append, List.length_cons]
          omega) .stop (fun h => absurd rfl h)
      rw [List.replicate_zero, List.append_nil, List.append_nil] at hread
      exact hread

end Yaml

end FieldSchema
