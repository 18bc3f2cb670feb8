import FieldSchema.Pattern.Compiled
import FieldSchema.Proofs.Pattern.Paths

/-!
# What a Replacement Comes To

The text with its first match replaced, by way of one path.

A match records places in the whole text, and the template refers to groups of
the pattern by number or by name. On a single path both can be said of the
matched characters alone. A group is the stretch between the places of its two
marks, counted from the start of the match, and what the template stands for
is put together from such stretches. The text around the match stays, and
where the path is tied to an end of the text there is nothing on that side.

## Main definitions

* `Path.group`, `Path.expand`: The text of a group, and of a template, on a path.
* `Path.Replaces`: A text is what a replacement along the path makes of another.

## Theorems

* `replaceFirst?_replaces`: A replacement goes along one of the paths of the pattern.
-/

namespace FieldSchema

namespace Pattern

namespace Path

/-- The text of a group, when the path has read the characters. -/
def group (p : Path) (text : List Char) (index : Nat) : List Char :=
  if index = 0 then text
  else
    match p.markAt (2 * index), p.markAt (2 * index + 1) with
    | some start, some stop => (text.take stop).drop start
    | _, _ => []

/-- The text that a piece of a template stands for, when the path has read the characters. -/
def expandPiece (names : List (List Char × Nat)) (p : Path) (text : List Char) :
    Piece → List Char
  | .char c => [c]
  | .numbered index => p.group text index
  | .named name =>
      match names.lookup name with
      | some index => p.group text index
      | none => []

/-- The text that a template stands for, when the path has read the characters. -/
def expand (names : List (List Char × Nat)) (p : Path) (text template : List Char) : List Char :=
  (Template.pieces template).flatMap (p.expandPiece names text)

/-- The result is the word with characters that the path reads replaced by what the template stands
    for. -/
structure Replaces (names : List (List Char × Nat)) (template : List Char) (p : Path)
    (skipped text rest word result : List Char) : Prop where
  word : word = skipped ++ (text ++ rest)
  spells : p.Spells text
  result : result = skipped ++ (p.expand names text template ++ rest)
  atStart : p.head? = some (.check .start) → skipped = []
  atStop : p.getLast? = some (.check .stop) → rest = []

end Path

/-- A stretch of a text that lies within a part of it. -/
theorem stretch_within (skipped text rest : List Char) (start stop : Nat)
    (h : stop ≤ text.length) :
    ((skipped ++ (text ++ rest)).take (skipped.length + stop)).drop (skipped.length + start) =
      (text.take stop).drop start := by
  rw [List.take_length_add_append, List.drop_length_add_append, List.take_append_of_le_length h]

/-- A group of a match is that of the path by which it was found. -/
theorem group_of_path (path : Path) (skipped text rest : List Char) (t : Spot)
    (hpasses : path.Passes ⟨skipped.getLast?, text ++ rest, skipped.length, []⟩ t)
    (hspells : path.Spells text) (index : Nat) :
    Match.group ⟨skipped.length, skipped.length + text.length, t.marks⟩
      (skipped ++ (text ++ rest)) index = path.group text index := by
  have hlength : text.length = path.sets.length := hspells.length_eq.symm
  unfold Match.group Path.group
  -- The group of number zero is the whole match; all others are between two marks of the path.
  by_cases hindex : index = 0
  · simp only [hindex, if_true]
    have hwhole := stretch_within skipped text rest 0 text.length (Nat.le_refl _)
    rw [Nat.add_zero, List.take_length, List.drop_zero] at hwhole
    exact hwhole
  · simp only [hindex, if_false, Path.path_marks path _ t hpasses, List.lookup_nil, Option.or_none]
    cases hstart : path.markAt (2 * index) with
    | none => rfl
    | some start =>
        cases hstop : path.markAt (2 * index + 1) with
        | none => rfl
        | some stop =>
            -- Both marks lie within the text that the path spells.
            refine stretch_within skipped text rest start stop ?_
            rw [hlength]
            exact Path.markAt_le path _ stop hstop

/-- So is what a template stands for. -/
theorem expand_of_path (p : Pattern) (path : Path) (skipped text rest : List Char) (t : Spot)
    (hpasses : path.Passes ⟨skipped.getLast?, text ++ rest, skipped.length, []⟩ t)
    (hspells : path.Spells text) (template : List Char) :
    p.expand ⟨skipped.length, skipped.length + text.length, t.marks⟩
      (skipped ++ (text ++ rest)) template = path.expand p.names text template := by
  have hgroup := group_of_path path skipped text rest t hpasses hspells
  refine congrArg (fun f => (Template.pieces template).flatMap f) (funext fun piece => ?_)
  cases piece with
  | char c => rfl
  | numbered index => exact hgroup index
  | named name =>
      simp only [expandPiece, Path.expandPiece]
      cases p.names.lookup name with
      | none => rfl
      | some index => exact hgroup index

/-- A replacement by a pattern goes along one of its paths. -/
theorem replaceFirst?_replaces (p : Pattern) (paths : List Path) (hpaths : p.node.paths? = some paths)
    (template word result : List Char) (h : p.replaceFirst? template word = some result) :
    ∃ path ∈ paths, ∃ skipped text rest,
      path.Replaces p.names template skipped text rest word result := by
  obtain ⟨m, hm, hresult⟩ := Option.map_eq_some_iff.mp h
  obtain ⟨⟨start, thread⟩, hsearch, hmatch⟩ := Option.map_eq_some_iff.mp hm
  -- What was found is a passage through the node, and so one of its paths.
  obtain ⟨skipped, read, rfl, rfl, hpasses⟩ := search_passes p.node p.labels word start thread hsearch
  obtain ⟨path, hmem, hpath⟩ := passes_paths p.node _ _ hpasses paths hpaths
  obtain ⟨text, hspells, hbeyond⟩ := Path.path_spells path _ _ hpath
  -- The path reads its text and leaves the rest, and the match ends where it does.
  have hread : read = text ++ thread.rest := hbeyond.rest
  have hplace : thread.place = skipped.length + text.length := hbeyond.place
  subst hread
  obtain rfl : m = ⟨skipped.length, skipped.length + text.length, thread.marks⟩ := by
    rw [← hplace]
    exact hmatch.symm
  refine ⟨path, hmem, skipped, text, thread.rest, rfl, hspells, ?_, ?_, ?_⟩
  · rw [← hresult, List.append_assoc, List.take_left, List.drop_length_add_append, List.drop_left,
      ← expand_of_path p path skipped text thread.rest thread.spot hpath hspells template]
    rfl
  · intro hstart
    exact List.getLast?_eq_none_iff.mp (Path.before_of_path path _ _ hpath hstart)
  · exact fun hstop => Path.rest_of_path path _ _ hpath hstop

end Pattern

end FieldSchema
