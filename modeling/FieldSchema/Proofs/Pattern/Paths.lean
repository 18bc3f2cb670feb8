import Mathlib.Data.List.Forall2
import Mathlib.Data.Option.NAry
import FieldSchema.Proofs.Pattern.Passing

/-!
# The Paths through a Pattern

A pattern without unbounded repetition as a list of straight paths.

Such a pattern is a choice between finitely many sequences of single steps:
one character of a set, an assertion, a mark. Written out, each sequence says
at a glance what a match by way of it looks like. As many characters were read
as there are sets in it, one from each in order, and a mark lies as far behind
the start as there are sets before it. So questions about all matches in all
texts become questions about a few short lists, which can be computed.

A pattern in which something may be repeated any number of times has no such
list, and `paths?` says so.

## Main definitions

* `Step`, `Path`: Single steps, and several in a row.
* `Node.paths?`: The paths through a node, if there are finitely many.
* `Path.sets`, `Path.markAt`: What a path reads, and where it passes a mark.
* `Path.Spells`: The characters are what the path reads.

## Theorems

* `passes_paths`, `passes_of_paths`: The passages are what goes along one of the paths.
* `path_spells`, `path_marks`: What a passage along a path reads, and the marks that it passes.
* `before_of_path`, `rest_of_path`: Where a path that is tied to an end of the text passes.
-/

namespace FieldSchema

namespace Pattern

/-- A single step through a pattern. -/
inductive Step where
  | chars (set : CharSet)
  | check (assertion : Assertion)
  | mark (slot : Nat)
deriving DecidableEq

/-- Steps in a row. -/
abbrev Path := List Step

/-- One of the first paths and then one of the others. -/
def pathsInRow (first second : List Path) : List Path :=
  first.flatMap fun p => second.map fun q => p ++ q

/-- So many times one of the paths. -/
def pathsOfCopies (paths : List Path) : Nat → List Path
  | 0 => [[]]
  | count + 1 => pathsInRow paths (pathsOfCopies paths count)

/-- Up to so many times one of the paths. -/
def pathsUpTo (paths : List Path) : Nat → List Path
  | 0 => [[]]
  | count + 1 => [] :: pathsInRow paths (pathsUpTo paths count)

/-- The paths through a node, unless there is no bound to their length. -/
def Node.paths? : Node → Option (List Path)
  | .skip => some [[]]
  | .literal text => some [text.map fun c => .chars (.single c false)]
  | .chars set => some [[.chars set]]
  | .check assertion => some [[.check assertion]]
  | .mark slot => some [[.mark slot]]
  | .cat a b => Option.map₂ pathsInRow a.paths? b.paths?
  | .branch _ a b => Option.map₂ (· ++ ·) a.paths? b.paths?
  | .loop _ _ _ => none
  | .passes _ _ _ => none
  | .copies count _ body => body.paths?.map fun paths => pathsOfCopies paths count
  | .upTo count _ _ _ body => body.paths?.map fun paths => pathsUpTo paths count

namespace Path

/-- The path leads from one spot to another. -/
def Passes : Path → Spot → Spot → Prop
  | [], s, t => s = t
  | .chars set :: rest, s, t => ∃ c u, set.contains c = true ∧ s.Reads [c] u ∧ Passes rest u t
  | .check assertion :: rest, s, t =>
      assertion.holds s.before s.rest.head? = true ∧ Passes rest s t
  | .mark slot :: rest, s, t => Passes rest (s.mark slot) t

/-- A path reads a character that its first set contains, and goes on behind it. -/
theorem passes_chars (set : CharSet) (rest : Path) (c : Char) (before : Option Char)
    (text : List Char) (place : Nat) (marks : Marks) (t : Spot) (hc : set.contains c = true)
    (h : Passes rest ⟨some c, text, place + 1, marks⟩ t) :
    Passes (.chars set :: rest) ⟨before, c :: text, place, marks⟩ t :=
  ⟨c, ⟨some c, text, place + 1, marks⟩, hc, ⟨⟨rfl, rfl, rfl⟩, rfl⟩, h⟩

theorem passes_append (p q : Path) (s t u : Spot) (hp : Passes p s t) (hq : Passes q t u) :
    Passes (p ++ q) s u := by
  induction p generalizing s with
  | nil =>
      obtain rfl := hp
      exact hq
  | cons step rest ih =>
      cases step with
      | chars set =>
          obtain ⟨c, v, hc, hreads, hrest⟩ := hp
          exact ⟨c, v, hc, hreads, ih v hrest⟩
      | check assertion => exact ⟨hp.1, ih s hp.2⟩
      | mark slot => exact ih (s.mark slot) hp

theorem passes_of_append (p q : Path) (s u : Spot) (h : Passes (p ++ q) s u) :
    ∃ t, Passes p s t ∧ Passes q t u := by
  induction p generalizing s with
  | nil => exact ⟨s, rfl, h⟩
  | cons step rest ih =>
      cases step with
      | chars set =>
          obtain ⟨c, v, hc, hreads, hrest⟩ := h
          obtain ⟨t, hp, hq⟩ := ih v hrest
          exact ⟨t, ⟨c, v, hc, hreads, hp⟩, hq⟩
      | check assertion =>
          obtain ⟨t, hp, hq⟩ := ih s h.2
          exact ⟨t, ⟨h.1, hp⟩, hq⟩
      | mark slot => exact ih (s.mark slot) h

theorem contains_single_iff (c d : Char) :
    (CharSet.single c false).contains d = true ↔ d = c := by
  have hranges : (CharSet.single c false).contains d =
      (if d.toNat < c.toNat then false else d.toNat ≤ c.toNat || false) := rfl
  rw [hranges, Bool.or_false, ← Char.toNat_inj]
  split
  · rename_i hlt
    exact ⟨fun h => absurd h Bool.false_ne_true, fun h => absurd h (Nat.ne_of_lt hlt)⟩
  · rename_i hle
    rw [decide_eq_true_iff]
    exact ⟨fun h => Nat.le_antisymm h (Nat.le_of_not_lt hle), Nat.le_of_eq⟩

/-- A literal is read character by character. -/
theorem passes_literal (text : List Char) (s t : Spot) (h : s.Reads text t) :
    Passes (text.map fun c => .chars (.single c false)) s t := by
  induction text generalizing s with
  | nil =>
      exact Spot.eq_of_reads_nil s t h
  | cons c text ih =>
      obtain ⟨u, hhead, hrest⟩ := Spot.exists_reads_cons c text s t h
      exact ⟨c, u, (contains_single_iff c c).mpr rfl, hhead, ih u hrest⟩

theorem reads_of_literal (text : List Char) (s t : Spot)
    (h : Passes (text.map fun c => .chars (.single c false)) s t) : s.Reads text t := by
  induction text generalizing s with
  | nil =>
      obtain rfl := h
      exact Spot.reads_nil s
  | cons c text ih =>
      obtain ⟨d, u, hd, hhead, hrest⟩ := h
      obtain rfl := (contains_single_iff c d).mp hd
      exact Spot.reads_append [d] text s u t hhead (ih u hrest)

end Path

theorem mem_pathsInRow (first second : List Path) (p q : Path) (hp : p ∈ first)
    (hq : q ∈ second) : p ++ q ∈ pathsInRow first second :=
  List.mem_flatMap.mpr ⟨p, hp, List.mem_map.mpr ⟨q, hq, rfl⟩⟩

/-- A passage through a node goes along one of the paths through it. -/
theorem passes_paths (node : Node) (s t : Spot) (h : node.Passes s t) (paths : List Path)
    (hpaths : node.paths? = some paths) : ∃ p ∈ paths, p.Passes s t := by
  -- A path through the first part and one through the second make one through both.
  have hrow : ∀ (first second : List Path) (s t u : Spot), (∃ p ∈ first, p.Passes s t) →
      (∃ q ∈ second, q.Passes t u) → ∃ p ∈ pathsInRow first second, p.Passes s u :=
    fun first second s t u ⟨p, hp, hps⟩ ⟨q, hq, hqs⟩ =>
      ⟨p ++ q, mem_pathsInRow first second p q hp hq, Path.passes_append p q s t u hps hqs⟩
  induction h generalizing paths with
  | skip s =>
      obtain rfl := Option.some.inj hpaths
      exact ⟨[], List.mem_singleton_self _, rfl⟩
  | literal text s t h =>
      obtain rfl := Option.some.inj hpaths
      exact ⟨_, List.mem_singleton_self _, Path.passes_literal text s t h⟩
  | chars set c s t hc h =>
      obtain rfl := Option.some.inj hpaths
      exact ⟨_, List.mem_singleton_self _, c, t, hc, h, rfl⟩
  | check assertion s h =>
      obtain rfl := Option.some.inj hpaths
      exact ⟨_, List.mem_singleton_self _, h, rfl⟩
  | mark slot s =>
      obtain rfl := Option.some.inj hpaths
      exact ⟨_, List.mem_singleton_self _, rfl⟩
  | cat a b s t u _ _ iha ihb =>
      obtain ⟨first, second, hfirst, hsecond, rfl⟩ := Option.map₂_eq_some_iff.mp hpaths
      exact hrow first second s t u (iha first hfirst) (ihb second hsecond)
  | preferred label a b s t _ ih =>
      obtain ⟨first, second, hfirst, -, rfl⟩ := Option.map₂_eq_some_iff.mp hpaths
      obtain ⟨p, hp, hpasses⟩ := ih first hfirst
      exact ⟨p, List.mem_append_left second hp, hpasses⟩
  | other label a b s t _ ih =>
      obtain ⟨first, second, -, hsecond, rfl⟩ := Option.map₂_eq_some_iff.mp hpaths
      obtain ⟨p, hp, hpasses⟩ := ih second hsecond
      exact ⟨p, List.mem_append_right first hp, hpasses⟩
  -- A loop without a bound has no finite set of paths.
  | noPass label greedy body s => exact nomatch hpaths
  | morePasses label greedy body s t u _ _ iha ihb => exact nomatch hpaths
  | passes label greedy body s t u _ _ iha ihb => exact nomatch hpaths
  | noCopies labels body s =>
      obtain ⟨ones, -, rfl⟩ := Option.map_eq_some_iff.mp hpaths
      exact ⟨[], List.mem_singleton_self _, rfl⟩
  | copies count labels body s t u _ _ iha ihb =>
      obtain ⟨ones, hones, rfl⟩ := Option.map_eq_some_iff.mp hpaths
      -- One copy, and then one fewer of them.
      have hrest := ihb (pathsOfCopies ones count) (Option.map_eq_some_iff.mpr ⟨ones, hones, rfl⟩)
      exact hrow ones _ s t u (iha ones hones) hrest
  | upToNone count labels label greedy body s =>
      obtain ⟨ones, -, rfl⟩ := Option.map_eq_some_iff.mp hpaths
      cases count with
      | zero => exact ⟨[], List.mem_singleton_self _, rfl⟩
      | succ count => exact ⟨[], List.mem_cons_self, rfl⟩
  | upToMore count labels label greedy body s t u _ _ iha ihb =>
      obtain ⟨ones, hones, rfl⟩ := Option.map_eq_some_iff.mp hpaths
      have hrest := ihb (pathsUpTo ones count) (Option.map_eq_some_iff.mpr ⟨ones, hones, rfl⟩)
      obtain ⟨p, hp, hpasses⟩ := hrow ones _ s t u (iha ones hones) hrest
      exact ⟨p, List.mem_cons_of_mem [] hp, hpasses⟩

/-- Where a choice of paths leads, in a row of two. -/
theorem passes_of_pathsInRow (first second : List Path) (p : Path)
    (hp : p ∈ pathsInRow first second) (s u : Spot) (h : p.Passes s u) :
    ∃ t, (∃ q ∈ first, q.Passes s t) ∧ ∃ q ∈ second, q.Passes t u := by
  obtain ⟨q, hq, hmem⟩ := List.mem_flatMap.mp hp
  obtain ⟨r, hr, rfl⟩ := List.mem_map.mp hmem
  obtain ⟨t, hqs, hrs⟩ := Path.passes_of_append q r s u h
  exact ⟨t, ⟨q, hq, hqs⟩, r, hr, hrs⟩

/-- Whatever leads along one of the paths through a node is a passage through it. -/
theorem passes_of_paths (node : Node) (paths : List Path) (hpaths : node.paths? = some paths)
    (p : Path) (hp : p ∈ paths) (s t : Spot) (h : p.Passes s t) : node.Passes s t := by
  -- On the node: for each constructor the paths are listed in one way, and a path of the list is
  -- taken apart in the same way.
  induction node generalizing paths p s t with
  | skip =>
      obtain rfl := Option.some.inj hpaths
      obtain rfl := List.mem_singleton.mp hp
      obtain rfl := h
      exact .skip s
  | literal text =>
      obtain rfl := Option.some.inj hpaths
      obtain rfl := List.mem_singleton.mp hp
      exact .literal text s t (Path.reads_of_literal text s t h)
  | chars set =>
      obtain rfl := Option.some.inj hpaths
      obtain rfl := List.mem_singleton.mp hp
      obtain ⟨c, u, hc, hreads, rfl⟩ := h
      exact .chars set c s u hc hreads
  | check assertion =>
      obtain rfl := Option.some.inj hpaths
      obtain rfl := List.mem_singleton.mp hp
      obtain ⟨hholds, rfl⟩ := h
      exact .check assertion s hholds
  | mark slot =>
      obtain rfl := Option.some.inj hpaths
      obtain rfl := List.mem_singleton.mp hp
      obtain rfl := h
      exact .mark slot s
  | cat a b iha ihb =>
      obtain ⟨first, second, hfirst, hsecond, rfl⟩ := Option.map₂_eq_some_iff.mp hpaths
      obtain ⟨u, ⟨q, hq, hqs⟩, r, hr, hrs⟩ := passes_of_pathsInRow first second p hp s t h
      exact .cat a b s u t (iha first hfirst q hq s u hqs) (ihb second hsecond r hr u t hrs)
  | branch label a b iha ihb =>
      obtain ⟨first, second, hfirst, hsecond, rfl⟩ := Option.map₂_eq_some_iff.mp hpaths
      rcases List.mem_append.mp hp with hp | hp
      · exact .preferred label a b s t (iha first hfirst p hp s t h)
      · exact .other label a b s t (ihb second hsecond p hp s t h)
  | loop label greedy body => exact nomatch hpaths
  | passes label greedy body => exact nomatch hpaths
  | copies count labels body ih =>
      obtain ⟨ones, hones, rfl⟩ := Option.map_eq_some_iff.mp hpaths
      -- The number of copies is counted down for any path and any place of departure.
      clear hpaths
      induction count generalizing p s with
      | zero =>
          obtain rfl := List.mem_singleton.mp hp
          obtain rfl := h
          exact .noCopies labels body s
      | succ count ihCount =>
          obtain ⟨u, ⟨q, hq, hqs⟩, r, hr, hrs⟩ := passes_of_pathsInRow ones _ p hp s t h
          exact .copies count labels body s u t (ih ones hones q hq s u hqs) (ihCount r u hrs hr)
  | upTo count labels label greedy body ih =>
      obtain ⟨ones, hones, rfl⟩ := Option.map_eq_some_iff.mp hpaths
      clear hpaths
      induction count generalizing p s with
      | zero =>
          obtain rfl := List.mem_singleton.mp hp
          obtain rfl := h
          exact .upToNone 0 labels label greedy body s
      | succ count ihCount =>
          rcases List.mem_cons.mp hp with rfl | hp
          · obtain rfl := h
            exact .upToNone (count + 1) labels label greedy body s
          · obtain ⟨u, ⟨q, hq, hqs⟩, r, hr, hrs⟩ := passes_of_pathsInRow ones _ p hp s t h
            exact .upToMore count labels label greedy body s u t (ih ones hones q hq s u hqs)
              (ihCount r u hrs hr)

namespace Path

/-- The sets from which the path reads one character each. -/
def sets : Path → List CharSet
  | [] => []
  | .chars set :: rest => set :: sets rest
  | .check _ :: rest => sets rest
  | .mark _ :: rest => sets rest

/-- The number of characters that the path has read where it passes a mark for the last time. -/
def markAt (slot : Nat) : Path → Option Nat
  | [] => none
  | .chars _ :: rest => (markAt slot rest).map (· + 1)
  | .check _ :: rest => markAt slot rest
  | .mark other :: rest => (markAt slot rest).or (if other = slot then some 0 else none)

/-- The characters are from the sets of the path, one from each. -/
def Spells (p : Path) (text : List Char) : Prop :=
  List.Forall₂ (fun set c => CharSet.contains set c = true) p.sets text

/-- A passage along a path reads characters that the path spells. -/
theorem path_spells (p : Path) (s t : Spot) (h : p.Passes s t) :
    ∃ text, p.Spells text ∧ s.Beyond text t := by
  induction p generalizing s with
  | nil =>
      obtain rfl := h
      exact ⟨[], .nil, (Spot.reads_nil s).toBeyond⟩
  | cons step rest ih =>
      cases step with
      | chars set =>
          -- Only sets of characters read anything; assertions and marks spell nothing.
          obtain ⟨c, u, hc, hreads, hrest⟩ := h
          obtain ⟨text, hspells, hbeyond⟩ := ih u hrest
          exact ⟨c :: text, .cons hc hspells,
            Spot.beyond_append [c] text s u t hreads.toBeyond hbeyond⟩
      | check assertion => exact ih s h.2
      | mark slot =>
          obtain ⟨text, hspells, hbeyond⟩ := ih (s.mark slot) h
          exact ⟨text, hspells, hbeyond.rest, hbeyond.before, hbeyond.place⟩

/-- After a passage along a path a mark is where the path passed it last, or where it was. -/
theorem path_marks (p : Path) (s t : Spot) (h : p.Passes s t) (slot : Nat) :
    t.marks.lookup slot = ((p.markAt slot).map (s.place + ·)).or (s.marks.lookup slot) := by
  induction p generalizing s with
  | nil =>
      obtain rfl := h
      rfl
  | cons step rest ih =>
      cases step with
      | chars set =>
          obtain ⟨c, u, hc, hreads, hrest⟩ := h
          -- A mark that is set later in the path is one place further from here than from there.
          rw [ih u hrest, markAt, hreads.marks, hreads.place, Option.map_map]
          congr 2
          funext n
          change s.place + 1 + n = s.place + (n + 1)
          omega
      | check assertion => exact ih s h.2
      | mark other =>
          rw [ih (s.mark other) h, markAt, Spot.mark, List.lookup_cons]
          -- The last mark of a slot counts, so this one does only if none follows.
          cases markAt slot rest with
          | some n => rfl
          | none =>
              by_cases hother : other = slot
              · rw [hother]
                simp
              · have hne : (slot == other) = false := beq_false_of_ne (Ne.symm hother)
                simp [hother, hne]

/-- No mark lies behind the last character. -/
theorem markAt_le (p : Path) (slot n : Nat) (h : markAt slot p = some n) :
    n ≤ p.sets.length := by
  -- A mark is set after so many characters as sets of the path come before it.
  induction p generalizing n with
  | nil => exact nomatch h
  | cons step rest ih =>
      cases step with
      | chars set =>
          obtain ⟨m, hm, rfl⟩ := Option.map_eq_some_iff.mp h
          exact Nat.succ_le_succ (ih m hm)
      | check assertion => exact ih n h
      | mark other =>
          rw [markAt, Option.or_eq_some_iff] at h
          rcases h with hrest | ⟨-, hhere⟩
          · exact ih n hrest
          · split at hhere
            · obtain rfl := Option.some.inj hhere
              exact Nat.zero_le _
            · exact nomatch hhere

/-- A path that begins with the assertion for it passes at the beginning of a text only. -/
theorem before_of_path (p : Path) (s t : Spot) (h : p.Passes s t)
    (hstart : p.head? = some (.check .start)) : s.before = none := by
  cases p with
  | nil => exact nomatch hstart
  | cons step rest =>
      obtain rfl := Option.some.inj hstart
      exact Option.isNone_iff_eq_none.mp h.1

/-- A path that ends with the assertion for it passes to the end of a text only. -/
theorem rest_of_path (p : Path) (s t : Spot) (h : p.Passes s t)
    (hstop : p.getLast? = some (.check .stop)) : t.rest = [] := by
  induction p generalizing s with
  | nil => exact nomatch hstop
  | cons step rest ih =>
      -- The assertion at the end is met where the path ends, at the last place.
      cases rest with
      | nil =>
          obtain rfl := Option.some.inj hstop
          obtain ⟨hholds, rfl⟩ := h
          exact List.head?_eq_none_iff.mp (Option.isNone_iff_eq_none.mp hholds)
      | cons next rest =>
          rw [List.getLast?_cons_cons] at hstop
          cases step with
          | chars set =>
              obtain ⟨c, u, -, -, hrest⟩ := h
              exact ih u hrest hstop
          | check assertion => exact ih s h.2 hstop
          | mark slot => exact ih (s.mark slot) h hstop

end Path

end Pattern

end FieldSchema
