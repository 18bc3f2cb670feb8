import FieldSchema.Proofs.Pattern.Replacing

/-!
# Patterns without Choices

Where there is nothing to choose, the search finds whatever there is to find.

In general that is a delicate matter, since the search passes by every choice
that it has met before. A pattern without choices never consults that memory.
Its walk has a single thread, each step of which takes one node off, so a
passage that exists is walked to its end, and the bound on the steps is far
beyond the number of nodes. The walk from an earlier place may find something
first; then that is the match, and the only thing said here is that there is
one.

## Main definitions

* `Node.isStraight`: There are no choices in a node.

## Theorems

* `run_of_leadsTo`: A thread without choices gets to where it leads.
* `search_of_passes`: A passage of a straight node lets the search succeed.
* `replaceFirst?_of_path`: A straight pattern replaces something where a path of it spells out.
-/

namespace FieldSchema

namespace Pattern

/-- There are no choices in the node, and no copies. -/
def Node.isStraight : Node → Bool
  | .skip => true
  | .literal _ => true
  | .chars _ => true
  | .check _ => true
  | .mark _ => true
  | .cat a b => a.isStraight && b.isStraight
  | .branch _ _ _ => false
  | .loop _ _ _ => false
  | .passes _ _ _ => false
  | .copies _ _ _ => false
  | .upTo _ _ _ _ _ => false

/-- The number of nodes in several tasks. -/
def sizeOfTasks (todo : List Task) : Nat :=
  todo.foldr (fun task total => task.node.size + total) 0

theorem sizeOfTasks_cons (task : Task) (todo : List Task) :
    sizeOfTasks (task :: todo) = task.node.size + sizeOfTasks todo :=
  rfl

/-- A thread at a spot. -/
def Spot.thread (s : Spot) (todo : List Task) : Thread :=
  ⟨todo, s.before, s.rest, s.place, s.marks⟩

theorem step_of_reads (t : Thread) (todo : List Task) (accepts : Char → Bool) (c : Char)
    (u : Spot) (hc : accepts c = true) (h : t.spot.Reads [c] u) :
    t.step todo accepts = some (u.thread todo) := by
  have hrest : t.rest = c :: u.rest := h.rest
  have hbefore : u.before = some c := h.before
  have hplace : u.place = t.place + 1 := h.place
  have hmarks : u.marks = t.marks := h.marks
  unfold Thread.step Spot.thread
  simp only [hrest, hc, if_true, hbefore, hplace, hmarks]

theorem literal_of_reads (t : Thread) (todo : List Task) (text : List Char) (u : Spot)
    (h : t.spot.Reads text u) : t.literal todo text = some (u.thread todo) := by
  induction text generalizing t with
  | nil =>
      obtain rfl := Spot.eq_of_reads_nil t.spot u h
      rfl
  | cons c text ih =>
      obtain ⟨v, hhead, hrest⟩ := Spot.exists_reads_cons c text t.spot u h
      rw [Thread.literal, step_of_reads t todo (· == c) c v (beq_self_eq_true c) hhead]
      exact ih (v.thread todo) hrest

/-- A step of a thread that begins with a straight node leaves one thread, with less to match. -/
theorem perform_straight (t : Thread) (shift : Nat) (todo : List Task) (node : Node) (u : Spot)
    (hnode : node.isStraight = true) (htodo : ∀ task ∈ todo, task.node.isStraight = true)
    (h : PassesAll (node :: todo.map Task.node) t.spot u) :
    ∃ next, t.perform shift todo node = .threads [next] ∧ next.LeadsTo u ∧
      (∀ task ∈ next.todo, task.node.isStraight = true) ∧
        sizeOfTasks next.todo < node.size + sizeOfTasks todo := by
  obtain ⟨s, hpasses, hrest⟩ := h
  have hless : ∀ n, sizeOfTasks todo < n + 1 + sizeOfTasks todo := fun n => by omega
  -- A node without choices has one way to go on, which is the way that the passage takes.
  cases hpasses with
  | skip => exact ⟨t.matching todo, rfl, hrest, htodo, hless 0⟩
  | literal text _ _ hreads =>
      refine ⟨s.thread todo, ?_, hrest, htodo, hless 0⟩
      rw [Thread.perform, literal_of_reads t todo text s hreads]
      rfl
  | chars set c _ _ hc hreads =>
      refine ⟨s.thread todo, ?_, hrest, htodo, hless 0⟩
      rw [Thread.perform, step_of_reads t todo _ c s hc hreads]
      rfl
  | check assertion _ hholds =>
      refine ⟨t.matching todo, ?_, hrest, htodo, hless 0⟩
      exact if_pos hholds
  | mark slot =>
      exact ⟨{ t.matching todo with marks := (slot, t.place) :: t.marks }, rfl, hrest, htodo,
        hless 0⟩
  | cat a b _ v _ ha hb =>
      -- Two tasks in the place of one; together they are smaller than the node.
      obtain ⟨hstraight, hstraight'⟩ := Bool.and_eq_true_iff.mp hnode
      refine ⟨t.matching (⟨a, shift⟩ :: ⟨b, shift⟩ :: todo), rfl, ⟨v, ha, s, hb, hrest⟩, ?_, ?_⟩
      · exact List.forall_mem_cons.mpr ⟨hstraight, List.forall_mem_cons.mpr ⟨hstraight', htodo⟩⟩
      · change sizeOfTasks (⟨a, shift⟩ :: ⟨b, shift⟩ :: todo) < _
        rw [sizeOfTasks_cons, sizeOfTasks_cons, Node.size]
        change a.size + (b.size + sizeOfTasks todo) < _
        omega
  | _ => exact absurd hnode Bool.false_ne_true

/-- A thread without choices gets to where it leads, whatever else is on the stack. -/
theorem run_of_leadsTo (places fuel : Nat) (t : Thread) (stack : List Thread) (visits : Visits)
    (u : Spot) (hstraight : ∀ task ∈ t.todo, task.node.isStraight = true) (h : t.LeadsTo u)
    (hfuel : sizeOfTasks t.todo < fuel) : (run places fuel (t :: stack) visits).1.isSome := by
  -- Each step makes the tasks smaller, so there is fuel for all of them.
  induction fuel generalizing t with
  | zero => exact absurd hfuel (Nat.not_lt_zero _)
  | succ fuel ih =>
      rw [run]
      unfold Thread.advance
      unfold Thread.LeadsTo at h
      cases htodo : t.todo with
      | nil => rfl
      | cons task todo =>
          rw [htodo] at h hstraight hfuel
          rw [sizeOfTasks_cons] at hfuel
          obtain ⟨hnode, hrest⟩ := List.forall_mem_cons.mp hstraight
          obtain ⟨next, hnext, hleads, hstraight', hsize⟩ :=
            perform_straight t task.shift todo task.node u hnode hrest h
          simp only [hnext]
          exact ih next hstraight' hleads (by omega)

/-- If from some place on a node finds what it looks for, it does so from any place before. -/
theorem searchFrom_of_run (node : Node) (places fuel : Nat) (before : Option Char)
    (skipped rest : List Char) (place : Nat) (visits : Visits)
    (h : ∀ visits, (run places fuel
      [⟨[⟨node, 0⟩], skipped.getLast?.or before, rest, place + skipped.length, []⟩]
        visits).1.isSome) :
    (searchFrom node places fuel before (skipped ++ rest) place visits).isSome := by
  -- Whatever happens in the places before, the search gets to the place where the run is known to
  -- succeed, or has stopped with a match earlier.
  induction skipped generalizing before place visits with
  | nil =>
      have hhere := h visits
      unfold searchFrom
      change (run places fuel [⟨[⟨node, 0⟩], before, rest, place, []⟩] visits).1.isSome at hhere
      simp only [List.nil_append]
      cases hrun : run places fuel [⟨[⟨node, 0⟩], before, rest, place, []⟩] visits with
      | mk found visits' =>
          rw [hrun] at hhere
          obtain ⟨t, rfl⟩ := Option.isSome_iff_exists.mp hhere
          rfl
  | cons c skipped ih =>
      rw [List.cons_append, searchFrom]
      cases hrun : run places fuel [⟨[⟨node, 0⟩], before, c :: (skipped ++ rest), place, []⟩]
          visits with
      | mk found visits' =>
          cases found with
          | some t => rfl
          | none =>
              refine ih (some c) (place + 1) visits' fun visits => ?_
              have hlater := h visits
              rwa [Spot.getLast?_cons_or, List.length_cons, Nat.add_comm skipped.length,
                ← Nat.add_assoc] at hlater

/-- A straight node finds something if there is a passage of it from some place. -/
theorem search_of_passes (node : Node) (hnode : node.isStraight = true) (labels : Nat)
    (skipped rest : List Char) (t : Spot)
    (h : node.Passes ⟨skipped.getLast?, rest, skipped.length, []⟩ t) :
    (search node labels (skipped ++ rest)).isSome := by
  refine searchFrom_of_run node _ _ none skipped rest 0 ∅ fun visits => ?_
  rw [Option.or_none, Nat.zero_add]
  refine run_of_leadsTo _ _ _ [] visits t ?_ ⟨t, h, rfl⟩ ?_
  · exact List.forall_mem_singleton.mpr hnode
  · rw [sizeOfTasks_cons]
    exact Nat.lt_of_lt_of_le (Nat.lt_add_of_pos_right (Nat.zero_lt_two))
      (Nat.le_mul_of_pos_left _ (Nat.succ_pos _))

/-- A straight pattern replaces something if the text spells a path of it out at some place. -/
theorem replaceFirst?_of_path (p : Pattern) (hnode : p.node.isStraight = true)
    (paths : List Path) (hpaths : p.node.paths? = some paths) (path : Path) (hmem : path ∈ paths)
    (skipped rest : List Char) (t : Spot)
    (h : path.Passes ⟨skipped.getLast?, rest, skipped.length, []⟩ t) (template : List Char) :
    (p.replaceFirst? template (skipped ++ rest)).isSome := by
  have hpasses := passes_of_paths p.node paths hpaths path hmem _ _ h
  unfold replaceFirst? find?
  rw [Option.isSome_map, Option.isSome_map]
  exact search_of_passes p.node hnode p.labels skipped rest t hpasses

end Pattern

end FieldSchema
