import FieldSchema.Pattern.Search

/-!
# What It Means to Match

A pattern passes from one spot of a text to another.

The search is a walk with a stack, a memory of visits and a bound on its
steps. What it looks for can be said without any of these. A spot is a place
in a text with what stands on either side of it, together with the marks that
were passed so far. A node passes from one spot to another if there is a way
through the node that reads what stands between them, and `Passes` has one
rule for each such way.

What the search finds is such a passage. The memory and the bound can only
make it find less, so nothing has to be known of them here: each step takes
one task off a thread and puts others in its place, and passages by way of the
new tasks are passages by way of the old one. Preference is not part of it
either. That a match is the first one matters to those who replace it, but a
match it is in any case.

## Main definitions

* `Spot`: A place in a text, and the marks that were passed.
* `Node.Passes`: The node leads from one spot to another.
* `PassesAll`: So do several nodes in a row.

## Theorems

* `advance_passes`: A step of a thread loses no requirement.
* `search_passes`: What the search finds is a passage.
-/

namespace FieldSchema

namespace Pattern

/-- A place in a text: the character before it, the rest after it, its number, and the marks that
    were passed so far. -/
@[ext]
structure Spot where
  before : Option Char
  rest : List Char
  place : Nat
  marks : Marks

namespace Spot

/-- The second spot comes after the first, with a text between them. -/
structure Beyond (text : List Char) (s t : Spot) : Prop where
  rest : s.rest = text ++ t.rest
  before : t.before = text.getLast?.or s.before
  place : t.place = s.place + text.length

/-- The second spot is reached from the first by reading a text, and no mark is passed. -/
structure Reads (text : List Char) (s t : Spot) : Prop extends s.Beyond text t where
  marks : t.marks = s.marks

/-- The spot with one more mark passed. -/
def mark (slot : Nat) (s : Spot) : Spot :=
  { s with marks := (slot, s.place) :: s.marks }

theorem beyond_append (text more : List Char) (s t u : Spot) (h : s.Beyond text t)
    (h' : t.Beyond more u) : s.Beyond (text ++ more) u where
  rest := by rw [h.rest, h'.rest, List.append_assoc]
  before := by rw [h'.before, h.before, List.getLast?_append, Option.or_assoc]
  place := by rw [h'.place, h.place, List.length_append, Nat.add_assoc]

theorem reads_nil (s : Spot) : s.Reads [] s :=
  ⟨⟨rfl, rfl, rfl⟩, rfl⟩

theorem eq_of_reads_nil (s t : Spot) (h : s.Reads [] t) : s = t :=
  Spot.ext h.before.symm h.rest h.place.symm h.marks.symm

theorem getLast?_cons_or (c : Char) (text : List Char) (before : Option Char) :
    (c :: text).getLast?.or before = text.getLast?.or (some c) := by
  rw [List.getLast?_cons]
  cases text.getLast? <;> rfl

theorem exists_reads_cons (c : Char) (text : List Char) (s t : Spot) (h : s.Reads (c :: text) t) :
    ∃ u, s.Reads [c] u ∧ u.Reads text t := by
  refine ⟨⟨some c, text ++ t.rest, s.place + 1, s.marks⟩, ⟨⟨h.rest, rfl, rfl⟩, rfl⟩,
    ⟨⟨rfl, ?_, ?_⟩, h.marks⟩⟩
  · exact h.before.trans (getLast?_cons_or c text s.before)
  · rw [h.place, List.length_cons]
    change s.place + (text.length + 1) = s.place + 1 + text.length
    omega

theorem reads_append (text more : List Char) (s t u : Spot) (h : s.Reads text t)
    (h' : t.Reads more u) : s.Reads (text ++ more) u :=
  ⟨beyond_append text more s t u h.toBeyond h'.toBeyond, h'.marks.trans h.marks⟩

end Spot

/-- The node leads from one spot to another. -/
inductive Node.Passes : Node → Spot → Spot → Prop
  | skip (s : Spot) : Passes .skip s s
  | literal (text : List Char) (s t : Spot) (h : s.Reads text t) : Passes (.literal text) s t
  | chars (set : CharSet) (c : Char) (s t : Spot) (hc : set.contains c = true)
      (h : s.Reads [c] t) : Passes (.chars set) s t
  | check (assertion : Assertion) (s : Spot)
      (h : assertion.holds s.before s.rest.head? = true) : Passes (.check assertion) s s
  | mark (slot : Nat) (s : Spot) : Passes (.mark slot) s (s.mark slot)
  | cat (a b : Node) (s t u : Spot) (ha : Passes a s t) (hb : Passes b t u) :
      Passes (.cat a b) s u
  | preferred (label : Nat) (a b : Node) (s t : Spot) (h : Passes a s t) :
      Passes (.branch label a b) s t
  | other (label : Nat) (a b : Node) (s t : Spot) (h : Passes b s t) :
      Passes (.branch label a b) s t
  | noPass (label : Nat) (greedy : Bool) (body : Node) (s : Spot) :
      Passes (.loop label greedy body) s s
  | morePasses (label : Nat) (greedy : Bool) (body : Node) (s t u : Spot) (ha : Passes body s t)
      (hb : Passes (.loop label greedy body) t u) : Passes (.loop label greedy body) s u
  | passes (label : Nat) (greedy : Bool) (body : Node) (s t u : Spot) (ha : Passes body s t)
      (hb : Passes (.loop label greedy body) t u) : Passes (.passes label greedy body) s u
  | noCopies (labels : Nat) (body : Node) (s : Spot) : Passes (.copies 0 labels body) s s
  | copies (count labels : Nat) (body : Node) (s t u : Spot) (ha : Passes body s t)
      (hb : Passes (.copies count labels body) t u) : Passes (.copies (count + 1) labels body) s u
  | upToNone (count labels label : Nat) (greedy : Bool) (body : Node) (s : Spot) :
      Passes (.upTo count labels label greedy body) s s
  | upToMore (count labels label : Nat) (greedy : Bool) (body : Node) (s t u : Spot)
      (ha : Passes body s t) (hb : Passes (.upTo count labels label greedy body) t u) :
      Passes (.upTo (count + 1) labels label greedy body) s u

/-- The nodes lead from one spot to another, one after the other. -/
def PassesAll : List Node → Spot → Spot → Prop
  | [], s, t => s = t
  | node :: rest, s, t => ∃ u, node.Passes s u ∧ PassesAll rest u t

namespace Thread

/-- Where a thread is. -/
def spot (t : Thread) : Spot := ⟨t.before, t.rest, t.place, t.marks⟩

/-- What the thread has to match leads from where it is to the spot. -/
def LeadsTo (t : Thread) (u : Spot) : Prop :=
  PassesAll (t.todo.map Task.node) t.spot u

theorem step_eq_some (t next : Thread) (todo : List Task) (accepts : Char → Bool)
    (h : t.step todo accepts = some next) :
    ∃ c, accepts c = true ∧ t.spot.Reads [c] next.spot ∧ next.todo = todo := by
  unfold step at h
  cases hrest : t.rest with
  | nil =>
      rw [hrest] at h
      exact nomatch h
  | cons c rest =>
      rw [hrest] at h
      simp only [Option.ite_none_right_eq_some, Option.some.injEq] at h
      obtain ⟨hc, rfl⟩ := h
      exact ⟨c, hc, ⟨⟨hrest, rfl, rfl⟩, rfl⟩, rfl⟩

theorem literal_eq_some (t next : Thread) (todo : List Task) (text : List Char)
    (h : t.literal todo text = some next) : t.spot.Reads text next.spot ∧ next.todo = todo := by
  induction text generalizing t with
  | nil =>
      obtain rfl := Option.some.inj h
      exact ⟨Spot.reads_nil t.spot, rfl⟩
  | cons c text ih =>
      rw [literal, Option.bind_eq_some_iff] at h
      obtain ⟨mid, hstep, hrest⟩ := h
      obtain ⟨d, hd, hreads, -⟩ := step_eq_some t mid todo _ hstep
      obtain ⟨hmore, htodo⟩ := ih mid hrest
      obtain rfl := beq_iff_eq.mp hd
      exact ⟨Spot.reads_append [d] text _ _ _ hreads hmore, htodo⟩

end Thread

/-- The threads that take the place of another. -/
def Progress.next : Progress → List Thread
  | .finished => []
  | .threads next => next
  | .choice _ next => next

theorem mem_inOrder (t next : Thread) (greedy : Bool) (more less : List Task)
    (h : next ∈ t.inOrder greedy more less) : next = t.matching more ∨ next = t.matching less := by
  unfold Thread.inOrder at h
  cases greedy with
  | true => simpa using h
  | false => simpa [or_comm] using h

/-- Wherever a thread that takes the place of another leads to, the other one leads to as well. -/
theorem perform_passes (t next : Thread) (shift : Nat) (todo : List Task) (node : Node) (u : Spot)
    (hnext : next ∈ (t.perform shift todo node).next) (h : next.LeadsTo u) :
    ∃ s, node.Passes t.spot s ∧ PassesAll (todo.map Task.node) s u := by
  cases node with
  | skip =>
      obtain rfl := List.mem_singleton.mp hnext
      exact ⟨t.spot, .skip _, h⟩
  | literal text =>
      -- The thread goes on only if the text reads so, and its tasks are the rest.
      obtain ⟨hreads, htodo⟩ :=
        Thread.literal_eq_some t next todo text (Option.mem_toList.mp hnext)
      rw [Thread.LeadsTo, htodo] at h
      exact ⟨next.spot, .literal text _ _ hreads, h⟩
  | chars set =>
      obtain ⟨c, hc, hreads, htodo⟩ :=
        Thread.step_eq_some t next todo _ (Option.mem_toList.mp hnext)
      rw [Thread.LeadsTo, htodo] at h
      exact ⟨next.spot, .chars set c _ _ hc hreads, h⟩
  | check assertion =>
      rw [Thread.perform] at hnext
      -- An assertion that does not hold ends the thread.
      split at hnext
      · rename_i hholds
        obtain rfl := List.mem_singleton.mp hnext
        exact ⟨t.spot, .check assertion _ hholds, h⟩
      · exact absurd hnext List.not_mem_nil
  | mark slot =>
      obtain rfl := List.mem_singleton.mp hnext
      exact ⟨t.spot.mark slot, .mark slot _, h⟩
  | cat a b =>
      obtain rfl := List.mem_singleton.mp hnext
      -- Two tasks have come in the place of one.
      obtain ⟨s, ha, s', hb, hrest⟩ := h
      exact ⟨s', .cat a b _ s s' ha hb, hrest⟩
  | branch label a b =>
      -- Both ways stay open, and the thread that got there took one of them.
      rcases List.mem_cons.mp hnext with rfl | hother
      · obtain ⟨s, ha, hrest⟩ := h
        exact ⟨s, .preferred label a b _ s ha, hrest⟩
      · obtain rfl := List.mem_singleton.mp hother
        obtain ⟨s, hb, hrest⟩ := h
        exact ⟨s, .other label a b _ s hb, hrest⟩
  | loop label greedy body =>
      -- Greedy or not, a loop is entered once more or left.
      rcases mem_inOrder t next greedy _ _ hnext with rfl | rfl
      · obtain ⟨s, ha, s', hb, hrest⟩ := h
        exact ⟨s', .morePasses label greedy body _ s s' ha hb, hrest⟩
      · exact ⟨t.spot, .noPass label greedy body _, h⟩
  | passes label greedy body =>
      obtain rfl := List.mem_singleton.mp hnext
      obtain ⟨s, ha, s', hb, hrest⟩ := h
      exact ⟨s', .passes label greedy body _ s s' ha hb, hrest⟩
  | copies count labels body =>
      -- Counted copies are unrolled one at a time.
      cases count with
      | zero =>
          obtain rfl := List.mem_singleton.mp hnext
          exact ⟨t.spot, .noCopies labels body _, h⟩
      | succ count =>
          obtain rfl := List.mem_singleton.mp hnext
          obtain ⟨s, ha, s', hb, hrest⟩ := h
          exact ⟨s', .copies count labels body _ s s' ha hb, hrest⟩
  | upTo count labels label greedy body =>
      cases count with
      | zero =>
          obtain rfl := List.mem_singleton.mp hnext
          exact ⟨t.spot, .upToNone 0 labels label greedy body _, h⟩
      | succ count =>
          rcases mem_inOrder t next greedy _ _ hnext with rfl | rfl
          · obtain ⟨s, ha, s', hb, hrest⟩ := h
            exact ⟨s', .upToMore count labels label greedy body _ s s' ha hb, hrest⟩
          · exact ⟨t.spot, .upToNone (count + 1) labels label greedy body _, h⟩

/-- The same for a thread with its first task. -/
theorem advance_passes (t next : Thread) (u : Spot) (hnext : next ∈ t.advance.next)
    (h : next.LeadsTo u) : t.LeadsTo u := by
  unfold Thread.advance at hnext
  cases htodo : t.todo with
  | nil =>
      rw [htodo] at hnext
      exact absurd hnext List.not_mem_nil
  | cons task todo =>
      rw [htodo] at hnext
      unfold Thread.LeadsTo
      rw [htodo]
      exact perform_passes t next task.shift todo task.node u hnext h

theorem leadsTo_of_finished (t : Thread) (h : t.advance = .finished) : t.LeadsTo t.spot := by
  unfold Thread.advance at h
  -- A thread has finished exactly if it has no tasks left; any task would have made threads or a
  -- dead end of it.
  cases htodo : t.todo with
  | nil =>
      unfold Thread.LeadsTo
      rw [htodo]
      rfl
  | cons task todo =>
      rw [htodo] at h
      obtain ⟨node, shift⟩ := task
      cases node with
      | check assertion =>
          simp only [Thread.perform] at h
          split at h <;> exact nomatch h
      | copies count labels body => cases count <;> exact nomatch h
      | upTo count labels label greedy body => cases count <;> exact nomatch h
      | _ => exact nomatch h

/-- A walk that ends with a thread ends where one of the threads that it started from leads to. -/
theorem run_passes (places fuel : Nat) (stack : List Thread) (visits : Visits) (u : Thread)
    (h : (run places fuel stack visits).1 = some u) : ∃ t ∈ stack, t.LeadsTo u.spot := by
  induction fuel generalizing stack visits with
  | zero => exact nomatch h
  | succ fuel ih =>
      cases stack with
      | nil => exact nomatch h
      | cons t stack =>
          -- What leads on from the stack without this thread leads on from the stack with it.
          have hrest : (run places fuel stack visits).1 = some u →
              ∃ t' ∈ t :: stack, t'.LeadsTo u.spot := fun h => by
            obtain ⟨t', hmem, hleads⟩ := ih stack visits h
            exact ⟨t', List.mem_cons_of_mem t hmem, hleads⟩
          have hnext : ∀ next visits, (∀ t' ∈ next, t' ∈ t.advance.next) →
              (run places fuel (next ++ stack) visits).1 = some u →
              ∃ t' ∈ t :: stack, t'.LeadsTo u.spot := fun next visits hsub h => by
            obtain ⟨t', hmem, hleads⟩ := ih (next ++ stack) visits h
            rcases List.mem_append.mp hmem with hnew | hold
            · exact ⟨t, List.mem_cons_self, advance_passes t t' u.spot (hsub t' hnew) hleads⟩
            · exact ⟨t', List.mem_cons_of_mem t hold, hleads⟩
          rw [run] at h
          cases hadvance : t.advance with
          | finished =>
              rw [hadvance] at h
              obtain rfl := Option.some.inj h
              exact ⟨t, List.mem_cons_self, leadsTo_of_finished t hadvance⟩
          | threads next =>
              rw [hadvance] at h
              exact hnext next visits (fun t' ht' => by rw [hadvance]; exact ht') h
          | choice label next =>
              rw [hadvance] at h
              simp only [] at h
              split at h
              · exact hrest h
              · exact hnext next _ (fun t' ht' => by rw [hadvance]; exact ht') h

/-- A walk from one thread at the beginning of a node finds a passage of the node. -/
theorem run_start_passes (node : Node) (places fuel : Nat) (s : Spot) (visits : Visits)
    (t : Thread)
    (h : (run places fuel [⟨[⟨node, 0⟩], s.before, s.rest, s.place, s.marks⟩] visits).1 = some t) :
    node.Passes s t.spot := by
  obtain ⟨t', hmem, hleads⟩ := run_passes places fuel _ visits t h
  obtain rfl := List.mem_singleton.mp hmem
  obtain ⟨u, hpasses, rfl⟩ := hleads
  exact hpasses

/-- What is found from a place on is a passage from that place or a later one. -/
theorem searchFrom_passes (node : Node) (places fuel : Nat) (before : Option Char)
    (rest : List Char) (place : Nat) (visits : Visits) (start : Nat) (t : Thread)
    (h : searchFrom node places fuel before rest place visits = some (start, t)) :
    ∃ skipped rest', rest = skipped ++ rest' ∧ start = place + skipped.length ∧
      node.Passes ⟨skipped.getLast?.or before, rest', start, []⟩ t.spot := by
  -- On the characters that are left: a search that fails in one place goes on one place later.
  induction rest generalizing before place visits with
  | nil =>
      rw [searchFrom] at h
      cases hrun : run places fuel [⟨[⟨node, 0⟩], before, [], place, []⟩] visits with
      | mk found visits' =>
          rw [hrun] at h
          cases found with
          | none => exact nomatch h
          | some t' =>
              obtain ⟨rfl, rfl⟩ := Prod.mk.inj (Option.some.inj h)
              exact ⟨[], [], rfl, rfl, run_start_passes node places fuel ⟨before, [], place, []⟩
                visits t' (congrArg Prod.fst hrun)⟩
  | cons c rest ih =>
      rw [searchFrom] at h
      cases hrun : run places fuel [⟨[⟨node, 0⟩], before, c :: rest, place, []⟩] visits with
      | mk found visits' =>
          rw [hrun] at h
          cases found with
          | none =>
              -- Nothing was found here, so the character is skipped.
              obtain ⟨skipped, rest', rfl, hstart, hpasses⟩ := ih (some c) (place + 1) visits' h
              refine ⟨c :: skipped, rest', rfl, ?_, ?_⟩
              · rw [hstart, List.length_cons]
                omega
              · rw [Spot.getLast?_cons_or]
                exact hpasses
          | some t' =>
              obtain ⟨rfl, rfl⟩ := Prod.mk.inj (Option.some.inj h)
              exact ⟨[], c :: rest, rfl, rfl, run_start_passes node places fuel
                ⟨before, c :: rest, place, []⟩ visits t' (congrArg Prod.fst hrun)⟩

/-- What is found in a text is a passage from some place of it, with no mark passed before. -/
theorem search_passes (node : Node) (labels : Nat) (text : List Char) (start : Nat) (t : Thread)
    (h : search node labels text = some (start, t)) :
    ∃ skipped rest, text = skipped ++ rest ∧ start = skipped.length ∧
      node.Passes ⟨skipped.getLast?, rest, start, []⟩ t.spot := by
  obtain ⟨skipped, rest, htext, hstart, hpasses⟩ := searchFrom_passes node _ _ none text 0 ∅ start t h
  rw [Nat.zero_add] at hstart
  rw [Option.or_none] at hpasses
  exact ⟨skipped, rest, htext, hstart, hpasses⟩

end Pattern

end FieldSchema
