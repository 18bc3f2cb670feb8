import Mathlib.Logic.Function.Basic
import FieldSchema.Proofs.Sharing.Timeline

/-!
# Hosts That Share a Definition

Any number of hosts made from one definition, worked on in turns.

The hosts share more than code. Their operations name the same cells, and
under the policy that keeps definitions one host's block fills the cell from
which the next host takes its definition. They share the log as well, and the
count of cells. A schedule says which host the next step is for, and all steps
run in one world, each where the one before left it.

What one host is shown does not depend on the others. Its steps, taken alone,
are run in another world, which lacks what the others did, so cells may be
empty there that are filled here, and the cells that are taken in between have
other numbers. The scenes are alike nevertheless, and stay so: a step of the
host itself is run in both, and the steps of others leave its scene alike to
what it was, because they lead to a coherent world and do not touch what is
under names.

Here nothing is recast but the cells. Policies are the same in both runs,
whichever they are, so it does not matter what scripts choose by.

A clone of a definition or of a host is the same value, with the same cells,
so it makes no difference from which clone a host was made.

## Main definitions

* `chronicle`: What is seen of all hosts, step by step, and the hosts at the end.
* `ownOf`: What of a schedule, or of what was seen, is one host's.

## Theorems

* `chronicle_alike`: A host is shown the same as alone, from like scenes.
* `hosts_do_not_interfere`: Instances of one definition do not interfere.
-/

namespace FieldSchema

section

variable {ι : Type} [DecidableEq ι]

/-- What is seen after each step of the host that the step is for, and the hosts at the end. -/
def chronicle (depth : Nat) : List (ι × Expr) → (ι → Host) → World →
    List (ι × Moment) × (ι → Host)
  | [], hosts, _ => ([], hosts)
  | (i, step) :: rest, hosts, w =>
      let (moment, t) := Scene.after depth step ⟨hosts i, w⟩
      let (moments, ends) := chronicle depth rest (Function.update hosts i t.host) t.world
      ((i, moment) :: moments, ends)

/-- What is one host's, in order. -/
def ownOf {α : Type} (i : ι) (entries : List (ι × α)) : List α :=
  (entries.filter fun entry => entry.1 = i).map Prod.snd

theorem ownOf_cons_self {α : Type} (i : ι) (a : α) (rest : List (ι × α)) :
    ownOf i ((i, a) :: rest) = a :: ownOf i rest := by
  simp [ownOf]

theorem ownOf_cons_other {α : Type} (i j : ι) (h : j ≠ i) (a : α) (rest : List (ι × α)) :
    ownOf i ((j, a) :: rest) = ownOf i rest := by
  simp [ownOf, h]

/-- Hosts that are confined stay so when one of them is replaced. -/
theorem update_confined (l : Ledger) (hosts : ι → Host) (j : ι) (h : Host)
    (hhosts : ∀ i, (hosts i).Confined l.Records) (hh : h.Confined l.Records) (i : ι) :
    (Function.update hosts j h i).Confined l.Records := by
  by_cases hij : i = j
  · rw [hij, Function.update_self]
    exact hh
  · rw [Function.update_of_ne hij]
    exact hhosts i

/-- The step of another host leaves a scene alike to what it was alike to. -/
theorem Scene.Alike.afterOther (depth : Nat) (step : Expr) (k : Ledgers) (h other : Host)
    (w : World) (s' : Scene) (hs : Scene.Alike id k ⟨h, w⟩ s')
    (hother : other.Confined k.left.Records) :
    ∃ m, k ≤ m ∧ Scene.Alike id m ⟨h, (Scene.after depth step ⟨other, w⟩).2.world⟩ s' ∧
      (Scene.after depth step ⟨other, w⟩).2.host.Confined m.left.Records := by
  obtain ⟨m, hgrown, hhost⟩ :=
    evalWithin_grown depth step k.left ⟨other, w⟩ hs.world.left hother
  -- The other world does not change in the meantime, so its ledger does not grow.
  have hstill : s'.world.Grown k.right k.right s'.world :=
    ⟨List.prefix_refl k.right, hs.world.right, rfl, rfl⟩
  obtain ⟨n, hle, hworld, rfl, -⟩ :=
    World.Grown.alike id k m k.right w s'.world _ _ hs.world hgrown hstill
      fun sub _ => Script.blind_id sub.script
  exact ⟨n, hle, ⟨Value.Alike.mono id k n hle _ _ hs.host, hworld⟩, hhost⟩

/-- Of a host in a schedule the same is seen as of a like host with the same steps alone. -/
theorem chronicle_alike (depth : Nat) (i : ι) (schedule : List (ι × Expr)) (k : Ledgers)
    (hosts : ι → Host) (w : World) (s' : Scene) (hs : Scene.Alike id k ⟨hosts i, w⟩ s')
    (hhosts : ∀ j, (hosts j).Confined k.left.Records) :
    TimelinesAlike id
      (ownOf i (chronicle depth schedule hosts w).1, (chronicle depth schedule hosts w).2 i)
      (timeline depth (ownOf i schedule) s') := by
  induction schedule generalizing k hosts w s' with
  | nil => exact ⟨.nil, Host.Alike.eq id k _ _ hs.host⟩
  | cons entry rest ih =>
      obtain ⟨j, step⟩ := entry
      have hstays : ∀ m, k ≤ m → ∀ j, (hosts j).Confined m.left.Records := fun m hkm j =>
        Value.Confined.mono _ (.nested (hosts j)) _ (hhosts j) (Ledger.Records.mono _ _ hkm.left)
      let t := (Scene.after depth step ⟨hosts j, w⟩).2
      -- The step is one of this client, which the timeline takes as well, or one of another.
      by_cases hji : j = i
      · subst hji
        obtain ⟨hmoment, m, hkm, hafter⟩ := after_alike id depth step k _ _ hs
        have hnow : Scene.Alike id m ⟨Function.update hosts j t.host j, t.world⟩
            (Scene.after depth step s').2 := by
          rw [Function.update_self]
          exact hafter
        obtain ⟨hmoments, hend⟩ := ih m (Function.update hosts j t.host) t.world _ hnow
          (update_confined m.left hosts j t.host (hstays m hkm) hafter.host.left)
        rw [chronicle, ownOf_cons_self, ownOf_cons_self, timeline]
        exact ⟨.cons hmoment hmoments, hend⟩
      -- A step of another client changes the world, but nothing that this host can see of it.
      · obtain ⟨m, hkm, hafter, hhost⟩ :=
          Scene.Alike.afterOther depth step k (hosts i) (hosts j) w s' hs (hhosts j)
        have hnow : Scene.Alike id m ⟨Function.update hosts j t.host i, t.world⟩ s' := by
          rw [Function.update_of_ne (Ne.symm hji)]
          exact hafter
        rw [chronicle, ownOf_cons_other i j hji, ownOf_cons_other i j hji]
        exact ih m (Function.update hosts j t.host) t.world s' hnow
          (update_confined m.left hosts j t.host (hstays m hkm) hhost)

/-- Whatever steps are run on instances of one definition in whatever order, each of them comes to
    the same as if its own steps had been run on a new instance alone: at each of its steps the
    outcome, the host and all text are the same, and so is the host at the end. -/
theorem hosts_do_not_interfere (l : Ledger) (w : World) (hw : w.Coherent l) (d : Definition)
    (hd : d.Confined l.Records) (depth : Nat) (schedule : List (ι × Expr)) (i : ι) :
    TimelinesAlike id
      (ownOf i (chronicle depth schedule (fun _ => d.instantiate) w).1,
        (chronicle depth schedule (fun _ => d.instantiate) w).2 i)
      (timeline depth (ownOf i schedule) ⟨d.instantiate, w⟩) := by
  have hnew : d.instantiate.Confined l.Records := confined_instantiate l.Records d hd
  have hs := Scene.alike_self l ⟨d.instantiate, w⟩ hw hnew
  exact chronicle_alike depth i schedule (w.own l) (fun _ => d.instantiate) w _ hs
    fun _ => hnew

end

/-- Two instances of a schema with a nested one: the first fills the cell that the second uses, and
    in between a block of the second fails. -/
theorem hosts_do_not_interfere_pages :
    let script : Script :=
      [.array "pages" none (some [.scalar .string "title" none none]) none]
    let page (title : Literal) : Expr :=
      .call "page" [] false [.literal title] (some [.call "title" [.argument 0] false [] none])
    let schedule : List (Bool × Expr) :=
      [(true, page (.string "a")), (false, page (.boolean true)), (false, page (.string "b")),
        (true, .call "pages" [] false [] none)]
    ∃ d w l, World.define (.ofSuffix "s") {} script .empty = .ok d w ∧ w.Coherent l ∧
      d.Confined l.Records ∧
        TimelinesAlike id
          (ownOf false (chronicle 3 schedule (fun _ => d.instantiate) w).1,
            (chronicle 3 schedule (fun _ => d.instantiate) w).2 false)
          (timeline 3 [page (.boolean true), page (.string "b")] ⟨d.instantiate, w⟩) := by
  intro script page schedule
  have hgrown := World.define_grown [] .empty World.coherent_empty (.ofSuffix "s") {} script
  obtain ⟨d, w, hmade⟩ : ∃ d w, World.define (.ofSuffix "s") {} script .empty = .ok d w :=
    ⟨_, _, rfl⟩
  obtain ⟨l, hl, hd, -⟩ := ends_value _ d w hgrown hmade
  exact ⟨d, w, l, hmade, hl.coherent, hd,
    hosts_do_not_interfere l w hl.coherent d hd 3 schedule false⟩

end FieldSchema
