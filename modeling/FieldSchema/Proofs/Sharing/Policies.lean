import FieldSchema.Proofs.Sharing.Timeline

/-!
# Keeping Definitions Cannot Be Seen

A schema under the policy that keeps the definitions of nested schemas, and
the same schema under the policy that makes them anew each time.

The two policies lead to quite different histories. Under one a script of a
nested schema runs until it first succeeds and never again; under the other it
runs whenever a block is given for its field. What one history leaves in the
world, the other does not, down to the schemas nested in nested schemas, which
get new cells with every run of the script that declares them. None of this
reaches a host. Code cannot read the log or the cache, so whatever it does
depends on its host, its arguments and what is under names; and these are alike
under both policies, step after step.

There is one way in which the policy itself can be found out. It is among the
options, and a generator shows its options to the script that works on it. A
script that chooses by the policy declares different fields under the two, and
then of course their hosts differ. So the scripts are to be blind for the
policy: they may choose by everything else that a generator shows.

Policies are recast to one here, so that hosts which differ in policies and
cells count as the same. That is the part of a host that only its structure
text shows.

## Main definitions

* `onePolicy`: The policies, not told apart.
* `policyScript`: A script that chooses by the policy.

## Theorems

* `instances_alike`: New hosts from definitions that one script makes are alike.
* `timelines_same_under_policies`: The two policies have the same timelines.
* `timelines_differ_of_policyScript`: But not for a script that chooses by the policy.
-/

namespace FieldSchema

/-- Every policy is taken for the same. -/
def onePolicy : SubSchemaPolicy → SubSchemaPolicy := fun _ => .rebuild

/-- Options that differ in the policy alone make, of one blind script in one world, definitions whose
    new hosts are alike, or the script ends in the same fault under both. -/
theorem instances_alike (l : Ledger) (w : World) (hw : w.Coherent l) (inflector : Inflector)
    (f : SubSchemaPolicy → SubSchemaPolicy) (hothers : ∀ sub ∈ l, Script.Blind f sub.script)
    (o o' : Options) (ho : o.recast f = o'.recast f) (script : Script)
    (hscript : Script.Blind f script) :
    EndTogether
      (fun d v d' v' => d.recast f = d'.recast f ∧
        ∃ k, Scene.Alike f k ⟨d.instantiate, v⟩ ⟨d'.instantiate, v'⟩)
      (fun _ _ => True) (World.define inflector o script w) (World.define inflector o' script w) := by
  have hself := w.alike_self f l hw hothers
  have hleft := World.define_grown l w hw inflector o script
  have hright := World.define_grown l w hw inflector o' script
  rcases endTogether_cases _ _ (define_alike f inflector o o' ho script hscript w w) with
    ⟨d, v, d', v', h, h', hd⟩ | ⟨fault, v, v', h, h', -⟩
  · obtain ⟨m, hgrown, hconfined, hm⟩ := ends_value _ d v hleft h
    obtain ⟨m', hgrown', hconfined', -⟩ := ends_value _ d' v' hright h'
    -- The nested schemas that the script declares ask nothing that it does not ask itself.
    have hblind : ∀ sub ∈ m, Script.Blind f sub.script := fun sub hsub =>
      (hm.questions sub hsub).elim (hothers sub) fun hnested => hscript.mono f script _ hnested
    obtain ⟨k, -, hv, rfl, rfl⟩ :=
      World.Grown.alike f (w.own l) m m' w w v v' hself hgrown hgrown' hblind
    rw [h, h']
    exact ⟨hd, k, instantiate_alike f k d d' ⟨hd, hconfined, hconfined'⟩, hv⟩
  · rw [h, h']
    exact ⟨rfl, trivial⟩

/-- Whether the definitions of nested schemas are kept or made anew, a script that does not choose by
    the policy makes the same definition or ends in the same fault; and whatever steps are run on a
    new host, each comes to the same, or halts in the same way, and shows the same host, with the
    same text. -/
theorem timelines_same_under_policies (l : Ledger) (w : World) (hw : w.Coherent l)
    (hothers : ∀ sub ∈ l, Script.Blind onePolicy sub.script) (inflector : Inflector)
    (options : Options) (script : Script) (hscript : Script.Blind onePolicy script) :
    EndTogether
      (fun d v d' v' => d.recast onePolicy = d'.recast onePolicy ∧
        ∀ depth steps, TimelinesAlike onePolicy (timeline depth steps ⟨d.instantiate, v⟩)
          (timeline depth steps ⟨d'.instantiate, v'⟩))
      (fun _ _ => True)
      (World.define inflector { options with subSchemas := .cached } script w)
      (World.define inflector { options with subSchemas := .rebuild } script w) := by
  have ho : Options.recast onePolicy { options with subSchemas := .cached } =
      Options.recast onePolicy { options with subSchemas := .rebuild } := rfl
  refine endTogether_mono _ _
    (instances_alike l w hw inflector onePolicy hothers _ _ ho script hscript) ?_ ?_
  · rintro d v d' v' ⟨hd, k, hscene⟩
    exact ⟨hd, fun depth steps => timeline_alike onePolicy depth steps k _ _ hscene⟩
  · exact fun _ _ _ => trivial

/-- A schema nested in a nested schema that chooses by whether hosts can be rendered, and one whose
    script fails: they make a definition, and the timelines of its hosts are the same. -/
theorem timelines_same_under_policies_nested :
    let lines : Script := [.scalar .string "text" none none]
    let page : Script := [.array "notes" none (some lines) none,
      .choose (fun view => view.options.inspectable) [] [.scalar .any "title" none none]]
    let script : Script := [.array "pages" none (some page) none,
      .hash "tables" none none (some [.fail "no tables"]) none]
    let inflector := Inflector.ofSuffix "s"
    World.empty.Coherent [] ∧ Script.Blind onePolicy script ∧
      (outcomeOf (World.define inflector { subSchemas := .cached } script .empty)).toOption.map
        Definition.operationNames = some ["page", "pages", "table", "tables"] ∧
      EndTogether
        (fun d v d' v' => d.recast onePolicy = d'.recast onePolicy ∧
          ∀ depth steps, TimelinesAlike onePolicy (timeline depth steps ⟨d.instantiate, v⟩)
            (timeline depth steps ⟨d'.instantiate, v'⟩))
        (fun _ _ => True)
        (World.define inflector { subSchemas := .cached } script .empty)
        (World.define inflector { subSchemas := .rebuild } script .empty) := by
  intro lines page script inflector
  have hblind : Script.Blind onePolicy script := by
    intro question hquestion view view' h
    obtain rfl : question = fun view => view.options.inspectable := List.mem_singleton.mp hquestion
    have hinspectable := congrArg (fun view => view.options.inspectable) h
    exact hinspectable
  refine ⟨World.coherent_empty, hblind, by decide +kernel, ?_⟩
  exact timelines_same_under_policies [] .empty World.coherent_empty
    (fun _ hsub => absurd hsub List.not_mem_nil) inflector {} script hblind

/-- A script that chooses by the policy which of two fields it declares. -/
def policyScript : Script :=
  [.choose (fun view => view.options.subSchemas == .cached) [.scalar .any "kept" none none]
    [.scalar .any "remade" none none]]

/-- The hosts of a schema that chooses by the policy are told apart by it: under one policy they have
    an operation which they do not have under the other. -/
theorem timelines_differ_of_policyScript :
    let made (policy : SubSchemaPolicy) :=
      World.define (.ofSuffix "s") { subSchemas := policy } policyScript .empty
    (outcomeOf (made .cached)).toOption.map Definition.operationNames = some ["kept"] ∧
      (outcomeOf (made .rebuild)).toOption.map Definition.operationNames = some ["remade"] ∧
      ¬ EndTogether
        (fun d v d' v' => ∀ depth steps,
          TimelinesAlike onePolicy (timeline depth steps ⟨d.instantiate, v⟩)
            (timeline depth steps ⟨d'.instantiate, v'⟩))
        (fun _ _ => True) (made .cached) (made .rebuild) := by
  intro made
  refine ⟨by decide +kernel, by decide +kernel, fun h => ?_⟩
  -- No step is needed: the hosts differ as soon as they are made.
  have hnames := congrArg Host.operationNames (h 0 []).2
  rw [Host.recast_operationNames, Host.recast_operationNames] at hnames
  exact absurd hnames (by decide +kernel)

end FieldSchema
