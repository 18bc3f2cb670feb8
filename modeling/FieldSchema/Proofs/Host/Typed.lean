import FieldSchema.Proofs.Code.Calls
import FieldSchema.Proofs.Host.Admission
import FieldSchema.Proofs.Schema.RightKind

/-!
# Typed Hosts

What is in a slot satisfies the declaration of its field, always.

Values get into slots through accessors only, and an accessor writes what its
checks allow. That is not enough, for a slot belongs to a name and not to an
accessor: were there two fields of one name, each would find what the other
has written. So the fields of the definitions on a host must be told apart by
their names. Then every write is to the slot of the accessor's own field, and
`update_admits` applies to it. Callbacks may call accessors while a call is not
over, and blocks run on hosts that are still being built, but there is no
moment at which a slot is out of order: a write is a single step.

The condition on a host thus speaks of a list of fields, those that its
accessors may belong to. Nested hosts have other fields, and their condition is
that of their own list. All lists are treated at once.

`Reachable` says what may be done to hosts: attaching definitions, installing
operations, calling, taking a nested host that a block has made, and anything
elsewhere that leaves the definitions in cells alone or adds decent ones.

## Main definitions

* `Compatible`: Fields that a host can have together.
* `typed`: The conditions that calls have to keep.
* `Reachable`: The scenes in which hosts can be found.

## Theorems

* `typed_put`: A write keeps all slots in order.
* `typed_sound`: Nothing that can happen to a host breaks the conditions.
* `reachable_typed`: All scenes in which hosts can be found satisfy them.
* `stored_admits`: A stored value satisfies the declaration of its field.
-/

namespace FieldSchema

/-- The fields are self-contained, and no two have one name. -/
structure Compatible (fields : List FieldSpec) : Prop where
  selfContained : ∀ spec ∈ fields, spec.SelfContained
  distinct : ∀ spec ∈ fields, ∀ other ∈ fields, spec.name = other.name → spec = other

/-- The definition is self-contained and has fields from the list only. -/
def Definition.Within (fields : List FieldSpec) (d : Definition) : Prop :=
  d.SelfContained ∧ ∀ spec ∈ d.fields, spec ∈ fields

/-- The accessors of the host belong to compatible fields, all whose slots are in order. -/
structure Host.Typed (fields : List FieldSpec) (h : Host) : Prop where
  compatible : Compatible fields
  draws : h.Draws (Definition.Within fields) fun _ => False
  admits : ∀ spec ∈ fields, ∀ v, h.stored? spec.name = some v →
    ∀ hosts, spec.Admits hosts v

/-- The definitions in cells go back to self-contained scripts. -/
def World.Decent (w : World) : Prop :=
  w.Stocks Definition.SelfContained fun _ => True

/-- What calls have to keep so that all slots stay in order. -/
def typed : Guarantee (List FieldSpec) where
  host fields h := h.Typed fields
  world w := w.Decent
  halt _ := True

theorem Definition.SelfContained.genuine (d : Definition) (hd : d.SelfContained) : d.Genuine := by
  obtain ⟨inflector, options, script, w, -, heq⟩ := hd
  exact ⟨inflector, options, script, w, heq⟩

theorem compatible_fields (d : Definition) (hd : d.SelfContained) : Compatible d.fields := by
  have hfields := fields_selfContained d hd
  obtain ⟨inflector, options, script, w, -, rfl⟩ := hd
  have hinStep := (World.defineUpToFault_tabulates inflector options script w).inStep
  refine ⟨hfields, fun spec hspec other hother heq => ?_⟩
  have hfirst := (hinStep.field?_iff spec.name spec).mpr ⟨hspec, rfl⟩
  have hsecond := (hinStep.field?_iff spec.name other).mpr ⟨hother, heq.symm⟩
  exact Option.some.inj (hfirst.symm.trans hsecond)

theorem typed_empty (fields : List FieldSpec) (h : Compatible fields) :
    Host.empty.Typed fields :=
  ⟨h, draws_empty, fun _ _ _ hv => nomatch hv⟩

theorem typed_attachWith (fields : List FieldSpec) (h : Host) (d : Definition)
    (inspectable : Bool) (hd : d.Within fields) (hh : h.Typed fields) :
    (d.attachWith inspectable h).Typed fields := by
  refine ⟨hh.compatible, draws_attachWith d inspectable h hd hh.draws, fun spec hspec v hv => ?_⟩
  rw [attachWith_stored?] at hv
  exact hh.admits spec hspec v hv

theorem typed_install (fields : List FieldSpec) (h : Host) (name tag : String) (trace : Bool)
    (body : Expr) (hbody : ∀ d ∈ body.attached, False) (hh : h.Typed fields) :
    (h.install name (.custom tag trace body)).Typed fields :=
  ⟨hh.compatible, draws_install h name tag trace body hbody hh.draws, hh.admits⟩

/-- A write to a field of the list goes to a slot that no other field of the list has. -/
theorem typed_put (fields : List FieldSpec) (spec : FieldSpec) (hspec : spec ∈ fields)
    (op : Operation) (hop : spec.Accessor op) (write : Write) (hwrite : op.Allows write) (h : Host)
    (hh : h.Typed fields) : (spec.put write h).Typed fields := by
  refine ⟨hh.compatible, hh.draws, fun other hother v hv hosts => ?_⟩
  rw [FieldSpec.put_stored?] at hv
  by_cases hname : other.name = spec.name
  · rw [if_pos hname] at hv
    -- The name is that of the slot written to, so the field is the one of the accessor.
    obtain rfl := hh.compatible.distinct other hother spec hspec hname
    have hold : h.stored other.name = .nil ∨ other.Admits hosts (h.stored other.name) := by
      unfold Host.stored
      cases hslot : h.stored? other.name with
      | none => exact Or.inl rfl
      | some old => exact Or.inr (hh.admits other hother old hslot hosts)
    rw [← Option.some.inj hv]
    exact update_admits other (hh.compatible.selfContained other hother) op hop write hwrite _
      hosts hold
  · rw [if_neg hname] at hv
    exact hh.admits other hother v hv hosts

theorem typed_tolerates : typed.Tolerates fun _ => False where
  fault _ := trivial
  note w event hw := stocks_note w event hw
  install fields h name tag trace body hbody hh :=
    typed_install fields h name tag trace body hbody hh
  attach _ _ _ _ _ hallowed _ _ _ := hallowed.elim

theorem typed_instantiate (d : Definition) (hd : d.SelfContained) :
    d.instantiate.Typed d.fields :=
  typed_attachWith d.fields .empty d d.inspectable ⟨hd, fun _ hspec => hspec⟩
    (typed_empty d.fields (compatible_fields d hd))

theorem definition_decent (sub : SubSchema) (hsub : FieldSchema.SelfContained sub.script)
    (w : World) (hw : w.Decent) :
    Ends (fun d v => v.Decent ∧ d.SelfContained) (fun _ v => v.Decent) (sub.definition w) :=
  definition_stocks sub w hw ⟨_, _, _, w, hsub, rfl⟩

/-- New hosts of a self-contained schema satisfy the condition of their own fields. -/
theorem typed_nests (sub : SubSchema) (hsub : FieldSchema.SelfContained sub.script) :
    typed.Nests sub := by
  intro w hw
  refine ends_mono _ (definition_decent sub hsub w hw) ?_ fun _ _ h => h
  exact fun d v hd => ⟨hd.1, d.fields, typed_instantiate d hd.2⟩

theorem typed_covers (fields : List FieldSpec) (hfields : Compatible fields) (spec : FieldSpec)
    (hspec : spec ∈ fields) : typed.Covers (fun _ => False) fields spec where
  put op write h hop hwrite hh := typed_put fields spec hspec op hop write hwrite h hh
  callback d hd := by
    rw [(hfields.selfContained spec hspec).callback] at hd
    exact absurd hd List.not_mem_nil
  nested sub hsub := typed_nests sub ((hfields.selfContained spec hspec).script spec sub hsub)

/-- Nothing that can happen to a host breaks the conditions. -/
theorem typed_sound : typed.Sound fun _ => False where
  tolerates := typed_tolerates
  exhausted := trivial
  permits fields h name op hh hfound := by
    cases hh.draws name op hfound with
    | inspect => exact .inspect
    | custom tag trace body hbody => exact .custom tag trace body hbody
    | accessor d hd key _ hop =>
        obtain ⟨spec, hspec, haccessor⟩ := hd.1.genuine.accessor d key op hop
        exact .accessor spec op haccessor
          (typed_covers fields hh.compatible spec (hd.2 spec hspec))

/-- The scenes in which a host can be found that has been given definitions from a list. -/
inductive Reachable : List Definition → Scene → Prop
  /-- It is new; the definitions are self-contained, and no two of them have fields of one name. -/
  | new (ds : List Definition) (w : World) (hds : ∀ d ∈ ds, d.SelfContained)
      (hdistinct : ds.Pairwise fun d e => ∀ spec ∈ d.fields, ∀ other ∈ e.fields,
        spec.name ≠ other.name)
      (hw : w.Decent) : Reachable ds ⟨.empty, w⟩
  /-- One of the definitions was attached to it. -/
  | attached (ds : List Definition) (s : Scene) (d : Definition) (inspectable : Bool)
      (hs : Reachable ds s) (hd : d ∈ ds) : Reachable ds ⟨d.attachWith inspectable s.host, s.world⟩
  /-- A custom operation was installed that attaches nothing. -/
  | installed (ds : List Definition) (s : Scene) (name tag : String) (trace : Bool) (body : Expr)
      (hs : Reachable ds s) (hbody : body.attached = []) :
      Reachable ds ⟨s.host.install name (.custom tag trace body), s.world⟩
  /-- One of its operations was called, and the call has ended somehow. -/
  | called (ds : List Definition) (s : Scene) (depth : Nat) (name : String) (args : Args)
      (hs : Reachable ds s) (hargs : args.attached = []) :
      Reachable ds (finalState (callWithin depth name args s))
  /-- The world has changed in between. -/
  | elsewhere (ds : List Definition) (s : Scene) (w : World) (hs : Reachable ds s)
      (hw : w.Decent) : Reachable ds ⟨s.host, w⟩
  /-- It is a nested host that a block has made for a field of one of the definitions, in any
      scene, also in the middle of a call. -/
  | nested (ds : List Definition) (s around t : Scene) (outer d : Definition) (v : World)
      (spec : FieldSpec) (sub : SubSchema) (depth : Nat) (block : Block) (child : Host)
      (hs : Reachable ds s) (houter : outer ∈ ds) (hspec : spec ∈ outer.fields)
      (hsub : spec.kind.schema? = some sub) (hblock : attachedByAll block.steps = [])
      (hw : around.world.Decent) (hd : sub.definition around.world = .ok d v)
      (hchild : sub.evaluate (callWithin depth) block around = .ok child t) :
      Reachable [d] ⟨child, t.world⟩

theorem compatible_flatMap (ds : List Definition) (hds : ∀ d ∈ ds, d.SelfContained)
    (hdistinct : ds.Pairwise fun d e => ∀ spec ∈ d.fields, ∀ other ∈ e.fields,
      spec.name ≠ other.name) : Compatible (ds.flatMap Definition.fields) := by
  refine ⟨fun spec hspec => ?_, ?_⟩
  · obtain ⟨d, hd, hmem⟩ := List.mem_flatMap.mp hspec
    exact (compatible_fields d (hds d hd)).selfContained spec hmem
  · induction ds with
    | nil => exact fun _ hspec => absurd hspec List.not_mem_nil
    | cons d rest ih =>
        obtain ⟨hhead, hrest⟩ := List.pairwise_cons.mp hdistinct
        have ih := ih (fun e he => hds e (List.mem_cons_of_mem d he)) hrest
        have hacross : ∀ spec ∈ d.fields, ∀ other ∈ rest.flatMap Definition.fields,
            spec.name ≠ other.name := by
          intro spec hspec other hother
          obtain ⟨e, he, hmem⟩ := List.mem_flatMap.mp hother
          exact hhead e he spec hspec other hmem
        intro spec hspec other hother heq
        rw [List.flatMap_cons, List.mem_append] at hspec hother
        -- Two fields of one name are both of the first definition or both of the others.
        rcases hspec with hspec | hspec <;> rcases hother with hother | hother
        · exact (compatible_fields d (hds d List.mem_cons_self)).distinct spec hspec other hother
            heq
        · exact absurd heq (hacross spec hspec other hother)
        · exact absurd heq.symm (hacross other hother spec hspec)
        · exact ih spec hspec other hother heq

/-- A nested host satisfies the condition of the fields of its own definition. -/
theorem typed_child (spec : FieldSpec) (hspec : spec.SelfContained) (sub : SubSchema)
    (hsub : spec.kind.schema? = some sub) (depth : Nat) (block : Block)
    (hblock : attachedByAll block.steps = []) (s t : Scene) (hw : s.world.Decent) (d : Definition)
    (v : World) (hd : sub.definition s.world = .ok d v) (child : Host)
    (hchild : sub.evaluate (callWithin depth) block s = .ok child t) :
    child.Typed d.fields ∧ t.world.Decent ∧ d.SelfContained := by
  have hscript := hspec.script spec sub hsub
  have hmade := definition_decent sub hscript s.world hw
  have hrun := evaluate_keeps typed_tolerates (callWithin depth)
    (callWithin_keeps typed_sound depth) sub (typed_nests sub hscript) block
    (fun name hname => by rw [hblock] at hname; exact List.not_mem_nil hname) s hw
  have hdefinition := (ends_value _ d v hmade hd).2
  obtain ⟨-, hworld, e, u, he, -, hhost⟩ := ends_value _ child t hrun hchild
  -- The definition of the schema is the given one, as there is only one result.
  rw [hd] at he
  obtain ⟨rfl, rfl⟩ := EStateM.Result.ok.inj he
  exact ⟨hhost d.fields (typed_instantiate d hdefinition), hworld, hdefinition⟩

/-- Wherever a host can be found, its slots are in order, and so are the definitions around it. -/
theorem reachable_typed (ds : List Definition) (s : Scene) (h : Reachable ds s) :
    s.host.Typed (ds.flatMap Definition.fields) ∧ s.world.Decent ∧
      ∀ d ∈ ds, d.SelfContained := by
  induction h with
  | new ds w hds hdistinct hw =>
      exact ⟨typed_empty _ (compatible_flatMap ds hds hdistinct), hw, hds⟩
  | attached ds s d inspectable hs hd ih =>
      obtain ⟨hhost, hworld, hds⟩ := ih
      refine ⟨typed_attachWith _ s.host d inspectable ⟨hds d hd, ?_⟩ hhost, hworld, hds⟩
      exact fun spec hspec => List.mem_flatMap.mpr ⟨d, hd, hspec⟩
  | installed ds s name tag trace body hs hbody ih =>
      obtain ⟨hhost, hworld, hds⟩ := ih
      refine ⟨typed_install _ s.host name tag trace body ?_ hhost, hworld, hds⟩
      rw [hbody]
      exact fun _ hd => List.not_mem_nil hd
  | called ds s depth name args hs hargs ih =>
      obtain ⟨hhost, hworld, hds⟩ := ih
      have hkept := callWithin_keeps typed_sound depth (ds.flatMap Definition.fields) name args
        fun d hd => by rw [hargs] at hd; exact List.not_mem_nil hd
      have hafter := keeps_finalState typed _ _ hkept s ⟨hhost, hworld⟩
      exact ⟨hafter.host, hafter.world, hds⟩
  | elsewhere ds s w hs hw ih => exact ⟨ih.1, hw, ih.2.2⟩
  | nested ds s around t outer d v spec sub depth block child hs houter hspec hsub hblock hw hd
      hchild ih =>
      -- The host around is of no concern, only that the schema is one of its fields.
      have hown := fields_selfContained outer (ih.2.2 outer houter) spec hspec
      obtain ⟨hhost, hafter, hdefinition⟩ :=
        typed_child spec hown sub hsub depth block hblock around t hw d v hd child hchild
      refine ⟨?_, hafter, fun e he => ?_⟩
      · rw [List.flatMap_singleton]
        exact hhost
      · rw [List.mem_singleton.mp he]
        exact hdefinition

/-- Wherever a host can be found, a value stored for a field satisfies the declaration of the
    field. -/
theorem stored_admits (ds : List Definition) (s : Scene) (h : Reachable ds s) (d : Definition)
    (hd : d ∈ ds) (spec : FieldSpec) (hspec : spec ∈ d.fields) (v : Value)
    (hv : s.host.stored? spec.name = some v) (hosts : NameMap Host) : spec.Admits hosts v :=
  (reachable_typed ds s h).1.admits spec (List.mem_flatMap.mpr ⟨d, hd, hspec⟩) v hv hosts

/-- Short tags; the callback calls an accessor of another field with what that field refuses. -/
def shortTags : Script :=
  [.array "tags" (some (.custom (.maxBytes 3))) none
      (some (.call "size" [.literal .nil] false [] none)),
    .scalar .string "size" none none]

/-- The definition that the script makes. -/
def shortTagsSchema : Definition :=
  (World.defineUpToFault (.ofSuffix "s") {} shortTags .empty).1

/-- A new host of the schema, after it was given a tag. -/
def taggedScene : Scene :=
  finalState (callWithin 2 "tag" (.ofValues [.string "red"]) ⟨shortTagsSchema.instantiate, .empty⟩)

theorem shortTagsSchema_selfContained : shortTagsSchema.SelfContained := by
  refine ⟨_, _, _, .empty, ⟨rfl, fun p hp => ?_⟩, rfl⟩
  obtain rfl := List.mem_singleton.mp hp
  exact fun _ _ _ => rfl

theorem stored_admits_taggedScene :
    Reachable [shortTagsSchema] taggedScene ∧
      ∃ spec ∈ shortTagsSchema.fields,
        taggedScene.host.stored? spec.name = some (.list [.string "red"]) ∧
          spec.Admits [] (.list [.string "red"]) := by
  have hnew : Reachable [shortTagsSchema] ⟨.empty, .empty⟩ := by
    refine .new _ .empty (fun d hd => ?_) (List.pairwise_singleton _ _) stocks_empty
    rw [List.mem_singleton.mp hd]
    exact shortTagsSchema_selfContained
  have hcalled : Reachable [shortTagsSchema] taggedScene :=
    .called _ _ 2 "tag" (.ofValues [.string "red"])
      (.attached _ _ shortTagsSchema false hnew List.mem_cons_self) rfl
  exact ⟨hcalled, _, List.mem_cons_self, rfl,
    stored_admits _ _ hcalled _ List.mem_cons_self _ List.mem_cons_self _ rfl []⟩

end FieldSchema
