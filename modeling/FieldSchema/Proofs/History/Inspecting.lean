import FieldSchema.Proofs.History.Lifetime
import FieldSchema.Proofs.Sharing.Timeline
import FieldSchema.Proofs.Value.Rendering

/-!
# When a Host Shows Itself

What inspecting a host comes to.

A definition that is attached as inspectable puts the operation that renders
the host on it, and then its own operations. All of them are entries of one
table, and nothing keeps a script from declaring a field with the name of the
operation that renders, or one whose singular form is that name. The accessor
of such a field is what inspecting calls. It reads the field, or asks for a
key, and what it comes to is never the text of the host: the text of a stored
value is shorter than that of the host around it, and the text of no value at
all begins with another character.

If no field has the name, nothing that happens later can take the operation
away, short of another definition or a custom operation under that name. So
whether inspecting shows the host is decided by the script alone, at the moment
of attaching, and not by anything that is called or stored afterwards.

## Main definitions

* `Change.KeepsLast`: The definition is still the last one, and the name is left to it.
* `Definition.inspection`: What a definition that is attached puts under the name.

## Theorems

* `World.defineUpToFault_inspectable`: A definition is inspectable if the options say so.
* `inspection_cases`: It is an accessor of its own or the operation that renders.
* `leads_inspect`: What there is under the name is decided when the definition is attached.
* `renderedText_stored_ne`: What is read from a slot is not the text of the host.
* `inspectWithin_of_inspect`, `inspectWithin_of_accessor`: What inspecting comes to.
* `inspect_shows_host_iff`: Inspecting shows the host unless a field has the name.
-/

namespace FieldSchema

/-- A script changes nothing about the options. -/
theorem World.defineUpToFault_inspectable (inflector : Inflector) (options : Options)
    (script : Script) (w : World) :
    (World.defineUpToFault inflector options script w).1.inspectable = options.inspectable := by
  have hkept : (finalState (Draft.runScript script (w.draft inflector options))).generator.options =
      options := by
    refine Draft.runScript_keeps (fun g => g.options = options) script _ ?_ rfl
    intro line _ act hact g hg
    rcases Generator.declaration_cases line act g hact with hsame | ⟨spec, nextCell, -, hmore⟩
    · rw [hsame]
      exact hg
    · rw [hmore]
      exact hg
  rw [World.defineUpToFault_eq]
  exact congrArg Options.inspectable hkept

/-- The change attaches no other definition, and puts no custom operation under the name of the one
    that renders a host. -/
def Change.KeepsLast (d : Definition) : Change → Prop
  | .wrote _ _ _ => True
  | .defined name _ _ _ => name ≠ Definition.inspectName
  | .attached other _ => other = d

theorem keepsLast_of_writes (d : Definition) (changes : List Change)
    (h : changes.all Change.isWrite = true) : ∀ change ∈ changes, change.KeepsLast d := by
  intro change hmem
  obtain ⟨spec, args, write, rfl⟩ := wrote_of_isWrite changes h change hmem
  exact trivial

/-- What there is under the name after the definition was attached as inspectable: an accessor of
    its own, or else the operation that renders the host. -/
def Definition.inspection (d : Definition) : Operation :=
  (NameMap.get? d.operations Definition.inspectName).getD .inspect

section

variable (d : Definition)

theorem inspection_cases :
    (Definition.inspectName, d.inspection) ∈ d.operations ∨
      (Definition.inspectName ∉ d.operationNames ∧ d.inspection = .inspect) := by
  unfold Definition.inspection
  cases hown : NameMap.get? d.operations Definition.inspectName with
  | some op => exact Or.inl (NameMap.mem_of_get? d.operations _ op hown)
  | none =>
      have hfree : NameMap.contains d.operations Definition.inspectName = false := by
        rw [NameMap.contains, hown, Option.isSome_none]
      exact Or.inr ⟨NameMap.not_mem_names d.operations _ hfree, rfl⟩

/-- Attached as inspectable or once more, a definition puts the same under the name. -/
theorem attachWith_inspect (hnodup : d.operationNames.Nodup) (inspectable : Bool) (h : Host)
    (hh : inspectable = true ∨ h.operation? Definition.inspectName = some d.inspection) :
    (d.attachWith inspectable h).operation? Definition.inspectName = some d.inspection := by
  rcases inspection_cases d with hown | ⟨hfree, hinspect⟩
  · exact attachWith_own d inspectable h hnodup _ d.inspection hown
  · rw [attachWith_other d inspectable h _ hfree]
    -- Otherwise the built-in operation is put there, or what stood there stays.
    rcases hh with rfl | hbefore
    · rw [hinspect]
      exact if_pos ⟨rfl, rfl⟩
    · rw [hbefore, hinspect]
      exact ite_self _

/-- What there is under the name stays there. -/
theorem leads_inspect (hnodup : d.operationNames.Nodup) (changes : List Change) (h h' : Host)
    (hleads : Leads h changes h') (hlast : ∀ change ∈ changes, change.KeepsLast d)
    (hh : h.operation? Definition.inspectName = some d.inspection) :
    h'.operation? Definition.inspectName = some d.inspection := by
  induction hleads with
  | nil h => exact hh
  | cons change changes h h' hpossible hrest ih =>
      obtain ⟨hchange, hchanges⟩ := List.forall_mem_cons.mp hlast
      refine ih hchanges ?_
      -- A write leaves the table alone, and a line that would replace the entry is excluded.
      cases change with
      | wrote spec args write => exact hh
      | defined name tag trace body =>
          rw [Change.apply, install_operation?, if_neg (Ne.symm hchange)]
          exact hh
      | attached other inspectable =>
          obtain rfl : other = d := hchange
          exact attachWith_inspect other hnodup inspectable h (Or.inr hh)

end

/-- What inspecting makes of a value is not longer than the text of the value. -/
theorem renderedText_length (v : Value) : (renderedText v).toList.length ≤ v.render.length := by
  cases v with
  | string text => exact quoted_length text.toList
  | _ => exact Nat.le_of_eq (congrArg List.length String.toList_ofList)

/-- What is read from a slot is not shown as the host is: it is shorter if there is anything, and
    begins with another character if there is not. -/
theorem renderedText_stored_ne (h : Host) (name : String) :
    renderedText (h.stored name) ≠ h.toText := by
  intro heq
  have hlist : (renderedText (h.stored name)).toList = h.render := by
    rw [heq]
    exact String.toList_ofList
  unfold Host.stored at hlist
  -- An empty slot reads as nil, so there is no length to compare in that case.
  cases hfound : h.stored? name with
  | none =>
      rw [hfound, host_render] at hlist
      have hhead : some 'n' = some '#' := congrArg List.head? hlist
      exact absurd hhead (by decide)
  | some v =>
      rw [stored?_eq] at hfound
      have hlt := render_stored_lt h (name, v) (NameMap.mem_of_get? _ name v hfound)
      have hle := renderedText_length v
      rw [stored?_eq, hfound, Option.getD_some] at hlist
      rw [hlist] at hle
      exact absurd hlt (Nat.not_lt.mpr hle)

/-- Without input an accessor reads the slot of its field, or asks for a key. -/
theorem accessor_reads (spec : FieldSpec) (op : Operation) (hop : spec.Accessor op)
    (dispatch : Dispatch) (s : Scene) :
    op.invoke dispatch .none s = .ok (s.host.stored spec.name) s ∨
      ∃ fault, op.invoke dispatch .none s = .error (.fault fault) s := by
  cases hop with
  | scalar constraint hkind => exact Or.inl rfl
  | arrayPlural singular item schema itemCallback hkind =>
      simp only [Operation.invoke, hkind]
      exact Or.inl rfl
  | arrayItem singular item schema itemCallback hkind =>
      simp only [Operation.invoke, hkind]
      exact Or.inl rfl
  | hashPlural singular key value schema hkind => exact Or.inl rfl
  -- A hash entry is the one accessor that cannot be asked without arguments.
  | hashEntry singular key value schema hkind =>
      simp only [Operation.invoke, hkind]
      exact Or.inr ⟨.validation (.missingKey singular), rfl⟩

section

variable (depth : Nat) (s : Scene)

/-- The operation that renders the host comes to its text and changes nothing. -/
theorem inspectWithin_of_inspect (h : s.host.operation? Definition.inspectName = some .inspect) :
    inspectWithin (depth + 1) s = .ok s.host.toText s := by
  have hcall : callWithin (depth + 1) Definition.inspectName .none s =
      .ok (.string s.host.toText) s := by
    rw [callWithin_of_operation depth _ .none s _ h]
    rfl
  rw [inspectWithin_eq, bind_of_ok _ _ s s _ hcall]
  rfl

/-- An accessor under that name never comes to the text of the host. -/
theorem inspectWithin_of_accessor (spec : FieldSpec) (op : Operation) (hop : spec.Accessor op)
    (h : s.host.operation? Definition.inspectName = some op) :
    inspectWithin (depth + 1) s ≠ .ok s.host.toText s := by
  rw [inspectWithin_eq]
  rcases accessor_reads spec op hop (callWithin depth) s with hread | ⟨fault, hfault⟩
  · rw [← callWithin_of_operation depth _ .none s op h] at hread
    rw [bind_of_ok _ _ s s _ hread]
    -- A host never renders as one of the values it stores.
    intro heq
    exact renderedText_stored_ne s.host spec.name (EStateM.Result.ok.inj heq).1
  · rw [← callWithin_of_operation depth _ .none s op h] at hfault
    rw [bind_of_error _ _ s s _ hfault]
    exact fun heq => nomatch heq

end

/-- On a host to which a definition was attached as inspectable, be it so by itself or by the
    options of its script, and no other definition since, nor a custom operation under the name of
    the one that renders: inspecting comes to the text of the host and changes nothing if and only
    if no field took that name, as its own or as its singular form. The text shows every stored
    value after its name, in the order of the names, and so does the text of every host within. -/
theorem inspect_shows_host_iff (inflector : Inflector) (options : Options) (script : Script)
    (w : World) (d : Definition)
    (hd : d = (World.defineUpToFault inflector options script w).1) (inspectable : Bool)
    (hinspectable : inspectable = true ∨
      (inspectable = d.inspectable ∧ options.inspectable = true))
    (before after : List Change) (s : Scene)
    (hlives : Lives Value.Orderly (before ++ .attached d inspectable :: after) s)
    (hlast : ∀ change ∈ after, change.KeepsLast d) :
    (∀ depth, inspectWithin (depth + 1) s = .ok s.host.toText s ↔
      Definition.inspectName ∉ d.operationNames) ∧
      ∀ inner, (Value.nested s.host).Contains inner → inner.ShownInOrder := by
  have hshown : inspectable = true := by
    rcases hinspectable with h | ⟨h, hoptions⟩
    · exact h
    · rw [h, hd, World.defineUpToFault_inspectable, hoptions]
  have hgenuine : d.Genuine := ⟨inflector, options, script, w, hd⟩
  have hnodup := hgenuine.inStep.1.nodup
  obtain ⟨h, -, hafter⟩ := leads_split before _ .empty s.host (lives_leads _ s hlives)
  obtain ⟨-, hafter⟩ := leads_cons _ after h s.host hafter
  have hname : s.host.operation? Definition.inspectName = some d.inspection :=
    leads_inspect d hnodup after _ s.host hafter hlast
      (attachWith_inspect d hnodup inspectable h (Or.inl hshown))
  have horderly := (lives_meets orderly_heritable _ s hlives).host
  refine ⟨fun depth => ?_, shown_of_orderly (.nested s.host) horderly⟩
  -- What was put under the name is still there, and it is one of two things.
  rcases inspection_cases d with hown | ⟨hfree, hinspect⟩
  · obtain ⟨spec, -, hop⟩ := hgenuine.accessor d _ _ hown
    refine ⟨fun hshows => ?_, fun hfree => absurd (List.mem_map_of_mem hown) hfree⟩
    exact absurd hshows (inspectWithin_of_accessor depth s spec d.inspection hop hname)
  · rw [hinspect] at hname
    exact ⟨fun _ => hfree, fun _ => inspectWithin_of_inspect depth s hname⟩

/-- Posts with a label, as a script with nested fields declares them. -/
def labelledPosts : Script :=
  [.array "posts" none (some [.scalar .string "label" none none]) none,
    .scalar .any "count" none none]

/-- A host with a post that was made by a block, and a count. -/
theorem inspect_shows_host_iff_labelledPosts :
    let d := (World.defineUpToFault (.ofSuffix "s") { inspectable := true } labelledPosts .empty).1
    let life := lifeOf d d.inspectable 3 .empty
      [("post", ⟨[], some ⟨[.call "label" [.literal (.string "eins")] false [] none], []⟩⟩),
        ("count", .ofValues [.boolean true])]
    Lives Value.Orderly life.1 life.2 ∧ Definition.inspectName ∉ d.operationNames ∧
      life.2.host.toText = "#<Host count=true posts=[#<Host label=\"eins\">]>" ∧
      (∀ depth, inspectWithin (depth + 1) life.2 = .ok life.2.host.toText life.2) ∧
      ∀ inner, (Value.nested life.2.host).Contains inner → inner.ShownInOrder := by
  intro d life
  have hlives : Lives Value.Orderly life.1 life.2 := by
    refine lifeOf_lives d d.inspectable 3 .empty (fun _ _ h => nomatch h) _ ?_
    refine List.forall_mem_cons.mpr ⟨fun _ h => absurd h List.not_mem_nil, ?_⟩
    refine List.forall_mem_singleton.mpr (List.forall_mem_singleton.mpr ?_)
    exact orderly_heritable.plain _ rfl rfl rfl
  have hfree : Definition.inspectName ∉ d.operationNames := by decide +kernel
  have hmain := inspect_shows_host_iff (.ofSuffix "s") { inspectable := true } labelledPosts .empty
    d rfl d.inspectable (Or.inr ⟨rfl, rfl⟩) [] life.1.tail life.2 hlives
    (keepsLast_of_writes d _ (by decide +kernel))
  exact ⟨hlives, hfree, by decide +kernel, fun depth => (hmain.1 depth).mpr hfree, hmain.2⟩

/-- A script that declares a field with the name of the operation that renders. -/
def inspectField : Script :=
  [.scalar .any "inspect" none none]

/-- The new host of this definition is inspectable and is shown as nil. -/
theorem inspect_hides_host :
    let d := (World.defineUpToFault (.ofSuffix "s") { inspectable := true } inspectField .empty).1
    Lives Value.Orderly [.attached d true] ⟨d.instantiate, .empty⟩ ∧
      d.inspectable = true ∧ d.instantiate.toText = "#<Host>" ∧
      ∀ depth, inspectWithin (depth + 1) ⟨d.instantiate, .empty⟩ =
        .ok "nil" ⟨d.instantiate, .empty⟩ := by
  intro d
  exact ⟨.attached [] _ d true (.new .empty fun _ _ h => nomatch h), rfl, by decide +kernel,
    fun _ => rfl⟩

end FieldSchema
