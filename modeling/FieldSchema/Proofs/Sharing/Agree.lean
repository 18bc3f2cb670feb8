import Mathlib.Order.Defs.PartialOrder
import FieldSchema.Proofs.Sharing.Made
import FieldSchema.Proofs.Sharing.Unseen
import FieldSchema.Run

/-!
# Runs That Agree

Two runs of the same code, on hosts that differ in cells and policies alone.

The runs are compared in scenes that are alike. The hosts at hand are the same
once they are recast, and so are all hosts and definitions under names, and
each world is coherent with a ledger of its own. The two ledgers have nothing
to do with each other: one run may find a definition in a cell where the other
runs a script, and take many more cells in the course of it.

What a nested schema makes is alike in both runs if its script is blind for the
policies. The scripts in play are those of the nested schemas for which cells
were given out, so this is asked of the first ledger; the same nested schemas
in the second have the same scripts.

A run can make both ledgers longer, and it leaves alone what is under names.
What was alike before it must be alike after it as well, since values and hosts are kept while other code runs. So a
relation between values is indexed by a pair of ledgers and carries over to
longer ones, and `Agree` speaks of all pairs that extend a given one. Read in
this way, it has the rules that one expects, one for sequences and one for
each thing that a run can do.

## Main definitions

* `Ledgers`: A ledger for each of two runs, and the names that their worlds have.
* `Value.Alike`, `Host.Alike`, `World.Alike`, `Scene.Alike`: The same up to cells and policies.
* `Agree`: Two runs end alike, wherever they begin alike.

## Theorems

* `agree_bind`: Sequences agree if their parts do.
* `agree_look`, `agree_modifyHost`, `agree_recover`: Each thing that a run can do agrees with
  itself.
-/

namespace FieldSchema

/-- What a world has under names. -/
structure Names where
  hosts : NameMap Host
  definitions : NameMap Definition

/-- The hosts and definitions that the world has under names. -/
def World.names (w : World) : Names := ⟨w.hosts, w.definitions⟩

/-- A ledger for each of two runs, and what is under names in their worlds. -/
structure Ledgers where
  left : Ledger
  right : Ledger
  leftNames : Names
  rightNames : Names

namespace Ledgers

/-- Both ledgers have grown at their ends, and the names are the same. -/
structure Extends (k l : Ledgers) : Prop where
  left : k.left <+: l.left
  right : k.right <+: l.right
  leftNames : k.leftNames = l.leftNames
  rightNames : k.rightNames = l.rightNames

instance : Preorder Ledgers where
  le := Extends
  le_refl k := ⟨List.prefix_refl k.left, List.prefix_refl k.right, rfl, rfl⟩
  le_trans _ _ _ h h' := ⟨h.left.trans h'.left, h.right.trans h'.right,
    h.leftNames.trans h'.leftNames, h.rightNames.trans h'.rightNames⟩

end Ledgers

/-- Related options are both empty, or contain related things. -/
theorem optionRel_cases {α β : Type} {r : α → β → Prop} (a : Option α) (b : Option β)
    (h : Option.Rel r a b) : (a = none ∧ b = none) ∨ ∃ x y, a = some x ∧ b = some y ∧ r x y := by
  cases h with
  | none => exact Or.inl ⟨rfl, rfl⟩
  | some hxy => exact Or.inr ⟨_, _, rfl, rfl, hxy⟩

section

variable (f : SubSchemaPolicy → SubSchemaPolicy)

/-- The values are the same up to cells and policies, and each is confined to its ledger. -/
structure Value.Alike (k : Ledgers) (v w : Value) : Prop where
  recast : v.recast f = w.recast f
  left : v.Confined k.left.Records
  right : w.Confined k.right.Records

/-- The values in the lists are alike, one by one. -/
def ValuesAlike (k : Ledgers) (vs ws : List Value) : Prop :=
  (Value.list vs).Alike f k (.list ws)

/-- The hosts are alike. -/
def Host.Alike (k : Ledgers) (h h' : Host) : Prop :=
  (Value.nested h).Alike f k (.nested h')

/-- The named hosts and definitions are alike, each world is coherent with its ledger, and the
    scripts of nested schemas are blind for the policies. -/
structure World.Alike (k : Ledgers) (w w' : World) : Prop where
  left : w.Coherent k.left
  right : w'.Coherent k.right
  blind : ∀ sub ∈ k.left, Script.Blind f sub.script
  leftNames : w.names = k.leftNames
  rightNames : w'.names = k.rightNames
  hosts : recastHosts f w.hosts = recastHosts f w'.hosts
  definitions : NameMap.mapValues (Definition.recast f) w.definitions =
    NameMap.mapValues (Definition.recast f) w'.definitions

/-- The hosts at hand are alike, and so are the worlds around them. -/
structure Scene.Alike (k : Ledgers) (s s' : Scene) : Prop where
  host : s.host.Alike f k s'.host
  world : s.world.Alike f k s'.world

/-- The blocks have the same steps, and have captured like values. -/
structure Block.Alike (k : Ledgers) (block block' : Block) : Prop where
  steps : block.steps = block'.steps
  captured : ValuesAlike f k block.captured block'.captured

/-- The inputs are alike. -/
structure Args.Alike (k : Ledgers) (args args' : Args) : Prop where
  values : ValuesAlike f k args.values args'.values
  block : Option.Rel (Block.Alike f k) args.block args'.block

namespace Value

theorem Alike.mono (k l : Ledgers) (hkl : k ≤ l) (v w : Value) (h : v.Alike f k w) :
    v.Alike f l w where
  recast := h.recast
  left := Confined.mono _ v _ h.left (Ledger.Records.mono k.left l.left hkl.left)
  right := Confined.mono _ w _ h.right (Ledger.Records.mono k.right l.right hkl.right)

/-- A value that contains no others is alike to itself. -/
theorem alike_of_plain (k : Ledgers) (v : Value) (hlist : v.isList = false)
    (hmap : v.isMap = false) (hnested : v.isNested = false) : v.Alike f k v where
  recast := rfl
  left := confined_of_plain _ v hlist hmap hnested
  right := confined_of_plain _ v hlist hmap hnested

theorem alike_nil (k : Ledgers) : nil.Alike f k nil :=
  alike_of_plain f k nil rfl rfl rfl

theorem alike_string (k : Ledgers) (text : String) : (string text).Alike f k (string text) :=
  alike_of_plain f k (string text) rfl rfl rfl

theorem alike_boolean (k : Ledgers) (b : Bool) : (boolean b).Alike f k (boolean b) :=
  alike_of_plain f k (boolean b) rfl rfl rfl

end Value

namespace ValuesAlike

variable (k : Ledgers)

theorem map_recast (vs ws : List Value) (h : ValuesAlike f k vs ws) :
    vs.map (Value.recast f) = ws.map (Value.recast f) := by
  have hrecast := h.recast
  rw [recast_list, recast_list] at hrecast
  exact Value.list.inj hrecast

theorem mono (l : Ledgers) (hkl : k ≤ l) (vs ws : List Value) (h : ValuesAlike f k vs ws) :
    ValuesAlike f l vs ws :=
  Value.Alike.mono f k l hkl _ _ h

theorem nil : ValuesAlike f k [] [] where
  recast := rfl
  left := (Value.confined_list_iff _ []).mpr fun _ h => absurd h List.not_mem_nil
  right := (Value.confined_list_iff _ []).mpr fun _ h => absurd h List.not_mem_nil

theorem cons (v w : Value) (vs ws : List Value) (hhead : v.Alike f k w)
    (hrest : ValuesAlike f k vs ws) : ValuesAlike f k (v :: vs) (w :: ws) where
  recast := by
    rw [recast_list, recast_list, List.map_cons, List.map_cons, hhead.recast,
      map_recast f k vs ws hrest]
  left := (Value.confined_list_iff _ _).mpr (List.forall_mem_cons.mpr
    ⟨hhead.left, (Value.confined_list_iff _ vs).mp hrest.left⟩)
  right := (Value.confined_list_iff _ _).mpr (List.forall_mem_cons.mpr
    ⟨hhead.right, (Value.confined_list_iff _ ws).mp hrest.right⟩)

theorem singleton (v w : Value) (h : v.Alike f k w) : ValuesAlike f k [v] [w] :=
  cons f k v w [] [] h (nil f k)

theorem append (vs ws xs ys : List Value) (h : ValuesAlike f k vs ws)
    (h' : ValuesAlike f k xs ys) : ValuesAlike f k (vs ++ xs) (ws ++ ys) where
  recast := by
    rw [recast_list, recast_list, List.map_append, List.map_append, map_recast f k vs ws h,
      map_recast f k xs ys h']
  left := Value.confined_append _ vs xs h.left h'.left
  right := Value.confined_append _ ws ys h.right h'.right

/-- Lists of like values are both empty, or have like heads and rests. -/
theorem cases (vs ws : List Value) (h : ValuesAlike f k vs ws) :
    (vs = [] ∧ ws = []) ∨ ∃ v vs' w ws', vs = v :: vs' ∧ ws = w :: ws' ∧ v.Alike f k w ∧
      ValuesAlike f k vs' ws' := by
  have hmap := map_recast f k vs ws h
  have hleft := (Value.confined_list_iff _ vs).mp h.left
  have hright := (Value.confined_list_iff _ ws).mp h.right
  cases vs with
  | nil =>
      cases ws with
      | nil => exact Or.inl ⟨rfl, rfl⟩
      | cons w ws => exact nomatch hmap
  | cons v vs =>
      cases ws with
      | nil => exact nomatch hmap
      | cons w ws =>
          -- Both are not empty; the conditions on the lists are those on heads and rests.
          obtain ⟨hv, hvs⟩ := List.forall_mem_cons.mp hleft
          obtain ⟨hw, hws⟩ := List.forall_mem_cons.mp hright
          rw [List.map_cons, List.map_cons, List.cons.injEq] at hmap
          refine Or.inr ⟨v, vs, w, ws, rfl, rfl, ⟨hmap.1, hv, hw⟩, ?_, ?_, ?_⟩
          · rw [recast_list, recast_list, hmap.2]
          · exact (Value.confined_list_iff _ vs).mpr hvs
          · exact (Value.confined_list_iff _ ws).mpr hws

theorem length_eq (vs ws : List Value) (h : ValuesAlike f k vs ws) : vs.length = ws.length := by
  have hmap := congrArg List.length (map_recast f k vs ws h)
  rwa [List.length_map, List.length_map] at hmap

theorem getD (vs ws : List Value) (h : ValuesAlike f k vs ws) (i : Nat) :
    (vs.getD i .nil).Alike f k (ws.getD i .nil) where
  recast := by
    have hmap := congrArg (fun us => List.getD us i .nil) (map_recast f k vs ws h)
    have hgetD : ∀ us : List Value,
        (us.map (Value.recast f)).getD i .nil = (us.getD i .nil).recast f := by
      intro us
      rw [List.getD_eq_getElem?_getD, List.getD_eq_getElem?_getD, List.getElem?_map]
      cases us[i]? <;> rfl
    simp only [hgetD] at hmap
    exact hmap
  left := (confined_closed _).getD vs ((Value.confined_list_iff _ vs).mp h.left) i
  right := (confined_closed _).getD ws ((Value.confined_list_iff _ ws).mp h.right) i

end ValuesAlike

theorem Block.Alike.mono (k l : Ledgers) (hkl : k ≤ l) (block block' : Block)
    (h : block.Alike f k block') : block.Alike f l block' :=
  ⟨h.steps, ValuesAlike.mono f k l hkl _ _ h.captured⟩

/-- A block written in code is alike in both runs if it captures like values. -/
theorem Block.alike_written (k : Ledgers) (captured captured' : List Value)
    (h : ValuesAlike f k captured captured') (steps : Option (List Expr)) :
    Option.Rel (Block.Alike f k) (steps.map (Block.mk · captured))
      (steps.map (Block.mk · captured')) := by
  cases steps with
  | none => exact .none
  | some _ => exact .some ⟨rfl, h⟩

theorem Args.Alike.mono (k l : Ledgers) (hkl : k ≤ l) (args args' : Args)
    (h : args.Alike f k args') : args.Alike f l args' where
  values := ValuesAlike.mono f k l hkl _ _ h.values
  block := by
    rcases optionRel_cases _ _ h.block with ⟨hb, hb'⟩ | ⟨b, b', hb, hb', halike⟩
    · rw [hb, hb']
      exact .none
    · rw [hb, hb']
      exact .some (Block.Alike.mono f k l hkl b b' halike)

/-- Input that leads to nothing outside of the ledgers is alike to itself. -/
theorem Args.alike_self (k : Ledgers) (args : Args)
    (hleft : ∀ v ∈ args.given, v.Confined k.left.Records)
    (hright : ∀ v ∈ args.given, v.Confined k.right.Records) : args.Alike f k args := by
  obtain ⟨values, block⟩ := args
  obtain ⟨hvalues, hcaptured⟩ := List.forall_mem_append.mp hleft
  obtain ⟨hvalues', hcaptured'⟩ := List.forall_mem_append.mp hright
  refine ⟨⟨rfl, (Value.confined_list_iff _ _).mpr hvalues, (Value.confined_list_iff _ _).mpr hvalues'⟩,
    ?_⟩
  cases block with
  | none => exact .none
  | some block =>
      exact .some ⟨rfl, rfl, (Value.confined_list_iff _ _).mpr hcaptured,
        (Value.confined_list_iff _ _).mpr hcaptured'⟩

namespace Host

variable (k : Ledgers) (h h' : Host)

theorem Alike.eq (hh : h.Alike f k h') : h.recast f = h'.recast f := by
  have hrecast := hh.recast
  rw [recast_nested, recast_nested] at hrecast
  exact Value.nested.inj hrecast

theorem Alike.mk (heq : h.recast f = h'.recast f) (hleft : h.Confined k.left.Records)
    (hright : h'.Confined k.right.Records) : h.Alike f k h' :=
  ⟨congrArg Value.nested heq, hleft, hright⟩

/-- Like hosts have like values in their slots, or none both. -/
theorem Alike.stored? (hh : h.Alike f k h') (name : String) :
    Option.Rel (Value.Alike f k) (h.stored? name) (h'.stored? name) := by
  have heq := recast_stored? f h name
  rw [Alike.eq f k h h' hh, recast_stored?] at heq
  -- Recasting changes what a slot holds, but not whether it holds anything.
  cases hv : h.stored? name with
  | none =>
      rw [hv, Option.map_none, Option.map_eq_none_iff] at heq
      rw [heq]
      exact .none
  | some v =>
      rw [hv, Option.map_some, Option.map_eq_some_iff] at heq
      obtain ⟨w, hw, hrecast⟩ := heq
      rw [hw]
      exact .some ⟨hrecast.symm, confined_stored? _ h hh.left name v hv,
        confined_stored? _ h' hh.right name w hw⟩

theorem Alike.stored (hh : h.Alike f k h') (name : String) :
    (h.stored name).Alike f k (h'.stored name) := by
  unfold Host.stored
  rcases optionRel_cases _ _ (Alike.stored? f k h h' hh name) with
    ⟨hv, hw⟩ | ⟨v, w, hv, hw, hvw⟩
  · rw [hv, hw]
    exact Value.alike_nil f k
  · rw [hv, hw]
    exact hvw

theorem Alike.write (hh : h.Alike f k h') (name : String) (v w : Value) (hvw : v.Alike f k w) :
    (h.write name v).Alike f k (h'.write name w) := by
  refine Alike.mk f k _ _ ?_ ?_ ?_
  · rw [recast_write, recast_write, Alike.eq f k h h' hh, hvw.recast]
  · exact confined_write _ h hh.left name v hvw.left
  · exact confined_write _ h' hh.right name w hvw.right

theorem Alike.installCustom (hh : h.Alike f k h') (name tag : String) (trace : Bool)
    (body : Expr) :
    (h.install name (.custom tag trace body)).Alike f k
      (h'.install name (.custom tag trace body)) := by
  refine Alike.mk f k _ _ ?_ ?_ ?_
  · rw [recast_install, recast_install, Alike.eq f k h h' hh]
  · exact confined_install _ h hh.left name _ (Operation.confined_custom _ tag trace body)
  · exact confined_install _ h' hh.right name _ (Operation.confined_custom _ tag trace body)

theorem Alike.attachTo (hh : h.Alike f k h') (d d' : Definition)
    (hd : d.recast f = d'.recast f) (hleft : d.Confined k.left.Records)
    (hright : d'.Confined k.right.Records) :
    (d.attachTo h).Alike f k (d'.attachTo h') := by
  refine Alike.mk f k _ _ ?_ ?_ ?_
  · rw [recast_attachTo, recast_attachTo, Alike.eq f k h h' hh, hd]
  · exact confined_attachWith _ d hleft d.inspectable h hh.left
  · exact confined_attachWith _ d' hright d'.inspectable h' hh.right

theorem Alike.toText (hh : h.Alike f k h') : h.toText = h'.toText := by
  rw [← recast_toText f h, Alike.eq f k h h' hh, recast_toText]

theorem Alike.respondsTo (hh : h.Alike f k h') (name : String) :
    h.respondsTo name = h'.respondsTo name := by
  rw [← recast_respondsTo f h, Alike.eq f k h h' hh, recast_respondsTo]

end Host

/-- The notes of checks need not be the same. -/
theorem World.Alike.noteAll (k : Ledgers) (w w' : World) (notes notes' : List Note)
    (h : w.Alike f k w') : (w.noteAll notes).Alike f k (w'.noteAll notes') := by
  have hleft : ∀ v : World, v.Alike f k w' → (v.noteAll notes).Alike f k w' := fun v hv =>
    noteAll_keeps (W := fun v => v.Alike f k w') (fun v event hv =>
      ⟨hv.left.note k.left v event, hv.right, hv.blind, hv.leftNames, hv.rightNames, hv.hosts,
        hv.definitions⟩) notes v hv
  exact noteAll_keeps (W := fun v' => (w.noteAll notes).Alike f k v') (fun v' event hv =>
    ⟨hv.left, hv.right.note k.right v' event, hv.blind, hv.leftNames, hv.rightNames, hv.hosts,
      hv.definitions⟩) notes' w' (hleft w h)

theorem Scene.Alike.withHost (k l : Ledgers) (hkl : k ≤ l) (s s' : Scene) (t t' : World)
    (h : s.Alike f k s') (ht : t.Alike f l t') :
    Scene.Alike f l ⟨s.host, t⟩ ⟨s'.host, t'⟩ :=
  ⟨Value.Alike.mono f k l hkl _ _ h.host, ht⟩

/-- Wherever two runs begin in like scenes, they end in like scenes, either both with values that
    are related or both in the same halt. -/
def Agree {α β : Type} (k : Ledgers) (Q : Ledgers → α → β → Prop) (act : Run α)
    (act' : Run β) : Prop :=
  ∀ l, k ≤ l → ∀ s s', s.Alike f l s' →
    EndTogether (fun a t b t' => ∃ m, l ≤ m ∧ t.Alike f m t' ∧ Q m a b)
      (fun t t' => ∃ m, l ≤ m ∧ t.Alike f m t') (act s) (act' s')

/-- Nothing is said of the values. -/
def Unrelated {α β : Type} (_ : Ledgers) (_ : α) (_ : β) : Prop := True

section

variable {α β α' β' : Type} (k : Ledgers)

theorem agree_mono (l : Ledgers) (hkl : k ≤ l) (Q : Ledgers → α → β → Prop) (act : Run α)
    (act' : Run β) (h : Agree f k Q act act') : Agree f l Q act act' :=
  fun m hlm => h m (hkl.trans hlm)

theorem agree_pure (Q : Ledgers → α → β → Prop) (a : α) (b : β) (h : ∀ l, k ≤ l → Q l a b) :
    Agree f k Q (pure a) (pure b) :=
  fun l hkl _ _ hs => ⟨l, le_refl l, hs, h l hkl⟩

theorem agree_fail (Q : Ledgers → α → β → Prop) (fault : Fault) :
    Agree f k Q (Run.fail fault) (Run.fail fault) :=
  fun l _ _ _ hs => ⟨rfl, l, le_refl l, hs⟩

theorem agree_bind (R : Ledgers → α → β → Prop) (Q : Ledgers → α' → β' → Prop) (act : Run α)
    (act' : Run β) (next : α → Run α') (next' : β → Run β') (h : Agree f k R act act')
    (hnext : ∀ l, k ≤ l → ∀ a b, R l a b → Agree f l Q (next a) (next' b)) :
    Agree f k Q (act >>= next) (act' >>= next') := by
  intro l hkl s s' hs
  refine endTogether_bind act act' next next' s s' (R := fun a t b t' =>
    ∃ m, l ≤ m ∧ t.Alike f m t' ∧ R m a b) (h l hkl s s' hs) ?_
  rintro a t b t' ⟨m, hlm, ht, hab⟩
  -- The ledgers reached by the first part stand below those of the second.
  refine endTogether_mono _ _ (hnext m (hkl.trans hlm) a b hab m (le_refl m) t t' ht) ?_ ?_
  · exact fun c u c' u' ⟨n, hmn, hu, hc⟩ => ⟨n, hlm.trans hmn, hu, hc⟩
  · exact fun u u' ⟨n, hmn, hu⟩ => ⟨n, hlm.trans hmn, hu⟩

/-- What only looks at the scene, in either run, agrees on what is seen in like scenes. -/
theorem agree_look (Q : Ledgers → α → β → Prop) (look : Scene → α) (look' : Scene → β)
    (h : ∀ l, k ≤ l → ∀ s s', s.Alike f l s' → Q l (look s) (look' s')) :
    Agree f k Q (do return look (← get)) (do return look' (← get)) :=
  fun l hkl s s' hs => ⟨l, le_refl l, hs, h l hkl s s' hs⟩

theorem agree_modifyHost (change change' : Host → Host)
    (h : ∀ l, k ≤ l → ∀ host host', host.Alike f l host' →
      (change host).Alike f l (change' host')) :
    Agree f k Unrelated (Run.modifyHost change) (Run.modifyHost change') :=
  fun l hkl s s' hs => ⟨l, le_refl l, ⟨h l hkl s.host s'.host hs.host, hs.world⟩, trivial⟩

theorem agree_modifyWorld (change change' : World → World)
    (h : ∀ l w w', w.Alike f l w' → (change w).Alike f l (change' w')) :
    Agree f k Unrelated (Run.modifyWorld change) (Run.modifyWorld change') :=
  fun l _ s s' hs => ⟨l, le_refl l, ⟨hs.host, h l s.world s'.world hs.world⟩, trivial⟩

/-- What the runs note need not be the same. -/
theorem agree_note (event event' : Event) :
    Agree f k Unrelated (Run.note event) (Run.note event') :=
  agree_modifyWorld f k _ _ fun l w w' h =>
    ⟨h.left.note l.left w event, h.right.note l.right w' event', h.blind, h.leftNames,
      h.rightNames, h.hosts, h.definitions⟩

/-- Going on after a fault, both runs go on after the same one. -/
theorem agree_recover (act act' : Run Value) (h : Agree f k (Value.Alike f) act act') :
    Agree f k (Value.Alike f) (Run.recover act) (Run.recover act') := by
  intro l hkl s s' hs
  unfold Run.recover
  rcases endTogether_cases _ _ (h l hkl s s' hs) with
    ⟨v, t, w, t', hact, hact', hvw⟩ | ⟨halt, t, t', hact, hact', m, hlm, ht⟩
  · rw [hact, hact']
    exact hvw
  · rw [hact, hact']
    -- Only a fault is turned into a value, and its text names no cell.
    cases halt with
    | fault fault => exact ⟨m, hlm, ht, Value.alike_string f m _⟩
    | exhausted => exact ⟨rfl, m, hlm, ht⟩
    | kindMismatch => exact ⟨rfl, m, hlm, ht⟩

end

end

end FieldSchema
