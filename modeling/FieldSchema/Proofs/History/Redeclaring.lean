import FieldSchema.Proofs.History.Arrays
import FieldSchema.Proofs.History.Hashes

/-!
# Fields Declared Again

What an item or an entry is added to, when several definitions share a slot.

A host may have any number of definitions, and two of them may declare a field
of the same name. The operations of the later one then stand in place of those
of the earlier, as far as their names are the same. The slot is shared, since
values are stored under the name of the field alone. So an accessor may find
in its slot what an accessor of another definition has left there.

As long as the fields of a name are of one kind this makes no difference. An
item is put behind all items of the list that is there, and an entry changes
the map in the place of its key. If a field is declared again with another
kind, there may be something in the slot that is no list, or no map. Nothing
can be added to that. The accessor begins a new list, or a new map, which is
what it does for an empty slot as well, and what was there is gone.

That is the only way in which an item or an entry takes the place of anything.
A value of the wrong kind cannot have come from a field of the right kind, so
the write that left it was made for a field with the same name in another
definition.

## Main definitions

* `Mapping.ChangesOnly`: Two maps differ in the entry of one key at most.
* `LeftByOther`: The value in a slot was left there for a field of another kind.

## Theorems

* `wrote_origin`: A write was made by an accessor of a field of an attached definition.
* `last_write_or_none`: A slot is empty, or its value was made by the last write to it.
* `left_by_other`: Who has left a value that is not of the kind of the field.
* `single_write_adds`: What items and entries are added to.
-/

namespace FieldSchema

/-- The second map is the first with the value put under the first key that equals the given one,
    or with an entry more at the end if there is no such key. -/
def Mapping.ChangesOnly (m : Mapping) (k v : Value) (m' : Mapping) : Prop :=
  (∃ front key old back, m.entries = front ++ (key, old) :: back ∧ (key == k) = true ∧
    (∀ entry ∈ front, (entry.1 == k) = false) ∧ m'.entries = front ++ (key, v) :: back) ∨
  ((∀ entry ∈ m.entries, (entry.1 == k) = false) ∧ m'.entries = m.entries ++ [(k, v)])

theorem Mapping.insert_changesOnly (m : Mapping) (k v : Value) :
    m.ChangesOnly k v (m.insert k v) := by
  obtain ⟨entries⟩ := m
  unfold ChangesOnly insert
  simp only []
  induction entries with
  | nil => exact Or.inr ⟨fun _ hmem => absurd hmem List.not_mem_nil, rfl⟩
  | cons entry rest ih =>
      obtain ⟨key, old⟩ := entry
      rw [insertInto]
      -- The first entry with an equal key gets the value; if there is none up to the end, the entry
      -- is added there.
      by_cases hkey : (key == k) = true
      · rw [if_pos hkey]
        exact Or.inl ⟨[], key, old, rest, rfl, hkey, fun _ hmem => absurd hmem List.not_mem_nil, rfl⟩
      · rw [if_neg hkey]
        have hhead := eq_false_of_ne_true hkey
        rcases ih with ⟨front, found, value, back, hrest, hfound, hfront, hnew⟩ | ⟨hnone, hnew⟩
        · refine Or.inl ⟨(key, old) :: front, found, value, back, ?_, hfound,
            List.forall_mem_cons.mpr ⟨hhead, hfront⟩, ?_⟩
          · rw [hrest, List.cons_append]
          · rw [hnew, List.cons_append]
        · refine Or.inr ⟨List.forall_mem_cons.mpr ⟨hhead, hnone⟩, ?_⟩
          rw [hnew, List.cons_append]

/-- The field is one of a definition that was attached. -/
def DeclaredIn (changes : List Change) (d : Definition) (spec : FieldSpec) : Prop :=
  spec ∈ d.fields ∧ ∃ inspectable, .attached d inspectable ∈ changes

/-- All definitions that were attached were made by scripts. -/
def AllGenuine (changes : List Change) : Prop :=
  ∀ d inspectable, .attached d inspectable ∈ changes → d.Genuine

/-- A write was made on the host to which the changes before it lead, by an accessor of a field of a
    definition that was attached before. -/
theorem wrote_origin (before after : List Change) (spec : FieldSpec) (args : Args) (write : Write)
    (h' : Host) (hgenuine : AllGenuine before)
    (hleads : Leads .empty (before ++ .wrote spec args write :: after) h') :
    ∃ h, Leads .empty before h ∧ Leads (spec.put write h) after h' ∧
      (∃ d, DeclaredIn before d spec) ∧ ∃ op, spec.Accessor op ∧ op.Allows write := by
  obtain ⟨h, hbefore, hafter, d, inspectable, name, op, hmem, hoperation, hop, haccepts⟩ :=
    leads_wrote before after spec args write h' hleads
  obtain ⟨own, hfield, haccessor⟩ := (hgenuine d inspectable hmem).accessor d name op hoperation
  obtain rfl : own = spec := Option.some.inj ((accessor_spec? own op haccessor).symm.trans hop)
  exact ⟨h, hbefore, hafter, ⟨d, hfield, inspectable, hmem⟩, op, haccessor, haccepts.allowed⟩

/-- A slot was never written to, or there is a last write to it. -/
theorem last_write_or_none (name : String) (changes : List Change) :
    writesTo name changes = [] ∨ ∃ earlier other args write later,
      changes = earlier ++ .wrote other args write :: later ∧ other.name = name ∧
        writesTo name later = [] := by
  induction changes with
  | nil => exact Or.inl rfl
  | cons change rest ih =>
      rcases ih with hnone | ⟨earlier, other, args, write, later, rfl, hname, hlater⟩
      · -- This write is the last one, if it is one to the slot.
        cases hwrite : change.write? name with
        | none => exact Or.inl ((List.filterMap_cons_none hwrite).trans hnone)
        | some write =>
            cases change with
            | wrote other args own =>
                obtain ⟨hname, -⟩ := Option.ite_none_right_eq_some.mp hwrite
                exact Or.inr ⟨[], other, args, own, rest, rfl, hname, hnone⟩
            | defined => exact nomatch hwrite
            | attached => exact nomatch hwrite
      · exact Or.inr ⟨change :: earlier, other, args, write, later, rfl, hname, hlater⟩

/-- The last write to a slot has made the value in it. -/
theorem stored?_of_last_write (earlier later : List Change) (spec : FieldSpec) (args : Args)
    (write : Write) (h : Host)
    (hleads : Leads .empty (earlier ++ .wrote spec args write :: later) h)
    (hlater : writesTo spec.name later = []) :
    ∃ old, h.stored? spec.name = some (write.update old) := by
  have hwrites : writesTo spec.name (earlier ++ .wrote spec args write :: later) =
      writesTo spec.name earlier ++ [write] := by
    have hown : writesTo spec.name (.wrote spec args write :: later) =
        write :: writesTo spec.name later := List.filterMap_cons_some (if_pos rfl)
    rw [writesTo, List.filterMap_append]
    change writesTo spec.name earlier ++ writesTo spec.name (.wrote spec args write :: later) = _
    rw [hown, hlater]
  rw [leads_stored? _ .empty h hleads spec.name, hwrites, slotAfter_concat]
  exact ⟨_, rfl⟩

/-- The value is of the kind of the field: a list for an array, a map for a hash. -/
def FieldKind.Holds : FieldKind → Value → Prop
  | .scalar _, _ => True
  | .array _ _ _ _, v => ∃ items, v = .list items
  | .hash _ _ _ _, v => ∃ m, v = .map m

/-- What an accessor leaves in the slot is of the kind of its field. -/
theorem holds_update (spec : FieldSpec) (op : Operation) (hop : spec.Accessor op) (write : Write)
    (hallowed : op.Allows write) (old : Value) : spec.kind.Holds (write.update old) := by
  cases hkind : spec.kind with
  | scalar constraint => exact trivial
  | array singular item schema itemCallback =>
      cases array_write spec singular item schema itemCallback hkind op hop write hallowed with
      | assign items => exact ⟨items, rfl⟩
      | append v => exact ⟨_, rfl⟩
  | hash singular key value schema =>
      obtain ⟨-, hentry⟩ := hash_write spec singular key value schema hkind op hop write hallowed
      cases write with
      | enter k v => exact ⟨_, rfl⟩
      | assign v => exact nomatch hentry
      | append v => exact nomatch hentry

/-- Fields of the same kind hold the same values. -/
theorem holds_of_name_eq (kind other : FieldKind) (h : other.name = kind.name) (v : Value)
    (hother : other.Holds v) : kind.Holds v := by
  cases kind with
  | scalar constraint => exact trivial
  | array singular item schema itemCallback =>
      cases other with
      | array => exact hother
      | _ => simp [FieldKind.name] at h
  | hash singular key value schema =>
      cases other with
      | hash => exact hother
      | _ => simp [FieldKind.name] at h

/-- The last write to the slot of the field was made for another field, of the same name and of
    another kind, in another definition. -/
structure LeftByOther (before : List Change) (spec other : FieldSpec) : Prop where
  name_eq : other.name = spec.name
  kind_ne : other.kind.name ≠ spec.kind.name
  last : ∃ earlier args write later, before = earlier ++ .wrote other args write :: later ∧
    writesTo spec.name later = []
  apart : ∃ d own, DeclaredIn before d other ∧ DeclaredIn before own spec ∧ d ≠ own

/-- A value that is not of the kind of the field was left in the slot for a field of another. -/
theorem left_by_other (before : List Change) (h : Host) (hgenuine : AllGenuine before)
    (hleads : Leads .empty before h) (own : Definition) (spec : FieldSpec)
    (hown : DeclaredIn before own spec) (v : Value) (hstored : h.stored? spec.name = some v)
    (hkind : ¬spec.kind.Holds v) : ∃ other, LeftByOther before spec other := by
  rcases last_write_or_none spec.name before with
    hnone | ⟨earlier, other, args, write, later, heq, hname, hlater⟩
  · rw [leads_stored? before .empty h hleads, hnone] at hstored
    exact nomatch hstored
  · subst heq
    have hearlier : AllGenuine earlier := fun d inspectable hmem =>
      hgenuine d inspectable (List.mem_append_left _ hmem)
    obtain ⟨-, -, -, ⟨d, hfield, inspectable, hattached⟩, op, hop, hallowed⟩ :=
      wrote_origin earlier later other args write h hearlier hleads
    have hdeclared : DeclaredIn (earlier ++ .wrote other args write :: later) d other :=
      ⟨hfield, inspectable, List.mem_append_left _ hattached⟩
    rw [← hname] at hlater
    obtain ⟨old, hupdate⟩ := stored?_of_last_write earlier later other args write h hleads hlater
    rw [hname] at hupdate hlater
    obtain rfl := Option.some.inj (hupdate.symm.trans hstored)
    -- What a field of the same kind has left there would be of that kind.
    have hholds := holds_update other op hop write hallowed old
    have hne : other.kind.name ≠ spec.kind.name := fun hsame =>
      hkind (holds_of_name_eq spec.kind other.kind hsame _ hholds)
    refine ⟨other, hname, hne, ⟨earlier, args, write, later, rfl, hlater⟩, d, own, hdeclared, hown, ?_⟩
    -- One definition would have the same field for the name.
    rintro rfl
    have hsame := (hearlier d inspectable hattached).field_unique d spec other hown.1 hfield hname
    exact hne (by rw [hsame])

/-- A slot after something was added to what is in it: it grows if it is of the kind of the field, and
    begins anew if there is nothing in it, or what has been left there for a field of another. -/
def AddsTo (before : List Change) (spec : FieldSpec) (fresh : Value)
    (grows : Value → Value → Prop) (old new : Option Value) : Prop :=
  (old = none ∧ new = some fresh) ∨
  (∃ v v', old = some v ∧ new = some v' ∧ grows v v') ∨
  ∃ v other, old = some v ∧ ¬spec.kind.Holds v ∧ LeftByOther before spec other ∧ new = some fresh

/-- The list with the item behind all others. -/
def GrowsBy (item v v' : Value) : Prop :=
  ∃ items, v = .list items ∧ v' = .list (items ++ [item])

/-- The map with the value under the key, and all else as it was. -/
def EntersIn (k x v v' : Value) : Prop :=
  ∃ m m', v = .map m ∧ v' = .map m' ∧ m.ChangesOnly k x m'

/-- A write that makes the same of nothing and of what it cannot add to adds to the slot. -/
theorem addsTo_of_put (before : List Change) (h : Host) (hgenuine : AllGenuine before)
    (hleads : Leads .empty before h) (own : Definition) (spec : FieldSpec)
    (hown : DeclaredIn before own spec) (write : Write) (fresh : Value)
    (grows : Value → Value → Prop) (hnothing : write.update .nil = fresh)
    (hother : ∀ v, ¬spec.kind.Holds v → write.update v = fresh)
    (hgrows : ∀ v, spec.kind.Holds v → grows v (write.update v)) :
    AddsTo before spec fresh grows (h.stored? spec.name)
      ((spec.put write h).stored? spec.name) := by
  rw [FieldSpec.put_stored?, if_pos rfl, Host.stored]
  cases hstored : h.stored? spec.name with
  | none => exact Or.inl ⟨rfl, congrArg some hnothing⟩
  | some v =>
      by_cases hkind : spec.kind.Holds v
      · exact Or.inr (Or.inl ⟨v, _, rfl, rfl, hgrows v hkind⟩)
      · obtain ⟨other, hleft⟩ := left_by_other before h hgenuine hleads own spec hown v hstored hkind
        exact Or.inr (Or.inr ⟨v, other, rfl, hkind, hleft, congrArg some (hother v hkind)⟩)

section

variable (before : List Change) (h : Host) (hgenuine : AllGenuine before)
  (hleads : Leads .empty before h) (own : Definition) (spec : FieldSpec)
  (hown : DeclaredIn before own spec) (op : Operation) (hop : spec.Accessor op)

include hgenuine hleads hown hop

/-- An item that is accepted goes behind all others. -/
theorem append_adds (x : Value) (hallowed : op.Allows (.append x)) :
    spec.kind.name = "array" ∧ AddsTo before spec (.list [x]) (GrowsBy x) (h.stored? spec.name)
      ((spec.put (.append x) h).stored? spec.name) := by
  cases hop with
  | arrayItem singular item schema itemCallback hkind =>
      refine ⟨by rw [hkind]; rfl,
        addsTo_of_put before h hgenuine hleads own spec hown _ _ _ rfl ?_ ?_⟩
      · intro v hv
        rw [hkind] at hv
        cases v with
        | list items => exact absurd ⟨items, rfl⟩ hv
        | _ => rfl
      · intro v hv
        rw [hkind] at hv
        obtain ⟨items, rfl⟩ := hv
        exact ⟨items, rfl, rfl⟩
  -- No other accessor allows such a write.
  | _ => exact hallowed.elim

/-- An entry that is accepted changes the map under its key. -/
theorem enter_adds (k x : Value) (hallowed : op.Allows (.enter k x)) :
    spec.kind.name = "hash" ∧ AddsTo before spec (.map ⟨[(k, x)]⟩) (EntersIn k x)
      (h.stored? spec.name) ((spec.put (.enter k x) h).stored? spec.name) := by
  cases hop with
  | hashEntry singular key value schema hkind =>
      refine ⟨by rw [hkind]; rfl,
        addsTo_of_put before h hgenuine hleads own spec hown _ _ _ rfl ?_ ?_⟩
      · intro v hv
        rw [hkind] at hv
        cases v with
        | map m => exact absurd ⟨m, rfl⟩ hv
        | _ => rfl
      · intro v hv
        rw [hkind] at hv
        obtain ⟨m, rfl⟩ := hv
        exact ⟨m, _, rfl, rfl, m.insert_changesOnly k x⟩
  | _ => exact hallowed.elim

end

/-- A call finds the operation under its name, and decides on the write. -/
def Commits (depth : Nat) (name : String) (args : Args) (t : Scene) (op : Operation)
    (write : Write) : Prop :=
  t.host.operation? name = some op ∧ ∃ u, op.plan (callWithin depth) args t = .ok (some write) u

/-- A call that decides on a write makes it before all other changes, and it is one that the
    accessor allows. -/
theorem callChanges_of_commits (depth : Nat) (name : String) (args : Args) (t : Scene)
    (op : Operation) (spec : FieldSpec) (hop : op.spec? = some spec) (write : Write)
    (h : Commits depth name args t op write) :
    op.Allows write ∧
      ∃ more, callChanges (depth + 1) name args t = .wrote spec args write :: more := by
  obtain ⟨hfound, u, hplan⟩ := h
  have hstays := plan_settles (W := fun _ => True) (E := fun _ => True) (fun _ _ _ => trivial)
    (fun _ => trivial) trivial op spec hop (callWithin depth) args t trivial
    fun sub block => evaluate_beside sub (callWithin depth) block t
  unfold Stays at hstays
  rw [hplan] at hstays
  exact ⟨hstays.2.2.2, _, callChanges_of_write depth name args t u op hfound spec hop write hplan⟩

/-- Whatever definitions a host has been given, and in whatever order, an item that is accepted goes
    behind all items of the list in the slot, and an entry changes the map there under its key
    alone. A slot that is empty gets a new list or map, and so does one that has been left with
    something else by a field of the same name and another kind, in another definition. All other
    slots stay as they were. The calls of singular accessors make these writes, before anything
    else. -/
theorem single_write_adds (given : Value → Prop) (changes : List Change) (s : Scene)
    (hlives : Lives given changes s) (hgenuine : AllGenuine changes) :
    (∀ before spec args write after, changes = before ++ .wrote spec args write :: after →
      ∃ h, Leads .empty before h ∧ Leads (spec.put write h) after s.host ∧
        (∀ name, name ≠ spec.name → (spec.put write h).stored? name = h.stored? name) ∧
        (∀ x, write = .append x → spec.kind.name = "array" ∧
          AddsTo before spec (.list [x]) (GrowsBy x) (h.stored? spec.name)
            ((spec.put write h).stored? spec.name)) ∧
        ∀ k x, write = .enter k x → spec.kind.name = "hash" ∧
          AddsTo before spec (.map ⟨[(k, x)]⟩) (EntersIn k x) (h.stored? spec.name)
            ((spec.put write h).stored? spec.name)) ∧
    ∀ depth name args t spec write,
      (Commits depth name args t (.arrayItem spec) write → ∃ x more, write = .append x ∧
        callChanges (depth + 1) name args t = .wrote spec args write :: more) ∧
      (Commits depth name args t (.hashEntry spec) write → ∃ k x more, write = .enter k x ∧
        callChanges (depth + 1) name args t = .wrote spec args write :: more) := by
  refine ⟨?_, fun depth name args t spec write => ⟨fun hcommits => ?_, fun hcommits => ?_⟩⟩
  · rintro before spec args write after rfl
    have hbefore : AllGenuine before := fun d inspectable hmem =>
      hgenuine d inspectable (List.mem_append_left _ hmem)
    -- The write splits the life of the host in two, and an accessor has allowed it.
    obtain ⟨h, hfirst, hafter, ⟨own, hown⟩, op, hop, hallowed⟩ :=
      wrote_origin before after spec args write s.host hbefore (lives_leads _ s hlives)
    refine ⟨h, hfirst, hafter, ?_, ?_, ?_⟩
    · intro name hname
      rw [FieldSpec.put_stored?, if_neg hname]
    · rintro x rfl
      exact append_adds before h hbefore hfirst own spec hown op hop x hallowed
    · rintro k x rfl
      exact enter_adds before h hbefore hfirst own spec hown op hop k x hallowed
  · obtain ⟨hallowed, more, hchanges⟩ :=
      callChanges_of_commits depth name args t _ spec rfl write hcommits
    -- The accessor of items appends, and the accessor of entries enters.
    cases write with
    | append x => exact ⟨x, more, rfl, hchanges⟩
    | _ => exact hallowed.elim
  · obtain ⟨hallowed, more, hchanges⟩ :=
      callChanges_of_commits depth name args t _ spec rfl write hcommits
    cases write with
    | enter k x => exact ⟨k, x, more, rfl, hchanges⟩
    | _ => exact hallowed.elim

/-- Posts as a single value of any kind. -/
def anyPosts : Definition :=
  (World.defineUpToFault (.ofSuffix "s") {} [.scalar .any "posts" none none] .empty).1

/-- Posts as a list. -/
def listedPosts : Definition :=
  (World.defineUpToFault (.ofSuffix "s") {} [.array "posts" none none none] .empty).1

/-- A host is given a draft for its posts, and then another definition of them. -/
def draftedPosts : List Change × Scene :=
  let life := lifeOf anyPosts false 1 .empty [("posts", .ofValues [.string "draft"])]
  (life.1 ++ [.attached listedPosts false],
    ⟨listedPosts.attachWith false life.2.host, life.2.world⟩)

/-- The life of that host up to its first post, and a second one. -/
def redeclaredPosts : List Change × Scene :=
  [("post", .ofValues [.string "first"]), ("post", .ofValues [.string "second"])].foldl
    (withCall 1) draftedPosts

theorem redeclaredPosts_lives : Lives (fun _ => True) redeclaredPosts.1 redeclaredPosts.2 := by
  have hdrafted : Lives (fun _ => True) draftedPosts.1 draftedPosts.2 :=
    .attached _ _ listedPosts false
      (lifeOf_lives anyPosts false 1 .empty (fun _ _ _ => trivial) _ fun _ _ _ _ => trivial)
  exact .called _ _ 1 "post" _ (fun _ _ => trivial)
    (.called _ _ 1 "post" _ (fun _ _ => trivial) hdrafted)

theorem redeclaredPosts_genuine : AllGenuine redeclaredPosts.1 := by
  have hchanges : ∃ spec other args more again, redeclaredPosts.1 = [.attached anyPosts false,
      .wrote spec args (.assign (.string "draft")), .attached listedPosts false,
      .wrote other more (.append (.string "first")),
      .wrote other again (.append (.string "second"))] := ⟨_, _, _, _, _, rfl⟩
  obtain ⟨spec, other, args, more, again, heq⟩ := hchanges
  intro d inspectable hmem
  rw [heq] at hmem
  simp only [List.mem_cons, List.not_mem_nil, or_false, Change.attached.injEq, reduceCtorEq,
    false_or] at hmem
  rcases hmem with ⟨rfl, -⟩ | ⟨rfl, -⟩
  · exact ⟨_, _, _, .empty, rfl⟩
  · exact ⟨_, _, _, .empty, rfl⟩

/-- The second post goes behind the first one. -/
theorem single_write_adds_second : ∃ before spec args h,
    redeclaredPosts.1 = before ++ [.wrote spec args (.append (.string "second"))] ∧
      Leads .empty before h ∧ h.stored? spec.name = some (.list [.string "first"]) ∧
      AddsTo before spec (.list [.string "second"]) (GrowsBy (.string "second"))
        (h.stored? spec.name)
        ((spec.put (.append (.string "second")) h).stored? spec.name) := by
  obtain ⟨before, spec, args, hchanges, hslot⟩ : ∃ before spec args,
      redeclaredPosts.1 = before ++ [.wrote spec args (.append (.string "second"))] ∧
        slotAfter none (writesTo spec.name before) = some (.list [.string "first"]) :=
    ⟨[_, _, _, _], _, _, rfl, rfl⟩
  obtain ⟨h, hbefore, -, -, hitem, -⟩ := (single_write_adds _ _ _ redeclaredPosts_lives
    redeclaredPosts_genuine).1 before spec args _ [] hchanges
  refine ⟨before, spec, args, h, hchanges, hbefore, ?_, (hitem _ rfl).2⟩
  rw [leads_stored? before .empty h hbefore]
  exact hslot

/-- The first post takes the place of the draft, which is gone. -/
theorem item_replaces_draft :
    Lives (fun _ => True) redeclaredPosts.1 redeclaredPosts.2 ∧ AllGenuine redeclaredPosts.1 ∧
      draftedPosts.2.host.stored? "posts" = some (.string "draft") ∧
      (∃ spec ∈ listedPosts.fields, spec.name = "posts" ∧
        Commits 0 "post" (.ofValues [.string "first"]) draftedPosts.2 (.arrayItem spec)
          (.append (.string "first"))) ∧
      (withCall 1 draftedPosts ("post", .ofValues [.string "first"])).2.host.stored? "posts" =
        some (.list [.string "first"]) := by
  refine ⟨redeclaredPosts_lives, redeclaredPosts_genuine, rfl, ?_, rfl⟩
  exact ⟨_, List.mem_cons_self, rfl, rfl, _, rfl⟩

end FieldSchema
