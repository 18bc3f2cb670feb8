import FieldSchema.Accessor
import FieldSchema.Proofs.Sharing.Recast

/-!
# What Cannot Be Seen of Cells

Everything that code can ask of a value, asked of the recast value.

Code looks at values in a handful of ways. It asks for their kind, reads them
as numbers, renders them, sees their outlines, compares them with literals and
puts them before predicates, which do the same and look into stored values
besides. None of these ways leads to the nested schemas of a host, so each
gives the same answer after recasting. Literals name hosts. The values they
stand for are recast if the named hosts are, and the values that recipes make
if those are that they are made of.

## Main definitions

* `recastHosts`: Named hosts recast.
* `Check.Blind`: A check decides the same of recast values among recast hosts.

## Theorems

* `recast_toText`, `Host.recast_toText`: Rendering is untouched.
* `recast_outline`: Code sees the same.
* `literal_value_recast`: Literals stand for recast values among recast hosts.
* `build_recast`: Recipes make recast values of recast values.
* `predicate_holds_recast`: Predicates have the same verdict.
* `blind_check`: So have the checks of a field.
-/

namespace FieldSchema

section

variable (f : SubSchemaPolicy → SubSchemaPolicy)

theorem recast_typeName (v : Value) : (v.recast f).typeName = v.typeName := by
  cases v <;> rfl

theorem recast_isTruthy (v : Value) : (v.recast f).isTruthy = v.isTruthy := by
  cases v <;> rfl

theorem recast_asNumber? (v : Value) : (v.recast f).asNumber? = v.asNumber? := by
  cases v <;> rfl

theorem recast_asInt64? (v : Value) : (v.recast f).asInt64? = v.asInt64? := by
  unfold Value.asInt64?
  rw [recast_asNumber?]

theorem recast_asBinary64? (v : Value) : (v.recast f).asBinary64? = v.asBinary64? := by
  unfold Value.asBinary64?
  rw [recast_asNumber?]

theorem recast_asString? (v : Value) : (v.recast f).asString? = v.asString? := by
  cases v <;> rfl

theorem recast_asHost? (v : Value) : (v.recast f).asHost? = v.asHost?.map (Host.recast f) := by
  cases v <;> rfl

theorem recast_asMap? (v : Value) : (v.recast f).asMap? = v.asMap?.map (Mapping.recast f) := by
  cases v <;> rfl

theorem recast_holdsCategory (c : Category) (v : Value) : c.holds (v.recast f) = c.holds v := by
  cases c <;> cases v <;> rfl

theorem render_list (items : List Value) :
    (Value.list items).render = '[' :: commaSeparated (renderItems items) ++ [']'] := rfl

theorem render_map (entries : List (Value × Value)) :
    (Value.map ⟨entries⟩).render =
      '\x7b' :: commaSeparated (renderEntries entries) ++ ['\x7d'] := rfl

theorem render_nested (h : Host) : (Value.nested h).render = h.render := rfl

theorem Host.render_eq (operations : List (String × Operation))
    (store : Option (List (String × Value))) :
    render ⟨operations, store⟩ = "#<Host".toList ++ renderStore store ++ ['>'] := rfl

theorem renderItems_recast (items : List Value)
    (h : ∀ v ∈ items, (v.recast f).render = v.render) :
    renderItems (items.map (Value.recast f)) = renderItems items := by
  induction items with
  | nil => rfl
  | cons head rest ih =>
      change (head.recast f).render :: renderItems (rest.map (Value.recast f)) = _
      rw [h head List.mem_cons_self, ih fun v hv => h v (List.mem_cons_of_mem _ hv)]
      rfl

theorem renderEntry_recast (entry : Value × Value)
    (hkey : (entry.1.recast f).render = entry.1.render)
    (hvalue : (entry.2.recast f).render = entry.2.render) :
    renderEntry (recastEntry f entry) = renderEntry entry := by
  obtain ⟨k, v⟩ := entry
  change (k.recast f).render ++ " => ".toList ++ (v.recast f).render = _
  rw [hkey, hvalue]
  rfl

theorem renderEntries_recast (entries : List (Value × Value))
    (hkey : ∀ entry ∈ entries, (entry.1.recast f).render = entry.1.render)
    (hvalue : ∀ entry ∈ entries, (entry.2.recast f).render = entry.2.render) :
    renderEntries (entries.map (recastEntry f)) = renderEntries entries := by
  induction entries with
  | nil => rfl
  | cons head rest ih =>
      have hhead := renderEntry_recast f head (hkey head List.mem_cons_self)
        (hvalue head List.mem_cons_self)
      have hrest := ih (fun entry h => hkey entry (List.mem_cons_of_mem _ h))
        fun entry h => hvalue entry (List.mem_cons_of_mem _ h)
      exact congrArg₂ List.cons hhead hrest

theorem renderFields_recast (slots : List (String × Value))
    (h : ∀ slot ∈ slots, (slot.2.recast f).render = slot.2.render) :
    renderFields (NameMap.mapValues (Value.recast f) slots) = renderFields slots := by
  induction slots with
  | nil => rfl
  | cons head rest ih =>
      obtain ⟨name, v⟩ := head
      have hhead : renderField (name, v.recast f) = renderField (name, v) := by
        change ' ' :: name.toList ++ '=' :: (v.recast f).render = _
        rw [h (name, v) List.mem_cons_self]
        rfl
      have hrest := ih fun slot hslot => h slot (List.mem_cons_of_mem _ hslot)
      exact congrArg₂ HAppend.hAppend hhead hrest

/-- The text of a value does not show what recasting changes. -/
theorem recast_render (v : Value) : (v.recast f).render = v.render := by
  induction v using Value.inductOn with
  | nil => rfl
  | string text => rfl
  | atom name => rfl
  | number n => rfl
  | boolean b => rfl
  | callable name => rfl
  | list items ih => rw [recast_list, render_list, render_list, renderItems_recast f items ih]
  | map entries ihKey ihValue =>
      rw [recast_map, Mapping.recast_eq, render_map, render_map,
        renderEntries_recast f entries ihKey ihValue]
  | nested operations store ih =>
      rw [recast_nested, Host.recast_eq, render_nested, render_nested, Host.render_eq,
        Host.render_eq]
      cases store with
      | none => rfl
      | some slots =>
          -- The operations are not rendered.
          have hslots := renderFields_recast f slots (ih slots rfl)
          exact congrArg (fun text => "#<Host".toList ++ text ++ ['>']) hslots

theorem recast_toText (v : Value) : (v.recast f).toText = v.toText :=
  congrArg String.ofList (recast_render f v)

theorem Host.recast_toText (h : Host) : (h.recast f).toText = h.toText := by
  have hrender := recast_render f (.nested h)
  rw [recast_nested, render_nested, render_nested] at hrender
  rw [toText, toText, hrender]

theorem outlineItems_eq (items : List Value) : outlineItems items = items.map Value.outline := by
  induction items with
  | nil => rfl
  | cons v rest ih => rw [outlineItems, List.map_cons, ih]

theorem outlineEntries_eq (entries : List (Value × Value)) :
    outlineEntries entries = entries.map outlineEntry := by
  induction entries with
  | nil => rfl
  | cons entry rest ih => rw [outlineEntries, List.map_cons, ih]

theorem outlineSlots_eq (slots : List (String × Value)) :
    outlineSlots slots = slots.map outlineSlot := by
  induction slots with
  | nil => rfl
  | cons slot rest ih => rw [outlineSlots, List.map_cons, ih]

/-- Nor does its outline: a host has the same operations by name. -/
theorem recast_outline (v : Value) : (v.recast f).outline = v.outline := by
  induction v using Value.inductOn with
  | nil => rfl
  | string text => rfl
  | atom name => rfl
  | number n => rfl
  | boolean b => rfl
  | callable name => rfl
  | list items ih =>
      rw [recast_list, Value.outline, Value.outline, outlineItems_eq, outlineItems_eq, List.map_map]
      exact congrArg Outline.list (List.map_congr_left ih)
  | map entries ihKey ihValue =>
      rw [recast_map, Mapping.recast_eq, Value.outline, Value.outline, Mapping.outline,
        Mapping.outline, outlineEntries_eq, outlineEntries_eq, List.map_map]
      refine congrArg Outline.map (List.map_congr_left fun entry hentry => ?_)
      obtain ⟨k, v⟩ := entry
      exact congrArg₂ Prod.mk (ihKey (k, v) hentry) (ihValue (k, v) hentry)
  | nested operations store ih =>
      rw [recast_nested, Host.recast_eq, Value.outline, Value.outline, Host.outline, Host.outline,
        NameMap.names_mapValues]
      -- What is seen of the operations are their names, which recasting leaves.
      cases store with
      | none => rfl
      | some slots =>
          rw [Option.map_some, outlineStore, outlineStore, outlineSlots_eq, outlineSlots_eq,
            NameMap.mapValues, List.map_map]
          refine congrArg (Outline.host _ ∘ some) (List.map_congr_left fun slot hslot => ?_)
          obtain ⟨name, v⟩ := slot
          exact congrArg (Prod.mk name) (ih slots rfl (name, v) hslot)

/-- What may be missing counts as nil, recast or not. -/
theorem recast_orNil (found : Option Value) :
    (found.map (Value.recast f)).getD .nil = (found.getD .nil).recast f := by
  cases found <;> rfl

theorem recast_getD (values : List Value) (i : Nat) :
    (values.map (Value.recast f)).getD i .nil = (values.getD i .nil).recast f := by
  rw [List.getD_eq_getElem?_getD, List.getD_eq_getElem?_getD, List.getElem?_map, recast_orNil]

theorem recast_part (v : Value) (p : Part) : (v.recast f).part p = (v.part p).recast f := by
  cases p with
  | item i =>
      cases v with
      | list items =>
          rw [recast_list]
          exact recast_getD f items i
      -- A part that the value does not have counts as nil, recast or not.
      | _ => rfl
  | key i =>
      cases v with
      | map m =>
          rw [recast_map, Mapping.recast_eq]
          simp only [Value.part, Value.asMap?, Option.bind_some, List.getElem?_map,
            Option.map_map, ← recast_orNil]
          congr 2
          exact funext (recastEntry_fst f)
      | _ => rfl
  | value i =>
      cases v with
      | map m =>
          rw [recast_map, Mapping.recast_eq]
          simp only [Value.part, Value.asMap?, Option.bind_some, List.getElem?_map,
            Option.map_map, ← recast_orNil]
          congr 2
          exact funext (recastEntry_snd f)
      | _ => rfl
  | stored name =>
      cases v with
      | nested host =>
          rw [recast_nested]
          simp only [Value.part, Value.asHost?, Option.bind_some, Host.recast_stored?,
            recast_orNil]
      | _ => rfl

/-- The named hosts recast. -/
def recastHosts (hosts : NameMap Host) : NameMap Host :=
  NameMap.mapValues (Host.recast f) hosts

theorem named_recast (hosts : NameMap Host) (name : String) :
    Host.named (recastHosts f hosts) name = (Host.named hosts name).recast f := by
  unfold Host.named recastHosts
  rw [NameMap.get?_mapValues]
  cases NameMap.get? hosts name <;> rfl

mutual

/-- A literal stands for the recast value if the hosts that it names are recast. -/
theorem literal_value_recast (hosts : NameMap Host) (l : Literal) :
    l.value (recastHosts f hosts) = (l.value hosts).recast f := by
  match l with
  | .nil => rfl
  | .string text => rfl
  | .atom name => rfl
  | .number n => rfl
  | .boolean b => rfl
  | .callable name => rfl
  | .list items =>
      rw [Literal.value, Literal.value, recast_list, literalValues_recast hosts items]
  | .map entries =>
      rw [Literal.value, Literal.value, recast_map, Mapping.recast_ofList,
        literalEntries_recast hosts entries]
  | .host name => rw [Literal.value, Literal.value, recast_nested, named_recast]

theorem literalValues_recast (hosts : NameMap Host) (items : List Literal) :
    literalValues (recastHosts f hosts) items =
      (literalValues hosts items).map (Value.recast f) := by
  match items with
  | [] => rfl
  | item :: rest =>
      rw [literalValues, literalValues, List.map_cons, literal_value_recast hosts item,
        literalValues_recast hosts rest]

theorem literalEntries_recast (hosts : NameMap Host) (entries : List (Literal × Literal)) :
    literalEntries (recastHosts f hosts) entries =
      (literalEntries hosts entries).map (recastEntry f) := by
  match entries with
  | [] => rfl
  | (key, value) :: rest =>
      rw [literalEntries, literalEntries, List.map_cons, literalEntry, literalEntry, recastEntry,
        literal_value_recast hosts key, literal_value_recast hosts value,
        literalEntries_recast hosts rest]

end

mutual

/-- A recipe makes the recast value of recast values, among recast hosts. -/
theorem build_recast (hosts : NameMap Host) (values : List Value) (recipe : Recipe) :
    recipe.build (recastHosts f hosts) (values.map (Value.recast f)) =
      (recipe.build hosts values).recast f := by
  match recipe with
  | .literal l => exact literal_value_recast f hosts l
  | .given i => exact recast_getD f values i
  | .part whole p => rw [Recipe.build, Recipe.build, build_recast hosts values whole, recast_part]
  | .list items => rw [Recipe.build, Recipe.build, recast_list, buildItems_recast hosts values items]
  | .map entries =>
      rw [Recipe.build, Recipe.build, recast_map, Mapping.recast_ofList,
        buildEntries_recast hosts values entries]

theorem buildItems_recast (hosts : NameMap Host) (values : List Value) (items : List Recipe) :
    buildItems (recastHosts f hosts) (values.map (Value.recast f)) items =
      (buildItems hosts values items).map (Value.recast f) := by
  match items with
  | [] => rfl
  | item :: rest =>
      rw [buildItems, buildItems, List.map_cons, build_recast hosts values item,
        buildItems_recast hosts values rest]

theorem buildEntries_recast (hosts : NameMap Host) (values : List Value)
    (entries : List (Recipe × Recipe)) :
    buildEntries (recastHosts f hosts) (values.map (Value.recast f)) entries =
      (buildEntries hosts values entries).map (recastEntry f) := by
  match entries with
  | [] => rfl
  | (key, value) :: rest =>
      rw [buildEntries, buildEntries, List.map_cons, buildEntry, buildEntry, recastEntry,
        build_recast hosts values key, build_recast hosts values value,
        buildEntries_recast hosts values rest]

end

mutual

/-- A predicate has the same verdict on the recast value among the recast hosts. -/
theorem predicate_holds_recast (hosts : NameMap Host) (p : Predicate) (v : Value) :
    p.holds (recastHosts f hosts) (v.recast f) = p.holds hosts v := by
  match p with
  | .const verdict => rfl
  -- A test is given the outline alone.
  | .test verdict => rw [Predicate.holds, Predicate.holds, recast_outline]
  | .intRange least most => rw [Predicate.holds, Predicate.holds, recast_asInt64?]
  | .maxBytes most => rw [Predicate.holds, Predicate.holds, recast_asString?]
  | .lessThan bound => rw [Predicate.holds, Predicate.holds, recast_asBinary64?]
  | .is category => exact recast_holdsCategory f category v
  | .equals w =>
      rw [Predicate.holds, Predicate.holds, literal_value_recast, recast_beq]
  | .truthy => exact recast_isTruthy f v
  | .not q => rw [Predicate.holds, Predicate.holds, predicate_holds_recast hosts q v]
  | .all ps => exact allHold_recast hosts ps v
  | .any ps => exact someHolds_recast hosts ps v
  | .minLength least =>
      cases v with
      | list items =>
          rw [recast_list]
          simp only [Predicate.holds, List.length_map]
      | map m =>
          rw [recast_map, Mapping.recast_eq]
          simp only [Predicate.holds, Mapping.size, List.length_map]
          rfl
      | _ => rfl
  | .hasKey key =>
      rw [Predicate.holds, Predicate.holds, recast_asMap?, literal_value_recast]
      cases v.asMap? with
      | none => rfl
      | some m =>
          simp only [Option.map_some, Option.any_some, Mapping.contains, Mapping.recast_get?,
            Option.isSome_map]
  -- The slots of a recast host hold the recast values.
  | .child field q =>
      rw [Predicate.holds, Predicate.holds, recast_asHost?]
      cases v.asHost? with
      | none => rfl
      | some host =>
          simp only [Option.map_some, Option.bind_some, Host.recast_stored?]
          cases host.stored? field with
          | none => rfl
          | some w => exact predicate_holds_recast hosts q w
  | .log tag q => exact predicate_holds_recast hosts q v

theorem allHold_recast (hosts : NameMap Host) (ps : List Predicate) (v : Value) :
    allHold (recastHosts f hosts) ps (v.recast f) = allHold hosts ps v := by
  match ps with
  | [] => rfl
  | p :: rest =>
      rw [allHold, allHold, predicate_holds_recast hosts p v, allHold_recast hosts rest v]

theorem someHolds_recast (hosts : NameMap Host) (ps : List Predicate) (v : Value) :
    someHolds (recastHosts f hosts) ps (v.recast f) = someHolds hosts ps v := by
  match ps with
  | [] => rfl
  | p :: rest =>
      rw [someHolds, someHolds, predicate_holds_recast hosts p v, someHolds_recast hosts rest v]

end

theorem constraint_holds_recast (hosts : NameMap Host) (c : Constraint) (v : Value) :
    c.holds (recastHosts f hosts) (v.recast f) = c.holds hosts v := by
  cases c with
  | category category => exact recast_holdsCategory f category v
  | custom p => exact predicate_holds_recast f hosts p v

/-- The check decides the same of recast values among recast hosts. -/
def Check.Blind (c : Check) : Prop :=
  ∀ hosts v, c.holds (recastHosts f hosts) (v.recast f) = c.holds hosts v

theorem blind_pass : Check.pass.Blind f :=
  fun _ _ => rfl

theorem blind_andThen (first second : Check) (hfirst : first.Blind f) (hsecond : second.Blind f) :
    (first.andThen second).Blind f := by
  intro hosts v
  simp only [Check.andThen, hfirst hosts v, hsecond hosts v]

theorem blind_ifAny (c : Option Constraint) : (Constraint.ifAny c).Blind f := by
  cases c with
  | none => exact blind_pass f
  | some c => exact fun hosts v => constraint_holds_recast f hosts c v

theorem blind_onItems (item : Option Constraint) : (Constraint.onItems item).Blind f := by
  intro hosts v
  cases v with
  | list items =>
      rw [recast_list]
      cases item with
      | none => rfl
      | some c =>
          simp only [Constraint.onItems, Option.all_some, List.all_map]
          congr 1
          exact funext fun v => constraint_holds_recast f hosts c v
  | _ => rfl

/-- The check of a field is blind, and it is the check of the recast field. -/
theorem blind_check (spec : FieldSpec) : spec.check.Blind f := by
  have hvalidation : (Predicate.ifAny spec.validation).Blind f := by
    cases spec.validation with
    | none => exact blind_pass f
    | some p => exact fun hosts v => predicate_holds_recast f hosts p v
  refine blind_andThen f _ _ ?_ hvalidation
  cases spec.kind with
  | scalar c => exact fun hosts v => constraint_holds_recast f hosts c v
  | array singular item schema itemCallback => exact blind_pass f
  | hash singular key value schema => exact blind_pass f

end

end FieldSchema
