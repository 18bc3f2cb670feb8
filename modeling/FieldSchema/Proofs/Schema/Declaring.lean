import FieldSchema.Generator
import FieldSchema.Proofs.NameMap
import FieldSchema.Proofs.Sequencing

/-!
# What a Declaration Does

The result of each declaration, in one equation.

A declaration of an array or a hash runs through six steps that may each
refuse it, and two of them change the generator before the last one that may.
A refusal takes nothing back, so it is not plain from the code that a refused
declaration leaves no trace. It does not, because the two checks at the start
already rule out what the registrations could object to: the name is free, and
so is the singular form, which differs from the name. After them nothing can
fail any more.

The equations say this by giving the result as a choice between the generator
as it was and the generator with one more field. Everything else about
declarations is derived from them, and none of the steps is looked into again.

## Main definitions

* `FieldSpec.operations`: The operations that a field brings, under their names.
* `FieldSpec.Accessor`: The same without the names, with the kind of the field.
* `Generator.extend`: A generator with one more field and its operations.
* `Generator.withPlural`: The result of declaring a field with a plural name.

## Theorems

* `checkName_eq_ok_iff`, `singularName_eq_ok_iff`: When a name is accepted.
* `declareScalar_eq`, `declarePlural_eq`: The result of each declaration.
* `withPlural_cases`: A plural declaration is refused without a trace or adds one field.
-/

namespace FieldSchema

namespace FieldSpec

/-- The accessor under the field's own name. -/
def wholeOperation (spec : FieldSpec) : Operation :=
  match spec.kind with
  | .scalar _ => .scalar spec
  | .array _ _ _ _ => .arrayPlural spec
  | .hash _ _ _ _ => .hashPlural spec

/-- The accessor for one item or entry, under the field's singular name. -/
def singleOperation? (spec : FieldSpec) : Option (String × Operation) :=
  match spec.kind with
  | .scalar _ => none
  | .array singular _ _ _ => some (singular, .arrayItem spec)
  | .hash singular _ _ _ => some (singular, .hashEntry spec)

/-- The operations that the field brings, under their names. -/
def operations (spec : FieldSpec) : List (String × Operation) :=
  (spec.name, spec.wholeOperation) :: spec.singleOperation?.toList

/-- The operation is one of the accessors of the field. -/
inductive Accessor (spec : FieldSpec) : Operation → Prop
  | scalar (constraint : Constraint) (hkind : spec.kind = .scalar constraint) :
      Accessor spec (.scalar spec)
  | arrayPlural (singular : String) (item : Option Constraint) (schema : Option SubSchema)
      (itemCallback : ItemCallback) (hkind : spec.kind = .array singular item schema itemCallback) :
      Accessor spec (.arrayPlural spec)
  | arrayItem (singular : String) (item : Option Constraint) (schema : Option SubSchema)
      (itemCallback : ItemCallback) (hkind : spec.kind = .array singular item schema itemCallback) :
      Accessor spec (.arrayItem spec)
  | hashPlural (singular : String) (key value : Option Constraint) (schema : Option SubSchema)
      (hkind : spec.kind = .hash singular key value schema) : Accessor spec (.hashPlural spec)
  | hashEntry (singular : String) (key value : Option Constraint) (schema : Option SubSchema)
      (hkind : spec.kind = .hash singular key value schema) : Accessor spec (.hashEntry spec)

theorem accessor_of_mem (spec : FieldSpec) (name : String) (op : Operation)
    (h : (name, op) ∈ spec.operations) : spec.Accessor op := by
  -- The kind of the field says which operations it has: one for a scalar, two for the plural kinds.
  cases hkind : spec.kind with
  | scalar constraint =>
      simp only [operations, wholeOperation, singleOperation?, hkind, Option.toList_none,
        List.mem_singleton, Prod.mk.injEq] at h
      rw [h.2]
      exact .scalar constraint hkind
  | array singular item schema itemCallback =>
      simp only [operations, wholeOperation, singleOperation?, hkind, Option.toList_some,
        List.mem_cons, List.not_mem_nil, or_false, Prod.mk.injEq] at h
      rcases h with h | h
      · rw [h.2]
        exact .arrayPlural singular item schema itemCallback hkind
      · rw [h.2]
        exact .arrayItem singular item schema itemCallback hkind
  | hash singular key value schema =>
      simp only [operations, wholeOperation, singleOperation?, hkind, Option.toList_some,
        List.mem_cons, List.not_mem_nil, or_false, Prod.mk.injEq] at h
      rcases h with h | h
      · rw [h.2]
        exact .hashPlural singular key value schema hkind
      · rw [h.2]
        exact .hashEntry singular key value schema hkind

theorem singleOperation?_name (spec : FieldSpec) :
    spec.singleOperation?.map (·.1) = spec.singular? := by
  obtain ⟨name, kind, validation, callback⟩ := spec
  cases kind <;> rfl

/-- The names of a field's operations are its own and the singular one, if it has one. -/
theorem names_operations (spec : FieldSpec) :
    NameMap.names spec.operations = spec.name :: spec.singular?.toList := by
  rw [← singleOperation?_name]
  unfold operations NameMap.names
  cases spec.singleOperation? <;> rfl

end FieldSpec

namespace Generator

/-- The generator with one more field, and its operations under their names. -/
def extend (g : Generator) (spec : FieldSpec) (nextCell : Nat) : Generator :=
  { g with
    fields := g.fields ++ [spec]
    operations := NameMap.insertAll spec.operations g.operations
    nextCell := nextCell }

/-- The nested schema that a script makes for a field with the singular name. -/
def nested (g : Generator) (singular : String) (schema : Option Script) : Option SubSchema :=
  schema.map fun script => ⟨singular, script, g.inflector, g.options, g.nextCell⟩

/-- The next cell after a field that may have a nested schema. -/
def cellAfter (g : Generator) (schema : Option Script) : Nat :=
  if schema.isSome then g.nextCell + 1 else g.nextCell

/-- The specification of a field with a plural name that is declared now. -/
def pluralSpec (g : Generator) (schema : Option Script) (callback : Option Expr)
    (kind : Options → String → Option SubSchema → FieldKind) (name singular : String) :
    FieldSpec :=
  ⟨name, kind g.options singular (g.nested singular schema), none, callback⟩

/-- The result of declaring a field with a plural name, whose specification depends on its names
    and whose options may be in conflict. -/
def withPlural (g : Generator) (name : String) (inConflict : Bool)
    (conflict : String → DefinitionFault) (schema : Option Script)
    (spec : String → String → FieldSpec) : EStateM.Result DefinitionFault Generator Unit :=
  match g.checkName name with
  | .error fault => .error fault g
  | .ok plural =>
      match g.singularName plural with
      | .error fault => .error fault g
      | .ok singular =>
          if inConflict then .error (conflict plural) g
          else .ok () (g.extend (spec plural singular) (g.cellAfter schema))

/-- A name is accepted if it is not blank and not taken, and loses the white space around it. -/
theorem checkName_eq_ok_iff (g : Generator) (name accepted : String) :
    g.checkName name = .ok accepted ↔
      String.ofList (Text.trim name.toList) = accepted ∧ accepted.isEmpty = false ∧
        NameMap.contains g.operations accepted = false := by
  unfold checkName
  constructor
  · intro h
    simp only [] at h
    split at h
    · exact absurd h (by simp only [reduceCtorEq, not_false_eq_true])
    -- The name is not empty; it remains to ask whether it is taken.
    · rename_i hblank
      split at h
      · exact absurd h (by simp only [reduceCtorEq, not_false_eq_true])
      · rename_i htaken
        rw [Except.ok.injEq] at h
        rw [← h]
        exact ⟨rfl, eq_false_of_ne_true hblank, eq_false_of_ne_true htaken⟩
  · rintro ⟨rfl, hblank, htaken⟩
    simp only [hblank, htaken, Bool.false_eq_true, if_false]

/-- A singular form is accepted if it differs from the plural and is not taken. -/
theorem singularName_eq_ok_iff (g : Generator) (plural accepted : String) :
    g.singularName plural = .ok accepted ↔
      g.inflector.singularize plural = accepted ∧ accepted ≠ plural ∧
        NameMap.contains g.operations accepted = false := by
  unfold singularName
  constructor
  · intro h
    simp only [] at h
    split at h
    · exact absurd h (by simp only [reduceCtorEq, not_false_eq_true])
    · rename_i hsame
      split at h
      · exact absurd h (by simp only [reduceCtorEq, not_false_eq_true])
      · rename_i htaken
        rw [Except.ok.injEq] at h
        rw [← h]
        exact ⟨rfl, hsame, eq_false_of_ne_true htaken⟩
  · rintro ⟨rfl, hsame, htaken⟩
    simp only [if_neg hsame, htaken, Bool.false_eq_true, if_false]

theorem inspecting_bind {α β : Type} (look : Generator → Except DefinitionFault α)
    (next : α → Declaring β) (g : Generator) :
    (inspecting look >>= next) g =
      match look g with
      | .ok a => next a g
      | .error fault => .error fault g := by
  simp only [bind, EStateM.bind, inspecting]
  cases look g <;> rfl

theorem register_of_free (g : Generator) (name : String) (operation : Operation)
    (h : NameMap.contains g.operations name = false) :
    register name operation g =
      .ok () { g with operations := NameMap.insert name operation g.operations } := by
  unfold register
  rw [get_bind]
  simp only [h, Bool.false_eq_true, if_false]
  rfl

theorem nestAny_eq (g : Generator) (singular : String) (schema : Option Script) :
    nestAny singular schema g =
      .ok (g.nested singular schema) { g with nextCell := g.cellAfter schema } := by
  cases schema <;> rfl

/-- What registering a plural and a singular name comes to when both are free. -/
theorem register_both (g : Generator) (spec : FieldSpec) (singular : String)
    (whole single : Operation)
    (hname : NameMap.contains g.operations spec.name = false) (hne : singular ≠ spec.name)
    (hsingular : NameMap.contains g.operations singular = false)
    (hops : spec.operations = [(spec.name, whole), (singular, single)]) :
    (do register spec.name whole; register singular single; addField spec) g =
      .ok () (g.extend spec g.nextCell) := by
  -- The first registration takes one name only, and that is not the second one.
  have hsecond :
      NameMap.contains (NameMap.insert spec.name whole g.operations) singular = false := by
    unfold NameMap.contains
    rw [NameMap.get?_insert_of_ne _ _ _ _ hne]
    exact hsingular
  rw [bind_of_ok _ _ _ _ _ (register_of_free g spec.name whole hname)]
  rw [bind_of_ok _ _ _ _ _ (register_of_free _ singular single hsecond)]
  simp only [extend, hops, NameMap.insertAll, List.foldl_cons, List.foldl_nil]
  rfl

/-- A scalar is refused by the check of its name or not at all. -/
theorem declareScalar_eq (g : Generator) (category : Category) (name : String)
    (validation : Option Predicate) (callback : Option Expr) :
    declareScalar category name validation callback g =
      match g.checkName name with
      | .error fault => .error fault g
      | .ok accepted =>
          .ok () (g.extend ⟨accepted, .scalar (.category category), validation, callback⟩
            g.nextCell) := by
  unfold declareScalar
  rw [inspecting_bind]
  cases hname : g.checkName name with
  | error fault => rfl
  | ok accepted =>
      have hfree := ((checkName_eq_ok_iff g name accepted).mp hname).2.2
      simp only []
      rw [bind_of_ok _ _ _ _ _ (register_of_free g accepted _ hfree)]
      rfl

/-- A field with a plural name is refused by one of the three conditions that are checked before
    it is registered, provided that it is registered under its kind. -/
theorem declarePlural_eq (g : Generator) (name : String) (inConflict : Bool)
    (conflict : String → DefinitionFault) (schema : Option Script) (callback : Option Expr)
    (kind : Options → String → Option SubSchema → FieldKind)
    (whole single : FieldSpec → Operation)
    (hkind : ∀ plural singular, (g.pluralSpec schema callback kind plural singular).operations =
      [(plural, whole (g.pluralSpec schema callback kind plural singular)),
       (singular, single (g.pluralSpec schema callback kind plural singular))]) :
    declarePlural name inConflict conflict schema callback kind whole single g =
      g.withPlural name inConflict conflict schema (g.pluralSpec schema callback kind) := by
  unfold declarePlural withPlural
  rw [inspecting_bind]
  cases hname : g.checkName name with
  | error fault => rfl
  | ok plural =>
      simp only []
      rw [inspecting_bind]
      cases hsingular : g.singularName plural with
      | error fault => rfl
      | ok singular =>
          cases inConflict with
          | true => rfl
          | false =>
              -- All checks are passed: both names are free and differ, so both operations are
              -- registered.
              have hfree := ((checkName_eq_ok_iff g name plural).mp hname).2.2
              have hform := (singularName_eq_ok_iff g plural singular).mp hsingular
              simp only [Bool.false_eq_true, if_false]
              rw [bind_of_ok _ _ _ _ _ (nestAny_eq g singular schema)]
              exact register_both { g with nextCell := g.cellAfter schema }
                (g.pluralSpec schema callback kind plural singular) singular _ _
                hfree hform.2.1 hform.2.2 (hkind plural singular)

theorem declareArray_eq (g : Generator) (name : String) (item : Option Constraint)
    (schema : Option Script) (callback : Option Expr) :
    declareArray name item schema callback g =
      g.withPlural name (item.isSome && schema.isSome) .conflictingItemType schema
        (g.pluralSpec schema callback
          fun options singular nested => .array singular item nested options.itemCallback) := by
  unfold declareArray
  refine declarePlural_eq g name _ _ schema callback _ .arrayPlural .arrayItem ?_
  intro plural singular
  rfl

theorem declareHash_eq (g : Generator) (name : String) (key value : Option Constraint)
    (schema : Option Script) (callback : Option Expr) :
    declareHash name key value schema callback g =
      g.withPlural name (value.isSome && schema.isSome) .conflictingValueType schema
        (g.pluralSpec schema callback
          fun _ singular nested => .hash singular key value nested) := by
  unfold declareHash
  refine declarePlural_eq g name _ _ schema callback _ .hashPlural .hashEntry ?_
  intro plural singular
  rfl

/-- A plural declaration is refused without a trace, or adds one field under two free names. -/
theorem withPlural_cases (g : Generator) (name : String) (inConflict : Bool)
    (conflict : String → DefinitionFault) (schema : Option Script)
    (spec : String → String → FieldSpec) :
    (∃ fault, g.withPlural name inConflict conflict schema spec = .error fault g) ∨
      ∃ plural singular, g.checkName name = .ok plural ∧ g.singularName plural = .ok singular ∧
        inConflict = false ∧
        g.withPlural name inConflict conflict schema spec =
          .ok () (g.extend (spec plural singular) (g.cellAfter schema)) := by
  unfold withPlural
  cases hname : g.checkName name with
  | error fault => exact Or.inl ⟨fault, rfl⟩
  | ok plural =>
      simp only []
      cases hsingular : g.singularName plural with
      | error fault => exact Or.inl ⟨fault, rfl⟩
      | ok singular =>
          cases inConflict with
          | true => exact Or.inl ⟨conflict plural, rfl⟩
          | false => exact Or.inr ⟨plural, singular, rfl, hsingular, rfl, rfl⟩

end Generator

end FieldSchema
