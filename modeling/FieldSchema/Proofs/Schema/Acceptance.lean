import FieldSchema.Proofs.Sharing.Made

/-!
# Which Scripts Are Accepted

A condition on the lines of a script that does not mention their order.

A declaration is checked against what was declared before it, so it seems to
matter what came first. The checks are of two kinds. Some ask about the line
alone: whether its name is blank, whether the name has a singular form, and
whether its options are in conflict. The others ask whether a name is taken,
first the name of the field and then its singular form. A name is taken by
whatever has it, as a scalar, as a plural or as a singular form, and a refused
line takes none. So a line is accepted if it would be accepted on its own and
none of its names is taken, and a script of such lines is accepted if each of
them would be and all their names are distinct.

What a line declares on its own is the same wherever it stands, apart from the
cell of its nested schema. The cell counts the nested schemas before it, so
here cells are recast.

## Main definitions

* `Declaration.field?`: The field that a line declares on its own.
* `Generator.Accepts`: The line has a field, and the names are free.
* `Acceptable`: Every line has a field, and no name occurs twice.
* `Generator.Holds`: The generator has the fields of some lines, in their order.

## Theorems

* `Declares.transfer`: Where the names are free, a line declares the same field.
* `declaration_accepted_or_refused`: A declaration succeeds if its line is accepted.
* `acceptable_concat`: One more line is acceptable if it is accepted after the others.
* `runScript_acceptable`: A script succeeds if its lines are acceptable, and not otherwise.
* `acceptable_perm`: The order of the lines does not matter to that.
-/

namespace FieldSchema

/-- The field that the line declares where nothing is declared yet; its cell is left out. -/
def Declaration.field? (inflector : Inflector) (options : Options) (line : Declaration) :
    Option FieldSpec :=
  match line.act? with
  | none => none
  | some act =>
      match act (.new inflector options 0) with
      | .ok _ g => g.fields.head?.map (FieldSpec.recast id)
      | .error _ _ => none

/-- The names of the operations that the fields bring. -/
def fieldNames (specs : List FieldSpec) : List String :=
  NameMap.names (specs.flatMap FieldSpec.operations)

theorem fieldNames_append (specs more : List FieldSpec) :
    fieldNames (specs ++ more) = fieldNames specs ++ fieldNames more := by
  unfold fieldNames NameMap.names
  rw [List.flatMap_append, List.map_append]

theorem fieldNames_singleton (spec : FieldSpec) :
    fieldNames [spec] = NameMap.names spec.operations := by
  unfold fieldNames
  rw [List.flatMap_singleton]

/-- Recasting leaves names alone. -/
theorem names_recast (spec : FieldSpec) :
    NameMap.names (spec.recast id).operations = NameMap.names spec.operations := by
  rw [operations_recast, NameMap.names_mapValues]

theorem fieldNames_recast (specs : List FieldSpec) :
    fieldNames (specs.map (FieldSpec.recast id)) = fieldNames specs := by
  induction specs with
  | nil => rfl
  | cons spec rest ih =>
      rw [List.map_cons, ← List.singleton_append, fieldNames_append, fieldNames_singleton,
        names_recast, ih, ← fieldNames_singleton, ← fieldNames_append, List.singleton_append]

namespace Generator

/-- Where the names are free, a line declares the same field, apart from its cell. -/
theorem Declares.transfer (g g' : Generator) (hinflector : g'.inflector = g.inflector)
    (hoptions : g'.options = g.options) (line : Declaration) (spec : FieldSpec) (n : Nat)
    (h : g.Declares line spec n)
    (hfree : ∀ name ∈ NameMap.names spec.operations,
      NameMap.contains g'.operations name = false) :
    ∃ spec' n', g'.Declares line spec' n' ∧ spec'.recast id = spec.recast id := by
  -- A name is refused for what it is or because it is taken; only the second depends on the
  -- generator.
  have hname : ∀ name accepted, g.checkName name = .ok accepted →
      NameMap.contains g'.operations accepted = false → g'.checkName name = .ok accepted := by
    intro name accepted haccepted hfree
    obtain ⟨htrimmed, hblank, -⟩ := (checkName_eq_ok_iff g name accepted).mp haccepted
    exact (checkName_eq_ok_iff g' name accepted).mpr ⟨htrimmed, hblank, hfree⟩
  -- The same for the singular form, which the common inflector makes.
  have hform : ∀ plural singular, g.singularName plural = .ok singular →
      NameMap.contains g'.operations singular = false →
        g'.singularName plural = .ok singular := by
    intro plural singular hsingular hfree
    obtain ⟨hsingle, hne, -⟩ := (singularName_eq_ok_iff g plural singular).mp hsingular
    rw [← hinflector] at hsingle
    exact (singularName_eq_ok_iff g' plural singular).mpr ⟨hsingle, hne, hfree⟩
  -- The nested schemas differ in their cells, which recasting forgets.
  have hnested : ∀ singular schema,
      (g'.nested singular schema).map (SubSchema.recast id) =
        (g.nested singular schema).map (SubSchema.recast id) := by
    intro singular schema
    cases schema with
    | none => rfl
    | some script =>
        simp only [nested, Option.map_some, SubSchema.recast, hinflector, hoptions]
  rw [FieldSpec.names_operations] at hfree
  cases h with
  | scalar category name accepted validation callback haccepted =>
      have hfound := hname name accepted haccepted (hfree accepted List.mem_cons_self)
      exact ⟨_, _, .scalar category name accepted validation callback hfound, rfl⟩
  | array name plural singular item schema callback hplural hsingular hconflict =>
      obtain ⟨hfirst, hsecond⟩ := List.forall_mem_cons.mp hfree
      refine ⟨_, _, .array name plural singular item schema callback
        (hname name plural hplural hfirst)
        (hform plural singular hsingular (hsecond singular List.mem_cons_self)) hconflict, ?_⟩
      simp only [FieldSpec.recast, pluralSpec, FieldKind.recast, hnested, hoptions]
  | hash name plural singular key value schema callback hplural hsingular hconflict =>
      obtain ⟨hfirst, hsecond⟩ := List.forall_mem_cons.mp hfree
      refine ⟨_, _, .hash name plural singular key value schema callback
        (hname name plural hplural hfirst)
        (hform plural singular hsingular (hsecond singular List.mem_cons_self)) hconflict, ?_⟩
      simp only [FieldSpec.recast, pluralSpec, FieldKind.recast, hnested]

/-- A line that declares a field has an action, which succeeds. -/
theorem Declares.act_eq_ok (g : Generator) (line : Declaration) (spec : FieldSpec) (n : Nat)
    (h : g.Declares line spec n) :
    ∃ act, line.act? = some act ∧ act g = .ok () (g.extend spec n) := by
  cases h with
  | scalar category name accepted validation callback haccepted =>
      refine ⟨_, rfl, ?_⟩
      rw [declareScalar_eq, haccepted]
  | array name plural singular item schema callback hplural hsingular hconflict =>
      refine ⟨_, rfl, ?_⟩
      rw [declareArray_eq]
      simp only [withPlural, hplural, hsingular, hconflict, Bool.false_eq_true, if_false]
  | hash name plural singular key value schema callback hplural hsingular hconflict =>
      refine ⟨_, rfl, ?_⟩
      rw [declareHash_eq]
      simp only [withPlural, hplural, hsingular, hconflict, Bool.false_eq_true, if_false]

end Generator

/-- A line has a field on its own if it declares one on a new generator. -/
theorem field?_eq_some_iff (inflector : Inflector) (options : Options) (line : Declaration)
    (own : FieldSpec) :
    line.field? inflector options = some own ↔
      ∃ spec n, (Generator.new inflector options 0).Declares line spec n ∧
        spec.recast id = own := by
  constructor
  · intro h
    unfold Declaration.field? at h
    cases hact : line.act? with
    | none =>
        rw [hact] at h
        exact nomatch h
    | some act =>
        rw [hact] at h
        simp only [] at h
        -- A generator without fields either refuses the line or accepts it as a declaration says.
        rcases Generator.declaration_result line act (.new inflector options 0) hact with
          ⟨fault, hresult⟩ | ⟨spec, n, hspec, hresult⟩
        · rw [hresult] at h
          exact nomatch h
        · rw [hresult] at h
          exact ⟨spec, n, hspec, Option.some.inj h⟩
  · rintro ⟨spec, n, hspec, rfl⟩
    obtain ⟨act, hact, hresult⟩ := hspec.act_eq_ok _ line spec n
    unfold Declaration.field?
    rw [hact]
    simp only []
    rw [hresult]
    rfl

/-- The names of a field that a line declares are distinct. -/
theorem field?_names_nodup (inflector : Inflector) (options : Options) (line : Declaration)
    (own : FieldSpec) (h : line.field? inflector options = some own) :
    (NameMap.names own.operations).Nodup := by
  obtain ⟨spec, n, hspec, rfl⟩ := (field?_eq_some_iff inflector options line own).mp h
  rw [names_recast]
  exact (hspec.names_free _ line spec n).1

namespace Generator

/-- The line would be accepted on its own, and the names of its field are free. -/
def Accepts (g : Generator) (line : Declaration) (own : FieldSpec) : Prop :=
  line.field? g.inflector g.options = some own ∧
    ∀ name ∈ NameMap.names own.operations, NameMap.contains g.operations name = false

/-- A line declares a field if it is accepted, and that is the field. -/
theorem accepts_iff (g : Generator) (line : Declaration) (own : FieldSpec) :
    g.Accepts line own ↔ ∃ spec n, g.Declares line spec n ∧ spec.recast id = own := by
  constructor
  · rintro ⟨hown, hfree⟩
    obtain ⟨spec, n, hspec, rfl⟩ := (field?_eq_some_iff _ _ line own).mp hown
    rw [names_recast] at hfree
    exact Declares.transfer (.new g.inflector g.options 0) g rfl rfl line spec n hspec hfree
  · rintro ⟨spec, n, hspec, rfl⟩
    -- On a new generator no name is taken at all.
    have hnew := Declares.transfer g (.new g.inflector g.options 0) rfl rfl line spec n hspec
      fun _ _ => rfl
    refine ⟨(field?_eq_some_iff _ _ line _).mpr hnew, ?_⟩
    rw [names_recast]
    exact (hspec.names_free g line spec n).2

/-- A declaration succeeds if its line is accepted, and then adds the field; otherwise it is
    refused. -/
theorem declaration_accepted_or_refused (line : Declaration) (act : Declaring Unit) (g : Generator)
    (hact : line.act? = some act) :
    ((∃ fault, act g = .error fault g) ∧ ∀ own, ¬ g.Accepts line own) ∨
      ∃ spec n, g.Accepts line (spec.recast id) ∧ g.Declares line spec n ∧
        act g = .ok () (g.extend spec n) := by
  rcases declaration_result line act g hact with ⟨fault, hresult⟩ | ⟨spec, n, hspec, hresult⟩
  · refine Or.inl ⟨⟨fault, hresult⟩, fun own haccepts => ?_⟩
    obtain ⟨spec, n, hspec, -⟩ := (accepts_iff g line own).mp haccepts
    obtain ⟨act', hact', hok⟩ := hspec.act_eq_ok g line spec n
    obtain rfl : act = act' := Option.some.inj (hact.symm.trans hact')
    exact nomatch hresult.symm.trans hok
  · exact Or.inr ⟨spec, n, (accepts_iff g line _).mpr ⟨spec, n, hspec, rfl⟩, hspec, hresult⟩

end Generator

section

variable (inflector : Inflector) (options : Options)

/-- The fields that the lines declare, each on its own. -/
def ownFields (lines : List Declaration) : List FieldSpec :=
  lines.filterMap (Declaration.field? inflector options)

/-- Every line has a field on its own, and no name occurs twice among those of the fields. -/
structure Acceptable (lines : List Declaration) : Prop where
  declared : ∀ line ∈ lines, (line.field? inflector options).isSome = true
  nodup : (fieldNames (ownFields inflector options lines)).Nodup

/-- The order of the lines does not matter. -/
theorem acceptable_perm (lines lines' : List Declaration) (hperm : lines.Perm lines')
    (h : Acceptable inflector options lines) : Acceptable inflector options lines' where
  declared line hline := h.declared line (hperm.mem_iff.mpr hline)
  nodup := by
    have hfields := (hperm.filterMap (Declaration.field? inflector options)).flatMap_right
      FieldSpec.operations
    exact (hfields.map Prod.fst).nodup_iff.mp h.nodup

theorem ownFields_append (lines more : List Declaration) :
    ownFields inflector options (lines ++ more) =
      ownFields inflector options lines ++ ownFields inflector options more :=
  List.filterMap_append

theorem acceptable_of_append (lines more : List Declaration)
    (h : Acceptable inflector options (lines ++ more)) : Acceptable inflector options lines where
  declared line hline := h.declared line (List.mem_append_left more hline)
  nodup := by
    have hboth := h.nodup
    rw [ownFields_append, fieldNames_append] at hboth
    exact (List.nodup_append.mp hboth).1

/-- One more line is acceptable if its field has names that none of the others has. -/
theorem acceptable_concat (lines : List Declaration) (line : Declaration)
    (h : Acceptable inflector options lines) :
    Acceptable inflector options (lines ++ [line]) ↔
      ∃ own, line.field? inflector options = some own ∧
        ∀ name ∈ NameMap.names own.operations,
          name ∉ fieldNames (ownFields inflector options lines) := by
  constructor
  · intro hmore
    obtain ⟨own, hown⟩ := Option.isSome_iff_exists.mp
      (hmore.declared line (List.mem_append_right lines List.mem_cons_self))
    refine ⟨own, hown, fun name hname hbefore => ?_⟩
    -- The names of the whole script are distinct, so those of its last line are not among the
    -- others.
    have hnodup := hmore.nodup
    have hlast : ownFields inflector options [line] = [own] := List.filterMap_cons_some hown
    rw [ownFields_append, fieldNames_append, hlast, fieldNames_singleton] at hnodup
    exact (List.nodup_append.mp hnodup).2.2 name hbefore name hname rfl
  · rintro ⟨own, hown, hfree⟩
    have hlast : ownFields inflector options [line] = [own] := List.filterMap_cons_some hown
    constructor
    · intro other hother
      rcases List.mem_append.mp hother with hbefore | hnow
      · exact h.declared other hbefore
      · rw [List.mem_singleton.mp hnow, hown]
        rfl
    · rw [ownFields_append, fieldNames_append, hlast, fieldNames_singleton]
      -- The new names are distinct among themselves, and none is among the earlier ones.
      refine List.nodup_append.mpr
        ⟨h.nodup, field?_names_nodup inflector options line own hown, ?_⟩
      rintro name hbefore other hname rfl
      exact hfree name hname hbefore

/-- The generator has the fields of the lines, in their order, and nothing else. -/
structure Generator.Holds (lines : List Declaration) (g : Generator) : Prop where
  inflector_eq : g.inflector = inflector
  options_eq : g.options = options
  fields : g.fields.map (FieldSpec.recast id) = ownFields inflector options lines
  inStep : g.InStep

theorem holds_new (n : Nat) : Generator.Holds inflector options [] (.new inflector options n) :=
  ⟨rfl, rfl, rfl, tabulates_nil⟩

/-- The names that are taken are those of the fields. -/
theorem Generator.Holds.taken_iff (lines : List Declaration) (g : Generator)
    (h : g.Holds inflector options lines) (name : String) :
    NameMap.contains g.operations name = false ↔
      name ∉ fieldNames (ownFields inflector options lines) := by
  have hnames : (NameMap.names g.operations).Perm (fieldNames g.fields) :=
    h.inStep.perm.map Prod.fst
  rw [← Bool.not_eq_true, NameMap.contains_iff, hnames.mem_iff, ← h.fields, fieldNames_recast]

/-- A line is accepted by a generator that holds others if all of them are acceptable. -/
theorem Generator.Holds.accepts_iff (lines : List Declaration) (g : Generator)
    (h : g.Holds inflector options lines) (hlines : Acceptable inflector options lines)
    (line : Declaration) :
    (∃ own, g.Accepts line own) ↔ Acceptable inflector options (lines ++ [line]) := by
  rw [acceptable_concat inflector options lines line hlines]
  unfold Generator.Accepts
  rw [h.inflector_eq, h.options_eq]
  simp only [h.taken_iff]

/-- A script succeeds if its lines, after those before it, are acceptable, and not otherwise. -/
theorem runScript_acceptable (lines before : List Declaration) (d : Draft)
    (hplain : ∀ line ∈ lines, line.act?.isSome = true)
    (hbefore : Acceptable inflector options before)
    (hd : d.generator.Holds inflector options before) :
    Ends
      (fun _ d' => Acceptable inflector options (before ++ lines) ∧
        d'.generator.Holds inflector options (before ++ lines))
      (fun _ _ => ¬ Acceptable inflector options (before ++ lines))
      (Draft.runScript lines d) := by
  induction lines generalizing before d with
  | nil =>
      rw [List.append_nil]
      exact ⟨hbefore, hd⟩
  | cons line rest ih =>
      obtain ⟨hline, hrest⟩ := List.forall_mem_cons.mp hplain
      obtain ⟨act, hact⟩ := Option.isSome_iff_exists.mp hline
      have hsplit : before ++ line :: rest = (before ++ [line]) ++ rest := by
        rw [List.append_assoc, List.singleton_append]
      have haccepts := hd.accepts_iff inflector options before d.generator hbefore line
      rw [Draft.runScript, Draft.runLine_of_act? line act hact, Draft.declare, hsplit]
      rcases Generator.declaration_accepted_or_refused line act d.generator hact with
        ⟨⟨fault, hresult⟩, hrefused⟩ | ⟨spec, n, haccepted, hspec, hresult⟩
      · rw [hresult]
        -- If all lines were acceptable, those up to this one would be, and it would be accepted.
        intro hall
        obtain ⟨own, hown⟩ := haccepts.mpr (acceptable_of_append inflector options _ _ hall)
        exact hrefused own hown
      · rw [hresult]
        refine ih (before ++ [line]) _ hrest (haccepts.mp ⟨_, haccepted⟩) ?_
        have hown := haccepted.1
        rw [hd.inflector_eq, hd.options_eq] at hown
        have hlast : ownFields inflector options [line] = [spec.recast id] :=
          List.filterMap_cons_some hown
        obtain ⟨hnodup, hfree⟩ := hspec.names_free d.generator line spec n
        refine ⟨hd.inflector_eq, hd.options_eq, ?_,
          tabulates_extend d.generator spec n hd.inStep hnodup hfree⟩
        rw [ownFields_append, hlast, ← hd.fields]
        exact List.map_append

end

end FieldSchema
