import FieldSchema.Report
import FieldSchema.Proofs.Inflection.LoneEnding
import FieldSchema.Proofs.Schema.InStep

/-!
# Names of Operations

Which names a schema gives to its operations.

A declaration trims the name it is given and refuses it if nothing is left, so
the name of a field is always neat. The singular form is not looked at in this
way. It must differ from the plural and be free, and apart from that it is what
the inflector says. So a name that is not neat can only be the singular form of
a field, and it is one exactly if the inflector makes such a form of the name
of the field.

The rules of English do so for words with a lone ending, which lose it. What is
left is nothing or ends in white space. Such words can be declared, and a
report says that they are fine.

## Main definitions

* `FieldSpec.WellNamed`: What a declaration makes sure of in the names of a field.

## Theorems

* `declaration_wellNamed`: A declaration adds a field that is well named.
* `defineUpToFault_wellNamed`: All fields of a schema are.
* `mem_operationNames_iff`: The names of the operations are those of the fields.
* `Report.statusAndDetail_ok_iff`: Which names a report says are fine.
* `operation_not_neat_iff`: Which names are not neat.
-/

namespace FieldSchema

open Text

/-- The name of the field is neat, and its singular form is another word that the inflector makes
    of it. -/
structure FieldSpec.WellNamed (inflector : Inflector) (spec : FieldSpec) : Prop where
  neat : Neat spec.name.toList
  singular : ∀ singular, spec.singular? = some singular →
    inflector.singularize spec.name = singular ∧ singular ≠ spec.name

namespace Generator

/-- The generator asks the inflector, and all its fields are well named. -/
structure WellNamed (inflector : Inflector) (g : Generator) : Prop where
  inflector_eq : g.inflector = inflector
  fields : ∀ spec ∈ g.fields, spec.WellNamed inflector

theorem neat_of_checkName (g : Generator) (name accepted : String)
    (h : g.checkName name = .ok accepted) : Neat accepted.toList := by
  obtain ⟨rfl, hne, -⟩ := (checkName_eq_ok_iff g name accepted).mp h
  rw [String.toList_ofList]
  refine neat_trim name.toList fun hnil => ?_
  rw [hnil] at hne
  exact nomatch hne

/-- A singular form that is accepted is another word that the inflector makes of the plural. -/
theorem wellNamed_of_plural (inflector : Inflector) (g : Generator) (hg : g.inflector = inflector)
    (name plural singular : String) (hplural : g.checkName name = .ok plural)
    (hsingular : g.singularName plural = .ok singular) (spec : FieldSpec)
    (hname : spec.name = plural) (hform : spec.singular? = some singular) :
    spec.WellNamed inflector := by
  obtain ⟨hmade, hne, -⟩ := (singularName_eq_ok_iff g plural singular).mp hsingular
  rw [hg] at hmade
  refine ⟨?_, fun form hother => ?_⟩
  · rw [hname]
    exact neat_of_checkName g name plural hplural
  · rw [hname, ← Option.some.inj (hform.symm.trans hother)]
    exact ⟨hmade, hne⟩

/-- The field that a line declares is well named. -/
theorem Declares.wellNamed (inflector : Inflector) (g : Generator) (hg : g.inflector = inflector)
    (line : Declaration) (spec : FieldSpec) (nextCell : Nat)
    (h : g.Declares line spec nextCell) : spec.WellNamed inflector := by
  cases h with
  | scalar category name accepted validation callback haccepted =>
      refine ⟨neat_of_checkName g name accepted haccepted, fun form hform => ?_⟩
      exact absurd hform.symm (Option.some_ne_none form)
  | array name plural singular item schema callback hplural hsingular _ =>
      exact wellNamed_of_plural inflector g hg name plural singular hplural hsingular _ rfl rfl
  | hash name plural singular key value schema callback hplural hsingular _ =>
      exact wellNamed_of_plural inflector g hg name plural singular hplural hsingular _ rfl rfl

/-- A declaration adds a well-named field or none. -/
theorem declaration_wellNamed (inflector : Inflector) (line : Declaration) (act : Declaring Unit)
    (g : Generator) (hact : line.act? = some act) (h : g.WellNamed inflector) :
    (finalState (act g)).WellNamed inflector := by
  rcases declaration_cases line act g hact with hsame | ⟨spec, nextCell, hspec, hmore⟩
  · rw [hsame]
    exact h
  · have hnew := hspec.wellNamed inflector g h.inflector_eq line spec nextCell
    rw [hmore]
    exact ⟨h.inflector_eq,
      List.forall_mem_append.mpr ⟨h.fields, List.forall_mem_singleton.mpr hnew⟩⟩

end Generator

namespace World

/-- All fields of a schema are well named, whether its script ended in a fault or not. -/
theorem defineUpToFault_wellNamed (inflector : Inflector) (options : Options) (script : Script)
    (w : World) :
    ∀ spec ∈ (defineUpToFault inflector options script w).1.fields, spec.WellNamed inflector := by
  rw [defineUpToFault_eq]
  exact (Draft.runScript_keeps (Generator.WellNamed inflector) script _
    (fun line _ act hact g hg => Generator.declaration_wellNamed inflector line act g hact hg)
    ⟨rfl, fun _ hmem => absurd hmem List.not_mem_nil⟩).fields

/-- The names of the operations are those of the fields, the singular ones included. -/
theorem mem_operationNames_iff (inflector : Inflector) (options : Options) (script : Script)
    (w : World) (name : String) :
    name ∈ (defineUpToFault inflector options script w).1.operationNames ↔
      ∃ spec ∈ (defineUpToFault inflector options script w).1.fields,
        spec.name = name ∨ spec.singular? = some name := by
  have hstep := (defineUpToFault_tabulates inflector options script w).inStep
  rw [hstep.names_perm.mem_iff, List.mem_append, List.mem_map, List.mem_filterMap]
  simp only [and_or_left, exists_or]

/-- A name that is not neat is what the inflector makes of the name of a field. -/
theorem not_neat_iff (inflector : Inflector) (options : Options) (script : Script) (w : World)
    (name : String)
    (hname : name ∈ (defineUpToFault inflector options script w).1.operationNames) :
    ¬Neat name.toList ↔
      ∃ spec ∈ (defineUpToFault inflector options script w).1.fields,
        spec.singular? = some name ∧ ¬Neat (inflector.singularize spec.name).toList := by
  have hwell := defineUpToFault_wellNamed inflector options script w
  constructor
  · intro hnot
    obtain ⟨spec, hmem, hform⟩ := (mem_operationNames_iff inflector options script w name).mp hname
    rcases hform with rfl | hform
    · exact absurd (hwell spec hmem).neat hnot
    · refine ⟨spec, hmem, hform, ?_⟩
      rw [((hwell spec hmem).singular name hform).1]
      exact hnot
  · rintro ⟨spec, hmem, hform, hnot⟩
    rw [((hwell spec hmem).singular name hform).1] at hnot
    exact hnot

end World

namespace Inflector

theorem english_singularize_toList (word : String) :
    (english.singularize word).toList = RuleSet.english.singularize word.toList :=
  String.toList_ofList

end Inflector

namespace Report

/-- A name that can be declared is reported with its singular form. -/
theorem ofName_of_ok (inflector : Inflector) (options : Options) (name plural singular : String)
    (hplural : (Generator.new inflector options 0).checkName name = .ok plural)
    (hsingular : (Generator.new inflector options 0).singularName plural = .ok singular) :
    ofName inflector options name = ⟨name, some singular, none⟩ := by
  obtain ⟨htrim, -, -⟩ := (Generator.checkName_eq_ok_iff _ name plural).mp hplural
  unfold ofName
  rw [Generator.declareArray_eq, Generator.withPlural, hplural]
  simp only []
  rw [hsingular, htrim]
  simp only [Option.isSome_none, Bool.and_self, Bool.false_eq_true, if_false, Definition.field?,
    Generator.finish, Generator.extend, Generator.new, List.nil_append]
  -- The only field there is has the name that is looked for.
  rw [List.find?_cons_of_pos (by exact beq_self_eq_true plural)]
  rfl

/-- A name that cannot be declared is reported with the fault. -/
theorem ofName_of_error (inflector : Inflector) (options : Options) (name : String)
    (fault : DefinitionFault) (g : Generator)
    (h : Generator.declareArray name none none none (.new inflector options 0) = .error fault g) :
    ofName inflector options name = ⟨name, none, some fault⟩ := by
  unfold ofName
  rw [h]

/-- A report says that a name is fine if the inflector makes another word of it. -/
theorem statusAndDetail_ok_iff (inflector : Inflector) (options : Options) (name detail : String) :
    (ofName inflector options name).statusAndDetail = ("ok", detail) ↔
      trim name.toList ≠ [] ∧ inflector.singularize (String.ofList (trim name.toList)) = detail ∧
        detail ≠ String.ofList (trim name.toList) := by
  constructor
  · intro h
    have hcases := Generator.declareArray_eq (.new inflector options 0) name none none none
    -- The report is made by declaring an array under the name, with nothing declared before.
    rcases Generator.withPlural_cases (.new inflector options 0) name _ .conflictingItemType none _
      with ⟨fault, hresult⟩ | ⟨plural, singular, hplural, hsingular, -, -⟩
    · rw [hresult] at hcases
      rw [ofName_of_error inflector options name fault _ hcases] at h
      simp [statusAndDetail] at h
    · rw [ofName_of_ok inflector options name plural singular hplural hsingular] at h
      obtain rfl : singular = detail := congrArg Prod.snd h
      have hneat := Generator.neat_of_checkName _ name plural hplural
      obtain ⟨rfl, -, -⟩ := (Generator.checkName_eq_ok_iff _ name plural).mp hplural
      obtain ⟨hmade, hne, -⟩ := (Generator.singularName_eq_ok_iff _ _ singular).mp hsingular
      rw [String.toList_ofList] at hneat
      exact ⟨hneat.1, hmade, hne⟩
  · rintro ⟨hnonempty, hmade, hne⟩
    -- Nothing is taken in a new generator, so neither name is refused for that.
    have hplural := (Generator.checkName_eq_ok_iff (.new inflector options 0) name _).mpr
      ⟨rfl, by simpa using hnonempty, rfl⟩
    have hsingular := (Generator.singularName_eq_ok_iff (.new inflector options 0) _ detail).mpr
      ⟨hmade, hne, rfl⟩
    rw [ofName_of_ok inflector options name _ detail hplural hsingular]
    rfl

/-- A report of English says that a name is fine, with a form that is not neat, exactly if the name
    has a lone ending and does not begin with `oxen`. -/
theorem english_ok_not_neat_iff (options : Options) (name : String) :
    (∃ detail, (ofName .english options name).statusAndDetail = ("ok", detail) ∧
        ¬Neat detail.toList) ↔
      English.LoneEnding (trim name.toList) ∧ ¬English.BeginsWithOxen (trim name.toList) := by
  constructor
  · rintro ⟨detail, hok, hnot⟩
    obtain ⟨hnonempty, rfl, -⟩ := (statusAndDetail_ok_iff .english options name detail).mp hok
    rw [Inflector.english_singularize_toList, String.toList_ofList] at hnot
    exact (English.english_singularize_not_neat_iff _ (neat_trim _ hnonempty)).mp hnot
  · intro hlone
    -- A word with a lone ending has a last character, so it is not empty.
    have hnonempty : trim name.toList ≠ [] := by
      obtain ⟨⟨front, c, heq, -⟩, -⟩ := hlone
      rw [heq]
      exact List.concat_ne_nil c front
    have hneat := neat_trim name.toList hnonempty
    have hnot := (English.english_singularize_not_neat_iff _ hneat).mpr hlone
    have hform := Inflector.english_singularize_toList (String.ofList (trim name.toList))
    rw [String.toList_ofList] at hform
    rw [← hform] at hnot
    refine ⟨_, (statusAndDetail_ok_iff .english options name _).mpr ⟨hnonempty, rfl, ?_⟩, hnot⟩
    -- A name equal to the trimmed one would be neat.
    intro hsame
    rw [hsame, String.toList_ofList] at hnot
    exact hnot hneat

/-- The form that a report of English says is fine is empty exactly if the name is only an `s`. -/
theorem english_ok_empty_iff (options : Options) (name : String) :
    (ofName .english options name).statusAndDetail = ("ok", "") ↔
      ∃ c ∈ ['S', 's', 'ſ'], trim name.toList = [c] := by
  constructor
  · intro h
    obtain ⟨hnonempty, hempty, -⟩ := (statusAndDetail_ok_iff .english options name "").mp h
    have hform := Inflector.english_singularize_toList (String.ofList (trim name.toList))
    rw [String.toList_ofList, hempty] at hform
    -- The empty word is not neat, so the trimmed name has a lone ending, and all but its last
    -- letter is what is reported.
    have hnot : ¬Neat (RuleSet.english.singularize (trim name.toList)) := by
      rw [← hform]
      exact fun hneat => hneat.1 rfl
    obtain ⟨hlone, hnotOxen⟩ :=
      (English.english_singularize_not_neat_iff _ (neat_trim _ hnonempty)).mp hnot
    rw [English.english_singularize_of_loneEnding _ hlone hnotOxen] at hform
    obtain ⟨front, c, heq, hc, -⟩ := hlone
    rw [heq, List.dropLast_concat] at hform
    exact ⟨c, hc, by rw [heq, ← hform]; rfl⟩
  · rintro ⟨c, hc, htrim⟩
    -- A single letter is a lone ending with nothing before it, and too short for oxen.
    have hlone : English.LoneEnding [c] := ⟨[], c, rfl, hc, Or.inl rfl⟩
    have hnotOxen : ¬English.BeginsWithOxen [c] := by
      rintro ⟨start, rest, heq, hletters⟩
      have hlength := congrArg List.length heq
      have hfour := hletters.length_eq
      simp only [List.length_append, List.length_cons, List.length_nil] at hlength hfour
      omega
    have hform := Inflector.english_singularize_toList (String.ofList [c])
    rw [String.toList_ofList, English.english_singularize_of_loneEnding [c] hlone hnotOxen] at hform
    rw [statusAndDetail_ok_iff, htrim]
    refine ⟨List.cons_ne_nil c [], String.toList_injective hform, fun hsame => ?_⟩
    exact absurd (congrArg String.toList hsame) (by simp)

end Report

/-- A name of an operation is not neat exactly if it is what the inflector makes, badly, of the name
    of a field. Under English it is so exactly if that name has a lone ending and does not begin
    with `oxen`, and these are the names that a report of English wrongly says are fine; it gives
    nothing for those that are only an `s`. -/
theorem operation_not_neat_iff (inflector : Inflector) (options : Options) (script : Script)
    (w : World) :
    (∀ name ∈ (World.defineUpToFault inflector options script w).1.operationNames,
      ¬Neat name.toList ↔
        ∃ spec ∈ (World.defineUpToFault inflector options script w).1.fields,
          spec.singular? = some name ∧ ¬Neat (inflector.singularize spec.name).toList) ∧
    (∀ name ∈ (World.defineUpToFault .english options script w).1.operationNames,
      ¬Neat name.toList ↔
        ∃ spec ∈ (World.defineUpToFault .english options script w).1.fields,
          spec.singular? = some name ∧ English.LoneEnding spec.name.toList ∧
            ¬English.BeginsWithOxen spec.name.toList) ∧
    (∀ name,
      (∃ detail, (Report.ofName .english options name).statusAndDetail = ("ok", detail) ∧
          ¬Neat detail.toList) ↔
        English.LoneEnding (trim name.toList) ∧ ¬English.BeginsWithOxen (trim name.toList)) ∧
    (∀ name,
      (Report.ofName .english options name).statusAndDetail = ("ok", "") ↔
        ∃ c ∈ ['S', 's', 'ſ'], trim name.toList = [c]) := by
  refine ⟨World.not_neat_iff inflector options script w, ?_,
    Report.english_ok_not_neat_iff options, Report.english_ok_empty_iff options⟩
  -- With the English rules, the singular form of a neat name is not neat just if the ending is
  -- lone.
  intro name hname
  rw [World.not_neat_iff .english options script w name hname]
  have hwell := World.defineUpToFault_wellNamed .english options script w
  constructor
  · rintro ⟨spec, hmem, hform, hnot⟩
    rw [Inflector.english_singularize_toList] at hnot
    exact ⟨spec, hmem, hform,
      (English.english_singularize_not_neat_iff _ (hwell spec hmem).neat).mp hnot⟩
  · rintro ⟨spec, hmem, hform, hlone⟩
    refine ⟨spec, hmem, hform, ?_⟩
    rw [Inflector.english_singularize_toList]
    exact (English.english_singularize_not_neat_iff _ (hwell spec hmem).neat).mpr hlone

/-- A script that declares an array under a name. -/
def arrayScript (name : String) : Script := [.array name none none none]

/-- A name that is not neat is there if a field has a name with a lone ending. -/
theorem operation_not_neat_iff_padded :
    "x " ∈ (World.defineUpToFault .english {} (arrayScript "x s") .empty).1.operationNames ∧
      ∃ spec ∈ (World.defineUpToFault .english {} (arrayScript "x s") .empty).1.fields,
        spec.singular? = some "x " ∧ English.LoneEnding spec.name.toList ∧
          ¬English.BeginsWithOxen spec.name.toList := by
  have hname :
      "x " ∈ (World.defineUpToFault .english {} (arrayScript "x s") .empty).1.operationNames := by
    decide +kernel
  have hnot : ¬Neat "x ".toList := by decide
  have hiff := (operation_not_neat_iff .english {} (arrayScript "x s") .empty).2.1
  exact ⟨hname, (hiff "x " hname).mp hnot⟩

/-- The declaration of `s` succeeds, an operation has no name, and the report says that all is
    fine. -/
theorem operation_empty_of_s :
    (match World.define .english {} (arrayScript "s") .empty with
      | .ok d _ => d.operationNames
      | .error _ _ => []) = ["", "s"] ∧
    (Report.ofName .english {} "s").statusAndDetail = ("ok", "") ∧ ¬Neat "".toList := by
  decide +kernel

end FieldSchema
