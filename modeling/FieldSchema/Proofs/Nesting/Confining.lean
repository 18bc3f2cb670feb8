import FieldSchema.Proofs.Code.Inheriting

/-!
# Families of Nested Schemas

Sets of nested schemas that no run can leave.

Code never makes up a nested schema. It passes on those that the values it is
given lead to, and new ones come from scripts: the definition of a nested
schema has operations that were made for the schemas nested in it in turn. So
if a set of nested schemas contains with each also those that its script
declares, then everything stays within the set that was within it before, the
values that code comes to, the definitions that are kept or have names, and the
hosts that blocks are run on.

Such a set may be chosen to suit the question. The largest one says nothing,
and a smaller one says more.

## Main definitions

* `Family`: A set that contains with each nested schema those that its script declares.
* `World.Confined`: Everything in the world leads to nested schemas of a set.

## Theorems

* `definition_confined`: Making a nested definition does not lead out of a family.
* `confined_transmits`: Nor does running code.
-/

namespace FieldSchema

section

variable (S : SubSchema → Prop)

/-- With each nested schema the set contains those that its script declares, up to its first fault
    if it has one. -/
def Family : Prop :=
  ∀ sub, S sub → ∀ w,
    (World.defineUpToFault sub.inflector sub.options sub.script w).1.Confined S

/-- All that has a name in the world, and all that is in a cell, leads to nested schemas of the
    set. -/
structure World.Confined (w : World) : Prop where
  hosts : HostsConfined S w.hosts
  stocks : w.Stocks (Definition.Confined S) (Definition.Confined S)

theorem World.confined_empty : World.empty.Confined S :=
  ⟨fun _ _ h => (nomatch h), stocks_empty⟩

theorem World.Confined.mono (w : World) (T : SubSchema → Prop) (hw : w.Confined S)
    (hT : ∀ sub, S sub → T sub) : w.Confined T where
  hosts name h hh := Value.Confined.mono S (.nested h) T (hw.hosts name h hh) hT
  stocks :=
    ⟨fun cell d hd op hop sub hsub => hT sub (hw.stocks.cached cell d hd op hop sub hsub),
      fun name d hd op hop sub hsub => hT sub (hw.stocks.named name d hd op hop sub hsub)⟩

/-- A script changes nothing in a world that leads to nested schemas. -/
theorem World.Confined.defineUpToFault (inflector : Inflector) (options : Options)
    (script : Script) (w : World) (hw : w.Confined S) :
    (World.defineUpToFault inflector options script w).2.Confined S := by
  refine ⟨?_, stocks_defineUpToFault inflector options script w hw.stocks⟩
  unfold World.defineUpToFault
  cases Draft.runScript script (w.draft inflector options) <;> exact hw.hosts

variable {S}

/-- The definition of a nested schema of a family leads to the family alone, whether it was kept or
    is made now. -/
theorem definition_confined (hS : Family S) (sub : SubSchema) (hsub : S sub) (w : World)
    (hw : w.Confined S) :
    Ends (fun d v => v.Confined S ∧ d.Confined S) (fun _ v => v.Confined S)
      (sub.definition w) := by
  -- A cell may be filled meanwhile, but no name is given to anything.
  have hstocks := definition_stocks sub w hw.stocks (hS sub hsub w)
  have hnamed := definition_hosts sub w
  cases hresult : sub.definition w with
  | ok d v =>
      rw [hresult] at hstocks hnamed
      obtain ⟨hv, hd⟩ := hstocks
      exact ⟨⟨hnamed ▸ hw.hosts, hv⟩, hd⟩
  | error fault v =>
      rw [hresult] at hstocks hnamed
      exact ⟨hnamed ▸ hw.hosts, hstocks⟩

/-- No run leaves a family. -/
theorem confined_transmits (hS : Family S) :
    Transmits (.ofValues (Value.Confined S) (World.Confined S)) where
  closed := confined_closed S
  self _ hh := hh
  put spec write h hwrite hh := (confined_closed S).put spec write hwrite h hh
  named _ hw := hw.hosts
  note w event hw := ⟨hw.hosts, stocks_note w event hw.stocks⟩
  install h name tag trace body hh :=
    Host.confined_install S h hh name _ (Operation.confined_custom S tag trace body)
  attach h _ name d hw hd hh :=
    confined_attachWith S d (hw.stocks.named name d hd) d.inspectable h hh
  nested h w name op sub hh hw hop hschema := by
    have hsub := Host.confined_operation? S h hh name op hop sub hschema
    refine ends_mono _ (definition_confined hS sub hsub w hw) ?_ fun _ _ hv => hv
    exact fun d v hv => ⟨hv.1, confined_instantiate S d hv.2⟩

end

end FieldSchema
