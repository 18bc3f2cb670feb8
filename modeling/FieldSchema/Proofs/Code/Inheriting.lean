import FieldSchema.Proofs.Code.Conveying
import FieldSchema.Proofs.Nesting.Asking

/-!
# Values Inherited by Code

Heritable conditions hold of everything that code makes.

A heritable condition is one of stores and takes no notice of operations. So
whatever world code runs in, and whatever it attaches or installs, such a
condition is conveyed: of the world no more is asked than that the condition
holds of its named hosts, and making the definition of a nested schema changes
none of those.

## Main definitions

* `Scene.Meets`: The condition holds of the host at hand and of all named hosts.
* `Inherits`: Where the condition holds before an action, it holds after it.
* `CallsInherit`: Calls with arguments that meet the condition come to values that do.

## Theorems

* `heritable_transmits`: A heritable condition is conveyed in any world.
* `callWithin_inherits`, `evalWithin_inherits`: What calls come to, and code that runs on a host.
-/

namespace FieldSchema

section

variable (S : Value → Prop)

/-- The condition holds of the host at hand and of all hosts that literals can name. -/
structure Scene.Meets (s : Scene) : Prop where
  host : S (.nested s.host)
  named : HostsMeet S s.world.hosts

/-- Where the condition holds before the action, it holds after it, and so does another of what the
    action comes to. -/
def Inherits {α : Type} (Q : α → Prop) (act : Run α) : Prop :=
  ∀ s : Scene, s.Meets S → Ends (fun a t => t.Meets S ∧ Q a) (fun _ t => t.Meets S) (act s)

/-- Calls with arguments that meet the condition come to values that do. -/
def CallsInherit (dispatch : Dispatch) : Prop :=
  ∀ name args, (∀ v ∈ args.given, S v) → Inherits S S (dispatch name args)

end

section

variable {S : Value → Prop}

/-- A heritable condition is conveyed in any world in which it holds of the named hosts. -/
theorem heritable_transmits (hS : Value.Heritable S) :
    Transmits (.ofValues S fun w => HostsMeet S w.hosts) where
  closed := hS.toClosed
  self _ hh := hh
  put spec write h hwrite hh := hS.put spec write hwrite h hh
  named _ hw := hw
  note _ _ hw := hw
  install h _ _ _ _ hh := hS.operations h _ rfl hh
  attach h _ _ d _ _ hh := hS.attachWith d d.inspectable h hh
  nested _ w _ _ sub _ hw _ _ := by
    have hkept : HostsMeet S (finalState (sub.definition w)).hosts :=
      (definition_hosts sub w).symm ▸ hw
    unfold Conditions.Nests
    cases hresult : sub.definition w with
    | ok d v =>
        rw [hresult] at hkept
        exact ⟨hkept, hS.attachWith d d.inspectable .empty hS.emptyHost⟩
    | error fault v =>
        rw [hresult] at hkept
        exact hkept

theorem inherits_of_conveys {α : Type} {Q : α → Prop} (act : Run α)
    (h : Conveys (.ofValues S fun w => HostsMeet S w.hosts) Q act) : Inherits S Q act :=
  fun s hs => ends_mono _ (h s ⟨hs.host, hs.named⟩)
    (fun _ _ ht => ⟨⟨ht.1.host, ht.1.world⟩, ht.2⟩) fun _ _ ht => ⟨ht.host, ht.world⟩

/-- Calls with arguments that meet the condition come to values that do, and leave hosts that do. -/
theorem callWithin_inherits (hS : Value.Heritable S) (depth : Nat) :
    CallsInherit S (callWithin depth) :=
  fun name args hargs =>
    inherits_of_conveys _ (callWithin_conveys (heritable_transmits hS) depth name args hargs)

/-- So does code that runs on a host. -/
theorem evalWithin_inherits (hS : Value.Heritable S) (depth : Nat) (values : List Value)
    (hvalues : ∀ v ∈ values, S v) (e : Expr) : Inherits S S (evalWithin depth values e) :=
  inherits_of_conveys _ (evalWithin_conveys (heritable_transmits hS) depth values hvalues e)

end

end FieldSchema
