import FieldSchema.Proofs.Accessor.AllOrNothing

/-!
# Changes of a Host

What can happen to a host, one change after another.

Code does a great deal between two looks at a host, but only three things
change it. An accessor makes a write, a custom operation is put under a name,
or a definition is attached. A host after a run is therefore the host before
it with some such changes made in order, and it is the list of changes, not the
code, on which anything else about the host depends.

A list of changes says nothing if the changes may be any. So a write stands in
it only if the host had, at that moment, an accessor of the field which accepts
the input of the call for this write. `Leads` says of a list that its changes
are possible one after another and what they lead to.

A `Journal` lists the changes that an action makes, from each scene. An action
is evaluated step by step and the later steps depend on what the earlier ones
have come to, so a journal is put together in the same way as the action:
first the changes of the one step, then those of the next, in the scene that
the one step has left.

## Main definitions

* `Change`: A write, a custom operation, or a definition.
* `Change.Possible`: The write is one that an accessor of the host accepts.
* `Leads`: Possible changes, one after another, and the host that they lead to.
* `Journal`: The changes that an action makes, from each scene.
* `Records`: The changes that a journal lists lead to the host that the action leaves.

## Theorems

* `leads_append`, `leads_split`: Changes after changes.
* `records_bind`, `records_still`: The journal of a sequence, and of what changes nothing.
-/

namespace FieldSchema

/-- A change of a host. -/
inductive Change where
  /-- An accessor of the field, called with the arguments, made the write. -/
  | wrote (spec : FieldSpec) (args : Args) (write : Write)
  /-- A custom operation was put under the name. -/
  | defined (name tag : String) (trace : Bool) (body : Expr)
  /-- The definition was attached. -/
  | attached (d : Definition) (inspectable : Bool)

namespace Change

/-- The host after the change. -/
def apply : Change → Host → Host
  | .wrote spec _ write, h => spec.put write h
  | .defined name tag trace body, h => h.install name (.custom tag trace body)
  | .attached d inspectable, h => d.attachWith inspectable h

/-- The operation accepts the arguments for the write, when called on the host. -/
structure Accepts (op : Operation) (h : Host) (args : Args) (write : Write) : Prop where
  asked : ∃ depth w, op.Asks (callWithin depth) ⟨h, w⟩ args write
  allowed : op.Allows write

/-- A write is made by an accessor of the host that accepts it; other changes can always be made. -/
def Possible (h : Host) : Change → Prop
  | .wrote spec args write => ∃ name op, h.operation? name = some op ∧ op.spec? = some spec ∧
      Accepts op h args write
  | .defined _ _ _ _ => True
  | .attached _ _ => True

end Change

/-- The changes are possible one after another, and lead from the one host to the other. -/
inductive Leads : Host → List Change → Host → Prop
  | nil (h : Host) : Leads h [] h
  | cons (change : Change) (changes : List Change) (h h' : Host) (hpossible : change.Possible h)
      (hrest : Leads (change.apply h) changes h') : Leads h (change :: changes) h'

theorem leads_single (change : Change) (h : Host) (hpossible : change.Possible h) :
    Leads h [change] (change.apply h) :=
  .cons change [] h _ hpossible (.nil _)

theorem leads_append (first second : List Change) (h h' h'' : Host) (hfirst : Leads h first h')
    (hsecond : Leads h' second h'') : Leads h (first ++ second) h'' := by
  induction hfirst with
  | nil h => exact hsecond
  | cons change changes h h' hpossible _ ih =>
      exact .cons change _ h h'' hpossible (ih hsecond)

theorem leads_cons (change : Change) (changes : List Change) (h h' : Host)
    (hleads : Leads h (change :: changes) h') :
    change.Possible h ∧ Leads (change.apply h) changes h' := by
  cases hleads with
  | cons _ _ _ _ hpossible hrest => exact ⟨hpossible, hrest⟩

theorem leads_split (first second : List Change) (h h'' : Host)
    (hleads : Leads h (first ++ second) h'') :
    ∃ h', Leads h first h' ∧ Leads h' second h'' := by
  induction first generalizing h with
  | nil => exact ⟨h, .nil h, hleads⟩
  | cons change rest ih =>
      obtain ⟨hpossible, hrest⟩ := leads_cons change _ h h'' hleads
      obtain ⟨h', hfirst, hsecond⟩ := ih _ hrest
      exact ⟨h', .cons change rest h h' hpossible hfirst, hsecond⟩

/-- The changes that an action makes to the host at hand, in order, from each scene. -/
abbrev Journal := Scene → List Change

namespace Journal

/-- There are no changes. -/
def quiet : Journal := fun _ => []

/-- The changes of an action, and if it comes to a value those of what follows. -/
def andThen {α : Type} (act : Run α) (own : Journal) (next : α → Journal) : Journal := fun s =>
  own s ++
    match act s with
    | .ok a t => next a t
    | .error _ _ => []

end Journal

/-- The changes in the journal lead to the host that the action leaves, however it ends. -/
def Records {α : Type} (act : Run α) (journal : Journal) : Prop :=
  ∀ s, Leads s.host (journal s) (finalState (act s)).host

section

variable {α β : Type}

/-- An action that leaves the host as it is has nothing to record. -/
theorem records_still (act : Run α) (h : ∀ s, (finalState (act s)).host = s.host) :
    Records act .quiet := by
  intro s
  rw [h]
  exact .nil s.host

theorem records_pure (a : α) : Records (pure a) .quiet :=
  records_still _ fun _ => rfl

theorem records_fail (fault : Fault) : Records (Run.fail fault : Run α) .quiet :=
  records_still _ fun _ => rfl

theorem records_bind (act : Run α) (next : α → Run β) (own : Journal) (after : α → Journal)
    (hact : Records act own) (hnext : ∀ a, Records (next a) (after a)) :
    Records (act >>= next) (.andThen act own after) := by
  intro s
  have hown := hact s
  unfold Journal.andThen
  -- After a fault nothing more is run, and nothing more is recorded.
  cases hresult : act s with
  | ok a t =>
      rw [hresult] at hown
      rw [bind_of_ok act next s t a hresult]
      exact leads_append _ _ _ _ _ hown (hnext a t)
  | error halt t =>
      rw [hresult] at hown
      rw [bind_of_error act next s t halt hresult]
      simp only [List.append_nil]
      exact hown

/-- If what follows leaves the host as it is, the journal is that of the action. -/
theorem records_before (act : Run α) (next : α → Run β) (own : Journal) (hact : Records act own)
    (hnext : ∀ a s, (finalState (next a s)).host = s.host) : Records (act >>= next) own := by
  intro s
  have hown := hact s
  cases hresult : act s with
  | ok a t =>
      rw [hresult] at hown
      rw [bind_of_ok act next s t a hresult, hnext]
      exact hown
  | error halt t =>
      rw [hresult] at hown
      rw [bind_of_error act next s t halt hresult]
      exact hown

/-- If the action before leaves the scene as it is, the journal is that of what follows. -/
theorem records_get (next : Scene → Run β) (journal : Journal)
    (hnext : ∀ s, Leads s.host (journal s) (finalState (next s s)).host) :
    Records (get >>= next) journal := by
  intro s
  rw [get_bind]
  exact hnext s

/-- What an attempt has done before a fault stays done. -/
theorem records_recover (act : Run Value) (own : Journal) (hact : Records act own) :
    Records (Run.recover act) own := by
  intro s
  have hown := hact s
  have hsame : (finalState (Run.recover act s)).host = (finalState (act s)).host := by
    unfold Run.recover
    cases act s with
    | ok v t => rfl
    | error halt t => cases halt <;> rfl
  -- Recovering touches the ending and never the host.
  rw [hsame]
  exact hown

end

end FieldSchema
