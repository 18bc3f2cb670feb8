/-!
# Sequencing

What one action after another comes to.

Generators and hosts are both worked on by actions that may stop with a
fault and keep the state they have reached. Two actions in sequence therefore
have one of two results: that of the second, started where the first ended, or
the fault of the first. Proofs about longer actions take them apart by these
two facts, one step at a time, and never by looking into the monad.

What is proved of an action is mostly a condition on its result, of one kind
for values and of another for faults. `Ends` states both at once, because a
fault keeps its state: a condition on values alone would say nothing about
what a failing action has done.

Two actions are compared in the same way. `EndTogether` says that either both
come to a value or both stop with the same fault, and again states a condition
for each case, now on both ends at once. `SucceedTogether` asks for less: where
both stop, the faults may differ.

## Main definitions

* `finalState`: The state in which an action ends, however it ends.
* `Ends`: What holds of a result, for a value and for a fault.
* `EndTogether`: What holds of two results that are both values, or the same fault.
* `SucceedTogether`: What holds of two results that are both values, or both faults.

## Theorems

* `bind_of_ok`: After a success the second action runs.
* `bind_of_error`: After a fault it does not.
* `ends_finalState`: A condition on the state alone holds of the state at the end.
* `ends_bind`: Conditions on two actions give one on their sequence.
* `endTogether_cases`: The two cases, with the results.
* `endTogether_bind`: Sequences end together if their parts do.
-/

namespace FieldSchema

section

variable {ε σ α β : Type}

/-- The state in which an action ends, however it ends. -/
def finalState : EStateM.Result ε σ α → σ
  | .ok _ s => s
  | .error _ s => s

theorem bind_of_ok (act : EStateM ε σ α) (next : α → EStateM ε σ β) (s t : σ) (a : α)
    (h : act s = .ok a t) : (act >>= next) s = next a t := by
  simp only [bind, EStateM.bind, h]

theorem bind_of_error (act : EStateM ε σ α) (next : α → EStateM ε σ β) (s t : σ) (e : ε)
    (h : act s = .error e t) : (act >>= next) s = .error e t := by
  simp only [bind, EStateM.bind, h]

/-- What an action yields does not matter to where it ends. -/
theorem finalState_map (g : α → β) (act : EStateM ε σ α) (s : σ) :
    finalState ((g <$> act) s) = finalState (act s) := by
  simp only [Functor.map, EStateM.map]
  cases act s <;> rfl

theorem get_bind (next : σ → EStateM ε σ β) (s : σ) : (get >>= next) s = next s s := rfl

/-- What holds of a result: one condition for a value and its state, another for a fault. -/
def Ends (Q : α → σ → Prop) (E : ε → σ → Prop) : EStateM.Result ε σ α → Prop
  | .ok a s => Q a s
  | .error e s => E e s

/-- Every action ends in some way. -/
theorem ends_any (result : EStateM.Result ε σ α) :
    Ends (fun _ _ => True) (fun _ _ => True) result := by
  cases result <;> trivial

/-- A sequence ends well if the first action does, and the second wherever the first ends. -/
theorem ends_bind (act : EStateM ε σ α) (next : α → EStateM ε σ β) (s : σ) {R : α → σ → Prop}
    {Q : β → σ → Prop} {E : ε → σ → Prop} (h : Ends R E (act s))
    (hnext : ∀ a t, R a t → Ends Q E (next a t)) : Ends Q E ((act >>= next) s) := by
  cases hact : act s with
  | ok a t =>
      rw [hact] at h
      rw [bind_of_ok act next s t a hact]
      exact hnext a t h
  | error e t =>
      rw [hact] at h
      rw [bind_of_error act next s t e hact]
      exact h

theorem ends_value (result : EStateM.Result ε σ α) (a : α) (s : σ) {Q : α → σ → Prop}
    {E : ε → σ → Prop} (h : Ends Q E result) (hresult : result = .ok a s) : Q a s := by
  rw [hresult] at h
  exact h

theorem ends_fault (result : EStateM.Result ε σ α) (e : ε) (s : σ) {Q : α → σ → Prop}
    {E : ε → σ → Prop} (h : Ends Q E result) (hresult : result = .error e s) : E e s := by
  rw [hresult] at h
  exact h

/-- Of the state in which an action ends it matters not how it ends, if both conditions agree. -/
theorem ends_finalState (result : EStateM.Result ε σ α) {P : σ → Prop}
    (h : Ends (fun _ s => P s) (fun _ s => P s) result) : P (finalState result) := by
  cases result with
  | ok a s => exact h
  | error e s => exact h

theorem ends_mono (result : EStateM.Result ε σ α) {R Q : α → σ → Prop} {D E : ε → σ → Prop}
    (h : Ends R D result) (hvalue : ∀ a s, R a s → Q a s) (hfault : ∀ e s, D e s → E e s) :
    Ends Q E result := by
  cases result with
  | ok a s => exact hvalue a s h
  | error e s => exact hfault e s h

end

section

variable {ε σ τ α β α' β' : Type}

/-- Both results are values, or both are the same fault, and what is said of each case holds. -/
def EndTogether (Q : α → σ → β → τ → Prop) (E : σ → τ → Prop) :
    EStateM.Result ε σ α → EStateM.Result ε τ β → Prop
  | .ok a s, .ok b t => Q a s b t
  | .error e s, .error e' t => e = e' ∧ E s t
  | .ok _ _, .error _ _ => False
  | .error _ _, .ok _ _ => False

theorem endTogether_cases (r : EStateM.Result ε σ α) (r' : EStateM.Result ε τ β)
    {Q : α → σ → β → τ → Prop} {E : σ → τ → Prop} (h : EndTogether Q E r r') :
    (∃ a s b t, r = .ok a s ∧ r' = .ok b t ∧ Q a s b t) ∨
      ∃ e s t, r = .error e s ∧ r' = .error e t ∧ E s t := by
  cases r with
  | ok a s =>
      cases r' with
      | ok b t => exact Or.inl ⟨a, s, b, t, rfl, rfl, h⟩
      | error e t => exact False.elim h
  | error e s =>
      cases r' with
      | ok b t => exact False.elim h
      | error e' t =>
          obtain ⟨rfl, hE⟩ := h
          exact Or.inr ⟨e, s, t, rfl, rfl, hE⟩

/-- Sequences end together if the first actions do, and the second wherever the first end. -/
theorem endTogether_bind (act : EStateM ε σ α) (act' : EStateM ε τ β)
    (next : α → EStateM ε σ α') (next' : β → EStateM ε τ β') (s : σ) (t : τ)
    {R : α → σ → β → τ → Prop} {Q : α' → σ → β' → τ → Prop} {E : σ → τ → Prop}
    (h : EndTogether R E (act s) (act' t))
    (hnext : ∀ a s b t, R a s b t → EndTogether Q E (next a s) (next' b t)) :
    EndTogether Q E ((act >>= next) s) ((act' >>= next') t) := by
  rcases endTogether_cases _ _ h with ⟨a, u, b, v, hact, hact', hR⟩ | ⟨e, u, v, hact, hact', hE⟩
  · rw [bind_of_ok act next s u a hact, bind_of_ok act' next' t v b hact']
    exact hnext a u b v hR
  · rw [bind_of_error act next s u e hact, bind_of_error act' next' t v e hact']
    exact ⟨rfl, hE⟩

/-- Both results are values of which the condition holds, or both are faults, which may differ. -/
def SucceedTogether (Q : α → σ → β → τ → Prop) :
    EStateM.Result ε σ α → EStateM.Result ε τ β → Prop
  | .ok a s, .ok b t => Q a s b t
  | .error _ _, .error _ _ => True
  | .ok _ _, .error _ _ => False
  | .error _ _, .ok _ _ => False

theorem endTogether_mono (r : EStateM.Result ε σ α) (r' : EStateM.Result ε τ β)
    {R Q : α → σ → β → τ → Prop} {D E : σ → τ → Prop} (h : EndTogether R D r r')
    (hvalue : ∀ a s b t, R a s b t → Q a s b t) (hfault : ∀ s t, D s t → E s t) :
    EndTogether Q E r r' := by
  rcases endTogether_cases r r' h with ⟨a, s, b, t, rfl, rfl, hR⟩ | ⟨e, s, t, rfl, rfl, hD⟩
  · exact hvalue a s b t hR
  · exact ⟨rfl, hfault s t hD⟩

end

end FieldSchema
