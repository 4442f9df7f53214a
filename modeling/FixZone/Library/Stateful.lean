import FixZone.Library.Guard

/-!
# Calls that read, write and throw

A call over a state is a computation of `EStateM`: what it has written when it throws
stays written. `after` is the state a call leaves, whether it returned or threw, and
`Leaves R` says that every call of it leaves a state that `R` relates to the one it
found. For a preorder `R` a sequence leaves what its parts leave (`Leaves.bind`), and
so does a loop (`Leaves.forM`).
-/

namespace FixZone.Library

universe u

variable {ε σ : Type u} {α β : Type u}

/-- The state after a call, whether it returned or threw. -/
def after (call : EStateM ε σ α) (s : σ) : σ :=
  match call s with
  | .ok _ s' => s'
  | .error _ s' => s'

/-- What a sequence does, from what its first part does. -/
theorem bind_run (x : EStateM ε σ α) (f : α → EStateM ε σ β) (s : σ) :
    (x >>= f) s = match x s with
      | .ok a s' => f a s'
      | .error e s' => .error e s' := by
  show EStateM.bind x f s = _
  unfold EStateM.bind
  cases x s <;> rfl

theorem after_bind (x : EStateM ε σ α) (f : α → EStateM ε σ β) (s : σ) :
    after (x >>= f) s = match x s with
      | .ok a s' => after (f a) s'
      | .error _ s' => s' := by
  unfold after
  rw [bind_run]
  cases x s <;> rfl

/-- What returns after a call writes nothing more. -/
theorem after_bind_pure (x : EStateM ε σ α) (f : α → β) (s : σ) :
    after (x >>= fun a => pure (f a)) s = after x s := by
  rw [after_bind, after]
  cases x s <;> rfl

@[simp] theorem ofExcept_ok_run (a : α) (s : σ) :
    (ofExcept (.ok a : Except ε α) : EStateM ε σ α) s = .ok a s := rfl

@[simp] theorem ofExcept_error_run (e : ε) (s : σ) :
    (ofExcept (.error e) : EStateM ε σ α) s = .error e s := rfl

@[simp] theorem after_ofExcept (x : Except ε α) (s : σ) : after (ofExcept x) s = s := by
  cases x <;> rfl

/-- Every run of the call leaves a state that `R` relates to the one it found. -/
def Leaves (R : σ → σ → Prop) (call : EStateM ε σ α) : Prop := ∀ s, R s (after call s)

variable {R : σ → σ → Prop}

theorem leaves_pure (hrefl : ∀ s, R s s) (a : α) : Leaves R (pure a : EStateM ε σ α) := hrefl

theorem leaves_ofExcept (hrefl : ∀ s, R s s) (x : Except ε α) :
    Leaves R (ofExcept x : EStateM ε σ α) := by
  intro s
  rw [after_ofExcept]
  exact hrefl s

theorem Leaves.bind (htrans : ∀ s s' s'', R s s' → R s' s'' → R s s'') {x : EStateM ε σ α}
    {f : α → EStateM ε σ β} (hx : Leaves R x) (hf : ∀ a, Leaves R (f a)) :
    Leaves R (x >>= f) := by
  intro s
  have hfirst := hx s
  rw [after_bind]
  unfold after at hfirst
  cases hrun : x s with
  | ok a s' =>
    rw [hrun] at hfirst
    exact htrans s s' _ hfirst (hf a s')
  | error e s' =>
    rw [hrun] at hfirst
    exact hfirst

/-- A loop leaves what its rounds leave. -/
theorem Leaves.forM (hrefl : ∀ s, R s s) (htrans : ∀ s s' s'', R s s' → R s' s'' → R s s'')
    {call : α → EStateM ε σ PUnit} (items : List α) (hcall : ∀ a ∈ items, Leaves R (call a)) :
    Leaves R (items.forM call) := by
  induction items with
  | nil => exact leaves_pure hrefl PUnit.unit
  | cons a items ih =>
    show Leaves R (call a >>= fun _ => items.forM call)
    exact (hcall a List.mem_cons_self).bind htrans
      fun _ => ih fun b hb => hcall b (List.mem_cons_of_mem _ hb)

end FixZone.Library
