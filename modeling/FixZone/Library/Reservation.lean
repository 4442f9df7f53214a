import FixZone.Library.Protocol
import Mathlib.Algebra.BigOperators.Fin
import Mathlib.Algebra.Order.BigOperators.Group.Finset

/-!
# Counts that calls add to

A count over the shared state, such as the number of rows of a kind, and calls each of which
may still add to it. What a call may add is what it holds (`held`), and it comes to hold that
in one step, which books it. If every other step adds no more than its call gives up, then the
count and what is held of it only grow where a call books. So a limit on both together is kept
by a run in which every booking finds room for what is held already
(`Protocol.throughout_count_le`).
-/

namespace FixZone.Library

universe u v w x y z

variable {σ : Type u} {β : Type v} {κ : Type w} {ε : Type x} {α : Type z} {ι : Type y}
  [DecidableEq ι] [Fintype ι]

/-- What the call of a worker holds. -/
def Calls.heldBy (held : κ → ℕ) (st : Calls σ ι κ) (i : ι) : ℕ := (st.running i).elim 0 held

/-- What the calls under way hold. -/
def Calls.reserved (held : κ → ℕ) (st : Calls σ ι κ) : ℕ := ∑ i, st.heldBy held i

/-- What the calls of the other workers hold. -/
def Calls.reservedBesides (held : κ → ℕ) (st : Calls σ ι κ) (i : ι) : ℕ :=
  ∑ j ∈ Finset.univ.erase i, st.heldBy held j

theorem Calls.reserved_eq (held : κ → ℕ) (st : Calls σ ι κ) (i : ι) :
    st.reserved held = st.heldBy held i + st.reservedBesides held i :=
  (Finset.add_sum_erase _ _ (Finset.mem_univ i)).symm

omit [DecidableEq ι] [Fintype ι] in
/-- The worker of a step holds what its call holds. -/
theorem Calls.Advances.heldBy {st : Calls σ ι κ} {turn : Turn ι β ε} {i : ι} {input : ε} {call : κ}
    (h : st.Advances turn i input call) (held : κ → ℕ) : st.heldBy held i = held call := by
  rw [Calls.heldBy, h.running, Option.elim_some]

/-- When a worker's call changes, what the others hold stays. -/
theorem Calls.reserved_update (held : κ → ℕ) (st : Calls σ ι κ) (i : ι) (s : σ)
    (call : Option κ) :
    (Calls.mk s (Function.update st.running i call)).reserved held =
      call.elim 0 held + st.reservedBesides held i := by
  rw [Calls.reserved_eq held _ i]
  congr 1
  · simp [heldBy]
  · refine Finset.sum_congr rfl fun j hj => ?_
    simp [heldBy, Function.update_of_ne (Finset.ne_of_mem_erase hj)]

omit [DecidableEq ι] in
theorem Calls.reserved_quiet (held : κ → ℕ) (s : σ) :
    (Calls.quiet s : Calls σ ι κ).reserved held = 0 := by
  simp [reserved, heldBy, quiet]

theorem Calls.reservedBesides_mono {held held' : κ → ℕ} (h : ∀ call, held call ≤ held' call)
    (st : Calls σ ι κ) (i : ι) : st.reservedBesides held i ≤ st.reservedBesides held' i := by
  refine Finset.sum_le_sum fun j _ => ?_
  unfold heldBy
  cases st.running j with
  | none => exact le_rfl
  | some call => exact h call

namespace Protocol

variable (protocol : Protocol σ β κ ε α)

/-- What is held after a step, in terms of what the call of the step held. -/
theorem reserved_advance (held : κ → ℕ) {st : Calls σ ι κ} {turn : Turn ι β ε} {i : ι} {input : ε}
    {call : κ} (h : st.Advances turn i input call) :
    (protocol.step turn st).reserved held + held call =
      st.reserved held + (protocol.advance input call st.state).2.call?.elim 0 held := by
  have hreserved := Calls.reserved_eq held st i
  have hheld := h.heldBy held
  rw [protocol.step_of_advances h, Calls.reserved_update]
  omega

/-- A request that is taken holds nothing yet. -/
theorem reserved_start {held : κ → ℕ} {st : Calls σ ι κ} {i : ι} {request : β}
    (hinit : held (protocol.init request) = 0) :
    (protocol.step (.start i request : Turn ι β ε) st).reserved held = st.reserved held := by
  cases hrunning : st.running i with
  | none =>
    have hheld : st.heldBy held i = 0 := by simp [Calls.heldBy, hrunning]
    simp only [step, hrunning]
    rw [Calls.reserved_update, Calls.reserved_eq held st i, hheld, Option.elim_some, hinit]
  | some call => simp only [step, hrunning]

/-- A turn leaves the count and what is held of it within the limit, if a call that begins holds
nothing, and a step adds no more than its call gives up or finds room. -/
theorem step_reserved {count : σ → ℕ} {held : κ → ℕ} {limit : ℕ} {st : Calls σ ι κ}
    {turn : Turn ι β ε} (h : count st.state + st.reserved held ≤ limit)
    (hinit : ∀ request, held (protocol.init request) = 0)
    (hadvance : ∀ i input call, st.Advances turn i input call →
      let result := protocol.advance input call st.state
      count result.1 + result.2.call?.elim 0 held ≤ count st.state + held call ∨
        count result.1 + result.2.call?.elim 0 held + st.reservedBesides held i ≤ limit) :
    count (protocol.step turn st).state + (protocol.step turn st).reserved held ≤ limit := by
  obtain ⟨i, request, hturn, hstep⟩ | ⟨i, input, call, hadvances⟩ | ⟨-, hstep⟩ :=
    protocol.step_cases st turn
  · have hbesides : st.reservedBesides held i ≤ st.reserved held := by
      rw [Calls.reserved_eq held st i]
      omega
    rw [hstep, Calls.reserved_update, Option.elim_some, hinit]
    dsimp only
    omega
  · have hreserved := Calls.reserved_eq held st i
    have hheld := hadvances.heldBy held
    have hroom := hadvance i input call hadvances
    rw [protocol.step_of_advances hadvances, Calls.reserved_update]
    dsimp only at hroom ⊢
    omega
  · rw [hstep]
    exact h

/-- **A limit kept by booking.** Where every step that books finds room, the count stays within
the limit in every interleaving. `L` is what is known of every call under way. -/
theorem throughout_count_le (count : σ → ℕ) (held : κ → ℕ) (limit : ℕ) (L : κ → Prop)
    (Books : ε → κ → σ → Prop)
    (hinit : ∀ request, held (protocol.init request) = 0 ∧ L (protocol.init request))
    (hnext : ∀ input call s call', L call → (protocol.advance input call s).2 = .goesOn call' →
      L call')
    (hspend : ∀ input call s, L call → ¬Books input call s →
      count (protocol.advance input call s).1 +
        (protocol.advance input call s).2.call?.elim 0 held ≤ count s + held call)
    {s : σ} (hs : count s ≤ limit) {turns : List (Turn ι β ε)}
    (hroom : Along protocol.step (fun st turn => ∀ i input call, st.Advances turn i input call →
      Books input call st.state →
        count (protocol.advance input call st.state).1 +
          (protocol.advance input call st.state).2.call?.elim 0 held +
            st.reservedBesides held i ≤ limit) (Calls.quiet s) turns) :
    Throughout protocol.step (fun st => count st.state ≤ limit) (Calls.quiet s) turns := by
  refine Library.throughout_iff.mpr fun pre post hturns => ?_
  subst hturns
  -- What is kept: the limit holds of the count and of what is held, and `L` of every call.
  have hkept :=
    Along.run_inv (I := fun st : Calls σ ι κ => count st.state + st.reserved held ≤ limit ∧
    st.Meets (fun _ => True) fun call _ => L call) ?_ ?_ (along_append.mp hroom).1
  · exact (Nat.le_add_right _ _).trans hkept.1
  · rintro st turn ⟨hlimit, hmeets⟩ hbooks
    refine ⟨protocol.step_reserved hlimit (fun request => (hinit request).1) ?_, ?_⟩
    · intro i input call hadvances
      by_cases h : Books input call st.state
      · exact .inr (hbooks i input call hadvances h)
      · exact .inl (hspend input call st.state (hmeets.calls i call hadvances.running) h)
    · exact hmeets.step protocol (fun request => (hinit request).2) (fun _ _ _ _ => trivial)
        (fun i input call hadvances call' hgoes =>
          hnext input call st.state call' (hmeets.calls i call hadvances.running) hgoes)
        fun _ _ _ _ _ h => h
  · exact ⟨by rw [Calls.reserved_quiet]; exact hs, Calls.quiet_meets trivial⟩

end Protocol

end FixZone.Library
