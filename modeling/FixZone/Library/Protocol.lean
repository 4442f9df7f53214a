import FixZone.Library.Run
import Mathlib.Logic.Function.Basic

/-!
# Calls that run side by side

A call makes one step after another, each of them at once, and between two steps it
keeps what it has found out so far. `Protocol` says how a call begins and what its next
step does to the shared state; `step` is one turn of the interleaving, in which a free
worker takes a request or a busy one makes the next step of its call. What a step finds
outside the state, such as the clock, comes with the turn.

What a call has found out was right when it read it. The rule `Meets.step` is about how
long it stays so: a property of the state, and one of every call under way, hold after a
turn if the step keeps the first, and the second of its own call and of all others. With
it, a condition on steps that is exact for one step is exact for whole interleavings
(`throughout_iff`).
-/

namespace FixZone.Library

universe u v w x y z

/-- What becomes of a call after a step: it goes on, or it returns an answer. -/
inductive Next (κ : Type w) (α : Type z) where
  | goesOn (call : κ)
  | returns (answer : α)

/-- What a worker has of a call after a step. -/
def Next.call? {κ : Type w} {α : Type z} : Next κ α → Option κ
  | .goesOn call => some call
  | .returns _ => none

theorem Next.call?_eq_some_iff {κ : Type w} {α : Type z} {next : Next κ α} {call : κ} :
    next.call? = some call ↔ next = .goesOn call := by
  cases next with
  | goesOn call' => rw [call?, Option.some.injEq, goesOn.injEq]
  | returns answer => exact iff_of_false nofun nofun

/-- A step that ends its call with the error of a computation, and writes nothing then. -/
def orThrows {σ : Type u} {κ : Type w} {ε : Type x} {α : Type y} {β : Type z} (s : σ)
    (result : Except ε α) (go : α → σ × Next κ (Except ε β)) : σ × Next κ (Except ε β) :=
  match result with
  | .error e => (s, .returns (.error e))
  | .ok a => go a

/-- What holds of the state before such a step holds after it, if it does where there is a
result. -/
theorem orThrows_state {σ : Type u} {κ : Type w} {ε : Type x} {α : Type y} {β : Type z}
    {P : σ → Prop} {s : σ} {result : Except ε α} {go : α → σ × Next κ (Except ε β)} (hs : P s)
    (h : ∀ a, result = .ok a → P (go a).1) : P (orThrows s result go).1 := by
  cases result with
  | error e => exact hs
  | ok a => exact h a rfl

/-- A call that goes on after such a step had a result. -/
theorem orThrows_goesOn {σ : Type u} {κ : Type w} {ε : Type x} {α : Type y} {β : Type z} {s : σ}
    {result : Except ε α} {go : α → σ × Next κ (Except ε β)} {call : κ}
    (h : (orThrows s result go).2 = .goesOn call) :
    ∃ a, result = .ok a ∧ (go a).2 = .goesOn call := by
  cases result with
  | error e => cases h
  | ok a => exact ⟨a, rfl, h⟩

/-- Requests `β` over a state `σ`, the calls `κ` they become, what a step finds outside `ε`, and
the answers `α`. -/
structure Protocol (σ : Type u) (β : Type v) (κ : Type w) (ε : Type x) (α : Type z) where
  /-- The call a request becomes. -/
  init : β → κ
  /-- The next step of a call. -/
  advance : ε → κ → σ → σ × Next κ α

/-- A turn: a worker takes a request, or makes the next step of its call. -/
inductive Turn (ι : Type y) (β : Type v) (ε : Type x) where
  | start (i : ι) (request : β)
  | advance (i : ι) (input : ε)

/-- The shared state, and the calls under way. -/
structure Calls (σ : Type u) (ι : Type y) (κ : Type w) where
  state : σ
  running : ι → Option κ

variable {σ : Type u} {β : Type v} {κ : Type w} {ε : Type x} {α : Type z} {ι : Type y}
  [DecidableEq ι]

/-- No call is under way. -/
def Calls.quiet (s : σ) : Calls σ ι κ := ⟨s, fun _ => none⟩

/-- A turn is a step of a call: worker `i` goes on with `call`. -/
structure Calls.Advances (st : Calls σ ι κ) (turn : Turn ι β ε) (i : ι) (input : ε)
    (call : κ) : Prop where
  turn : turn = .advance i input
  running : st.running i = some call

omit [DecidableEq ι] in
/-- A turn is a step of one call at most. -/
theorem Calls.Advances.unique {st : Calls σ ι κ} {turn : Turn ι β ε} {i i' : ι} {input input' : ε}
    {call call' : κ} (h : st.Advances turn i input call) (h' : st.Advances turn i' input' call') :
    i' = i ∧ input' = input ∧ call' = call := by
  obtain ⟨rfl, hrunning⟩ := h
  obtain ⟨hturn, hrunning'⟩ := h'
  cases hturn
  rw [hrunning] at hrunning'
  cases hrunning'
  exact ⟨rfl, rfl, rfl⟩

namespace Protocol

variable (protocol : Protocol σ β κ ε α)

/-- One turn. A worker takes a request only when its last call has returned. -/
def step : Turn ι β ε → Calls σ ι κ → Calls σ ι κ
  | .start i request, st =>
    match st.running i with
    | none => { st with running := Function.update st.running i (some (protocol.init request)) }
    | some _ => st
  | .advance i input, st =>
    match st.running i with
    | none => st
    | some call =>
      let result := protocol.advance input call st.state
      ⟨result.1, Function.update st.running i result.2.call?⟩

variable {st : Calls σ ι κ} {turn : Turn ι β ε} {i : ι} {input : ε} {call : κ}

theorem step_of_advances (h : st.Advances turn i input call) :
    protocol.step turn st = ⟨(protocol.advance input call st.state).1,
      Function.update st.running i (protocol.advance input call st.state).2.call?⟩ := by
  obtain ⟨rfl, hrunning⟩ := h
  simp only [step, hrunning]

/-- Every turn takes a request, is a step of a call, or is nothing. -/
theorem step_cases (st : Calls σ ι κ) (turn : Turn ι β ε) :
    (∃ i request, turn = .start i request ∧ protocol.step turn st =
        { st with running := Function.update st.running i (some (protocol.init request)) }) ∨
      (∃ i input call, st.Advances turn i input call) ∨
      (∀ i input call, ¬ st.Advances turn i input call) ∧ protocol.step turn st = st := by
  cases turn with
  | start i request =>
    cases hrunning : st.running i with
    | none => exact .inl ⟨i, request, rfl, by simp only [step, hrunning]⟩
    | some call =>
      refine .inr (.inr ⟨fun j input call' hadvances => ?_, by simp only [step, hrunning]⟩)
      cases hadvances.turn
  | advance i input =>
    cases hrunning : st.running i with
    | none =>
      refine .inr (.inr ⟨fun j input' call' hadvances => ?_, by simp only [step, hrunning]⟩)
      cases hadvances.turn
      have hsome := hadvances.running
      rw [hrunning] at hsome
      cases hsome
    | some call => exact .inr (.inl ⟨i, input, call, rfl, hrunning⟩)

end Protocol

/-- `G` holds of the state, and `L` of every call under way. -/
structure Calls.Meets (G : σ → Prop) (L : κ → σ → Prop) (st : Calls σ ι κ) : Prop where
  state : G st.state
  calls : ∀ i call, st.running i = some call → L call st.state

variable {G : σ → Prop} {L : κ → σ → Prop} {st : Calls σ ι κ} {turn : Turn ι β ε}

omit [DecidableEq ι] in
theorem Calls.quiet_meets {s : σ} (hs : G s) : (Calls.quiet s : Calls σ ι κ).Meets G L :=
  ⟨hs, fun _ _ h => by cases h⟩

/-- **Noninterference.** A turn keeps a property of the state and one of the calls, if the call it
starts has the second, and the step it makes keeps the first, and the second of its own call and of
any other. -/
theorem Calls.Meets.step (protocol : Protocol σ β κ ε α) (h : st.Meets G L)
    (hstart : ∀ request, L (protocol.init request) st.state)
    (hstate : ∀ i input call, st.Advances turn i input call →
      G (protocol.advance input call st.state).1)
    (hown : ∀ i input call, st.Advances turn i input call →
      ∀ call', (protocol.advance input call st.state).2 = .goesOn call' →
        L call' (protocol.advance input call st.state).1)
    (hother : ∀ i input call, st.Advances turn i input call → ∀ call', L call' st.state →
      L call' (protocol.advance input call st.state).1) :
    (protocol.step turn st).Meets G L := by
  obtain ⟨i, request, -, hstep⟩ | ⟨i, input, call, hadvances⟩ | ⟨-, hstep⟩ :=
    protocol.step_cases st turn
  · rw [hstep]
    refine ⟨h.state, fun j call hj => ?_⟩
    dsimp only at hj ⊢
    by_cases hij : j = i
    · subst hij
      rw [Function.update_self, Option.some.injEq] at hj
      rw [← hj]
      exact hstart request
    · rw [Function.update_of_ne hij] at hj
      exact h.calls j call hj
  · rw [protocol.step_of_advances hadvances]
    refine ⟨hstate i input call hadvances, fun j call' hj => ?_⟩
    dsimp only at hj ⊢
    by_cases hij : j = i
    · subst hij
      rw [Function.update_self] at hj
      refine hown j input call hadvances call' ?_
      cases hnext : (protocol.advance input call st.state).2 with
      | goesOn next =>
        rw [hnext, Next.call?, Option.some.injEq] at hj
        rw [hj]
      | returns answer =>
        rw [hnext] at hj
        cases hj
    · rw [Function.update_of_ne hij] at hj
      exact hother i input call hadvances call' (h.calls j call' hj)
  · rw [hstep]
    exact h

/-- What every step keeps of the state and of the calls, a run keeps. -/
theorem Calls.Meets.run (protocol : Protocol σ β κ ε α)
    (hstart : ∀ request s, G s → L (protocol.init request) s)
    (hstate : ∀ input call s, G s → L call s → G (protocol.advance input call s).1)
    (hown : ∀ input call s, G s → L call s → ∀ call',
      (protocol.advance input call s).2 = .goesOn call' → L call' (protocol.advance input call s).1)
    (hother : ∀ input call s, G s → L call s → ∀ call', L call' s →
      L call' (protocol.advance input call s).1)
    (h : st.Meets G L) (turns : List (Turn ι β ε)) :
    (Library.run protocol.step st turns).Meets G L := by
  refine run_inv (I := fun st : Calls σ ι κ => st.Meets G L) (Q := fun _ => True) ?_ h
    fun _ _ => trivial
  intro st turn hmeets _
  refine hmeets.step protocol (fun request => hstart request _ hmeets.state) ?_ ?_ ?_
  · intro i input call hadvances
    exact hstate input call _ hmeets.state (hmeets.calls i call hadvances.running)
  · intro i input call hadvances
    exact hown input call _ hmeets.state (hmeets.calls i call hadvances.running)
  · intro i input call hadvances
    exact hother input call _ hmeets.state (hmeets.calls i call hadvances.running)

/-- A call waits where it is until its worker has a turn. -/
theorem Protocol.run_waits (protocol : Protocol σ β κ ε α) {i : ι} {call : κ}
    {turns : List (Turn ι β ε)} (hwaits : ∀ turn ∈ turns, ∀ input, turn ≠ .advance i input)
    (h : st.running i = some call) : (run protocol.step st turns).running i = some call := by
  refine run_inv (I := fun st : Calls σ ι κ => st.running i = some call)
    (Q := fun turn => ∀ input, turn ≠ .advance i input) ?_ h hwaits
  intro st turn hrunning hother
  obtain ⟨j, request, rfl, hstep⟩ | ⟨j, input, call', hadvances⟩ | ⟨-, hstep⟩ :=
    protocol.step_cases st turn
  · by_cases hij : i = j
    · subst hij
      -- A worker that is busy takes no request.
      rw [step, hrunning]
      exact hrunning
    · rw [hstep]
      exact (Function.update_of_ne hij _ _).trans hrunning
  · have hij : i ≠ j := by
      rintro rfl
      exact hother input hadvances.turn
    rw [protocol.step_of_advances hadvances]
    exact (Function.update_of_ne hij _ _).trans hrunning
  · rw [hstep]
    exact hrunning

/-- The step that a turn makes, if it makes one, meets `Q`. -/
def Calls.StepMeets (Q : ε → κ → σ → Prop) (st : Calls σ ι κ) (turn : Turn ι β ε) : Prop :=
  ∀ i input call, st.Advances turn i input call → Q input call st.state

omit [DecidableEq ι] in
theorem Calls.stepMeets_iff {Q : ε → κ → σ → Prop} {i : ι} {input : ε} {call : κ}
    (h : st.Advances turn i input call) : st.StepMeets Q turn ↔ Q input call st.state := by
  refine ⟨fun hQ => hQ i input call h, fun hQ j input' call' h' => ?_⟩
  obtain ⟨-, rfl, rfl⟩ := h.unique h'
  exact hQ

omit [DecidableEq ι] in
theorem Calls.stepMeets_of_idle {Q : ε → κ → σ → Prop} {i : ι} {input : ε}
    (h : st.running i = none) : st.StepMeets Q (.advance i input : Turn ι β ε) := by
  rintro _ _ call ⟨hturn, hrunning⟩
  cases hturn
  rw [h] at hrunning
  cases hrunning

/-- Whether a turn makes such a step can be checked. -/
instance Calls.StepMeets.decidable {Q : ε → κ → σ → Prop}
    [∀ input call s, Decidable (Q input call s)]
    (st : Calls σ ι κ) : (turn : Turn ι β ε) → Decidable (st.StepMeets Q turn)
  | .start _ _ => isTrue fun _ _ _ h => by cases h.turn
  | .advance i input =>
    match h : st.running i with
    | none => isTrue (Calls.stepMeets_of_idle h)
    | some call => decidable_of_iff (Q input call st.state) (Calls.stepMeets_iff ⟨rfl, h⟩).symm

/-- **Exactness over interleavings.** Let `G` hold of the states and `L` of the calls of all runs
that stay in `I`. If a step stays in `I` exactly when it meets `Q`, then an interleaving stays in
`I` exactly when all its steps meet `Q`. -/
theorem Protocol.throughout_iff (protocol : Protocol σ β κ ε α) {I : σ → Prop}
    {Q : ε → κ → σ → Prop} (hstart : ∀ request s, G s → L (protocol.init request) s)
    (hstate : ∀ input call s, G s → L call s → I s → I (protocol.advance input call s).1 →
      G (protocol.advance input call s).1)
    (hown : ∀ input call s, G s → L call s → ∀ call',
      (protocol.advance input call s).2 = .goesOn call' → L call' (protocol.advance input call s).1)
    (hother : ∀ input call s, G s → L call s → ∀ call', L call' s →
      L call' (protocol.advance input call s).1)
    (hexact : ∀ input call s, G s → L call s → I s →
      (I (protocol.advance input call s).1 ↔ Q input call s))
    {s : σ} (hG : G s) (hI : I s) (turns : List (Turn ι β ε)) :
    Throughout protocol.step (fun st => I st.state) (Calls.quiet s) turns ↔
      Along protocol.step (Calls.StepMeets Q) (Calls.quiet s) turns := by
  refine throughout_iff_along_of_inv (A := fun st : Calls σ ι κ => st.Meets G L) ?_ ?_
    (Calls.quiet_meets hG) hI turns
  · intro st turn hmeets hin hin'
    refine hmeets.step protocol (fun request => hstart request _ hmeets.state) ?_ ?_ ?_
    · intro i input call hadvances
      rw [protocol.step_of_advances hadvances] at hin'
      exact hstate input call _ hmeets.state (hmeets.calls i call hadvances.running) hin hin'
    · intro i input call hadvances
      exact hown input call _ hmeets.state (hmeets.calls i call hadvances.running)
    · intro i input call hadvances
      exact hother input call _ hmeets.state (hmeets.calls i call hadvances.running)
  · intro st turn hmeets hin
    obtain ⟨i, request, rfl, hstep⟩ | ⟨i, input, call, hadvances⟩ | ⟨hnone, hstep⟩ :=
      protocol.step_cases st turn
    · rw [hstep]
      refine iff_of_true hin fun j input call hadvances => ?_
      cases hadvances.turn
    · rw [Calls.stepMeets_iff hadvances, protocol.step_of_advances hadvances]
      exact hexact input call _ hmeets.state (hmeets.calls i call hadvances.running) hin
    · rw [hstep]
      exact iff_of_true hin fun i input call hadvances => absurd hadvances (hnone i input call)

/-- **A condition on steps that is enough.** Where the steps that meet `Q` keep `G` of the state and
`L` of every call, `G` holds throughout the interleavings all of whose steps meet `Q`. -/
theorem Protocol.throughout_of_along (protocol : Protocol σ β κ ε α) {Q : ε → κ → σ → Prop}
    (hstart : ∀ request s, G s → L (protocol.init request) s)
    (hstate : ∀ input call s, G s → L call s → Q input call s → G (protocol.advance input call s).1)
    (hown : ∀ input call s, G s → L call s → ∀ call',
      (protocol.advance input call s).2 = .goesOn call' → L call' (protocol.advance input call s).1)
    (hother : ∀ input call s, G s → L call s → ∀ call', L call' s →
      L call' (protocol.advance input call s).1)
    {s : σ} (hG : G s) {turns : List (Turn ι β ε)}
    (h : Along protocol.step (Calls.StepMeets Q) (Calls.quiet s) turns) :
    Throughout protocol.step (fun st => G st.state) (Calls.quiet s) turns := by
  refine Library.throughout_iff.mpr fun pre post hturns => ?_
  subst hturns
  have hmeets := Along.run_inv (I := fun st : Calls σ ι κ => st.Meets G L) ?_
    (Calls.quiet_meets hG) (along_append.mp h).1
  · exact hmeets.state
  · intro st turn hmeets hQ
    refine hmeets.step protocol (fun request => hstart request _ hmeets.state) ?_ ?_ ?_
    · intro i input call hadvances
      exact hstate input call _ hmeets.state (hmeets.calls i call hadvances.running)
        (hQ i input call hadvances)
    · intro i input call hadvances
      exact hown input call _ hmeets.state (hmeets.calls i call hadvances.running)
    · intro i input call hadvances
      exact hother input call _ hmeets.state (hmeets.calls i call hadvances.running)

end FixZone.Library
