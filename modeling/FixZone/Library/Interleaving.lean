import FixZone.Library.Run
import Mathlib.Logic.Function.Basic

/-!
# Jobs that read first and write later

A job reads the shared state once, which gives it a list of writes, and then makes the
writes one at a time. Between any two of its moves other jobs may move, and events may
happen that change the state at once. `Jobs` says what reading, writing and events do;
`step` is one move of the interleaving, by the worker that a job runs on.

What a worker has yet to write was right for the state it read. The rule `step_valid`
is about how long it stays so: a property of pending writes that every reading gives,
and that no event and no write of another worker takes away, holds of all workers.
-/

namespace FixZone.Library

universe u v w x y

/-- Jobs `β` over a state `σ`, their writes `ω`, and the events `ε` among them. -/
structure Jobs (σ : Type u) (β : Type v) (ω : Type w) (ε : Type x) where
  /-- What a job that reads the state is going to write. -/
  read : β → σ → List ω
  /-- The state after a write. -/
  write : ω → σ → σ
  /-- Whether a job goes on after a write. -/
  goesOn : ω → σ → Bool
  /-- The state after an event. -/
  event : ε → σ → σ

/-- A move of an interleaving: an event, or a worker that reads for a new job or makes its next
write. -/
inductive Move (ι : Type y) (β : Type v) (ε : Type x) where
  | event (e : ε)
  | read (i : ι) (job : β)
  | write (i : ι)

/-- The shared state, and what each worker has yet to write. -/
structure Workers (σ : Type u) (ι : Type y) (ω : Type w) where
  state : σ
  pending : ι → List ω

/-- `Shuffle xs ys zs`: the members of `zs` are those of `xs` and of `ys`, each in their order. -/
inductive Shuffle {α : Type u} : List α → List α → List α → Prop where
  | nil : Shuffle [] [] []
  | left {x : α} {xs ys zs : List α} : Shuffle xs ys zs → Shuffle (x :: xs) ys (x :: zs)
  | right {y : α} {xs ys zs : List α} : Shuffle xs ys zs → Shuffle xs (y :: ys) (y :: zs)

variable {α : Type u} {σ : Type u} {β : Type v} {ω : Type w} {ε : Type x} {ι : Type y}
  [DecidableEq ι]

theorem Shuffle.eq_of_nil_left {ys zs : List α} (h : Shuffle [] ys zs) : zs = ys := by
  generalize hxs : ([] : List α) = xs at h
  induction h with
  | nil => rfl
  | left => cases hxs
  | right _ ih => rw [ih hxs]

theorem Shuffle.eq_of_nil_right {xs zs : List α} (h : Shuffle xs [] zs) : zs = xs := by
  generalize hys : ([] : List α) = ys at h
  induction h with
  | nil => rfl
  | left _ ih => rw [ih hys]
  | right => cases hys

/-- Two lists of two: one list first, or the heads before the tails. -/
theorem Shuffle.pair_cases {x x' y y' : α} {zs : List α} (h : Shuffle [x, x'] [y, y'] zs) :
    (zs = [x, x', y, y'] ∨ zs = [y, y', x, x']) ∨
      zs = [x, y, x', y'] ∨ zs = [x, y, y', x'] ∨ zs = [y, x, x', y'] ∨ zs = [y, x, y', x'] := by
  cases h with
  | left h =>
    cases h with
    | left h => simp [h.eq_of_nil_left]
    | right h =>
      cases h with
      | left h => simp [h.eq_of_nil_left]
      | right h => simp [h.eq_of_nil_right]
  | right h =>
    cases h with
    | left h =>
      cases h with
      | left h => simp [h.eq_of_nil_left]
      | right h => simp [h.eq_of_nil_right]
    | right h => simp [h.eq_of_nil_right]

/-- No worker has anything to write. -/
def Workers.idle (s : σ) : Workers σ ι ω := ⟨s, fun _ => []⟩

namespace Jobs

variable (jobs : Jobs σ β ω ε)

/-- What a worker has left after the write `w`. -/
def remaining (w : ω) (todo : List ω) (s : σ) : List ω := if jobs.goesOn w s then todo else []

/-- One move. A worker reads for a new job only when its last one is done. -/
def step : Move ι β ε → Workers σ ι ω → Workers σ ι ω
  | .event e, st => { st with state := jobs.event e st.state }
  | .read i job, st =>
    match st.pending i with
    | [] => { st with pending := Function.update st.pending i (jobs.read job st.state) }
    | _ :: _ => st
  | .write i, st =>
    match st.pending i with
    | [] => st
    | w :: todo =>
      { state := jobs.write w st.state
        pending := Function.update st.pending i (jobs.remaining w todo st.state) }

/-- The write a move makes: `i` makes the write `w` and has `todo` to make after it. -/
structure Writes (st : Workers σ ι ω) (move : Move ι β ε) (i : ι) (w : ω)
    (todo : List ω) : Prop where
  move : move = .write i
  pending : st.pending i = w :: todo

theorem remaining_eq (w : ω) (todo : List ω) (s : σ) :
    jobs.remaining w todo s = todo ∨ jobs.remaining w todo s = [] := by
  unfold remaining
  split
  · exact .inl rfl
  · exact .inr rfl

variable {st : Workers σ ι ω} {move : Move ι β ε} {i : ι} {w : ω} {todo : List ω}

theorem step_read (job : β) (h : st.pending i = []) :
    jobs.step (.read i job : Move ι β ε) st =
      { st with pending := Function.update st.pending i (jobs.read job st.state) } := by
  simp only [step, h]

/-- A worker without pending writes writes nothing. -/
theorem step_write_nil (h : st.pending i = []) : jobs.step (.write i : Move ι β ε) st = st := by
  simp only [step, h]

theorem Writes.step (h : Writes st move i w todo) :
    jobs.step move st =
      { state := jobs.write w st.state
        pending := Function.update st.pending i (jobs.remaining w todo st.state) } := by
  obtain ⟨rfl, hpending⟩ := h
  simp only [Jobs.step, hpending]

omit [DecidableEq ι] in
/-- A move makes one write at most. -/
theorem Writes.unique {i' : ι} {w' : ω} {todo' : List ω} (h : Writes st move i w todo)
    (h' : Writes st move i' w' todo') : i' = i ∧ w' = w ∧ todo' = todo := by
  obtain ⟨rfl, hpending⟩ := h
  obtain ⟨hmove, hpending'⟩ := h'
  cases hmove
  rw [hpending] at hpending'
  cases hpending'
  exact ⟨rfl, rfl, rfl⟩

/-- After its last write a worker is idle. -/
@[simp] theorem remaining_nil (w : ω) (s : σ) : jobs.remaining w [] s = [] := by
  simp [remaining]

/-- Every move is an event, a reading, a write, or nothing. -/
theorem step_cases (st : Workers σ ι ω) (move : Move ι β ε) :
    (∃ e, move = .event e ∧ jobs.step move st = { st with state := jobs.event e st.state }) ∨
      (∃ i job, move = .read i job ∧ st.pending i = [] ∧
        jobs.step move st =
          { st with pending := Function.update st.pending i (jobs.read job st.state) }) ∨
      (∃ i w todo, Writes st move i w todo) ∨ jobs.step move st = st := by
  cases move with
  | event e => exact .inl ⟨e, rfl, rfl⟩
  | read i job =>
    cases hpending : st.pending i with
    | nil => exact .inr (.inl ⟨i, job, rfl, hpending, jobs.step_read job hpending⟩)
    | cons w todo => exact .inr (.inr (.inr (by simp only [step, hpending])))
  | write i =>
    cases hpending : st.pending i with
    | nil => exact .inr (.inr (.inr (by simp only [step, hpending])))
    | cons w todo => exact .inr (.inr (.inl ⟨i, w, todo, rfl, hpending⟩))

variable {jobs} in
/-- Pending writes that are right stay so through a move that reads right, and in which no
event and no write of another worker makes them wrong. -/
theorem step_valid {V : List ω → σ → Prop} (hnil : ∀ s, V [] s)
    (hread : ∀ i job, move = .read i job → V (jobs.read job st.state) st.state)
    (hevent : ∀ e, move = .event e → ∀ i, V (st.pending i) (jobs.event e st.state))
    (hown : ∀ i w todo, Writes st move i w todo → V todo (jobs.write w st.state))
    (hother : ∀ i w todo, Writes st move i w todo → ∀ j, j ≠ i →
      V (st.pending j) (jobs.write w st.state))
    (h : ∀ i, V (st.pending i) st.state) (j : ι) :
    V ((jobs.step move st).pending j) (jobs.step move st).state := by
  obtain ⟨e, hmove, hstep⟩ | ⟨i, job, hmove, -, hstep⟩ | ⟨i, w, todo, hwrites⟩ | hstep :=
    jobs.step_cases st move
  · rw [hstep]
    exact hevent e hmove j
  · rw [hstep]
    by_cases hj : j = i
    · subst hj
      simpa using hread j job hmove
    · simpa [Function.update_of_ne hj] using h j
  · rw [hwrites.step jobs]
    by_cases hj : j = i
    · subst hj
      rcases jobs.remaining_eq w todo st.state with hrest | hrest <;>
        simp only [Function.update_self, hrest]
      · exact hown j w todo hwrites
      · exact hnil _
    · simpa [Function.update_of_ne hj] using hother i w todo hwrites j hj
  · rw [hstep]
    exact h j

end Jobs

end FixZone.Library
