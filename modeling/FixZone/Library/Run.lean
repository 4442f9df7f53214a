import Mathlib.Data.List.Basic

/-!
# Runs of a transition function

A system that takes one event after another: `step e s` is the state after event
`e` in state `s`, and a run is a list of events. Two kinds of property are stated
of a run. `Along P` says that `P` holds of every step, of the state before it and
its event; `Throughout I` says that `I` holds of every state the run passes
through, the first and the last included.

The rules are induction on the run, done once: an invariant holds at every step
(`Along.with_inv`); two properties of steps that agree on every step agree
along a run (`along_congr`); and where a step keeps a property of states exactly
when its event meets a condition, the property holds throughout a run exactly
when the condition holds along it (`throughout_iff_along`).
-/

namespace FixZone.Library

universe u v

variable {σ : Type u} {ε : Type v} (step : ε → σ → σ)

/-- The state after the events `es`. -/
def run (s : σ) : List ε → σ
  | [] => s
  | e :: es => run (step e s) es

@[simp] theorem run_nil (s : σ) : run step s [] = s := rfl

@[simp] theorem run_cons (s : σ) (e : ε) (es : List ε) :
    run step s (e :: es) = run step (step e s) es := rfl

theorem run_append (s : σ) (es fs : List ε) :
    run step s (es ++ fs) = run step (run step s es) fs := by
  induction es generalizing s with
  | nil => rfl
  | cons e es ih => exact ih (step e s)

/-- `P` holds of every step of the run. -/
def Along (P : σ → ε → Prop) (s : σ) : List ε → Prop
  | [] => True
  | e :: es => P s e ∧ Along P (step e s) es

/-- `I` holds of every state of the run. -/
def Throughout (I : σ → Prop) (s : σ) : List ε → Prop
  | [] => I s
  | e :: es => I s ∧ Throughout I (step e s) es

variable {step}

/-- `Along` in the words of a run: whatever happened before a step, `P` holds of it. -/
theorem along_iff {P : σ → ε → Prop} {s : σ} {es : List ε} :
    Along step P s es ↔ ∀ pre e post, es = pre ++ e :: post → P (run step s pre) e := by
  constructor
  · intro h pre
    induction pre generalizing s es with
    | nil => rintro e post rfl; exact h.1
    | cons a pre ih => rintro e post rfl; exact ih h.2 e post rfl
  · intro h
    induction es generalizing s with
    | nil => trivial
    | cons a es ih =>
      exact ⟨h [] a es rfl, ih fun pre e post he => h (a :: pre) e post (by rw [he]; rfl)⟩

/-- `Throughout` in the words of a run: `I` holds after every part of it. -/
theorem throughout_iff {I : σ → Prop} {s : σ} {es : List ε} :
    Throughout step I s es ↔ ∀ pre post, es = pre ++ post → I (run step s pre) := by
  constructor
  · intro h pre
    induction pre generalizing s es with
    | nil => rintro post rfl; cases es with
      | nil => exact h
      | cons a es => exact h.1
    | cons a pre ih => rintro post rfl; exact ih h.2 post rfl
  · intro h
    induction es generalizing s with
    | nil => exact h [] [] rfl
    | cons a es ih =>
      exact ⟨h [] (a :: es) rfl, ih fun pre post he => h (a :: pre) post (by rw [he]; rfl)⟩

/-- A property of steps can be checked along a run. -/
instance Along.decidable {P : σ → ε → Prop} [∀ s e, Decidable (P s e)] (s : σ) :
    (es : List ε) → Decidable (Along step P s es)
  | [] => isTrue trivial
  | e :: es =>
    have : Decidable (Along step P (step e s) es) := Along.decidable (step e s) es
    inferInstanceAs (Decidable (_ ∧ _))

theorem Along.mono {P Q : σ → ε → Prop} (hPQ : ∀ s e, P s e → Q s e) {s : σ} {es : List ε}
    (h : Along step P s es) : Along step Q s es := by
  induction es generalizing s with
  | nil => trivial
  | cons e es ih => exact ⟨hPQ s e h.1, ih h.2⟩

/-- What holds of these steps in every state holds along the run. -/
theorem along_of_forall {P : σ → ε → Prop} {es : List ε} (h : ∀ e ∈ es, ∀ s, P s e) (s : σ) :
    Along step P s es :=
  along_iff.mpr fun pre e post hes => h e (by simp [hes]) (run step s pre)

theorem along_append {P : σ → ε → Prop} {s : σ} {es fs : List ε} :
    Along step P s (es ++ fs) ↔ Along step P s es ∧ Along step P (run step s es) fs := by
  induction es generalizing s with
  | nil => simp [Along]
  | cons e es ih => simp [Along, ih, and_assoc]

/-- A property of the events alone may be added. -/
theorem Along.and_forall {P : σ → ε → Prop} {Q : ε → Prop} {s : σ} {es : List ε}
    (h : Along step P s es) (hQ : ∀ e ∈ es, Q e) : Along step (fun s e => P s e ∧ Q e) s es := by
  induction es generalizing s with
  | nil => trivial
  | cons e es ih =>
    exact ⟨⟨h.1, hQ e List.mem_cons_self⟩, ih h.2 fun a ha => hQ a (List.mem_cons_of_mem _ ha)⟩

theorem along_congr {P Q : σ → ε → Prop} (hPQ : ∀ s e, P s e ↔ Q s e) (s : σ) (es : List ε) :
    Along step P s es ↔ Along step Q s es :=
  ⟨Along.mono fun s e => (hPQ s e).mp, Along.mono fun s e => (hPQ s e).mpr⟩

/-- Two properties that agree on the steps that meet `R` agree along a run that meets `R`. -/
theorem Along.congr {P Q R : σ → ε → Prop} (hPQ : ∀ s e, R s e → (P s e ↔ Q s e)) {s : σ}
    {es : List ε} (h : Along step R s es) : Along step P s es ↔ Along step Q s es := by
  induction es generalizing s with
  | nil => exact Iff.rfl
  | cons e es ih => exact and_congr (hPQ s e h.1) (ih h.2)

/-- An invariant of the steps that meet `Q` holds along a run that meets `Q`. -/
theorem Along.with_inv {I : σ → Prop} {Q : σ → ε → Prop} (hstep : ∀ s e, I s → Q s e → I (step e s))
    {s : σ} {es : List ε} (hs : I s) (h : Along step Q s es) :
    Along step (fun s e => I s ∧ Q s e) s es := by
  induction es generalizing s with
  | nil => trivial
  | cons e es ih => exact ⟨⟨hs, h.1⟩, ih (hstep s e hs h.1) h.2⟩

/-- An invariant of the steps that meet `Q` holds after a run that meets `Q`. -/
theorem Along.run_inv {I : σ → Prop} {Q : σ → ε → Prop} (hstep : ∀ s e, I s → Q s e → I (step e s))
    {s : σ} {es : List ε} (hs : I s) (h : Along step Q s es) : I (run step s es) := by
  induction es generalizing s with
  | nil => exact hs
  | cons e es ih => exact ih (hstep s e hs h.1) h.2

/-- An invariant of the steps whose events meet `Q` holds after a run of such events. -/
theorem run_inv {I : σ → Prop} {Q : ε → Prop} (hstep : ∀ s e, I s → Q e → I (step e s))
    {s : σ} {es : List ε} (hs : I s) (hes : ∀ e ∈ es, Q e) : I (run step s es) := by
  induction es generalizing s with
  | nil => exact hs
  | cons e es ih =>
    exact ih (hstep s e hs (hes e List.mem_cons_self))
      fun a ha => hes a (List.mem_cons_of_mem _ ha)

/-- Where an invariant makes two properties of a step agree, and they keep it, they agree along a
run. -/
theorem along_congr_of_inv {I : σ → Prop} {P Q : σ → ε → Prop}
    (hstep : ∀ s e, I s → P s e → I (step e s))
    (hPQ : ∀ s e, I s → (P s e ↔ Q s e)) {s : σ} (hs : I s) (es : List ε) :
    Along step P s es ↔ Along step Q s es := by
  induction es generalizing s with
  | nil => exact Iff.rfl
  | cons e es ih =>
    constructor
    · rintro ⟨hP, h⟩
      exact ⟨(hPQ s e hs).mp hP, (ih (hstep s e hs hP)).mp h⟩
    · rintro ⟨hQ, h⟩
      have hP := (hPQ s e hs).mpr hQ
      exact ⟨hP, (ih (hstep s e hs hP)).mpr h⟩

/-- What holds throughout a run holds at its start and after each of its steps. -/
theorem throughout_iff_steps {I : σ → Prop} {s : σ} {es : List ε} :
    Throughout step I s es ↔ I s ∧ Along step (fun s e => I (step e s)) s es := by
  induction es generalizing s with
  | nil => exact (and_iff_left trivial).symm
  | cons e es ih => exact and_congr_right fun _ => ih

theorem along_and {P Q : σ → ε → Prop} {s : σ} {es : List ε} :
    Along step (fun s e => P s e ∧ Q s e) s es ↔ Along step P s es ∧ Along step Q s es := by
  induction es generalizing s with
  | nil => exact (and_iff_left trivial).symm
  | cons e es ih =>
    simp only [Along, ih]
    exact and_and_and_comm

/-- **Exactness of a condition on steps.** If from the states that satisfy `I` a step stays in
`I` exactly when its event meets `Q`, then `I` holds throughout a run exactly when `Q` holds
along it. -/
theorem throughout_iff_along {I : σ → Prop} {Q : σ → ε → Prop}
    (hstep : ∀ s e, I s → (I (step e s) ↔ Q s e)) {s : σ} (hs : I s) (es : List ε) :
    Throughout step I s es ↔ Along step Q s es := by
  induction es generalizing s with
  | nil => exact iff_of_true hs trivial
  | cons e es ih =>
    constructor
    · rintro ⟨-, h⟩
      have hI : I (step e s) := by
        cases es with
        | nil => exact h
        | cons => exact h.1
      exact ⟨(hstep s e hs).mp hI, (ih hI).mp h⟩
    · rintro ⟨hQ, h⟩
      have hI := (hstep s e hs).mpr hQ
      exact ⟨hs, (ih hI).mpr h⟩

/-- The same where a step is only known to be exact under an invariant `A` of the runs that stay
in `I`. -/
theorem throughout_iff_along_of_inv {A I : σ → Prop} {Q : σ → ε → Prop}
    (hinv : ∀ s e, A s → I s → I (step e s) → A (step e s))
    (hstep : ∀ s e, A s → I s → (I (step e s) ↔ Q s e)) {s : σ} (hA : A s) (hI : I s)
    (es : List ε) : Throughout step I s es ↔ Along step Q s es := by
  induction es generalizing s with
  | nil => exact iff_of_true hI trivial
  | cons e es ih =>
    constructor
    · rintro ⟨-, h⟩
      have hI' : I (step e s) := by
        cases es with
        | nil => exact h
        | cons => exact h.1
      exact ⟨(hstep s e hA hI).mp hI', (ih (hinv s e hA hI hI') hI').mp h⟩
    · rintro ⟨hQ, h⟩
      have hI' := (hstep s e hA hI).mpr hQ
      exact ⟨hI, (ih (hinv s e hA hI hI') hI').mpr h⟩

/-- What is there before a run and after it was there all along, if it cannot come back once it is
lost. -/
theorem of_run_lasting {A I : σ → Prop} (hinv : ∀ s e, A s → A (step e s))
    (hlost : ∀ s e, A s → I (step e s) → I s) {s : σ} (hA : A s) {es : List ε}
    (h : I (run step s es)) : I s := by
  induction es generalizing s with
  | nil => exact h
  | cons e es ih => exact hlost s e hA (ih (hinv s e hA) h)

/-- **Exactness for what cannot come back.** If a step keeps `I` exactly when it meets `Q`, and no
step restores it, then `I` holds after a run exactly when `Q` holds along it. -/
theorem run_iff_along_of_lasting {A I : σ → Prop} {Q : σ → ε → Prop}
    (hinv : ∀ s e, A s → A (step e s)) (hlost : ∀ s e, A s → I (step e s) → I s)
    (hstep : ∀ s e, A s → I s → (I (step e s) ↔ Q s e)) {s : σ} (hA : A s) (hI : I s)
    (es : List ε) : I (run step s es) ↔ Along step Q s es := by
  induction es generalizing s with
  | nil => exact iff_of_true hI trivial
  | cons e es ih =>
    constructor
    · intro h
      have hkept := of_run_lasting hinv hlost (hinv s e hA) h
      exact ⟨(hstep s e hA hI).mp hkept, (ih (hinv s e hA) hkept).mp h⟩
    · rintro ⟨hQ, h⟩
      exact (ih (hinv s e hA) ((hstep s e hA hI).mpr hQ)).mpr h

/-- The number of steps of the run that are of the kind `p`. -/
def countAlong (step : ε → σ → σ) (p : σ → ε → Bool) (s : σ) : List ε → ℕ
  | [] => 0
  | e :: es => (p s e).toNat + countAlong step p (step e s) es

/-- Steps that are refused from a bound on are no more than the bound: each raises a measure that
it finds below the bound, and no other step lowers the measure. -/
theorem countAlong_le {p : σ → ε → Bool} {Q : σ → ε → Prop} {m : σ → ℕ} {bound : ℕ}
    (hcount : ∀ s e, Q s e → p s e → m s < bound ∧ m s + 1 ≤ m (step e s))
    (hkeep : ∀ s e, Q s e → m s ≤ m (step e s)) {s : σ} {es : List ε} (h : Along step Q s es) :
    countAlong step p s es ≤ bound - m s := by
  induction es generalizing s with
  | nil => exact Nat.zero_le _
  | cons e es ih =>
    have hrest := ih h.2
    rw [countAlong]
    cases hp : p s e with
    | true =>
      obtain ⟨hbelow, hraised⟩ := hcount s e h.1 hp
      rw [Bool.toNat_true]
      omega
    | false =>
      have hkept := hkeep s e h.1
      rw [Bool.toNat_false]
      omega

end FixZone.Library
