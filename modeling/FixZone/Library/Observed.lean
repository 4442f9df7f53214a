import FixZone.Library.Run

/-!
# What a run shows

Some steps of a run show something: a value they write, an event they raise. `observed` is what a
run shows, in order.

Two uses of it: a column of the state that the steps leave in what they show, or as it was, holds
what was shown last (`Writes.column_run`); and where each step does to an image of the state what
an abstract machine does with what is shown, the run shows what the machine allows
(`along_observed`).
-/

namespace FixZone.Library

universe u v w x

variable {σ : Type u} {ε : Type v} {α : Type w} (step : ε → σ → σ) (shows : σ → ε → Option α)

/-- What a run shows. -/
def observed (s : σ) : List ε → List α
  | [] => []
  | e :: es => (shows s e).toList ++ observed (step e s) es

/-- What a run shows last. -/
def lastWritten (s : σ) (es : List ε) : Option α := (observed step shows s es).getLast?

variable {step shows} {s : σ}

@[simp] theorem observed_nil : observed step shows s [] = [] := rfl

theorem observed_cons (e : ε) (es : List ε) :
    observed step shows s (e :: es) = (shows s e).toList ++ observed step shows (step e s) es := rfl

/-! ### What is written last -/

variable (step shows) in
/-- A step leaves in a column what it writes there, or else what it finds there. -/
def Writes (column : σ → Option α) : Prop := ∀ s e, column (step e s) = (shows s e).or (column s)

/-- After a run the column holds what was written last. -/
theorem Writes.column_run {column : σ → Option α} (h : Writes step shows column) (s : σ)
    (es : List ε) : column (run step s es) = (lastWritten step shows s es).or (column s) := by
  unfold lastWritten
  induction es generalizing s with
  | nil => rfl
  | cons e es ih =>
    have hlast : (shows s e).toList.getLast? = shows s e := by cases shows s e <;> rfl
    rw [run_cons, ih, h, observed_cons, List.getLast?_append, hlast, Option.or_assoc]

/-! ### A run of an abstract machine -/

section Machine

variable {τ : Type x} (next : α → τ → τ) (allowed : τ → α → Prop)

/-- Between two states the machine does what is shown and allows it, or does nothing if nothing is
shown. -/
def Simulates (before after : τ) : Option α → Prop
  | none => after = before
  | some a => allowed before a ∧ after = next a before

variable {next allowed} {image : σ → τ} {I : σ → Prop}

/-- A run shows what the machine allows, if each step does to the image of the state what the
machine does. -/
theorem along_observed (hI : ∀ s e, I s → I (step e s))
    (hstep : ∀ s e, I s → Simulates next allowed (image s) (image (step e s)) (shows s e))
    (hs : I s) (es : List ε) : Along next allowed (image s) (observed step shows s es) := by
  induction es generalizing s with
  | nil => trivial
  | cons e es ih =>
    have hrest := ih (hI s e hs)
    have hsimulates := hstep s e hs
    rw [observed_cons]
    cases hshows : shows s e with
    | none =>
      rw [hshows, Simulates] at hsimulates
      rw [hsimulates] at hrest
      exact hrest
    | some a =>
      rw [hshows, Simulates] at hsimulates
      rw [hsimulates.2] at hrest
      exact ⟨hsimulates.1, hrest⟩

end Machine

/-! ### What one party sees -/

variable (step) in
/-- A relation of two states, before the steps that are still to come, is there after them, where
the second state makes only those of the steps that concern a party: if it is kept by a step that
both make, and by one that does not concern the party. -/
theorem run_filter {R : σ → σ → List ε → Prop} (concerns : ε → Bool)
    (hconcerns : ∀ s t e es, concerns e = true → R s t (e :: es) → R (step e s) (step e t) es)
    (hother : ∀ s t e es, concerns e = false → R s t (e :: es) → R (step e s) t es) {s t : σ}
    {es : List ε} (h : R s t es) : R (run step s es) (run step t (es.filter concerns)) [] := by
  induction es generalizing s t with
  | nil => exact h
  | cons e es ih =>
    cases hparty : concerns e with
    | true =>
      rw [List.filter_cons_of_pos hparty]
      exact ih (hconcerns s t e es hparty h)
    | false =>
      rw [List.filter_cons_of_neg (by simp [hparty])]
      exact ih (hother s t e es hparty h)

end FixZone.Library
