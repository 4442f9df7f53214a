import Mathlib.Data.List.Basic

/-!
# Guards

A computation of `Except ε` that checks a list of conditions before it returns is
read backwards in proofs: from its success follow the conditions, one after the
other. `throwIf` is one check, and the lemmas below turn a successful sequence of
checks into the conjunction of what was checked.
-/

namespace FixZone.Library

universe u v

variable {ε : Type u} {α β : Type v}

/-- Throw `e` when `c` holds. -/
def throwIf (c : Prop) [Decidable c] (e : ε) : Except ε PUnit.{v + 1} :=
  if c then .error e else .ok ⟨⟩

@[simp] theorem throwIf_eq_ok {c : Prop} [Decidable c] {e : ε} {u : PUnit.{v + 1}} :
    throwIf c e = .ok u ↔ ¬ c := by
  unfold throwIf
  split <;> simp_all

@[simp] theorem throwIf_of_not {c : Prop} [Decidable c] {e : ε} (h : ¬ c) :
    (throwIf c e : Except ε PUnit.{v + 1}) = .ok ⟨⟩ := if_neg h

/-- Make a check only when `c` holds. -/
def checkWhen (c : Bool) (x : Except ε PUnit.{v + 1}) : Except ε PUnit.{v + 1} :=
  if c then x else .ok ⟨⟩

theorem checkWhen_eq_ok {c : Bool} {x : Except ε PUnit.{v + 1}} {u : PUnit.{v + 1}} :
    checkWhen c x = .ok u ↔ (c → x = .ok ⟨⟩) := by
  cases c <;> simp [checkWhen]

/-- What a row, field or setting holds, or the exception for its absence. -/
def orThrow (o : Option α) (e : ε) : Except ε α :=
  match o with
  | some a => .ok a
  | none => .error e

@[simp] theorem orThrow_eq_ok {o : Option α} {e : ε} {a : α} : orThrow o e = .ok a ↔
    o = some a := by
  cases o <;> simp [orThrow]

@[simp] theorem orThrow_some {a : α} {e : ε} : orThrow (some a) e = .ok a := rfl

/-- A sequence succeeds when its first part does and the rest does after it. -/
theorem bind_eq_ok {x : Except ε α} {f : α → Except ε β} {b : β} :
    (x >>= f) = .ok b ↔ ∃ a, x = .ok a ∧ f a = .ok b := by
  cases x with
  | error e =>
    refine ⟨fun h => ?_, fun ⟨_, h, _⟩ => ?_⟩ <;> cases h
  | ok a =>
    refine ⟨fun h => ⟨a, rfl, h⟩, fun ⟨a', h, h'⟩ => ?_⟩
    cases h
    exact h'

/-- A check followed by the rest. -/
theorem throwIf_bind_eq_ok {c : Prop} [Decidable c] {e : ε} {f : PUnit → Except ε β} {b : β} :
    (throwIf c e >>= f) = .ok b ↔ ¬ c ∧ f ⟨⟩ = .ok b := by
  rw [bind_eq_ok]
  exact ⟨fun ⟨_, hc, h⟩ => ⟨throwIf_eq_ok.mp hc, h⟩, fun ⟨hc, h⟩ => ⟨⟨⟩, throwIf_eq_ok.mpr hc, h⟩⟩

/-- A check made by another function, followed by the rest. -/
theorem check_bind_eq_ok {x : Except ε PUnit} {f : PUnit → Except ε β} {b : β} :
    (x >>= f) = .ok b ↔ x = .ok ⟨⟩ ∧ f ⟨⟩ = .ok b := by
  rw [bind_eq_ok]
  exact ⟨fun ⟨_, hx, h⟩ => ⟨hx, h⟩, fun ⟨hx, h⟩ => ⟨⟨⟩, hx, h⟩⟩

/-- A lookup followed by the rest. -/
theorem orThrow_bind_eq_ok {o : Option α} {e : ε} {f : α → Except ε β} {b : β} :
    (orThrow o e >>= f) = .ok b ↔ ∃ a, o = some a ∧ f a = .ok b := by
  simp only [bind_eq_ok, orThrow_eq_ok]

@[simp] theorem ok_bind {a : α} {f : α → Except ε β} : (Except.ok a >>= f) = f a := rfl

theorem eq_ok_of_toOption {x : Except ε α} {a : α} (h : x.toOption = some a) : x = .ok a := by
  cases x with
  | error e => cases h
  | ok a' => exact congrArg _ (Option.some.inj h)

@[simp] theorem pure_eq_ok {a b : α} : (pure a : Except ε α) = .ok b ↔ a = b :=
  ⟨Except.ok.inj, fun h => h ▸ rfl⟩

end FixZone.Library
