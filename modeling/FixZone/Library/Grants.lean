import Mathlib.Data.Set.Finite.List
import Mathlib.Data.Set.Lattice

/-!
# Grants

An authority as a list of grants, each of which says what it permits and what it
covers. `Granted` reads the list grant by grant: one of them permits the
operation and covers the resource. `Pooled` reads it as a whole: one of them
permits the operation, and one of them, perhaps another, covers the resource. The two agree
exactly where every permission is as wide as the widest grant (`pooled_granted_iff`).

The last section is about growth: when a further grant adds nothing to the pool
over a set of resources (`pooled_append_iff`). Where the resources are infinitely many and a
grant covers all of them or finitely many by name, all but finitely many are covered
exactly when a grant covers all (`covered_of_compl_iff`).
-/

namespace FixZone.Library

universe u v

/-- A grant: what it permits, and what it covers. -/
structure Grant (π : Type u) (ρ : Type v) where
  permits : Set π
  covers : Set ρ

namespace Grant

variable {π : Type u} {ρ : Type v}

/-- What some grant permits. -/
def permitted (gs : List (Grant π ρ)) : Set π := {p | ∃ g ∈ gs, p ∈ g.permits}

/-- What some grant covers. -/
def covered (gs : List (Grant π ρ)) : Set ρ := {r | ∃ g ∈ gs, r ∈ g.covers}

/-- One grant permits `p` and covers `r`. -/
def Granted (gs : List (Grant π ρ)) (p : π) (r : ρ) : Prop := ∃ g ∈ gs, p ∈ g.permits ∧ r ∈ g.covers

/-- One grant permits `p`, and one covers `r`. -/
def Pooled (gs : List (Grant π ρ)) (p : π) (r : ρ) : Prop := p ∈ permitted gs ∧ r ∈ covered gs

/-- A grant covers everything, or only what the list `names` has. -/
def Named (names : List ρ) (gs : List (Grant π ρ)) : Prop :=
  ∀ g ∈ gs, g.covers = Set.univ ∨ g.covers ⊆ {r | r ∈ names}

variable {gs hs : List (Grant π ρ)} {g : Grant π ρ} {p : π} {r : ρ} {names : List ρ}

theorem mem_permitted : p ∈ permitted gs ↔ ∃ g ∈ gs, p ∈ g.permits := Iff.rfl

theorem mem_covered : r ∈ covered gs ↔ ∃ g ∈ gs, r ∈ g.covers := Iff.rfl

@[simp] theorem permitted_append : permitted (gs ++ hs) = permitted gs ∪ permitted hs := by
  ext p
  simp only [mem_permitted, List.mem_append, or_and_right, exists_or, Set.mem_union]

@[simp] theorem covered_append : covered (gs ++ hs) = covered gs ∪ covered hs := by
  ext r
  simp only [mem_covered, List.mem_append, or_and_right, exists_or, Set.mem_union]

@[simp] theorem permitted_singleton : permitted [g] = g.permits := by
  ext p
  simp [mem_permitted]

@[simp] theorem covered_singleton : covered [g] = g.covers := by
  ext r
  simp [mem_covered]

/-! ### All but finitely many resources -/

theorem exists_fresh [Infinite ρ] (names : List ρ) : ∃ r, r ∉ names :=
  (List.finite_toSet names).exists_notMem

/-- A grant that covers something without a name covers everything. -/
theorem Named.covers_eq_univ (h : Named names gs) (hg : g ∈ gs) (hr : r ∈ g.covers)
    (hfresh : r ∉ names) :
    g.covers = Set.univ :=
  (h g hg).resolve_right fun hsub => hfresh (hsub hr)

/-- All but finitely many resources are covered exactly when one grant covers all. -/
theorem covered_of_compl_iff [Infinite ρ] (h : Named names gs) (except : List ρ) :
    (∀ r, r ∉ except → r ∈ covered gs) ↔ ∃ g ∈ gs, g.covers = Set.univ := by
  constructor
  · intro hall
    obtain ⟨r, hr⟩ := exists_fresh (names ++ except)
    rw [List.mem_append, not_or] at hr
    obtain ⟨g, hg, hcovers⟩ := hall r hr.2
    exact ⟨g, hg, h.covers_eq_univ hg hcovers hr.1⟩
  · rintro ⟨g, hg, huniv⟩ r -
    exact ⟨g, hg, huniv ▸ Set.mem_univ r⟩

/-- **Pooling.** What is pooled is granted exactly when every permission is carried as far as the
grants reach: everywhere if one covers everything, and to every resource that is named and
covered. -/
theorem pooled_granted_iff [Infinite ρ] (h : Named names gs) (except : List ρ) :
    (∀ p r, r ∉ except → Pooled gs p r → Granted gs p r) ↔
      ∀ p ∈ permitted gs,
        ((∃ g ∈ gs, g.covers = Set.univ) → ∃ g ∈ gs, p ∈ g.permits ∧ g.covers = Set.univ) ∧
          ∀ r ∈ names, r ∉ except → r ∈ covered gs → Granted gs p r := by
  constructor
  · refine fun hsound p hp => ⟨?_, fun r _ hr hcovered => hsound p r hr ⟨hp, hcovered⟩⟩
    rintro ⟨wide, hwide, huniv⟩
    obtain ⟨r, hr⟩ := exists_fresh (names ++ except)
    rw [List.mem_append, not_or] at hr
    obtain ⟨g, hg, hpermits, hcovers⟩ := hsound p r hr.2 ⟨hp, wide, hwide, huniv ▸ Set.mem_univ r⟩
    exact ⟨g, hg, hpermits, h.covers_eq_univ hg hcovers hr.1⟩
  · rintro hwide p r hr ⟨hp, hcovered⟩
    by_cases hname : r ∈ names
    · exact (hwide p hp).2 r hname hr hcovered
    · obtain ⟨wide, hmem, hcovers⟩ := hcovered
      obtain ⟨g, hg, hpermits, huniv⟩ :=
        (hwide p hp).1 ⟨wide, hmem, h.covers_eq_univ hmem hcovers hname⟩
      exact ⟨g, hg, hpermits, huniv ▸ Set.mem_univ r⟩

/-! ### Growth -/

/-- A further grant that permits something adds nothing to the pool over `R` exactly when nothing in
`R` is covered, or what it permits and what of `R` it covers was there before. -/
theorem pooled_append_iff {R : Set ρ} (hne : g.permits.Nonempty) :
    (∀ p, ∀ r ∈ R, Pooled (gs ++ [g]) p r → Pooled gs p r) ↔
      (∀ r ∈ R, r ∉ covered gs ∧ r ∉ g.covers) ∨
        (g.permits ⊆ permitted gs ∧ ∀ r ∈ R, r ∈ g.covers → r ∈ covered gs) := by
  simp only [Pooled, permitted_append, permitted_singleton, covered_append, covered_singleton,
    Set.mem_union]
  constructor
  · intro hkeeps
    obtain ⟨p, hp⟩ := hne
    by_cases hreach : ∀ r ∈ R, r ∉ covered gs ∧ r ∉ g.covers
    · exact .inl hreach
    · have hreach' : ∃ r ∈ R, r ∈ covered gs ∨ r ∈ g.covers := by
        by_contra hno
        push Not at hno
        exact hreach hno
      obtain ⟨r, hr, hcovered⟩ := hreach'
      exact .inr ⟨fun q hq => (hkeeps q r hr ⟨.inr hq, hcovered⟩).1,
        fun r' hr' hcovers => (hkeeps p r' hr' ⟨.inr hp, .inr hcovers⟩).2⟩
  · rintro (hreach | ⟨hpermits, hcovers⟩) p r hr ⟨hp, hcovered⟩
    · exact absurd hcovered (not_or.mpr (hreach r hr))
    · exact ⟨hp.elim id fun hp => hpermits hp, hcovered.elim id (hcovers r hr)⟩

end Grant

end FixZone.Library
