import Mathlib.Data.List.Chain

/-!
# Climbing one level at a time

A walk over things that have a level each, in which no step leads up by more than one level; it may
lead down as far as it likes, and any number of times. Such a walk passes through every level
between the one it begins at and the one it ends at, and it does so in their order
(`levels_sublist`), whatever else it passes in between.
-/

namespace FixZone.Library

universe u

variable {α : Type u} (level : α → ℕ)

/-- No step of the walk leads up by more than one level. -/
def Climbs (walk : List α) : Prop := walk.IsChain fun a b => level b ≤ level a + 1

variable {level}

/-- The levels above the first one of a walk, up to the last one. -/
theorem levels_sublist_tail {a : α} {walk : List α} (h : Climbs level (a :: walk)) {last : α}
    (hlast : (a :: walk).getLast? = some last) :
    (List.range' (level a + 1) (level last - level a)).Sublist (walk.map level) := by
  induction walk generalizing a with
  | nil =>
    obtain rfl : a = last := by simpa using hlast
    simp
  | cons b walk ih =>
    obtain ⟨hstep, hrest⟩ := List.isChain_cons_cons.mp h
    have hlast' : (b :: walk).getLast? = some last := by
      rwa [List.getLast?_cons_cons] at hlast
    have hbelow := ih hrest hlast'
    rw [List.map_cons]
    rcases Nat.lt_or_ge (level last) (level a + 1) with hdown | hup
    · rw [Nat.sub_eq_zero_of_le (by omega)]
      exact List.nil_sublist _
    · rcases Nat.lt_or_ge (level a) (level b) with hclimb | hkeep
      · -- The step leads to the first of the levels asked for.
        have hb : level b = level a + 1 := by omega
        have hcount : level last - level a = level last - level b + 1 := by omega
        rw [hcount, List.range'_succ, ← hb]
        exact hbelow.cons_cons _
      · -- The rest of the walk begins at or below the first level.
        have hcount : level last - level b = (level a - level b) + (level last - level a) := by
          omega
        have hfirst : level a + 1 = level b + 1 + (level a - level b) := by omega
        rw [hcount, ← List.range'_append_1] at hbelow
        rw [hfirst]
        exact ((List.sublist_append_right _ _).trans hbelow).cons _

/-- **Every level in its order.** A walk that begins at the level 0 passes the levels up to that of
its end one after another. -/
theorem levels_sublist {a last : α} {walk : List α} (h : Climbs level (a :: walk))
    (ha : level a = 0) (hlast : (a :: walk).getLast? = some last) :
    (List.range' 1 (level last)).Sublist ((a :: walk).map level) := by
  have htail := levels_sublist_tail h hlast
  rw [ha] at htail
  exact htail.trans (by rw [List.map_cons]; exact List.sublist_cons_self _ _)

end FixZone.Library
