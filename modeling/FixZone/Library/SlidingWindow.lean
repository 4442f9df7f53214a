import Mathlib.Algebra.Order.Group.Int
import Mathlib.Algebra.Order.Group.Unbundled.Abs
import Mathlib.Data.List.Basic

/-!
# Limits on how often something happens

A limiter keeps the times at which something happened, and lets it happen again when none of them
lies within a cooldown, and fewer than `limit` within a period. Both are counted back from the time
of the check, and everything after the check is counted too; it happens at the check or later.

What was let happen so is limited (`Limited.append`): any two times are more than the cooldown
apart, and no window as long as the period, wherever it begins and with both its ends, has more
than `limit` of them.
-/

namespace FixZone.Library.SlidingWindow

/-- A cooldown, a period, and how often something may happen in the period. -/
structure Limits where
  cooldown : ℤ
  period : ℤ
  limit : ℕ

variable (limits : Limits)

/-- It may happen once more, as the limiter finds at the time of the check. -/
def mayHappen (times : List ℤ) (checked : ℤ) : Bool :=
  times.countP (checked - limits.cooldown ≤ ·) = 0 &&
    times.countP (checked - limits.period ≤ ·) < limits.limit

/-- How often it happened in the window that begins at a time. -/
def within (times : List ℤ) (since : ℤ) : ℕ :=
  times.countP fun time => since ≤ time && time ≤ since + limits.period

/-- The times keep the limits. -/
structure Limited (times : List ℤ) : Prop where
  apart : times.Pairwise fun earlier later => limits.cooldown < |later - earlier|
  seldom : ∀ since, within limits times since ≤ limits.limit

variable {limits} {times : List ℤ} {checked now : ℤ}

theorem limited_nil : Limited limits [] := ⟨List.Pairwise.nil, fun _ => Nat.zero_le _⟩

theorem mayHappen_iff : mayHappen limits times checked = true ↔
    (∀ time ∈ times, time < checked - limits.cooldown) ∧
      times.countP (checked - limits.period ≤ ·) < limits.limit := by
  simp only [mayHappen, Bool.and_eq_true, decide_eq_true_eq, List.countP_eq_zero, not_le]

/-- What may happen may happen where less has happened. -/
theorem mayHappen_of_sublist {fewer : List ℤ} (h : mayHappen limits times checked = true)
    (hfewer : fewer.Sublist times) : mayHappen limits fewer checked = true := by
  rw [mayHappen_iff] at h ⊢
  exact ⟨fun time htime => h.1 time (hfewer.subset htime), hfewer.countP_le.trans_lt h.2⟩

/-- A window that something happens in begins within the period before its check, so all that
happened in the window was counted. -/
theorem within_append_le (hmay : mayHappen limits times checked = true) (hlate : checked ≤ now)
    {since : ℤ} (hwithin : now ≤ since + limits.period) :
    within limits times since + 1 ≤ limits.limit := by
  have hcounted : within limits times since ≤
      times.countP (checked - limits.period ≤ ·) := by
    refine List.countP_mono_left fun time _ htime => ?_
    rw [Bool.and_eq_true, decide_eq_true_eq, decide_eq_true_eq] at htime
    exact decide_eq_true (by omega)
  exact Nat.lt_of_le_of_lt hcounted (mayHappen_iff.mp hmay).2

/-- **What was let happen is limited.** -/
theorem Limited.append (h : Limited limits times) (hmay : mayHappen limits times checked = true)
    (hlate : checked ≤ now) : Limited limits (times ++ [now]) where
  apart := by
    refine List.pairwise_append.mpr ⟨h.apart, List.pairwise_singleton _ _, fun time htime later
      hlater => ?_⟩
    obtain rfl := List.mem_singleton.mp hlater
    have hbefore := (mayHappen_iff.mp hmay).1 time htime
    exact lt_of_lt_of_le (by omega) (le_abs_self (later - time))
  seldom since := by
    rw [within, List.countP_append, List.countP_singleton, ← within]
    split
    · next hnow =>
      rw [Bool.and_eq_true, decide_eq_true_eq, decide_eq_true_eq] at hnow
      exact within_append_le hmay hlate hnow.2
    · exact h.seldom since

end FixZone.Library.SlidingWindow
