import Mathlib.Algebra.BigOperators.Group.List.Lemmas
import Mathlib.Algebra.Order.Ring.Nat
import Mathlib.Data.List.Dedup

/-!
# Rows in groups

Two ways in which a program puts rows into groups. A loop keeps a list of buckets, in the order in
which their keys came up, and changes the bucket of each row, or makes it; a query counts the rows
of each key. Nothing is lost or counted twice: what the rows add to a figure of the buckets adds up
to the sum of the figure over all buckets (`sum_fillBuckets`), and the counts of all keys to the
number of rows (`sum_groupCounts`).
-/

namespace FixZone.Library.Grouping

variable {α β κ : Type} [DecidableEq κ]

/-! ### Buckets -/

/-- Change the bucket with this key, or a fresh one, which then comes last. -/
def changeBucket (keyOf : β → κ) (fresh : κ → β) (k : κ) (change : β → β) : List β → List β
  | [] => [change (fresh k)]
  | b :: buckets =>
    if keyOf b = k then change b :: buckets
    else b :: changeBucket keyOf fresh k change buckets

/-- The buckets after a loop over rows. -/
def fillBuckets (keyOf : β → κ) (fresh : κ → β) (bucket : α → κ) (change : α → β → β)
    (buckets : List β) (rows : List α) : List β :=
  rows.foldl (fun buckets row => changeBucket keyOf fresh (bucket row) (change row) buckets) buckets

variable {keyOf : β → κ} {fresh : κ → β} {figure : β → ℕ}

theorem sum_changeBucket {k : κ} {change : β → β} {n : ℕ}
    (hchange : ∀ b, figure (change b) = figure b + n) (hfresh : figure (fresh k) = 0)
    (buckets : List β) :
    ((changeBucket keyOf fresh k change buckets).map figure).sum =
      (buckets.map figure).sum + n := by
  induction buckets with
  | nil => simp [changeBucket, hchange, hfresh]
  | cons b buckets ih =>
    rw [changeBucket]
    split
    · rw [List.map_cons, List.sum_cons, hchange, List.map_cons, List.sum_cons]
      omega
    · rw [List.map_cons, List.sum_cons, ih, List.map_cons, List.sum_cons, Nat.add_assoc]

/-- A change that leaves a figure at `n` or below adds no more than that. -/
theorem sum_changeBucket_le {k : κ} {change : β → β} {n : ℕ} (hchange : ∀ b, figure (change b) ≤ n)
    (buckets : List β) :
    ((changeBucket keyOf fresh k change buckets).map figure).sum ≤
      (buckets.map figure).sum + n := by
  induction buckets with
  | nil => simpa [changeBucket] using hchange (fresh k)
  | cons b buckets ih =>
    rw [changeBucket]
    split
    · have hb := hchange b
      rw [List.map_cons, List.sum_cons, List.map_cons, List.sum_cons]
      omega
    · rw [List.map_cons, List.sum_cons, List.map_cons, List.sum_cons]
      omega

/-- A bucket after a change is one from before it, or what the change made of one or of a fresh
one. -/
theorem mem_changeBucket {k : κ} {change : β → β} {buckets : List β} {b : β}
    (h : b ∈ changeBucket keyOf fresh k change buckets) :
    b ∈ buckets ∨ b = change (fresh k) ∨ ∃ old ∈ buckets, b = change old := by
  induction buckets with
  | nil => exact .inr (.inl (List.mem_singleton.mp h))
  | cons old buckets ih =>
    rw [changeBucket] at h
    split at h
    · obtain rfl | hrest := List.mem_cons.mp h
      · exact .inr (.inr ⟨old, List.mem_cons_self, rfl⟩)
      · exact .inl (List.mem_cons_of_mem _ hrest)
    · obtain rfl | hrest := List.mem_cons.mp h
      · exact .inl List.mem_cons_self
      · obtain hold | hnew | ⟨old', hold', hb⟩ := ih hrest
        · exact .inl (List.mem_cons_of_mem _ hold)
        · exact .inr (.inl hnew)
        · exact .inr (.inr ⟨old', List.mem_cons_of_mem _ hold', hb⟩)

/-- What the rows add to a figure is what its sum over the buckets grows by. -/
theorem sum_fillBuckets {bucket : α → κ} {change : α → β → β} {adds : α → ℕ}
    (hchange : ∀ row b, figure (change row b) = figure b + adds row)
    (hfresh : ∀ k, figure (fresh k) = 0) (buckets : List β) (rows : List α) :
    ((fillBuckets keyOf fresh bucket change buckets rows).map figure).sum =
      (buckets.map figure).sum + (rows.map adds).sum := by
  induction rows generalizing buckets with
  | nil => simp [fillBuckets]
  | cons row rows ih =>
    rw [fillBuckets, List.foldl_cons, ← fillBuckets, ih, sum_changeBucket (hchange row) (hfresh _),
      List.map_cons, List.sum_cons, Nat.add_assoc]

/-- Rows that add one where they meet `p` add up to how many do. -/
theorem sum_boole (p : α → Bool) (rows : List α) :
    (rows.map fun row => if p row then 1 else 0).sum = rows.countP p := by
  induction rows with
  | nil => rfl
  | cons row rows ih => rw [List.map_cons, List.sum_cons, ih, List.countP_cons, Nat.add_comm]

/-! ### Counts -/

/-- How many rows there are of each key. -/
def groupCounts (key : α → κ) (rows : List α) : List (κ × ℕ) :=
  (rows.map key).dedup.map fun k => (k, (rows.map key).count k)

theorem sum_groupCounts (key : α → κ) (rows : List α) :
    ((groupCounts key rows).map Prod.snd).sum = rows.length := by
  have hcounts := List.sum_map_count_dedup_eq_length (rows.map key)
  rw [List.length_map] at hcounts
  rw [← hcounts, groupCounts, List.map_map]
  rfl

end FixZone.Library.Grouping
