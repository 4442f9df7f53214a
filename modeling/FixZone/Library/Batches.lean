import Mathlib.Data.List.Perm.Subperm
import Mathlib.Data.List.Sort

/-!
# A queue worked off in batches

A queue from which the first `size` entries are taken again and again. An entry that was taken
leaves the queue or stays where it is; which of the two does not change. The entries that stay
take up places in every later batch, so a batch gets only as far as there are places left
(`reached`): after some batches the queue is what stayed of the entries up to there and all that
come after (`afterBatches_eq`). The whole queue is worked off after `n` batches exactly when they
get to its end (`forall_taken_iff`), and after some number of them exactly when fewer than `size`
entries before the last one stay (`exists_length_le_reached_iff`).
-/

namespace FixZone.Library

variable {α : Type} (stays : α → Bool) (size : ℕ)

/-- The queue after a batch. -/
def afterBatch (l : List α) : List α := (l.take size).filter stays ++ l.drop size

/-- The queue after `n` batches. -/
def afterBatches (l : List α) : ℕ → List α
  | 0 => l
  | n + 1 => afterBatch stays size (afterBatches l n)

/-- How far into the queue `n` batches get: those that stay of the entries up to there take up
places of the next one. -/
def reached (l : List α) : ℕ → ℕ
  | 0 => 0
  | n + 1 => reached l n + (size - (l.take (reached l n)).countP stays)

variable {stays size} {l : List α} {n : ℕ}

theorem afterBatch_sublist (l : List α) : (afterBatch stays size l).Sublist l := by
  have h : (afterBatch stays size l).Sublist (l.take size ++ l.drop size) :=
    List.filter_sublist.append (List.Sublist.refl _)
  rwa [List.take_append_drop] at h

theorem afterBatches_sublist (l : List α) (n : ℕ) : (afterBatches stays size l n).Sublist l := by
  induction n with
  | zero => exact List.Sublist.refl l
  | succ n ih => exact (afterBatch_sublist _).trans ih

/-- What is in the queue after a batch: what was not taken, and what stays. -/
theorem mem_afterBatch_iff (hnodup : l.Nodup) {a : α} :
    a ∈ afterBatch stays size l ↔ a ∈ l ∧ (a ∈ l.take size → stays a = true) := by
  have hapart := List.disjoint_take_drop hnodup (Nat.le_refl size)
  have hsplit : a ∈ l ↔ a ∈ l.take size ∨ a ∈ l.drop size := by
    rw [← List.mem_append, List.take_append_drop]
  unfold afterBatch
  rw [List.mem_append, List.mem_filter, hsplit]
  constructor
  · rintro (⟨htaken, hstays⟩ | hlater)
    · exact ⟨.inl htaken, fun _ => hstays⟩
    · exact ⟨.inr hlater, fun htaken => absurd hlater (hapart htaken)⟩
  · rintro ⟨htaken | hlater, hstays⟩
    · exact .inl ⟨htaken, hstays htaken⟩
    · exact .inr hlater

/-- **The queue after some batches.** -/
theorem afterBatches_eq (l : List α) (n : ℕ) : afterBatches stays size l n =
    (l.take (reached stays size l n)).filter stays ++ l.drop (reached stays size l n) := by
  induction n with
  | zero => rfl
  | succ n ih =>
    rw [afterBatches, ih, reached]
    generalize reached stays size l n = r
    have hlength : ((l.take r).filter stays).length = (l.take r).countP stays :=
      List.countP_eq_length_filter.symm
    unfold afterBatch
    rw [List.take_append, List.drop_append, hlength, List.drop_drop]
    rcases Nat.le_total size ((l.take r).countP stays) with hfull | hroom
    · -- the entries that stay fill the batch, which leaves them all
      rw [Nat.sub_eq_zero_of_le hfull, List.take_zero, List.append_nil, Nat.add_zero,
        ← List.append_assoc]
      have hkept : (((l.take r).filter stays).take size).filter stays =
          ((l.take r).filter stays).take size :=
        List.filter_eq_self.mpr fun a ha => (List.mem_filter.mp (List.mem_of_mem_take ha)).2
      rw [hkept, List.take_append_drop]
    · rw [List.take_of_length_le (hlength.trans_le hroom),
        List.drop_of_length_le (hlength.trans_le hroom),
        List.nil_append, List.filter_append, List.filter_filter, List.take_add, List.filter_append]
      simp

/-- What the next batch takes. -/
theorem mem_take_afterBatches {a : α} (h : a ∈ (afterBatches stays size l n).take size) :
    a ∈ l.take (reached stays size l (n + 1)) := by
  rw [afterBatches_eq, List.take_append, List.mem_append] at h
  rw [reached, List.take_add, List.mem_append]
  rcases h with hstayed | hnew
  · exact .inl (List.mem_filter.mp (List.mem_of_mem_take hstayed)).1
  · rw [← List.countP_eq_length_filter] at hnew
    exact .inr hnew

/-- **What has been taken** in some batches: the entries they get to. -/
theorem exists_mem_take_iff {a : α} : (∃ m < n, a ∈ (afterBatches stays size l m).take size) ↔
    a ∈ l.take (reached stays size l n) := by
  induction n with
  | zero => simp [reached]
  | succ n ih =>
    constructor
    · rintro ⟨m, hm, hmem⟩
      rcases Nat.lt_succ_iff_lt_or_eq.mp hm with hm | rfl
      · have hearlier := ih.mp ⟨m, hm, hmem⟩
        rw [reached, List.take_add]
        exact List.mem_append_left _ hearlier
      · exact mem_take_afterBatches hmem
    · intro hmem
      rw [reached, List.take_add, List.mem_append] at hmem
      rcases hmem with hmem | hmem
      · obtain ⟨m, hm, htaken⟩ := ih.mpr hmem
        exact ⟨m, hm.trans n.lt_succ_self, htaken⟩
      · refine ⟨n, n.lt_succ_self, ?_⟩
        rw [afterBatches_eq, List.take_append, ← List.countP_eq_length_filter]
        exact List.mem_append_right _ hmem

/-- **The whole queue is worked off** exactly when the batches get to its end. -/
theorem forall_taken_iff (hnodup : l.Nodup) :
    (∀ a ∈ l, ∃ m < n, a ∈ (afterBatches stays size l m).take size) ↔
      l.length ≤ reached stays size l n := by
  simp only [exists_mem_take_iff]
  constructor
  · intro hall
    have hsubset := hnodup.subperm fun a ha => hall a ha
    have := hsubset.length_le
    rw [List.length_take] at this
    omega
  · intro hle a ha
    rwa [List.take_of_length_le hle]

/-- **The queue is worked off at all** exactly when fewer entries stay before the last one than
a batch has places. -/
theorem exists_length_le_reached_iff (hsize : 0 < size) :
    (∃ n, l.length ≤ reached stays size l n) ↔ l.dropLast.countP stays < size := by
  constructor
  · rintro ⟨n, hle⟩
    by_contra hfull
    rw [not_lt] at hfull
    -- no batch gets to the last entry
    have hbefore : ∀ n, reached stays size l n ≤ l.length - 1 := by
      intro n
      induction n with
      | zero => exact Nat.zero_le _
      | succ n ih =>
        rw [reached]
        generalize reached stays size l n = r at ih ⊢
        have hsplit : l.dropLast.countP stays =
            (l.dropLast.take r).countP stays + (l.dropLast.drop r).countP stays := by
          rw [← List.countP_append, List.take_append_drop]
        have hrest := List.countP_le_length (p := stays) (l := l.dropLast.drop r)
        rw [List.length_drop, List.length_dropLast] at hrest
        have htake : l.dropLast.take r = l.take r := by
          rw [List.dropLast_eq_take, List.take_take, Nat.min_eq_left ih]
        rw [htake] at hsplit
        omega
    have hlast := hbefore n
    have hempty : l = [] := List.length_eq_zero_iff.mp (by omega)
    subst hempty
    simp at hfull
    omega
  · intro hfew
    -- every batch that has not got to the end gets further
    have hfurther : ∀ n, l.length ≤ reached stays size l n ∨ n ≤ reached stays size l n := by
      intro n
      induction n with
      | zero => exact .inr (Nat.zero_le _)
      | succ n ih =>
        rw [reached]
        generalize reached stays size l n = r at ih ⊢
        by_cases hend : l.length ≤ r
        · exact .inl (hend.trans (Nat.le_add_right _ _))
        · have hsub : (l.take r).Sublist l.dropLast := by
            rw [List.dropLast_eq_take]
            exact List.take_sublist_take_left (by omega)
          have := hsub.countP_le (p := stays)
          exact .inr (by omega)
    refine ⟨l.length, ?_⟩
    rcases hfurther l.length with h | h <;> exact h

end FixZone.Library
