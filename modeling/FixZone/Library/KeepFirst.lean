import Mathlib.Data.List.Nodup

/-!
# The first of each key

A loop that goes through a list and passes over what has the key of something it has already
met keeps the first member of each key (`mem_keepFirst_iff`), and no key twice
(`nodup_keys_keepFirst`). So members that agree in their key are kept at most once between
them, and once exactly when one of them is the first of its key (`countP_keepFirst_eq_one_iff`).
-/

namespace FixZone.Library

universe u v

variable {α : Type u} {κ : Type v} [DecidableEq κ] {key : α → κ} {seen : List κ} {l : List α}

/-- The members that are the first of their key, where the keys in `seen` have been met. -/
def keepFirst (key : α → κ) : List κ → List α → List α
  | _, [] => []
  | seen, a :: l =>
    if key a ∈ seen then keepFirst key seen l
    else a :: keepFirst key (key a :: seen) l

theorem mem_keepFirst_iff {a : α} :
    a ∈ keepFirst key seen l ↔ key a ∉ seen ∧ l.find? (fun b => key b = key a) = some a := by
  induction l generalizing seen with
  | nil => simp [keepFirst]
  | cons b l ih =>
    rw [keepFirst, List.find?_cons]
    by_cases hkey : key b = key a
    · -- `b` is the first of the key: what comes later under it is not kept
      rw [hkey, decide_eq_true rfl]
      split_ifs with hseen
      · simp [ih, hseen]
      · simp [ih, hseen, eq_comm]
    · have hne : a ≠ b := fun heq => hkey (congrArg key heq).symm
      rw [decide_eq_false hkey]
      split_ifs with hseen
      · exact ih
      · simp [ih, hne, Ne.symm hkey]

theorem mem_of_mem_keepFirst {a : α} (h : a ∈ keepFirst key seen l) : a ∈ l :=
  List.mem_of_find?_eq_some (mem_keepFirst_iff.mp h).2

theorem nodup_keys_keepFirst : ((keepFirst key seen l).map key).Nodup := by
  induction l generalizing seen with
  | nil => exact List.nodup_nil
  | cons b l ih =>
    rw [keepFirst]
    split_ifs
    · exact ih
    · rw [List.map_cons, List.nodup_cons]
      refine ⟨fun hmem => ?_, ih⟩
      obtain ⟨a, ha, hkey⟩ := List.mem_map.mp hmem
      exact (mem_keepFirst_iff.mp ha).1 (hkey ▸ List.mem_cons_self)

/-- What shares a key is kept at most once. -/
theorem countP_keepFirst_le_one {p : α → Bool}
    (hp : ∀ a b, p a → p b → key a = key b) : (keepFirst key seen l).countP p ≤ 1 := by
  have hpairwise : (keepFirst key seen l).Pairwise fun a b => key a ≠ key b :=
    List.pairwise_map.mp nodup_keys_keepFirst
  rw [List.countP_eq_length_filter]
  cases hkept : (keepFirst key seen l).filter p with
  | nil => simp
  | cons a rest =>
    cases rest with
    | nil => simp
    | cons b rest =>
      have hab := hkept ▸ hpairwise.filter p
      have ha : a ∈ (keepFirst key seen l).filter p := hkept ▸ List.mem_cons_self
      have hb : b ∈ (keepFirst key seen l).filter p := by simp [hkept]
      exact absurd (hp a b (List.mem_filter.mp ha).2 (List.mem_filter.mp hb).2)
        ((List.pairwise_cons.mp hab).1 b List.mem_cons_self)

/-- What shares a key is kept once exactly when it has the first of its key. -/
theorem countP_keepFirst_eq_one_iff {p : α → Bool} {k : κ} (hseen : k ∉ seen)
    (hp : ∀ a, p a → key a = k) :
    (keepFirst key seen l).countP p = 1 ↔ ∃ a, l.find? (fun b => key b = k) = some a ∧ p a := by
  have hmost : (keepFirst key seen l).countP p ≤ 1 :=
    countP_keepFirst_le_one fun a b ha hb => (hp a ha).trans (hp b hb).symm
  have hone : (keepFirst key seen l).countP p = 1 ↔ 0 < (keepFirst key seen l).countP p := by
    omega
  rw [hone, List.countP_pos_iff]
  constructor
  · rintro ⟨a, ha, hpa⟩
    exact ⟨a, hp a hpa ▸ (mem_keepFirst_iff.mp ha).2, hpa⟩
  · rintro ⟨a, ha, hpa⟩
    have hkey := hp a hpa
    exact ⟨a, mem_keepFirst_iff.mpr (hkey ▸ ⟨hseen, ha⟩), hpa⟩

end FixZone.Library
