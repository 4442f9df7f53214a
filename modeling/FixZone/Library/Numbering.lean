import FixZone.Library.JsText
import Mathlib.Data.List.Basic
import Mathlib.Data.List.Nodup
import Mathlib.Data.List.Range

/-!
# Numbers given out by counting

The next of the names of a kind is found by counting those of its kind that there are. As long as
every name that is added was the next one at that time, the names of each kind are its first ones,
each of them once and without a gap (`Gapless.append_next`). So a name that was the next one once
is free exactly as long as no other of its kind has been added (`Gapless.free_iff`), and whoever
counted earlier finds out.
-/

namespace FixZone.Library

universe u v

/-- Names of kinds: every kind has its own, one for each number from zero. -/
structure Numbering (κ : Type u) (α : Type v) where
  name : κ → ℕ → α
  ofKind : κ → α → Bool
  ofKind_name : ∀ kind kind' n, ofKind kind (name kind' n) = true ↔ kind' = kind
  name_injective : ∀ kind, Function.Injective (name kind)

namespace Numbering

variable {κ : Type u} {α : Type v} (N : Numbering κ α)

/-- How many names of a kind there are. -/
def counted (kind : κ) (names : List α) : ℕ := names.countP (N.ofKind kind)

/-- The next name of a kind. -/
def next (kind : κ) (names : List α) : α := N.name kind (N.counted kind names)

/-- Every name is of a kind, and those of each kind are its first ones, in their order. -/
structure Gapless (names : List α) : Prop where
  named : ∀ name ∈ names, ∃ kind, N.ofKind kind name = true
  first : ∀ kind, names.filter (N.ofKind kind) =
    (List.range (N.counted kind names)).map (N.name kind)

variable {N} {names : List α} {kind : κ}

theorem Gapless.nil : N.Gapless [] := ⟨fun _ h => absurd h List.not_mem_nil, fun _ => rfl⟩

/-- No two kinds share a name, and no two numbers. -/
theorem eq_of_name_eq {kind' : κ} {m n : ℕ} (h : N.name kind m = N.name kind' n) :
    kind = kind' ∧ m = n := by
  have hkind : N.ofKind kind' (N.name kind m) = true := by
    rw [h]
    exact (N.ofKind_name kind' kind' n).mpr rfl
  obtain rfl := (N.ofKind_name kind' kind m).mp hkind
  exact ⟨rfl, N.name_injective kind h⟩

theorem counted_append (kind : κ) (names more : List α) :
    N.counted kind (names ++ more) = N.counted kind names + N.counted kind more :=
  List.countP_append

theorem counted_name_self (kind : κ) (n : ℕ) : N.counted kind [N.name kind n] = 1 :=
  List.countP_eq_length.mpr fun name hname => by
    rw [List.mem_singleton.mp hname]
    exact (N.ofKind_name kind kind n).mpr rfl

theorem counted_name_of_ne {kind' : κ} (h : kind' ≠ kind) (n : ℕ) :
    N.counted kind [N.name kind' n] = 0 :=
  List.countP_eq_zero.mpr fun name hname hkind => by
    rw [List.mem_singleton.mp hname] at hkind
    exact h ((N.ofKind_name kind kind' n).mp hkind)

/-- The next name of a kind leaves no gap. -/
theorem Gapless.append_next (h : N.Gapless names) (kind : κ) :
    N.Gapless (names ++ [N.next kind names]) where
  named name hname := by
    obtain hold | hnew := List.mem_append.mp hname
    · exact h.named name hold
    · rw [List.mem_singleton.mp hnew]
      exact ⟨kind, (N.ofKind_name _ _ _).mpr rfl⟩
  first kind' := by
    rw [List.filter_append, h.first kind', counted_append]
    by_cases hkind : kind = kind'
    · subst hkind
      have hnext : [N.next kind names].filter (N.ofKind kind) = [N.next kind names] :=
        List.filter_cons_of_pos ((N.ofKind_name _ _ _).mpr rfl)
      rw [hnext, next, counted_name_self, List.range_succ, List.map_append]
      rfl
    · have hnext : [N.next kind names].filter (N.ofKind kind') = [] :=
        List.filter_cons_of_neg fun h => hkind ((N.ofKind_name _ _ _).mp h)
      rw [hnext, next, counted_name_of_ne hkind, List.append_nil, Nat.add_zero]

/-- The names that are there are those below the count of their kind. -/
theorem Gapless.mem_name_iff (h : N.Gapless names) {n : ℕ} :
    N.name kind n ∈ names ↔ n < N.counted kind names := by
  have hkind : N.ofKind kind (N.name kind n) = true := (N.ofKind_name _ _ _).mpr rfl
  calc N.name kind n ∈ names
      ↔ N.name kind n ∈ names.filter (N.ofKind kind) := by rw [List.mem_filter, and_iff_left hkind]
    _ ↔ N.name kind n ∈ (List.range (N.counted kind names)).map (N.name kind) := by
        rw [h.first kind]
    _ ↔ n < N.counted kind names := by
        rw [List.mem_map_of_injective (N.name_injective kind), List.mem_range]

/-- A name that was the next one is free as long as no other of its kind has been added. -/
theorem Gapless.free_iff (h : N.Gapless names) {n : ℕ} (hn : n ≤ N.counted kind names) :
    N.name kind n ∉ names ↔ N.counted kind names = n := by
  rw [h.mem_name_iff]
  omega

/-- No name is given out twice. -/
theorem Gapless.nodup (h : N.Gapless names) : names.Nodup := by
  rw [List.nodup_iff_pairwise_ne, List.pairwise_iff_forall_sublist]
  rintro name _ hpair rfl
  obtain ⟨kind, hkind⟩ := h.named name (hpair.subset List.mem_cons_self)
  have hfilter : [name, name].Sublist (names.filter (N.ofKind kind)) := by
    have hsublist := hpair.filter (N.ofKind kind)
    rwa [List.filter_eq_self.mpr (by simp [hkind])] at hsublist
  rw [h.first kind] at hfilter
  have hnodup : ((List.range (N.counted kind names)).map (N.name kind)).Nodup :=
    List.Nodup.map (N.name_injective kind) List.nodup_range
  exact List.not_nodup_pair name (hnodup.sublist hfilter)

end Numbering

/-! ### Numbers with a year -/

theorem toList_toString (n : ℕ) : (toString n).toList = Nat.toDigits 10 n := by
  rw [Nat.toString_eq_repr, Nat.toList_repr]

theorem toList_padded (width n : ℕ) : (padded width n).toList =
    List.replicate (width - (Nat.toDigits 10 n).length) '0' ++ Nat.toDigits 10 n := by
  simp [padded, Nat.toString_eq_repr, Nat.toList_repr, String.length]

theorem padded_injective (width : ℕ) : Function.Injective (padded width) := by
  intro m n h
  have hvalue (n : ℕ) : Nat.ofDigitChars 10 (padded width n).toList 0 = n := by
    rw [toList_padded, Nat.ofDigitChars_append, Nat.ofDigitChars_replicate_zero, Nat.mul_zero,
      Nat.ofDigitChars_ten_toDigits]
  rw [← hvalue m, h, hvalue n]

theorem toDigits_injective : Function.Injective (Nat.toDigits 10) := by
  intro m n h
  rw [← Nat.ofDigitChars_ten_toDigits (n := m), h, Nat.ofDigitChars_ten_toDigits]

theorem notMem_toDigits {c : Char} (hc : c.isDigit = false) (n : ℕ) : c ∉ Nat.toDigits 10 n :=
  fun h => by
    rw [Nat.isDigit_of_mem_toDigits (by decide) (by decide) h] at hc
    cases hc

theorem notMem_padded {c : Char} (hc : c.isDigit = false) (width n : ℕ) :
    c ∉ (padded width n).toList := by
  rw [toList_padded, List.mem_append, List.mem_replicate]
  rintro (⟨-, rfl⟩ | h)
  · exact Bool.noConfusion hc
  · exact notMem_toDigits hc n h

/-- What the names of a year begin with. -/
def yearStart (tag : String) (year : ℕ) : String := tag ++ toString year ++ "-"

/-- The names of a year: `TAG-2026-000001`, `TAG-2026-000002`, and so on. -/
def yearNumbers (tag : String) (width : ℕ) : Numbering ℕ String where
  name year n := yearStart tag year ++ padded width (n + 1)
  ofKind year name := (yearStart tag year).toList.isPrefixOf name.toList
  ofKind_name year year' n := by
    rw [List.isPrefixOf_iff_prefix]
    constructor
    · rintro ⟨rest, hrest⟩
      simp only [yearStart, String.toList_append, toList_toString, List.append_assoc,
        List.append_cancel_left_eq] at hrest
      have hdash : ("-".toList : List Char) = ['-'] := rfl
      rw [hdash, List.singleton_append, List.singleton_append, eq_comm,
        List.append_cons_inj_of_notMem (notMem_toDigits (by decide) year')
          (notMem_padded (by decide) width (n + 1))] at hrest
      exact toDigits_injective hrest.1
    · rintro rfl
      rw [String.toList_append]
      exact List.prefix_append _ _
  name_injective year m n h := by
    have hlist := congrArg String.toList h
    dsimp only at hlist
    rw [String.toList_append, String.toList_append, List.append_cancel_left_eq,
      String.toList_inj] at hlist
    have hpadded := padded_injective width hlist
    omega

end FixZone.Library
