import FixZone.Library.QueryObject
import Mathlib.Data.List.Sort

/-!
# Windows onto a sorted list

A query sorts the rows it selects and takes the first of them, and the caller looks at the
rows of that window only. Where a row stands is how many rows come before it, a count
that does not depend on how the rows were stored: `mem_take_iff` says that the window of
`n` rows shows exactly those that fewer than `n` come before.
-/

namespace FixZone.Library

variable {α : Type} (le : α → α → Bool)

/-- `b` comes before `a`, and not the other way round. -/
def precedes (b a : α) : Bool := le b a && !le a b

/-- Every element comes before those that follow it. -/
def StrictlySorted (l : List α) : Prop := l.Pairwise fun b a => precedes le b a = true

variable {le}

theorem not_precedes_self (a : α) : precedes le a a = false := by
  simp [precedes]

theorem not_precedes_of_precedes {a b : α} (h : precedes le a b = true) :
    precedes le b a = false := by
  simp only [precedes, Bool.and_eq_true, Bool.not_eq_true'] at h
  simp [precedes, h]

theorem countP_precedes_head {a : α} {l : List α} (h : StrictlySorted le (a :: l)) :
    (a :: l).countP (precedes le · a) = 0 := by
  rw [List.countP_eq_zero]
  intro b hb
  rcases List.mem_cons.mp hb with rfl | hb
  · simp [not_precedes_self]
  · simp [not_precedes_of_precedes ((List.pairwise_cons.mp h).1 b hb)]

/-- **What a window shows.** -/
theorem mem_take_iff {l : List α} (hsorted : StrictlySorted le l) {a : α} (ha : a ∈ l) (n : ℕ) :
    a ∈ l.take n ↔ l.countP (precedes le · a) < n := by
  induction l generalizing n with
  | nil => simp at ha
  | cons x l ih =>
    obtain ⟨hhead, htail⟩ := List.pairwise_cons.mp hsorted
    rcases List.mem_cons.mp ha with rfl | ha
    · rw [countP_precedes_head hsorted]
      cases n with
      | zero => simp
      | succ n => simp
    · have hbefore := hhead a ha
      have hne : a ≠ x := by
        rintro rfl
        simp [not_precedes_self] at hbefore
      cases n with
      | zero => simp
      | succ n => simp [hbefore, hne, ih htail ha]

variable {κ : Type} {key : α → κ}

variable (le key) in
/-- An order in which only elements of one key may stand side by side in either way. -/
structure OrdersBy : Prop where
  total : ∀ a b, le a b = true ∨ le b a = true
  trans : ∀ a b c, le a b = true → le b c = true → le a c = true
  antisymm : ∀ a b, le a b = true → le b a = true → key a = key b

/-- Sorting puts elements of different keys in strict order. -/
theorem strictlySorted_insertionSort (hle : OrdersBy le key) {l : List α}
    (hkeys : (l.map key).Nodup) : StrictlySorted le (l.insertionSort fun a b => le a b) := by
  have : Std.Total fun a b : α => le a b = true := ⟨hle.total⟩
  have : IsTrans α fun a b : α => le a b = true := ⟨hle.trans⟩
  have hdistinct : (l.insertionSort fun a b => le a b).Pairwise fun a b => key a ≠ key b :=
    List.pairwise_map.mp (((List.perm_insertionSort _ l).map key).nodup_iff.mpr hkeys)
  refine (hdistinct.and (List.pairwise_insertionSort _ l)).imp fun {a b} h => ?_
  have hback : ¬ le b a = true := fun hback => h.1 (hle.antisymm a b h.2 hback)
  simp [precedes, h.2, hback]

/-- What a window onto the sorted rows shows. -/
theorem mem_take_insertionSort_iff (hle : OrdersBy le key) {l : List α}
    (hkeys : (l.map key).Nodup) {a : α} (n : ℕ) :
    a ∈ (l.insertionSort fun a b => le a b).take n ↔
      a ∈ l ∧ l.countP (precedes le · a) < n := by
  have hsorted := strictlySorted_insertionSort hle hkeys
  constructor
  · intro h
    have ha := List.mem_of_mem_take h
    rw [mem_take_iff hsorted ha, (List.perm_insertionSort _ l).countP_eq] at h
    exact ⟨(List.mem_insertionSort _).mp ha, h⟩
  · rintro ⟨ha, h⟩
    rw [mem_take_iff hsorted ((List.mem_insertionSort _).mpr ha),
      (List.perm_insertionSort _ l).countP_eq]
    exact h

theorem StrictlySorted.nodup {l : List α} (h : StrictlySorted le l) : l.Nodup := by
  refine List.Pairwise.imp (fun {a b} hab => ?_) h
  rintro rfl
  simp [not_precedes_self] at hab

/-- A sorted list is known by its elements. -/
theorem StrictlySorted.eq_of_mem_iff {l l' : List α} (h : StrictlySorted le l)
    (h' : StrictlySorted le l') (hmem : ∀ a, a ∈ l ↔ a ∈ l') : l = l' := by
  have hperm : l.Perm l' := (List.perm_ext_iff_of_nodup h.nodup h'.nodup).mpr hmem
  refine hperm.eq_of_pairwise (fun a b _ _ hab hba => ?_) h h'
  rw [not_precedes_of_precedes hab] at hba
  cases hba

/-! ### Pages -/

theorem mem_drop_iff {l : List α} (hsorted : StrictlySorted le l) {a : α} (ha : a ∈ l) (n : ℕ) :
    a ∈ l.drop n ↔ n ≤ l.countP (precedes le · a) := by
  have hone : a ∈ l.take n ∨ a ∈ l.drop n := by
    rw [← List.mem_append, List.take_append_drop]
    exact ha
  have hdisjoint : a ∈ l.take n → a ∉ l.drop n :=
    fun htake hdrop => List.disjoint_take_drop hsorted.nodup le_rfl htake hdrop
  rw [mem_take_iff hsorted ha] at hone hdisjoint
  constructor
  · intro h
    by_contra hless
    exact hdisjoint (by omega) h
  · intro h
    exact hone.resolve_left (by omega)

/-- What comes before an element of a window comes in the window. -/
theorem countP_take_filter {l : List α} (hsorted : StrictlySorted le l) {n : ℕ} {a : α}
    (ha : a ∈ l.take n) (p : α → Bool) :
    ((l.take n).filter p).countP (precedes le · a) = (l.filter p).countP (precedes le · a) := by
  have hparts : StrictlySorted le (l.take n ++ l.drop n) := by rwa [List.take_append_drop]
  have hafter : ((l.drop n).filter p).countP (precedes le · a) = 0 := by
    rw [List.countP_eq_zero]
    intro b hb
    have hab := (List.pairwise_append.mp hparts).2.2 a ha b (List.mem_of_mem_filter hb)
    simp [not_precedes_of_precedes hab]
  conv_rhs => rw [← List.take_append_drop n l, List.filter_append, List.countP_append, hafter]
  simp

/-- A page: the elements of a window that meet `p`, from the one at `skip` on, `size` of them. -/
def page (l : List α) (p : α → Bool) (window skip size : ℕ) : List α :=
  (((l.take window).filter p).drop skip).take size

/-- Pages of one size, taken one after the other, are the beginning of the list. -/
theorem flatMap_take_drop (l : List α) (size pages : ℕ) :
    ((List.range pages).flatMap fun page => (l.drop (page * size)).take size) =
      l.take (pages * size) := by
  induction pages with
  | zero => simp
  | succ pages ih =>
    rw [List.range_succ, List.flatMap_append, ih, List.flatMap_singleton, Nat.succ_mul,
      List.take_add]

theorem mem_take_drop_iff {l : List α} (hsorted : StrictlySorted le l) {a : α} (ha : a ∈ l)
    (skip size : ℕ) : a ∈ (l.drop skip).take size ↔
      skip ≤ l.countP (precedes le · a) ∧ l.countP (precedes le · a) < skip + size := by
  rw [← mem_drop_iff hsorted ha, ← mem_take_iff hsorted ha]
  constructor
  · intro h
    have htake := h
    rw [List.take_drop] at htake
    exact ⟨List.mem_of_mem_take h, List.mem_of_mem_drop htake⟩
  · rintro ⟨hdrop, htake⟩
    rw [List.take_add, List.mem_append] at htake
    exact htake.resolve_left fun hbefore =>
      List.disjoint_take_drop hsorted.nodup le_rfl hbefore hdrop

/-- **What a page shows**: the elements that meet `p` and stand in the window, and among those that
meet `p` from `skip` on. -/
theorem mem_page_iff {l : List α} (hsorted : StrictlySorted le l) {p : α → Bool}
    {window skip size : ℕ} {a : α} :
    a ∈ page l p window skip size ↔ a ∈ l ∧ p a = true ∧
      l.countP (precedes le · a) < window ∧
      skip ≤ (l.filter p).countP (precedes le · a) ∧
      (l.filter p).countP (precedes le · a) < skip + size := by
  have hshown : StrictlySorted le ((l.take window).filter p) :=
    hsorted.sublist (List.filter_sublist.trans (List.take_sublist _ _))
  unfold page
  constructor
  · intro h
    have hmem := List.mem_of_mem_drop (List.mem_of_mem_take h)
    obtain ⟨htake, hp⟩ := List.mem_filter.mp hmem
    have ha := List.mem_of_mem_take htake
    rw [mem_take_drop_iff hshown hmem, countP_take_filter hsorted htake] at h
    exact ⟨ha, hp, (mem_take_iff hsorted ha window).mp htake, h⟩
  · rintro ⟨ha, hp, hwindow, h⟩
    have htake := (mem_take_iff hsorted ha window).mpr hwindow
    rw [mem_take_drop_iff hshown (List.mem_filter.mpr ⟨htake, hp⟩),
      countP_take_filter hsorted htake]
    exact h

theorem nodup_page {l : List α} (hsorted : StrictlySorted le l) (p : α → Bool)
    (window skip size : ℕ) : (page l p window skip size).Nodup :=
  hsorted.nodup.sublist (((List.take_sublist _ _).trans (List.drop_sublist _ _)).trans
    (List.filter_sublist.trans (List.take_sublist _ _)))

/-- Pages one after the other show no element twice. -/
theorem nodup_flatMap_page {l : List α} (hsorted : StrictlySorted le l) (p : α → Bool)
    (window : ℕ → ℕ) (size n : ℕ) :
    ((List.range n).flatMap fun k => page l p (window k) (k * size) size).Nodup := by
  refine List.nodup_flatMap.mpr ⟨fun k _ => nodup_page hsorted p _ _ _, ?_⟩
  refine List.nodup_range.imp fun {i j} hne a hi hj => hne ?_
  obtain ⟨-, -, -, hi, hi'⟩ := (mem_page_iff hsorted).mp hi
  obtain ⟨-, -, -, hj, hj'⟩ := (mem_page_iff hsorted).mp hj
  have hij : i * size < (j + 1) * size := by rw [Nat.add_mul]; omega
  have hji : j * size < (i + 1) * size := by rw [Nat.add_mul]; omega
  have := Nat.lt_of_mul_lt_mul_right hij
  have := Nat.lt_of_mul_lt_mul_right hji
  omega

/-- **What pages one after the other show**: the elements that meet `p` and stand in the window of
their page. -/
theorem mem_flatMap_page_iff {l : List α} (hsorted : StrictlySorted le l) {p : α → Bool}
    {window : ℕ → ℕ} {size n : ℕ} (hsize : 0 < size) (hn : (l.filter p).length ≤ n * size) {a : α} :
    (a ∈ (List.range n).flatMap fun k => page l p (window k) (k * size) size) ↔
      a ∈ l ∧ p a = true ∧
        l.countP (precedes le · a) < window ((l.filter p).countP (precedes le · a) / size) := by
  rw [List.mem_flatMap]
  constructor
  · rintro ⟨k, -, hk⟩
    obtain ⟨ha, hp, hwindow, hfrom, hto⟩ := (mem_page_iff hsorted).mp hk
    have hpage : (l.filter p).countP (precedes le · a) / size = k :=
      Nat.div_eq_of_lt_le hfrom (by rw [Nat.succ_mul]; omega)
    rw [hpage]
    exact ⟨ha, hp, hwindow⟩
  · rintro ⟨ha, hp, hwindow⟩
    have hless : (l.filter p).countP (precedes le · a) < n * size := by
      refine lt_of_lt_of_le ?_ hn
      refine lt_of_le_of_ne List.countP_le_length fun hall => ?_
      have hself := List.countP_eq_length.mp hall a (List.mem_filter.mpr ⟨ha, hp⟩)
      simp [not_precedes_self] at hself
    refine ⟨_, List.mem_range.mpr (Nat.div_lt_of_lt_mul (Nat.mul_comm n size ▸ hless)),
      (mem_page_iff hsorted).mpr ⟨ha, hp, hwindow, Nat.div_mul_le_self _ _, ?_⟩⟩
    have := Nat.lt_div_mul_add hsize (a := (l.filter p).countP (precedes le · a))
    omega

/-! ### Rankings -/

section Ranking

variable {before : α → α → Bool} {atLeast : α → α → Prop}

variable (atLeast) in
/-- The `n` first of a ranking: in its order, and none of them behind one that is left out. -/
structure Leads (n : ℕ) (all first : List α) : Prop where
  sorted : first.Pairwise atLeast
  length_eq : first.length = min n all.length
  ahead : ∃ omitted, (first ++ omitted).Perm all ∧ ∀ a ∈ first, ∀ b ∈ omitted, atLeast a b

/-- The first of a sorted list lead the ranking. -/
theorem leads_take {l sorted : List α} (hperm : sorted.Perm l) (hsorted : sorted.Pairwise atLeast)
    (n : ℕ) : Leads atLeast n l (sorted.take n) := by
  have hparts := hsorted
  rw [← List.take_append_drop n sorted, List.pairwise_append] at hparts
  obtain ⟨htake, -, hahead⟩ := hparts
  refine ⟨htake, by rw [List.length_take, hperm.length_eq], sorted.drop n, ?_, hahead⟩
  rw [List.take_append_drop]
  exact hperm

variable (before atLeast) in
/-- A comparison by a ranking, with any order of those that are ranked the same. -/
structure Refines : Prop where
  trans : ∀ a b c, atLeast a b → atLeast b c → atLeast a c
  of_before : ∀ a b, before a b = true → atLeast a b
  of_not_before : ∀ a b, before a b = false → atLeast b a

namespace Refines

/-- Inserting by such a comparison keeps the ranking. -/
theorem pairwise_orderedInsert (h : Refines before atLeast) (a : α) {l : List α}
    (hl : l.Pairwise atLeast) : (l.orderedInsert (fun a b => before a b) a).Pairwise atLeast := by
  induction l with
  | nil => simp
  | cons b l ih =>
    obtain ⟨hhead, htail⟩ := List.pairwise_cons.mp hl
    rw [List.orderedInsert_cons]
    split
    · next hbefore =>
      refine List.pairwise_cons.mpr ⟨fun c hc => ?_, hl⟩
      rcases List.mem_cons.mp hc with rfl | hc
      · exact h.of_before _ _ hbefore
      · exact h.trans _ _ _ (h.of_before _ _ hbefore) (hhead c hc)
    · next hbefore =>
      refine List.pairwise_cons.mpr ⟨fun c hc => ?_, ih htail⟩
      rcases (List.mem_orderedInsert _).mp hc with rfl | hc
      · exact h.of_not_before _ _ (by simpa using hbefore)
      · exact hhead c hc

theorem pairwise_insertionSort (h : Refines before atLeast) (l : List α) :
    (l.insertionSort fun a b => before a b).Pairwise atLeast := by
  induction l with
  | nil => exact .nil
  | cons a l ih => exact h.pairwise_orderedInsert a ih

end Refines

variable (atLeast) in
/-- An order in which the database lists rows that it is asked to rank: those that are ranked the
same come as they may. -/
structure SortedOrder extends RowOrder α where
  sorted : ∀ rows, (list rows).Pairwise atLeast

namespace SortedOrder

theorem leads_take (order : SortedOrder atLeast) (n : ℕ) (rows : List α) :
    Leads atLeast n rows ((order.list rows).take n) :=
  Library.leads_take (order.perm rows) (order.sorted rows) n

/-- Rows no two of which are ranked the same are listed in one way. -/
theorem list_eq (order : SortedOrder atLeast) {rows : List α} (hrows : rows.Pairwise atLeast)
    (hdistinct : ∀ a ∈ rows, ∀ b ∈ rows, atLeast a b → atLeast b a → a = b) :
    order.list rows = rows := by
  refine (order.perm rows).eq_of_pairwise (fun a b ha hb => ?_) (order.sorted rows) hrows
  exact hdistinct a ((order.perm rows).mem_iff.mp ha) b hb

variable (atLeast) in
/-- The order that keeps rows of one rank as they were selected. -/
def stable [DecidableRel atLeast] [Std.Total atLeast] [IsTrans α atLeast] :
    SortedOrder atLeast where
  list := List.insertionSort atLeast
  perm := List.perm_insertionSort atLeast
  sorted := List.pairwise_insertionSort atLeast

end SortedOrder

end Ranking

end FixZone.Library
