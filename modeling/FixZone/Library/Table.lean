import Mathlib.Data.List.Nodup
import Mathlib.Data.List.Perm.Subperm

/-!
# Keyed tables

A database table with a primary key, as the rows in insertion order together with
the proof that no key occurs twice. A row is looked up by its key, changed in
place by a `Patch`, which by construction leaves the key alone, and added under a
key that is still free. What the development uses of a table is what each of the
operations does to a lookup (`find?_modify`, `find?_insert`) and that lookup and
membership agree (`mem_rows_iff`).
-/

namespace FixZone.Library

universe u v

variable {κ : Type u} {ρ : Type v} [DecidableEq κ]

/-- A change of a row that leaves its key alone. -/
structure Patch (key : ρ → κ) where
  /-- The changed row. -/
  apply : ρ → ρ
  /-- The key stays. -/
  key_apply : ∀ r, key (apply r) = key r := by intro; rfl

/-- The rows of a table, no two with the same key. -/
structure Table (key : ρ → κ) where
  /-- The rows, in insertion order. -/
  rows : List ρ
  /-- The primary key constraint. -/
  nodup : (rows.map key).Nodup

namespace Table

variable {key : ρ → κ}

omit [DecidableEq κ] in
theorem eq_of_rows_eq {t t' : Table key} (h : t.rows = t'.rows) : t = t' := by
  cases t
  cases t'
  cases h
  rfl

/-- The table without rows. -/
def empty (key : ρ → κ) : Table key := ⟨[], List.nodup_nil⟩

/-- The row with key `k`. -/
def find? (t : Table key) (k : κ) : Option ρ := t.rows.find? fun r => key r = k

/-- What a patch of the row with key `k` makes of a row. -/
def patchAt (k : κ) (p : Patch key) (r : ρ) : ρ := if key r = k then p.apply r else r

theorem key_patchAt (k : κ) (p : Patch key) (r : ρ) : key (patchAt k p r) = key r := by
  unfold patchAt
  split
  · exact p.key_apply r
  · rfl

/-- Patch the row with key `k`. -/
def modify (t : Table key) (k : κ) (p : Patch key) : Table key where
  rows := t.rows.map (patchAt k p)
  nodup := by
    rw [List.map_map, show key ∘ patchAt k p = key from funext fun r => key_patchAt k p r]
    exact t.nodup

/-- Add a row under a free key; a taken key leaves the table as it is. -/
def insert (t : Table key) (r : ρ) : Table key :=
  if h : key r ∈ t.rows.map key then t
  else ⟨t.rows ++ [r], by
    rw [List.map_append, List.nodup_append]
    refine ⟨t.nodup, List.nodup_singleton _, fun a ha b hb => ?_⟩
    rw [List.map_singleton, List.mem_singleton] at hb
    rw [hb]
    exact fun hab => h (hab ▸ ha)⟩

/-- `upsert`: patch the row with the key of `r`, or add `r` where there is none. -/
def upsert (t : Table key) (r : ρ) (p : Patch key) : Table key :=
  if (t.find? (key r)).isSome then t.modify (key r) p else t.insert r

/-- `updateMany`: patch the rows that meet a condition. -/
def modifyWhere (t : Table key) (cond : ρ → Bool) (p : Patch key) : Table key where
  rows := t.rows.map fun r => if cond r then p.apply r else r
  nodup := by
    have hkey : key ∘ (fun r => if cond r then p.apply r else r) = key := by
      funext r
      show key (if cond r then p.apply r else r) = key r
      split
      · exact p.key_apply r
      · rfl
    rw [List.map_map, hkey]
    exact t.nodup

/-- `deleteMany`: drop the rows that meet a condition. -/
def deleteWhere (t : Table key) (cond : ρ → Bool) : Table key where
  rows := t.rows.filter fun r => !cond r
  nodup := t.nodup.sublist (List.filter_sublist.map key)

/-- `createMany`: add rows, one after the other. -/
def insertAll (t : Table key) (new : List ρ) : Table key := new.foldl insert t

/-! ### Lookup -/

theorem key_of_find? {t : Table key} {k : κ} {r : ρ} (h : t.find? k = some r) : key r = k := by
  have := List.find?_some h
  simpa using this

theorem mem_of_find? {t : Table key} {k : κ} {r : ρ} (h : t.find? k = some r) : r ∈ t.rows :=
  List.mem_of_find?_eq_some h

theorem find?_eq_none_iff {t : Table key} {k : κ} : t.find? k = none ↔ k ∉ t.rows.map key := by
  simp [find?]

/-- In a list of rows with distinct keys the lookup of a member's key is that member. -/
theorem find?_of_mem_rows {rows : List ρ} (hnd : (rows.map key).Nodup) {r : ρ} (hr : r ∈ rows) :
    rows.find? (fun x => key x = key r) = some r := by
  induction rows with
  | nil => simp at hr
  | cons a rows ih =>
    rw [List.map_cons, List.nodup_cons] at hnd
    rcases List.mem_cons.mp hr with rfl | hr
    · simp
    · have hne : key a ≠ key r := fun h => hnd.1 (h ▸ List.mem_map_of_mem hr)
      rw [List.find?_cons_of_neg (by simpa using hne)]
      exact ih hnd.2 hr

/-- Membership is lookup of the own key. -/
theorem mem_rows_iff {t : Table key} {r : ρ} : r ∈ t.rows ↔ t.find? (key r) = some r :=
  ⟨find?_of_mem_rows t.nodup, mem_of_find?⟩

/-- Two conditions find the same rows in every table exactly when they agree on every row. -/
theorem find?_and_congr_iff {P Q : ρ → Prop} :
    (∀ (t : Table key) (k : κ), (∃ r, t.find? k = some r ∧ P r) ↔ ∃ r, t.find? k = some r ∧ Q r) ↔
      ∀ r, P r ↔ Q r := by
  constructor
  · intro h r
    have hone := h ⟨[r], by simp⟩ (key r)
    simpa [find?] using hone
  · exact fun h t k => exists_congr fun r => and_congr_right fun _ => h r

theorem find?_modify (t : Table key) (k k' : κ) (p : Patch key) :
    (t.modify k p).find? k' = if k' = k then (t.find? k').map p.apply else t.find? k' := by
  have hmap : (t.modify k p).find? k' = (t.find? k').map (patchAt k p) := by
    unfold find? modify
    rw [List.find?_map]
    simp only [Function.comp_def, key_patchAt]
  rw [hmap]
  cases h : t.find? k' with
  | none => simp
  | some r =>
    have hk := key_of_find? h
    simp only [Option.map_some, patchAt, hk]
    split <;> rfl

theorem find?_modify_self {t : Table key} {k : κ} {r : ρ} (p : Patch key) (h : t.find? k = some r) :
    (t.modify k p).find? k = some (p.apply r) := by
  rw [find?_modify, if_pos rfl, h, Option.map_some]

theorem find?_modify_of_ne {t : Table key} {k k' : κ} (p : Patch key) (h : k' ≠ k) :
    (t.modify k p).find? k' = t.find? k' := by
  rw [find?_modify, if_neg h]

/-- A row after a modification is the row before it, or what the patch made of that. -/
theorem find?_modify_cases {t : Table key} {k k' : κ} {p : Patch key} {r' : ρ}
    (h : (t.modify k p).find? k' = some r') :
    ∃ r, t.find? k' = some r ∧ (r' = r ∨ k' = k ∧ r' = p.apply r) := by
  rw [find?_modify] at h
  split at h
  · next hk =>
    obtain ⟨r, hr, rfl⟩ := Option.map_eq_some_iff.mp h
    exact ⟨r, hr, .inr ⟨hk, rfl⟩⟩
  · exact ⟨r', h, .inl rfl⟩

theorem find?_insert_of_free {t : Table key} {r : ρ} (h : t.find? (key r) = none) (k : κ) :
    (t.insert r).find? k = if k = key r then some r else t.find? k := by
  have hfree := find?_eq_none_iff.mp h
  simp only [insert, dif_neg hfree, find?]
  rw [List.find?_append]
  split
  · next hk =>
    subst hk
    have : t.rows.find? (fun x => key x = key r) = none := h
    rw [this]
    simp
  · next hk =>
    have : ¬ key r = k := fun e => hk e.symm
    simp [this]

theorem find?_insert_self {t : Table key} {r : ρ} (h : t.find? (key r) = none) :
    (t.insert r).find? (key r) = some r := by
  rw [find?_insert_of_free h, if_pos rfl]

theorem rows_insert_of_free {t : Table key} {r : ρ} (h : t.find? (key r) = none) :
    (t.insert r).rows = t.rows ++ [r] := by
  rw [insert, dif_neg (find?_eq_none_iff.mp h)]

/-- Where all rows satisfy `P`, all do after a modification exactly when the modified one does. -/
theorem forall_rows_modify_iff {t : Table key} {k : κ} {r : ρ} {p : Patch key} {P : ρ → Prop}
    (hP : ∀ row ∈ t.rows, P row) (h : t.find? k = some r) :
    (∀ row ∈ (t.modify k p).rows, P row) ↔ P (p.apply r) := by
  have hkey : key r = k := key_of_find? h
  constructor
  · intro hall
    have hmem : patchAt k p r ∈ (t.modify k p).rows := List.mem_map_of_mem (mem_of_find? h)
    rw [patchAt, if_pos hkey] at hmem
    exact hall _ hmem
  · intro hpatched row hmem
    obtain ⟨row, hrow, rfl⟩ := List.mem_map.mp hmem
    unfold patchAt
    split
    · next hsame =>
      have hfound := mem_rows_iff.mp hrow
      rw [hsame, h] at hfound
      rwa [← Option.some.inj hfound]
    · exact hP row hrow

/-- Where all rows satisfy `P`, all do after an insertion exactly when the new one does. -/
theorem forall_rows_insert_iff {t : Table key} {r : ρ} {P : ρ → Prop}
    (hP : ∀ row ∈ t.rows, P row) (h : t.find? (key r) = none) :
    (∀ row ∈ (t.insert r).rows, P row) ↔ P r := by
  rw [rows_insert_of_free h]
  simpa [or_imp, forall_and] using fun _ => hP

/-- Rows whose keys are new are added at the end. -/
theorem rows_insertAll {t : Table key} {new : List ρ}
    (h : (t.rows.map key ++ new.map key).Nodup) : (t.insertAll new).rows = t.rows ++ new := by
  induction new generalizing t with
  | nil => exact (List.append_nil _).symm
  | cons r new ih =>
    have hfree : key r ∉ t.rows.map key := fun hmem =>
      (List.nodup_append.mp h).2.2 _ hmem _ List.mem_cons_self rfl
    have hrows := rows_insert_of_free (find?_eq_none_iff.mpr hfree)
    have hrest : (((t.insert r).rows).map key ++ new.map key).Nodup := by
      rw [hrows, List.map_append, List.append_assoc]
      exact h
    rw [insertAll, List.foldl_cons, ← insertAll, ih hrest, hrows, List.append_assoc]
    rfl

/-- A row that is there is not replaced by an insertion. -/
theorem find?_insert_of_some {t : Table key} {r r' : ρ} {k : κ} (h : t.find? k = some r) :
    (t.insert r').find? k = some r := by
  by_cases hfree : t.find? (key r') = none
  · rw [find?_insert_of_free hfree, if_neg, h]
    rintro rfl
    rw [h] at hfree
    cases hfree
  · have hmem : key r' ∈ t.rows.map key := by
      by_contra hc
      exact hfree (find?_eq_none_iff.mpr hc)
    rw [insert, dif_pos hmem, h]

theorem find?_modifyWhere (t : Table key) (cond : ρ → Bool) (p : Patch key) (k : κ) :
    (t.modifyWhere cond p).find? k =
      (t.find? k).map fun r => if cond r then p.apply r else r := by
  have hkey : ∀ r, key (if cond r then p.apply r else r) = key r := by
    intro r
    split
    · exact p.key_apply r
    · rfl
  unfold find? modifyWhere
  rw [List.find?_map]
  simp only [Function.comp_def, hkey]

theorem find?_modifyWhere_eq_none {t : Table key} {k : κ} (h : t.find? k = none) (cond : ρ → Bool)
    (p : Patch key) : (t.modifyWhere cond p).find? k = none := by
  rw [find?_modifyWhere, h, Option.map_none]

theorem find?_upsert (t : Table key) (r : ρ) (p : Patch key) (k : κ) :
    (t.upsert r p).find? k = if k = key r then some ((t.find? k).elim r p.apply) else
      t.find? k := by
  unfold upsert
  cases h : t.find? (key r) with
  | none =>
    rw [Option.isSome_none, if_neg Bool.false_ne_true, find?_insert_of_free h]
    refine ite_congr rfl (fun hk => ?_) fun _ => rfl
    rw [hk, h]
    rfl
  | some r' =>
    rw [Option.isSome_some, if_pos rfl, find?_modify]
    refine ite_congr rfl (fun hk => ?_) fun _ => rfl
    rw [hk, h]
    rfl

/-! ### The newest row -/

/-- The row inserted last among those that meet `p`. -/
def newest (t : Table key) (p : ρ → Bool) : Option ρ := t.rows.reverse.find? p

omit [DecidableEq κ] in
theorem of_newest {t : Table key} {p : ρ → Bool} {r : ρ} (h : t.newest p = some r) :
    r ∈ t.rows ∧ p r = true :=
  ⟨List.mem_reverse.mp (List.mem_of_find?_eq_some h), List.find?_some h⟩

/-- A change that no row meets or misses `p` by leaves the newest row the newest. -/
theorem newest_modify (t : Table key) (k : κ) (patch : Patch key) {p : ρ → Bool}
    (hp : ∀ r, p (patch.apply r) = p r) :
    (t.modify k patch).newest p = (t.newest p).map (patchAt k patch) := by
  have hsame : p ∘ patchAt k patch = p := by
    funext r
    unfold Function.comp patchAt
    split
    · exact hp r
    · rfl
  rw [newest, modify, ← List.map_reverse, List.find?_map, hsame, newest]

omit [DecidableEq κ] in
theorem newest_modifyWhere (t : Table key) (cond : ρ → Bool) (patch : Patch key) {p : ρ → Bool}
    (hp : ∀ r, p (patch.apply r) = p r) :
    (t.modifyWhere cond patch).newest p =
      (t.newest p).map fun r => if cond r then patch.apply r else r := by
  have hsame : (p ∘ fun r => if cond r then patch.apply r else r) = p := by
    funext r
    show p (if cond r then patch.apply r else r) = p r
    split
    · exact hp r
    · rfl
  rw [newest, modifyWhere, ← List.map_reverse, List.find?_map, hsame, newest]

theorem newest_insert_of_free {t : Table key} {r : ρ} (h : t.find? (key r) = none)
    (p : ρ → Bool) : (t.insert r).newest p = if p r then some r else t.newest p := by
  rw [newest, rows_insert_of_free h, List.reverse_append, List.reverse_singleton,
    List.singleton_append, List.find?_cons, newest]
  cases p r with
  | true => rfl
  | false => rfl

/-- No key has two rows. -/
theorem countP_key_le_one (t : Table key) (k : κ) :
    (t.rows.filter fun r => key r = k).length ≤ 1 := by
  have h : (t.rows.filter fun r => key r = k).length = (t.rows.map key).count k := by
    rw [← List.countP_eq_length_filter, List.count, List.countP_map]
    rfl
  rw [h]
  exact List.nodup_iff_count_le_one.mp t.nodup k

/-! ### Unique columns -/

/-- No two rows have the same value in a column where each has one. -/
def UniqueIn {β : Type v} (t : Table key) (column : ρ → Option β) : Prop :=
  ∀ r ∈ t.rows, ∀ r' ∈ t.rows, column r ≠ none → column r' = column r → r' = r

omit [DecidableEq κ] in
/-- A row that is written leaves a column unique where no other row has its value. -/
theorem UniqueIn.write {β : Type v} {column : ρ → Option β} {t t' : Table key} {r : ρ}
    (h : t.UniqueIn column)
    (hrows : ∀ row ∈ t'.rows, row = r ∨ row ∈ t.rows ∧ key row ≠ key r)
    (hfree : ∀ row ∈ t.rows, key row ≠ key r → column r ≠ none → column row ≠ column r) :
    t'.UniqueIn column := by
  intro a ha b hb hsome heq
  rcases hrows a ha with rfl | ⟨ha, hane⟩
  · rcases hrows b hb with rfl | ⟨hb, hbne⟩
    · rfl
    · exact absurd heq (hfree b hb hbne hsome)
  · rcases hrows b hb with rfl | ⟨hb, -⟩
    · exact absurd heq.symm (hfree a ha hane (heq ▸ hsome))
    · exact h a ha b hb hsome heq

/-- The rows after a modification are the patched row and the others. -/
theorem rows_modify_cases {t : Table key} {k : κ} {p : Patch key} {r row : ρ}
    (h : t.find? k = some r) (hrow : row ∈ (t.modify k p).rows) :
    row = p.apply r ∨ row ∈ t.rows ∧ key row ≠ key (p.apply r) := by
  obtain ⟨old, hold, rfl⟩ := List.mem_map.mp hrow
  rw [p.key_apply, key_of_find? h]
  unfold patchAt
  split
  · next hkey =>
    have hfound := mem_rows_iff.mp hold
    rw [hkey, h] at hfound
    exact .inl (congrArg p.apply (Option.some.inj hfound).symm)
  · next hkey => exact .inr ⟨hold, hkey⟩

/-- The rows after an insertion are the new row and the others. -/
theorem rows_insert_cases {t : Table key} {r row : ρ} (h : t.find? (key r) = none)
    (hrow : row ∈ (t.insert r).rows) : row = r ∨ row ∈ t.rows ∧ key row ≠ key r := by
  have hfree := find?_eq_none_iff.mp h
  rw [rows_insert_of_free h] at hrow
  rcases List.mem_append.mp hrow with hmem | hmem
  · exact .inr ⟨hmem, fun hkey => hfree (hkey ▸ List.mem_map_of_mem hmem)⟩
  · exact .inl (List.mem_singleton.mp hmem)

/-! ### Counting -/

/-- The keys of the rows that meet `p`. -/
def keysWhere (t : Table key) (p : ρ → Bool) : List κ := (t.rows.filter p).map key

omit [DecidableEq κ] in
theorem nodup_keysWhere (t : Table key) (p : ρ → Bool) : (t.keysWhere p).Nodup :=
  t.nodup.sublist (List.filter_sublist.map key)

omit [DecidableEq κ] in
theorem length_keysWhere (t : Table key) (p : ρ → Bool) :
    (t.keysWhere p).length = t.rows.countP p := by
  rw [keysWhere, List.length_map, List.countP_eq_length_filter]

theorem mem_keysWhere {t : Table key} {p : ρ → Bool} {k : κ} :
    k ∈ t.keysWhere p ↔ ∃ r, t.find? k = some r ∧ p r := by
  simp only [keysWhere, List.mem_map, List.mem_filter]
  constructor
  · rintro ⟨r, ⟨hr, hp⟩, rfl⟩
    exact ⟨r, mem_rows_iff.mp hr, hp⟩
  · rintro ⟨r, hr, hp⟩
    exact ⟨r, ⟨mem_of_find? hr, hp⟩, key_of_find? hr⟩

omit [DecidableEq κ] in
/-- Where one condition is met at least where the other was, it is met at least as often. -/
theorem countP_le_countP {t t' : Table key} {p p' : ρ → Bool}
    (h : ∀ k ∈ t.keysWhere p, k ∈ t'.keysWhere p') : t.rows.countP p ≤ t'.rows.countP p' := by
  rw [← length_keysWhere, ← length_keysWhere]
  exact (List.subperm_of_subset (t.nodup_keysWhere p) h).length_le

omit [DecidableEq κ] in
/-- With a new key it is met once more. -/
theorem countP_lt_countP {t t' : Table key} {p p' : ρ → Bool} {k : κ}
    (h : ∀ k ∈ t.keysWhere p, k ∈ t'.keysWhere p') (hout : k ∉ t.keysWhere p)
    (hnew : k ∈ t'.keysWhere p') : t.rows.countP p + 1 ≤ t'.rows.countP p' := by
  rw [← length_keysWhere, ← length_keysWhere, ← List.length_cons (a := k)]
  refine (List.subperm_of_subset (List.nodup_cons.mpr ⟨hout, t.nodup_keysWhere p⟩) ?_).length_le
  exact List.cons_subset.mpr ⟨hnew, h⟩

omit [DecidableEq κ] in
/-- Where only one key may change, it is met once more at most. -/
theorem countP_le_succ {t t' : Table key} {p p' : ρ → Bool} {k : κ}
    (h : ∀ k' ∈ t'.keysWhere p', k' = k ∨ k' ∈ t.keysWhere p) :
    t'.rows.countP p' ≤ t.rows.countP p + 1 := by
  rw [← length_keysWhere, ← length_keysWhere, ← List.length_cons (a := k)]
  refine (List.subperm_of_subset (t'.nodup_keysWhere p') fun k' hk' => ?_).length_le
  exact List.mem_cons.mpr (h k' hk')

theorem not_mem_keysWhere_of_free {t : Table key} {p : ρ → Bool} {k : κ} (h : t.find? k = none) :
    k ∉ t.keysWhere p := by
  rw [mem_keysWhere, h]
  rintro ⟨_, hnone, -⟩
  cases hnone

/-- Where only one key may change and a bound is met, the bound is still met unless the key is new
and the bound was reached. -/
theorem countP_le_iff {t t' : Table key} {p p' : ρ → Bool} {k : κ} {bound : ℕ}
    (h : ∀ k' ≠ k, k' ∈ t'.keysWhere p' ↔ k' ∈ t.keysWhere p) (hbound : t.rows.countP p ≤ bound) :
    t'.rows.countP p' ≤ bound ↔
      ¬ (bound ≤ t.rows.countP p ∧ k ∈ t'.keysWhere p' ∧ k ∉ t.keysWhere p) := by
  constructor
  · rintro hkept ⟨hfull, hnew, hout⟩
    have hmore := countP_lt_countP (fun k' hk' => (h k' fun heq => hout (heq ▸ hk')).mpr hk') hout
      hnew
    omega
  · intro hno
    by_cases hnew : k ∈ t'.keysWhere p' ∧ k ∉ t.keysWhere p
    · have hroom : t.rows.countP p < bound := Nat.lt_of_not_le fun hfull => hno ⟨hfull, hnew⟩
      refine Nat.le_trans (countP_le_succ (k := k) fun k' hk' => ?_) hroom
      by_cases heq : k' = k
      · exact .inl heq
      · exact .inr ((h k' heq).mp hk')
    · refine Nat.le_trans (countP_le_countP fun k' hk' => ?_) hbound
      by_cases heq : k' = k
      · subst heq
        by_contra hout
        exact hnew ⟨hk', hout⟩
      · exact (h k' heq).mp hk'

end Table

end FixZone.Library
