import Mathlib.Data.List.Basic

/-!
# Query conditions as objects

The condition of a query is an object: each of its fields asks something of a row, and the query
selects the rows that meet all of them. Conditions are put together by spreading one object after
the other into a new one, where a field takes the place of an earlier one with its name. So
a part can lose what it asks for to a later part: `meets_spreads_cons` says what is left of a part,
and parts none of which names a field of another select what all of them select
(`meets_spreads_of_disjoint`).

A page of a query is a stretch of the selected rows in some order, and every selected row is on some
page (`RowOrder.exists_mem_page_iff`).
-/

namespace FixZone.Library

/-- A condition: the names of its fields, and what each asks of a row. -/
abbrev Where (κ ρ : Type) := List (κ × (ρ → Bool))

namespace Where

variable {κ ρ : Type} [DecidableEq κ]

/-- The condition selects the row. -/
def meets (w : Where κ ρ) (r : ρ) : Bool := w.all fun field => field.2 r

/-- The condition has a field. -/
def has (w : Where κ ρ) (k : κ) : Bool := w.any fun field => field.1 = k

/-- `where.k`, if there is one. -/
def get? (w : Where κ ρ) (k : κ) : Option (ρ → Bool) := (w.find? fun field => field.1 = k).map (·.2)

/-- `condition ? { k: … } : {}`. -/
def optional (k : κ) (p : Option (ρ → Bool)) : Where κ ρ := p.toList.map fun p => (k, p)

/-- `{ ...w, ...wins }`. -/
def spread (w wins : Where κ ρ) : Where κ ρ :=
  w.filter (fun field => !wins.has field.1) ++ wins

/-- `{ ...w₁, ...w₂, … }`. -/
def spreads : List (Where κ ρ) → Where κ ρ
  | [] => []
  | w :: ws => w.spread (spreads ws)

/-- `where.k = …`. -/
def set (w : Where κ ρ) (k : κ) (p : ρ → Bool) : Where κ ρ := w.spread [(k, p)]

/-- The conditions of an `AND`. -/
def allOf (ws : List (Where κ ρ)) (r : ρ) : Bool := ws.all fun w => w.meets r

/-- The conditions of an `OR`. -/
def anyOf (ws : List (Where κ ρ)) (r : ρ) : Bool := ws.any fun w => w.meets r

variable {w wins : Where κ ρ} {ws : List (Where κ ρ)} {k : κ} {p : ρ → Bool} {r : ρ}

omit [DecidableEq κ] in
@[simp] theorem meets_nil (r : ρ) : meets ([] : Where κ ρ) r = true := rfl

omit [DecidableEq κ] in
theorem meets_iff : w.meets r = true ↔ ∀ field ∈ w, field.2 r = true := List.all_eq_true

omit [DecidableEq κ] in
@[simp] theorem meets_singleton : meets [(k, p)] r = p r := by simp [meets]

omit [DecidableEq κ] in
@[simp] theorem meets_optional {p : Option (ρ → Bool)} :
    (optional k p).meets r = true ↔ ∀ q ∈ p, q r = true := by
  cases p <;> simp [optional, meets]

@[simp] theorem has_nil (k : κ) : has ([] : Where κ ρ) k = false := rfl

@[simp] theorem has_singleton (k' : κ) : has [(k, p)] k' = decide (k = k') := by simp [has]

@[simp] theorem has_optional {p : Option (ρ → Bool)} (k' : κ) :
    (optional k p).has k' = (decide (k = k') && p.isSome) := by
  cases p <;> simp [optional, has]

/-- What a part is left with that another one is spread over, and the other one. -/
theorem meets_spread : (w.spread wins).meets r = true ↔
    (∀ field ∈ w, wins.has field.1 = false → field.2 r = true) ∧ wins.meets r = true := by
  simp only [meets_iff, spread, List.mem_append, List.mem_filter, Bool.not_eq_true']
  constructor
  · exact fun h => ⟨fun field hfield hnot => h field (.inl ⟨hfield, hnot⟩),
      fun field hfield => h field (.inr hfield)⟩
  · rintro ⟨hleft, hwins⟩ field (⟨hfield, hnot⟩ | hfield)
    · exact hleft field hfield hnot
    · exact hwins field hfield

@[simp] theorem has_spread (k : κ) : (w.spread wins).has k = (w.has k || wins.has k) := by
  rw [Bool.eq_iff_iff, Bool.or_eq_true]
  simp only [has, spread, List.any_append, Bool.or_eq_true, List.any_eq_true, List.mem_filter,
    decide_eq_true_eq, Bool.not_eq_true', List.any_eq_false]
  constructor
  · rintro (⟨field, ⟨hfield, -⟩, hk⟩ | hwins)
    · exact .inl ⟨field, hfield, hk⟩
    · exact .inr hwins
  · rintro (⟨field, hfield, rfl⟩ | hwins)
    · by_cases hwins : ∃ field' ∈ wins, field'.1 = field.1
      · exact .inr hwins
      · exact .inl ⟨field, ⟨hfield, fun field' hmem heq => hwins ⟨field', hmem, heq⟩⟩, rfl⟩
    · exact .inr hwins

@[simp] theorem has_spreads (k : κ) : (spreads ws).has k = ws.any (·.has k) := by
  induction ws with
  | nil => rfl
  | cons w ws ih => rw [spreads, has_spread, ih, List.any_cons]

@[simp] theorem meets_spreads_empty (r : ρ) : (spreads ([] : List (Where κ ρ))).meets r = true :=
  rfl

/-- **What is left of a part**: the fields that no later part names. -/
theorem meets_spreads_cons : (spreads (w :: ws)).meets r = true ↔
    (∀ field ∈ w, ws.any (·.has field.1) = false → field.2 r = true) ∧
      (spreads ws).meets r = true := by
  rw [spreads, meets_spread]
  simp only [has_spreads]

/-- A part of one optional field. -/
theorem meets_spreads_optional {p : Option (ρ → Bool)} :
    (spreads (optional k p :: ws)).meets r = true ↔
      (ws.any (·.has k) = false → (optional k p).meets r = true) ∧
        (spreads ws).meets r = true := by
  rw [meets_spreads_cons, meets_optional]
  refine and_congr_left fun _ => ?_
  simp only [optional, List.mem_map, Option.mem_toList, forall_exists_index, and_imp,
    forall_apply_eq_imp_iff₂, Option.mem_def]
  exact ⟨fun h hnone q hq => h q hq hnone, fun h q hq hnone => h hnone q hq⟩

/-- A part of one field. -/
theorem meets_spreads_field : (spreads ([(k, p)] :: ws)).meets r = true ↔
    (ws.any (·.has k) = false → p r = true) ∧ (spreads ws).meets r = true := by
  rw [meets_spreads_cons]
  simp

/-- A part without fields. -/
theorem meets_spreads_nil : (spreads ([] :: ws)).meets r = true ↔ (spreads ws).meets r = true := by
  rw [meets_spreads_cons]
  simp

/-- Parts that name no field of each other are combined. -/
theorem meets_spreads_of_disjoint
    (h : ws.Pairwise fun w w' => ∀ field ∈ w, w'.has field.1 = false) :
    (spreads ws).meets r = true ↔ ∀ w ∈ ws, w.meets r = true := by
  induction ws with
  | nil => simp [spreads]
  | cons w ws ih =>
    obtain ⟨hhead, htail⟩ := List.pairwise_cons.mp h
    rw [meets_spreads_cons, ih htail, List.forall_mem_cons, meets_iff]
    refine and_congr_left fun _ => forall₂_congr fun field hfield => ?_
    have hnone : ws.any (·.has field.1) = false :=
      List.any_eq_false.mpr fun w' hw' => by simp [hhead w' hw' field hfield]
    simp [hnone]

/-- Spreading is associative. -/
theorem spread_assoc (w w' w'' : Where κ ρ) :
    (w.spread w').spread w'' = w.spread (w'.spread w'') := by
  unfold spread
  rw [List.filter_append, List.filter_filter, List.append_assoc]
  congr 1
  refine List.filter_congr fun field _ => ?_
  have h := @has_spread _ _ _ w' w'' field.1
  unfold spread at h
  rw [h, Bool.not_or, Bool.and_comm]

/-- A field that is set afterwards is one more part. -/
theorem set_spreads : (spreads ws).set k p = spreads (ws ++ [[(k, p)]]) := by
  unfold set
  induction ws with
  | nil => rfl
  | cons w ws ih => rw [spreads, spread_assoc, ih, List.cons_append, spreads]

theorem get?_nil (k : κ) : get? ([] : Where κ ρ) k = none := rfl

theorem get?_singleton (k' : κ) : get? [(k, p)] k' = if k = k' then .some p else none := by
  by_cases h : k = k' <;> simp [get?, h]

theorem get?_optional {p : Option (ρ → Bool)} (k' : κ) :
    (optional k p).get? k' = if k = k' then p else none := by
  cases p with
  | none => simp [optional, get?]
  | some p => exact get?_singleton k'

theorem get?_eq_none_iff : w.get? k = none ↔ w.has k = false := by
  simp [get?, has]

/-- What stands under a name is what the last part with it says. -/
theorem get?_spread (k : κ) : (w.spread wins).get? k = (wins.get? k <|> w.get? k) := by
  have hname : (fun field : κ × (ρ → Bool) =>
      decide ((!wins.has field.1) = true ∧ decide (field.1 = k) = true)) =
      fun field => (!wins.has k) && decide (field.1 = k) := by
    funext field
    by_cases h : field.1 = k <;> simp [h]
  have hparts : (w.spread wins).find? (fun field => field.1 = k) =
      (w.find? (fun field => (!wins.has k) && decide (field.1 = k))).or
        (wins.find? fun field => field.1 = k) := by
    rw [spread, List.find?_append, List.find?_filter, hname]
  cases hwins : wins.has k with
  | false =>
    rw [get?_eq_none_iff.mpr hwins, get?, hparts, hwins]
    have hnone : wins.find? (fun field => field.1 = k) = none := by
      simpa [get?] using get?_eq_none_iff.mpr hwins
    simp [hnone, get?]
  | true =>
    have hsome : wins.get? k ≠ none := fun h => by simp [get?_eq_none_iff.mp h] at hwins
    obtain ⟨found, hfound⟩ := Option.ne_none_iff_exists'.mp hsome
    have hnone : w.find? (fun field => (!true) && decide (field.1 = k)) = none := by simp
    rw [hfound, get?, hparts, hwins, hnone, Option.none_or]
    exact hfound

end Where

/-! ### Pages -/

variable {ρ : Type}

/-- An order in which the database lists rows. -/
structure RowOrder (ρ : Type) where
  list : List ρ → List ρ
  perm : ∀ rows, (list rows).Perm rows

/-- The rows of a page, the first page being the page `1`. -/
def RowOrder.page (order : RowOrder ρ) (rows : List ρ) (pageNumber size : ℕ) : List ρ :=
  ((order.list rows).drop ((pageNumber - 1) * size)).take size

/-- A row is on a page exactly when it is among the rows that are listed. -/
theorem RowOrder.exists_mem_page_iff (order : RowOrder ρ) {rows : List ρ} {size : ℕ}
    (hsize : 0 < size) {r : ρ} :
    (∃ pageNumber, 0 < pageNumber ∧ r ∈ order.page rows pageNumber size) ↔ r ∈ rows := by
  rw [← (order.perm rows).mem_iff]
  constructor
  · rintro ⟨pageNumber, -, hmem⟩
    exact List.mem_of_mem_drop (List.mem_of_mem_take hmem)
  · intro hmem
    obtain ⟨place, hplace, rfl⟩ := List.mem_iff_getElem.mp hmem
    refine ⟨place / size + 1, Nat.succ_pos _, ?_⟩
    have hfrom : place / size * size ≤ place := Nat.div_mul_le_self place size
    have hto : place < place / size * size + size := Nat.lt_div_mul_add hsize
    rw [page, Nat.add_sub_cancel, List.mem_iff_getElem]
    refine ⟨place - place / size * size, ?_, ?_⟩
    · rw [List.length_take, List.length_drop]
      omega
    · rw [List.getElem_take, List.getElem_drop]
      congr 1
      omega

end FixZone.Library
