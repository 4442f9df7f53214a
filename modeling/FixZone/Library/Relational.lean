import FixZone.Library.Table
import Mathlib.Logic.Function.Iterate

/-!
# Tables that refer to each other

A relational store: tables with a primary key whose rows refer to rows of other tables, and
the rules by which a statement that deletes rows reaches the rows that refer to them. A row that
refers to a deleted one by a key declared `cascade` is deleted too; one that does so by a key
declared `setNull` loses the reference; and by a key declared `restrict` the whole statement
fails.

What a statement deletes is a set of marked rows, closed under the cascades (`gone_iff`). A schema
carries a rank of its tables that every cascade increases, so the closure is reached after as many
rounds as there are ranks. The rule for a row is `mem_deleteMany_iff`: it stays as it is exactly
when the statement does not ask for it and it refers to no deleted row by `cascade` or `setNull`.

When the row that holds a `restrict` reference is itself deleted by the statement, whether the check
of the reference comes before that deletion depends on the order in which the database works. It is
left open: `meets` tells for which of these rows it does.
-/

namespace FixZone.Library.Relational

variable {τ γ κ : Type} {δ : τ → Type}

/-! ### Stores -/

/-- What the deletion of a row does to a row that refers to it. -/
inductive OnDelete where
  | cascade | setNull | restrict
  deriving DecidableEq, Repr

/-- A column of a table that holds keys of another. -/
structure ForeignKey (τ γ : Type) where
  table : τ
  column : γ
  target : τ
  onDelete : OnDelete
  deriving DecidableEq, Repr

/-- The foreign keys of a store's tables. No cascade runs in a circle. -/
structure Schema (τ γ : Type) where
  foreignKeys : List (ForeignKey τ γ)
  /-- How many cascades a table is away from the tables without one. -/
  rank : τ → ℕ
  depth : ℕ
  rank_le : ∀ t, rank t ≤ depth
  rank_lt : ∀ fk ∈ foreignKeys, fk.onDelete = .cascade → rank fk.target < rank fk.table

/-- A row: its key, the references it holds, and its other columns. -/
structure Row (κ γ δ : Type) where
  key : κ
  ref : γ → Option κ
  cells : δ

/-- The tables of a store. -/
abbrev Store (κ γ : Type) (δ : τ → Type) := (t : τ) → Table (Row.key (κ := κ) (γ := γ) (δ := δ t))

/-- Rows by table and key. -/
abbrev Marks (τ κ : Type) := τ → κ → Bool

/-- The row refers to a marked row of `target`. -/
def Row.refersTo {δ : Type} (r : Row κ γ δ) (fk : ForeignKey τ γ) (gone : Marks τ κ) : Bool :=
  (r.ref fk.column).any (gone fk.target)

theorem Row.refersTo_iff {δ : Type} {r : Row κ γ δ} {fk : ForeignKey τ γ} {gone : Marks τ κ} :
    r.refersTo fk gone = true ↔ ∃ k, r.ref fk.column = some k ∧ gone fk.target k = true := by
  rw [Row.refersTo, Option.any_eq_true]

/-- Rows of one table with the same key are the same. -/
theorem eq_of_key_eq {s : Store κ γ δ} {t : τ} {r r' : Row κ γ (δ t)} (hr : r ∈ (s t).rows)
    (hr' : r' ∈ (s t).rows) (hkey : r.key = r'.key) : r = r' :=
  List.inj_on_of_nodup_map (s t).nodup hr hr' hkey

/-! ### Stores that grow and shrink -/

/-- No row of `s` is missing from `s'` or changed there. -/
def Grows (s s' : Store κ γ δ) : Prop := ∀ t, ∀ r ∈ (s t).rows, r ∈ (s' t).rows

theorem Grows.refl (s : Store κ γ δ) : Grows s s := fun _ _ hr => hr

theorem Grows.trans {s s' s'' : Store κ γ δ} (h : Grows s s') (h' : Grows s' s'') : Grows s s'' :=
  fun t r hr => h' t r (h t r hr)

/-- Every row of `s'` is one of `s`, perhaps without some of its references. -/
def Shrinks (s s' : Store κ γ δ) : Prop := ∀ t, ∀ r' ∈ (s' t).rows, ∃ r ∈ (s t).rows,
  r.key = r'.key ∧ r.cells = r'.cells ∧ ∀ c, r'.ref c = r.ref c ∨ r'.ref c = none

theorem Shrinks.trans {s s' s'' : Store κ γ δ} (h : Shrinks s s') (h' : Shrinks s' s'') :
    Shrinks s s'' := by
  intro t r'' hr''
  obtain ⟨r', hr', hkey', hcells', href'⟩ := h' t r'' hr''
  obtain ⟨r, hr, hkey, hcells, href⟩ := h t r' hr'
  refine ⟨r, hr, hkey.trans hkey', hcells.trans hcells', fun c => ?_⟩
  rcases href' c with hc | hc
  · rw [hc]
    exact href c
  · exact .inr hc

/-- A reference that is there afterwards was there before. -/
theorem Shrinks.ref_before {s s' : Store κ γ δ} (h : Shrinks s s') {t : τ} {r' : Row κ γ (δ t)}
    (hr' : r' ∈ (s' t).rows) {c : γ} {k : κ} (hk : r'.ref c = some k) :
    ∃ r ∈ (s t).rows, r.key = r'.key ∧ r.ref c = some k := by
  obtain ⟨r, hr, hkey, -, href⟩ := h t r' hr'
  refine ⟨r, hr, hkey, ?_⟩
  rcases href c with hc | hc
  · rw [← hc, hk]
  · rw [hk] at hc
    cases hc

/-- A row that is there at both ends is there in between. -/
theorem Shrinks.mem_between {s s' s'' : Store κ γ δ} (h : Shrinks s s') (h' : Shrinks s' s'')
    {t : τ} {r : Row κ γ (δ t)} (hr : r ∈ (s t).rows) (hr'' : r ∈ (s'' t).rows) :
    r ∈ (s' t).rows := by
  obtain ⟨r', hr', hkey', hcells', href'⟩ := h' t r hr''
  obtain ⟨r₀, hr₀, hkey, hcells, href⟩ := h t r' hr'
  obtain rfl := eq_of_key_eq hr₀ hr (hkey.trans hkey')
  have hsame : r' = r₀ := by
    have hrefs : r'.ref = r₀.ref := by
      funext c
      rcases href' c with hc | hc
      · exact hc.symm
      · rcases href c with hc' | hc'
        · exact hc'
        · rw [hc', hc]
    cases r'
    cases r₀
    subst hkey' hcells' hrefs
    rfl
  rw [← hsame]
  exact hr'

namespace Schema

variable (S : Schema τ γ)

/-- Every reference is to a row that is there. -/
def Consistent (s : Store κ γ δ) : Prop := ∀ fk ∈ S.foreignKeys, ∀ r ∈ (s fk.table).rows, ∀ k,
  r.ref fk.column = some k → k ∈ (s fk.target).rows.map Row.key

/-- A `restrict` reference holds the statement back. -/
def held (meets : ForeignKey τ γ → κ → Bool) (s : Store κ γ δ) (gone : Marks τ κ) : Bool :=
  S.foreignKeys.any fun fk => decide (fk.onDelete = .restrict) &&
    (s fk.table).rows.any fun r => r.refersTo fk gone && (!gone fk.table r.key || meets fk r.key)

variable {S}

theorem held_iff {meets : ForeignKey τ γ → κ → Bool} {s : Store κ γ δ} {gone : Marks τ κ} :
    S.held meets s gone = true ↔ ∃ fk ∈ S.foreignKeys, fk.onDelete = .restrict ∧
      ∃ r ∈ (s fk.table).rows, r.refersTo fk gone = true ∧
        (gone fk.table r.key = false ∨ meets fk r.key = true) := by
  simp [held]

variable [DecidableEq τ] [DecidableEq κ]

/-! ### The rows a statement deletes -/

/-- The rows of `t` that meet `p`, as marks. -/
def asked (s : Store κ γ δ) (t : τ) (p : Row κ γ (δ t) → Bool) : Marks τ κ := fun t' k =>
  decide (t' = t) && (s t).rows.any fun r => decide (r.key = k) && p r

/-- The marks asked for, and the rows that refer by a cascade to a row marked before. -/
def spread (S : Schema τ γ) (s : Store κ γ δ) (asked gone : Marks τ κ) : Marks τ κ := fun t k =>
  asked t k || S.foreignKeys.any fun fk =>
    decide (fk.table = t) && decide (fk.onDelete = .cascade) &&
      (s fk.table).rows.any fun r => decide (r.key = k) && r.refersTo fk gone

/-- The rows that go when the marked ones do. -/
def gone (S : Schema τ γ) (s : Store κ γ δ) (asked : Marks τ κ) : Marks τ κ :=
  (S.spread s asked)^[S.depth] asked

theorem asked_iff {s : Store κ γ δ} {t t' : τ} {p : Row κ γ (δ t) → Bool} {k : κ} :
    asked s t p t' k = true ↔ t' = t ∧ ∃ r ∈ (s t).rows, r.key = k ∧ p r = true := by
  simp [asked]

theorem spread_iff {s : Store κ γ δ} {asked gone : Marks τ κ} {t : τ} {k : κ} :
    S.spread s asked gone t k = true ↔ asked t k = true ∨
      ∃ fk ∈ S.foreignKeys, fk.table = t ∧ fk.onDelete = .cascade ∧
        ∃ r ∈ (s fk.table).rows, r.key = k ∧ r.refersTo fk gone = true := by
  simp [spread, and_assoc]

/-- A table's marks are settled after as many rounds as its rank. -/
theorem spread_iterate_eq (s : Store κ γ δ) (asked : Marks τ κ) (n : ℕ) :
    ∀ t, S.rank t ≤ n → (S.spread s asked)^[n + 1] asked t = (S.spread s asked)^[n] asked t := by
  induction n with
  | zero =>
    intro t hrank
    funext k
    -- a table of rank zero has no cascade
    rw [Bool.eq_iff_iff, Function.iterate_succ_apply', spread_iff]
    refine or_iff_left ?_
    rintro ⟨fk, hfk, rfl, hcascade, -⟩
    have := S.rank_lt fk hfk hcascade
    omega
  | succ n ih =>
    intro t hrank
    funext k
    rw [Bool.eq_iff_iff, Function.iterate_succ_apply', spread_iff, Function.iterate_succ_apply',
      spread_iff]
    refine or_congr_right (exists_congr fun fk => and_congr_right fun hfk => ?_)
    refine and_congr_right fun htable => and_congr_right fun hcascade => ?_
    have hlt := S.rank_lt fk hfk hcascade
    have hround := ih fk.target (by rw [htable] at hlt; omega)
    rw [Function.iterate_succ_apply'] at hround
    simp only [Row.refersTo, hround]

/-- A row goes when it is asked for, or refers by a cascade to a row that goes. -/
theorem gone_iff {s : Store κ γ δ} {asked : Marks τ κ} {t : τ} {k : κ} :
    S.gone s asked t k = true ↔ asked t k = true ∨
      ∃ fk ∈ S.foreignKeys, fk.table = t ∧ fk.onDelete = .cascade ∧
        ∃ r ∈ (s fk.table).rows, r.key = k ∧ r.refersTo fk (S.gone s asked) = true := by
  rw [← spread_iff, gone, ← Function.iterate_succ_apply' (S.spread s asked),
    spread_iterate_eq s asked S.depth t (S.rank_le t)]

/-- A table without a cascade loses the rows asked for only. -/
theorem gone_iff_asked {s : Store κ γ δ} {asked : Marks τ κ} {t : τ} {k : κ}
    (ht : ∀ fk ∈ S.foreignKeys, fk.table = t → fk.onDelete ≠ .cascade) :
    S.gone s asked t k = true ↔ asked t k = true := by
  rw [gone_iff]
  refine or_iff_left ?_
  rintro ⟨fk, hfk, htable, hcascade, -⟩
  exact ht fk hfk htable hcascade

/-- **Induction on the cascades.** What holds of the rows asked for, and of a row when it holds of
one that the row refers to by a cascade, holds of every row that goes. -/
theorem gone_induction {s : Store κ γ δ} {asked : Marks τ κ} {P : τ → κ → Prop}
    (hasked : ∀ t k, asked t k = true → P t k)
    (hcascade : ∀ fk ∈ S.foreignKeys, fk.onDelete = .cascade → ∀ r ∈ (s fk.table).rows, ∀ k,
      r.ref fk.column = some k → P fk.target k → P fk.table r.key)
    {t : τ} {k : κ} (hgone : S.gone s asked t k = true) : P t k := by
  have hrounds : ∀ n t k, (S.spread s asked)^[n] asked t k = true → P t k := by
    intro n
    induction n with
    | zero => exact hasked
    | succ n ih =>
      intro t k h
      rw [Function.iterate_succ_apply', spread_iff] at h
      rcases h with h | ⟨fk, hfk, rfl, hrule, r, hr, rfl, href⟩
      · exact hasked t k h
      · obtain ⟨k', hk', hgone⟩ := Row.refersTo_iff.mp href
        exact hcascade fk hfk hrule r hr k' hk' (ih fk.target k' hgone)
  exact hrounds S.depth t k hgone

/-- The cascades stay within the tables `A` when these hold what is asked for and every table that
refers to one of them by a cascade. -/
theorem not_gone_of_outside {s : Store κ γ δ} {asked : Marks τ κ} {A : τ → Bool}
    (hasked : ∀ t k, asked t k = true → A t = true)
    (hclosed : ∀ fk ∈ S.foreignKeys, fk.onDelete = .cascade → A fk.target = true →
      A fk.table = true) {t : τ} (ht : A t = false) (k : κ) : S.gone s asked t k = false := by
  rw [Bool.eq_false_iff]
  intro hgone
  have hin : A t = true := gone_induction (P := fun t _ => A t = true) hasked
    (fun fk hfk hrule _ _ _ _ htarget => hclosed fk hfk hrule htarget) hgone
  rw [ht] at hin
  cases hin

/-! ### Adding rows -/

/-- `createMany`: add rows to `t`. It fails when a key is taken or a reference is to no row. -/
def createMany (S : Schema τ γ) (t : τ) (rows : List (Row κ γ (δ t))) (s : Store κ γ δ) :
    Option (Store κ γ δ) :=
  if hkeys : (((s t).rows ++ rows).map Row.key).Nodup then
    let s' : Store κ γ δ := Function.update s t ⟨(s t).rows ++ rows, hkeys⟩
    if S.foreignKeys.all fun fk => !decide (fk.table = t) || rows.all fun r =>
        (r.ref fk.column).all fun k => decide (k ∈ (s' fk.target).rows.map Row.key)
    then some s' else none
  else none

theorem createMany_eq_some {t : τ} {rows : List (Row κ γ (δ t))} {s s' : Store κ γ δ} :
    S.createMany t rows s = some s' ↔
      (s' t).rows = (s t).rows ++ rows ∧ (∀ t' ≠ t, s' t' = s t') ∧
        ∀ fk ∈ S.foreignKeys, fk.table = t → ∀ r ∈ rows, ∀ k, r.ref fk.column = some k →
          k ∈ (s' fk.target).rows.map Row.key := by
  have hrefs : ∀ s' : Store κ γ δ, (S.foreignKeys.all fun fk => !decide (fk.table = t) ||
      rows.all fun r => (r.ref fk.column).all fun k =>
        decide (k ∈ (s' fk.target).rows.map Row.key)) = true ↔
      ∀ fk ∈ S.foreignKeys, fk.table = t → ∀ r ∈ rows, ∀ k, r.ref fk.column = some k →
        k ∈ (s' fk.target).rows.map Row.key := by
    intro s'
    simp only [List.all_eq_true, Bool.or_eq_true, Bool.not_eq_true', decide_eq_false_iff_not,
      Option.all_eq_true, decide_eq_true_eq, or_iff_not_imp_left, not_not]
  unfold createMany
  dsimp only
  split_ifs with hkeys hall
  · rw [Option.some.injEq]
    constructor
    · rintro rfl
      exact ⟨by rw [Function.update_self], fun t' ht' => Function.update_of_ne ht' _ _,
        (hrefs _).mp hall⟩
    · rintro ⟨hrows, hother, -⟩
      funext t'
      by_cases ht' : t' = t
      · subst ht'
        rw [Function.update_self]
        exact Table.eq_of_rows_eq hrows.symm
      · rw [Function.update_of_ne ht', hother t' ht']
  · refine iff_of_false (by simp) ?_
    rintro ⟨hrows, hother, hin⟩
    refine hall ((hrefs _).mpr fun fk hfk htable r hr k hk => ?_)
    have hmem := hin fk hfk htable r hr k hk
    by_cases ht' : fk.target = t
    · rw [ht'] at hmem ⊢
      rw [Function.update_self]
      rwa [hrows] at hmem
    · rw [Function.update_of_ne ht']
      rwa [hother _ ht'] at hmem
  · refine iff_of_false (by simp) ?_
    rintro ⟨hrows, -, -⟩
    exact hkeys (hrows ▸ (s' t).nodup)

/-- `create`: add one row. -/
def create (S : Schema τ γ) (t : τ) (r : Row κ γ (δ t)) (s : Store κ γ δ) :
    Option (Store κ γ δ) := S.createMany t [r] s

/-- No row is lost or changed, and the rows that are new have the keys of the added ones. -/
theorem createMany_grows {t : τ} {rows : List (Row κ γ (δ t))} {s s' : Store κ γ δ}
    (h : S.createMany t rows s = some s') : Grows s s' ∧ ∀ t', ∀ r ∈ (s' t').rows,
      r ∈ (s t').rows ∨ (t' = t ∧ r.key ∈ rows.map Row.key) := by
  obtain ⟨hrows, hother, -⟩ := createMany_eq_some.mp h
  refine ⟨fun t' r hr => ?_, fun t' r hr => ?_⟩
  · by_cases ht : t' = t
    · subst ht
      rw [hrows]
      exact List.mem_append_left _ hr
    · rwa [hother t' ht]
  · by_cases ht : t' = t
    · subst ht
      rw [hrows, List.mem_append] at hr
      exact hr.imp_right fun hnew => ⟨rfl, List.mem_map_of_mem hnew⟩
    · rw [hother t' ht] at hr
      exact .inl hr

/-- A row without references is added under a key that is not in use. -/
theorem exists_create {t : τ} {r : Row κ γ (δ t)} {s : Store κ γ δ}
    (hkey : ∀ r₀ ∈ (s t).rows, r₀.key ≠ r.key)
    (href : ∀ fk ∈ S.foreignKeys, fk.table = t → r.ref fk.column = none) :
    ∃ s', S.create t r s = some s' := by
  have hkeys : (((s t).rows ++ [r]).map Row.key).Nodup := by
    rw [List.map_append, List.nodup_append]
    refine ⟨(s t).nodup, List.nodup_singleton _, fun k hk k' hk' heq => ?_⟩
    obtain ⟨r₀, hr₀, rfl⟩ := List.mem_map.mp hk
    rw [List.map_singleton, List.mem_singleton] at hk'
    exact hkey r₀ hr₀ (heq.trans hk')
  refine ⟨Function.update s t ⟨(s t).rows ++ [r], hkeys⟩, createMany_eq_some.mpr ⟨?_, ?_, ?_⟩⟩
  · rw [Function.update_self]
  · exact fun t' ht' => Function.update_of_ne ht' _ _
  · intro fk hfk htable r' hr' k hk
    rw [List.mem_singleton.mp hr', href fk hfk htable] at hk
    cases hk

/-! ### What a deletion leaves -/

variable [DecidableEq γ] (S)

/-- The row loses its reference in column `c`. -/
def cleared {δ : Type} (gone : Marks τ κ) (t : τ) (r : Row κ γ δ) (c : γ) : Bool :=
  S.foreignKeys.any fun fk => decide (fk.table = t) && decide (fk.column = c) &&
    decide (fk.onDelete = .setNull) && r.refersTo fk gone

/-- The rows of `t` without their references to deleted rows. -/
def clear (δ : Type) (gone : Marks τ κ) (t : τ) : Patch (Row.key (κ := κ) (γ := γ) (δ := δ)) where
  apply r := { r with ref := fun c => if S.cleared gone t r c then none else r.ref c }

/-- The store without the deleted rows and the references to them. -/
def settle (s : Store κ γ δ) (gone : Marks τ κ) : Store κ γ δ := fun t =>
  ((s t).deleteWhere fun r => gone t r.key).modifyWhere (fun _ => true) (S.clear (δ t) gone t)

/-- `deleteMany`: delete the rows of `t` that meet `p`. -/
def deleteMany (meets : ForeignKey τ γ → κ → Bool) (t : τ) (p : Row κ γ (δ t) → Bool)
    (s : Store κ γ δ) : Option (Store κ γ δ) :=
  let gone := S.gone s (asked s t p)
  if S.held meets s gone then none else some (S.settle s gone)

variable {S}

omit [DecidableEq κ] in
theorem cleared_iff {δ : Type} {gone : Marks τ κ} {t : τ} {r : Row κ γ δ} {c : γ} :
    S.cleared gone t r c = true ↔ ∃ fk ∈ S.foreignKeys, fk.table = t ∧ fk.column = c ∧
      fk.onDelete = .setNull ∧ r.refersTo fk gone = true := by
  simp [cleared, and_assoc]

omit [DecidableEq κ] in
theorem mem_settle_iff {s : Store κ γ δ} {gone : Marks τ κ} {t : τ} {r : Row κ γ (δ t)} :
    r ∈ (S.settle s gone t).rows ↔
      ∃ r₀ ∈ (s t).rows, gone t r₀.key = false ∧ (S.clear (δ t) gone t).apply r₀ = r := by
  simp [settle, Table.modifyWhere, Table.deleteWhere, and_assoc]

omit [DecidableEq κ] in
/-- A row keeps its references exactly when none of them is to a deleted row and cleared. -/
theorem clear_eq_self_iff {δ : Type} {gone : Marks τ κ} {t : τ} {r : Row κ γ δ} :
    (S.clear δ gone t).apply r = r ↔ ∀ fk ∈ S.foreignKeys, fk.table = t →
      fk.onDelete = .setNull → r.refersTo fk gone = false := by
  constructor
  · intro heq fk hfk htable hnull
    rw [Bool.eq_false_iff]
    intro href
    have hcleared : S.cleared gone t r fk.column = true :=
      cleared_iff.mpr ⟨fk, hfk, htable, rfl, hnull, href⟩
    have hcolumn := congrFun (congrArg Row.ref heq) fk.column
    simp only [clear, hcleared, if_true] at hcolumn
    obtain ⟨k, hk, -⟩ := Row.refersTo_iff.mp href
    rw [hk] at hcolumn
    cases hcolumn
  · intro h
    have hcolumns : (fun c => if S.cleared gone t r c then none else r.ref c) = r.ref := by
      funext c
      refine if_neg fun hcleared => ?_
      obtain ⟨fk, hfk, htable, -, hnull, href⟩ := cleared_iff.mp hcleared
      rw [h fk hfk htable hnull] at href
      cases href
    show { r with ref := fun c => if S.cleared gone t r c then none else r.ref c } = r
    rw [hcolumns]

/-- **The rule of a deletion for a row.** It stays as it is exactly when it is not asked for and
refers to no deleted row, but for the references that would hold the statement back. -/
theorem mem_settle_gone_iff {s : Store κ γ δ} {asked : Marks τ κ} {t : τ} {r : Row κ γ (δ t)}
    (hr : r ∈ (s t).rows) : r ∈ (S.settle s (S.gone s asked) t).rows ↔
      asked t r.key = false ∧ ∀ fk ∈ S.foreignKeys, fk.table = t → fk.onDelete ≠ .restrict →
        r.refersTo fk (S.gone s asked) = false := by
  have hself : r ∈ (S.settle s (S.gone s asked) t).rows ↔
      S.gone s asked t r.key = false ∧ (S.clear (δ t) (S.gone s asked) t).apply r = r := by
    rw [mem_settle_iff]
    constructor
    · rintro ⟨r₀, hr₀, hgone, heq⟩
      have hkey : r₀.key = r.key := by rw [← heq]; rfl
      obtain rfl := eq_of_key_eq hr₀ hr hkey
      exact ⟨hgone, heq⟩
    · rintro ⟨hgone, heq⟩
      exact ⟨r, hr, hgone, heq⟩
  have hstays : S.gone s asked t r.key = false ↔ asked t r.key = false ∧
      ∀ fk ∈ S.foreignKeys, fk.table = t → fk.onDelete = .cascade →
        r.refersTo fk (S.gone s asked) = false := by
    rw [← Bool.not_eq_true, gone_iff, not_or, Bool.not_eq_true]
    refine and_congr_right fun _ => ⟨fun h fk hfk htable hcascade => ?_, fun h => ?_⟩
    · rw [Bool.eq_false_iff]
      subst htable
      exact fun href => h ⟨fk, hfk, rfl, hcascade, r, hr, rfl, href⟩
    · rintro ⟨fk, hfk, rfl, hcascade, r₀, hr₀, hkey, href⟩
      obtain rfl := eq_of_key_eq hr₀ hr hkey
      rw [h fk hfk rfl hcascade] at href
      cases href
  rw [hself, hstays, clear_eq_self_iff, and_assoc]
  refine and_congr_right fun _ => ⟨fun h fk hfk htable honDelete => ?_, fun h => ⟨?_, ?_⟩⟩
  · cases hrule : fk.onDelete with
    | cascade => exact h.1 fk hfk htable hrule
    | setNull => exact h.2 fk hfk htable hrule
    | restrict => exact absurd hrule honDelete
  · exact fun fk hfk htable hcascade => h fk hfk htable (by rw [hcascade]; decide)
  · exact fun fk hfk htable hnull => h fk hfk htable (by rw [hnull]; decide)

theorem deleteMany_eq_some {meets : ForeignKey τ γ → κ → Bool} {t : τ}
    {p : Row κ γ (δ t) → Bool} {s s' : Store κ γ δ} :
    S.deleteMany meets t p s = some s' ↔
      S.held meets s (S.gone s (asked s t p)) = false ∧
        S.settle s (S.gone s (asked s t p)) = s' := by
  unfold deleteMany
  dsimp only
  split_ifs with hheld
  · simp [hheld]
  · simp [hheld]

omit [DecidableEq κ] in
/-- A table none of whose rows goes or loses a reference is left as it is. -/
theorem settle_eq_of_keeps {s : Store κ γ δ} {gone : Marks τ κ} {t : τ}
    (hkeeps : ∀ r ∈ (s t).rows, gone t r.key = false ∧ ∀ fk ∈ S.foreignKeys, fk.table = t →
      fk.onDelete = .setNull → r.refersTo fk gone = false) : S.settle s gone t = s t := by
  have hstay : (s t).rows.filter (fun r => !gone t r.key) = (s t).rows :=
    List.filter_eq_self.mpr fun r hr => by rw [(hkeeps r hr).1]; rfl
  have hrows : (S.settle s gone t).rows = (s t).rows := by
    simp only [settle, Table.modifyWhere, Table.deleteWhere, hstay, if_true]
    exact (List.map_congr_left fun r hr => clear_eq_self_iff.mpr (hkeeps r hr).2).trans
      (List.map_id _)
  exact Table.eq_of_rows_eq hrows

/-- The rule of a deletion for a row, as a rule of `deleteMany`. -/
theorem mem_deleteMany_iff {meets : ForeignKey τ γ → κ → Bool} {t₀ : τ}
    {p : Row κ γ (δ t₀) → Bool} {s s' : Store κ γ δ} (hdelete : S.deleteMany meets t₀ p s = some s')
    {t : τ} {r : Row κ γ (δ t)} (hr : r ∈ (s t).rows) : r ∈ (s' t).rows ↔
      asked s t₀ p t r.key = false ∧ ∀ fk ∈ S.foreignKeys, fk.table = t → fk.onDelete ≠ .restrict →
        r.refersTo fk (S.gone s (asked s t₀ p)) = false := by
  obtain ⟨-, rfl⟩ := deleteMany_eq_some.mp hdelete
  exact mem_settle_gone_iff hr

/-- No row with the key of a row that was asked for is left. -/
theorem not_asked_of_mem {meets : ForeignKey τ γ → κ → Bool} {t₀ : τ}
    {p : Row κ γ (δ t₀) → Bool} {s s' : Store κ γ δ} (hdelete : S.deleteMany meets t₀ p s = some s')
    {t : τ} {r : Row κ γ (δ t)} (hr : r ∈ (s' t).rows) : asked s t₀ p t r.key = false := by
  obtain ⟨-, rfl⟩ := deleteMany_eq_some.mp hdelete
  obtain ⟨r₀, -, hgone, rfl⟩ := mem_settle_iff.mp hr
  rw [Bool.eq_false_iff] at hgone ⊢
  exact fun hasked => hgone (gone_iff.mpr (.inl hasked))

/-- A table is left as it is when the cascades do not reach it and none of its references that
would be cleared is to a table they reach. -/
theorem deleteMany_untouched {meets : ForeignKey τ γ → κ → Bool} {t₀ : τ}
    {p : Row κ γ (δ t₀) → Bool} {s s' : Store κ γ δ} (hdelete : S.deleteMany meets t₀ p s = some s')
    {A : τ → Bool} (hA : A t₀ = true)
    (hclosed : ∀ fk ∈ S.foreignKeys, fk.onDelete = .cascade → A fk.target = true →
      A fk.table = true) {t : τ} (ht : A t = false)
    (hnull : ∀ fk ∈ S.foreignKeys, fk.table = t → fk.onDelete = .setNull → A fk.target = false) :
    s' t = s t := by
  obtain ⟨-, rfl⟩ := deleteMany_eq_some.mp hdelete
  have hout : ∀ t, A t = false → ∀ k, S.gone s (asked s t₀ p) t k = false := fun t ht k => by
    refine not_gone_of_outside (fun t' k' hasked => ?_) hclosed ht k
    rw [(asked_iff.mp hasked).1]
    exact hA
  refine settle_eq_of_keeps fun r _ => ⟨hout t ht r.key, fun fk hfk htable hrule => ?_⟩
  rw [Bool.eq_false_iff]
  intro href
  obtain ⟨k, -, hgone⟩ := Row.refersTo_iff.mp href
  rw [hout fk.target (hnull fk hfk htable hrule) k] at hgone
  cases hgone

/-- The rule for a row that refers to tables without a cascade only. -/
theorem mem_deleteMany_iff_of_shallow {meets : ForeignKey τ γ → κ → Bool} {t₀ : τ}
    {p : Row κ γ (δ t₀) → Bool} {s s' : Store κ γ δ} (hdelete : S.deleteMany meets t₀ p s = some s')
    {t : τ} (hshallow : ∀ fk ∈ S.foreignKeys, fk.table = t → ∀ fk' ∈ S.foreignKeys,
      fk'.table = fk.target → fk'.onDelete ≠ .cascade) {r : Row κ γ (δ t)} (hr : r ∈ (s t).rows) :
    r ∈ (s' t).rows ↔ asked s t₀ p t r.key = false ∧
      ∀ fk ∈ S.foreignKeys, fk.table = t → fk.onDelete ≠ .restrict →
        r.refersTo fk (asked s t₀ p) = false := by
  rw [mem_deleteMany_iff hdelete hr]
  refine and_congr_right fun _ => forall_congr' fun fk => forall_congr' fun hfk => ?_
  refine forall_congr' fun htable => imp_congr_right fun _ => ?_
  rw [← Bool.not_eq_true, ← Bool.not_eq_true, Row.refersTo_iff, Row.refersTo_iff]
  exact not_congr (exists_congr fun k => and_congr_right fun _ =>
    gone_iff_asked (hshallow fk hfk htable))

/-- Nothing holds a deletion back whose cascades reach no table that a `restrict` reference is
to. -/
theorem exists_deleteMany (meets : ForeignKey τ γ → κ → Bool) {t₀ : τ}
    (p : Row κ γ (δ t₀) → Bool) (s : Store κ γ δ) {A : τ → Bool} (hA : A t₀ = true)
    (hclosed : ∀ fk ∈ S.foreignKeys, fk.onDelete = .cascade → A fk.target = true →
      A fk.table = true)
    (hrestrict : ∀ fk ∈ S.foreignKeys, fk.onDelete = .restrict → A fk.target = false) :
    ∃ s', S.deleteMany meets t₀ p s = some s' := by
  refine ⟨_, deleteMany_eq_some.mpr ⟨?_, rfl⟩⟩
  rw [Bool.eq_false_iff]
  intro hheld
  obtain ⟨fk, hfk, hrule, r, -, href, -⟩ := held_iff.mp hheld
  obtain ⟨k, -, hgone⟩ := Row.refersTo_iff.mp href
  rw [not_gone_of_outside (fun t k hasked => ?_) hclosed (hrestrict fk hfk hrule) k] at hgone
  · cases hgone
  · rw [(asked_iff.mp hasked).1]
    exact hA

theorem deleteMany_eq_none {meets : ForeignKey τ γ → κ → Bool} {t : τ}
    {p : Row κ γ (δ t) → Bool} {s : Store κ γ δ} :
    S.deleteMany meets t p s = none ↔ S.held meets s (S.gone s (asked s t p)) = true := by
  unfold deleteMany
  dsimp only
  split_ifs with hheld
  · simp [hheld]
  · simp [hheld]

/-- A deletion that no row meets changes nothing. -/
theorem deleteMany_of_none (meets : ForeignKey τ γ → κ → Bool) {t : τ}
    {p : Row κ γ (δ t) → Bool} {s : Store κ γ δ} (hnone : ∀ r ∈ (s t).rows, p r = false) :
    S.deleteMany meets t p s = some s := by
  have hgone : ∀ t' k, S.gone s (asked s t p) t' k = false := fun t' k => by
    refine not_gone_of_outside (A := fun _ => false) (fun t'' k' hasked => ?_)
      (fun _ _ _ h => h) rfl k
    obtain ⟨-, r, hr, -, hp⟩ := asked_iff.mp hasked
    rw [hnone r hr] at hp
    cases hp
  have hrefers : ∀ {δ : Type} (r : Row κ γ δ) (fk : ForeignKey τ γ),
      r.refersTo fk (S.gone s (asked s t p)) = false := fun r fk => by
    rw [Bool.eq_false_iff]
    intro href
    obtain ⟨k, -, hk⟩ := Row.refersTo_iff.mp href
    rw [hgone] at hk
    cases hk
  have hheld : S.held meets s (S.gone s (asked s t p)) = false := by
    rw [Bool.eq_false_iff]
    intro hheld
    obtain ⟨fk, -, -, r, -, href, -⟩ := held_iff.mp hheld
    rw [hrefers] at href
    cases href
  refine deleteMany_eq_some.mpr ⟨hheld, funext fun t' => ?_⟩
  exact settle_eq_of_keeps fun r _ => ⟨hgone t' r.key, fun fk _ _ _ => hrefers r fk⟩

/-- A deletion leaves no reference to a row that is not there. -/
theorem deleteMany_consistent {meets : ForeignKey τ γ → κ → Bool} {t : τ}
    {p : Row κ γ (δ t) → Bool} {s s' : Store κ γ δ} (h : S.deleteMany meets t p s = some s')
    (hs : S.Consistent s) : S.Consistent s' := by
  obtain ⟨hheld, rfl⟩ := deleteMany_eq_some.mp h
  intro fk hfk r' hr' k hk
  obtain ⟨r, hr, hstays, rfl⟩ := mem_settle_iff.mp hr'
  have hkept : S.cleared (S.gone s (asked s t p)) fk.table r fk.column = false ∧
      r.ref fk.column = some k := by
    simp only [clear] at hk
    split_ifs at hk with hcleared
    exact ⟨Bool.eq_false_iff.mpr hcleared, hk⟩
  obtain ⟨hcleared, href⟩ := hkept
  obtain ⟨r₀, hr₀, rfl⟩ := List.mem_map.mp (hs fk hfk r hr k href)
  refine List.mem_map.mpr ⟨_, mem_settle_iff.mpr ⟨r₀, hr₀, ?_, rfl⟩, rfl⟩
  -- otherwise the row would have gone too, lost the reference, or held the deletion back
  rw [Bool.eq_false_iff]
  intro hgone
  have hrefers : r.refersTo fk (S.gone s (asked s t p)) = true :=
    Row.refersTo_iff.mpr ⟨r₀.key, href, hgone⟩
  cases hrule : fk.onDelete with
  | cascade =>
    rw [gone_iff.mpr (.inr ⟨fk, hfk, rfl, hrule, r, hr, rfl, hrefers⟩)] at hstays
    cases hstays
  | setNull =>
    rw [cleared_iff.mpr ⟨fk, hfk, rfl, rfl, hrule, hrefers⟩] at hcleared
    cases hcleared
  | restrict =>
    rw [held_iff.mpr ⟨fk, hfk, hrule, r, hr, hrefers, .inl hstays⟩] at hheld
    cases hheld

theorem deleteMany_shrinks {meets : ForeignKey τ γ → κ → Bool} {t : τ}
    {p : Row κ γ (δ t) → Bool} {s s' : Store κ γ δ} (h : S.deleteMany meets t p s = some s') :
    Shrinks s s' := by
  obtain ⟨-, rfl⟩ := deleteMany_eq_some.mp h
  intro t' r' hr'
  obtain ⟨r, hr, -, rfl⟩ := mem_settle_iff.mp hr'
  refine ⟨r, hr, rfl, rfl, fun c => ?_⟩
  simp only [clear]
  split
  · exact .inr rfl
  · exact .inl rfl

end Schema

end FixZone.Library.Relational
