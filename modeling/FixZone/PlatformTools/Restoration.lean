import FixZone.PlatformTools.Backup

/-!
# The transaction of a restoration

What the file gives back, and what emptying and filling the saved tables does to a consistent
database. A row comes back as it was, or its table cannot be filled (`readRow_writeRow`). Emptying
fails exactly when a row outside the saved tables holds a restricting reference that the database
meets (`emptyTables_eq_none_iff`); when it does not fail, it leaves the tables outside as they are
if none of their rows refers to a saved row by a reference that is cleared or cascades, and every
row that does is lost or changed. Filling puts back what the file has.
-/

namespace FixZone.PlatformToolsService

open Library Library.Relational Database

/-! ### Through the file -/

/-- The client takes the value back from the file: it is no `null` of a Json column and no date
whose year has more or less than four digits. -/
def Cell.readable : Cell → Bool
  | .json none | .json (some .null) => false
  | .time (some t) => hasShortYear t
  | _ => true

/-- A value comes back as it was, or not at all. -/
theorem readCell_toJson (cell : Cell) :
    readCell cell.kind cell.toJson = if cell.readable then some cell else none := by
  cases cell with
  | bool value => cases value <;> rfl
  | number value => cases value <;> rfl
  | text value => cases value <;> rfl
  | time value =>
    cases value with
    | none => rfl
    | some t =>
      have hreadable : (Cell.time (some t)).readable = hasShortYear t := rfl
      rw [hreadable]
      show (readDate (toISOString t)).map (fun t => Cell.time (some t)) = _
      rw [readDate_toISOString]
      cases hasShortYear t <;> rfl
  | json value =>
    cases value with
    | none => rfl
    | some v => cases v <;> rfl

theorem readCells_toJson {columns : List (String × Kind)} {cells : List Cell}
    (htyped : cells.map Cell.kind = columns.map Prod.snd) :
    readCells columns (cells.map Cell.toJson) =
      if cells.all Cell.readable then some cells else none := by
  induction columns generalizing cells with
  | nil =>
    rw [List.map_nil, List.map_eq_nil_iff] at htyped
    subst htyped
    rfl
  | cons column columns ih =>
    cases cells with
    | nil => cases htyped
    | cons cell cells =>
      rw [List.map_cons, List.map_cons, List.cons.injEq] at htyped
      rw [List.map_cons, readCells, ← htyped.1, readCell_toJson, ih htyped.2, List.all_cons]
      cases cell.readable <;> cases cells.all Cell.readable <;> rfl

/-- Every value of the row is taken back. -/
def Typed.readable {columns : List (String × Kind)} (row : Typed columns) : Bool :=
  row.cells.all Cell.readable

theorem readTyped_writeTyped {columns : List (String × Kind)}
    (row : Row String Reference (Typed columns)) :
    readTyped columns (writeTyped row) = if row.cells.readable then some row else none := by
  obtain ⟨key, ref, ⟨cells, typed⟩⟩ := row
  have hcells := readCells_toJson typed
  have href : (fun c => readReference (((ref c).map Json.str).getD .null)) = ref := by
    funext c
    cases ref c <;> rfl
  unfold readTyped
  split
  · next cells' h =>
    have hread : (if cells.all Cell.readable then some cells else none) = some cells' :=
      hcells.symm.trans h
    have hreadable : cells.all Cell.readable = true := by
      by_contra hno
      rw [if_neg hno] at hread
      cases hread
    rw [if_pos hreadable] at hread
    cases hread
    rw [if_pos (show Typed.readable ⟨cells, typed⟩ = true from hreadable)]
    simp only [writeTyped, href]
  · next h =>
    have hread : (if cells.all Cell.readable then some cells else none) = none :=
      hcells.symm.trans h
    have hreadable : ¬ cells.all Cell.readable = true := by
      intro hyes
      rw [if_pos hyes] at hread
      cases hread
    rw [if_neg (show ¬ Typed.readable ⟨cells, typed⟩ = true from hreadable)]

/-- Every value of the row of a saved table is taken back. -/
def readable : (t : Model) → RowOf t → Bool
  | .organization, row => Typed.readable row.cells
  | .user, row => Typed.readable row.cells
  | .report, row => Typed.readable row.cells
  | .notification, row => Typed.readable row.cells
  | .demoAuditLog, row => Typed.readable row.cells
  | .platformSetting, row => Typed.readable row.cells
  | _, _ => true

/-- A row comes back from the file as it was, or not at all. -/
theorem readRow_writeRow {t : Model} (ht : t ∈ saved) (row : RowOf t) :
    ∃ file, writeRow t row = some file ∧
      readRow t file = if readable t row then some row else none := by
  simp only [saved, List.mem_cons, List.not_mem_nil, or_false] at ht
  rcases ht with rfl | rfl | rfl | rfl | rfl | rfl
  all_goals exact ⟨writeTyped row, rfl, readTyped_writeTyped row⟩

theorem mapM_filterMap {α β : Type} {write : α → Option β} {read : β → Option α} {p : α → Bool}
    (h : ∀ a, ∃ b, write a = some b ∧ read b = if p a then some a else none) (l : List α) :
    (l.filterMap write).mapM read = if l.all p then some l else none := by
  induction l with
  | nil => rfl
  | cons a l ih =>
    obtain ⟨b, hwrite, hread⟩ := h a
    rw [List.filterMap_cons_some hwrite, List.mapM_cons, hread, ih, List.all_cons]
    cases p a <;> cases l.all p <;> rfl

/-- The rows of a saved table come back as they were, or not at all. -/
theorem mapM_writeTable (s : Store) {t : Model} (ht : t ∈ saved) :
    (writeTable s t).mapM (readRow t) =
      if (s t).rows.all (readable t) then some (s t).rows else none :=
  mapM_filterMap (readRow_writeRow ht) (s t).rows

theorem writeTable_eq_nil_iff (s : Store) {t : Model} (ht : t ∈ saved) :
    writeTable s t = [] ↔ (s t).rows = [] := by
  rw [writeTable, List.filterMap_eq_nil_iff, List.eq_nil_iff_forall_not_mem]
  refine forall_congr' fun row => ⟨fun h hrow => ?_, fun h hrow => absurd hrow h⟩
  obtain ⟨file, hwrite, -⟩ := readRow_writeRow ht row
  rw [h hrow] at hwrite
  cases hwrite

/-! ### Filling -/

variable {s : Store}

/-- Some row of a saved table does not come back from the file. -/
def Unreadable (s : Store) : Prop := ∃ t ∈ saved, ∃ row ∈ (s t).rows, readable t row = false

/-- `tables` can be filled in this order: every reference of one of them is to itself, to one before
it or to one of `done`. -/
def Ordered (done : List Model) : List Model → Prop
  | [] => True
  | t :: tables => t ∉ tables ∧ (∀ fk ∈ relations, fk.table = t → fk.target ∈ t :: done) ∧
      Ordered (t :: done) tables

theorem saved_ordered : Ordered [] saved := by
  simp only [saved, Ordered]
  decide

/-- Filling one empty table puts the saved rows back, when they can be read and those they refer to
are there. -/
theorem fillTable_eq (hs : schema.Consistent s) {t : Model} (ht : t ∈ saved) {done : List Model}
    (hrefs : ∀ fk ∈ relations, fk.table = t → fk.target ∈ t :: done) {s₀ : Store}
    (hempty : (s₀ t).rows = []) (hdone : ∀ t' ∈ done, s₀ t' = s t') :
    fillTable (backupOf s) s₀ t =
      if (s t).rows.all (readable t) then some (Function.update s₀ t (s t)) else none := by
  have hupdate : ∀ t' ∈ t :: done, Function.update s₀ t (s t) t' = s t' := by
    intro t' ht'
    by_cases heq : t' = t
    · subst heq
      exact Function.update_self _ _ _
    · rw [Function.update_of_ne heq]
      exact hdone t' ((List.mem_cons.mp ht').resolve_left heq)
  unfold fillTable
  show (if (writeTable s t).length ≠ 0 then _ else _) = _
  by_cases hnone : (s t).rows = []
  · have hsame : Function.update s₀ t (s t) = s₀ := by
      rw [show s t = s₀ t from Table.eq_of_rows_eq (hnone.trans hempty.symm)]
      exact Function.update_eq_self t s₀
    rw [if_neg (by rw [(writeTable_eq_nil_iff s ht).mpr hnone]; simp), hsame, hnone]
    rfl
  · have hlength : (writeTable s t).length ≠ 0 := fun h =>
      hnone ((writeTable_eq_nil_iff s ht).mp (List.length_eq_zero_iff.mp h))
    rw [if_pos hlength]
    show ((writeTable s t).mapM (readRow t)).bind _ = _
    rw [mapM_writeTable s ht]
    split_ifs
    · refine Schema.createMany_eq_some.mpr ⟨?_, fun t' ht' => Function.update_of_ne ht' _ _, ?_⟩
      · rw [Function.update_self, hempty, List.nil_append]
      · intro fk hfk htable r hr k hk
        rw [hupdate fk.target (hrefs fk hfk htable)]
        subst htable
        exact hs fk hfk r hr k hk
    · rfl

/-- Filling empty tables puts the saved rows back, when they can all be read. -/
theorem fillTables_eq (hs : schema.Consistent s) {tables : List Model}
    (hsaved : ∀ t ∈ tables, t ∈ saved) {done : List Model} (hordered : Ordered done tables)
    {s₀ : Store} (hempty : ∀ t ∈ tables, (s₀ t).rows = []) (hdone : ∀ t ∈ done, s₀ t = s t) :
    fillTables (backupOf s) tables s₀ =
      if tables.all fun t => (s t).rows.all (readable t) then
        some fun t => if t ∈ tables then s t else s₀ t
      else none := by
  induction tables generalizing done s₀ with
  | nil => simp [fillTables]
  | cons t tables ih =>
    obtain ⟨hnew, hrefs, hrest⟩ := hordered
    have hfirst := fillTable_eq hs (hsaved t List.mem_cons_self) hrefs
      (hempty t List.mem_cons_self) hdone
    show (fillTable (backupOf s) s₀ t).bind (fillTables (backupOf s) tables) = _
    rw [hfirst, List.all_cons]
    by_cases hread : (s t).rows.all (readable t) = true
    · have hne : ∀ t' ∈ tables, t' ≠ t := fun t' ht' heq => hnew (heq ▸ ht')
      have hempty' : ∀ t' ∈ tables, (Function.update s₀ t (s t) t').rows = [] := fun t' ht' => by
        rw [Function.update_of_ne (hne t' ht')]
        exact hempty t' (List.mem_cons_of_mem _ ht')
      have hdone' : ∀ t' ∈ t :: done, Function.update s₀ t (s t) t' = s t' := fun t' ht' => by
        by_cases heq : t' = t
        · subst heq
          exact Function.update_self _ _ _
        · rw [Function.update_of_ne heq]
          exact hdone t' ((List.mem_cons.mp ht').resolve_left heq)
      have hrec := ih (fun t' ht' => hsaved t' (List.mem_cons_of_mem _ ht')) hrest hempty' hdone'
      have hsame : (fun t' => if t' ∈ tables then s t' else Function.update s₀ t (s t) t') =
          fun t' => if t' ∈ t :: tables then s t' else s₀ t' := by
        funext t'
        by_cases heq : t' = t
        · subst heq
          rw [if_neg hnew, if_pos List.mem_cons_self, Function.update_self]
        · rw [Function.update_of_ne heq]
          simp only [List.mem_cons, heq, false_or]
      rw [if_pos hread, Option.bind_some, hrec, hsame, hread, Bool.true_and]
    · rw [Bool.not_eq_true] at hread
      rw [hread, Bool.false_and, if_neg Bool.false_ne_true, if_neg Bool.false_ne_true,
        Option.bind_none]

/-! ### Emptying -/

variable {meets : ForeignKey Model Reference → String → Bool} {s' : Store}

/-- `deleteMany` of tables, one after the other. -/
def emptyAll (meets : ForeignKey Model Reference → String → Bool) (tables : List Model)
    (s : Store) : Option Store :=
  tables.foldlM (fun s t => schema.deleteMany meets t (fun _ => true) s) s

theorem emptyAll_cons {t : Model} {tables : List Model}
    (h : emptyAll meets (t :: tables) s = some s') :
    ∃ s₁, schema.deleteMany meets t (fun _ => true) s = some s₁ ∧
      emptyAll meets tables s₁ = some s' :=
  Option.bind_eq_some_iff.mp h

theorem emptyAll_shrinks {tables : List Model} (h : emptyAll meets tables s = some s') :
    Shrinks s s' := by
  induction tables generalizing s with
  | nil =>
    cases h
    exact fun _ r hr => ⟨r, hr, rfl, rfl, fun _ => .inl rfl⟩
  | cons t tables ih =>
    obtain ⟨s₁, hfirst, hrest⟩ := emptyAll_cons h
    exact (Schema.deleteMany_shrinks hfirst).trans (ih hrest)

/-- The tables are empty afterwards. -/
theorem emptyAll_empty {tables : List Model} (h : emptyAll meets tables s = some s') :
    ∀ t ∈ tables, (s' t).rows = [] := by
  induction tables generalizing s with
  | nil => exact fun t ht => absurd ht List.not_mem_nil
  | cons t tables ih =>
    obtain ⟨s₁, hfirst, hrest⟩ := emptyAll_cons h
    intro t' ht'
    rcases List.mem_cons.mp ht' with rfl | ht'
    · refine List.eq_nil_iff_forall_not_mem.mpr fun r hr => ?_
      obtain ⟨r₁, hr₁, -⟩ := emptyAll_shrinks hrest t' r hr
      obtain ⟨r₀, hr₀, hkey, -⟩ := Schema.deleteMany_shrinks hfirst t' r₁ hr₁
      have hasked := Schema.not_asked_of_mem hfirst hr₁
      rw [Schema.asked_iff.mpr ⟨rfl, r₀, hr₀, hkey, rfl⟩] at hasked
      cases hasked
    · exact ih hrest t' ht'

/-- No row outside the saved tables refers to a saved row by a reference that is cleared or
cascades. -/
def Independent (s : Store) : Prop := ∀ fk ∈ relations, fk.table ∉ saved → fk.target ∈ saved →
  fk.onDelete ≠ .restrict → ∀ r ∈ (s fk.table).rows, r.ref fk.column = none

/-- Then the other tables stay as they are. -/
theorem emptyAll_outside {tables : List Model} (hsaved : ∀ t ∈ tables, t ∈ saved)
    (hs : Independent s) (h : emptyAll meets tables s = some s') : ∀ t ∉ saved, s' t = s t := by
  induction tables generalizing s with
  | nil =>
    cases h
    exact fun _ _ => rfl
  | cons t₀ tables ih =>
    obtain ⟨s₁, hfirst, hrest⟩ := emptyAll_cons h
    obtain ⟨-, hsettle⟩ := Schema.deleteMany_eq_some.mp hfirst
    have hin : ∀ t k, schema.gone s (Schema.asked s t₀ fun _ => true) t k = true → t ∈ saved := by
      refine fun t k => Schema.gone_induction (P := fun t _ => t ∈ saved) (fun t k hasked => ?_)
        fun fk hfk hrule r hr k' hk' htarget => ?_
      · rw [(Schema.asked_iff.mp hasked).1]
        exact hsaved t₀ List.mem_cons_self
      · by_contra hout
        have hnone := hs fk hfk hout htarget (by rw [hrule]; decide) r hr
        rw [hnone] at hk'
        cases hk'
    have hsame : ∀ t ∉ saved, s₁ t = s t := by
      intro t ht
      rw [← hsettle]
      refine Schema.settle_eq_of_keeps fun r hr => ⟨?_, fun fk hfk htable hrule => ?_⟩
      · exact Bool.eq_false_iff.mpr fun hgone => ht (hin t r.key hgone)
      · refine Bool.eq_false_iff.mpr fun href => ?_
        obtain ⟨k, hk, hgone⟩ := Row.refersTo_iff.mp href
        subst htable
        rw [hs fk hfk ht (hin fk.target k hgone) (by rw [hrule]; decide) r hr] at hk
        cases hk
    have hs₁ : Independent s₁ := fun fk hfk hout htarget hrule r hr => by
      rw [hsame fk.table hout] at hr
      exact hs fk hfk hout htarget hrule r hr
    intro t ht
    rw [ih (fun t ht => hsaved t (List.mem_cons_of_mem _ ht)) hs₁ hrest t ht, hsame t ht]

/-- And a row that does refer to a row of an emptied table is lost or changed. -/
theorem emptyAll_loses {tables : List Model} (hs : schema.Consistent s)
    (h : emptyAll meets tables s = some s') {fk : ForeignKey Model Reference} (hfk : fk ∈ relations)
    (htarget : fk.target ∈ tables) (hrule : fk.onDelete ≠ .restrict) {r : RowOf fk.table}
    (hr : r ∈ (s fk.table).rows) (href : r.ref fk.column ≠ none) : r ∉ (s' fk.table).rows := by
  obtain ⟨k, hk⟩ := Option.ne_none_iff_exists'.mp href
  induction tables generalizing s with
  | nil => exact absurd htarget List.not_mem_nil
  | cons t₀ tables ih =>
    obtain ⟨s₁, hfirst, hrest⟩ := emptyAll_cons h
    intro hr'
    have hr₁ := (Schema.deleteMany_shrinks hfirst).mem_between (emptyAll_shrinks hrest) hr hr'
    by_cases heq : fk.target = t₀
    · -- the row it refers to goes in this step
      have hkept := ((Schema.mem_deleteMany_iff hfirst hr).mp hr₁).2 fk hfk rfl hrule
      obtain ⟨r₀, hr₀, hkey⟩ := List.mem_map.mp (hs fk hfk r hr k hk)
      have hgone : schema.gone s (Schema.asked s t₀ fun _ => true) fk.target k = true := by
        subst heq
        exact Schema.gone_iff.mpr (.inl (Schema.asked_iff.mpr ⟨rfl, r₀, hr₀, hkey, rfl⟩))
      rw [Row.refersTo_iff.mpr ⟨k, hk, hgone⟩] at hkept
      cases hkept
    · exact ih (Schema.deleteMany_consistent hfirst hs) hrest
        ((List.mem_cons.mp htarget).resolve_left heq) hr₁ hr'

/-- A row outside the saved tables holds a restricting reference, and no cascade takes the row along
before the database meets the reference. -/
def Held (meets : ForeignKey Model Reference → String → Bool) (s : Store) : Prop :=
  ∃ fk ∈ relations, fk.onDelete = .restrict ∧ fk.table ∉ saved ∧ ∃ r ∈ (s fk.table).rows,
    r.ref fk.column ≠ none ∧ (meets fk r.key = true ∨ ∀ fk' ∈ relations, fk'.table = fk.table →
      fk'.onDelete = .cascade → fk'.target ∈ saved → r.ref fk'.column = none)

/-- The models outside that hold restricting references hold them to users, and refer to no
notification and no report. -/
theorem restricting_outside {fk : ForeignKey Model Reference} (hfk : fk ∈ relations)
    (hrestrict : fk.onDelete = .restrict) (hout : fk.table ∉ saved) : fk.target = .user ∧
      Frames [.notification] .notification fk.table ∧
      Frames [.report, .reportMessage, .reportActivity] .report fk.table ∧
      ∀ fk' ∈ relations, fk'.table = fk.table → fk'.onDelete = .cascade →
        fk'.target = .user ∨ (fk'.target ∉ saved ∧
          ∀ fk'' ∈ relations, fk''.table = fk'.target → fk''.onDelete ≠ .cascade) := by
  revert fk
  decide +kernel

/-- Every row of the table is asked for. -/
theorem asked_all_iff {t₀ t : Model} {id : String} :
    Schema.asked s t₀ (fun _ => true) t id = true ↔ t = t₀ ∧ id ∈ (s t₀).rows.map Row.key := by
  rw [Schema.asked_iff, List.mem_map]
  simp only [and_true]

/-- The restricting references of the saved tables are those of the reports. -/
theorem restricting_saved {fk : ForeignKey Model Reference} (hfk : fk ∈ relations)
    (hrestrict : fk.onDelete = .restrict) (hin : fk.table ∈ saved) : fk.table = .report := by
  revert fk
  decide +kernel

theorem emptied_saved : ∀ t ∈ saved, t ∈ emptied := by
  decide

/-- No row of these models goes because another does. -/
theorem roots : ∀ t ∈ [Model.user, .organization, .report], ∀ fk ∈ relations, fk.table = t →
    fk.onDelete ≠ .cascade := by
  decide +kernel

/-- The users can be deleted exactly when nothing holds them back. -/
theorem deleteUsers_eq_none_iff (hs : schema.Consistent s) (hreports : (s .report).rows = []) :
    schema.deleteMany meets .user (fun _ => true) s = none ↔ Held meets s := by
  rw [Schema.deleteMany_eq_none, Schema.held_iff]
  have husers : ∀ k, schema.gone s (Schema.asked s .user fun _ => true) .user k = true ↔
      k ∈ (s .user).rows.map Row.key := fun k =>
    (Schema.gone_iff_asked (roots .user (by decide))).trans
      (asked_all_iff.trans (and_iff_right rfl))
  constructor
  · rintro ⟨fk, hfk, hrestrict, r, hr, href, hstays⟩
    obtain ⟨k, hk, -⟩ := Row.refersTo_iff.mp href
    have hout : fk.table ∉ saved := fun hin => by
      have hreport := restricting_saved hfk hrestrict hin
      obtain ⟨table, column, target, onDelete⟩ := fk
      subst hreport
      rw [hreports] at hr
      exact absurd hr List.not_mem_nil
    refine ⟨fk, hfk, hrestrict, hout, r, hr, by rw [hk]; simp, ?_⟩
    refine hstays.symm.imp_right fun hleft fk' hfk' htable hcascade htarget => ?_
    obtain ⟨-, -, -, hcascades⟩ := restricting_outside hfk hrestrict hout
    -- a user it goes with would have taken the row along
    have huser : fk'.target = .user :=
      (hcascades fk' hfk' htable hcascade).resolve_right fun h => h.1 htarget
    by_contra hsome
    obtain ⟨k', hk'⟩ := Option.ne_none_iff_exists'.mp hsome
    obtain ⟨table, column, target, onDelete⟩ := fk'
    subst htable huser
    have hgone := Schema.gone_iff.mpr (.inr ⟨_, hfk', rfl, hcascade, r, hr, rfl,
      Row.refersTo_iff.mpr ⟨k', hk', (husers k').mpr (hs _ hfk' r hr k' hk')⟩⟩)
    rw [hgone] at hleft
    cases hleft
  · rintro ⟨fk, hfk, hrestrict, hout, r, hr, hsome, hmeets⟩
    obtain ⟨k, hk⟩ := Option.ne_none_iff_exists'.mp hsome
    obtain ⟨huser, -, -, hcascades⟩ := restricting_outside hfk hrestrict hout
    have hgone : schema.gone s (Schema.asked s .user fun _ => true) fk.target k = true := by
      have hin := hs fk hfk r hr k hk
      rw [huser] at hin ⊢
      exact (husers k).mpr hin
    refine ⟨fk, hfk, hrestrict, r, hr, Row.refersTo_iff.mpr ⟨k, hk, hgone⟩, ?_⟩
    refine hmeets.symm.imp_left fun hfree => Bool.eq_false_iff.mpr fun hrow => ?_
    rcases Schema.gone_iff.mp hrow with hasked | ⟨fk', hfk', htable, hcascade, r', hr', hkey, href⟩
    · exact hout ((asked_all_iff.mp hasked).1 ▸ by decide)
    · obtain ⟨k', hk', hgone'⟩ := Row.refersTo_iff.mp href
      obtain ⟨table, column, target, onDelete⟩ := fk'
      subst htable
      obtain rfl := eq_of_key_eq hr' hr hkey
      have htarget : target ∉ saved := fun hin => by
        rw [hfree _ hfk' rfl hcascade hin] at hk'
        cases hk'
      rcases hcascades _ hfk' rfl hcascade with rfl | ⟨-, hroot⟩
      · exact htarget (by decide)
      · rw [Schema.gone_iff_asked hroot] at hgone'
        exact htarget ((show target = .user from (asked_all_iff.mp hgone').1) ▸ by decide)

/-- The organizations can be deleted once there is no report. -/
theorem exists_deleteOrganizations (meets : ForeignKey Model Reference → String → Bool)
    (hreports : (s .report).rows = []) :
    ∃ s', schema.deleteMany meets .organization (fun _ => true) s = some s' := by
  refine Option.ne_none_iff_exists'.mp fun hnone => ?_
  rw [Schema.deleteMany_eq_none, Schema.held_iff] at hnone
  obtain ⟨fk, hfk, hrestrict, r, hr, href, -⟩ := hnone
  by_cases hin : fk.table ∈ saved
  · have hreport := restricting_saved hfk hrestrict hin
    obtain ⟨table, column, target, onDelete⟩ := fk
    subst hreport
    rw [hreports] at hr
    exact absurd hr List.not_mem_nil
  · obtain ⟨k, -, hgone⟩ := Row.refersTo_iff.mp href
    rw [(restricting_outside hfk hrestrict hin).1, Schema.gone_iff_asked (roots .user (by decide)),
      asked_all_iff] at hgone
    cases hgone.1

/-- **When the saved tables can be emptied**: unless a row outside them holds back the deletion of
the users. -/
theorem emptyTables_eq_none_iff (hs : schema.Consistent s) :
    emptyTables meets s = none ↔ Held meets s := by
  obtain ⟨s₁, hnotifications⟩ :
      ∃ s₁, schema.deleteMany meets .notification (fun _ => true) s = some s₁ :=
    exists_deletion meets [.notification] (by decide) _ s
  obtain ⟨s₂, hreports⟩ : ∃ s₂, schema.deleteMany meets .report (fun _ => true) s₁ = some s₂ :=
    exists_deletion meets [.report, .reportMessage, .reportActivity] (by decide) _ s₁
  have hs₂ := Schema.deleteMany_consistent hreports (Schema.deleteMany_consistent hnotifications hs)
  have hnoReport : (s₂ .report).rows = [] := by
    have hall : emptyAll meets [.report] s₁ = some s₂ :=
      Option.bind_eq_some_iff.mpr ⟨s₂, hreports, rfl⟩
    exact emptyAll_empty hall .report List.mem_cons_self
  have hheld : Held meets s₂ ↔ Held meets s := by
    refine exists_congr fun fk => and_congr_right fun hfk => and_congr_right fun hrestrict =>
      and_congr_right fun hout => ?_
    obtain ⟨-, hframe₁, hframe₂, -⟩ := restricting_outside hfk hrestrict hout
    rw [hframe₂.untouched hreports, hframe₁.untouched hnotifications]
  rw [← hheld, ← deleteUsers_eq_none_iff hs₂ hnoReport]
  show (schema.deleteMany meets .notification _ s).bind (emptyAll meets [.report, .user,
    .organization, .demoAuditLog, .platformSetting]) = none ↔ _
  rw [hnotifications, Option.bind_some]
  show (schema.deleteMany meets .report _ s₁).bind (emptyAll meets [.user, .organization,
    .demoAuditLog, .platformSetting]) = none ↔ _
  rw [hreports, Option.bind_some]
  show (schema.deleteMany meets .user _ s₂).bind (emptyAll meets [.organization, .demoAuditLog,
    .platformSetting]) = none ↔ _
  cases husers : schema.deleteMany meets .user (fun _ => true) s₂ with
  | none => exact iff_of_true rfl rfl
  | some s₃ =>
    -- nothing refers to the tables that are left by a reference that restricts
    refine iff_of_false (fun hnone => ?_) (by simp)
    have hnoReport₃ : (s₃ .report).rows = [] :=
      List.eq_nil_iff_forall_not_mem.mpr fun r hr => by
        obtain ⟨r₀, hr₀, -⟩ := Schema.deleteMany_shrinks husers .report r hr
        rw [hnoReport] at hr₀
        exact absurd hr₀ List.not_mem_nil
    obtain ⟨s₄, horganizations⟩ := exists_deleteOrganizations meets hnoReport₃
    obtain ⟨s₅, hlogs⟩ :
        ∃ s₅, schema.deleteMany meets .demoAuditLog (fun _ => true) s₄ = some s₅ :=
      exists_deletion meets [.demoAuditLog] (by decide) _ s₄
    obtain ⟨s₆, hsettings⟩ :
        ∃ s₆, schema.deleteMany meets .platformSetting (fun _ => true) s₅ = some s₆ :=
      exists_deletion meets [.platformSetting] (by decide) _ s₅
    simp only [Option.bind_some, emptyAll, List.foldlM_cons, List.foldlM_nil, horganizations, hlogs,
      hsettings, Option.bind_eq_bind, Option.pure_def, reduceCtorEq] at hnone

/-! ### The transaction -/

/-- Restoring the backup of `s` in `s₁` empties the tables and puts the rows of `s` back. -/
theorem restoreTables_eq_some_iff (hs : schema.Consistent s) {s₁ : Store} :
    restoreTables meets (backupOf s) s₁ = some s' ↔ ¬ Unreadable s ∧
      ∃ s₂, emptyTables meets s₁ = some s₂ ∧ s' = fun t => if t ∈ saved then s t else s₂ t := by
  have hread : (saved.all fun t => (s t).rows.all (readable t)) = true ↔ ¬ Unreadable s := by
    simp [Unreadable]
  have hfill : ∀ s₂, emptyTables meets s₁ = some s₂ → (fillTables (backupOf s) saved s₂ = some s' ↔
      ¬ Unreadable s ∧ s' = fun t => if t ∈ saved then s t else s₂ t) := by
    intro s₂ hempty
    rw [fillTables_eq hs (fun _ ht => ht) saved_ordered
      (fun t ht => emptyAll_empty hempty t (emptied_saved t ht))
      fun t ht => absurd ht List.not_mem_nil, ← hread, Option.ite_none_right_eq_some,
      Option.some.injEq, eq_comm (a := s')]
  show (emptyTables meets s₁).bind (fillTables (backupOf s) saved) = some s' ↔ _
  rw [Option.bind_eq_some_iff]
  constructor
  · rintro ⟨s₂, hempty, h⟩
    obtain ⟨hreadable, heq⟩ := (hfill s₂ hempty).mp h
    exact ⟨hreadable, s₂, hempty, heq⟩
  · rintro ⟨hreadable, s₂, hempty, heq⟩
    exact ⟨s₂, hempty, (hfill s₂ hempty).mpr ⟨hreadable, heq⟩⟩

end FixZone.PlatformToolsService
