import FixZone.DemoData.Deletion
import FixZone.Library.Run

/-!
# The safeguards of the demo purge

What a run of `seed`, `reset` and `purge` may delete. No call may delete a row while the preview
warns of production, of a lock or of uncertain records, and a deletion may not change a row that is
no demo row (`Safeguarded`). `purge` checks the preview and `reset` does not; and the foreign keys
take the deletion to rows that refer to the demo rows. So a call is safeguarded exactly when its
transaction is not reached, fails, or finds nothing there that it must not touch
(`safeguarded_iff`).
-/

namespace FixZone.DemoDataService

open Library Library.Relational Database

/-! ### Calls that only add rows -/

/-- No row is changed, and the rows that are new have ids of the call. -/
def AddsOnly (ids : NewIds) (s s' : Store) : Prop :=
  Grows s s' ∧ ∀ t, ∀ r ∈ (s' t).rows, r ∈ (s t).rows ∨ ∃ n, r.key = ids t n

theorem AddsOnly.refl (ids : NewIds) (s : Store) : AddsOnly ids s s :=
  ⟨Grows.refl s, fun _ _ hr => .inl hr⟩

theorem AddsOnly.trans {ids : NewIds} {s s' s'' : Store} (h : AddsOnly ids s s')
    (h' : AddsOnly ids s' s'') : AddsOnly ids s s'' := by
  refine ⟨h.1.trans h'.1, fun t r hr => ?_⟩
  rcases h'.2 t r hr with hr' | hnew
  · exact h.2 t r hr'
  · exact .inr hnew

theorem AddsOnly.of_later {ids : NewIds} {s s' : Store} {k : ℕ}
    (h : AddsOnly (fun t n => ids t (n + k)) s s') : AddsOnly ids s s' :=
  ⟨h.1, fun t r hr => (h.2 t r hr).imp_right fun ⟨n, hn⟩ => ⟨n + k, hn⟩⟩

theorem addsOnly_create {ids : NewIds} {t : Model} {row : RowOf t} {s s' : Store}
    (h : schema.create t row s = some s') {n : ℕ} (hkey : row.key = ids t n) :
    AddsOnly ids s s' := by
  obtain ⟨hgrows, hnew⟩ := Schema.createMany_grows h
  refine ⟨hgrows, fun t' r hr => (hnew t' r hr).imp_right ?_⟩
  rintro ⟨rfl, hr⟩
  rw [List.map_singleton, List.mem_singleton] at hr
  exact ⟨n, hr.trans hkey⟩

theorem addsOnly_createAll {ids : NewIds} {rows : List NewRow}
    (hkeys : ∀ row ∈ rows, ∃ n, row.2.key = ids row.1 n) {s s' : Store}
    (h : createAll rows s = some s') : AddsOnly ids s s' := by
  induction rows generalizing s with
  | nil =>
    cases h
    exact AddsOnly.refl ids _
  | cons row rows ih =>
    obtain ⟨s₁, hfirst, hrest⟩ := Option.bind_eq_some_iff.mp h
    obtain ⟨n, hn⟩ := hkeys row List.mem_cons_self
    exact (addsOnly_create hfirst hn).trans
      (ih (fun row' hrow' => hkeys row' (List.mem_cons_of_mem _ hrow')) hrest)

/-- The rows of a demo environment have ids of the call. -/
theorem key_of_mem_demoRows {ids : NewIds} {tag : Tag} {settings : DemoGenerationSettings}
    {row : NewRow} (h : row ∈ demoRows ids tag settings) : ∃ n, row.2.key = ids row.1 n := by
  simp only [demoRows, List.mem_append, newOrganizations, newProviders, newCitizens, newReports,
    newActivity, List.mem_flatMap, List.mem_map, List.mem_cons, List.not_mem_nil, or_false] at h
  rcases h with (((⟨i, -, rfl | rfl | rfl⟩ | ⟨i, -, rfl⟩) | ⟨i, -, rfl⟩) | ⟨i, -, rfl | rfl⟩) |
    ⟨i, -, rfl⟩
  all_goals exact ⟨_, rfl⟩

/-! ### What a call leaves -/

/-- The store after a call, whether it returned or threw. -/
def storeAfter {α : Type} (call : Call α) (s : Store) : Store :=
  match call s with
  | .ok _ s' => s'
  | .error _ s' => s'

/-- After a call that begins with another. -/
theorem storeAfter_bind {α β : Type} (x : Call α) (f : α → Call β) (s : Store) :
    storeAfter (x >>= f) s = match x s with
      | .ok a s' => storeAfter (f a) s'
      | .error _ s' => s' := by
  show (match EStateM.bind x f s with
    | .ok _ s' => s'
    | .error _ s' => s') = _
  unfold EStateM.bind
  cases x s <;> rfl

/-- What follows a call adds to what the call left. -/
theorem addsOnly_bind {ids : NewIds} {α β : Type} (x : Call α) {f : α → Call β}
    (hf : ∀ a s, AddsOnly ids s (storeAfter (f a) s)) (s : Store) :
    AddsOnly ids (storeAfter x s) (storeAfter (x >>= f) s) := by
  rw [storeAfter_bind]
  unfold storeAfter
  cases x s with
  | ok a s' => exact hf a s'
  | error e s' => exact AddsOnly.refl ids s'

theorem addsOnly_audit (ids : NewIds) (n : ℕ) (action actorUserId : String)
    (batch scenario : Option String) (s : Store) :
    AddsOnly ids s
      (storeAfter (audit (ids .demoAuditLog n) action actorUserId batch scenario) s) := by
  unfold storeAfter audit commit create
  cases hcreate : schema.create .demoAuditLog _ s with
  | none => exact AddsOnly.refl ids s
  | some s' => exact addsOnly_create hcreate rfl

theorem addsOnly_commit {ids : NewIds} {rows : List NewRow}
    (hkeys : ∀ row ∈ rows, ∃ n, row.2.key = ids row.1 n) (s : Store) :
    AddsOnly ids s (storeAfter (commit fun s => (createAll rows s).map fun s' => ((), s')) s) := by
  unfold storeAfter commit
  dsimp only
  cases hcreate : createAll rows s with
  | none => exact AddsOnly.refl ids s
  | some s' => exact addsOnly_createAll hkeys hcreate

theorem storeAfter_check {α : Type} (x : Except DemoError α) (s : Store) :
    storeAfter (check x) s = s := by
  cases x <;> rfl

/-- `seed` only adds rows. -/
theorem addsOnly_seed (user : JwtUser) (dto : GenerateDemoEnvironmentDto) (ids : NewIds)
    (batch : String) (s : Store) : AddsOnly ids s (storeAfter (seed user dto ids batch) s) := by
  have hcheck := AddsOnly.refl ids s
  nth_rewrite 2 [← storeAfter_check (requireSuperAdmin user) s] at hcheck
  refine hcheck.trans (addsOnly_bind _ (fun superAdminId s => ?_) s)
  refine (addsOnly_audit ids 0 _ _ _ _ s).trans (addsOnly_bind _ (fun _ s => ?_) s)
  exact (addsOnly_commit (fun _ => key_of_mem_demoRows) s).trans
    (addsOnly_bind _ (fun _ s => addsOnly_audit ids 1 _ _ _ _ s) s)

variable {meets : ForeignKey Model Reference → String → Bool}

/-- What a call leaves that comes to the transaction: a line in the audit log, then what the
transaction leaves, or nothing when it fails, and then only more rows. -/
def Outcome (meets : ForeignKey Model Reference → String → Bool) (ids : NewIds) (s s' : Store) :
    Prop :=
  ∃ s₁, AddsOnly ids s s₁ ∧ (∀ t ≠ .demoAuditLog, s₁ t = s t) ∧
    ((deleteTagged meets s₁ = none ∧ AddsOnly ids s₁ s') ∨
      ∃ deleted s₂, deleteTagged meets s₁ = some (deleted, s₂) ∧ AddsOnly ids s₂ s')

theorem Outcome.and_then {ids : NewIds} {s s' s'' : Store} (h : Outcome meets ids s s')
    (hmore : AddsOnly ids s' s'') : Outcome meets ids s s'' := by
  obtain ⟨s₁, hadds, hsame, ⟨hnone, hrest⟩ | ⟨deleted, s₂, hsome, hrest⟩⟩ := h
  · exact ⟨s₁, hadds, hsame, .inl ⟨hnone, hrest.trans hmore⟩⟩
  · exact ⟨s₁, hadds, hsame, .inr ⟨deleted, s₂, hsome, hrest.trans hmore⟩⟩

theorem purgeTagged_outcome {user : JwtUser} {superAdminId : String}
    (hadmin : requireSuperAdmin user = .ok superAdminId) (action : String) {ids : NewIds}
    {s : Store} (hfresh : ∀ r ∈ (s .demoAuditLog).rows, r.key ≠ ids .demoAuditLog 0) :
    Outcome meets ids s (storeAfter (purgeTaggedDemoData meets user action ids) s) := by
  obtain ⟨s₁, hcreate⟩ : ∃ s₁, schema.create .demoAuditLog
      { key := ids .demoAuditLog 0, ref := noReference,
        cells := ⟨action ++ " Started", superAdminId, none, none⟩ } s = some s₁ :=
    Schema.exists_create hfresh fun _ _ _ => rfl
  have haudit : audit (ids .demoAuditLog 0) (action ++ " Started") superAdminId none none s =
      .ok () s₁ := by
    simp only [audit, commit, create, hcreate, Option.map_some]
  obtain ⟨-, hother, -⟩ := Schema.createMany_eq_some.mp hcreate
  refine ⟨s₁, addsOnly_create hcreate rfl, hother, ?_⟩
  unfold purgeTaggedDemoData
  rw [storeAfter_bind, hadmin]
  show _ ∨ _
  simp only [check, storeAfter_bind, haudit]
  cases hdelete : deleteTagged meets s₁ with
  | none =>
    refine .inl ⟨rfl, ?_⟩
    simp only [commit, hdelete]
    exact AddsOnly.refl ids s₁
  | some result =>
    refine .inr ⟨result.1, result.2, rfl, ?_⟩
    simp only [commit, hdelete]
    rw [← storeAfter_bind]
    exact (addsOnly_audit ids 1 _ _ _ _ result.2).trans
      (addsOnly_bind _ (fun _ s => AddsOnly.refl ids s) result.2)

/-! ### Steps -/

/-- The calls. -/
inductive Action where
  | seed (dto : GenerateDemoEnvironmentDto)
  | reset (dto : GenerateDemoEnvironmentDto)
  | purge (confirmation : DemoPurgeConfirmation)

/-- A call, with its user, the environment of the process, and the ids and the batch that are made
up for it. -/
structure Step where
  user : JwtUser
  env : Environment := {}
  ids : NewIds
  batch : String := ""
  action : Action

variable (meets)

/-- The store after a step. -/
def after (e : Step) (s : Store) : Store :=
  match e.action with
  | .seed dto => storeAfter (seed e.user dto e.ids e.batch) s
  | .reset dto => storeAfter (reset meets e.user dto e.ids e.batch) s
  | .purge confirmation => storeAfter (purge meets e.env e.user confirmation e.ids) s

/-- The ids made up for the step are not in use. -/
def FreshIds (s : Store) (e : Step) : Prop := ∀ t n, ∀ r ∈ (s t).rows, r.key ≠ e.ids t n

/-- The preview reports production, a lock or uncertain records. -/
def Warned (s : Store) (e : Step) : Prop :=
  ∃ preview, previewPurge e.env e.user s = .ok preview ∧
    (preview.systemMode = .production ∨ preview.locked = true ∨ preview.executionAllowed = false)

/-- No row is deleted. -/
def NothingDeleted (s s' : Store) : Prop :=
  ∀ t, ∀ r ∈ (s t).rows, ∃ r' ∈ (s' t).rows, r'.key = r.key

/-- The rows a deletion must leave alone: organizations, users, reports and notifications that do
not match `demoEnvironmentWhere`, and role assignments of users that do not. -/
def Protected (s : Store) : (t : Model) → RowOf t → Prop
  | .organization, r => demoEnvironmentWhere .organization r = false
  | .user, r => demoEnvironmentWhere .user r = false
  | .report, r => demoEnvironmentWhere .report r = false
  | .notification, r => demoEnvironmentWhere .notification r = false
  | .internalRoleAssignment, r => ∃ u ∈ (s .user).rows, r.ref .userId = some u.key ∧
      demoEnvironmentWhere .user u = false
  | _, _ => False

/-- The `preservedSuperAdminId` of the call. -/
def preserved (e : Step) : Option String :=
  match e.action with
  | .purge confirmation => confirmation.preservedSuperAdminId
  | _ => none

/-- The safeguards hold in a step. -/
structure Safeguarded (s : Store) (e : Step) : Prop where
  warned : Warned s e → NothingDeleted s (after meets e s)
  kept : ∀ t, ∀ r ∈ (s t).rows, Protected s t r → r ∈ (after meets e s t).rows
  preserved : ∀ u ∈ (s .user).rows, preserved e = some u.key → u ∈ (after meets e s .user).rows

/-- The call comes to its transaction. -/
def Reaches (s : Store) (e : Step) : Prop :=
  match e.action with
  | .seed _ => False
  | .reset _ => ∃ id, requireSuperAdmin e.user = .ok id
  | .purge confirmation => assertPurgeAllowed e.env e.user confirmation s = .ok ()

/-- There is nothing for the transaction that the safeguards are about: no demo row at all where the
preview warns, no row to be left alone that refers to a demo row, and the preserved user is no demo
user. -/
structure Harmless (s : Store) (e : Step) : Prop where
  warned : Warned s e → ∀ t, demoIds s t = []
  kept : ∀ t, ∀ r ∈ (s t).rows, Protected s t r → Stays s t r
  preserved : ∀ id, preserved e = some id → id ∉ demoIds s .user

/-! ### What a step leaves -/

variable {meets} {s : Store} {e : Step}

/-- A call that does not come to the transaction only adds rows. -/
theorem addsOnly_of_not_reaches (hreaches : ¬ Reaches s e) :
    AddsOnly e.ids s (after meets e s) := by
  obtain ⟨user, env, ids, batch, action⟩ := e
  cases action with
  | seed dto => exact addsOnly_seed user dto ids batch s
  | reset dto =>
    cases hadmin : requireSuperAdmin user with
    | ok id => exact absurd ⟨id, hadmin⟩ hreaches
    | error error =>
      have hafter : storeAfter (reset meets user dto ids batch) s = s := by
        unfold reset purgeTaggedDemoData
        rw [storeAfter_bind, hadmin]
        rfl
      show AddsOnly ids s (storeAfter (reset meets user dto ids batch) s)
      rw [hafter]
      exact AddsOnly.refl ids s
  | purge confirmation =>
    cases hallowed : assertPurgeAllowed env user confirmation s with
    | ok _ => exact absurd hallowed hreaches
    | error error =>
      have hafter : storeAfter (purge meets env user confirmation ids) s = s := by
        unfold purge
        rw [storeAfter_bind]
        show storeAfter (check (assertPurgeAllowed env user confirmation s) >>= _) s = s
        rw [storeAfter_bind, hallowed]
        rfl
      show AddsOnly ids s (storeAfter (purge meets env user confirmation ids) s)
      rw [hafter]
      exact AddsOnly.refl ids s

theorem requireSuperAdmin_of_allowed {env : Environment} {user : JwtUser}
    {confirmation : DemoPurgeConfirmation}
    (h : assertPurgeAllowed env user confirmation s = .ok ()) :
    ∃ id, requireSuperAdmin user = .ok id := by
  obtain ⟨preview, hpreview, -⟩ := bind_eq_ok.mp h
  obtain ⟨id, hid, -⟩ := bind_eq_ok.mp hpreview
  exact ⟨id, hid⟩

/-- A call that comes to the transaction leaves what the transaction leaves, and more rows. -/
theorem outcome_of_reaches (meets : ForeignKey Model Reference → String → Bool)
    (hfresh : FreshIds s e) (hreaches : Reaches s e) :
    Outcome meets e.ids s (after meets e s) := by
  obtain ⟨user, env, ids, batch, action⟩ := e
  cases action with
  | seed dto => exact hreaches.elim
  | reset dto =>
    obtain ⟨id, hid⟩ := hreaches
    refine (purgeTagged_outcome hid _ (hfresh .demoAuditLog 0)).and_then
      (addsOnly_bind _ (fun deleted s' => ?_) s)
    exact (addsOnly_seed user dto _ batch s').of_later.trans
      (addsOnly_bind _ (fun _ s => AddsOnly.refl ids s) s')
  | purge confirmation =>
    obtain ⟨id, hid⟩ := requireSuperAdmin_of_allowed hreaches
    have hafter : storeAfter (purge meets env user confirmation ids) s =
        storeAfter (purgeTaggedDemoData meets user "Purged Demo" ids) s := by
      unfold purge
      rw [storeAfter_bind]
      show storeAfter (check (assertPurgeAllowed env user confirmation s) >>= _) s = _
      rw [storeAfter_bind, show assertPurgeAllowed env user confirmation s = .ok () from hreaches]
      rfl
    show Outcome meets ids s (storeAfter (purge meets env user confirmation ids) s)
    rw [hafter]
    exact purgeTagged_outcome hid _ (hfresh .demoAuditLog 0)

/-! ### The log changes nothing -/

theorem demoIds_congr {s₁ : Store} (hsame : ∀ t ≠ .demoAuditLog, s₁ t = s t) (t : Model) :
    demoIds s₁ t = demoIds s t := by
  by_cases ht : t = .demoAuditLog
  · subst ht
    have hnone : ∀ s : Store, demoIds s .demoAuditLog = [] := fun s =>
      List.eq_nil_iff_forall_not_mem.mpr fun id hid => by
        rcases tagged_of_mem_demoIds hid with h | h | h | h <;> cases h
    rw [hnone, hnone]
  · rw [demoIds, demoIds, hsame t ht]

theorem refused_congr {s₁ : Store} (hsame : ∀ t ≠ .demoAuditLog, s₁ t = s t) :
    Refused s₁ ↔ Refused s := by
  have htables : ∀ fk ∈ relations, fk.table ≠ .demoAuditLog := by decide
  unfold Refused
  refine exists_congr fun fk => and_congr_right fun hfk => ?_
  rw [hsame fk.table (htables fk hfk), demoIds_congr hsame, demoIds_congr hsame]

theorem stays_congr {s₁ : Store} (hsame : ∀ t ≠ .demoAuditLog, s₁ t = s t) {t : Model}
    {r : RowOf t} : Stays s₁ t r ↔ Stays s t r := by
  simp only [Stays, demoIds_congr hsame]

/-- A store without demo rows is not changed by the transaction. -/
theorem deleteTagged_of_no_demo (meets : ForeignKey Model Reference → String → Bool)
    (hnone : ∀ t, demoIds s t = []) :
    ∃ deleted, deleteTagged meets s = some (deleted, s) := by
  have hno : ∀ t, ∀ r ∈ (s t).rows, demoEnvironmentWhere t r = false := fun t r hr => by
    rw [← Bool.not_eq_true, ← key_mem_demoIds hr, hnone]
    exact List.not_mem_nil
  have hids : ∀ t, ∀ r ∈ (s t).rows, decide (r.key ∈ demoIds s t) = false := fun t r _ => by
    rw [hnone]
    exact decide_eq_false List.not_mem_nil
  refine deleteTagged_eq_some_iff.mpr ⟨s, s, s, s, ⟨?_, ?_, ?_⟩, ?_, ?_⟩
  · exact Schema.deleteMany_of_none meets (hno .notification)
  · exact Schema.deleteMany_of_none meets (hno .report)
  · rw [hnone]
    exact Schema.deleteMany_of_none meets fun row _ => assignmentOf_nil row
  · exact Schema.deleteMany_of_none meets (hids .user)
  · exact Schema.deleteMany_of_none meets (hids .organization)

/-! ### The rows to be left alone -/

theorem Protected.shallow {t : Model} {r : RowOf t} (h : Protected s t r) :
    Shallow t ∧ t ≠ .demoAuditLog := by
  have hmodels : ∀ t ∈ [Model.organization, .user, .report, .notification, .internalRoleAssignment],
      Shallow t := by decide +kernel
  cases t <;> first | exact ⟨hmodels _ (by decide), by decide⟩ | cases h

/-- Of the rows there were, what stays after a successful transaction is what it leaves. -/
theorem mem_after_iff (hfresh : FreshIds s e) {s₁ s₂ : Store} {deleted : Deleted}
    (hsame : ∀ t ≠ .demoAuditLog, s₁ t = s t) (hdelete : deleteTagged meets s₁ = some (deleted, s₂))
    (hadds : AddsOnly e.ids s₂ (after meets e s)) {t : Model} (hshallow : Shallow t)
    (ht : t ≠ .demoAuditLog) {r : RowOf t} (hr : r ∈ (s t).rows) :
    r ∈ (after meets e s t).rows ↔ Stays s t r := by
  have hr₁ : r ∈ (s₁ t).rows := by rwa [hsame t ht]
  rw [← stays_congr hsame, ← mem_deleted_iff hdelete hshallow hr₁]
  refine ⟨fun hafter => ?_, hadds.1 t r⟩
  rcases hadds.2 t r hafter with hr₂ | ⟨n, hn⟩
  · exact hr₂
  · exact absurd hn (hfresh t n r hr)

theorem safeguarded_of_addsOnly (h : AddsOnly e.ids s (after meets e s)) :
    Safeguarded meets s e where
  warned _ t r hr := ⟨r, h.1 t r hr, rfl⟩
  kept t r hr _ := h.1 t r hr
  preserved u hu _ := h.1 .user u hu

/-- A step is safeguarded exactly when it does not come to its transaction, the transaction fails,
or nothing is there that it must not touch. -/
theorem safeguarded_iff (hfresh : FreshIds s e) :
    Safeguarded meets s e ↔ (Reaches s e → ¬ Refused s → Harmless s e) := by
  constructor
  · intro hsafe hreaches hnot
    obtain ⟨s₁, -, hsame, ⟨hnone, -⟩ | ⟨deleted, s₂, hdelete, hadds⟩⟩ :=
      outcome_of_reaches meets hfresh hreaches
    · exact absurd ((refused_congr hsame).mp (deleteTagged_eq_none_iff.mp hnone)) hnot
    refine ⟨fun hwarned t => ?_, fun t r hr hprotected => ?_, fun id hpreserved hdemo => ?_⟩
    · -- a demo row would be gone
      refine List.eq_nil_iff_forall_not_mem.mpr fun id hid => ?_
      obtain ⟨r, hr, hkey, -⟩ := mem_demoIds.mp hid
      obtain ⟨r', hr', hkey'⟩ := hsafe.warned hwarned t r hr
      rcases hadds.2 t r' hr' with hr₂ | ⟨n, hn⟩
      · refine key_not_mem_demoIds hdelete hr₂ ?_
        rw [demoIds_congr hsame, hkey', hkey]
        exact hid
      · exact hfresh t n r hr (hkey'.symm.trans hn)
    · obtain ⟨hshallow, ht⟩ := hprotected.shallow
      exact (mem_after_iff hfresh hsame hdelete hadds hshallow ht hr).mp
        (hsafe.kept t r hr hprotected)
    · obtain ⟨u, hu, rfl, -⟩ := mem_demoIds.mp hdemo
      have hstays := (mem_after_iff hfresh hsame hdelete hadds (by decide +kernel) (by decide)
        hu).mp (hsafe.preserved u hu hpreserved)
      exact hstays.1 hdemo
  · intro h
    by_cases hreaches : Reaches s e
    · obtain ⟨s₁, hlog, hsame, ⟨-, hadds⟩ | ⟨deleted, s₂, hdelete, hadds⟩⟩ :=
        outcome_of_reaches meets hfresh hreaches
      · exact safeguarded_of_addsOnly (hlog.trans hadds)
      have hnot : ¬ Refused s := fun hrefused => by
        have hnone : deleteTagged meets s₁ = none :=
          deleteTagged_eq_none_iff.mpr ((refused_congr hsame).mpr hrefused)
        rw [hdelete] at hnone
        cases hnone
      have hharmless := h hreaches hnot
      have hkept : ∀ t, ∀ r ∈ (s t).rows, Protected s t r → r ∈ (after meets e s t).rows := by
        intro t r hr hprotected
        obtain ⟨hshallow, ht⟩ := hprotected.shallow
        exact (mem_after_iff hfresh hsame hdelete hadds hshallow ht hr).mpr
          (hharmless.kept t r hr hprotected)
      refine ⟨fun hwarned => ?_, hkept, fun u hu hpreserved => hkept .user u hu ?_⟩
      · have hnone : ∀ t, demoIds s₁ t = [] := fun t => by
          rw [demoIds_congr hsame]
          exact hharmless.warned hwarned t
        obtain ⟨deleted', hdelete'⟩ := deleteTagged_of_no_demo meets hnone
        rw [hdelete] at hdelete'
        cases hdelete'
        exact (safeguarded_of_addsOnly (hlog.trans hadds)).warned hwarned
      · have hnodemo := hharmless.preserved u.key hpreserved
        rw [key_mem_demoIds hu] at hnodemo
        exact Bool.eq_false_iff.mpr hnodemo
    · exact safeguarded_of_addsOnly (addsOnly_of_not_reaches hreaches)

/-- **The safeguards of a run.** They hold in every step exactly when every call that comes to its
transaction either finds it turned down by the foreign keys or leaves alone what it must not
touch. -/
theorem purge_safeguards_iff (meets : ForeignKey Model Reference → String → Bool) (s : Store)
    (steps : List Step) (hfresh : Along (after meets) FreshIds s steps) :
    Along (after meets) (Safeguarded meets) s steps ↔
      Along (after meets) (fun s e => Reaches s e → ¬ Refused s → Harmless s e) s steps :=
  Along.congr (fun _ _ hfresh => safeguarded_iff hfresh) hfresh

/-! ### Two runs -/

namespace Example

/-- A super administrator. -/
def admin : JwtUser := { id := some "root", role := .superAdmin }

def demoTag : Tag := { isDemo := true, demoBatchId := some "demo-1" }

/-- A demo city and a town that is not one. -/
def cities : List (RowOf .organization) :=
  [{ key := "demo-city", ref := noReference, cells := demoTag },
    { key := "town", ref := noReference, cells := ({} : Tag) }]

/-- The administrator and a citizen of the demo city. -/
def people : List (RowOf .user) :=
  [{ key := "root", ref := noReference, cells := { role := .superAdmin } },
    { key := "demo-citizen", ref := references [(.organizationId, "demo-city")],
      cells := { toTag := demoTag, role := .citizen } }]

/-- The database with these. -/
def database : Store :=
  Function.update (Function.update (fun _ => Table.empty _) .organization ⟨cities, by decide⟩)
    .user ⟨people, by decide⟩

/-- Ids that nothing has yet. -/
def newIds : NewIds := fun _ n => "new-" ++ toString n

theorem newIds_fresh {e : Step} (hids : e.ids = newIds) : FreshIds database e := by
  have hold : ∀ t, ∀ r ∈ (database t).rows, r.key.toList.head? ≠ some 'n' := by
    intro t
    cases t <;> decide
  intro t n r hr hkey
  refine hold t r hr ?_
  rw [hkey, hids]
  simp [newIds]

/-- The reset of the demo data in production. -/
def resetInProduction : Step :=
  { user := admin, env := { nodeEnv := some "production" }, ids := newIds, batch := "2",
    action := .reset {} }

/-- A purge with all its confirmations. -/
def confirmedPurge : Step :=
  { user := admin, ids := newIds,
    action := .purge { typedPhrase := some "PURGE DEMO DATA", preservedSuperAdminId := some "root",
                       backupReference := some "backup-1",
                       reauthenticationToken := some "token-1",
                       reason := some "end of the demonstration" } }

theorem warned_in_production : Warned database resetInProduction :=
  ⟨_, rfl, .inl (by decide)⟩

theorem database_not_refused : ¬ Refused database := by
  unfold Refused
  decide +kernel

/-- The purge touches nothing but the demo rows. -/
theorem confirmedPurge_harmless : Harmless database confirmedPurge where
  warned := by
    rintro ⟨preview, hpreview, hwarned⟩
    obtain rfl := Except.ok.inj hpreview
    refine absurd hwarned ?_
    decide
  kept := by
    have hfree : ∀ t, ∀ r ∈ (database t).rows, Protected database t r →
        r.key ∉ demoIds database t ∧ ∀ c, r.ref c = none := by
      intro t r hr hprotected
      cases t with
      | organization =>
        obtain rfl | rfl : r = _ ∨ r = _ := by simpa [database, cities] using hr
        · exact absurd hprotected (by simp [Protected]; decide)
        · exact ⟨by decide, fun _ => rfl⟩
      | user =>
        obtain rfl | rfl : r = _ ∨ r = _ := by simpa [database, people] using hr
        · exact ⟨by decide, fun _ => rfl⟩
        · exact absurd hprotected (by simp [Protected]; decide)
      | _ => cases hr
    intro t r hr hprotected
    obtain ⟨hkey, href⟩ := hfree t r hr hprotected
    refine ⟨hkey, fun _ id hid => ?_, fun fk _ _ _ id hid => ?_⟩
    · rw [href] at hid
      cases hid
    · rw [href] at hid
      cases hid
  preserved := by
    rintro id hid
    obtain rfl := Option.some.inj hid
    decide

end Example

/-- A purge with all its confirmations is safeguarded. -/
theorem purge_safeguards_confirmed :
    Along (after fun _ _ => true) (Safeguarded fun _ _ => true) Example.database
      [Example.confirmedPurge] :=
  (purge_safeguards_iff (fun _ _ => true) Example.database [Example.confirmedPurge]
    ⟨Example.newIds_fresh rfl, trivial⟩).mpr ⟨fun _ _ => Example.confirmedPurge_harmless, trivial⟩

/-- The safeguards can be bypassed: `reset` deletes the demo city in production. -/
theorem reset_purges_in_production : ¬ ∀ (meets : ForeignKey Model Reference → String → Bool)
    (s : Store) (steps : List Step), Along (after meets) FreshIds s steps →
      Along (after meets) (Safeguarded meets) s steps := by
  intro h
  have hfresh := Example.newIds_fresh (e := Example.resetInProduction) rfl
  have hsafe := (h (fun _ _ => true) Example.database [Example.resetInProduction]
    ⟨hfresh, trivial⟩).1
  have hharmless := (safeguarded_iff hfresh).mp hsafe ⟨"root", rfl⟩ Example.database_not_refused
  have hnone := hharmless.warned Example.warned_in_production .organization
  revert hnone
  decide

end FixZone.DemoDataService
