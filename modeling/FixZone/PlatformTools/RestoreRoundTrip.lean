import FixZone.PlatformTools.Restoration

/-!
# A backup and its restoration

`createBackup` followed by `restoreBackup` of that backup, with no step in between. Either the
restoration fails and changes nothing, or every table is to hold the rows it held when the backup
was taken, apart from the row of the backup and the entries of the two calls in the audit log
(`RoundTrip`). The tables that are not saved are not restored either: their rows go with the users
and organizations they belong to, or lose the references to them. So the round trip holds exactly
when the restoration does not take place or no other table refers to a saved one in such a way.
-/

namespace FixZone.PlatformToolsService

open Library Library.Relational Database
open ReportService (HttpError badRequest forbidden)

variable {meets : ForeignKey Model Reference → String → Bool}

/-! ### Calls -/

theorem check_bind {α β : Type} (x : Except HttpError α) (f : α → Call β) (p : Platform) :
    (check x >>= f) p = match x with
      | .ok a => f a p
      | .error e => .error e p := by
  cases x <;> rfl

theorem commit_bind {β : Type} (write : Store → Option Store) (f : Unit → Call β) (p : Platform) :
    (commit write >>= f) p = match write p.db with
      | some s => f () { p with db := s }
      | none => .error constraintError p := by
  show EStateM.bind _ _ _ = _
  unfold EStateM.bind commit
  cases write p.db <;> rfl

/-- The database after a call, whether it returned or threw. -/
def dbAfter (call : Call Unit) (p : Platform) : Store :=
  match call p with
  | .ok _ p' => p'.db
  | .error _ p' => p'.db

/-! ### What the two calls add -/

/-- The row of the backup, and the entries of the two calls in the audit log. -/
def Own (new : NewBackup) (auditId : String) (t : Model) (id : String) : Prop :=
  (t = .platformBackup ∧ id = new.id) ∨ (t = .demoAuditLog ∧ (id = new.auditId ∨ id = auditId))

/-- Every table of `s'` holds the rows it holds in `s`, apart from those of the two calls. -/
def SameRows (new : NewBackup) (auditId : String) (s s' : Store) : Prop :=
  Grows s s' ∧ ∀ t, ∀ r ∈ (s' t).rows, r ∈ (s t).rows ∨ Own new auditId t r.key

/-- The restoration of a backup of `p`, that was taken just before and left `p₁`, fails and changes
nothing, or leaves every table as it was in `p`. -/
def RoundTrip (meets : ForeignKey Model Reference → String → Bool) (env : Environment)
    (new : NewBackup) (confirm : Bool) (user : JwtUser) (auditId : String) (now : Millis)
    (p p₁ : Platform) : Prop :=
  (∃ e, restoreBackup meets env new.id confirm user auditId now p₁ = .error e p₁) ∨
    SameRows new auditId p.db (dbAfter (restoreBackup meets env new.id confirm user auditId now) p₁)

/-- The restoration is turned down before it reads the file. -/
def TurnedDown (env : Environment) (user : JwtUser) (confirm : Bool) : Prop :=
  (∀ actorUserId, requireSuperAdmin user ≠ .ok actorUserId) ∨ confirm = false ∨
    env.restoreBlocked = true

/-! ### After the backup -/

/-- The log and the backups refer to nothing, and nothing refers to them. -/
theorem bookkeeping_apart : ∀ fk ∈ relations, fk.table ≠ .platformBackup ∧
    fk.table ≠ .demoAuditLog ∧ fk.target ≠ .platformBackup ∧ fk.target ≠ .demoAuditLog := by
  decide +kernel

/-- What `createBackup` leaves. -/
structure Created (env : Environment) (new : NewBackup) (p p₁ : Platform) : Prop where
  file : p₁.files (new.filePath env) = some (backupOf p.db)
  backups : ∃ actorUserId, (p₁.db .platformBackup).rows =
    (p.db .platformBackup).rows ++ [backupRow env new actorUserId]
  log : ∃ row : RowOf .demoAuditLog, row.key = new.auditId ∧
    (p₁.db .demoAuditLog).rows = (p.db .demoAuditLog).rows ++ [row]
  others : ∀ t, t ≠ .platformBackup → t ≠ .demoAuditLog → p₁.db t = p.db t

/-- What a platform with the file of the backup is. -/
def Platform.withBackup (p : Platform) (env : Environment) (new : NewBackup) : Platform :=
  { p with files := Function.update p.files (new.filePath env) (some (backupOf p.db)) }

/-- The entry of `createBackup` in the audit log. -/
def createdEntry (new : NewBackup) (actorUserId : String) : RowOf .demoAuditLog :=
  auditRow new.auditId "Backup Created" actorUserId
    (.obj [("backupId", .str new.id), ("fileName", .str new.fileName),
      ("sizeBytes", .num (toString new.sizeBytes))]) new.now

theorem createBackup_eq {env : Environment} {user : JwtUser} {actorUserId : String}
    (hadmin : requireSuperAdmin user = .ok actorUserId) (new : NewBackup) (p : Platform) :
    createBackup env user new p =
      match createBackupRow (backupRow env new actorUserId) p.db with
      | some s => audit (createdEntry new actorUserId) { p.withBackup env new with db := s }
      | none => .error constraintError (p.withBackup env new) := by
  unfold createBackup
  rw [check_bind, hadmin]
  show (commit (createBackupRow (backupRow env new actorUserId)) >>= fun _ =>
    audit (createdEntry new actorUserId)) (p.withBackup env new) = _
  rw [commit_bind]
  rfl

theorem created_of_createBackup {env : Environment} {user : JwtUser} {new : NewBackup}
    {p p₁ : Platform} (h : createBackup env user new p = .ok () p₁) : Created env new p p₁ := by
  cases hadmin : requireSuperAdmin user with
  | error e =>
    unfold createBackup at h
    rw [check_bind, hadmin] at h
    cases h
  | ok actorUserId =>
    rw [createBackup_eq hadmin] at h
    cases hrow : createBackupRow (backupRow env new actorUserId) p.db with
    | none =>
      rw [hrow] at h
      cases h
    | some s =>
      rw [hrow] at h
      simp only [audit, commit] at h
      cases hentry : schema.create .demoAuditLog (createdEntry new actorUserId) s with
      | none =>
        rw [hentry] at h
        cases h
      | some s₁ =>
        rw [hentry] at h
        cases h
        unfold createBackupRow at hrow
        split_ifs at hrow
        obtain ⟨hbackups, hothers, -⟩ := Schema.createMany_eq_some.mp hrow
        obtain ⟨hlog, hothers', -⟩ := Schema.createMany_eq_some.mp hentry
        refine ⟨Function.update_self _ _ _, ⟨actorUserId, ?_⟩,
          ⟨createdEntry new actorUserId, rfl, ?_⟩,
          fun t hbackup hentry => ?_⟩
        · show (s₁ .platformBackup).rows = _
          rw [hothers' _ (by decide), hbackups]
        · show (s₁ .demoAuditLog).rows = _
          rw [hlog, hothers _ (by decide)]
        · exact (hothers' t hentry).trans (hothers t hbackup)

variable {env : Environment} {new : NewBackup} {p p₁ : Platform}

/-- The tables with references are as before. -/
theorem Created.table_eq (h : Created env new p p₁) {fk : ForeignKey Model Reference}
    (hfk : fk ∈ relations) : p₁.db fk.table = p.db fk.table :=
  h.others fk.table (bookkeeping_apart fk hfk).1 (bookkeeping_apart fk hfk).2.1

theorem Created.consistent (h : Created env new p p₁) (hs : schema.Consistent p.db) :
    schema.Consistent p₁.db := by
  intro fk hfk r hr k hk
  rw [h.table_eq hfk] at hr
  rw [h.others fk.target (bookkeeping_apart fk hfk).2.2.1 (bookkeeping_apart fk hfk).2.2.2]
  exact hs fk hfk r hr k hk

theorem Created.held_iff (h : Created env new p p₁) : Held meets p₁.db ↔ Held meets p.db := by
  refine exists_congr fun fk => and_congr_right fun hfk => ?_
  rw [h.table_eq hfk]

theorem Created.independent_iff (h : Created env new p p₁) :
    Independent p₁.db ↔ Independent p.db := by
  refine forall_congr' fun fk => forall_congr' fun hfk => ?_
  rw [h.table_eq hfk]

/-- The new backup has an id of its own. -/
theorem Created.fresh (h : Created env new p p₁) :
    ∀ r ∈ (p.db .platformBackup).rows, r.key ≠ new.id := by
  intro r hr hkey
  obtain ⟨actorUserId, hrows⟩ := h.backups
  have hkeys := (p₁.db .platformBackup).nodup
  rw [hrows, List.map_append, List.nodup_append] at hkeys
  exact hkeys.2.2 r.key (List.mem_map_of_mem hr) new.id
    (List.mem_map_of_mem (List.mem_singleton_self (backupRow env new actorUserId))) hkey

/-- The backup adds its row and its entry in the log. -/
theorem Created.sameRows (h : Created env new p p₁) (auditId : String) :
    SameRows new auditId p.db p₁.db := by
  obtain ⟨actorUserId, hbackups⟩ := h.backups
  obtain ⟨entry, hentry, hlog⟩ := h.log
  refine ⟨fun t r hr => ?_, fun t r hr => ?_⟩
  · by_cases hbackup : t = .platformBackup
    · subst hbackup
      rw [hbackups]
      exact List.mem_append_left _ hr
    · by_cases hlogs : t = .demoAuditLog
      · subst hlogs
        rw [hlog]
        exact List.mem_append_left _ hr
      · rwa [h.others t hbackup hlogs]
  · by_cases hbackup : t = .platformBackup
    · subst hbackup
      rw [hbackups, List.mem_append, List.mem_singleton] at hr
      refine hr.imp_right fun hrow => .inl ⟨rfl, ?_⟩
      rw [hrow]
      rfl
    · by_cases hlogs : t = .demoAuditLog
      · subst hlogs
        rw [hlog, List.mem_append, List.mem_singleton] at hr
        refine hr.imp_right fun hrow => .inr ⟨rfl, .inl ?_⟩
        rw [hrow]
        exact hentry
      · rw [h.others t hbackup hlogs] at hr
        exact .inl hr

/-- The path of a backup is within the root. -/
theorem isPrefixOf_filePath (env : Environment) (new : NewBackup) :
    env.backupRoot.toList.isPrefixOf (new.filePath env).toList = true := by
  rw [List.isPrefixOf_iff_prefix, NewBackup.filePath, String.toList_append, String.toList_append,
    List.append_assoc]
  exact List.prefix_append _ _

/-- The backup is found. -/
theorem Created.findBackup_eq (h : Created env new p p₁) : ∃ backup,
    findBackup env new.id p₁.db = .ok backup ∧ p₁.files backup.filePath = some (backupOf p.db) := by
  obtain ⟨actorUserId, hrows⟩ := h.backups
  have hmem : backupRow env new actorUserId ∈ (p₁.db .platformBackup).rows := by
    rw [hrows]
    exact List.mem_append_right _ (List.mem_singleton_self _)
  have hfind : (p₁.db .platformBackup).find? new.id = some (backupRow env new actorUserId) :=
    Table.mem_rows_iff.mp hmem
  refine ⟨(backupRow env new actorUserId).cells, ?_, h.file⟩
  unfold findBackup
  rw [hfind]
  exact if_pos (isPrefixOf_filePath env new)

/-! ### After the restoration -/

/-- What `restoreBackup` does after its transaction. -/
def finish (id fileName actorUserId auditId : String) (now : Millis) : Call Unit := do
  commit (markRestored id now actorUserId)
  audit (auditRow auditId "Backup Restored" actorUserId
    (.obj [("backupId", .str id), ("fileName", .str fileName)]) now)

/-- A restoration that is not turned down is its transaction and what follows it. -/
theorem Created.restoreBackup_eq (h : Created env new p p₁)
    (meets : ForeignKey Model Reference → String → Bool) {user : JwtUser} {confirm : Bool}
    (hturned : ¬ TurnedDown env user confirm) (auditId : String) (now : Millis) :
    ∃ fileName actorUserId, restoreBackup meets env new.id confirm user auditId now p₁ =
      match restoreTables meets (backupOf p.db) p₁.db with
      | some s => finish new.id fileName actorUserId auditId now { p₁ with db := s }
      | none => .error constraintError p₁ := by
  simp only [TurnedDown, not_or, not_forall, not_not, Bool.not_eq_false, Bool.not_eq_true]
    at hturned
  obtain ⟨⟨actorUserId, hadmin⟩, rfl, hblocked⟩ := hturned
  obtain ⟨backup, hbackup, hfile⟩ := h.findBackup_eq
  refine ⟨backup.fileName, actorUserId, ?_⟩
  have hcheck : checkFile (p₁.files backup.filePath) = .ok (backupOf p.db) := by
    rw [hfile]
    rfl
  unfold restoreBackup
  rw [check_bind, hadmin]
  show (check (findBackup env new.id p₁.db) >>= _) p₁ = _
  rw [check_bind, hbackup]
  simp only [hblocked, Bool.false_eq_true, if_false]
  show (check (checkFile (p₁.files backup.filePath)) >>= _) p₁ = _
  rw [check_bind, hcheck]
  show (commit (restoreTables meets (backupOf p.db)) >>= _) p₁ = _
  rw [commit_bind]
  rfl

theorem markRestored_rows {id actorUserId : String} {now : Millis} {s s' : Store}
    (h : markRestored id now actorUserId s = some s') :
    (∀ t, ∀ r ∈ (s t).rows, (t = .platformBackup → r.key ≠ id) → r ∈ (s' t).rows) ∧
      ∀ t, ∀ r ∈ (s' t).rows, r ∈ (s t).rows ∨ (t = .platformBackup ∧ r.key = id) := by
  unfold markRestored at h
  split_ifs at h
  cases h
  refine ⟨fun t r hr hother => ?_, fun t r hr => ?_⟩
  · by_cases ht : t = .platformBackup
    · subst ht
      rw [Function.update_self]
      refine List.mem_map.mpr ⟨r, hr, ?_⟩
      exact if_neg (hother rfl)
    · rwa [Function.update_of_ne ht]
  · by_cases ht : t = .platformBackup
    · subst ht
      rw [Function.update_self] at hr
      obtain ⟨r₀, hr₀, rfl⟩ := List.mem_map.mp hr
      unfold Table.patchAt
      split_ifs with hkey
      · exact .inr ⟨rfl, hkey⟩
      · exact .inl hr₀
    · rw [Function.update_of_ne ht] at hr
      exact .inl hr

/-- What follows the transaction changes the row of the backup and adds to the log. -/
theorem finish_rows (id fileName actorUserId auditId : String) (now : Millis) (p : Platform) :
    (∀ t, ∀ r ∈ (p.db t).rows, (t = .platformBackup → r.key ≠ id) →
        r ∈ (dbAfter (finish id fileName actorUserId auditId now) p t).rows) ∧
      ∀ t, ∀ r ∈ (dbAfter (finish id fileName actorUserId auditId now) p t).rows,
        r ∈ (p.db t).rows ∨ (t = .platformBackup ∧ r.key = id) ∨
          (t = .demoAuditLog ∧ r.key = auditId) := by
  unfold dbAfter finish
  rw [commit_bind]
  cases hmark : markRestored id now actorUserId p.db with
  | none => exact ⟨fun _ _ hr _ => hr, fun _ _ hr => .inl hr⟩
  | some s =>
    obtain ⟨hkept, hmarked⟩ := markRestored_rows hmark
    simp only [audit, commit]
    cases hentry : schema.create .demoAuditLog (auditRow auditId "Backup Restored" actorUserId
      (.obj [("backupId", .str id), ("fileName", .str fileName)]) now) s with
    | none => exact ⟨hkept, fun t r hr => (hmarked t r hr).imp_right .inl⟩
    | some s' =>
      obtain ⟨hgrows, hnew⟩ := Schema.createMany_grows hentry
      refine ⟨fun t r hr hother => hgrows t r (hkept t r hr hother), fun t r hr => ?_⟩
      rcases hnew t r hr with hr | ⟨ht, hkey⟩
      · exact (hmarked t r hr).imp_right .inl
      · exact .inr (.inr ⟨ht, List.mem_singleton.mp hkey⟩)

/-! ### The round trip -/

/-- When the tables of the restoration are put back, the rows are the same exactly when no other
table depends on the saved ones; else a row is lost that was there until then. -/
theorem sameRows_finish (hs : schema.Consistent p.db) (h : Created env new p p₁) {s : Store}
    (hrestore : restoreTables meets (backupOf p.db) p₁.db = some s)
    (fileName actorUserId auditId : String) (now : Millis) :
    (Independent p.db → SameRows new auditId p.db
        (dbAfter (finish new.id fileName actorUserId auditId now) { p₁ with db := s })) ∧
      (¬ Independent p.db → ∃ t, ∃ r ∈ (p.db t).rows, r ∈ (p₁.db t).rows ∧
        r ∉ (dbAfter (finish new.id fileName actorUserId auditId now)
          { p₁ with db := s } t).rows) := by
  obtain ⟨-, s₂, hempty, rfl⟩ := (restoreTables_eq_some_iff hs).mp hrestore
  obtain ⟨hkept, hnew⟩ := finish_rows new.id fileName actorUserId auditId now
    { p₁ with db := fun t => if t ∈ saved then p.db t else s₂ t }
  constructor
  · intro hindependent
    have hsame : ∀ t ∉ saved, s₂ t = p₁.db t :=
      emptyAll_outside (by decide) (h.independent_iff.mpr hindependent) hempty
    refine ⟨fun t r hr => hkept t r ?_ ?_, fun t r hr => ?_⟩
    · show r ∈ (if t ∈ saved then p.db t else s₂ t).rows
      split_ifs with ht
      · exact hr
      · rw [hsame t ht]
        exact (h.sameRows auditId).1 t r hr
    · rintro rfl
      exact h.fresh r hr
    · rcases hnew t r hr with hr | ⟨ht, hkey⟩ | ⟨ht, hkey⟩
      · replace hr : r ∈ (if t ∈ saved then p.db t else s₂ t).rows := hr
        split_ifs at hr with ht
        · exact .inl hr
        · rw [hsame t ht] at hr
          exact (h.sameRows auditId).2 t r hr
      · exact .inr (.inl ⟨ht, hkey⟩)
      · exact .inr (.inr ⟨ht, .inr hkey⟩)
  · intro hdependent
    simp only [Independent, not_forall] at hdependent
    obtain ⟨fk, hfk, hout, htarget, hrule, r, hr, href⟩ := hdependent
    have hr₁ : r ∈ (p₁.db fk.table).rows := by
      rw [h.table_eq hfk]
      exact hr
    refine ⟨fk.table, r, hr, hr₁, fun hr' => ?_⟩
    have hlost := emptyAll_loses (h.consistent hs) hempty hfk (emptied_saved _ htarget) hrule hr₁
      href
    rcases hnew fk.table r hr' with hr' | ⟨ht, -⟩ | ⟨ht, -⟩
    · replace hr' : r ∈ (if fk.table ∈ saved then p.db fk.table else s₂ fk.table).rows := hr'
      rw [if_neg hout] at hr'
      exact hlost hr'
    · exact (bookkeeping_apart fk hfk).1 ht
    · exact (bookkeeping_apart fk hfk).2.1 ht

/-- A blocked restoration writes its entry in the log and throws. -/
theorem Created.restoreBackup_blocked (h : Created env new p p₁)
    (meets : ForeignKey Model Reference → String → Bool) {user : JwtUser} {actorUserId : String}
    (hadmin : requireSuperAdmin user = .ok actorUserId)
    (hblocked : env.restoreBlocked = true) (auditId : String) (now : Millis) :
    ∃ row e, row.key = auditId ∧ restoreBackup meets env new.id true user auditId now p₁ =
      (audit row >>= fun _ => throw e) p₁ := by
  obtain ⟨backup, hbackup, -⟩ := h.findBackup_eq
  refine ⟨auditRow auditId "Backup Restore Blocked" actorUserId
    (.obj [("backupId", .str new.id), ("fileName", .str backup.fileName),
      ("reason", .str "production_metadata_restore_disabled")]) now,
    forbidden ("Production restore is governed by the approved operational backup process " ++
      "and is disabled in Platform Tools."), rfl, ?_⟩
  unfold restoreBackup
  rw [check_bind, hadmin]
  show (check (findBackup env new.id p₁.db) >>= _) p₁ = _
  rw [check_bind, hbackup]
  simp only [hblocked, if_true]
  rfl

/-- A restoration that is turned down changes nothing, but for its entry in the log. -/
theorem Created.roundTrip_of_turnedDown (h : Created env new p p₁) {user : JwtUser}
    {confirm : Bool} (hturned : TurnedDown env user confirm) (auditId : String) (now : Millis) :
    RoundTrip meets env new confirm user auditId now p p₁ := by
  cases hadmin : requireSuperAdmin user with
  | error e =>
    refine .inl ⟨e, ?_⟩
    unfold restoreBackup
    rw [check_bind, hadmin]
  | ok actorUserId =>
    cases confirm with
    | false =>
      refine .inl ⟨badRequest "Backup restore requires confirm=true", ?_⟩
      unfold restoreBackup
      rw [check_bind, hadmin]
      rfl
    | true =>
      have hblocked : env.restoreBlocked = true := by
        rcases hturned with hadmin' | hconfirm | hblocked
        · exact absurd hadmin (hadmin' actorUserId)
        · cases hconfirm
        · exact hblocked
      obtain ⟨row, e, hkey, hcall⟩ :=
        h.restoreBackup_blocked meets hadmin hblocked auditId now
      unfold RoundTrip dbAfter
      rw [hcall]
      unfold audit
      rw [commit_bind]
      cases hentry : schema.create .demoAuditLog row p₁.db with
      | none => exact .inl ⟨_, rfl⟩
      | some s =>
        obtain ⟨hgrows, hnew⟩ := Schema.createMany_grows hentry
        obtain ⟨hgrows₁, hnew₁⟩ := h.sameRows auditId
        refine .inr ⟨hgrows₁.trans hgrows, fun t r hr => ?_⟩
        rcases hnew t r hr with hr | ⟨ht, hrow⟩
        · exact hnew₁ t r hr
        · rw [List.map_singleton, List.mem_singleton] at hrow
          exact .inr (.inr ⟨ht, .inr (hrow.trans hkey)⟩)

theorem Created.restores_iff (h : Created env new p p₁) (hs : schema.Consistent p.db)
    {user : JwtUser} {confirm : Bool} {auditId : String} {now : Millis} :
    RoundTrip meets env new confirm user auditId now p p₁ ↔ TurnedDown env user confirm ∨
      Unreadable p.db ∨ Held meets p.db ∨ Independent p.db := by
  by_cases hturned : TurnedDown env user confirm
  · exact iff_of_true (h.roundTrip_of_turnedDown hturned auditId now) (.inl hturned)
  · obtain ⟨fileName, actorUserId, hcall⟩ := h.restoreBackup_eq meets hturned auditId now
    have hheld : emptyTables meets p₁.db = none ↔ Held meets p.db :=
      (emptyTables_eq_none_iff (h.consistent hs)).trans h.held_iff
    cases hrestore : restoreTables meets (backupOf p.db) p₁.db with
    | none =>
      rw [hrestore] at hcall
      refine iff_of_true (.inl ⟨_, hcall⟩) (.inr (or_iff_not_imp_left.mpr fun hreadable => .inl ?_))
      rw [← hheld]
      by_contra hempty
      obtain ⟨s₂, hempty⟩ := Option.ne_none_iff_exists'.mp hempty
      have hsome := (restoreTables_eq_some_iff hs).mpr ⟨hreadable, s₂, hempty, rfl⟩
      rw [hrestore] at hsome
      cases hsome
    | some s =>
      rw [hrestore] at hcall
      obtain ⟨hreadable, s₂, hempty, -⟩ := (restoreTables_eq_some_iff hs).mp hrestore
      have hfree : ¬ Held meets p.db := fun hh => by
        rw [hheld.mpr hh] at hempty
        cases hempty
      obtain ⟨hsame, hlost⟩ := sameRows_finish hs h hrestore fileName actorUserId auditId now
      simp only [hturned, hreadable, hfree, false_or]
      constructor
      · intro hround
        by_contra hdependent
        obtain ⟨t, r, hr, hr₁, hgone⟩ := hlost hdependent
        rcases hround with ⟨e, herror⟩ | hrows
        · rw [hcall] at herror
          unfold dbAfter at hgone
          simp only [herror] at hgone
          exact hgone hr₁
        · unfold dbAfter at hrows hgone
          rw [hcall] at hrows
          exact hgone (hrows.1 t r hr)
      · intro hindependent
        refine .inr ?_
        have hrows := hsame hindependent
        unfold dbAfter at hrows ⊢
        rw [hcall]
        exact hrows

/-- **When a backup restores what it was taken of**: exactly when the restoration is turned down,
cannot read a row back, is held back, or finds no other table that depends on the saved ones. -/
theorem roundTrip_iff {creator user : JwtUser} {confirm : Bool} {auditId : String} {now : Millis}
    (hs : schema.Consistent p.db) (hcreate : createBackup env creator new p = .ok () p₁) :
    RoundTrip meets env new confirm user auditId now p p₁ ↔ TurnedDown env user confirm ∨
      Unreadable p.db ∨ Held meets p.db ∨ Independent p.db :=
  (created_of_createBackup hcreate).restores_iff hs

/-! ### A super admin and their logins -/

/-- A backup can be taken when its names are not in use. -/
theorem exists_createBackup {user : JwtUser} {actorUserId : String}
    (hadmin : requireSuperAdmin user = .ok actorUserId) (env : Environment) (new : NewBackup)
    (hbackups : (p.db .platformBackup).rows = []) (hlog : (p.db .demoAuditLog).rows = []) :
    ∃ p₁, createBackup env user new p = .ok () p₁ := by
  obtain ⟨s, hrow⟩ : ∃ s, schema.create .platformBackup (backupRow env new actorUserId) p.db =
      some s :=
    Schema.exists_create (by rw [hbackups]; exact fun _ h => absurd h List.not_mem_nil)
      fun _ _ _ => rfl
  obtain ⟨-, hothers, -⟩ := Schema.createMany_eq_some.mp hrow
  obtain ⟨s', hentry⟩ : ∃ s', schema.create .demoAuditLog (createdEntry new actorUserId) s =
      some s' :=
    Schema.exists_create
      (by rw [hothers _ (by decide), hlog]; exact fun _ h => absurd h List.not_mem_nil)
      fun _ _ _ => rfl
  refine ⟨{ p.withBackup env new with db := s' }, ?_⟩
  rw [createBackup_eq hadmin, createBackupRow, hbackups]
  simp only [List.any_nil, Bool.false_eq_true, if_false, hrow, audit, commit, hentry]

namespace Example

/-- The columns of a super admin. -/
def adminColumns : Typed userColumns where
  cells :=
    [.text none, .text (some "admin@fixzone.ng"), .text none, .text none, .text none,
      .text (some "$2b$10$hash"), .number (some "0"), .text (some "Ada Obi"),
      .text (some "SUPER_ADMIN"), .text (some "ACTIVE"), .text none, .json (some (.arr [])),
      .json (some (.arr [])), .json (some (.obj [])), .text none, .text (some "EMAIL_VERIFIED"),
      .number (some "1"), .number (some "0"), .text (some "INDIVIDUAL"), .time none,
      .time (some 1), .time none, .time none, .time none, .time none, .time none,
      .json (some (.arr [])), .bool (some false), .text none, .text none, .time none, .text none,
      .time (some 0), .time (some 1)]
  typed := rfl

/-- A super admin. -/
def admin : RowOf .user where
  key := "admin"
  ref _ := none
  cells := adminColumns

/-- A login of the super admin. -/
def login : RowOf .loginHistory where
  key := "login"
  ref
    | .userId => some "admin"
    | _ => none
  cells := ([] : List Cell)

/-- A login that failed, of nobody. -/
def failedLogin : RowOf .loginHistory where
  key := "failed-login"
  ref _ := none
  cells := ([] : List Cell)

/-- The super admin, and their login if they had one, after one that failed. -/
def store (hadLogin : Bool) : Store
  | .user => ⟨[admin], List.nodup_singleton _⟩
  | .loginHistory =>
    if hadLogin then ⟨[failedLogin, login], by decide⟩ else ⟨[failedLogin], by decide⟩
  | _ => Table.empty _

def platform (hadLogin : Bool) : Platform where
  db := store hadLogin
  files _ := none

def user : JwtUser where
  id := some "admin"
  role := .superAdmin

def created : NewBackup where
  now := 0
  operationId := "0"
  sizeBytes := 0
  id := "backup"
  auditId := "created"

theorem store_consistent (hadLogin : Bool) : schema.Consistent (store hadLogin) := by
  have hall : ∀ fk ∈ relations, ∀ r ∈ (store hadLogin fk.table).rows,
      ((r.ref fk.column).all fun k => (store hadLogin fk.target).rows.any fun r => r.key = k) =
        true := by
    cases hadLogin
    · decide +kernel
    · decide +kernel
  intro fk hfk r hr k hk
  have hany := hall fk hfk r hr
  rw [hk, Option.all_some, List.any_eq_true] at hany
  obtain ⟨r', hr', hkey⟩ := hany
  exact List.mem_map.mpr ⟨r', hr', of_decide_eq_true hkey⟩

end Example

/-- The login of a super admin loses its user in a restoration of the backup taken just before. -/
theorem restore_clears_logins : ∃ p₁,
    createBackup {} Example.user Example.created (Example.platform true) = .ok () p₁ ∧
      schema.Consistent (Example.platform true).db ∧
      ¬ RoundTrip (fun _ _ => false) {} Example.created true Example.user "restored" 1
        (Example.platform true) p₁ := by
  have hs := Example.store_consistent true
  obtain ⟨p₁, hcreate⟩ := exists_createBackup (p := Example.platform true)
    (show requireSuperAdmin Example.user = .ok "admin" from rfl) {} Example.created rfl rfl
  refine ⟨p₁, hcreate, hs, fun hround => ?_⟩
  rcases ((created_of_createBackup hcreate).restores_iff hs).mp hround with
    hturned | hunreadable | hheld | hindependent
  · rcases hturned with hadmin | hconfirm | hblocked
    · exact hadmin "admin" rfl
    · cases hconfirm
    · cases hblocked
  · obtain ⟨t, ht, row, hrow, hread⟩ := hunreadable
    have hall : ∀ t ∈ saved, ∀ row ∈ (Example.store true t).rows, readable t row = true := by
      decide +kernel
    rw [hall t ht row hrow] at hread
    cases hread
  · obtain ⟨fk, hfk, hrestrict, -, r, hr, -⟩ := hheld
    have hnone : ∀ fk ∈ relations, fk.onDelete = .restrict →
        (Example.store true fk.table).rows.isEmpty = true := by
      decide +kernel
    replace hr : r ∈ (Example.store true fk.table).rows := hr
    rw [List.isEmpty_iff.mp (hnone fk hfk hrestrict)] at hr
    exact absurd hr List.not_mem_nil
  · have hlogin := hindependent ⟨.loginHistory, .userId, .user, .setNull⟩ (by decide) (by decide)
      (by decide) (by decide) Example.login (List.mem_cons_of_mem _ (List.mem_singleton_self _))
    cases hlogin

/-- Without the login nothing is lost. -/
theorem restore_of_super_admin : ∃ p₁,
    createBackup {} Example.user Example.created (Example.platform false) = .ok () p₁ ∧
      RoundTrip (fun _ _ => false) {} Example.created true Example.user "restored" 1
        (Example.platform false) p₁ := by
  obtain ⟨p₁, hcreate⟩ := exists_createBackup (p := Example.platform false)
    (show requireSuperAdmin Example.user = .ok "admin" from rfl) {} Example.created rfl rfl
  refine ⟨p₁, hcreate, (roundTrip_iff (Example.store_consistent false) hcreate).mpr
    (.inr (.inr (.inr fun fk hfk hout _ _ r hr => ?_)))⟩
  have hnone : ∀ fk ∈ relations, fk.table ∉ saved →
      ∀ r ∈ (Example.store false fk.table).rows, (r.ref fk.column).isNone = true := by
    decide +kernel
  exact Option.isNone_iff_eq_none.mp (hnone fk hfk hout r hr)

end FixZone.PlatformToolsService
