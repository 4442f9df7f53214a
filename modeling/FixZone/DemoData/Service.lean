import FixZone.Database
import FixZone.Report.Model

/-!
# The demo data service

`DemoDataService`: a super administrator fills the database with the organizations, users,
reports and notifications of a demo environment, all tagged with the batch they were made in, and
later deletes the tagged rows, by `purge`, which has a list of safeguards, or by `reset`, which
deletes and fills again.

A call runs on the store of the whole database, one committed write after the other, and keeps
what it has written when it throws (`EStateM`); the deletion is one transaction. Of the rows are
kept the columns that these methods read, the references, and the tag; the ids of new rows come
with the call.
-/

namespace FixZone.DemoDataService

open Library Library.Relational Database
open ReportService (ErrorKind HttpError)

/-! ### Rows -/

/-- The demo columns of a row. -/
structure Tag where
  isDemo : Bool := false
  demoBatchId : Option String := none
  demoScenario : Option String := none
  createdBySuperAdminId : Option String := none
  deriving DecidableEq, Repr

/-- `User`. -/
structure UserCells extends Tag where
  role : UserRole
  deriving DecidableEq, Repr

/-- `DemoAuditLog`. -/
structure AuditCells where
  action : String
  actorUserId : String
  demoBatchId : Option String := none
  scenario : Option String := none
  deriving DecidableEq, Repr

/-- What is kept of a row besides its id and its references: of a setting its value, of a backup
the name of its file. -/
def Cells : Model → Type
  | .organization | .report | .notification => Tag
  | .user => UserCells
  | .demoAuditLog => AuditCells
  | .platformSetting => Json
  | .platformBackup => String
  | _ => Unit

/-- A row of a model. -/
abbrev RowOf (t : Model) := Row String Reference (Cells t)

/-- The database. -/
abbrev Store := Relational.Store String Reference Cells

/-- No references. -/
def noReference : Reference → Option String := fun _ => none

/-- The references listed. -/
def references (held : List (Reference × String)) : Reference → Option String :=
  fun c => held.lookup c

/-- `demoEnvironmentWhere`, of the columns. -/
def Tag.isDemoEnvironment (tag : Tag) : Bool :=
  tag.isDemo && tag.demoBatchId.any fun batch => "demo-".toList.isPrefixOf batch.toList

/-- `isDemo: false` with a batch. -/
def Tag.isUncertain (tag : Tag) : Bool := !tag.isDemo && tag.demoBatchId.isSome

/-- The demo columns, of the models that have them. -/
def tag? : (t : Model) → Cells t → Option Tag
  | .organization, tag | .report, tag | .notification, tag => some tag
  | .user, user => some user.toTag
  | _, _ => none

/-- `demoEnvironmentWhere`. -/
def demoEnvironmentWhere (t : Model) (row : RowOf t) : Bool :=
  (tag? t row.cells).any Tag.isDemoEnvironment

/-- `{ isDemo: false, demoBatchId: { not: null } }`. -/
def uncertainWhere (t : Model) (row : RowOf t) : Bool := (tag? t row.cells).any Tag.isUncertain

/-- `count`. -/
def count (s : Store) (t : Model) (p : RowOf t → Bool) : ℕ := (s t).rows.countP p

/-! ### Calls -/

/-- The counts of rows that are tagged with a batch and not as demo rows. -/
structure UncertainRecords where
  organizations : ℕ
  citizensUsersProviders : ℕ
  reports : ℕ
  deriving DecidableEq, Repr

/-- An exception, some with the counts. -/
structure DemoError extends HttpError where
  uncertainRecords : Option UncertainRecords := none
  deriving DecidableEq, Repr

/-- An exception with a code. -/
def codeError (kind : ErrorKind) (code message : String) : DemoError :=
  { kind, code := some code, message }

/-- The database turns a write down. -/
def constraintError : DemoError := { kind := .uniqueConstraint, message := "Constraint failed" }

/-- A call: it reads and writes the database and returns a result or throws. -/
abbrev Call := EStateM DemoError Store

/-- One write, or one transaction: all of it is done or nothing. -/
def commit {α : Type} (write : Store → Option (α × Store)) : Call α := fun s =>
  match write s with
  | some (a, s') => .ok a s'
  | none => .error constraintError s

/-- `create`. -/
def create (t : Model) (row : RowOf t) (s : Store) : Option (Unit × Store) :=
  (schema.create t row s).map fun s' => ((), s')

/-- The ids of the rows that a call adds to a model, in order. -/
abbrev NewIds := Model → ℕ → String

/-- The signed in user, as the token gives it. -/
structure JwtUser where
  id : Option String := none
  userId : Option String := none
  sub : Option String := none
  role : UserRole
  deriving DecidableEq, Repr

/-- `requireSuperAdmin`. -/
def requireSuperAdmin (user : JwtUser) : Except DemoError String :=
  if user.role ≠ .superAdmin then
    .error { kind := .forbidden, message := "Super Admin only" }
  else
    match user.id <|> user.userId <|> user.sub with
    | none | some "" => .error { kind := .forbidden, message := "User id missing" }
    | some id => .ok id

/-- The outcome of a check, in a call. -/
def check {α : Type} (x : Except DemoError α) : Call α := fun s =>
  match x with
  | .ok a => .ok a s
  | .error e => .error e s

/-- `audit`. -/
def audit (id action actorUserId : String) (demoBatchId scenario : Option String) : Call Unit :=
  commit (create .demoAuditLog
    { key := id, ref := noReference, cells := { action, actorUserId, demoBatchId, scenario } })

/-! ### Generating -/

/-- `GenerateDemoEnvironmentDto`, with the bounds its decorators check, without the switches for
columns that are not kept. -/
structure GenerateDemoEnvironmentDto where
  scenario : Option String := none
  citizens : Option ℕ := none
  providers : Option ℕ := none
  organizations : Option ℕ := none
  reports : Option ℕ := none
  notifications : Option ℕ := none
  completedJobs : Option ℕ := none
  generateAssignments : Option Bool := none
  citizens_bounds : ∀ n ∈ citizens, 1 ≤ n ∧ n ≤ 250 := by decide
  providers_bounds : ∀ n ∈ providers, 1 ≤ n ∧ n ≤ 100 := by decide
  organizations_bounds : ∀ n ∈ organizations, 1 ≤ n ∧ n ≤ 25 := by decide
  reports_bounds : ∀ n ∈ reports, 1 ≤ n ∧ n ≤ 1000 := by decide
  notifications_bound : ∀ n ∈ notifications, n ≤ 5000 := by decide
  completedJobs_bound : ∀ n ∈ completedJobs, n ≤ 1000 := by decide

/-- `DemoGenerationSettings`. -/
structure DemoGenerationSettings where
  scenario : String
  citizens : ℕ
  providers : ℕ
  organizations : ℕ
  reports : ℕ
  notifications : ℕ
  completedJobs : ℕ
  generateAssignments : Bool
  deriving DecidableEq, Repr

/-- `normalizeScenario`. -/
def normalizeScenario (scenario : Option String) : String :=
  match trim (scenario.getD "Municipal Operations") with
  | "Smart City" => "Smart City Operations"
  | "Flood Disaster" => "Flood Emergency"
  | "Waste Management" => "Waste Management Campaign"
  | trimmed => if trimmed = "" then "Municipal Operations" else trimmed

/-- `resolveSettings`. -/
def resolveSettings (dto : GenerateDemoEnvironmentDto) : DemoGenerationSettings where
  scenario := normalizeScenario dto.scenario
  citizens := dto.citizens.getD 24
  providers := dto.providers.getD 8
  organizations := dto.organizations.getD 4
  reports := dto.reports.getD 48
  notifications := dto.notifications.getD 96
  completedJobs := dto.completedJobs.getD 12
  generateAssignments := dto.generateAssignments.getD true

/-- The `completionRate` of `scenarioProfile`. -/
def completionRate (scenario : String) : ℕ :=
  (List.lookup scenario
    [("Smart City Operations", 82), ("Rainy Season", 68), ("Flood Emergency", 42),
      ("Road Rehabilitation", 74), ("Electricity Outage", 58), ("Water Crisis", 61),
      ("Waste Management Campaign", 79), ("Emergency Response", 55),
      ("Municipal Operations", 72)]).getD 72

/-- `statusPlan`. -/
def statusPlan (settings : DemoGenerationSettings) : List ReportStatus :=
  if !settings.generateAssignments then [.pending]
  else if settings.completedJobs = 0 then [.pending, .assigned, .inProgress]
  else if 80 ≤ completionRate settings.scenario then
    [.closed, .closed, .completedByProvider, .inProgress, .assigned, .pending]
  else if completionRate settings.scenario ≤ 45 then
    [.pending, .assigned, .inProgress, .inProgress, .completedByProvider, .closed]
  else [.pending, .assigned, .inProgress, .completedByProvider, .closed]

/-- A row to add, with its model. -/
abbrev NewRow := (t : Model) × RowOf t

section Rows

variable (ids : NewIds) (tag : Tag) (settings : DemoGenerationSettings)

/-- The `n`-th organization. -/
def newOrganization (n : ℕ) : NewRow :=
  ⟨.organization, { key := ids .organization n, ref := noReference, cells := tag }⟩

/-- The `n`-th user, in the organization of index `organization`. -/
def newUser (role : UserRole) (n organization : ℕ) : NewRow :=
  ⟨.user, { key := ids .user n
            ref := references [(.organizationId, ids .organization organization)]
            cells := { toTag := tag, role } }⟩

/-- The number of the provider of index `i` among the users. -/
def providerNumber (i : ℕ) : ℕ := 2 * settings.organizations + i

/-- The number of the citizen of index `i` among the users. -/
def citizenNumber (i : ℕ) : ℕ := 2 * settings.organizations + settings.providers + i

/-- The organizations, each with its two officers. -/
def newOrganizations : List NewRow :=
  (List.range settings.organizations).flatMap fun i =>
    [newOrganization ids tag i, newUser ids tag .orgAdmin (2 * i) i,
      newUser ids tag .dispatchOfficer (2 * i + 1) i]

/-- The providers. -/
def newProviders : List NewRow :=
  (List.range settings.providers).map fun i =>
    newUser ids tag .provider (providerNumber settings i) (i % settings.organizations)

/-- The citizens. -/
def newCitizens : List NewRow :=
  (List.range settings.citizens).map fun i =>
    newUser ids tag .citizen (citizenNumber settings i) (i % settings.organizations)

/-- A notification, of a report or of none. -/
def newNotification (n recipient : ℕ) (report : Option ℕ) : NewRow :=
  ⟨.notification, { key := ids .notification n
                    ref := references ([(.userId, ids .user recipient)] ++
                      report.toList.map fun r => (.reportId, ids .report r))
                    cells := tag }⟩

/-- The reports, each with a notification of its citizen. -/
def newReports : List NewRow :=
  let plan := statusPlan settings
  (List.range settings.reports).flatMap fun i =>
    let citizen := i % settings.citizens
    let provider := ids .user (providerNumber settings (i % settings.providers))
    let assigned := settings.generateAssignments && plan[i % plan.length]? != some .pending
    [⟨.report, { key := ids .report i
                 ref := references ([(.citizenId, ids .user (citizenNumber settings citizen)),
                   (.organizationId, ids .organization (citizen % settings.organizations))] ++
                   if assigned then [(.assignedProviderId, provider)] else [])
                 cells := tag }⟩,
      newNotification ids tag i (citizenNumber settings citizen) (some i)]

/-- `allDemoUsers`, by their numbers. -/
def allDemoUsers : List ℕ :=
  (List.range settings.citizens).map (citizenNumber settings) ++
    (List.range settings.providers).map (providerNumber settings) ++
    (List.range settings.organizations).map (fun i => 2 * i) ++
    (List.range settings.organizations).map (fun i => 2 * i + 1)

/-- The notifications beyond those of the reports. -/
def newActivity : List NewRow :=
  let users := allDemoUsers settings
  (List.range' settings.reports (settings.notifications - settings.reports)).map fun i =>
    newNotification ids tag i (users.getD (i % users.length) 0) none

/-- The rows of a demo environment, in the order in which `seed` creates them. -/
def demoRows : List NewRow :=
  newOrganizations ids tag settings ++ newProviders ids tag settings ++
    newCitizens ids tag settings ++ newReports ids tag settings ++ newActivity ids tag settings

end Rows

/-- Create rows, one after the other. -/
def createAll (rows : List NewRow) (s : Store) : Option Store :=
  rows.foldlM (fun s row => schema.create row.1 row.2 s) s

/-- `seed`. The batch is the time of the call with a part of a random UUID. -/
def seed (user : JwtUser) (dto : GenerateDemoEnvironmentDto) (ids : NewIds) (batch : String) :
    Call Unit := do
  let superAdminId ← check (requireSuperAdmin user)
  let settings := resolveSettings dto
  let demoBatchId := "demo-" ++ batch
  let tag : Tag := { isDemo := true, demoBatchId := some demoBatchId
                     demoScenario := some settings.scenario
                     createdBySuperAdminId := some superAdminId }
  audit (ids .demoAuditLog 0) "Generated Demo Started" superAdminId demoBatchId settings.scenario
  commit fun s => (createAll (demoRows ids tag settings) s).map fun s' => ((), s')
  audit (ids .demoAuditLog 1) "Generated Demo Completed" superAdminId demoBatchId settings.scenario

/-! ### Purging -/

/-- What was deleted. -/
structure Deleted where
  notifications : ℕ
  reports : ℕ
  users : ℕ
  organizations : ℕ
  assignments : ℕ
  deriving DecidableEq, Repr

/-- The ids of the demo rows of a model. -/
def demoIds (s : Store) (t : Model) : List String := (s t).keysWhere (demoEnvironmentWhere t)

section Purge

variable (meets : ForeignKey Model Reference → String → Bool)

/-- `deleteMany`, with the number of rows that met the condition. -/
def deleteMany (t : Model) (p : RowOf t → Bool) (s : Store) : Option (ℕ × Store) :=
  (schema.deleteMany meets t p s).map fun s' => (count s t p, s')

/-- The role assignment is of one of the users, or by one of them. -/
def assignmentOf (userIds : List String) (row : RowOf .internalRoleAssignment) : Bool :=
  (row.ref .userId).any (fun id => decide (id ∈ userIds)) ||
    (row.ref .assignedById).any (fun id => decide (id ∈ userIds))

/-- The deletion of the role assignments, left out when there are no demo users. -/
def deleteAssignments (demoUserIds : List String) (s : Store) : Option (ℕ × Store) :=
  if demoUserIds.length ≠ 0 then
    deleteMany meets .internalRoleAssignment (assignmentOf demoUserIds) s
  else some (0, s)

/-- The transaction of `purgeTaggedDemoData`. -/
def deleteTagged (s : Store) : Option (Deleted × Store) := do
  let demoUserIds := demoIds s .user
  let demoOrganizationIds := demoIds s .organization
  let (notifications, s) ← deleteMany meets .notification (demoEnvironmentWhere .notification) s
  let (reports, s) ← deleteMany meets .report (demoEnvironmentWhere .report) s
  let (assignments, s) ← deleteAssignments meets demoUserIds s
  let (users, s) ← deleteMany meets .user (fun row => decide (row.key ∈ demoUserIds)) s
  let (organizations, s) ←
    deleteMany meets .organization (fun row => decide (row.key ∈ demoOrganizationIds)) s
  return ({ notifications, reports, users, organizations, assignments }, s)

/-- `purgeTaggedDemoData`. -/
def purgeTaggedDemoData (user : JwtUser) (action : String) (ids : NewIds) : Call Deleted := do
  let superAdminId ← check (requireSuperAdmin user)
  audit (ids .demoAuditLog 0) (action ++ " Started") superAdminId none none
  let deleted ← commit (deleteTagged meets)
  audit (ids .demoAuditLog 1) (action ++ " Completed") superAdminId none none
  return deleted

/-- `reset`. -/
def reset (user : JwtUser) (dto : GenerateDemoEnvironmentDto) (ids : NewIds) (batch : String) :
    Call Deleted := do
  let deleted ← purgeTaggedDemoData meets user "Reset Demo Purge" ids
  seed user dto (fun t n => ids t (n + 2)) batch
  return deleted

/-! ### Safeguards -/

/-- The environment variables that name the mode of the system. -/
structure Environment where
  secureZoneSystemMode : Option String := none
  fixZoneSystemMode : Option String := none
  platformMode : Option String := none
  nodeEnv : Option String := none
  deriving DecidableEq, Repr

/-- The modes. -/
inductive SystemMode where
  | demo | staging | production
  deriving DecidableEq, Repr

/-- `systemMode`. -/
def systemMode (env : Environment) : SystemMode :=
  match toUpperCase (trim ((env.secureZoneSystemMode <|> env.fixZoneSystemMode <|>
      env.platformMode).getD "")) with
  | "DEMO" => .demo
  | "STAGING" => .staging
  | "PRODUCTION" => .production
  | _ => if env.nodeEnv = some "production" then .production else .demo

/-- `deleteCounts`, where they are counted. -/
structure DeleteCounts where
  organizations : ℕ
  citizensUsers : ℕ
  providers : ℕ
  invitations : ℕ
  reports : ℕ
  notifications : ℕ
  auditLogs : ℕ
  deriving DecidableEq, Repr

/-- The result of `previewPurge`. -/
structure PurgePreview where
  executionAllowed : Bool
  systemMode : SystemMode
  locked : Bool
  actor : String
  uncertainRecords : UncertainRecords
  deleteCounts : DeleteCounts
  deriving DecidableEq, Repr

/-- The counts of uncertain rows. -/
def uncertainRecords (s : Store) : UncertainRecords where
  organizations := count s .organization (uncertainWhere .organization)
  citizensUsersProviders := count s .user (uncertainWhere .user)
  reports := count s .report (uncertainWhere .report)

/-- `purgeLock?.value === 'true'`. -/
def purgeLocked (s : Store) : Bool :=
  match ((s .platformSetting).find? "demo_purge_locked").map Row.cells with
  | some (Json.str "true") => true
  | _ => false

/-- What would be deleted. -/
def deleteCounts (s : Store) : DeleteCounts :=
  let providers := count s .user fun row =>
    demoEnvironmentWhere .user row && row.cells.role = .provider
  { organizations := count s .organization (demoEnvironmentWhere .organization)
    citizensUsers := count s .user (demoEnvironmentWhere .user) - providers
    providers
    invitations := count s .invitation fun row =>
      (row.ref .organizationId).any fun id => decide (id ∈ demoIds s .organization)
    reports := count s .report (demoEnvironmentWhere .report)
    notifications := count s .notification (demoEnvironmentWhere .notification)
    auditLogs := count s .demoAuditLog fun row =>
      Option.any (fun batch => "demo-".toList.isPrefixOf batch.toList) row.cells.demoBatchId }

/-- `previewPurge`. -/
def previewPurge (env : Environment) (user : JwtUser) (s : Store) : Except DemoError PurgePreview :=
  do
  let superAdminId ← requireSuperAdmin user
  let uncertain := uncertainRecords s
  return { executionAllowed := decide (uncertain.organizations = 0) &&
             decide (uncertain.citizensUsersProviders = 0) && decide (uncertain.reports = 0)
           systemMode := systemMode env
           locked := purgeLocked s
           actor := superAdminId
           uncertainRecords := uncertain
           deleteCounts := deleteCounts s }

/-- `DemoPurgeConfirmation`; a value that is not a string counts as none. -/
structure DemoPurgeConfirmation where
  typedPhrase : Option String := none
  preservedSuperAdminId : Option String := none
  backupReference : Option String := none
  reauthenticationToken : Option String := none
  reason : Option String := none
  deriving DecidableEq, Repr

/-- `value.trim().length`, in UTF-16 units. -/
def trimmedLength (value : String) : ℕ :=
  ((trim value).toList.map fun c => if c.val < 0x10000 then 1 else 2).sum

/-- The value is a string of `n` units at least, without the blanks around it. -/
def atLeast (n : ℕ) (value : Option String) : Bool := value.any fun text => n ≤ trimmedLength text

/-- `assertBackupReferenceIfPossible`. -/
def assertBackupReferenceIfPossible (s : Store) (reference : Option String) :
    Except DemoError Unit :=
  match reference with
  | none => .ok ()
  | some reference =>
    if (s .platformBackup).rows.isEmpty then .ok ()
    else throwIf (¬ (s .platformBackup).rows.any fun row =>
        row.key = trim reference || (show String from row.cells) = trim reference)
      (codeError .badRequest "BACKUP_REFERENCE_NOT_FOUND"
        "Backup reference does not match an existing backup record.")

/-- The checks of `purge`. -/
def assertPurgeAllowed (env : Environment) (user : JwtUser) (confirmation : DemoPurgeConfirmation)
    (s : Store) : Except DemoError Unit := do
  let preview ← previewPurge env user s
  throwIf (preview.systemMode = .production) (codeError .forbidden
    "DEMO_PURGE_DISABLED_IN_PRODUCTION" "Demo purge cannot run in production mode.")
  throwIf (preview.locked = true) (codeError .badRequest
    "DEMO_PURGE_LOCKED" "Demo purge is locked after production launch.")
  throwIf (preview.executionAllowed = false)
    { codeError .badRequest "UNCERTAIN_DEMO_CLASSIFICATION"
        "Uncertain demo records must be explicitly classified before purge." with
      uncertainRecords := some preview.uncertainRecords }
  throwIf (confirmation.typedPhrase ≠ some "PURGE DEMO DATA") (codeError .badRequest
    "CONFIRMATION_PHRASE_REQUIRED" "Type PURGE DEMO DATA to confirm demo purge.")
  throwIf (atLeast 1 confirmation.preservedSuperAdminId = false) (codeError .badRequest
    "PRESERVED_SUPER_ADMIN_REQUIRED" "A preserved Super Admin identifier is required.")
  throwIf (atLeast 6 confirmation.backupReference = false) (codeError .badRequest
    "BACKUP_REFERENCE_REQUIRED" "A fresh backup reference is required before purge.")
  assertBackupReferenceIfPossible s confirmation.backupReference
  throwIf (atLeast 6 confirmation.reauthenticationToken = false) (codeError .badRequest
    "REAUTHENTICATION_REQUIRED" "Fresh reauthentication evidence is required.")
  throwIf (atLeast 10 confirmation.reason = false) (codeError .badRequest
    "PURGE_REASON_REQUIRED" "A clear operational reason is required.")

/-- `purge`. -/
def purge (env : Environment) (user : JwtUser) (confirmation : DemoPurgeConfirmation)
    (ids : NewIds) : Call Deleted := do
  let s ← get
  check (assertPurgeAllowed env user confirmation s)
  purgeTaggedDemoData meets user "Purged Demo" ids

end Purge

end FixZone.DemoDataService
