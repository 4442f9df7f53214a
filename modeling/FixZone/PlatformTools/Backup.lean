import FixZone.Database
import FixZone.Library.IsoDate
import FixZone.Report.Model

/-!
# Backups of the platform tools

`PlatformToolsService`: a backup is a JSON file with the rows of six tables, and its restoration
empties these tables and fills them again from the file, in one transaction.

A row goes through the file column by column: a date as its ISO text, a Json column as its value,
and an empty column as `null`. Back from the file `createMany` takes a value by the type of its
column; for a Json column it does not take `null`, which may stand for an empty column or for the
JSON value. The other tables are left to the foreign keys. The unique columns besides the id and
the name of a backup's file are not modelled: the rows that come back were in the table together.
-/

namespace FixZone.PlatformToolsService

open Library Library.Relational Database
open ReportService (HttpError badRequest forbidden notFound)

/-! ### Columns -/

/-- The types of columns: whole and floating point numbers, texts and enumerations are one each. -/
inductive Kind where
  | bool | number | text | time | json
  deriving DecidableEq, Repr

/-- What a column of a row holds; a number is kept as the text that JSON has for it. -/
inductive Cell where
  | bool (value : Option Bool)
  | number (value : Option String)
  | text (value : Option String)
  | time (value : Option Millis)
  | json (value : Option Json)

/-- The type of the column. -/
def Cell.kind : Cell → Kind
  | .bool _ => .bool
  | .number _ => .number
  | .text _ => .text
  | .time _ => .time
  | .json _ => .json

/-- `Organization`. -/
def organizationColumns : List (String × Kind) :=
  [("name", .text), ("type", .text), ("status", .text), ("tenantCode", .text),
    ("contactEmail", .text), ("contactPhone", .text), ("address", .text), ("state", .text),
    ("lga", .text), ("country", .text), ("profileData", .json), ("subscriptionPlan", .text),
    ("billingStatus", .text), ("subscriptionStartAt", .time), ("subscriptionEndAt", .time),
    ("allowedUsers", .number), ("allowedProviders", .number), ("allowedReportsPerMonth", .number),
    ("allowedStorageMb", .number), ("enabledModules", .json), ("isDemo", .bool),
    ("demoBatchId", .text), ("demoScenario", .text), ("demoGeneratedAt", .time),
    ("createdBySuperAdminId", .text), ("createdAt", .time)]

/-- `User`. -/
def userColumns : List (String × Kind) :=
  [("secureZoneId", .text), ("email", .text), ("phone", .text), ("firebaseUid", .text),
    ("providerId", .text), ("passwordHash", .text), ("tokenVersion", .number), ("fullName", .text),
    ("role", .text), ("accountStatus", .text), ("providerEngagementType", .text),
    ("serviceCategories", .json), ("coverageAreas", .json), ("profileData", .json),
    ("subscriptionPlan", .text), ("identityVerificationStatus", .text),
    ("identityVerificationLevel", .number), ("trustScore", .number), ("identityType", .text),
    ("phoneVerifiedAt", .time), ("emailVerifiedAt", .time), ("idVerifiedAt", .time),
    ("faceVerifiedAt", .time), ("addressVerifiedAt", .time), ("businessVerifiedAt", .time),
    ("enterpriseVerifiedAt", .time), ("serviceZones", .json), ("isDemo", .bool),
    ("demoBatchId", .text), ("demoScenario", .text), ("demoGeneratedAt", .time),
    ("createdBySuperAdminId", .text), ("createdAt", .time), ("updatedAt", .time)]

/-- `Report`. -/
def reportColumns : List (String × Kind) :=
  [("title", .text), ("description", .text), ("category", .text), ("location", .text),
    ("locationName", .text), ("locationAddress", .text), ("locationLandmark", .text),
    ("latitude", .number), ("longitude", .number), ("locationAccuracy", .number),
    ("locationCapturedAt", .time), ("locationReceivedAt", .time), ("locationSource", .text),
    ("locationPermissionState", .text), ("locationValidationOutcome", .text),
    ("locationSchemaVersion", .number), ("status", .text), ("organizationAssignedById", .text),
    ("organizationAssignedAt", .time), ("organizationAssignmentSource", .text),
    ("assignedAt", .time), ("assignmentDeadlineAt", .time), ("lastAssignmentOutcome", .text),
    ("lastAssignmentReason", .text), ("lastAssignmentAt", .time),
    ("lastAssignmentProviderId", .text), ("completionNote", .text), ("completionImageUrl", .text),
    ("completionImagePath", .text), ("completionLatitude", .number),
    ("completionLongitude", .number), ("completionAccuracy", .number),
    ("completionLocationCapturedAt", .time), ("completionLocationSource", .text),
    ("evidenceImageUrl", .text), ("evidenceImagePath", .text), ("completedByProviderAt", .time),
    ("citizenRating", .number), ("citizenFeedback", .text), ("completionRejectionReason", .text),
    ("completionPolicy", .text), ("completionPolicySource", .text),
    ("completionReviewState", .text), ("completionReviewDeadlineAt", .time),
    ("completionReviewProcessedAt", .time), ("completionFallbackRule", .text),
    ("completionFinalActorType", .text), ("completionGovernanceHoldReason", .text),
    ("citizenCompletionDecision", .text), ("citizenCompletionDecidedAt", .time),
    ("organizationCompletionDecision", .text), ("organizationCompletionDecidedAt", .time),
    ("organizationCompletionDecidedById", .text), ("organizationCompletionReason", .text),
    ("completionFinalizedAt", .time), ("completionFinalizedById", .text),
    ("completionFinalizedByRole", .text), ("completionClosureReason", .text),
    ("completionDisputeReason", .text), ("isDemo", .bool), ("demoBatchId", .text),
    ("demoScenario", .text), ("demoGeneratedAt", .time), ("createdBySuperAdminId", .text),
    ("createdAt", .time), ("updatedAt", .time)]

/-- `Notification`. -/
def notificationColumns : List (String × Kind) :=
  [("type", .text), ("title", .text), ("message", .text), ("read", .bool), ("isDemo", .bool),
    ("demoBatchId", .text), ("demoScenario", .text), ("demoGeneratedAt", .time),
    ("createdBySuperAdminId", .text), ("createdAt", .time), ("updatedAt", .time)]

/-- `DemoAuditLog`. -/
def demoAuditLogColumns : List (String × Kind) :=
  [("action", .text), ("actorUserId", .text), ("demoBatchId", .text), ("scenario", .text),
    ("metadata", .json), ("createdAt", .time)]

/-- `PlatformSetting`. -/
def platformSettingColumns : List (String × Kind) :=
  [("value", .json), ("updatedAt", .time), ("createdAt", .time)]

/-- The cells of a row, one for each column. -/
structure Typed (columns : List (String × Kind)) where
  cells : List Cell
  typed : cells.map Cell.kind = columns.map Prod.snd

/-- `PlatformBackup`. -/
structure PlatformBackup where
  fileName : String
  filePath : String
  sizeBytes : ℕ
  createdById : String
  restoredAt : Option Millis := none
  restoredById : Option String := none
  deriving DecidableEq, Repr

/-- The columns of a row besides its id and its references. -/
def Cells : Model → Type
  | .organization => Typed organizationColumns
  | .user => Typed userColumns
  | .report => Typed reportColumns
  | .notification => Typed notificationColumns
  | .demoAuditLog => Typed demoAuditLogColumns
  | .platformSetting => Typed platformSettingColumns
  | .platformBackup => PlatformBackup
  | _ => List Cell

/-- A row of a model. -/
abbrev RowOf (t : Model) := Row String Reference (Cells t)

/-- The database. -/
abbrev Store := Relational.Store String Reference Cells

/-! ### The file -/

/-- A row in the file. -/
structure FileRow where
  id : String
  ref : Reference → Json
  cells : List Json

/-- `JSON.parse(JSON.stringify(value))`, for the value of a column. -/
def Cell.toJson : Cell → Json
  | .bool (some b) => .bool b
  | .number (some n) => .num n
  | .text (some s) => .str s
  | .time (some t) => .str (toISOString t)
  | .json (some v) => v
  | _ => .null

/-- The value that `createMany` takes for a column of a type. -/
def readCell : Kind → Json → Option Cell
  | .json, .null => none
  | .json, v => some (.json (some v))
  | .bool, .null => some (.bool none)
  | .bool, .bool b => some (.bool (some b))
  | .number, .null => some (.number none)
  | .number, .num n => some (.number (some n))
  | .text, .null => some (.text none)
  | .text, .str s => some (.text (some s))
  | .time, .null => some (.time none)
  | .time, .str s => (readDate s).map fun t => .time (some t)
  | _, _ => none

/-- A reference to a row, or none. -/
def readReference : Json → Option String
  | .str id => some id
  | _ => none

/-- The row in the file. -/
def writeTyped {columns : List (String × Kind)} (row : Row String Reference (Typed columns)) :
    FileRow where
  id := row.key
  ref c := ((row.ref c).map Json.str).getD .null
  cells := row.cells.cells.map Cell.toJson

/-- The cells from the file, by the types of the columns. -/
def readCells : List (String × Kind) → List Json → Option (List Cell)
  | [], [] => some []
  | column :: columns, value :: values => do
    let cell ← readCell column.2 value
    let cells ← readCells columns values
    return cell :: cells
  | _, _ => none

theorem readCell_kind {kind : Kind} {value : Json} {cell : Cell}
    (h : readCell kind value = some cell) : cell.kind = kind := by
  cases kind <;> cases value <;> simp only [readCell, Option.some.injEq, Option.map_eq_some_iff,
    reduceCtorEq] at h
  all_goals first
    | (subst h; rfl)
    | (obtain ⟨_, -, rfl⟩ := h; rfl)

theorem readCells_kinds {columns : List (String × Kind)} {values : List Json} {cells : List Cell}
    (h : readCells columns values = some cells) :
    cells.map Cell.kind = columns.map Prod.snd := by
  induction columns generalizing values cells with
  | nil =>
    cases values with
    | nil => cases h; rfl
    | cons => cases h
  | cons column columns ih =>
    cases values with
    | nil => cases h
    | cons value values =>
      obtain ⟨cell, hcell, hrest⟩ := Option.bind_eq_some_iff.mp h
      obtain ⟨cells', hcells, hend⟩ := Option.bind_eq_some_iff.mp hrest
      cases hend
      rw [List.map_cons, List.map_cons, ih hcells, readCell_kind hcell]

/-- The row from the file. -/
def readTyped (columns : List (String × Kind)) (row : FileRow) :
    Option (Row String Reference (Typed columns)) :=
  match h : readCells columns row.cells with
  | some cells => some { key := row.id
                         ref := fun c => readReference (row.ref c)
                         cells := ⟨cells, readCells_kinds h⟩ }
  | none => none

/-- A row of the saved tables in the file. -/
def writeRow : (t : Model) → RowOf t → Option FileRow
  | .organization, row => some (writeTyped row)
  | .user, row => some (writeTyped row)
  | .report, row => some (writeTyped row)
  | .notification, row => some (writeTyped row)
  | .demoAuditLog, row => some (writeTyped row)
  | .platformSetting, row => some (writeTyped row)
  | _, _ => none

/-- A row of the saved tables from the file. -/
def readRow : (t : Model) → FileRow → Option (RowOf t)
  | .organization => readTyped organizationColumns
  | .user => readTyped userColumns
  | .report => readTyped reportColumns
  | .notification => readTyped notificationColumns
  | .demoAuditLog => readTyped demoAuditLogColumns
  | .platformSetting => readTyped platformSettingColumns
  | _ => fun _ => none

/-- What `JSON.parse` makes of a backup file. -/
structure BackupFile where
  format : String
  backupType : String
  tables : Model → List FileRow

/-! ### Calls -/

/-- The database and the files. -/
structure Platform where
  db : Store
  files : String → Option BackupFile

/-- A call: it reads and writes the database and the files, and returns a result or throws. -/
abbrev Call := EStateM HttpError Platform

/-- The database turns a write down. -/
def constraintError : HttpError := { kind := .uniqueConstraint, message := "Constraint failed" }

/-- One write of the database, or one transaction: all of it is done or nothing. -/
def commit (write : Store → Option Store) : Call Unit := fun p =>
  match write p.db with
  | some s => .ok () { p with db := s }
  | none => .error constraintError p

/-- The outcome of a check, in a call. -/
def check {α : Type} (x : Except HttpError α) : Call α := fun p =>
  match x with
  | .ok a => .ok a p
  | .error e => .error e p

/-- The signed in user, as the token gives it. -/
structure JwtUser where
  id : Option String := none
  userId : Option String := none
  sub : Option String := none
  role : UserRole
  deriving DecidableEq, Repr

/-- `requireSuperAdmin`. -/
def requireSuperAdmin (user : JwtUser) : Except HttpError String :=
  if user.role ≠ .superAdmin then .error (forbidden "Super Admin only")
  else
    match user.id <|> user.userId <|> user.sub with
    | none | some "" => .error (forbidden "User id missing")
    | some id => .ok id

/-- The settings of the process. The root of the backups is an absolute path. -/
structure Environment where
  nodeEnv : Option String := none
  allowPlatformMetadataRestore : Option String := none
  backupRoot : String := "/backups"
  deriving DecidableEq, Repr

/-- The production restore is off. -/
def Environment.restoreBlocked (env : Environment) : Bool :=
  env.nodeEnv = some "production" && env.allowPlatformMetadataRestore ≠ some "true"

/-- A line of the audit log. -/
def auditRow (id action actorUserId : String) (metadata : Json) (now : Millis) :
    RowOf .demoAuditLog where
  key := id
  ref _ := none
  cells := (⟨[.text (some action), .text (some actorUserId), .text none, .text none,
    .json (some metadata), .time (some now)], rfl⟩ : Typed demoAuditLogColumns)

/-- `audit`. -/
def audit (row : RowOf .demoAuditLog) : Call Unit := commit (schema.create .demoAuditLog row)

/-! ### Creating -/

/-- The tables of a backup, in the order in which a restoration fills them. -/
def saved : List Model :=
  [.organization, .user, .report, .notification, .demoAuditLog, .platformSetting]

/-- `findMany` of a saved table, in the file. -/
def writeTable (s : Store) (t : Model) : List FileRow := (s t).rows.filterMap (writeRow t)

/-- The backup of the database. -/
def backupOf (s : Store) : BackupFile where
  format := "fixzone-json-db-backup-v1"
  backupType := "metadata_snapshot"
  tables := writeTable s

/-- What is made up for a backup: the time, the random part of the file name, the size of the file
and the ids of the new rows. -/
structure NewBackup where
  now : Millis
  operationId : String
  sizeBytes : ℕ
  id : String
  auditId : String
  deriving DecidableEq, Repr

/-- `fileName`. -/
def NewBackup.fileName (new : NewBackup) : String :=
  "fixzone-backup-" ++
    String.ofList (((toISOString new.now).toList.filter fun c => c ∉ "-:.TZ".toList).take 14) ++
    "-" ++ new.operationId ++ ".json"

/-- `filePath`. -/
def NewBackup.filePath (env : Environment) (new : NewBackup) : String :=
  env.backupRoot ++ "/" ++ new.fileName

/-- The row of the backup. -/
def backupRow (env : Environment) (new : NewBackup) (actorUserId : String) :
    RowOf .platformBackup where
  key := new.id
  ref _ := none
  cells := ({ fileName := new.fileName, filePath := new.filePath env, sizeBytes := new.sizeBytes
              createdById := actorUserId } : PlatformBackup)

/-- The name of the file. -/
def fileNameOf (row : RowOf .platformBackup) : String := PlatformBackup.fileName row.cells

/-- `platformBackup.create`: the name of the file is unique too. -/
def createBackupRow (row : RowOf .platformBackup) (s : Store) : Option Store :=
  if (s .platformBackup).rows.any fun r => fileNameOf r = fileNameOf row then none
  else schema.create .platformBackup row s

/-- `writeFile`. -/
def writeFile (path : String) (file : BackupFile) : Call Unit := fun p =>
  .ok () { p with files := Function.update p.files path (some file) }

/-- `createBackup`. -/
def createBackup (env : Environment) (user : JwtUser) (new : NewBackup) : Call Unit := do
  let actorUserId ← check (requireSuperAdmin user)
  let p ← get
  writeFile (new.filePath env) (backupOf p.db)
  commit (createBackupRow (backupRow env new actorUserId))
  audit (auditRow new.auditId "Backup Created" actorUserId
    (.obj [("backupId", .str new.id), ("fileName", .str new.fileName),
      ("sizeBytes", .num (toString new.sizeBytes))]) new.now)

/-! ### Restoring -/

/-- `findBackup`. -/
def findBackup (env : Environment) (id : String) (s : Store) : Except HttpError PlatformBackup :=
  match (s .platformBackup).find? id with
  | none => .error (notFound "Backup not found")
  | some row =>
    let backup : PlatformBackup := row.cells
    if env.backupRoot.toList.isPrefixOf backup.filePath.toList then .ok backup
    else .error (forbidden "Backup path is outside backup directory")

/-- The file is a backup that can be restored. -/
def checkFile (file : Option BackupFile) : Except HttpError BackupFile :=
  match file with
  | none => .error { kind := .internal, message := "ENOENT" }
  | some file =>
    if file.format ≠ "fixzone-json-db-backup-v1" then
      .error (badRequest "Invalid FixZone backup file")
    else if file.backupType ≠ "metadata_snapshot" then
      .error (badRequest "Unsupported backup type for Platform Tools restore")
    else .ok file

section Restore

variable (meets : ForeignKey Model Reference → String → Bool)

/-- The tables in the order in which they are emptied. -/
def emptied : List Model :=
  [.notification, .report, .user, .organization, .demoAuditLog, .platformSetting]

/-- `deleteMany` of every saved table. -/
def emptyTables (s : Store) : Option Store :=
  emptied.foldlM (fun s t => schema.deleteMany meets t (fun _ => true) s) s

/-- `createMany` of a saved table, if the file has rows for it. -/
def fillTable (file : BackupFile) (s : Store) (t : Model) : Option Store :=
  if (file.tables t).length ≠ 0 then do
    let rows ← (file.tables t).mapM (readRow t)
    schema.createMany t rows s
  else some s

/-- `createMany` of saved tables, one after the other. -/
def fillTables (file : BackupFile) (tables : List Model) (s : Store) : Option Store :=
  tables.foldlM (fillTable file) s

/-- The transaction of `restoreBackup`. -/
def restoreTables (file : BackupFile) (s : Store) : Option Store := do
  let s ← emptyTables meets s
  fillTables file saved s

/-- The row of a backup that was restored. -/
def restoredPatch (now : Millis) (actorUserId : String) :
    Patch (Row.key (κ := String) (γ := Reference) (δ := Cells .platformBackup)) where
  apply row := { row with
    cells := ({ (show PlatformBackup from row.cells) with
      restoredAt := some now, restoredById := some actorUserId } : PlatformBackup) }

/-- `platformBackup.update`. -/
def markRestored (id : String) (now : Millis) (actorUserId : String) (s : Store) : Option Store :=
  if ((s .platformBackup).find? id).isSome then
    some (Function.update s .platformBackup
      ((s .platformBackup).modify id (restoredPatch now actorUserId)))
  else none

/-- `restoreBackup`. -/
def restoreBackup (env : Environment) (id : String) (confirm : Bool) (user : JwtUser)
    (auditId : String) (now : Millis) : Call Unit := do
  let actorUserId ← check (requireSuperAdmin user)
  check (throwIf (confirm = false) (badRequest "Backup restore requires confirm=true"))
  let p ← get
  let backup ← check (findBackup env id p.db)
  if env.restoreBlocked then
    audit (auditRow auditId "Backup Restore Blocked" actorUserId
      (.obj [("backupId", .str id), ("fileName", .str backup.fileName),
        ("reason", .str "production_metadata_restore_disabled")]) now)
    throw (forbidden
      ("Production restore is governed by the approved operational backup process " ++
      "and is disabled in Platform Tools."))
  let file ← check (checkFile (p.files backup.filePath))
  commit (restoreTables meets file)
  commit (markRestored id now actorUserId)
  audit (auditRow auditId "Backup Restored" actorUserId
    (.obj [("backupId", .str id), ("fileName", .str backup.fileName)]) now)

end Restore

end FixZone.PlatformToolsService
