import FixZone.Accounts
import FixZone.Auth.Totp

/-!
# The second factor of privileged accounts

`PrivilegedMfaService`: enrollments of a TOTP secret with their recovery codes, and the
sessions that stand between an accepted password and a token. The methods are given in the
pieces their database steps make: what a step reads, and what a transaction writes. How the
pieces follow each other is said where the steps of concurrent calls are (`AuthService`).

What the process gets from outside is a parameter: SHA-256, HMAC, AES-GCM under the configured
key, and bcrypt. Left out are the audit log and the columns that are only ever written.
-/

namespace FixZone.PrivilegedMfaService

open Library Accounts
open ReportService (HttpError)

/-- `privilegedMfaRoles`. -/
def privilegedMfaRoles : List UserRole :=
  [.superAdmin, .platformSuperAdmin, .platformOwner, .executiveSuperAdmin, .technicalAdmin,
    .operationsAdmin, .organizationOnboardingAdmin, .providerAdmin, .financeBillingAdmin,
    .billingAdmin, .legalAdmin, .assignmentAdmin, .assetAdmin, .assetIntelligenceAdmin,
    .complianceAdmin, .complianceAuditAdmin, .regulatoryAdmin, .securityAdmin,
    .investigationAdmin, .releaseOperationsAdmin, .backupRecoveryAdmin, .supportAdmin]

/-- `requiresPrivilegedMfa`. -/
def requiresPrivilegedMfa (role : UserRole) : Bool := privilegedMfaRoles.contains role

/-- The functions of `node:crypto` and `bcrypt` that the services call. Encryption is under the
configured key, and throws where there is none. -/
structure Crypto where
  sha256 : String → String
  hmacSha1 : List ℕ → List ℕ → List ℕ
  /-- AES-256-GCM with an initialization vector. -/
  encrypt : String → String → Except HttpError String
  decrypt : String → Except HttpError String
  /-- The password, and the hash it is compared with. -/
  bcryptCompare : String → String → Bool
  /-- The salt, and the password. -/
  bcryptHash : String → String → String

/-- `PrivilegedMfaEnrollment`. -/
structure PrivilegedMfaEnrollment where
  id : String
  userId : String
  status : PrivilegedMfaEnrollmentStatus := .pending
  encryptedTotpSecret : String
  enabledAt : Option Millis := none
  lastVerifiedStep : Option ℕ := none
  disabledAt : Option Millis := none
  createdAt : Millis

/-- `PrivilegedMfaBackupCode`. -/
structure PrivilegedMfaBackupCode where
  id : String
  enrollmentId : String
  userId : String
  codeDigest : String
  usedAt : Option Millis := none

/-- `PrivilegedMfaPreAuthSession`. -/
structure PrivilegedMfaPreAuthSession where
  id : String
  userId : String
  tokenDigest : String
  purpose : PrivilegedMfaPreAuthPurpose
  expiresAt : Millis
  consumedAt : Option Millis := none
  failedAttempts : ℕ := 0
  lockedAt : Option Millis := none

/-- `PasswordResetToken`. -/
structure PasswordResetToken where
  id : String
  userId : String
  tokenDigest : String
  expiresAt : Millis
  usedAt : Option Millis := none
  supersededAt : Option Millis := none
  createdAt : Millis := 0

/-- What the authentication services store: the accounts, and their own tables. -/
structure AuthStore where
  accounts : Store
  enrollments : Table PrivilegedMfaEnrollment.id
  backupCodes : Table PrivilegedMfaBackupCode.id
  sessions : Table PrivilegedMfaPreAuthSession.id
  resetTokens : Table PasswordResetToken.id

/-- Other accounts. -/
def AuthStore.setAccounts (s : AuthStore) (accounts : Store) : AuthStore := { s with accounts }

/-- `privilegedMfaPreAuthSession.create`, for a row whose id is free. -/
def AuthStore.insertSession (s : AuthStore) (row : PrivilegedMfaPreAuthSession) : AuthStore :=
  { s with sessions := s.sessions.insert row }

/-- `privilegedMfaPreAuthSession.update`. -/
def AuthStore.updateSession (s : AuthStore) (id : String)
    (data : Patch PrivilegedMfaPreAuthSession.id) : AuthStore :=
  { s with sessions := s.sessions.modify id data }

/-- `privilegedMfaEnrollment.update`. -/
def AuthStore.updateEnrollment (s : AuthStore) (id : String)
    (data : Patch PrivilegedMfaEnrollment.id) : AuthStore :=
  { s with enrollments := s.enrollments.modify id data }

/-- `preAuthTtlMs`. -/
def preAuthTtlMs : Millis := 10 * 60000

/-- `maxAttempts`. -/
def maxAttempts : ℕ := 5

/-- `backupCodeCount`. -/
def backupCodeCount : ℕ := 10

/-- What `invalidMfaCode` and `invalidMfaState` make. -/
def invalidMfa : HttpError := { kind := .unauthorized, message := "MFA verification failed" }

/-! ### Recovery codes -/

/-- `text.replace(/[^A-Z0-9]/gi, '').toUpperCase()`. -/
def codeLetters (text : String) : List Char :=
  (toUpperCase (String.ofList (text.toList.filter Char.isAlphanum))).toList

/-- One of the codes of `generateRecoveryCodes`, from the random bytes as a text. -/
def recoveryCode (draw : String) : String :=
  let chars := (codeLetters draw).take 12
  if chars.length = 12 then
    String.ofList (chars.take 4 ++ '-' :: (chars.drop 4).take 4 ++ '-' :: chars.drop 8)
  else String.ofList chars

/-- `generateRecoveryCodes`. -/
def generateRecoveryCodes (draws : ℕ → String) : List String :=
  (List.range backupCodeCount).map fun i => recoveryCode (draws i)

/-- `digestRecoveryCode`. -/
def digestRecoveryCode (crypto : Crypto) (code : String) : String :=
  crypto.sha256 (String.ofList (codeLetters code))

/-! ### What the steps read -/

/-- Whether a row comes before another in `orderBy: { column: 'desc' }`, where the database puts a
missing value first. -/
def laterThan : Option Millis → Option Millis → Bool
  | none, some _ => true
  | some a, some b => b < a
  | _, none => false

/-- `findFirst` with `orderBy: { column: 'desc' }`. -/
def latestBy {ρ : Type} (column : ρ → Option Millis) : List ρ → Option ρ
  | [] => none
  | row :: rest =>
    match latestBy column rest with
    | none => some row
    | some best => if laterThan (column best) (column row) then some best else some row

theorem mem_of_latestBy {ρ : Type} {column : ρ → Option Millis} {rows : List ρ} {row : ρ}
    (h : latestBy column rows = some row) : row ∈ rows := by
  induction rows with
  | nil => cases h
  | cons first rest ih =>
    rw [latestBy] at h
    cases hbest : latestBy column rest with
    | none =>
      rw [hbest] at h
      obtain rfl := Option.some.inj h
      exact List.mem_cons_self
    | some best =>
      rw [hbest] at h
      dsimp only at h
      split at h
      · obtain rfl := Option.some.inj h
        exact List.mem_cons_of_mem _ (ih hbest)
      · obtain rfl := Option.some.inj h
        exact List.mem_cons_self

/-- `activeEnrollment`. -/
def activeEnrollment (s : AuthStore) (userId : String) : Option PrivilegedMfaEnrollment :=
  latestBy PrivilegedMfaEnrollment.enabledAt <| s.enrollments.rows.filter fun row =>
    row.userId = userId && row.status = .active && row.disabledAt = none

/-- `pendingEnrollment`. -/
def pendingEnrollment (s : AuthStore) (userId : String) : Option PrivilegedMfaEnrollment :=
  latestBy (fun row => some row.createdAt) <| s.enrollments.rows.filter fun row =>
    row.userId = userId && row.status = .pending && row.disabledAt = none

/-- `PreAuthValidation`: of the session, its id and the attempts that have failed. -/
structure PreAuthValidation where
  sessionId : String
  failedAttempts : ℕ
  user : User

/-- `validatePreAuth`. -/
def validatePreAuth (crypto : Crypto) (now : Millis) (s : AuthStore) (preAuthToken : String)
    (purpose : PrivilegedMfaPreAuthPurpose) : Except HttpError PreAuthValidation := do
  let session ← orThrow (s.sessions.rows.find? fun row =>
    row.tokenDigest = crypto.sha256 (trim preAuthToken)) invalidMfa
  let user ← orThrow (s.accounts.user? session.userId) invalidMfa
  throwIf (session.purpose ≠ purpose ∨ session.consumedAt ≠ none ∨ session.lockedAt ≠ none ∨
    session.expiresAt ≤ now ∨ maxAttempts ≤ session.failedAttempts ∨
    user.accountStatus ≠ .active ∨ requiresPrivilegedMfa user.role = false) invalidMfa
  return { sessionId := session.id, failedAttempts := session.failedAttempts, user }

/-- The purpose of a new session in `createPreAuthSession`. -/
def preAuthPurpose (s : AuthStore) (userId : String) : PrivilegedMfaPreAuthPurpose :=
  if (activeEnrollment s userId).isSome then .challenge else .enrollment

/-! ### What the steps write -/

/-- The columns of a session with one more failed attempt. -/
@[simp] def failedAttemptData (now : Millis) (locks : Bool) :
    Patch PrivilegedMfaPreAuthSession.id where
  apply row := { row with
    failedAttempts := row.failedAttempts + 1
    lockedAt := if locks then some now else row.lockedAt }

/-- `recordFailedAttempt`. -/
def recordFailedAttempt (now : Millis) (s : AuthStore) (sessionId : String)
    (failedAttempts : ℕ) : AuthStore :=
  s.updateSession sessionId (failedAttemptData now (maxAttempts ≤ failedAttempts + 1))

/-- The row `createPreAuthSession` creates. -/
def preAuthSession (crypto : Crypto) (now : Millis) (newId rawToken userId : String)
    (purpose : PrivilegedMfaPreAuthPurpose) : PrivilegedMfaPreAuthSession where
  id := newId
  userId
  tokenDigest := crypto.sha256 rawToken
  purpose
  expiresAt := now + preAuthTtlMs

/-- `privilegedMfaPreAuthSession.create`. -/
def createSession (s : AuthStore) (row : PrivilegedMfaPreAuthSession) :
    Except HttpError AuthStore := do
  throwIf ((s.sessions.find? row.id).isSome ∨
    ∃ other ∈ s.sessions.rows, other.tokenDigest = row.tokenDigest) uniqueError
  return s.insertSession row

/-- The columns of a pending enrollment that another one replaces. -/
@[simp] def replacedData (now : Millis) : Patch PrivilegedMfaEnrollment.id where
  apply row := { row with status := .disabled, disabledAt := some now }

/-- The enrollments after the pending ones of a user are replaced. -/
def replacePending (now : Millis) (s : AuthStore) (userId : String) :
    Table PrivilegedMfaEnrollment.id :=
  s.enrollments.modifyWhere (fun row => row.userId = userId && row.status = .pending)
    (replacedData now)

/-- The writes of `startEnrollment`. -/
def startedStore (now : Millis) (s : AuthStore) (row : PrivilegedMfaEnrollment) : AuthStore :=
  { s with enrollments := (replacePending now s row.userId).insert row }

/-- The transaction of `startEnrollment`. -/
def createEnrollment (now : Millis) (s : AuthStore) (row : PrivilegedMfaEnrollment) :
    Except HttpError AuthStore := do
  throwIf ((replacePending now s row.userId).find? row.id).isSome uniqueError
  return startedStore now s row

/-- The columns of an enrollment that is confirmed. -/
@[simp] def activatedData (now : Millis) : Patch PrivilegedMfaEnrollment.id where
  apply row := { row with status := .active, enabledAt := some now, lastVerifiedStep := none }

/-- The column of a session that has served. -/
@[simp] def consumedData (now : Millis) : Patch PrivilegedMfaPreAuthSession.id where
  apply row := { row with consumedAt := some now }

/-- The rows of new recovery codes. -/
def backupCodeRows (crypto : Crypto) (ids : ℕ → String) (enrollmentId userId : String)
    (codes : List String) : List PrivilegedMfaBackupCode :=
  codes.zipIdx.map fun (code, i) =>
    { id := ids i, enrollmentId, userId, codeDigest := digestRecoveryCode crypto code }

/-- New recovery codes have ids and digests that none has yet. -/
def codesAreNew (t : Table PrivilegedMfaBackupCode.id) (rows : List PrivilegedMfaBackupCode) :
    Prop :=
  (t.rows.map PrivilegedMfaBackupCode.id ++ rows.map PrivilegedMfaBackupCode.id).Nodup ∧
    (t.rows.map PrivilegedMfaBackupCode.codeDigest ++
      rows.map PrivilegedMfaBackupCode.codeDigest).Nodup

instance (t : Table PrivilegedMfaBackupCode.id) (rows : List PrivilegedMfaBackupCode) :
    Decidable (codesAreNew t rows) :=
  inferInstanceAs (Decidable (_ ∧ _))

/-- `privilegedMfaPreAuthSession.update` of a session that is consumed. -/
def consumeSession (now : Millis) (s : AuthStore) (sessionId : String) :
    Except HttpError AuthStore := do
  throwIf (s.sessions.find? sessionId).isNone missingRowError
  return s.updateSession sessionId (consumedData now)

/-- The writes of `confirmEnrollment` before the session is consumed. -/
def activatedStore (now : Millis) (s : AuthStore) (userId enrollmentId : String)
    (codes : List PrivilegedMfaBackupCode) : AuthStore where
  accounts := s.accounts
  enrollments := s.enrollments.modify enrollmentId (activatedData now)
  backupCodes := (s.backupCodes.deleteWhere fun row => row.userId = userId).insertAll codes
  sessions := s.sessions
  resetTokens := s.resetTokens

/-- The transaction of `confirmEnrollment`, with the rows of the new recovery codes. -/
def activateEnrollment (now : Millis) (s : AuthStore) (sessionId userId enrollmentId : String)
    (codes : List PrivilegedMfaBackupCode) : Except HttpError AuthStore := do
  throwIf (s.enrollments.find? enrollmentId).isNone missingRowError
  throwIf (¬ codesAreNew (s.backupCodes.deleteWhere fun row => row.userId = userId) codes)
    uniqueError
  consumeSession now (activatedStore now s userId enrollmentId codes) sessionId

/-- The condition of the update in `completeTotpChallenge`. -/
def stepIsNew (s : AuthStore) (enrollmentId : String) (step : ℕ) : Bool :=
  (s.enrollments.find? enrollmentId).any fun row => row.lastVerifiedStep.all fun last => last < step

/-- The columns of an enrollment whose code was accepted. -/
@[simp] def verifiedData (step : ℕ) : Patch PrivilegedMfaEnrollment.id where
  apply row := { row with lastVerifiedStep := some step }

/-- The transaction of `completeTotpChallenge`: whether the step was still to be accepted. -/
def consumeTotpStep (now : Millis) (s : AuthStore) (sessionId enrollmentId : String) (step : ℕ) :
    Except HttpError (AuthStore × Bool) :=
  if stepIsNew s enrollmentId step then do
    let s' ← consumeSession now (s.updateEnrollment enrollmentId (verifiedData step)) sessionId
    return (s', true)
  else return (s, false)

/-- The condition of the update in `completeRecoveryCodeChallenge`. -/
def codeIsUnused (s : AuthStore) (userId enrollmentId : String)
    (backupCode : PrivilegedMfaBackupCode) : Bool :=
  (s.backupCodes.find? backupCode.id).any fun row => row.codeDigest = backupCode.codeDigest &&
    row.userId = userId && row.enrollmentId = enrollmentId && row.usedAt = none

/-- The column of a recovery code that was used. -/
@[simp] def usedData (now : Millis) : Patch PrivilegedMfaBackupCode.id where
  apply row := { row with usedAt := some now }

/-- The transaction of `completeRecoveryCodeChallenge`: whether the code was still there. -/
def consumeRecoveryCode (now : Millis) (s : AuthStore) (sessionId userId enrollmentId : String)
    (backupCode : PrivilegedMfaBackupCode) : Except HttpError (AuthStore × Bool) :=
  if codeIsUnused s userId enrollmentId backupCode then do
    let s' ← consumeSession now
      { s with backupCodes := s.backupCodes.modify backupCode.id (usedData now) } sessionId
    return (s', true)
  else return (s, false)

/-! ### What the transactions do -/

variable {crypto : Crypto} {now : Millis} {s s' : AuthStore}
  {sessionId userId enrollmentId : String}

theorem createSession_eq_ok {row : PrivilegedMfaPreAuthSession} (h : createSession s row = .ok s') :
    s.sessions.find? row.id = none ∧ s' = s.insertSession row := by
  unfold createSession at h
  obtain ⟨hfree, h⟩ := throwIf_bind_eq_ok.mp h
  rw [not_or, Bool.not_eq_true, Option.isSome_eq_false_iff, Option.isNone_iff_eq_none] at hfree
  exact ⟨hfree.1, (pure_eq_ok.mp h).symm⟩

theorem createEnrollment_eq_ok {row : PrivilegedMfaEnrollment} :
    createEnrollment now s row = .ok s' ↔
      s.enrollments.find? row.id = none ∧ s' = startedStore now s row := by
  unfold createEnrollment
  rw [throwIf_bind_eq_ok, Bool.not_eq_true, Option.isSome_eq_false_iff, Option.isNone_iff_eq_none,
    replacePending, Table.find?_modifyWhere, Option.map_eq_none_iff]
  exact and_congr_right fun _ => pure_eq_ok.trans eq_comm

theorem consumeSession_eq_ok : consumeSession now s sessionId = .ok s' ↔
    (s.sessions.find? sessionId).isSome ∧ s' = s.updateSession sessionId (consumedData now) := by
  unfold consumeSession
  rw [throwIf_bind_eq_ok, Bool.not_eq_true, Option.isNone_eq_false_iff]
  exact and_congr_right fun _ => pure_eq_ok.trans eq_comm

theorem activateEnrollment_eq_ok {codes : List PrivilegedMfaBackupCode} :
    activateEnrollment now s sessionId userId enrollmentId codes = .ok s' ↔
      (s.enrollments.find? enrollmentId).isSome ∧
        codesAreNew (s.backupCodes.deleteWhere fun row => row.userId = userId) codes ∧
        (s.sessions.find? sessionId).isSome ∧
        s' = (activatedStore now s userId enrollmentId codes).updateSession sessionId
          (consumedData now) := by
  unfold activateEnrollment
  rw [throwIf_bind_eq_ok, throwIf_bind_eq_ok, Bool.not_eq_true, Option.isNone_eq_false_iff, not_not,
    consumeSession_eq_ok]
  rfl

theorem consumeTotpStep_eq_ok {step : ℕ} {consumed : Bool}
    (h : consumeTotpStep now s sessionId enrollmentId step = .ok (s', consumed)) :
    consumed = stepIsNew s enrollmentId step ∧ (consumed = true →
      (s.sessions.find? sessionId).isSome ∧ s' =
        (s.updateEnrollment enrollmentId (verifiedData step)).updateSession sessionId
          (consumedData now)) := by
  unfold consumeTotpStep at h
  split at h
  · next hnew =>
    obtain ⟨store, hstore, h⟩ := bind_eq_ok.mp h
    obtain ⟨rfl, rfl⟩ := Prod.mk.inj (pure_eq_ok.mp h)
    exact ⟨hnew.symm, fun _ => consumeSession_eq_ok.mp hstore⟩
  · next hold =>
    obtain ⟨rfl, rfl⟩ := Prod.mk.inj (pure_eq_ok.mp h)
    exact ⟨(Bool.not_eq_true _ ▸ hold).symm, fun h => by cases h⟩

theorem consumeRecoveryCode_eq_ok {backupCode : PrivilegedMfaBackupCode} {consumed : Bool}
    (h : consumeRecoveryCode now s sessionId userId enrollmentId backupCode = .ok (s', consumed)) :
    consumed = codeIsUnused s userId enrollmentId backupCode ∧ (consumed = true →
      (s.sessions.find? sessionId).isSome ∧ s' =
        ({ s with backupCodes := s.backupCodes.modify backupCode.id (usedData now)
          }).updateSession sessionId (consumedData now)) := by
  unfold consumeRecoveryCode at h
  split at h
  · next hunused =>
    obtain ⟨store, hstore, h⟩ := bind_eq_ok.mp h
    obtain ⟨rfl, rfl⟩ := Prod.mk.inj (pure_eq_ok.mp h)
    exact ⟨hunused.symm, fun _ => consumeSession_eq_ok.mp hstore⟩
  · next hused =>
    obtain ⟨rfl, rfl⟩ := Prod.mk.inj (pure_eq_ok.mp h)
    exact ⟨(Bool.not_eq_true _ ▸ hused).symm, fun h => by cases h⟩

/-- What `validatePreAuth` found: a session that is open, and its user. -/
theorem validatePreAuth_eq_ok {preAuthToken : String} {purpose : PrivilegedMfaPreAuthPurpose}
    {validated : PreAuthValidation}
    (h : validatePreAuth crypto now s preAuthToken purpose = .ok validated) :
    ∃ session, s.sessions.find? validated.sessionId = some session ∧
      session.userId = validated.user.id ∧ session.purpose = purpose ∧ session.consumedAt = none ∧
      s.accounts.user? validated.user.id = some validated.user ∧
      validated.user.accountStatus = .active := by
  unfold validatePreAuth at h
  obtain ⟨session, hsession, h⟩ := orThrow_bind_eq_ok.mp h
  obtain ⟨user, huser, h⟩ := orThrow_bind_eq_ok.mp h
  obtain ⟨hchecks, h⟩ := throwIf_bind_eq_ok.mp h
  simp only [not_or, ne_eq, not_not] at hchecks
  have hid : user.id = session.userId := Table.key_of_find? huser
  have hfound := Table.mem_rows_iff.mp (List.mem_of_find?_eq_some hsession)
  rw [← pure_eq_ok.mp h]
  exact ⟨session, hfound, hid.symm, hchecks.1, hchecks.2.1, by rw [hid]; exact huser,
    hchecks.2.2.2.2.2.1⟩

theorem activeEnrollment_eq_some {enrollment : PrivilegedMfaEnrollment}
    (h : activeEnrollment s userId = some enrollment) :
    s.enrollments.find? enrollment.id = some enrollment ∧ enrollment.userId = userId ∧
      enrollment.status = .active := by
  have hmem := mem_of_latestBy h
  rw [List.mem_filter, Bool.and_eq_true, Bool.and_eq_true, decide_eq_true_eq,
    decide_eq_true_eq] at hmem
  exact ⟨Table.mem_rows_iff.mp hmem.1, hmem.2.1.1, hmem.2.1.2⟩

theorem pendingEnrollment_eq_some {enrollment : PrivilegedMfaEnrollment}
    (h : pendingEnrollment s userId = some enrollment) :
    s.enrollments.find? enrollment.id = some enrollment ∧ enrollment.userId = userId ∧
      enrollment.status = .pending := by
  have hmem := mem_of_latestBy h
  rw [List.mem_filter, Bool.and_eq_true, Bool.and_eq_true, decide_eq_true_eq,
    decide_eq_true_eq] at hmem
  exact ⟨Table.mem_rows_iff.mp hmem.1, hmem.2.1.1, hmem.2.1.2⟩

end FixZone.PrivilegedMfaService
