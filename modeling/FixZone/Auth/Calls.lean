import FixZone.Auth.Service
import FixZone.InternalAdmin.Lifecycle
import FixZone.Library.Protocol
import FixZone.Users.Administration

/-!
# Authentication step by step

The requests that open, complete and revoke sessions, as calls whose database steps
interleave with those of all other calls: logins, the enrollment and the challenge of the
second factor, the password reset and the revocation of sessions. Between two steps a call
keeps what it has read. The operations that change the role of an account, accepting an
invitation in either service and `updateUser`, are in it as calls of a single step.

Beside the store there is a history of what has happened, newest first, that no step
reads: which sessions were opened, which enrollments started and activated, which logins
were completed with which factor, which tokens issued and whose sessions revoked. A
session and a token carry the number of revocations there had been when the password was
checked.
-/

namespace FixZone.AuthService

open Library Accounts PrivilegedMfaService
open ReportService (HttpError)
open InternalAdminService (ProcessEnv Server)

/-! ### History -/

/-- The methods that issue tokens. -/
inductive Issuer where
  | login | firebaseLogin | confirmMfaEnrollment | completeMfaChallenge
  deriving DecidableEq

/-- The tokens of this method are issued after a second factor. -/
def Issuer.secondFactor (issuer : Issuer) : Bool :=
  issuer = .confirmMfaEnrollment || issuer = .completeMfaChallenge

/-- A token that was issued: by which method, and how many times the sessions of the user had been
revoked when the password was checked. -/
structure Token where
  payload : JwtPayload
  issuer : Issuer
  epoch : ℕ

/-- The second factor of a login. -/
inductive Factor where
  | totp (enrollmentId : String) (step : ℕ)
  | recoveryCode (enrollmentId codeId : String)

/-- The enrollment a factor belongs to. -/
def Factor.enrollmentId : Factor → String
  | .totp enrollmentId _ => enrollmentId
  | .recoveryCode enrollmentId _ => enrollmentId

/-- What happens to sessions, enrollments and tokens. -/
inductive Happening where
  | opened (sessionId userId : String) (epoch : ℕ)
  | started (sessionId userId enrollmentId : String)
  | activated (sessionId userId enrollmentId : String) (step : ℕ)
  | challenged (sessionId userId : String) (factor : Factor)
  | issued (token : Token)
  | revoked (userId : String)

/-- What is stored, and what has happened. -/
structure World where
  store : AuthStore
  history : List Happening

/-- The tokens that were issued. -/
def World.tokens (w : World) : List Token :=
  w.history.filterMap fun
    | .issued token => some token
    | _ => none

/-- How many times the sessions of a user have been revoked. -/
def World.revocations (w : World) (userId : String) : ℕ :=
  w.history.countP fun
    | .revoked other => other = userId
    | _ => false

/-- The revocations there had been when the password for a session was checked. -/
def World.sessionEpoch (w : World) (sessionId : String) : ℕ :=
  (w.history.findSome? fun
    | .opened other _ epoch => if other = sessionId then some epoch else none
    | _ => none).getD 0

/-! ### Calls -/

/-- What the services find around the store: the functions of the libraries, the environment of
the process, and the configured name of the default organization. -/
structure Deployment where
  crypto : Crypto
  env : ProcessEnv
  organizationName : Option String := none

/-- What a step finds: the clock, the id of a new row, and random values. -/
structure Input where
  now : Millis
  newId : String
  newOrganizationId : String := ""
  rawToken : String := ""
  secretBytes : List ℕ := []
  iv : String := ""
  salt : String := ""
  recoveryIds : ℕ → String := fun _ => ""
  recoveryDraws : ℕ → String := fun _ => ""

/-- The `method` of a challenge. -/
inductive ChallengeMethod where
  | totp | recoveryCode
  deriving DecidableEq

/-- The operations that change the role of an account. -/
inductive AccountOperation where
  | acceptInvitation (invitationId : String)
  | acceptInternalInvitation (invitationId : String)
  | updateUser (id : String) (dto : UsersService.UpdateUserDto)

/-- The requests. An actor is the user whose token comes with it. -/
inductive Request where
  | login (dto : LoginDto)
  | firebaseLogin (dto : FirebaseLoginDto)
  | startMfaEnrollment (preAuthToken : String)
  | confirmMfaEnrollment (preAuthToken code : String)
  | completeMfaChallenge (preAuthToken : String) (method : ChallengeMethod) (code : String)
  | completePasswordReset (token password : String)
  | revokeSessions (actorId targetUserId : String) (reason : Option String)
  | account (actorId : String) (operation : AccountOperation)

/-- A call: a request none of whose steps is made, or what is kept between two steps. -/
inductive Call where
  | request (request : Request)
  | createPreAuthSession (user : User) (epoch : ℕ)
  | storeSession (user : User) (purpose : PrivilegedMfaPreAuthPurpose) (epoch : ℕ)
  | storeEnrollment (validated : PreAuthValidation)
  | confirmCode (validated : PreAuthValidation) (code : String)
  | activate (validated : PreAuthValidation) (enrollmentId : String) (step : ℕ)
  | challenge (validated : PreAuthValidation) (method : ChallengeMethod) (code : String)
  | consumeTotp (validated : PreAuthValidation) (enrollmentId : String) (step : ℕ)
  | findRecoveryCode (validated : PreAuthValidation) (enrollmentId codeDigest : String)
  | consumeCode (validated : PreAuthValidation) (enrollmentId : String)
      (backupCode : PrivilegedMfaBackupCode)
  | recordFailure (validated : PreAuthValidation)
  | issue (issuer : Issuer) (user : User) (epoch : ℕ) (recoveryCodes : List String)
  | storePassword (record : PasswordResetToken) (passwordHash : String)
  | storeRevocation (targetUserId : String) (profileData : Json)

/-- What a call answers. -/
inductive Answer where
  | mfaRequired (purpose : PrivilegedMfaPreAuthPurpose) (preAuthToken : String) (expiresAt : Millis)
  | mfaEnrollmentStarted (accountName secret : String)
  | tokens (payload : JwtPayload) (recoveryCodes : List String)
  | recoveryRequired
  | passwordResetCompleted
  | sessionsRevoked
  | accountChanged

/-! ### Steps -/

/-- What a step makes of the world, and of its call. -/
abbrev Step := World × Next Call (Except HttpError Answer)

section Steps

variable (d : Deployment) (input : Input) (w : World)

/-- A step that writes `store`, after which `happening` has happened. -/
def World.write (store : AuthStore) (happening : Happening) : World :=
  ⟨store, happening :: w.history⟩

/-- The first step of `login`. -/
def loginStep (dto : LoginDto) : Step :=
  orThrows w (acceptPassword d.crypto w.store.accounts dto) fun user =>
    if requiresPrivilegedMfa user.role then
      (w, .goesOn (.createPreAuthSession user (w.revocations user.id)))
    else (w, .goesOn (.issue .login user (w.revocations user.id) []))

/-- The first step of `createPreAuthSession`. -/
def createPreAuthSessionStep (user : User) (epoch : ℕ) : Step :=
  if requiresPrivilegedMfa user.role = false then (w, .returns (.error invalidMfa))
  else (w, .goesOn (.storeSession user (preAuthPurpose w.store user.id) epoch))

/-- `privilegedMfaPreAuthSession.create` of `createPreAuthSession`. -/
def storeSessionStep (user : User) (purpose : PrivilegedMfaPreAuthPurpose) (epoch : ℕ) : Step :=
  let row := preAuthSession d.crypto input.now input.newId input.rawToken user.id purpose
  orThrows w (createSession w.store row) fun s =>
    (w.write s (.opened row.id user.id epoch),
      .returns (.ok (.mfaRequired purpose input.rawToken row.expiresAt)))

/-- The transaction of `startEnrollment`. -/
def storeEnrollmentStep (validated : PreAuthValidation) : Step :=
  let secret := base32Encode input.secretBytes
  orThrows w (d.crypto.encrypt input.iv secret) fun encryptedTotpSecret =>
    let row : PrivilegedMfaEnrollment :=
      { id := input.newId
        userId := validated.user.id
        encryptedTotpSecret
        createdAt := input.now }
    orThrows w (createEnrollment input.now w.store row) fun s =>
      (w.write s (.started validated.sessionId validated.user.id row.id),
        .returns (.ok (.mfaEnrollmentStarted (validated.user.email.getD validated.user.id) secret)))

/-- The time step whose code was sent, for an enrollment. -/
def matchEnrollment (enrollment : PrivilegedMfaEnrollment) (code : String) :
    Except HttpError (Option ℕ) := do
  let secret ← d.crypto.decrypt enrollment.encryptedTotpSecret
  matchTotpStep d.crypto.hmacSha1 input.now code secret

/-- The check of the code in `confirmEnrollment`. -/
def confirmCodeStep (validated : PreAuthValidation) (code : String) : Step :=
  match pendingEnrollment w.store validated.user.id with
  | none => (w, .goesOn (.recordFailure validated))
  | some enrollment =>
    orThrows w (matchEnrollment d input enrollment code) fun matched =>
      match matched with
      | none => (w, .goesOn (.recordFailure validated))
      | some step => (w, .goesOn (.activate validated enrollment.id step))

/-- The transaction of `confirmEnrollment`. -/
def activateStep (validated : PreAuthValidation) (enrollmentId : String) (step : ℕ) : Step :=
  let codes := generateRecoveryCodes input.recoveryDraws
  orThrows w (activateEnrollment input.now w.store validated.sessionId validated.user.id
    enrollmentId (backupCodeRows d.crypto input.recoveryIds enrollmentId validated.user.id codes))
    fun s => (w.write s (.activated validated.sessionId validated.user.id enrollmentId step),
      .goesOn (.issue .confirmMfaEnrollment validated.user (w.sessionEpoch validated.sessionId)
        codes))

/-- `completeChallenge` after the session was validated. -/
def challengeStep (validated : PreAuthValidation) (method : ChallengeMethod) (code : String) :
    Step :=
  match activeEnrollment w.store validated.user.id with
  | none => (w, .goesOn (.recordFailure validated))
  | some enrollment =>
    match method with
    | .totp =>
      orThrows w (matchEnrollment d input enrollment code) fun matched =>
        match matched with
        | none => (w, .goesOn (.recordFailure validated))
        | some step =>
          if enrollment.lastVerifiedStep.any (step ≤ ·) then
            (w, .goesOn (.recordFailure validated))
          else (w, .goesOn (.consumeTotp validated enrollment.id step))
    | .recoveryCode =>
      (w, .goesOn
        (.findRecoveryCode validated enrollment.id (digestRecoveryCode d.crypto code)))

/-- The end of a challenge: the login is completed, or the attempt has failed. -/
def challengeEnd (validated : PreAuthValidation) (factor : Factor)
    (result : Except HttpError (AuthStore × Bool)) : Step :=
  orThrows w result fun (s, consumed) =>
    if consumed then
      (w.write s (.challenged validated.sessionId validated.user.id factor),
        .goesOn (.issue .completeMfaChallenge validated.user (w.sessionEpoch validated.sessionId)
          []))
    else (w, .goesOn (.recordFailure validated))

/-- The lookup of `completeRecoveryCodeChallenge`. -/
def findRecoveryCodeStep (validated : PreAuthValidation) (enrollmentId codeDigest : String) :
    Step :=
  match w.store.backupCodes.rows.find? fun row => row.codeDigest = codeDigest with
  | some backupCode =>
    if backupCode.userId ≠ validated.user.id ∨ backupCode.enrollmentId ≠ enrollmentId ∨
        backupCode.usedAt ≠ none then
      (w, .goesOn (.recordFailure validated))
    else (w, .goesOn (.consumeCode validated enrollmentId backupCode))
  | none => (w, .goesOn (.recordFailure validated))

/-- The store after an operation on accounts, and what it throws. -/
def performAccount (actor : User) : AccountOperation → Reply PUnit
  | .acceptInvitation invitationId =>
      UsersService.acceptInvitation input.now w.store.accounts actor invitationId
  | .acceptInternalInvitation invitationId =>
      let server : Server := { env := d.env, now := input.now, newId := input.newId }
      let reply := InternalAdminService.acceptInvitation server w.store.accounts actor invitationId
      ⟨reply.store, reply.answer.map fun _ => ⟨⟩⟩
  | .updateUser id dto =>
      commit w.store.accounts do
        let data ← UsersService.updateUserInput w.store.accounts actor id dto
        let accounts ← UsersService.writeUserUpdate w.store.accounts id data
        return (accounts, ⟨⟩)

/-- The step of a request whose actor has to be found first. -/
def withActor (actorId : String) (go : User → Step) : Step :=
  match validate w.store.accounts actorId with
  | none => (w, .returns (.error { kind := .unauthorized, message := "Unauthorized" }))
  | some actor => go actor

/-- The world with other accounts. -/
def World.setAccounts (accounts : Store) : World := { w with store := w.store.setAccounts accounts }

/-- The first step of a request. -/
def requestStep : Request → Step
  | .login dto => loginStep d w dto
  | .firebaseLogin dto =>
      let reply := firebaseLogin input.now (defaultOrganizationName d.organizationName)
        input.newOrganizationId input.newId w.store.accounts dto
      orThrows (w.setAccounts reply.store) reply.answer fun citizen =>
        match citizen with
        | some user => (w.setAccounts reply.store,
            .goesOn (.issue .firebaseLogin user (w.revocations user.id) []))
        | none => (w.setAccounts reply.store, .returns (.ok .recoveryRequired))
  | .startMfaEnrollment preAuthToken =>
      orThrows w (validatePreAuth d.crypto input.now w.store preAuthToken .enrollment)
        fun validated => (w, .goesOn (.storeEnrollment validated))
  | .confirmMfaEnrollment preAuthToken code =>
      orThrows w (validatePreAuth d.crypto input.now w.store preAuthToken .enrollment)
        fun validated => (w, .goesOn (.confirmCode validated code))
  | .completeMfaChallenge preAuthToken method code =>
      orThrows w (validatePreAuth d.crypto input.now w.store preAuthToken .challenge)
        fun validated => (w, .goesOn (.challenge validated method code))
  | .completePasswordReset token password =>
      orThrows w (resettablePassword d.crypto input.now w.store token password)
        fun record => (w, .goesOn (.storePassword record
          (d.crypto.bcryptHash input.salt (trim password))))
  | .revokeSessions actorId targetUserId reason =>
      withActor w actorId fun actor =>
        orThrows w (InternalAdminService.revokedProfile d.env input.now w.store.accounts actor
          targetUserId reason)
          fun profileData => (w, .goesOn (.storeRevocation targetUserId profileData))
  | .account actorId operation =>
      withActor w actorId fun actor =>
        let reply := performAccount d input w actor operation
        (w.setAccounts reply.store, .returns (reply.answer.map fun _ => .accountChanged))

/-- The next step of a call. -/
def advance : Call → Step
  | .request request => requestStep d input w request
  | .createPreAuthSession user epoch => createPreAuthSessionStep w user epoch
  | .storeSession user purpose epoch => storeSessionStep d input w user purpose epoch
  | .storeEnrollment validated => storeEnrollmentStep d input w validated
  | .confirmCode validated code => confirmCodeStep d input w validated code
  | .activate validated enrollmentId step => activateStep d input w validated enrollmentId step
  | .challenge validated method code => challengeStep d input w validated method code
  | .consumeTotp validated enrollmentId step =>
      challengeEnd w validated (.totp enrollmentId step)
        (consumeTotpStep input.now w.store validated.sessionId enrollmentId step)
  | .findRecoveryCode validated enrollmentId codeDigest =>
      findRecoveryCodeStep w validated enrollmentId codeDigest
  | .consumeCode validated enrollmentId backupCode =>
      challengeEnd w validated (.recoveryCode enrollmentId backupCode.id)
        (consumeRecoveryCode input.now w.store validated.sessionId validated.user.id enrollmentId
          backupCode)
  | .recordFailure validated =>
      (⟨recordFailedAttempt input.now w.store validated.sessionId validated.failedAttempts,
        w.history⟩, .returns (.error invalidMfa))
  | .issue issuer user epoch recoveryCodes =>
      (w.write w.store (.issued ⟨issueTokens user, issuer, epoch⟩),
        .returns (.ok (.tokens (issueTokens user) recoveryCodes)))
  | .storePassword record passwordHash =>
      orThrows w (writePassword input.now w.store record passwordHash) fun s =>
        (w.write s (.revoked record.userId), .returns (.ok .passwordResetCompleted))
  | .storeRevocation targetUserId profileData =>
      orThrows w (InternalAdminService.writeSessionsRevoked w.store.accounts targetUserId
        profileData) fun accounts =>
        (w.write (w.store.setAccounts accounts) (.revoked targetUserId),
          .returns (.ok .sessionsRevoked))

end Steps

/-- The interleavings of these calls. -/
def protocol (d : Deployment) : Protocol World Request Call Input (Except HttpError Answer) where
  init := .request
  advance input call w := advance d input w call

/-- The accounts and reset tokens `accounts` and `resetTokens`, before anybody has logged in. -/
def World.start (accounts : Store) (resetTokens : Table PasswordResetToken.id) : World where
  store := ⟨accounts, Table.empty _, Table.empty _, Table.empty _, resetTokens⟩
  history := []

end FixZone.AuthService
