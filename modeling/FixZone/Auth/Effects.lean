import FixZone.Auth.Calls

/-!
# What a step of an authentication does

A login is completed by one of three transactions, and `completion` says which login a
step is about to complete. What such a step writes is said in `advance_of_completion`, and
what any other step can write, with what it checked for it, in `advance_effect`; what a
call can go on with is said in `advance_goes`. The invariants of runs are read off these.
-/

namespace FixZone.AuthService

open Library Accounts PrivilegedMfaService
open ReportService (HttpError)

variable (d : Deployment) (input : Input) (w : World)

/-- The recovery codes a confirmed enrollment gets. -/
def newCodes (userId enrollmentId : String) : List PrivilegedMfaBackupCode :=
  backupCodeRows d.crypto input.recoveryIds enrollmentId userId
    (generateRecoveryCodes input.recoveryDraws)

/-- The login that a step completes, if it is the transaction of one and it goes through. -/
def completion : Call → Option Happening
  | .activate validated enrollmentId step =>
      if (w.store.enrollments.find? enrollmentId).isSome ∧
          codesAreNew (w.store.backupCodes.deleteWhere fun row => row.userId = validated.user.id)
            (newCodes d input validated.user.id enrollmentId) ∧
          (w.store.sessions.find? validated.sessionId).isSome then
        some (.activated validated.sessionId validated.user.id enrollmentId step)
      else none
  | .consumeTotp validated enrollmentId step =>
      if stepIsNew w.store enrollmentId step ∧
          (w.store.sessions.find? validated.sessionId).isSome then
        some (.challenged validated.sessionId validated.user.id (.totp enrollmentId step))
      else none
  | .consumeCode validated enrollmentId backupCode =>
      if codeIsUnused w.store validated.user.id enrollmentId backupCode ∧
          (w.store.sessions.find? validated.sessionId).isSome then
        some (.challenged validated.sessionId validated.user.id
          (.recoveryCode enrollmentId backupCode.id))
      else none
  | _ => none

/-- The store after a login is completed. -/
def completedStore : Call → AuthStore
  | .activate validated enrollmentId _ =>
      (activatedStore input.now w.store validated.user.id enrollmentId
        (newCodes d input validated.user.id enrollmentId)).updateSession validated.sessionId
          (consumedData input.now)
  | .consumeTotp validated enrollmentId step =>
      (w.store.updateEnrollment enrollmentId (verifiedData step)).updateSession
        validated.sessionId (consumedData input.now)
  | .consumeCode validated _ backupCode =>
      ({ w.store with
        backupCodes := w.store.backupCodes.modify backupCode.id (usedData input.now)
          }).updateSession validated.sessionId (consumedData input.now)
  | _ => w.store

/-- The logins a step can complete, with what its transaction found. -/
inductive Completes : Call → Happening → Prop where
  | activated (validated : PreAuthValidation) (enrollmentId : String) (step : ℕ)
      (found : (w.store.enrollments.find? enrollmentId).isSome)
      (session : (w.store.sessions.find? validated.sessionId).isSome) :
      Completes (.activate validated enrollmentId step)
        (.activated validated.sessionId validated.user.id enrollmentId step)
  | totp (validated : PreAuthValidation) (enrollmentId : String) (step : ℕ)
      (new : stepIsNew w.store enrollmentId step)
      (session : (w.store.sessions.find? validated.sessionId).isSome) :
      Completes (.consumeTotp validated enrollmentId step)
        (.challenged validated.sessionId validated.user.id (.totp enrollmentId step))
  | recoveryCode (validated : PreAuthValidation) (enrollmentId : String)
      (backupCode : PrivilegedMfaBackupCode)
      (unused : codeIsUnused w.store validated.user.id enrollmentId backupCode)
      (session : (w.store.sessions.find? validated.sessionId).isSome) :
      Completes (.consumeCode validated enrollmentId backupCode)
        (.challenged validated.sessionId validated.user.id
          (.recoveryCode enrollmentId backupCode.id))

/-- What a request writes to the accounts. -/
inductive AccountsEffect : Request → Store → Prop where
  | citizen (dto : FirebaseLoginDto) :
      AccountsEffect (.firebaseLogin dto)
        (firebaseLogin input.now (defaultOrganizationName d.organizationName)
          input.newOrganizationId input.newId w.store.accounts dto).store
  | account (actorId : String) (operation : AccountOperation) (actor : User)
      (found : validate w.store.accounts actorId = some actor) :
      AccountsEffect (.account actorId operation) (performAccount d input w actor operation).store

/-- Everything a step can do to the world that completes no login. -/
inductive Effect : Call → World → Prop where
  | reads (call : Call) : Effect call w
  | accounts (request : Request) (accounts : Store)
      (effect : AccountsEffect d input w request accounts) :
      Effect (.request request) (w.setAccounts accounts)
  | opened (user : User) (purpose : PrivilegedMfaPreAuthPurpose) (epoch : ℕ)
      (free : w.store.sessions.find? input.newId = none) :
      Effect (.storeSession user purpose epoch)
        (w.write (w.store.insertSession
          (preAuthSession d.crypto input.now input.newId input.rawToken user.id purpose))
          (.opened input.newId user.id epoch))
  | failed (validated : PreAuthValidation) :
      Effect (.recordFailure validated)
        ⟨recordFailedAttempt input.now w.store validated.sessionId validated.failedAttempts,
          w.history⟩
  | started (validated : PreAuthValidation) (row : PrivilegedMfaEnrollment)
      (id : row.id = input.newId) (user : row.userId = validated.user.id)
      (pending : row.status = .pending) (unverified : row.lastVerifiedStep = none)
      (free : w.store.enrollments.find? row.id = none) :
      Effect (.storeEnrollment validated)
        (w.write (startedStore input.now w.store row)
          (.started validated.sessionId validated.user.id row.id))
  | issued (issuer : Issuer) (user : User) (epoch : ℕ) (recoveryCodes : List String) :
      Effect (.issue issuer user epoch recoveryCodes)
        (w.write w.store (.issued ⟨issueTokens user, issuer, epoch⟩))
  | password (record : PasswordResetToken) (passwordHash : String)
      (found : (w.store.accounts.user? record.userId).isSome) :
      Effect (.storePassword record passwordHash)
        (w.write (passwordStore input.now w.store record passwordHash) (.revoked record.userId))
  | revocation (targetUserId : String) (profileData : Json)
      (found : (w.store.accounts.user? targetUserId).isSome) :
      Effect (.storeRevocation targetUserId profileData)
        (w.write (w.store.setAccounts (w.store.accounts.updateUser targetUserId
          (InternalAdminService.sessionsRevokedData profileData))) (.revoked targetUserId))

variable {d input w}

/-- A step that throws writes nothing. -/
theorem orThrows_effect {α : Type} {call : Call} {result : Except HttpError α} {go : α → Step}
    (h : ∀ a, result = .ok a → Effect d input w call (go a).1) :
    Effect d input w call (orThrows w result go).1 := by
  cases result with
  | error e => exact .reads call
  | ok a => exact h a rfl

theorem challengeEnd_effect {call : Call} {validated : PreAuthValidation} {factor : Factor}
    {result : Except HttpError (AuthStore × Bool)} (h : ∀ s, result ≠ .ok (s, true)) :
    Effect d input w call (challengeEnd w validated factor result).1 := by
  refine orThrows_effect fun (s, consumed) hs => ?_
  cases consumed with
  | false => exact .reads call
  | true => exact absurd hs (h s)

theorem activateStep_effect {validated : PreAuthValidation} {enrollmentId : String} {step : ℕ}
    (h : completion d input w (.activate validated enrollmentId step) = none) :
    Effect d input w (.activate validated enrollmentId step)
      (activateStep d input w validated enrollmentId step).1 := by
  refine orThrows_effect fun s hs => ?_
  obtain ⟨hfound, hnew, hsession, -⟩ := activateEnrollment_eq_ok.mp hs
  rw [completion, if_pos ⟨hfound, hnew, hsession⟩] at h
  cases h

theorem storeSessionStep_effect (user : User) (purpose : PrivilegedMfaPreAuthPurpose) (epoch : ℕ) :
    Effect d input w (.storeSession user purpose epoch)
      (storeSessionStep d input w user purpose epoch).1 := by
  refine orThrows_effect fun s hs => ?_
  obtain ⟨hfree, rfl⟩ := createSession_eq_ok hs
  exact .opened user purpose epoch hfree

theorem storeEnrollmentStep_effect (validated : PreAuthValidation) :
    Effect d input w (.storeEnrollment validated)
      (storeEnrollmentStep d input w validated).1 := by
  refine orThrows_effect fun encryptedTotpSecret _ => ?_
  refine orThrows_effect fun s hs => ?_
  obtain ⟨hfree, rfl⟩ := createEnrollment_eq_ok.mp hs
  exact .started validated _ rfl rfl rfl rfl hfree

theorem storePassword_effect (record : PasswordResetToken) (passwordHash : String) :
    Effect d input w (.storePassword record passwordHash)
      (advance d input w (.storePassword record passwordHash)).1 := by
  refine orThrows_effect fun s hs => ?_
  unfold writePassword at hs
  obtain ⟨hfound, hs⟩ := throwIf_bind_eq_ok.mp hs
  rw [not_or, Bool.not_eq_true, Bool.not_eq_true, Option.isNone_eq_false_iff,
    Option.isNone_eq_false_iff] at hfound
  obtain rfl := pure_eq_ok.mp hs
  exact .password record passwordHash hfound.2

theorem storeRevocation_effect (targetUserId : String) (profileData : Json) :
    Effect d input w (.storeRevocation targetUserId profileData)
      (advance d input w (.storeRevocation targetUserId profileData)).1 := by
  refine orThrows_effect fun s hs => ?_
  unfold InternalAdminService.writeSessionsRevoked at hs
  obtain ⟨hfound, hs⟩ := throwIf_bind_eq_ok.mp hs
  rw [Bool.not_eq_true, Option.isNone_eq_false_iff] at hfound
  obtain rfl := pure_eq_ok.mp hs
  exact .revocation targetUserId profileData hfound

/-- Where the actor is not found, nothing is written. -/
theorem withActor_effect {call : Call} {actorId : String} {go : User → Step}
    (h : ∀ actor, validate w.store.accounts actorId = some actor →
      Effect d input w call (go actor).1) :
    Effect d input w call (withActor w actorId go).1 := by
  unfold withActor
  split
  · exact .reads call
  · next actor hactor => exact h actor hactor

theorem requestStep_effect (request : Request) :
    Effect d input w (.request request) (requestStep d input w request).1 := by
  cases request with
  | login dto =>
    refine orThrows_effect fun user _ => ?_
    split <;> exact .reads _
  | firebaseLogin dto =>
    have hw : (requestStep d input w (.firebaseLogin dto)).1 = w.setAccounts
        (firebaseLogin input.now (defaultOrganizationName d.organizationName)
          input.newOrganizationId input.newId w.store.accounts dto).store := by
      unfold requestStep orThrows
      dsimp only
      split
      · rfl
      · split <;> rfl
    rw [hw]
    exact .accounts _ _ (.citizen dto)
  | startMfaEnrollment preAuthToken => exact orThrows_effect fun _ _ => .reads _
  | confirmMfaEnrollment preAuthToken code => exact orThrows_effect fun _ _ => .reads _
  | completeMfaChallenge preAuthToken method code => exact orThrows_effect fun _ _ => .reads _
  | completePasswordReset token password =>
    rw [requestStep]
    exact orThrows_effect fun _ _ => .reads _
  | revokeSessions actorId targetUserId reason =>
    exact withActor_effect fun _ _ => orThrows_effect fun _ _ => .reads _
  | account actorId operation =>
    exact withActor_effect fun actor hactor =>
      .accounts _ _ (.account actorId operation actor hactor)

theorem confirmCodeStep_effect (validated : PreAuthValidation) (code : String) :
    Effect d input w (.confirmCode validated code)
      (confirmCodeStep d input w validated code).1 := by
  unfold confirmCodeStep
  split
  · exact .reads _
  · refine orThrows_effect fun matched _ => ?_
    cases matched <;> exact .reads _

theorem challengeStep_effect (validated : PreAuthValidation) (method : ChallengeMethod)
    (code : String) : Effect d input w (.challenge validated method code)
      (challengeStep d input w validated method code).1 := by
  unfold challengeStep
  split
  · exact .reads _
  · cases method with
    | totp =>
      refine orThrows_effect fun matched _ => ?_
      cases matched with
      | none => exact .reads _
      | some step =>
        dsimp only
        split <;> exact .reads _
    | recoveryCode => exact .reads _

theorem findRecoveryCodeStep_effect (validated : PreAuthValidation)
    (enrollmentId codeDigest : String) :
    Effect d input w (.findRecoveryCode validated enrollmentId codeDigest)
      (findRecoveryCodeStep w validated enrollmentId codeDigest).1 := by
  unfold findRecoveryCodeStep
  split
  · split <;> exact .reads _
  · exact .reads _

/-- Every step that completes no login has one of the effects. -/
theorem advance_effect {call : Call} (h : completion d input w call = none) :
    Effect d input w call (advance d input w call).1 := by
  cases call with
  | request request => exact requestStep_effect request
  | createPreAuthSession user epoch =>
    unfold advance createPreAuthSessionStep
    dsimp only
    split <;> exact .reads _
  | storeSession user purpose epoch => exact storeSessionStep_effect user purpose epoch
  | storeEnrollment validated => exact storeEnrollmentStep_effect validated
  | confirmCode validated code => exact confirmCodeStep_effect validated code
  | activate validated enrollmentId step => exact activateStep_effect h
  | challenge validated method code => exact challengeStep_effect validated method code
  | consumeTotp validated enrollmentId step =>
    refine challengeEnd_effect fun s hs => ?_
    obtain ⟨hnew, hdone⟩ := consumeTotpStep_eq_ok hs
    rw [completion, if_pos ⟨hnew.symm, (hdone rfl).1⟩] at h
    cases h
  | findRecoveryCode validated enrollmentId codeDigest =>
    exact findRecoveryCodeStep_effect validated enrollmentId codeDigest
  | consumeCode validated enrollmentId backupCode =>
    refine challengeEnd_effect fun s hs => ?_
    obtain ⟨hunused, hdone⟩ := consumeRecoveryCode_eq_ok hs
    rw [completion, if_pos ⟨hunused.symm, (hdone rfl).1⟩] at h
    cases h
  | recordFailure validated => exact .failed validated
  | issue issuer user epoch recoveryCodes => exact .issued issuer user epoch recoveryCodes
  | storePassword record passwordHash => exact storePassword_effect record passwordHash
  | storeRevocation targetUserId profileData =>
    exact storeRevocation_effect targetUserId profileData

theorem completes_of_completion {call : Call} {happening : Happening}
    (h : completion d input w call = some happening) : Completes w call happening := by
  unfold completion at h
  split at h
  · obtain ⟨⟨hfound, -, hsession⟩, h⟩ := Option.ite_none_right_eq_some.mp h
    rw [← Option.some.inj h]
    exact .activated _ _ _ hfound hsession
  · obtain ⟨⟨hnew, hsession⟩, h⟩ := Option.ite_none_right_eq_some.mp h
    rw [← Option.some.inj h]
    exact .totp _ _ _ hnew hsession
  · obtain ⟨⟨hunused, hsession⟩, h⟩ := Option.ite_none_right_eq_some.mp h
    rw [← Option.some.inj h]
    exact .recoveryCode _ _ _ hunused hsession
  · cases h

/-- The transaction of a login that goes through writes what completes it. -/
theorem advance_of_completion {call : Call} {happening : Happening}
    (h : completion d input w call = some happening) :
    (advance d input w call).1 = w.write (completedStore d input w call) happening := by
  unfold completion at h
  split at h
  · next validated enrollmentId step =>
    rw [Option.ite_none_right_eq_some] at h
    obtain ⟨⟨hfound, hnew, hsession⟩, h⟩ := h
    rw [← Option.some.inj h]
    have hok : activateEnrollment input.now w.store validated.sessionId validated.user.id
        enrollmentId (newCodes d input validated.user.id enrollmentId) = .ok _ :=
      activateEnrollment_eq_ok.mpr ⟨hfound, hnew, hsession, rfl⟩
    unfold newCodes at hok
    unfold advance activateStep
    dsimp only
    rw [hok]
    rfl
  · next validated enrollmentId step =>
    rw [Option.ite_none_right_eq_some] at h
    obtain ⟨⟨hnew, hsession⟩, h⟩ := h
    rw [← Option.some.inj h]
    have hok : consumeSession input.now (w.store.updateEnrollment enrollmentId (verifiedData step))
        validated.sessionId = .ok _ := consumeSession_eq_ok.mpr ⟨hsession, rfl⟩
    unfold advance consumeTotpStep
    dsimp only
    rw [if_pos hnew, hok]
    rfl
  · next validated enrollmentId backupCode =>
    rw [Option.ite_none_right_eq_some] at h
    obtain ⟨⟨hunused, hsession⟩, h⟩ := h
    rw [← Option.some.inj h]
    have hok : consumeSession input.now { w.store with
        backupCodes := w.store.backupCodes.modify backupCode.id (usedData input.now) }
        validated.sessionId = .ok _ := consumeSession_eq_ok.mpr ⟨hsession, rfl⟩
    unfold advance consumeRecoveryCode
    dsimp only
    rw [if_pos hunused, hok]
    rfl
  · cases h

/-! ### What a call goes on with -/

variable (d input w)

/-- Everything a call can go on with, and what its step found. -/
inductive Goes : Call → Call → Prop where
  | createPreAuthSession (dto : LoginDto) (user : User)
      (accepted : acceptPassword d.crypto w.store.accounts dto = .ok user) :
      Goes (.request (.login dto)) (.createPreAuthSession user (w.revocations user.id))
  | login (dto : LoginDto) (user : User)
      (accepted : acceptPassword d.crypto w.store.accounts dto = .ok user) :
      Goes (.request (.login dto)) (.issue .login user (w.revocations user.id) [])
  | firebaseLogin (dto : FirebaseLoginDto) (user : User)
      (answer : (firebaseLogin input.now (defaultOrganizationName d.organizationName)
        input.newOrganizationId input.newId w.store.accounts dto).answer = .ok (some user)) :
      Goes (.request (.firebaseLogin dto)) (.issue .firebaseLogin user (w.revocations user.id) [])
  | startMfaEnrollment (preAuthToken : String) (validated : PreAuthValidation)
      (valid : validatePreAuth d.crypto input.now w.store preAuthToken .enrollment =
        .ok validated) :
      Goes (.request (.startMfaEnrollment preAuthToken)) (.storeEnrollment validated)
  | confirmMfaEnrollment (preAuthToken code : String) (validated : PreAuthValidation)
      (valid : validatePreAuth d.crypto input.now w.store preAuthToken .enrollment =
        .ok validated) :
      Goes (.request (.confirmMfaEnrollment preAuthToken code)) (.confirmCode validated code)
  | completeMfaChallenge (preAuthToken : String) (method : ChallengeMethod) (code : String)
      (validated : PreAuthValidation)
      (valid : validatePreAuth d.crypto input.now w.store preAuthToken .challenge =
        .ok validated) :
      Goes (.request (.completeMfaChallenge preAuthToken method code))
        (.challenge validated method code)
  | completePasswordReset (token password : String) (record : PasswordResetToken)
      (resettable : resettablePassword d.crypto input.now w.store token password = .ok record) :
      Goes (.request (.completePasswordReset token password)) (.storePassword record
        (d.crypto.bcryptHash input.salt (trim password)))
  | revokeSessions (actorId targetUserId : String) (reason : Option String) (actor : User)
      (profileData : Json)
      (revocable : InternalAdminService.revokedProfile d.env input.now w.store.accounts actor
        targetUserId reason = .ok profileData) :
      Goes (.request (.revokeSessions actorId targetUserId reason))
        (.storeRevocation targetUserId profileData)
  | storeSession (user : User) (epoch : ℕ) :
      Goes (.createPreAuthSession user epoch)
        (.storeSession user (preAuthPurpose w.store user.id) epoch)
  | activate (validated : PreAuthValidation) (code : String)
      (enrollment : PrivilegedMfaEnrollment) (step : ℕ)
      (pending : pendingEnrollment w.store validated.user.id = some enrollment) :
      Goes (.confirmCode validated code) (.activate validated enrollment.id step)
  | consumeTotp (validated : PreAuthValidation) (code : String)
      (enrollment : PrivilegedMfaEnrollment) (step : ℕ)
      (active : activeEnrollment w.store validated.user.id = some enrollment) :
      Goes (.challenge validated .totp code) (.consumeTotp validated enrollment.id step)
  | findRecoveryCode (validated : PreAuthValidation) (code : String)
      (enrollment : PrivilegedMfaEnrollment)
      (active : activeEnrollment w.store validated.user.id = some enrollment) :
      Goes (.challenge validated .recoveryCode code)
        (.findRecoveryCode validated enrollment.id (digestRecoveryCode d.crypto code))
  | consumeCode (validated : PreAuthValidation) (enrollmentId codeDigest : String)
      (backupCode : PrivilegedMfaBackupCode) :
      Goes (.findRecoveryCode validated enrollmentId codeDigest)
        (.consumeCode validated enrollmentId backupCode)
  | recordFailure (call : Call) (validated : PreAuthValidation) :
      Goes call (.recordFailure validated)
  | confirmed (validated : PreAuthValidation) (enrollmentId : String) (step : ℕ)
      (codes : List String) :
      Goes (.activate validated enrollmentId step)
        (.issue .confirmMfaEnrollment validated.user (w.sessionEpoch validated.sessionId) codes)
  | challengedTotp (validated : PreAuthValidation) (enrollmentId : String) (step : ℕ) :
      Goes (.consumeTotp validated enrollmentId step)
        (.issue .completeMfaChallenge validated.user (w.sessionEpoch validated.sessionId) [])
  | challengedCode (validated : PreAuthValidation) (enrollmentId : String)
      (backupCode : PrivilegedMfaBackupCode) :
      Goes (.consumeCode validated enrollmentId backupCode)
        (.issue .completeMfaChallenge validated.user (w.sessionEpoch validated.sessionId) [])

variable {d input w}
variable {call call' : Call}

theorem orThrows_goes {α : Type} {v : World} {result : Except HttpError α} {go : α → Step}
    (h : ∀ a, result = .ok a → (go a).2 = .goesOn call' → Goes d input w call call')
    (hgoes : (orThrows v result go).2 = .goesOn call') : Goes d input w call call' := by
  cases result with
  | error e => cases hgoes
  | ok a => exact h a rfl hgoes

theorem withActor_goes {actorId : String} {go : User → Step}
    (h : ∀ actor, (go actor).2 = .goesOn call' → Goes d input w call call')
    (hgoes : (withActor w actorId go).2 = .goesOn call') : Goes d input w call call' := by
  unfold withActor at hgoes
  split at hgoes
  · cases hgoes
  · next actor _ => exact h actor hgoes

theorem requestStep_goes {request : Request}
    (hgoes : (requestStep d input w request).2 = .goesOn call') :
    Goes d input w (.request request) call' := by
  cases request with
  | login dto =>
    refine orThrows_goes (fun user haccepted hgoes => ?_) hgoes
    split at hgoes
    · cases hgoes
      exact .createPreAuthSession dto user haccepted
    · cases hgoes
      exact .login dto user haccepted
  | firebaseLogin dto =>
    refine orThrows_goes (fun citizen hanswer hgoes => ?_) hgoes
    cases citizen with
    | none => cases hgoes
    | some user =>
      cases hgoes
      exact .firebaseLogin dto user hanswer
  | startMfaEnrollment preAuthToken =>
    refine orThrows_goes (fun validated hvalid hgoes => ?_) hgoes
    cases hgoes
    exact .startMfaEnrollment preAuthToken validated hvalid
  | confirmMfaEnrollment preAuthToken code =>
    refine orThrows_goes (fun validated hvalid hgoes => ?_) hgoes
    cases hgoes
    exact .confirmMfaEnrollment preAuthToken code validated hvalid
  | completeMfaChallenge preAuthToken method code =>
    refine orThrows_goes (fun validated hvalid hgoes => ?_) hgoes
    cases hgoes
    exact .completeMfaChallenge preAuthToken method code validated hvalid
  | completePasswordReset token password =>
    rw [requestStep] at hgoes
    refine orThrows_goes (fun record hrecord hgoes => ?_) hgoes
    cases hgoes
    exact .completePasswordReset token password record hrecord
  | revokeSessions actorId targetUserId reason =>
    refine withActor_goes (fun actor hgoes => ?_) hgoes
    refine orThrows_goes (fun profileData hprofile hgoes => ?_) hgoes
    cases hgoes
    exact .revokeSessions actorId targetUserId reason actor profileData hprofile
  | account actorId operation =>
    exact withActor_goes (fun actor hgoes => by cases hgoes) hgoes

theorem confirmCodeStep_goes {validated : PreAuthValidation} {code : String}
    (hgoes : (confirmCodeStep d input w validated code).2 = .goesOn call') :
    Goes d input w (.confirmCode validated code) call' := by
  unfold confirmCodeStep at hgoes
  split at hgoes
  · cases hgoes
    exact .recordFailure _ validated
  · next enrollment hpending =>
    refine orThrows_goes (fun matched _ hgoes => ?_) hgoes
    cases matched with
    | none =>
      cases hgoes
      exact .recordFailure _ validated
    | some step =>
      cases hgoes
      exact .activate validated code enrollment step hpending

theorem challengeStep_goes {validated : PreAuthValidation} {method : ChallengeMethod}
    {code : String} (hgoes : (challengeStep d input w validated method code).2 = .goesOn call') :
    Goes d input w (.challenge validated method code) call' := by
  unfold challengeStep at hgoes
  split at hgoes
  · cases hgoes
    exact .recordFailure _ validated
  · next enrollment hactive =>
    cases method with
    | totp =>
      refine orThrows_goes (fun matched _ hgoes => ?_) hgoes
      cases matched with
      | none =>
        cases hgoes
        exact .recordFailure _ validated
      | some step =>
        dsimp only at hgoes
        split at hgoes
        · cases hgoes
          exact .recordFailure _ validated
        · cases hgoes
          exact .consumeTotp validated code enrollment step hactive
    | recoveryCode =>
      cases hgoes
      exact .findRecoveryCode validated code enrollment hactive

theorem findRecoveryCodeStep_goes {validated : PreAuthValidation}
    {enrollmentId codeDigest : String}
    (hgoes : (findRecoveryCodeStep w validated enrollmentId codeDigest).2 = .goesOn call') :
    Goes d input w (.findRecoveryCode validated enrollmentId codeDigest) call' := by
  unfold findRecoveryCodeStep at hgoes
  split at hgoes
  · split at hgoes
    · cases hgoes
      exact .recordFailure _ validated
    · cases hgoes
      exact .consumeCode validated enrollmentId codeDigest _
  · cases hgoes
    exact .recordFailure _ validated

/-- A challenge ends with tokens to issue or with an attempt that failed. -/
theorem challengeEnd_goes {validated : PreAuthValidation} {factor : Factor}
    {result : Except HttpError (AuthStore × Bool)}
    (h : Goes d input w call (.issue .completeMfaChallenge validated.user
      (w.sessionEpoch validated.sessionId) []))
    (hgoes : (challengeEnd w validated factor result).2 = .goesOn call') :
    Goes d input w call call' := by
  refine orThrows_goes (fun (s, consumed) _ hgoes => ?_) hgoes
  cases consumed with
  | false =>
    cases hgoes
    exact .recordFailure _ validated
  | true =>
    cases hgoes
    exact h

/-- Every call goes on with one of these. -/
theorem advance_goes (hgoes : (advance d input w call).2 = .goesOn call') :
    Goes d input w call call' := by
  cases call with
  | request request => exact requestStep_goes hgoes
  | createPreAuthSession user epoch =>
    unfold advance createPreAuthSessionStep at hgoes
    dsimp only at hgoes
    split at hgoes
    · cases hgoes
    · cases hgoes
      exact .storeSession user epoch
  | storeSession user purpose epoch =>
    exact orThrows_goes (fun _ _ hgoes => by cases hgoes) hgoes
  | storeEnrollment validated =>
    refine orThrows_goes (fun _ _ hgoes => ?_) hgoes
    exact orThrows_goes (fun _ _ hgoes => by cases hgoes) hgoes
  | confirmCode validated code => exact confirmCodeStep_goes hgoes
  | activate validated enrollmentId step =>
    refine orThrows_goes (fun _ _ hgoes => ?_) hgoes
    cases hgoes
    exact .confirmed validated enrollmentId step _
  | challenge validated method code => exact challengeStep_goes hgoes
  | consumeTotp validated enrollmentId step =>
    exact challengeEnd_goes (.challengedTotp validated enrollmentId step) hgoes
  | findRecoveryCode validated enrollmentId codeDigest => exact findRecoveryCodeStep_goes hgoes
  | consumeCode validated enrollmentId backupCode =>
    exact challengeEnd_goes (.challengedCode validated enrollmentId backupCode) hgoes
  | recordFailure validated => cases hgoes
  | issue issuer user epoch recoveryCodes => cases hgoes
  | storePassword record passwordHash =>
    exact orThrows_goes (fun _ _ hgoes => by cases hgoes) hgoes
  | storeRevocation targetUserId profileData =>
    exact orThrows_goes (fun _ _ hgoes => by cases hgoes) hgoes

end FixZone.AuthService
