import FixZone.Auth.Mfa

/-!
# Tokens and the ways to get one

`AuthService` and `JwtStrategy`: a token carries the version of its user at the time it
was issued, and is accepted as long as the user is active and the version is the current
one. The role of the request is read when the token is used. A password gives a token, or,
where the role requires a second factor, a session in which to give it; a citizen who is
known to Firebase gets a token without either; and a password reset advances the version.

As in the module on the second factor, methods are given in the pieces their database steps
make. A version is a natural number: its column begins at 0 and is only ever incremented,
which is what `issueTokens` and `isCurrentTokenVersion` ask of it first. The signature and
the expiry of a token are checked before `JwtStrategy`, so a token here is one that was
issued and is presented in time. Left out are the login history, the audit log and the trust
columns of a user.
-/

namespace FixZone.AuthService

open Library Accounts PrivilegedMfaService
open ReportService (HttpError badRequest)

/-! ### Tokens -/

/-- The payload of `issueTokens`. -/
structure JwtPayload where
  sub : String
  email : Option String := none
  phone : Option String := none
  fullName : String := ""
  role : UserRole
  organizationId : Option String := none
  providerId : Option String := none
  accountStatus : AccountStatus := .active
  tokenVersion : ℕ
  phoneVerifiedAt : Option Millis := none
  emailVerifiedAt : Option Millis := none

/-- `issueTokens`. -/
def issueTokens (user : User) : JwtPayload where
  sub := user.id
  email := user.email
  phone := user.phone
  fullName := user.fullName
  role := user.role
  organizationId := user.organizationId
  providerId := user.providerId
  accountStatus := user.accountStatus
  tokenVersion := user.tokenVersion
  phoneVerifiedAt := user.phoneVerifiedAt
  emailVerifiedAt := user.emailVerifiedAt

/-- `isCurrentTokenVersion`. -/
def isCurrentTokenVersion (claimVersion storedVersion : ℕ) : Bool := claimVersion = storedVersion

/-- `JwtStrategy.validate`: the user of the request. -/
def jwtValidate (s : Store) (payload : JwtPayload) : Except HttpError User := do
  let user ← orThrow (s.user? payload.sub) { kind := .unauthorized, message := "Unauthorized" }
  throwIf (user.accountStatus ≠ .active ∨
      isCurrentTokenVersion payload.tokenVersion user.tokenVersion = false)
    { kind := .unauthorized, message := "Unauthorized" }
  return user

theorem jwtValidate_eq_ok {s : Store} {payload : JwtPayload} {user : User} :
    jwtValidate s payload = .ok user ↔ s.user? payload.sub = some user ∧
      user.accountStatus = .active ∧ user.tokenVersion = payload.tokenVersion := by
  unfold jwtValidate
  constructor
  · intro h
    obtain ⟨row, hrow, h⟩ := orThrow_bind_eq_ok.mp h
    obtain ⟨hchecks, h⟩ := throwIf_bind_eq_ok.mp h
    obtain rfl := pure_eq_ok.mp h
    rw [not_or, not_not, Bool.not_eq_false, isCurrentTokenVersion, decide_eq_true_eq] at hchecks
    exact ⟨hrow, hchecks.1, hchecks.2.symm⟩
  · rintro ⟨hrow, hactive, hversion⟩
    simp [hrow, hactive, hversion, isCurrentTokenVersion]

/-- What `genericAuthFailure` makes. -/
def genericAuthFailure : HttpError := { kind := .unauthorized, message := "Authentication failed" }

/-! ### Passwords -/

/-- `LoginDto`. -/
structure LoginDto where
  email : Option String := none
  phone : Option String := none
  providerId : Option String := none
  password : String

/-- The filters of the query in `login`. -/
def matchesLogin (dto : LoginDto) (row : User) : Bool :=
  if truthy dto.email || truthy dto.phone then
    truthy dto.email && row.email = dto.email.map (fun text => trim (toLowerCase text)) ||
      truthy dto.phone && row.phone = dto.phone.map trim
  else row.providerId = dto.providerId.map trim

/-- `login` up to the point where the password and the account have been accepted. -/
def acceptPassword (crypto : Crypto) (s : Store) (dto : LoginDto) : Except HttpError User := do
  throwIf (truthy dto.email = false ∧ truthy dto.phone = false ∧ truthy dto.providerId = false)
    (badRequest "Email, phone or provider ID is required")
  let user ← orThrow (s.users.rows.find? (matchesLogin dto)) genericAuthFailure
  let passwordHash ← orThrow (user.passwordHash.filter (· ≠ "")) genericAuthFailure
  throwIf (crypto.bcryptCompare dto.password passwordHash = false) genericAuthFailure
  throwIf (user.accountStatus ≠ .active) genericAuthFailure
  throwIf (trimmed dto.providerId ≠ "" ∧
    (user.role ≠ .provider ∨ user.providerId ≠ some (trimmed dto.providerId))) genericAuthFailure
  return user

/-- `isFirebaseOwnedCitizen`. -/
def isFirebaseOwnedCitizen (user : User) : Bool := user.role = .citizen && truthy user.firebaseUid

/-- `text.length`, which counts UTF-16 units. -/
def utf16Length (text : String) : ℕ :=
  (text.toList.map fun c => if c.val < 0x10000 then 1 else 2).sum

/-- `isCompliantPassword`. -/
def isCompliantPassword (password : String) : Bool :=
  8 ≤ utf16Length password && password.toList.any Char.isLower &&
    password.toList.any Char.isUpper && password.toList.any Char.isDigit

/-- The checks of `completePasswordReset`: the record of the token. -/
def resettablePassword (crypto : Crypto) (now : Millis) (s : AuthStore) (token password : String) :
    Except HttpError PasswordResetToken := do
  throwIf (isCompliantPassword (trim password) = false)
    (badRequest "Password does not meet requirements")
  let record ← orThrow (s.resetTokens.rows.find? fun row =>
    row.tokenDigest = crypto.sha256 (trim token)) genericAuthFailure
  let user ← orThrow (s.accounts.user? record.userId) genericAuthFailure
  throwIf (record.usedAt ≠ none ∨ record.supersededAt ≠ none ∨ record.expiresAt ≤ now ∨
    user.accountStatus ≠ .active ∨ isFirebaseOwnedCitizen user = true) genericAuthFailure
  return record

/-- The column of a reset token that was used. -/
@[simp] def usedTokenData (now : Millis) : Patch PasswordResetToken.id where
  apply row := { row with usedAt := some now }

/-- The columns of a user with a new password. -/
@[simp] def passwordData (passwordHash : String) : Patch User.id where
  apply row := { row with
    passwordHash := some passwordHash
    tokenVersion := row.tokenVersion + 1 }

/-- The writes of `completePasswordReset`. -/
def passwordStore (now : Millis) (s : AuthStore) (record : PasswordResetToken)
    (passwordHash : String) : AuthStore where
  accounts := s.accounts.updateUser record.userId (passwordData passwordHash)
  enrollments := s.enrollments
  backupCodes := s.backupCodes
  sessions := s.sessions
  resetTokens := s.resetTokens.modify record.id (usedTokenData now)

/-- The transaction of `completePasswordReset`. -/
def writePassword (now : Millis) (s : AuthStore) (record : PasswordResetToken)
    (passwordHash : String) : Except HttpError AuthStore := do
  throwIf ((s.resetTokens.find? record.id).isNone ∨ (s.accounts.user? record.userId).isNone)
    missingRowError
  return passwordStore now s record passwordHash

/-! ### Firebase -/

/-- `VerifiedFirebaseIdentity`. -/
structure VerifiedFirebaseIdentity where
  uid : String
  phoneNumber : Option String := none
  email : Option String := none
  emailVerified : Bool := false
  fullName : Option String := none

/-- `FirebaseLoginDto`, with what the verifier makes of the token of the request. -/
structure FirebaseLoginDto where
  identity : Except HttpError VerifiedFirebaseIdentity
  fullName : Option String := none
  intent : Option String := none

/-- The phone and the verified email of an identity. -/
def firebasePhone (identity : VerifiedFirebaseIdentity) : Option String :=
  trimmedOrNull identity.phoneNumber

def firebaseEmail (identity : VerifiedFirebaseIdentity) : Option String :=
  if identity.emailVerified then
    trimmedOrNull (identity.email.map toLowerCase)
  else none

/-- The row with a value in a unique column. -/
def findBy (s : Store) (column : User → Option String) (value : Option String) : Option User :=
  value.bind fun text => s.users.rows.find? fun row => column row = some text

/-- `nextFirebaseIdentityStatus`. -/
def nextFirebaseIdentityStatus (existing : Option User) (hasVerifiedEmail hasVerifiedPhone : Bool) :
    IdentityVerificationStatus :=
  let current := existing.elim .unverified (·.identityVerificationStatus)
  if current ≠ .unverified then current
  else if hasVerifiedPhone then .phoneVerified
  else if hasVerifiedEmail then .emailVerified
  else .unverified

/-- `nextFirebaseIdentityLevel`. -/
def nextFirebaseIdentityLevel (existing : Option User) (hasVerifiedEmail hasVerifiedPhone : Bool) :
    ℕ :=
  max (existing.elim 0 (·.identityVerificationLevel))
    (if hasVerifiedPhone then 2 else if hasVerifiedEmail then 1 else 0)

/-- A verified claim is not one that another user has. -/
def assertClaimFree (s : Store) (existing : Option User) (column : User → Option String)
    (claim : Option String) : Except HttpError PUnit :=
  throwIf (∃ user ∈ existing, ∃ owner ∈ findBy s column claim,
    truthy (column user) ∧ column user ≠ claim ∧ owner.id ≠ user.id) genericAuthFailure

/-- The citizen an identity is of, and whether the request has to go through recovery instead. -/
def firebaseCitizen (s : Store) (identity : VerifiedFirebaseIdentity) (dto : FirebaseLoginDto) :
    Except HttpError (Option User × Bool) := do
  let uid := trim identity.uid
  let phone := firebasePhone identity
  let email := firebaseEmail identity
  let byUid := findBy s User.firebaseUid (some uid)
  let byPhone := findBy s User.phone phone
  let byEmail := findBy s User.email email
  let existing := byUid <|> byPhone <|> byEmail
  throwIf (∃ first ∈ existing, ∃ user ∈ [byUid, byPhone, byEmail].reduceOption, user.id ≠ first.id)
    genericAuthFailure
  throwIf (∃ user ∈ existing, user.role ≠ .citizen) genericAuthFailure
  throwIf (∃ user ∈ existing, user.accountStatus ≠ .active) genericAuthFailure
  throwIf (∃ user ∈ existing, truthy user.firebaseUid ∧ user.firebaseUid ≠ some uid)
    genericAuthFailure
  let recovery : Bool := dto.intent = some "registration" && email.isSome &&
    byEmail.any (fun user => existing.any (·.id = user.id) && !truthy user.firebaseUid) &&
    byUid.isNone
  checkWhen (!recovery) (assertClaimFree s existing User.phone phone)
  checkWhen (!recovery) (assertClaimFree s existing User.email email)
  return (existing, recovery)

/-- `defaultOrganizationName`. -/
def defaultOrganizationName (configured : Option String) : String :=
  (configured.filter (· ≠ "")).getD "FixZone Demo LGA"

/-- `getDefaultCitizenOrganizationId`: the store with the organization, and its id. -/
def getDefaultCitizenOrganizationId (s : Store) (name newId : String) :
    Except HttpError (Store × String) :=
  match s.organizations.rows.find? fun row => row.name = name with
  | some organization => .ok (s, organization.id)
  | none => do
    throwIf (s.organization? newId).isSome uniqueError
    return ({ s with organizations := s.organizations.insert { id := newId, name } }, newId)

/-- `value ?? other` of a column, where the claim was verified. -/
def verifiedAt (claim : Option String) (now : Millis) (column : Option Millis) : Option Millis :=
  if claim.isSome then some (column.getD now) else column

/-- The columns of a citizen who logs in through Firebase. -/
@[simp] def citizenData (now : Millis) (identity : VerifiedFirebaseIdentity)
    (dto : FirebaseLoginDto) (organizationId : String) : Patch User.id where
  apply row := { row with
    firebaseUid := some (row.firebaseUid.getD (trim identity.uid))
    phone := firebasePhone identity <|> row.phone
    phoneVerifiedAt := verifiedAt (firebasePhone identity) now row.phoneVerifiedAt
    identityVerificationStatus := nextFirebaseIdentityStatus (some row)
      (firebaseEmail identity).isSome (firebasePhone identity).isSome
    identityVerificationLevel := nextFirebaseIdentityLevel (some row)
      (firebaseEmail identity).isSome (firebasePhone identity).isSome
    email := firebaseEmail identity <|> row.email
    emailVerifiedAt := verifiedAt (firebaseEmail identity) now row.emailVerifiedAt
    fullName := ((trimmedOrNull dto.fullName <|> (some row.fullName).filter (· ≠ "")) <|>
      trimmedOrNull identity.fullName).getD "Citizen User"
    role := .citizen
    organizationId := some (row.organizationId.getD organizationId) }

/-- A citizen who logs in through Firebase for the first time. -/
def newCitizen (now : Millis) (newId : String) (identity : VerifiedFirebaseIdentity)
    (dto : FirebaseLoginDto) (organizationId : String) : User where
  id := newId
  firebaseUid := some (trim identity.uid)
  phone := firebasePhone identity
  phoneVerifiedAt := verifiedAt (firebasePhone identity) now none
  identityVerificationStatus := nextFirebaseIdentityStatus none
    (firebaseEmail identity).isSome (firebasePhone identity).isSome
  identityVerificationLevel := nextFirebaseIdentityLevel none
    (firebaseEmail identity).isSome (firebasePhone identity).isSome
  email := firebaseEmail identity
  emailVerifiedAt := verifiedAt (firebaseEmail identity) now none
  fullName := (trimmedOrNull dto.fullName <|> trimmedOrNull identity.fullName).getD "Citizen User"
  role := .citizen
  organizationId := some organizationId

/-- The row that `firebaseLogin` updates or creates. -/
def writeCitizen (now : Millis) (newId : String) (s : Store) (identity : VerifiedFirebaseIdentity)
    (dto : FirebaseLoginDto) (existing : Option User) (organizationId : String) :
    Except HttpError (Store × User) :=
  match existing with
  | some user =>
    .ok (s.updateUser user.id (citizenData now identity dto organizationId),
      (citizenData now identity dto organizationId).apply user)
  | none => do
    throwIf (s.user? newId).isSome uniqueError
    return (s.insertUser (newCitizen now newId identity dto organizationId),
      newCitizen now newId identity dto organizationId)

/-- `firebaseLogin` after the default organization is there. -/
def firebaseAccount (now : Millis) (newId : String) (s : Store)
    (identity : VerifiedFirebaseIdentity) (dto : FirebaseLoginDto) (organizationId : String) :
    Except HttpError (Store × Option User) := do
  let (existing, recovery) ← firebaseCitizen s identity dto
  if recovery then return (s, none)
  else
    let (s', user) ← writeCitizen now newId s identity dto existing organizationId
    return (s', some user)

/-- The identity of a request, where its token was verified and names somebody. -/
def verifiedIdentity (dto : FirebaseLoginDto) : Except HttpError VerifiedFirebaseIdentity :=
  match dto.identity with
  | .error _ => .error genericAuthFailure
  | .ok identity => do
    throwIf (trim identity.uid = "") genericAuthFailure
    throwIf (firebasePhone identity = none ∧ firebaseEmail identity = none) genericAuthFailure
    return identity

/-- `firebaseLogin` up to the tokens: the citizen who gets one, or none for the answer that they
have to go through recovery. -/
def firebaseLogin (now : Millis) (organizationName newOrganizationId newId : String) (s : Store)
    (dto : FirebaseLoginDto) : Reply (Option User) :=
  match verifiedIdentity dto with
  | .error e => ⟨s, .error e⟩
  | .ok identity =>
    match getDefaultCitizenOrganizationId s organizationName newOrganizationId with
    | .error e => ⟨s, .error e⟩
    | .ok (s', organizationId) =>
      commit s' (firebaseAccount now newId s' identity dto organizationId)

end FixZone.AuthService
