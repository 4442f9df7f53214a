import FixZone.Library.Run
import FixZone.Report.Model

/-!
# Accounts

The tables the administration of accounts works on: users, organizations, invitations,
the role assignments of internal administrators and what the governance of sub-admins
records. Three services share them, each with its own operations: `InternalAdminService`,
`UsersService` and `GovernanceService`. A request is made by a user as `JwtStrategy` finds
them, which is the row of an active account.

Left out are the audit log and the notifications, the tokens and codes of an invitation,
and what an invitation or a profile keeps for the client to show; nothing here reads them.
-/

namespace FixZone.Accounts

open Library ReportService

/-- What the services of this folder read and write of a `User` row. -/
structure User where
  id : String
  email : Option String := none
  phone : Option String := none
  fullName : String := ""
  role : UserRole := .citizen
  accountStatus : AccountStatus := .active
  organizationId : Option String := none
  providerId : Option String := none
  profileData : Option Json := none
  firebaseUid : Option String := none
  passwordHash : Option String := none
  tokenVersion : ℕ := 0
  phoneVerifiedAt : Option Millis := none
  emailVerifiedAt : Option Millis := none
  identityVerificationStatus : IdentityVerificationStatus := .unverified
  identityVerificationLevel : ℕ := 0

/-- `Organization`: its name and its quotas. -/
structure Organization where
  id : String
  name : String := ""
  allowedUsers : Option ℕ := none
  allowedProviders : Option ℕ := none

/-- `Invitation`. -/
structure Invitation where
  id : String
  email : Option String := none
  phone : Option String := none
  fullName : String := ""
  role : UserRole
  status : InvitationStatus := .pending
  organizationId : Option String := none
  invitedById : String
  acceptedUserId : Option String := none
  metadata : Option Json := none
  expiresAt : Option Millis := none
  acceptedAt : Option Millis := none
  declinedAt : Option Millis := none
  revokedAt : Option Millis := none
  resentAt : Option Millis := none
  lastNotificationAt : Option Millis := none

/-- `InternalRoleAssignment`. -/
structure InternalRoleAssignment where
  id : String
  userId : String
  role : UserRole
  status : InternalRoleAssignmentStatus := .active
  scopeType : InternalScopeType := .platform
  scopeRef : Option String := none
  organizationId : Option String := none
  moduleKey : Option String := none
  jurisdiction : Option Json := none
  permissionsSnapshot : Json
  roleDefinitionVersion : ℕ := 1
  assignedById : String
  reason : Option String := none
  startsAt : Millis
  expiresAt : Option Millis := none

/-- `PrivilegedApprovalRequest`. -/
structure PrivilegedApprovalRequest where
  operationType : PrivilegedOperationType
  requesterId : String
  targetUserId : Option String := none
  requestedRole : Option UserRole := none
  reason : Option String := none
  blockedReason : String

/-- `ProviderOrganization`: the membership of a provider in an organization. -/
structure ProviderOrganization where
  providerId : String
  organizationId : String
  active : Bool := true
  isPrimary : Bool := false

/-- `@@unique([providerId, organizationId])`. -/
def ProviderOrganization.key (membership : ProviderOrganization) : String × String :=
  (membership.providerId, membership.organizationId)

/-- A scope of a delegated administrator, as it is asked for. -/
structure DelegatedScope where
  scopeType : AdminScopeType
  scopeRef : Option String := none
  organizationId : Option String := none
  permissions : List String := []
  deriving DecidableEq

/-- `DelegatedAuthority`. -/
structure DelegatedAuthority where
  userId : String
  delegatedById : String
  organizationId : Option String := none
  role : UserRole
  permissions : List String := []
  scopes : List DelegatedScope := []
  status : DelegatedAuthorityStatus := .active
  reason : Option String := none

/-- `AdminScope`. -/
structure AdminScope extends DelegatedScope where
  userId : String
  active : Bool := true
  createdById : Option String := none

theorem User.id_withStatus (status : AccountStatus) (row : User) :
    User.id { row with accountStatus := status } = row.id := rfl

theorem Invitation.id_withStatus (status : InvitationStatus) (row : Invitation) :
    Invitation.id { row with status } = row.id := rfl

/-- What the services store. -/
structure Store where
  users : Table User.id
  organizations : Table Organization.id
  invitations : Table Invitation.id
  assignments : Table InternalRoleAssignment.id
  approvals : List PrivilegedApprovalRequest
  memberships : Table ProviderOrganization.key
  delegatedAuthorities : List DelegatedAuthority
  adminScopes : List AdminScope

/-- The store with the given users and organizations and nothing else. -/
def Store.ofUsers (users : Table User.id) (organizations : Table Organization.id) : Store :=
  ⟨users, organizations, Table.empty _, Table.empty _, [], Table.empty _, [], []⟩

namespace Store

variable (s : Store)

/-- `prisma.user.findUnique`. -/
def user? (id : String) : Option User := s.users.find? id

/-- `prisma.invitation.findUnique`. -/
def invitation? (id : String) : Option Invitation := s.invitations.find? id

/-- `prisma.organization.findUnique`. -/
def organization? (id : String) : Option Organization := s.organizations.find? id

/-- `internalRoleAssignment.create`. -/
def insertAssignment (row : InternalRoleAssignment) : Store :=
  { s with assignments := s.assignments.insert row }

/-- `user.create`. -/
def insertUser (row : User) : Store := { s with users := s.users.insert row }

/-- `delegatedAuthority.create`. -/
def addAuthority (row : DelegatedAuthority) : Store :=
  { s with delegatedAuthorities := s.delegatedAuthorities ++ [row] }

/-- `adminScope.create`, for each row. -/
def addScopes (rows : List AdminScope) : Store := { s with adminScopes := s.adminScopes ++ rows }

/-- `invitation.create`. -/
def insertInvitation (row : Invitation) : Store :=
  { s with invitations := s.invitations.insert row }

/-- `privilegedApprovalRequest.create`. -/
def addApproval (row : PrivilegedApprovalRequest) : Store :=
  { s with approvals := s.approvals ++ [row] }

/-- `user.update`. -/
def updateUser (id : String) (data : Patch User.id) : Store :=
  { s with users := s.users.modify id data }

/-- `invitation.update`. -/
def updateInvitation (id : String) (data : Patch Invitation.id) : Store :=
  { s with invitations := s.invitations.modify id data }

@[simp] theorem user?_insertAssignment (id : String) (row : InternalRoleAssignment) :
    (s.insertAssignment row).user? id = s.user? id := rfl

@[simp] theorem user?_updateInvitation (id id' : String) (data : Patch Invitation.id) :
    (s.updateInvitation id data).user? id' = s.user? id' := rfl

end Store

/-- `JwtStrategy.validate`: the row of an active user. A token is taken to be current. -/
def validate (s : Store) (userId : String) : Option User :=
  (s.user? userId).filter fun user => user.accountStatus = .active

theorem validate_eq_some_iff {s : Store} {userId : String} {user : User} :
    validate s userId = some user ↔ s.user? userId = some user ∧ user.accountStatus = .active := by
  rw [validate, Option.filter_eq_some_iff, decide_eq_true_iff]

/-- The row of a request is the one in the store. -/
theorem user?_of_validate {s : Store} {userId : String} {user : User}
    (h : validate s userId = some user) :
    s.user? user.id = some user ∧ user.accountStatus = .active := by
  obtain ⟨hrow, hactive⟩ := validate_eq_some_iff.mp h
  have hid : user.id = userId := Table.key_of_find? hrow
  exact ⟨by rwa [hid], hactive⟩

/-- What a call leaves in the store, and what it answers. -/
structure Reply (α : Type) where
  store : Store
  answer : Except HttpError α

/-- A call that writes nothing where it throws. -/
def commit {α : Type} (s : Store) (result : Except HttpError (Store × α)) : Reply α :=
  match result with
  | .ok (s', a) => ⟨s', .ok a⟩
  | .error e => ⟨s, .error e⟩

theorem commit_answer_eq_ok {α : Type} {s : Store} {result : Except HttpError (Store × α)} {a : α} :
    (commit s result).answer = .ok a ↔ result = .ok ((commit s result).store, a) := by
  rcases result with e | ⟨s', a'⟩ <;> simp [commit]

theorem commit_store {α : Type} (s : Store) (result : Except HttpError (Store × α)) :
    (commit s result).store = s ∨ ∃ a, result = .ok ((commit s result).store, a) := by
  rcases result with e | ⟨s', a'⟩ <;> simp [commit]

/-- What holds of the store, and of whatever the call writes, holds after the call. -/
theorem commit_induction {α : Type} {p : Store → Prop} {s : Store}
    {result : Except HttpError (Store × α)} (hs : p s)
    (hwritten : ∀ s' a, result = .ok (s', a) → p s') : p (commit s result).store := by
  rcases result with e | ⟨s', a⟩
  · exact hs
  · exact hwritten s' a rfl

/-- What Prisma throws when a row names an organization that is not there. -/
def foreignKeyError : HttpError :=
  { kind := .recordNotFound, message := "Foreign key constraint failed" }

/-- What Prisma throws when the key of a new row is taken. -/
def uniqueError : HttpError := { kind := .uniqueConstraint, message := "Unique constraint failed" }

/-- What Prisma throws when the row to update is not there. -/
def missingRowError : HttpError :=
  { kind := .recordNotFound, message := "Record to update not found" }

/-- The foreign key of a column `organizationId`. -/
def checkOrganization (s : Store) (organizationId : Option String) : Except HttpError PUnit :=
  throwIf (organizationId.any fun id => (s.organization? id).isNone) foreignKeyError

theorem checkOrganization_eq_ok {s : Store} {organizationId : Option String} :
    checkOrganization s organizationId = .ok ⟨⟩ ↔
      ∀ id, organizationId = some id → s.organization? id ≠ none := by
  rw [checkOrganization, throwIf_eq_ok]
  cases organizationId <;> simp

/-- `normalizeText`. -/
def normalizeText (raw : Option Json) : Option String :=
  match raw with
  | some (.str text) => trimmedOrNull (some text)
  | _ => none

/-- `String(raw ?? fallback)`. -/
def textOr (fallback : String) (raw : Option Json) : Option String :=
  match raw with
  | none | some .null => some fallback
  | some value => value.toText

/-- An optional text in an object that is stored: `null` for none. -/
def optionalJson (text : Option String) : Json := text.elim .null .str

/-- A value as an object, and the empty object for anything else. -/
def objectRecord (raw : Option Json) : List (String × Json) :=
  match raw with
  | some (.obj fields) => fields
  | _ => []

/-- `/^[^\s@]+@[^\s@]+\.[^\s@]+$/`. -/
def isEmailText (email : String) : Bool :=
  let chars := email.toList
  let host := (chars.dropWhile (· ≠ '@')).drop 1
  chars.all (fun c => !isJsSpace c) && chars.takeWhile (· ≠ '@') ≠ [] && !host.contains '@' &&
    (host.drop 1).dropLast.contains '.' && chars.contains '@'

/-- An invitation has run out. -/
def Invitation.lapsed (now : Millis) (invitation : Invitation) : Bool :=
  invitation.expiresAt.any (· ≤ now)

/-- A row that offers the same to the same person: what was created, perhaps sent again or
resolved since. -/
structure SameOffer (created row : Invitation) : Prop where
  email : row.email = created.email
  phone : row.phone = created.phone
  role : row.role = created.role
  scope : (Json.obj (objectRecord row.metadata)).field? "scope" =
    (Json.obj (objectRecord created.metadata)).field? "scope"

theorem SameOffer.refl (row : Invitation) : SameOffer row row := ⟨rfl, rfl, rfl, rfl⟩

theorem SameOffer.trans {created row row' : Invitation} (h : SameOffer created row)
    (h' : SameOffer row row') :
    SameOffer created row' :=
  ⟨h'.email.trans h.email, h'.phone.trans h.phone, h'.role.trans h.role, h'.scope.trans h.scope⟩

/-- Every invitation of `s` is there in `s'`, with the same offer. -/
def OffersKept (s s' : Store) : Prop :=
  ∀ invitationId row, s.invitation? invitationId = some row →
    ∃ row', s'.invitation? invitationId = some row' ∧ SameOffer row row'

theorem OffersKept.of_eq {s s' : Store} (h : s'.invitations = s.invitations) : OffersKept s s' :=
  fun invitationId row hrow => ⟨row, by rwa [Store.invitation?, h], .refl row⟩

theorem OffersKept.trans {s s' s'' : Store} (h : OffersKept s s') (h' : OffersKept s' s'') :
    OffersKept s s'' := by
  intro invitationId row hrow
  obtain ⟨row', hrow', hoffer⟩ := h invitationId row hrow
  obtain ⟨row'', hrow'', hoffer'⟩ := h' invitationId row' hrow'
  exact ⟨row'', hrow'', hoffer.trans hoffer'⟩

theorem offersKept_insertInvitation (s : Store) (new : Invitation) :
    OffersKept s (s.insertInvitation new) :=
  fun _ row hrow => ⟨row, Table.find?_insert_of_some hrow, .refl row⟩

theorem offersKept_updateInvitation (s : Store) (id : String) {data : Patch Invitation.id}
    (hdata : ∀ row, SameOffer row (data.apply row)) :
    OffersKept s (s.updateInvitation id data) := by
  intro invitationId row hrow
  by_cases heq : invitationId = id
  · subst heq
    exact ⟨data.apply row, Table.find?_modify_self data hrow, hdata row⟩
  · exact ⟨row, (Table.find?_modify_of_ne data heq).trans hrow, .refl row⟩

end FixZone.Accounts
