import FixZone.Accounts

/-!
# The invitations of the users service

`UsersService`: an organization invites somebody under a role, by email or phone, and
the invited person, who has to have an account with one of the two, accepts or declines.
Until then the invitation can be cancelled and sent again. The rows are the ones
`InternalAdminService` uses too.

The request of `inviteUser` has no declared type, so its fields are whatever JSON came in. Left
out are the tokens and codes, the notifications, and the counter of reminders.
-/

namespace FixZone.UsersService

open Library Accounts
open ReportService (HttpError forbidden typeError)

/-- `domainError`. -/
def domainError (kind : ReportService.ErrorKind) (code message : String) : HttpError :=
  { kind, code := some code, message }

def invitationNotOwned : HttpError :=
  domainError .forbidden "INVITATION_NOT_OWNED" "Invitation is not assigned to this account."

def alreadyResolved : HttpError :=
  domainError .conflict "INVITATION_ALREADY_RESOLVED" "Invitation is no longer pending."

def invitationExpired : HttpError :=
  domainError .conflict "INVITATION_EXPIRED" "Invitation has expired."

def invitationCancelled : HttpError :=
  domainError .conflict "INVITATION_CANCELLED" "Invitation has been cancelled."

/-- `INVITATION_NOT_FOUND`, thrown as one kind of exception or another. -/
def invitationNotFound (kind : ReportService.ErrorKind) : HttpError :=
  domainError kind "INVITATION_NOT_FOUND" "Invitation was not found."

/-- The exception for an invitation that is not pending any more. -/
def resolvedError (status : InvitationStatus) : HttpError :=
  match status with
  | .cancelled | .revoked => invitationCancelled
  | .expired => invitationExpired
  | _ => alreadyResolved

/-! ### Inviting -/

/-- The fields of the request. -/
structure InviteUserDto where
  role : Option Json := none
  email : Option Json := none
  phone : Option Json := none
  fullName : Option Json := none
  organizationId : Option Json := none
  confirmExistingUser : Option Json := none
  existingUserAction : Option Json := none

/-- `typeof raw === 'string' ? raw : null`. -/
def stringOf (raw : Option Json) : Option String :=
  match raw with
  | some (.str text) => some text
  | _ => none

/-- `parseInvitableRole`. -/
def parseInvitableRole (raw : Option Json) : Except HttpError UserRole := do
  let text ← orThrow (textOr "" raw) typeError
  orThrow (UserRole.ofText? (toUpperCase (trim text))) (forbidden "Invalid role")

/-- `isGovernanceAdminRole`. -/
def isGovernanceAdminRole (role : UserRole) : Bool :=
  [.platformOwner, .executiveSuperAdmin, .technicalAdmin, .billingAdmin, .legalAdmin,
    .assignmentAdmin, .assetAdmin, .complianceAdmin, .regulatoryAdmin, .supportAdmin].contains role

/-- `resolveInvitationOrganization`. -/
def resolveInvitationOrganization (dto : InviteUserDto) (user : User) :
    Except HttpError (Option String) := do
  if user.role = .superAdmin then
    return trimmedOrNull (stringOf dto.organizationId) <|> user.organizationId
  else
    throwIf (truthy user.organizationId = false) (forbidden "No organization assigned")
    return user.organizationId

/-- Whether a row has the email or the phone that is asked for. -/
def sameIdentity (email phone rowEmail rowPhone : Option String) : Bool :=
  (truthy email && rowEmail = email) || (truthy phone && rowPhone = phone)

/-- `enforceUserQuota`. -/
def enforceUserQuota (s : Store) (organizationId : Option String) : Except HttpError PUnit :=
  throwIf (truthy organizationId ∧ ∃ organization ∈ organizationId.bind s.organization?,
    ∃ allowed ∈ organization.allowedUsers,
      allowed ≤ (s.users.rows.filter fun row => row.organizationId = organizationId).length)
    (domainError .conflict "USER_QUOTA_EXCEEDED" "This organization has reached its user quota.")

/-- `enforceProviderQuota`. -/
def enforceProviderQuota (s : Store) (organizationId : Option String) : Except HttpError PUnit :=
  throwIf (truthy organizationId ∧ ∃ organization ∈ organizationId.bind s.organization?,
    ∃ allowed ∈ organization.allowedProviders,
      allowed ≤ (s.users.rows.filter fun row => row.role = .provider &&
        (row.organizationId = organizationId ||
        s.memberships.rows.any fun membership => membership.providerId = row.id &&
          membership.active && some membership.organizationId = organizationId)).length)
    (domainError .conflict "PROVIDER_QUOTA_EXCEEDED"
      "This organization has reached its provider quota.")

/-- What `inviteUser` answers. -/
inductive InviteAnswer where
  | membershipAlreadyActive (existingUser : User) (membership : ProviderOrganization)
  | userAlreadyMember (existingUser : User)
  | existingUserRequiresConfirmation (existingUser : User) (requestedRole : UserRole)
  | invited (invitation : Invitation)

/-- The answer for a user who is there already, if there is nothing to invite them to. -/
def existingMember (s : Store) (existing : User) (organizationId : String) (role : UserRole) :
    Except HttpError (Option InviteAnswer) := do
  let membership := if role = .provider ∧ existing.role = .provider then
    s.memberships.find? (existing.id, organizationId) else none
  match membership with
  | some membership =>
    throwIf (membership.active = false) (domainError .conflict "MEMBERSHIP_SUSPENDED"
      "This provider membership exists but is suspended. Reactivate it explicitly before assigning work.")
    return some (.membershipAlreadyActive existing membership)
  | none =>
    if existing.organizationId = some organizationId ∧ existing.role = role ∧
        existing.accountStatus ≠ .deactivated then
      return some (.userAlreadyMember existing)
    else return none

/-- The invitation of a user is one to join as a further organization of a provider. -/
def isMembershipInvite (existing : Option User) (organizationId : Option String)
    (role : UserRole) : Bool :=
  truthy organizationId && role = .provider && existing.any fun user => user.role = .provider

/-- The metadata of an invitation of this service. -/
def onboardingMetadata (existing : Option User) (membershipInvite : Bool) : Json :=
  .obj [("delivery", .str "EMAIL_NOT_CONFIGURED"),
    ("existingUserId", existing.elim .null fun user => .str user.id),
    ("invitationPurpose",
      .str (if membershipInvite then "PROVIDER_MEMBERSHIP_ACTIVATION" else "USER_ONBOARDING"))]

/-- The end of `inviteUser`: the quotas, and the new invitation. -/
def createInvitation (now : Millis) (newId : String) (s : Store) (user : User)
    (existing : Option User) (role : UserRole)
    (organizationId email phone : Option String) (fullName : String) :
    Except HttpError (Store × InviteAnswer) := do
  let membershipInvite := isMembershipInvite existing organizationId role
  checkWhen (!membershipInvite) (enforceUserQuota s organizationId)
  checkWhen (role = .provider) (enforceProviderQuota s organizationId)
  let invitation : Invitation :=
    { id := newId, fullName, email, phone, role, organizationId
      invitedById := user.id
      expiresAt := some (now + 7 * 24 * 60 * 60 * 1000)
      metadata := some (onboardingMetadata existing membershipInvite) }
  checkOrganization s organizationId
  throwIf (s.invitation? newId).isSome uniqueError
  return (s.insertInvitation invitation, .invited invitation)

/-- The answer for somebody who has an account, if an organization invites. -/
def existingAnswer (s : Store) (existing : Option User) (organizationId : Option String)
    (role : UserRole) : Except HttpError (Option InviteAnswer) :=
  match existing, organizationId.filter (· ≠ "") with
  | some existing, some organizationId => existingMember s existing organizationId role
  | _, _ => .ok none

/-- The request confirms that a provider with an account is to join. -/
def membershipConfirmed (dto : InviteUserDto) : Except HttpError Bool :=
  match dto.confirmExistingUser with
  | some (.bool true) => .ok true
  | _ => do
    let action ← orThrow (textOr "" dto.existingUserAction) typeError
    return toUpperCase action = "ADD_MEMBERSHIP"

/-- `inviteUser` for somebody who is not a member yet. -/
def inviteNew (now : Millis) (newId : String) (s : Store) (user : User) (dto : InviteUserDto)
    (existing : Option User) (role : UserRole) (organizationId email phone : Option String) :
    Except HttpError (Store × InviteAnswer) := do
  throwIf (s.invitations.rows.any fun row => row.status = .pending &&
    row.organizationId = organizationId &&
      row.role = role && sameIdentity email phone row.email row.phone &&
        row.expiresAt.any (now < ·))
    (domainError .conflict "DUPLICATE_PENDING_INVITATION" "A pending invitation already exists.")
  let fullName := (trimmedOrNull (stringOf dto.fullName)).getD "Invited User"
  match existing.filter fun _ => isMembershipInvite existing organizationId role with
  | some provider =>
    let confirmed ← membershipConfirmed dto
    if confirmed then
      createInvitation now newId s user existing role organizationId email phone fullName
    else return (s, .existingUserRequiresConfirmation provider role)
  | none => createInvitation now newId s user existing role organizationId email phone fullName

/-- `inviteUser`. -/
def inviteUser (now : Millis) (newId : String) (s : Store) (user : User) (dto : InviteUserDto) :
    Except HttpError (Store × InviteAnswer) := do
  let role ← parseInvitableRole dto.role
  throwIf (isGovernanceAdminRole role = true)
    (forbidden "Delegated admin roles must be created from governance administration")
  throwIf (role = .superAdmin) (forbidden "This role cannot be invited")
  throwIf (user.role ≠ .superAdmin ∧ role = .orgAdmin)
    (forbidden "Organization Admin cannot invite other Organization Admins")
  let organizationId ← resolveInvitationOrganization dto user
  let email := (stringOf dto.email).map fun text => trim (toLowerCase text)
  let phone := (stringOf dto.phone).map trim
  throwIf (truthy email = false ∧ truthy phone = false) (forbidden "Email or phone is required")
  throwIf (truthy organizationId ∧ (organizationId.bind s.organization?).isNone)
    (forbidden "Organization not found")
  let existing := s.users.rows.find? fun row => sameIdentity email phone row.email row.phone
  let member ← existingAnswer s existing organizationId role
  match member with
  | some answer => return (s, answer)
  | none => inviteNew now newId s user dto existing role organizationId email phone

/-! ### Cancelling and sending again -/

/-- `buildInvitationScope`, and the row it finds. -/
def scopedInvitation (s : Store) (user : User) (invitationId : String) :
    Except HttpError Invitation := do
  throwIf (user.role ≠ .superAdmin ∧ (user.role ≠ .orgAdmin ∨ truthy user.organizationId = false))
    (forbidden "Not allowed")
  orThrow ((s.invitation? invitationId).filter fun row =>
    user.role = .superAdmin || row.organizationId = user.organizationId)
      (invitationNotFound .forbidden)

theorem scopedInvitation_found {s : Store} {user : User} {id : String} {row : Invitation}
    (h : scopedInvitation s user id = .ok row) : s.invitation? id = some row := by
  obtain ⟨-, h⟩ := throwIf_bind_eq_ok.mp h
  exact (Option.filter_eq_some_iff.mp (orThrow_eq_ok.mp h)).1

/-- The columns of an invitation that is withdrawn. -/
@[simp] def cancelledData (now : Millis) (status : InvitationStatus) : Patch Invitation.id where
  apply row := { row with status, revokedAt := some now }

/-- `cancelInvitation`, with the status the row gets: `CANCELLED`, or `REVOKED` for
`revokeInvitation`. -/
def cancelInvitation (now : Millis) (s : Store) (user : User) (invitationId : String)
    (status : InvitationStatus) : Except HttpError (Store × PUnit) := do
  let invitation ← scopedInvitation s user invitationId
  throwIf (invitation.status ≠ .pending) alreadyResolved
  return (s.updateInvitation invitationId (cancelledData now status), ⟨⟩)

/-- The column of an invitation that has run out. -/
@[simp] def expiredData : Patch Invitation.id where
  apply row := { row with status := .expired }
  key_apply := Invitation.id_withStatus .expired

/-- `{ ...objectMetadata(metadata), [name]: value }`. -/
def withField (metadata : Option Json) (name : String) (value : Json) : Json :=
  .obj ((objectRecord metadata).filter (fun field => field.1 ≠ name) ++ [(name, value)])

/-- Setting a field leaves the others. -/
theorem field?_withField_of_ne (metadata : Option Json) {name other : String} (value : Json)
    (hne : other ≠ name) :
    (Json.obj (objectRecord (some (withField metadata name value)))).field? other =
      (Json.obj (objectRecord metadata)).field? other := by
  have hkept : ∀ field : String × Json,
      (!decide (field.1 = name) && decide (field.1 = other)) = decide (field.1 = other) := by
    intro field
    by_cases heq : field.1 = other
    · simp [heq, hne]
    · simp [heq]
  have hadded : decide (name = other) = false := decide_eq_false hne.symm
  simp [withField, objectRecord, Json.field?, List.find?_filter, hkept, hadded]

/-- The columns of an invitation that is sent again. -/
@[simp] def resentData (now : Millis) : Patch Invitation.id where
  apply row := { row with
    resentAt := some now
    lastNotificationAt := some now
    metadata := some (withField row.metadata "delivery" (.str "EMAIL_NOT_CONFIGURED")) }

/-- `resendInvitation`. -/
def resendInvitation (now : Millis) (s : Store) (user : User) (invitationId : String) :
    Reply PUnit :=
  match scopedInvitation s user invitationId with
  | .error e => ⟨s, .error e⟩
  | .ok invitation =>
    if invitation.status ≠ .pending then ⟨s, .error alreadyResolved⟩
    else if invitation.lapsed now then
      ⟨s.updateInvitation invitationId expiredData, .error invitationExpired⟩
    else ⟨s.updateInvitation invitationId (resentData now), .ok ⟨⟩⟩

/-! ### Accepting and declining -/

/-- `assertInviteeMatches`. -/
def inviteeMatches (invitation : Invitation) (user : User) : Bool :=
  (truthy invitation.email && truthy user.email &&
    invitation.email.map toLowerCase = user.email.map toLowerCase) ||
    (truthy invitation.phone && truthy user.phone && invitation.phone = user.phone)

/-- A provider who is invited as a provider by a further organization. -/
def providerMembershipOnly (current : User) (invitation : Invitation) : Bool :=
  current.role = .provider && invitation.role = .provider && truthy invitation.organizationId &&
    current.organizationId ≠ invitation.organizationId

/-- The columns of the user an accepted invitation writes. -/
@[simp] def inviteeData (invitation : Invitation) : Patch User.id where
  apply row := { row with
    accountStatus := if row.accountStatus = .suspended then .suspended else .active
    organizationId :=
      if truthy invitation.organizationId ∧ providerMembershipOnly row invitation = false then
        invitation.organizationId
      else row.organizationId
    role :=
      if row.role ≠ .superAdmin ∧ providerMembershipOnly row invitation = false then
        invitation.role else row.role }

/-- The columns of the invitation that is accepted. -/
@[simp] def acceptedData (now : Millis) (user : User) : Patch Invitation.id where
  apply row := { row with
    status := .accepted
    acceptedAt := some now
    acceptedUserId := some user.id
    metadata := some (withField row.metadata "acceptedUserRole" (.str user.role.text)) }

/-- The columns of a membership that is there already. -/
@[simp] def membershipData (isPrimary : Bool) : Patch ProviderOrganization.key where
  apply row := { row with active := true, isPrimary }

/-- The membership of a provider who has accepted. -/
def upsertMembership (s : Store) (current : User) (invitation : Invitation) : Store :=
  match invitation.organizationId.filter (· ≠ "") with
  | some organizationId =>
    if invitation.role = .provider then
      let isPrimary : Bool := current.organizationId = some organizationId
      { s with memberships := s.memberships.upsert ⟨current.id, organizationId, true, isPrimary⟩ (membershipData isPrimary) }
    else s
  | none => s

/-- The writes of `acceptInvitation`. -/
def acceptedStore (now : Millis) (s : Store) (current : User) (invitation : Invitation) : Store :=
  (upsertMembership (s.updateUser current.id (inviteeData invitation)) current
    invitation).updateInvitation invitation.id
    (acceptedData now ((inviteeData invitation).apply current))

/-- The database transaction of `acceptInvitation`; the invitation is found again as it was. -/
def acceptOpenInvitation (now : Millis) (s : Store) (user : User) (invitation : Invitation) :
    Except HttpError (Store × PUnit) := do
  let current ← orThrow (s.user? user.id) missingRowError
  throwIf (truthy invitation.organizationId ∧
    (invitation.organizationId.bind s.organization?).isNone) missingRowError
  return (acceptedStore now s current invitation, ⟨⟩)

/-- `acceptInvitation`. -/
def acceptInvitation (now : Millis) (s : Store) (user : User) (invitationId : String) :
    Reply PUnit :=
  match s.invitation? invitationId with
  | none => ⟨s, .error (invitationNotFound .notFound)⟩
  | some invitation =>
    if inviteeMatches invitation user = false then ⟨s, .error invitationNotOwned⟩
    else if invitation.status ≠ .pending then
      if invitation.status = .accepted ∧ invitation.acceptedUserId = some user.id then ⟨s, .ok ⟨⟩⟩
      else ⟨s, .error (resolvedError invitation.status)⟩
    else if invitation.lapsed now then
      ⟨s.updateInvitation invitationId expiredData, .error invitationExpired⟩
    else commit s (acceptOpenInvitation now s user invitation)

/-- The columns of an invitation that is declined. -/
@[simp] def declinedData (now : Millis) : Patch Invitation.id where
  apply row := { row with status := .declined, declinedAt := some now }

/-- `declineInvitation`. -/
def declineInvitation (now : Millis) (s : Store) (user : User) (invitationId : String) :
    Reply PUnit :=
  match s.invitation? invitationId with
  | none => ⟨s, .error (invitationNotFound .notFound)⟩
  | some invitation =>
    if inviteeMatches invitation user = false then ⟨s, .error invitationNotOwned⟩
    else if invitation.status ≠ .pending then
      if invitation.status = .declined then ⟨s, .ok ⟨⟩⟩
      else ⟨s, .error (resolvedError invitation.status)⟩
    else if invitation.lapsed now then
      ⟨s.updateInvitation invitationId expiredData, .error invitationExpired⟩
    else ⟨s.updateInvitation invitationId (declinedData now), .ok ⟨⟩⟩

/-! ### What the operations do -/

variable {now : Millis} {newId : String} {s s' : Store} {user : User}

/-- What a new invitation is like. -/
structure Invited (newId : String) (s : Store) (user : User) (row : Invitation) : Prop where
  listed : isGovernanceAdminRole row.role = false
  not_superAdmin : row.role ≠ .superAdmin
  orgAdmin : row.role = .orgAdmin → user.role = .superAdmin
  identity : truthy row.email = true ∨ truthy row.phone = true
  id : row.id = newId
  free : s.invitation? newId = none
  status : row.status = .pending
  metadata : ∃ existing membershipInvite,
    row.metadata = some (onboardingMetadata existing membershipInvite)

theorem createInvitation_eq_ok {existing : Option User} {role : UserRole}
    {organizationId email phone : Option String} {fullName : String} {answer : InviteAnswer}
    (h : createInvitation now newId s user existing role organizationId email phone fullName =
      .ok (s', answer)) :
    ∃ row : Invitation, s' = s.insertInvitation row ∧ answer = .invited row ∧ row.id = newId ∧
      s.invitation? newId = none ∧ row.role = role ∧ row.email = email ∧ row.phone = phone ∧
        row.status = .pending ∧
      ∃ existing membershipInvite,
        row.metadata = some (onboardingMetadata existing membershipInvite) := by
  unfold createInvitation at h
  obtain ⟨-, h⟩ := check_bind_eq_ok.mp h
  obtain ⟨-, h⟩ := check_bind_eq_ok.mp h
  obtain ⟨-, h⟩ := check_bind_eq_ok.mp h
  obtain ⟨hfree, h⟩ := throwIf_bind_eq_ok.mp h
  obtain ⟨rfl, rfl⟩ := Prod.mk.inj (Except.ok.inj h)
  exact ⟨_, rfl, rfl, rfl, by simpa using hfree, rfl, rfl, rfl, rfl, _, _, rfl⟩

theorem inviteNew_eq_ok {dto : InviteUserDto} {existing : Option User} {role : UserRole}
    {organizationId email phone : Option String} {answer : InviteAnswer}
    (h : inviteNew now newId s user dto existing role organizationId email phone =
      .ok (s', answer)) :
    s' = s ∧ (∀ row, answer ≠ .invited row) ∨
      ∃ fullName, createInvitation now newId s user existing role organizationId email phone
        fullName = .ok (s', answer) := by
  unfold inviteNew at h
  obtain ⟨-, h⟩ := throwIf_bind_eq_ok.mp h
  dsimp only at h
  split at h
  · obtain ⟨confirmed, -, h⟩ := bind_eq_ok.mp h
    split at h
    · exact .inr ⟨_, h⟩
    · obtain ⟨rfl, rfl⟩ := Prod.mk.inj (Except.ok.inj h)
      exact .inl ⟨rfl, fun row => by simp⟩
  · exact .inr ⟨_, h⟩

theorem existingAnswer_not_invited {existing : Option User} {organizationId : Option String}
    {role : UserRole}
    {answer : InviteAnswer} (h : existingAnswer s existing organizationId role = .ok (some answer))
    (row : Invitation) :
    answer ≠ .invited row := by
  unfold existingAnswer at h
  split at h
  · unfold existingMember at h
    dsimp only at h
    split at h
    · obtain ⟨-, h⟩ := throwIf_bind_eq_ok.mp h
      obtain rfl := Option.some.inj (Except.ok.inj h)
      simp
    · split at h
      · obtain rfl := Option.some.inj (Except.ok.inj h)
        simp
      · cases h
  · cases h

/-- A successful `inviteUser` leaves the store as it is or adds an invitation. -/
theorem inviteUser_eq_ok {dto : InviteUserDto} {answer : InviteAnswer}
    (h : inviteUser now newId s user dto = .ok (s', answer)) :
    s' = s ∧ (∀ row, answer ≠ .invited row) ∨
      ∃ row, s' = s.insertInvitation row ∧ answer = .invited row ∧ Invited newId s user row := by
  unfold inviteUser at h
  obtain ⟨role, -, h⟩ := bind_eq_ok.mp h
  obtain ⟨hlisted, h⟩ := throwIf_bind_eq_ok.mp h
  obtain ⟨hsuper, h⟩ := throwIf_bind_eq_ok.mp h
  obtain ⟨horg, h⟩ := throwIf_bind_eq_ok.mp h
  obtain ⟨organizationId, -, h⟩ := bind_eq_ok.mp h
  obtain ⟨hidentity, h⟩ := throwIf_bind_eq_ok.mp h
  obtain ⟨-, h⟩ := throwIf_bind_eq_ok.mp h
  obtain ⟨member, hmember, h⟩ := bind_eq_ok.mp h
  split at h
  · obtain ⟨rfl, rfl⟩ := Prod.mk.inj (Except.ok.inj h)
    exact .inl ⟨rfl, existingAnswer_not_invited hmember⟩
  · rcases inviteNew_eq_ok h with hsame | ⟨fullName, hcreate⟩
    · exact .inl hsame
    · obtain ⟨row, hstore, hanswer, hid, hfree, rfl, hemail, hphone, hstatus, hmetadata⟩ :=
        createInvitation_eq_ok hcreate
      refine .inr ⟨row, hstore, hanswer, by simpa using hlisted, hsuper, fun hrole =>
        ?_, ?_, hid, hfree, hstatus, hmetadata⟩
      · by_contra hnot
        exact horg ⟨hnot, hrole⟩
      · rw [hemail, hphone]
        by_contra hnone
        rw [not_or, Bool.not_eq_true, Bool.not_eq_true] at hnone
        exact hidentity hnone

/-- What taking up an invitation was checked for. -/
structure TakenUp (now : Millis) (s : Store) (user : User) (invitation : Invitation) : Prop where
  owner : inviteeMatches invitation user = true
  pending : invitation.status = .pending
  unexpired : invitation.lapsed now = false
  user_found : s.user? user.id = some user
  organization : truthy invitation.organizationId = true →
    (invitation.organizationId.bind s.organization?).isSome

theorem acceptOpenInvitation_eq_ok {invitation : Invitation} (huser : s.user? user.id = some user) :
    acceptOpenInvitation now s user invitation = .ok (s', ⟨⟩) ↔
      (truthy invitation.organizationId = true →
        (invitation.organizationId.bind s.organization?).isSome) ∧
        s' = acceptedStore now s user invitation := by
  unfold acceptOpenInvitation
  rw [huser, orThrow_some, ok_bind, throwIf_bind_eq_ok, not_and, Option.isNone_iff_eq_none, ← ne_eq,
    ← Option.isSome_iff_ne_none]
  refine and_congr_right fun _ => ⟨fun h => ?_, fun h => by rw [h]; rfl⟩
  exact (Prod.mk.inj (Except.ok.inj h)).1.symm

theorem acceptInvitation_of_takenUp {invitationId : String} {invitation : Invitation}
    (hfound : s.invitation? invitationId = some invitation) (h : TakenUp now s user invitation) :
    acceptInvitation now s user invitationId = ⟨acceptedStore now s user invitation, .ok ⟨⟩⟩ := by
  have hok : acceptOpenInvitation now s user invitation =
      .ok (acceptedStore now s user invitation, ⟨⟩) :=
    (acceptOpenInvitation_eq_ok h.user_found).mpr ⟨h.organization, rfl⟩
  simp [acceptInvitation, hfound, h.owner, h.pending, h.unexpired, hok, commit]

/-- Everything a call of `acceptInvitation` can do: take the invitation up, confirm that it was
taken up before, or throw, for an invitation that has run out after marking it. -/
theorem acceptInvitation_cases (now : Millis) (invitationId : String)
    (huser : s.user? user.id = some user) :
    (∃ invitation, s.invitation? invitationId = some invitation ∧ TakenUp now s user invitation) ∨
      (acceptInvitation now s user invitationId = ⟨s, .ok ⟨⟩⟩ ∧
        ∃ invitation, s.invitation? invitationId = some invitation ∧
          inviteeMatches invitation user = true ∧
          invitation.status = .accepted ∧ invitation.acceptedUserId = some user.id) ∨
      ((∃ e, (acceptInvitation now s user invitationId).answer = .error e) ∧
        ((acceptInvitation now s user invitationId).store = s ∨
          (acceptInvitation now s user invitationId).store =
            s.updateInvitation invitationId expiredData)) := by
  unfold acceptInvitation
  cases hfound : s.invitation? invitationId with
  | none => exact .inr (.inr ⟨⟨_, rfl⟩, .inl rfl⟩)
  | some invitation =>
    dsimp only
    split
    · exact .inr (.inr ⟨⟨_, rfl⟩, .inl rfl⟩)
    · next howner =>
      rw [Bool.not_eq_false] at howner
      split
      · split
        · next haccepted => exact .inr (.inl ⟨rfl, invitation, rfl, howner, haccepted⟩)
        · exact .inr (.inr ⟨⟨_, rfl⟩, .inl rfl⟩)
      · next hpending =>
        split
        · exact .inr (.inr ⟨⟨_, rfl⟩, .inr rfl⟩)
        · next hunexpired =>
          cases hopen : acceptOpenInvitation now s user invitation with
          | error e => exact .inr (.inr ⟨⟨e, rfl⟩, .inl rfl⟩)
          | ok result =>
            obtain ⟨horganization, -⟩ := (acceptOpenInvitation_eq_ok huser).mp hopen
            exact .inl ⟨invitation, rfl, howner, not_not.mp hpending, by simpa using hunexpired, huser, horganization⟩

/-- A membership is all that `upsertMembership` writes. -/
theorem upsertMembership_eq (s : Store) (current : User) (invitation : Invitation) :
    ∃ memberships, upsertMembership s current invitation = { s with memberships } := by
  unfold upsertMembership
  split
  · split <;> exact ⟨_, rfl⟩
  · exact ⟨_, rfl⟩

theorem user?_acceptedStore {invitation : Invitation} (userId : String) :
    (acceptedStore now s user invitation).user? userId =
      (s.updateUser user.id (inviteeData invitation)).user? userId := by
  obtain ⟨memberships, hstore⟩ :=
    upsertMembership_eq (s.updateUser user.id (inviteeData invitation)) user invitation
  rw [acceptedStore, hstore]
  rfl

theorem assignments_acceptedStore {invitation : Invitation} :
    (acceptedStore now s user invitation).assignments = s.assignments := by
  obtain ⟨memberships, hstore⟩ :=
    upsertMembership_eq (s.updateUser user.id (inviteeData invitation)) user invitation
  rw [acceptedStore, hstore]
  rfl

theorem invitation?_acceptedStore {invitation : Invitation} (invitationId : String) :
    (acceptedStore now s user invitation).invitation? invitationId =
      (s.updateInvitation invitation.id
      (acceptedData now ((inviteeData invitation).apply user))).invitation? invitationId := by
  obtain ⟨memberships, hstore⟩ :=
    upsertMembership_eq (s.updateUser user.id (inviteeData invitation)) user invitation
  rw [acceptedStore, hstore]
  rfl

end FixZone.UsersService
