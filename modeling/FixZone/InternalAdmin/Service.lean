import FixZone.Accounts
import FixZone.InternalAdmin.RoleCatalog

/-!
# The internal administration service

`InternalAdminService`: what an administrator may do, and the three operations that
give a role away. `inviteAdministrator` stores an invitation, `acceptInvitation`
turns it into a role and a role assignment of the user who calls it, and `assignRole`
adds an assignment to another user. A user's permissions are collected over the own
role and the active assignments, and so are the scopes.

A method is split where its code is: the part that checks says what row to write, and
the method writes it. The acting user is the row `JwtStrategy` found.
-/

namespace FixZone.InternalAdminService

open Library Accounts
open ReportService (HttpError forbidden notFound conflict badRequest)

/-- What a request finds around the store: the environment of the process, the clock, what `new
Date` reads in a text, and the id the database gives to a new row. -/
structure Server where
  env : ProcessEnv
  now : Millis
  date : String → Option Millis := fun _ => none
  newId : String

/-- `InternalScope`. -/
structure InternalScope where
  type : InternalScopeType
  ref : Option String := none
  organizationId : Option String := none
  moduleKey : Option String := none
  jurisdiction : Option Json := none

/-- `EffectivePermissionResult`. -/
structure EffectivePermissionResult where
  userId : String
  role : UserRole
  permissions : List InternalPermissionKey
  scopes : List InternalScope

/-! ### Effective permissions -/

section Effective

variable (env : ProcessEnv) (now : Millis) (s : Store)

/-- `permissionArray`. -/
def permissionArray (raw : Json) : List InternalPermissionKey :=
  match raw with
  | .arr items => items.filterMap fun
    | .str text => InternalPermissionKey.ofText? text
    | _ => none
  | _ => []

/-- `permissionsSnapshot: definition.permissions`. -/
def permissionsSnapshot (permissions : List InternalPermissionKey) : Json :=
  .arr (permissions.map fun p => .str p.text)

/-- The condition of the query for active assignments. -/
def activeAt (assignment : InternalRoleAssignment) : Bool :=
  assignment.status = .active && assignment.startsAt ≤ now && assignment.expiresAt.all (now < ·)

/-- The active assignments of a user. -/
def activeAssignments (userId : String) : List InternalRoleAssignment :=
  s.assignments.rows.filter fun assignment => assignment.userId = userId && activeAt now assignment

/-- The scope of the own role. -/
def roleScope (user : User) : InternalScope :=
  { type := .platform, organizationId := user.organizationId }

/-- The scope of an assignment. -/
def assignmentScope (assignment : InternalRoleAssignment) : InternalScope where
  type := assignment.scopeType
  ref := assignment.scopeRef
  organizationId := assignment.organizationId
  moduleKey := assignment.moduleKey
  jurisdiction := some (.obj (objectRecord assignment.jurisdiction))

/-- `effectivePermissionsForUser`, for the row of the user. -/
def effectivePermissionsForUser (user : User) : EffectivePermissionResult :=
  if user.accountStatus = .suspended then ⟨user.id, user.role, [], []⟩
  else
    let rolePermissions := permissionsForRole env user.role
    let assignments := activeAssignments now s user.id
    let assignmentPermissions := assignments.flatMap fun assignment =>
      permissionArray assignment.permissionsSnapshot
    { userId := user.id
      role := user.role
      permissions := (rolePermissions ++ assignmentPermissions).eraseDups
      scopes := (if rolePermissions = [] then [] else
        [roleScope user]) ++ assignments.map assignmentScope }

/-- `hasPermission`. -/
def hasPermission (user : User) (permission : InternalPermissionKey)
    (organizationId : Option String) : Bool :=
  let effective := effectivePermissionsForUser env now s user
  effective.permissions.contains permission &&
    (!truthy organizationId ||
      effective.scopes.any (fun scope =>
        scope.type = .platform || scope.organizationId = organizationId ||
          scope.ref = organizationId) ||
      user.organizationId = organizationId)

/-- `assertPermission`. -/
def assertPermission (user : User) (permission : InternalPermissionKey) : Except HttpError PUnit :=
  throwIf (hasPermission env now s user permission none = false)
    (forbidden ("Permission required: " ++ permission.text))

end Effective

/-! ### The checks of a grant -/

/-- `requiredText`. -/
def requiredText (raw : Option String) (field : String) : Except HttpError String :=
  orThrow (trimmedOrNull raw) (badRequest (field ++ " is required."))

/-- `parseInternalRole`. -/
def parseInternalRole (raw : String) : Except HttpError UserRole := do
  let text ← requiredText (some raw) "role"
  let role ← orThrow (UserRole.ofText? (toUpperCase text))
    (badRequest "Invalid internal administrator role.")
  throwIf (resolveInternalRoleDefinition role = none)
    (badRequest "Invalid internal administrator role.")
  return role

/-- `requireEnabledRole`. -/
def requireEnabledRole (env : ProcessEnv) (role : UserRole) :
    Except HttpError InternalRoleDefinition := do
  let definition ← orThrow (resolveInternalRoleDefinition role)
    (badRequest "Invalid internal administrator role.")
  throwIf (roleDefinitionEnabled env definition = false)
    { kind := .forbidden, code := some "INTERNAL_ROLE_FEATURE_DISABLED"
      message := "This internal role is blocked because its enterprise foundation is disabled." }
  return definition

/-- `assertGrantCeiling`. -/
def assertGrantCeiling (env : ProcessEnv) (user : User) (requested : List InternalPermissionKey) :
    Except HttpError PUnit :=
  if user.role = .superAdmin ∨ user.role = .platformSuperAdmin then .ok ⟨⟩
  else
    throwIf ((requested.filter fun p => !(permissionsForRole env user.role).contains p) ≠ [])
      (forbidden "Cannot grant permissions outside your effective authority.")

/-- The fields of a request that name a scope. -/
structure ScopeDto where
  scopeType : Option String := none
  scopeRef : Option String := none
  organizationId : Option String := none
  moduleKey : Option String := none

/-- `resolveScope`. -/
def resolveScope (dto : ScopeDto) (fallback : InternalScopeType) (user : User) :
    Except HttpError InternalScope := do
  let type ←
    if truthy dto.scopeType then
      orThrow (InternalScopeType.ofText? (toUpperCase (trimmed dto.scopeType)))
        (badRequest "Invalid internal admin scope type.")
    else .ok fallback
  let organizationId := trimmedOrNull dto.organizationId
  throwIf (truthy user.organizationId ∧ organizationId ≠ none ∧
    organizationId ≠ user.organizationId)
    (forbidden "Cannot widen scope outside actor organization.")
  return {
    type
    ref := trimmedOrNull dto.scopeRef
    organizationId := organizationId <|> user.organizationId
    moduleKey := trimmedOrNull dto.moduleKey }

/-- `normalizeEmail`. -/
def normalizeEmail (raw : String) : Except HttpError String := do
  let text ← requiredText (some raw) "email"
  let email := toLowerCase text
  throwIf (isEmailText email = false) (badRequest "Enter a valid email address.")
  return email

/-- `optionalDate`. -/
def optionalDate (server : Server) (raw : Option String) : Except HttpError (Option Millis) :=
  match trimmedOrNull raw with
  | none => .ok none
  | some text => do
    let date ← orThrow (server.date text) (badRequest "Invalid date.")
    return some date

/-- `defaultExpiry`. -/
def defaultExpiry (now : Millis) : Millis := now + 7 * 24 * 60 * 60000

/-- `createApprovalRequest` for the grant of a role that needs two approvals. The role is one that
was parsed before. -/
def createApprovalRequest (server : Server) (s : Store) (user : User) (targetUserId : Option String)
    (role : UserRole)
    (reason : Option String) (blockedReason : String) : Except HttpError Store := do
  assertPermission server.env server.now s user .internalAdminAssignRole
  return s.addApproval {
    operationType := .platformSuperAdminGrant
    requesterId := user.id
    targetUserId := trimmedOrNull targetUserId
    requestedRole := some role
    reason := trimmedOrNull reason
    blockedReason }

/-! ### Inviting -/

/-- `InviteInternalAdminDto`. -/
structure InviteInternalAdminDto extends ScopeDto where
  fullName : String
  email : String
  role : String
  reason : Option String := none
  expiresAt : Option String := none

/-- A scope in the metadata of an invitation. -/
def scopeJson (scope : InternalScope) : Json :=
  .obj [("type", .str scope.type.text), ("ref", optionalJson scope.ref),
    ("organizationId", optionalJson scope.organizationId),
    ("moduleKey", optionalJson scope.moduleKey), ("jurisdiction", scope.jurisdiction.getD .null)]

/-- The `source` of the metadata of an invitation of this service. -/
def delegationSource : String := "internal_admin_delegation"

/-- The metadata of an invitation; what is kept to show to the client is left out. -/
def invitationMetadata (scope : InternalScope) (version : ℕ) : Json :=
  .obj [("source", .str delegationSource), ("scope", scopeJson scope),
    ("roleDefinitionVersion", .num (toString version))]

/-- What `inviteAdministrator` and `assignRole` answer. -/
inductive Granting (α : Type) where
  /-- The row was created. -/
  | created (row : α)
  /-- The same was asked for before and is still open. -/
  | existing (row : α)
  /-- The role needs two approvals: a request for them was stored. -/
  | approvalRequested

/-- `inviteAdministrator`. -/
def inviteAdministrator (server : Server) (s : Store) (user : User) (dto : InviteInternalAdminDto) :
    Except HttpError (Store × Granting Invitation) := do
  assertPermission server.env server.now s user .internalAdminInvite
  let role ← parseInternalRole dto.role
  let definition ← requireEnabledRole server.env role
  assertGrantCeiling server.env user definition.permissions
  if definition.highRiskGrant then
    let s' ← createApprovalRequest server s user none role dto.reason
      "Platform super-admin invitation requires dual approval."
    return (s', .approvalRequested)
  else
    let email ← normalizeEmail dto.email
    throwIf (s.users.rows.any fun row => row.email = some email)
      (conflict "A user already exists with this email.")
    match s.invitations.rows.find? fun row => row.email = some email && row.status = .pending &&
      row.role = role with
    | some duplicate => return (s, .existing duplicate)
    | none =>
      let scope ← resolveScope dto.toScopeDto definition.defaultScopeType user
      let fullName ← requiredText (some dto.fullName) "fullName"
      let expiresAt ← optionalDate server dto.expiresAt
      checkOrganization s scope.organizationId
      let invitation : Invitation :=
        { id := server.newId
          email := some email
          fullName
          role
          organizationId := scope.organizationId
          invitedById := user.id
          metadata := some (invitationMetadata scope definition.version)
          expiresAt := some (expiresAt.getD (defaultExpiry server.now)) }
      throwIf (s.invitation? server.newId).isSome uniqueError
      return (s.insertInvitation invitation, .created invitation)

/-! ### Accepting -/

/-- `scopeFromMetadata`. -/
def scopeFromMetadata (metadata : List (String × Json)) : InternalScope :=
  let field name := (objectRecord ((Json.obj metadata).field? "scope") |> Json.obj).field? name
  { type := ((field "type").bind fun
      | .str text => InternalScopeType.ofText? text
      | _ => none).getD .platform
    ref := normalizeText (field "ref")
    organizationId := normalizeText (field "organizationId")
    moduleKey := normalizeText (field "moduleKey")
    jurisdiction := some (.obj (objectRecord (field "jurisdiction"))) }

/-- `mfaReadiness`. -/
def mfaReadiness : Json :=
  .obj [("required", .bool true), ("enforced", .bool false),
    ("state", .str "blocked_until_mfa_foundation"),
    ("fallbackMessage",
    .str ("MFA is required for privileged administration, but enforcement is " ++
      "blocked until the MFA foundation is enabled."))]

/-- The profile of a user who has become an administrator. -/
def administratorProfile : List (String × Json) :=
  [("internalAdmin", .bool true), ("mfaReadiness", mfaReadiness)]

/-- The columns of the user an accepted invitation writes. -/
@[simp] def administratorData (role : UserRole) (scope : InternalScope) : Patch User.id where
  apply row := { row with
    role
    accountStatus := .active
    organizationId := scope.organizationId <|> row.organizationId
    profileData := some (.obj administratorProfile) }

/-- The columns of the invitation that is accepted. -/
@[simp] def acceptedData (now : Millis) (userId : String) : Patch Invitation.id where
  apply row :=
    { row with status := .accepted, acceptedUserId := some userId, acceptedAt := some now }

/-- The column of the invitation that has run out. -/
@[simp] def expiredData : Patch Invitation.id where
  apply row := { row with status := .expired }

/-- The assignment an accepted invitation creates. -/
def acceptedAssignment (server : Server) (user : User) (invitation : Invitation)
    (definition : InternalRoleDefinition) (scope : InternalScope) : InternalRoleAssignment where
  id := server.newId
  userId := user.id
  role := invitation.role
  scopeType := scope.type
  scopeRef := scope.ref
  organizationId := scope.organizationId
  moduleKey := scope.moduleKey
  jurisdiction := scope.jurisdiction
  permissionsSnapshot := permissionsSnapshot definition.permissions
  roleDefinitionVersion := definition.version
  assignedById := invitation.invitedById
  reason := some "Invitation accepted."
  startsAt := server.now
  expiresAt := invitation.expiresAt

/-- The scope an invitation carries. -/
def invitationScope (invitation : Invitation) : InternalScope :=
  scopeFromMetadata (objectRecord invitation.metadata)

/-- The writes of `acceptInvitation`. -/
def acceptedStore (server : Server) (s : Store) (user : User) (invitation : Invitation)
    (definition : InternalRoleDefinition) : Store :=
  let scope := invitationScope invitation
  ((s.updateUser user.id (administratorData invitation.role scope)).insertAssignment
    (acceptedAssignment server user invitation definition scope)).updateInvitation invitation.id
      (acceptedData server.now user.id)

/-- `acceptInvitation` after it has found an open invitation. -/
def acceptOpenInvitation (server : Server) (s : Store) (user : User) (invitation : Invitation) :
    Except HttpError (Store × InternalRoleDefinition) := do
  throwIf (truthy invitation.email ∧ truthy user.email ∧
      invitation.email.map toLowerCase ≠ user.email.map toLowerCase)
    (forbidden "Invitation is not assigned to this user.")
  let definition ← requireEnabledRole server.env invitation.role
  checkOrganization s (invitationScope invitation).organizationId
  throwIf (s.user? user.id = none) missingRowError
  throwIf (s.assignments.find? server.newId).isSome uniqueError
  return (acceptedStore server s user invitation definition, definition)

/-- `acceptInvitation`. It answers with the definition of the role; the effective permissions the
code answers with can be read off the store. -/
def acceptInvitation (server : Server) (s : Store) (user : User) (invitationId : String) :
    Reply InternalRoleDefinition :=
  match s.invitation? invitationId with
  | none => ⟨s, .error (notFound "Invitation not found")⟩
  | some invitation =>
    if invitation.status ≠ .pending then ⟨s, .error (badRequest "Invitation is no longer pending.")⟩
    else if invitation.lapsed server.now then
      ⟨s.updateInvitation invitationId expiredData, .error (badRequest "Invitation has expired.")⟩
    else commit s (acceptOpenInvitation server s user invitation)

/-! ### Assigning -/

/-- `AssignInternalRoleDto`. -/
structure AssignInternalRoleDto extends ScopeDto where
  role : String
  startsAt : Option String := none
  expiresAt : Option String := none
  reason : Option String := none

/-- The assignment `assignRole` creates. -/
def assignedRow (server : Server) (user : User) (targetUserId : String)
    (definition : InternalRoleDefinition)
    (scope : InternalScope) (startsAt expiresAt : Option Millis) (reason : Option String) :
    InternalRoleAssignment where
  id := server.newId
  userId := targetUserId
  role := definition.role
  scopeType := scope.type
  scopeRef := scope.ref
  organizationId := scope.organizationId
  moduleKey := scope.moduleKey
  jurisdiction := none
  permissionsSnapshot := permissionsSnapshot definition.permissions
  roleDefinitionVersion := definition.version
  assignedById := user.id
  reason := trimmedOrNull reason
  startsAt := startsAt.getD server.now
  expiresAt

/-- `assignRole`. -/
def assignRole (server : Server) (s : Store) (user : User) (targetUserId : String)
    (dto : AssignInternalRoleDto) : Except HttpError (Store × Granting InternalRoleAssignment) := do
  assertPermission server.env server.now s user .internalAdminAssignRole
  throwIf (user.id = targetUserId) (forbidden "Administrators cannot promote themselves.")
  let role ← parseInternalRole dto.role
  let definition ← requireEnabledRole server.env role
  assertGrantCeiling server.env user definition.permissions
  if definition.highRiskGrant then
    let s' ← createApprovalRequest server s user (some targetUserId) role dto.reason
      "Platform super-admin grant requires dual approval."
    return (s', .approvalRequested)
  else
    throwIf (s.user? targetUserId = none) (notFound "Administrator not found")
    let scope ← resolveScope dto.toScopeDto definition.defaultScopeType user
    let startsAt ← optionalDate server dto.startsAt
    let expiresAt ← optionalDate server dto.expiresAt
    let row := assignedRow server user targetUserId definition scope startsAt expiresAt dto.reason
    throwIf (s.assignments.find? server.newId).isSome uniqueError
    return (s.insertAssignment row, .created row)

/-! ### What the operations do -/

variable {server : Server} {s s' : Store} {user : User}

theorem permissionArray_permissionsSnapshot (permissions : List InternalPermissionKey) :
    permissionArray (permissionsSnapshot permissions) = permissions := by
  simp [permissionArray, permissionsSnapshot, List.filterMap_map,
    InternalPermissionKey.ofText?_text]

theorem assertPermission_eq_ok {env : ProcessEnv} {now : Millis} {p : InternalPermissionKey} :
    assertPermission env now s user p = .ok ⟨⟩ ↔ hasPermission env now s user p none = true := by
  rw [assertPermission, throwIf_eq_ok, Bool.not_eq_false]

theorem requireEnabledRole_eq_ok {env : ProcessEnv} {role : UserRole}
    {definition : InternalRoleDefinition} :
    requireEnabledRole env role = .ok definition ↔
      resolveInternalRoleDefinition role = some definition ∧
        roleDefinitionEnabled env definition = true := by
  unfold requireEnabledRole
  constructor
  · intro h
    obtain ⟨definition', hresolve, h⟩ := orThrow_bind_eq_ok.mp h
    obtain ⟨henabled, h⟩ := throwIf_bind_eq_ok.mp h
    obtain rfl := Except.ok.inj h
    exact ⟨hresolve, by rwa [Bool.not_eq_false] at henabled⟩
  · rintro ⟨hresolve, henabled⟩
    simp [hresolve, henabled]

/-- The ceiling lets through what is among the permissions of the own role. -/
theorem assertGrantCeiling_eq_ok {env : ProcessEnv} {requested : List InternalPermissionKey} :
    assertGrantCeiling env user requested = .ok ⟨⟩ ↔
      ∀ p ∈ requested, p ∈ permissionsForRole env user.role := by
  unfold assertGrantCeiling
  split
  · next hany =>
    refine iff_of_true rfl fun p _ => ?_
    have hall : permissionsForRole env user.role = internalAdminPermissionKeys := by
      rcases hany with hrole | hrole <;> rw [hrole]
      · exact permissionsForRole_superAdmin env
      · exact permissionsForRole_platformSuperAdmin env
    rw [hall]
    exact mem_internalAdminPermissionKeys p
  · simp only [throwIf_eq_ok, not_not, List.filter_eq_nil_iff, Bool.not_eq_true', Bool.not_eq_false,
      List.contains_iff_mem]

/-- The texts of a resolved scope are the ones of the request, trimmed. -/
theorem resolveScope_eq_ok {scope : InternalScope} {dto : ScopeDto} {fallback : InternalScopeType}
    (h : resolveScope dto fallback user = .ok scope) :
    scope.ref = trimmedOrNull dto.scopeRef ∧ scope.moduleKey = trimmedOrNull dto.moduleKey := by
  unfold resolveScope at h
  dsimp only at h
  split at h
  all_goals
    obtain ⟨type, -, h⟩ := bind_eq_ok.mp h
    obtain ⟨-, h⟩ := throwIf_bind_eq_ok.mp h
    rw [← pure_eq_ok.mp h]
    simp only [and_self]

/-- What every grant was checked for, and the role it gives. -/
structure Grantable (server : Server) (s : Store) (user : User) (permission : InternalPermissionKey)
    (definition : InternalRoleDefinition) : Prop where
  permitted : hasPermission server.env server.now s user permission none = true
  resolved : resolveInternalRoleDefinition definition.role = some definition
  enabled : roleDefinitionEnabled server.env definition = true
  ceiling : ∀ p ∈ definition.permissions, p ∈ permissionsForRole server.env user.role

/-- What a successful invitation does: nothing, a request for approvals, or a new invitation that
carries the scope that was resolved. -/
inductive InviteEffect (server : Server) (s : Store) (user : User) (dto : InviteInternalAdminDto)
    (definition : InternalRoleDefinition) : Store → Granting Invitation → Prop where
  | approval (request : PrivilegedApprovalRequest) (high : definition.highRiskGrant = true) :
      InviteEffect server s user dto definition (s.addApproval request) .approvalRequested
  | existing (row : Invitation) (mem : row ∈ s.invitations.rows) (role : row.role = definition.role)
      (pending : row.status = .pending) (low : definition.highRiskGrant = false) :
      InviteEffect server s user dto definition s (.existing row)
  | created (row : Invitation) (scope : InternalScope) (low : definition.highRiskGrant = false)
      (resolved : resolveScope dto.toScopeDto definition.defaultScopeType user = .ok scope)
      (id : row.id = server.newId) (free : s.invitation? server.newId = none)
      (role : row.role = definition.role)
      (status : row.status = .pending) (inviter : row.invitedById = user.id)
      (email : row.email ≠ none)
      (metadata : row.metadata = some (invitationMetadata scope definition.version)) :
      InviteEffect server s user dto definition (s.insertInvitation row) (.created row)

theorem createApprovalRequest_eq_ok {targetUserId reason : Option String} {role : UserRole}
    {blockedReason : String}
    (h : createApprovalRequest server s user targetUserId role reason blockedReason = .ok s') :
    ∃ request, s' = s.addApproval request := by
  unfold createApprovalRequest at h
  obtain ⟨-, h⟩ := check_bind_eq_ok.mp h
  exact ⟨_, (Except.ok.inj h).symm⟩

theorem inviteAdministrator_eq_ok {dto : InviteInternalAdminDto} {answer : Granting Invitation}
    (h : inviteAdministrator server s user dto = .ok (s', answer)) :
    ∃ definition, Grantable server s user .internalAdminInvite definition ∧
      InviteEffect server s user dto definition s' answer := by
  unfold inviteAdministrator at h
  obtain ⟨hpermission, h⟩ := check_bind_eq_ok.mp h
  obtain ⟨role, -, h⟩ := bind_eq_ok.mp h
  obtain ⟨definition, hdefinition, h⟩ := bind_eq_ok.mp h
  obtain ⟨hceiling, h⟩ := check_bind_eq_ok.mp h
  obtain ⟨hresolve, henabled⟩ := requireEnabledRole_eq_ok.mp hdefinition
  have hrole := resolveInternalRoleDefinition_role hresolve
  refine ⟨definition, ⟨assertPermission_eq_ok.mp hpermission, hrole.symm ▸ hresolve, henabled,
    assertGrantCeiling_eq_ok.mp hceiling⟩, ?_⟩
  split at h
  · next hhigh =>
    obtain ⟨s'', happroval, h⟩ := bind_eq_ok.mp h
    obtain ⟨rfl, rfl⟩ := Prod.mk.inj (Except.ok.inj h)
    obtain ⟨request, rfl⟩ := createApprovalRequest_eq_ok happroval
    exact .approval request hhigh
  · next hlow =>
    rw [Bool.not_eq_true] at hlow
    obtain ⟨email, -, h⟩ := bind_eq_ok.mp h
    obtain ⟨-, h⟩ := throwIf_bind_eq_ok.mp h
    split at h
    · next duplicate hduplicate =>
      obtain ⟨rfl, rfl⟩ := Prod.mk.inj (Except.ok.inj h)
      have hmatch := List.find?_some hduplicate
      simp only [Bool.and_eq_true, decide_eq_true_eq] at hmatch
      exact .existing duplicate (List.mem_of_find?_eq_some hduplicate)
        (hmatch.2.trans hrole.symm) hmatch.1.2 hlow
    · obtain ⟨scope, hscope, h⟩ := bind_eq_ok.mp h
      obtain ⟨fullName, -, h⟩ := bind_eq_ok.mp h
      obtain ⟨expiresAt, -, h⟩ := bind_eq_ok.mp h
      obtain ⟨-, h⟩ := check_bind_eq_ok.mp h
      obtain ⟨hfree, h⟩ := throwIf_bind_eq_ok.mp h
      obtain ⟨rfl, rfl⟩ := Prod.mk.inj (Except.ok.inj h)
      rw [Option.isSome_iff_ne_none, not_not] at hfree
      exact .created _ scope hlow hscope rfl hfree hrole.symm rfl rfl (Option.some_ne_none _) rfl

/-- What `assignRole` was checked for when it creates an assignment. -/
structure Assignable (server : Server) (s : Store) (user : User) (targetUserId : String)
    (dto : AssignInternalRoleDto) (definition : InternalRoleDefinition) (scope : InternalScope)
    (startsAt expiresAt : Option Millis) : Prop extends
    Grantable server s user .internalAdminAssignRole definition where
  role : parseInternalRole dto.role = .ok definition.role
  low : definition.highRiskGrant = false
  other : user.id ≠ targetUserId
  target : s.user? targetUserId ≠ none
  scope_eq : resolveScope dto.toScopeDto definition.defaultScopeType user = .ok scope
  startsAt_eq : optionalDate server dto.startsAt = .ok startsAt
  expiresAt_eq : optionalDate server dto.expiresAt = .ok expiresAt
  free : s.assignments.find? server.newId = none

/-- What a successful `assignRole` does: a request for approvals, or a new assignment. -/
inductive AssignEffect (server : Server) (s : Store) (user : User) (targetUserId : String)
    (dto : AssignInternalRoleDto) : Store → Granting InternalRoleAssignment → Prop where
  | approval (request : PrivilegedApprovalRequest) :
      AssignEffect server s user targetUserId dto (s.addApproval request) .approvalRequested
  | created (definition : InternalRoleDefinition) (scope : InternalScope)
      (startsAt expiresAt : Option Millis)
      (h : Assignable server s user targetUserId dto definition scope startsAt expiresAt) :
      AssignEffect server s user targetUserId dto
        (s.insertAssignment
        (assignedRow server user targetUserId definition scope startsAt expiresAt dto.reason))
        (.created (assignedRow server user targetUserId definition scope startsAt expiresAt
          dto.reason))

theorem assignRole_eq_ok {targetUserId : String} {dto : AssignInternalRoleDto}
    {answer : Granting InternalRoleAssignment}
    (h : assignRole server s user targetUserId dto = .ok (s', answer)) :
    AssignEffect server s user targetUserId dto s' answer := by
  unfold assignRole at h
  obtain ⟨hpermission, h⟩ := check_bind_eq_ok.mp h
  obtain ⟨hother, h⟩ := throwIf_bind_eq_ok.mp h
  obtain ⟨role, hparse, h⟩ := bind_eq_ok.mp h
  obtain ⟨definition, hdefinition, h⟩ := bind_eq_ok.mp h
  obtain ⟨hceiling, h⟩ := check_bind_eq_ok.mp h
  obtain ⟨hresolve, henabled⟩ := requireEnabledRole_eq_ok.mp hdefinition
  obtain rfl := resolveInternalRoleDefinition_role hresolve
  split at h
  · obtain ⟨s'', happroval, h⟩ := bind_eq_ok.mp h
    obtain ⟨rfl, rfl⟩ := Prod.mk.inj (Except.ok.inj h)
    obtain ⟨request, rfl⟩ := createApprovalRequest_eq_ok happroval
    exact .approval request
  · next hlow =>
    obtain ⟨htarget, h⟩ := throwIf_bind_eq_ok.mp h
    obtain ⟨scope, hscope, h⟩ := bind_eq_ok.mp h
    obtain ⟨startsAt, hstarts, h⟩ := bind_eq_ok.mp h
    obtain ⟨expiresAt, hexpires, h⟩ := bind_eq_ok.mp h
    obtain ⟨hfree, h⟩ := throwIf_bind_eq_ok.mp h
    obtain ⟨rfl, rfl⟩ := Prod.mk.inj (Except.ok.inj h)
    exact .created definition scope startsAt expiresAt
      { permitted := assertPermission_eq_ok.mp hpermission
        resolved := hresolve
        enabled := henabled
        ceiling := assertGrantCeiling_eq_ok.mp hceiling
        role := hparse
        low := by simpa using hlow
        other := hother
        target := htarget
        scope_eq := hscope
        startsAt_eq := hstarts
        expiresAt_eq := hexpires
        free := by simpa using hfree }

/-- The checks are all there are. -/
theorem assignRole_of_assignable {targetUserId : String} {dto : AssignInternalRoleDto}
    {definition : InternalRoleDefinition} {scope : InternalScope}
    {startsAt expiresAt : Option Millis}
    (h : Assignable server s user targetUserId dto definition scope startsAt expiresAt) :
    assignRole server s user targetUserId dto =
      .ok (s.insertAssignment
        (assignedRow server user targetUserId definition scope startsAt expiresAt dto.reason),
        .created (assignedRow server user targetUserId definition scope startsAt expiresAt
          dto.reason)) := by
  unfold assignRole
  refine check_bind_eq_ok.mpr ⟨assertPermission_eq_ok.mpr h.permitted, ?_⟩
  refine throwIf_bind_eq_ok.mpr ⟨h.other, ?_⟩
  refine bind_eq_ok.mpr ⟨definition.role, h.role, ?_⟩
  refine bind_eq_ok.mpr ⟨definition, requireEnabledRole_eq_ok.mpr ⟨h.resolved, h.enabled⟩, ?_⟩
  refine check_bind_eq_ok.mpr ⟨assertGrantCeiling_eq_ok.mpr h.ceiling, ?_⟩
  rw [h.low, if_neg Bool.false_ne_true]
  refine throwIf_bind_eq_ok.mpr ⟨h.target, ?_⟩
  refine bind_eq_ok.mpr ⟨scope, h.scope_eq, ?_⟩
  refine bind_eq_ok.mpr ⟨startsAt, h.startsAt_eq, ?_⟩
  refine bind_eq_ok.mpr ⟨expiresAt, h.expiresAt_eq, throwIf_bind_eq_ok.mpr ⟨?_, rfl⟩⟩
  simp [h.free]

/-- What a successful acceptance was checked for. -/
structure Acceptable (server : Server) (s : Store) (user : User) (invitation : Invitation)
    (definition : InternalRoleDefinition) : Prop where
  pending : invitation.status = .pending
  unexpired : invitation.lapsed server.now = false
  owner : truthy invitation.email = true → truthy user.email = true →
    invitation.email.map toLowerCase = user.email.map toLowerCase
  resolved : resolveInternalRoleDefinition invitation.role = some definition
  enabled : roleDefinitionEnabled server.env definition = true
  organization : ∀ id, (invitationScope invitation).organizationId = some id →
    s.organization? id ≠ none
  user_found : s.user? user.id ≠ none
  free : s.assignments.find? server.newId = none

theorem acceptOpenInvitation_eq_ok {invitation : Invitation} {definition : InternalRoleDefinition}
    (hpending : invitation.status = .pending) (hunexpired : invitation.lapsed server.now = false) :
    acceptOpenInvitation server s user invitation = .ok (s', definition) ↔
      Acceptable server s user invitation definition ∧
        s' = acceptedStore server s user invitation definition := by
  unfold acceptOpenInvitation
  constructor
  · intro h
    obtain ⟨howner, h⟩ := throwIf_bind_eq_ok.mp h
    obtain ⟨definition', hdefinition, h⟩ := bind_eq_ok.mp h
    obtain ⟨horganization, h⟩ := check_bind_eq_ok.mp h
    obtain ⟨huser, h⟩ := throwIf_bind_eq_ok.mp h
    obtain ⟨hfree, h⟩ := throwIf_bind_eq_ok.mp h
    obtain ⟨rfl, rfl⟩ := Prod.mk.inj (Except.ok.inj h)
    obtain ⟨hresolved, henabled⟩ := requireEnabledRole_eq_ok.mp hdefinition
    refine ⟨⟨hpending, hunexpired, fun hemail hactor => ?_, hresolved, henabled,
      checkOrganization_eq_ok.mp horganization, huser, by simpa using hfree⟩, rfl⟩
    by_contra hne
    exact howner ⟨hemail, hactor, hne⟩
  · rintro ⟨h, rfl⟩
    refine throwIf_bind_eq_ok.mpr ⟨fun howner => howner.2.2 (h.owner howner.1 howner.2.1), ?_⟩
    refine bind_eq_ok.mpr ⟨definition, requireEnabledRole_eq_ok.mpr ⟨h.resolved, h.enabled⟩, ?_⟩
    refine check_bind_eq_ok.mpr ⟨checkOrganization_eq_ok.mpr h.organization, ?_⟩
    refine throwIf_bind_eq_ok.mpr ⟨h.user_found, throwIf_bind_eq_ok.mpr ⟨?_, rfl⟩⟩
    simp [h.free]

/-- An acceptance succeeds exactly where its checks do, and then the store is `acceptedStore`. -/
theorem acceptInvitation_answer_eq_ok {invitationId : String}
    {definition : InternalRoleDefinition} :
    (acceptInvitation server s user invitationId).answer = .ok definition ↔
      ∃ invitation, s.invitation? invitationId = some invitation ∧
        Acceptable server s user invitation definition := by
  unfold acceptInvitation
  cases hfind : s.invitation? invitationId with
  | none => simp
  | some invitation =>
    simp only [Option.some.injEq, exists_eq_left']
    split
    · next hstatus => simp only [reduceCtorEq, false_iff]; exact fun h => hstatus h.pending
    · next hpending =>
      rw [not_not] at hpending
      split
      · next hlapsed =>
        simp only [reduceCtorEq, false_iff]
        exact fun h => Bool.false_ne_true (h.unexpired.symm.trans hlapsed)
      · next hunexpired =>
        rw [Bool.not_eq_true] at hunexpired
        rw [commit_answer_eq_ok, acceptOpenInvitation_eq_ok hpending hunexpired]
        refine and_iff_left_of_imp fun h => ?_
        have hok := (acceptOpenInvitation_eq_ok hpending hunexpired).mpr ⟨h, rfl⟩
        rw [hok, commit]

/-- What a call of `acceptInvitation` does to the store: nothing, an expiry, or the writes of an
acceptance. -/
theorem acceptInvitation_store (server : Server) (s : Store) (user : User) (invitationId : String) :
    (acceptInvitation server s user invitationId).store = s ∨
      (acceptInvitation server s user invitationId).store =
        s.updateInvitation invitationId expiredData ∨
      ∃ invitation definition, s.invitation? invitationId = some invitation ∧
        Acceptable server s user invitation definition ∧
        (acceptInvitation server s user invitationId).store =
          acceptedStore server s user invitation definition := by
  unfold acceptInvitation
  cases hfind : s.invitation? invitationId with
  | none => exact .inl rfl
  | some invitation =>
    dsimp only
    split
    · exact .inl rfl
    · next hpending =>
      split
      · exact .inr (.inl rfl)
      · next hunexpired =>
        rw [not_not] at hpending
        rw [Bool.not_eq_true] at hunexpired
        rcases commit_store s
          (acceptOpenInvitation server s user invitation) with hsame | ⟨definition, hok⟩
        · exact .inl hsame
        · obtain ⟨hacceptable, hstore⟩ := (acceptOpenInvitation_eq_ok hpending hunexpired).mp hok
          exact .inr (.inr ⟨invitation, definition, rfl, hacceptable, hstore⟩)

theorem acceptInvitation_of_acceptable {invitationId : String} {invitation : Invitation}
    {definition : InternalRoleDefinition} (hfind : s.invitation? invitationId = some invitation)
    (h : Acceptable server s user invitation definition) :
    (acceptInvitation server s user invitationId).store =
      acceptedStore server s user invitation definition := by
  have hok := (acceptOpenInvitation_eq_ok h.pending h.unexpired).mpr ⟨h, rfl⟩
  unfold acceptInvitation
  rw [hfind]
  dsimp only
  rw [if_neg (not_not.mpr h.pending), h.unexpired, if_neg Bool.false_ne_true, hok, commit]

end FixZone.InternalAdminService
