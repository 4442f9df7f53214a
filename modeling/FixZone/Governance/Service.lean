import FixZone.Accounts

/-!
# The governance service

`GovernanceService` as far as it delegates administration: the roles it may delegate and what
they are worth (`expandedPermissions`), and the four operations. `createSubAdmin` makes an
account with a role, `setSubAdminStatus` activates or suspends it, `assignPermissions` and
`assignScopes` record what it is to have. The requests have no declared type, so their
fields are whatever JSON came in. The audit log is left out.
-/

namespace FixZone.GovernanceService

open Library Accounts
open ReportService (HttpError forbidden notFound conflict badRequest typeError)

/-! ### Roles -/

/-- `governanceAdminRoles`. -/
def governanceAdminRoles : List UserRole :=
  [.platformOwner, .executiveSuperAdmin, .technicalAdmin, .billingAdmin, .legalAdmin,
    .assignmentAdmin, .assetAdmin, .complianceAdmin, .regulatoryAdmin, .supportAdmin]

/-- `roleInheritance`. -/
def roleInheritance : UserRole → List UserRole
  | .platformOwner => [.superAdmin]
  | .executiveSuperAdmin => [.superAdmin]
  | .technicalAdmin => [.supportAdmin]
  | .legalAdmin => [.complianceAdmin]
  | .regulatoryAdmin => [.complianceAdmin]
  | _ => []

/-- `rolePermissions`. -/
def rolePermissions : UserRole → List String
  | .platformOwner => ["platform.*", "governance.*", "delegation.*", "audit.read"]
  | .executiveSuperAdmin =>
  ["organizations.read", "analytics.read", "regulatory.read", "audit.read"]
  | .technicalAdmin => ["diagnostics.read", "monitoring.read", "support.tools"]
  | .billingAdmin => ["billing.read", "subscriptions.manage", "invoices.manage", "refunds.review"]
  | .legalAdmin => ["disputes.manage", "evidence.review", "regulatory.exports.request"]
  | .assignmentAdmin => ["routing.manage", "assignments.override", "agencies.assign"]
  | .assetAdmin => ["assets.review", "ownership.review", "jurisdiction.manage"]
  | .complianceAdmin => ["retention.review", "privacy.review", "exports.approve"]
  | .regulatoryAdmin => ["regulatory.cases.manage", "regulatory.exports.prepare"]
  | .supportAdmin => ["support.read", "users.assist"]
  | _ => []

/-- `expandedPermissions`. -/
def expandedPermissions (role : UserRole) : List String :=
  (rolePermissions role ++ (roleInheritance role).flatMap rolePermissions).eraseDups

/-! ### Reading a request -/

/-- `stringList`. -/
def stringList (raw : Option Json) : Except HttpError (List String) :=
  match raw with
  | some (.arr items) => do
    let texts ← items.mapM fun item => orThrow item.toText typeError
    return (texts.map trim).filter (· ≠ "")
  | _ => .ok []

/-- One item of `scopeList`. -/
def scopeItem (item : Json) : Except HttpError DelegatedScope := do
  let field name := (Json.obj (objectRecord (some item))).field? name
  let text ← orThrow (textOr "ORGANIZATION" (field "scopeType")) typeError
  let scopeType ← orThrow (AdminScopeType.ofText? (toUpperCase (trim text)))
    (badRequest "Invalid admin scope type")
  let permissions ← stringList (field "permissions")
  return { scopeType, scopeRef := normalizeText (field "scopeRef")
           organizationId := normalizeText (field "organizationId"), permissions }

/-- `scopeList`. -/
def scopeList (raw : Option Json) : Except HttpError (List DelegatedScope) :=
  match raw with
  | some (.arr items) => items.mapM scopeItem
  | _ => .ok []

/-- `normalizeEmail`. -/
def normalizeEmail (raw : Option Json) : Except HttpError (Option String) :=
  match normalizeText raw with
  | none => .ok none
  | some text => do
    throwIf (isEmailText (toLowerCase text) = false) (badRequest "Enter a valid email address")
    return some (toLowerCase text)

/-- `parseSubAdminRole`. -/
def parseSubAdminRole (raw : Option Json) : Except HttpError UserRole := do
  let text ← orThrow (textOr "" raw) typeError
  orThrow ((UserRole.ofText? (toUpperCase (trim text))).filter (governanceAdminRoles.contains ·))
    (badRequest "Invalid delegated admin role")

/-- `resolveOrganizationScope`, for the organization a request names. -/
def resolveOrganizationScope (organizationId : Option Json) (user : User) : Option String :=
  if user.role = .superAdmin ∨ user.role = .platformOwner then
    normalizeText organizationId <|> user.organizationId
  else user.organizationId

/-! ### The checks -/

/-- `assertDelegationAdmin`. -/
def assertDelegationAdmin (user : User) : Except HttpError PUnit :=
  throwIf (user.role ≠ .superAdmin ∧ user.role ≠ .platformOwner ∧ user.role ≠ .executiveSuperAdmin)
    (forbidden "Delegated administration access required")

/-- `findSubAdmin`. -/
def findSubAdmin (s : Store) (id : String) (user : User) : Except HttpError User := do
  let existing ← orThrow ((s.user? id).filter fun row => governanceAdminRoles.contains row.role)
    (notFound "Sub-admin not found")
  throwIf (user.role ≠ .superAdmin ∧ user.role ≠ .platformOwner ∧
    existing.organizationId ≠ user.organizationId)
    (forbidden "Sub-admin is outside your scope")
  return existing

/-! ### The operations -/

/-- The fields of the requests. -/
structure DelegationDto where
  role : Option Json := none
  email : Option Json := none
  phone : Option Json := none
  fullName : Option Json := none
  organizationId : Option Json := none
  permissions : Option Json := none
  scopes : Option Json := none
  reason : Option Json := none

/-- A scope as it is stored. -/
def scopeJson (scope : DelegatedScope) : Json :=
  .obj [("scopeType", .str scope.scopeType.text), ("scopeRef", optionalJson scope.scopeRef),
    ("organizationId", optionalJson scope.organizationId),
    ("permissions", .arr (scope.permissions.map .str))]

/-- The account of a new sub-admin. -/
def subAdminRow (newId : String) (role : UserRole) (organizationId email phone : Option String)
    (dto : DelegationDto) (permissions : List String) (scopes : List DelegatedScope) : User where
  id := newId
  email
  phone
  fullName := (normalizeText dto.fullName).getD "Delegated Admin"
  role
  accountStatus := .pendingInvite
  organizationId
  profileData :=
    some (.obj [("delegatedAdmin", .bool true), ("permissions", .arr (permissions.map .str)),
    ("scopes", .arr (scopes.map scopeJson))])

/-- The authority that is recorded for a new sub-admin. -/
def subAdminAuthority (newId : String) (user : User) (role : UserRole)
    (organizationId : Option String)
    (dto : DelegationDto) (permissions : List String) (scopes : List DelegatedScope) :
    DelegatedAuthority where
  userId := newId
  delegatedById := user.id
  organizationId
  role
  permissions
  scopes
  reason := normalizeText dto.reason

/-- `createSubAdmin`. -/
def createSubAdmin (newId : String) (s : Store) (user : User) (dto : DelegationDto) :
    Except HttpError (Store × User) := do
  assertDelegationAdmin user
  let role ← parseSubAdminRole dto.role
  let email ← normalizeEmail dto.email
  let phone := normalizeText dto.phone
  let organizationId := resolveOrganizationScope dto.organizationId user
  throwIf (email = none ∧ phone = none) (badRequest "Email or phone is required")
  throwIf (s.users.rows.any fun row => (email.isSome && row.email = email) ||
    (phone.isSome && row.phone = phone))
    { kind := .conflict, code := some "SUB_ADMIN_IDENTITY_EXISTS"
      message := "A SecureZone user already exists with this email or phone." }
  let permissions ← stringList dto.permissions
  let scopes ← scopeList dto.scopes
  checkOrganization s organizationId
  throwIf (s.user? newId).isSome uniqueError
  let row := subAdminRow newId role organizationId email phone dto permissions scopes
  return ((s.insertUser row).addAuthority
    (subAdminAuthority newId user role organizationId dto permissions scopes), row)

/-- The column of an account whose status is set. -/
@[simp] def statusData (status : AccountStatus) : Patch User.id where
  apply row := { row with accountStatus := status }

/-- `setSubAdminStatus`. -/
def setSubAdminStatus (s : Store) (user : User) (id : String) (status : AccountStatus) :
    Except HttpError (Store × User) := do
  assertDelegationAdmin user
  throwIf (user.id = id) (forbidden "You cannot change your own status here")
  let existing ← findSubAdmin s id user
  return (s.updateUser id (statusData status), (statusData status).apply existing)

/-- The authority `assignPermissions` records. -/
def assignedAuthority (user target : User) (dto : DelegationDto) (permissions : List String) :
    DelegatedAuthority where
  userId := target.id
  delegatedById := user.id
  organizationId := target.organizationId
  role := target.role
  permissions
  reason := normalizeText dto.reason

/-- `assignPermissions`. -/
def assignPermissions (s : Store) (user : User) (id : String) (dto : DelegationDto) :
    Except HttpError (Store × DelegatedAuthority) := do
  assertDelegationAdmin user
  let target ← findSubAdmin s id user
  let permissions ← stringList dto.permissions
  throwIf (permissions = []) (badRequest "At least one permission is required")
  let record := assignedAuthority user target dto permissions
  return (s.addAuthority record, record)

/-- The row of a scope that is assigned. -/
def assignedScope (user target : User) (scope : DelegatedScope) : AdminScope where
  userId := target.id
  scopeType := scope.scopeType
  scopeRef := scope.scopeRef
  organizationId := scope.organizationId <|> target.organizationId
  permissions := scope.permissions
  createdById := some user.id

/-- `assignScopes`. -/
def assignScopes (s : Store) (user : User) (id : String) (dto : DelegationDto) :
    Except HttpError (Store × List AdminScope) := do
  assertDelegationAdmin user
  let target ← findSubAdmin s id user
  let scopes ← scopeList dto.scopes
  throwIf (scopes = []) (badRequest "At least one scope is required")
  let rows := scopes.map (assignedScope user target)
  return (s.addScopes rows, rows)

end FixZone.GovernanceService
