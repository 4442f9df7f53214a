import FixZone.Library.Wildcard
import FixZone.Governance.Service

/-!
# The ceiling of delegation

What an administrator passes on should be within what the administrator has: the
permissions of the role (`expandedPermissions`, where `x.*` covers what begins with `x.`), and the
own organization, but for the owner of the platform. Where every call keeps to that, so does
any chain of them, because being covered is transitive (`Delegated.trans`).

The service compares neither the role nor the permissions of a request with those of the
administrator, and of a scope it takes the organization as it comes. What it does check makes the
ceiling hold exactly where the request keeps to it by itself (`delegation_covered_iff`): the role
is the administrator's own, since no other role of the service is covered by it.
-/

namespace FixZone.GovernanceService

open Library Accounts

/-! ### Being covered -/

/-- Every permission is among those of the role. -/
def Among (role : UserRole) (permissions : List String) : Prop :=
  Wildcard.Within '.' '*' ((expandedPermissions role).map String.toList)
    (permissions.map String.toList)

instance (role : UserRole) (permissions : List String) : Decidable (Among role permissions) :=
  inferInstanceAs (Decidable (Wildcard.Within _ _ _ _))

/-- The organization is the user's own, unless the user is the owner of the platform. -/
def OwnOrganization (user : User) (organizationId : Option String) : Prop :=
  user.role = .platformOwner ∨ organizationId = user.organizationId

/-- The user covers an account: its role and its organization. -/
structure CoversAccount (user row : User) : Prop where
  role : Among user.role (expandedPermissions row.role)
  organization : OwnOrganization user row.organizationId

/-- The user covers a scope, for an organization where the scope names none. -/
structure CoversScope (user : User) (organizationId : Option String)
    (scope : DelegatedScope) : Prop where
  permissions : Among user.role scope.permissions
  organization : OwnOrganization user (scope.organizationId <|> organizationId)

/-- The user covers a recorded authority. -/
structure CoversAuthority (user : User) (authority : DelegatedAuthority) : Prop where
  role : Among user.role (expandedPermissions authority.role)
  permissions : Among user.role authority.permissions
  organization : OwnOrganization user authority.organizationId
  scopes : ∀ scope ∈ authority.scopes, CoversScope user authority.organizationId scope

/-- What is in the second store and not in the first is covered by one of the given users:
accounts keep their role and organization or are new, authorities and scopes are added. -/
structure Delegated (By : User → Prop) (s s' : Store) : Prop where
  accounts : ∀ userId row, s'.user? userId = some row →
    (∃ before, s.user? userId = some before ∧ before.role = row.role ∧
      before.organizationId = row.organizationId) ∨
      ∃ user, By user ∧ CoversAccount user row
  authorities : ∃ added, s'.delegatedAuthorities = s.delegatedAuthorities ++ added ∧
    ∀ authority ∈ added, ∃ user, By user ∧ CoversAuthority user authority
  scopes : ∃ added, s'.adminScopes = s.adminScopes ++ added ∧
    ∀ scope ∈ added, ∃ user, By user ∧ CoversScope user none scope.toDelegatedScope

section Chains

variable {By By' : User → Prop} {s s' s'' : Store} {user user' row : User}

/-- Nobody else's permissions include those of the owner of the platform. -/
theorem eq_platformOwner_of_among {role : UserRole}
    (h : Among role (expandedPermissions .platformOwner)) :
    role = .platformOwner := by
  revert h
  cases role <;> decide +kernel

theorem Among.trans {role role' : UserRole} {permissions : List String}
    (h : Among role (expandedPermissions role'))
    (h' : Among role' permissions) : Among role permissions :=
  Wildcard.Within.trans (by decide) h h'

/-- An account covers one with the same role and organization. -/
theorem CoversAccount.of_eq (hrole : user.role = row.role)
    (horganization : user.organizationId = row.organizationId) :
    CoversAccount user row where
  role := hrole ▸ .refl _
  organization := .inr horganization.symm

theorem OwnOrganization.trans {organizationId : Option String} (h : CoversAccount user user')
    (h' : OwnOrganization user' organizationId) : OwnOrganization user organizationId := by
  rcases h' with howner | hown
  · exact .inl (eq_platformOwner_of_among (howner ▸ h.role))
  · rw [hown]
    exact h.organization

theorem CoversAccount.trans (h : CoversAccount user user') (h' : CoversAccount user' row) :
    CoversAccount user row where
  role := h.role.trans h'.role
  organization := .trans h h'.organization

theorem CoversScope.trans {organizationId : Option String} {scope : DelegatedScope}
    (h : CoversAccount user user')
    (h' : CoversScope user' organizationId scope) : CoversScope user organizationId scope where
  permissions := h.role.trans h'.permissions
  organization := .trans h h'.organization

theorem CoversAuthority.trans {authority : DelegatedAuthority} (h : CoversAccount user user')
    (h' : CoversAuthority user' authority) : CoversAuthority user authority where
  role := h.role.trans h'.role
  permissions := h.role.trans h'.permissions
  organization := .trans h h'.organization
  scopes scope hscope := .trans h (h'.scopes scope hscope)

theorem Delegated.refl (By : User → Prop) (s : Store) : Delegated By s s where
  accounts _ row hrow := .inl ⟨row, hrow, rfl, rfl⟩
  authorities := ⟨[], by simp⟩
  scopes := ⟨[], by simp⟩

theorem Delegated.mono (h : Delegated By s s') (hBy : ∀ user, By user → By' user) :
    Delegated By' s s' where
  accounts userId row hrow := (h.accounts userId row hrow).imp_right fun ⟨user, huser, hcovers⟩ =>
    ⟨user, hBy user huser, hcovers⟩
  authorities := by
    obtain ⟨added, hadded, hcovered⟩ := h.authorities
    refine ⟨added, hadded, fun authority hauthority => ?_⟩
    obtain ⟨user, huser, hcovers⟩ := hcovered authority hauthority
    exact ⟨user, hBy user huser, hcovers⟩
  scopes := by
    obtain ⟨added, hadded, hcovered⟩ := h.scopes
    refine ⟨added, hadded, fun scope hscope => ?_⟩
    obtain ⟨user, huser, hcovers⟩ := hcovered scope hscope
    exact ⟨user, hBy user huser, hcovers⟩

/-- **Chains.** What is delegated in two steps is covered by those who cover the delegates of the
second. -/
theorem Delegated.trans (h : Delegated By s s') (h' : Delegated By' s' s'')
    (hBy : ∀ user', By' user' → ∃ user, By user ∧ CoversAccount user user') :
    Delegated By s s'' where
  accounts userId row hrow := by
    rcases h'.accounts userId row hrow with
      ⟨between, hbetween, hrole', horganization'⟩ | ⟨user', huser', hcovers'⟩
    · rcases h.accounts userId between hbetween with
        ⟨before, hbefore, hrole, horganization⟩ | ⟨user, huser, hcovers⟩
      · exact .inl ⟨before, hbefore, hrole.trans hrole', horganization.trans horganization'⟩
      · exact .inr ⟨user, huser, hcovers.trans (.of_eq hrole' horganization')⟩
    · obtain ⟨user, huser, hcovers⟩ := hBy user' huser'
      exact .inr ⟨user, huser, hcovers.trans hcovers'⟩
  authorities := by
    obtain ⟨added, hadded, hcovered⟩ := h.authorities
    obtain ⟨added', hadded', hcovered'⟩ := h'.authorities
    refine ⟨added ++ added', by rw [hadded', hadded, List.append_assoc],
      fun authority hauthority => ?_⟩
    rcases List.mem_append.mp hauthority with hfirst | hsecond
    · exact hcovered authority hfirst
    · obtain ⟨user', huser', hcovers'⟩ := hcovered' authority hsecond
      obtain ⟨user, huser, hcovers⟩ := hBy user' huser'
      exact ⟨user, huser, .trans hcovers hcovers'⟩
  scopes := by
    obtain ⟨added, hadded, hcovered⟩ := h.scopes
    obtain ⟨added', hadded', hcovered'⟩ := h'.scopes
    refine ⟨added ++ added', by rw [hadded', hadded, List.append_assoc], fun scope hscope => ?_⟩
    rcases List.mem_append.mp hscope with hfirst | hsecond
    · exact hcovered scope hfirst
    · obtain ⟨user', huser', hcovers'⟩ := hcovered' scope hsecond
      obtain ⟨user, huser, hcovers⟩ := hBy user' huser'
      exact ⟨user, huser, .trans hcovers hcovers'⟩

end Chains

/-! ### The calls -/

/-- The operations that delegate. -/
inductive Operation where
  | createSubAdmin (dto : DelegationDto)
  | setSubAdminStatus (id : String) (status : AccountStatus)
  | assignPermissions (id : String) (dto : DelegationDto)
  | assignScopes (id : String) (dto : DelegationDto)

/-- A call: an operation, the user whose token it comes with, and the id of a new account. -/
structure Call where
  actorId : String
  operation : Operation
  newId : String

/-- The store after a call. -/
def perform (call : Call) (s : Store) : Store :=
  match validate s call.actorId with
  | none => s
  | some user =>
    match call.operation with
    | .createSubAdmin dto => (commit s (createSubAdmin call.newId s user dto)).store
    | .setSubAdminStatus id status => (commit s (setSubAdminStatus s user id status)).store
    | .assignPermissions id dto => (commit s (assignPermissions s user id dto)).store
    | .assignScopes id dto => (commit s (assignScopes s user id dto)).store

variable {s s' : Store} {user : User} {call : Call} {newId id : String} {dto : DelegationDto}

theorem assertDelegationAdmin_eq_ok :
    assertDelegationAdmin user = .ok ⟨⟩ ↔
      user.role = .superAdmin ∨ user.role = .platformOwner ∨ user.role = .executiveSuperAdmin := by
  rw [assertDelegationAdmin, throwIf_eq_ok]
  tauto

/-- `findSubAdmin` lets the user administer the account. -/
structure Administers (s : Store) (user : User) (id : String) (target : User) : Prop where
  found : s.user? id = some target
  delegated : target.role ∈ governanceAdminRoles
  organization : user.role = .superAdmin ∨ user.role = .platformOwner ∨
    target.organizationId = user.organizationId

theorem findSubAdmin_eq_ok {target : User} :
    findSubAdmin s id user = .ok target ↔ Administers s user id target := by
  rw [findSubAdmin, orThrow_bind_eq_ok]
  constructor
  · rintro ⟨existing, hfound, hok⟩
    obtain ⟨hscope, hok⟩ := throwIf_bind_eq_ok.mp hok
    obtain rfl := Except.ok.inj hok
    obtain ⟨hfound, hrole⟩ := (Option.filter_eq_some_iff ..).mp hfound
    refine ⟨hfound, by simpa using hrole, ?_⟩
    by_contra hnot
    simp only [not_or] at hnot
    exact hscope hnot
  · rintro ⟨hfound, hrole, horganization⟩
    refine ⟨target, (Option.filter_eq_some_iff ..).mpr ⟨hfound, by simpa using hrole⟩, ?_⟩
    refine throwIf_bind_eq_ok.mpr ⟨?_, rfl⟩
    rintro ⟨hsuper, howner, hother⟩
    rcases horganization with h | h | h
    exacts [hsuper h, howner h, hother h]

/-- Everything `createSubAdmin` checks, with what it reads from the request. -/
structure Creates (newId : String) (s : Store) (user : User) (dto : DelegationDto) (role : UserRole)
    (email : Option String) (permissions : List String) (scopes : List DelegatedScope) : Prop where
  admin : user.role = .superAdmin ∨ user.role = .platformOwner ∨ user.role = .executiveSuperAdmin
  readsRole : parseSubAdminRole dto.role = .ok role
  readsEmail : normalizeEmail dto.email = .ok email
  contact : ¬ (email = none ∧ normalizeText dto.phone = none)
  unknown : ¬ (s.users.rows.any fun row => (email.isSome && row.email = email) ||
    ((normalizeText dto.phone).isSome && row.phone = normalizeText dto.phone)) = true
  readsPermissions : stringList dto.permissions = .ok permissions
  readsScopes : scopeList dto.scopes = .ok scopes
  organization : ∀ organizationId,
    resolveOrganizationScope dto.organizationId user = some organizationId →
    s.organization? organizationId ≠ none
  free : s.user? newId = none

/-- The account of the new sub-admin. -/
def createdRow (newId : String) (user : User) (dto : DelegationDto) (role : UserRole)
    (email : Option String) (permissions : List String) (scopes : List DelegatedScope) : User :=
  subAdminRow newId role (resolveOrganizationScope dto.organizationId user) email
    (normalizeText dto.phone) dto permissions scopes

/-- The authority recorded for the new sub-admin. -/
def createdAuthority (newId : String) (user : User) (dto : DelegationDto) (role : UserRole)
    (permissions : List String) (scopes : List DelegatedScope) : DelegatedAuthority :=
  subAdminAuthority newId user role
    (resolveOrganizationScope dto.organizationId user) dto permissions scopes

/-- The store with a new sub-admin. -/
def createdStore (newId : String) (s : Store) (user : User) (dto : DelegationDto) (role : UserRole)
    (email : Option String) (permissions : List String) (scopes : List DelegatedScope) : Store :=
  (s.insertUser (createdRow newId user dto role email permissions scopes)).addAuthority
    (createdAuthority newId user dto role permissions scopes)

theorem createSubAdmin_eq_ok :
    (∃ row, createSubAdmin newId s user dto = .ok (s', row)) ↔ ∃ role email permissions scopes,
      Creates newId s user dto role email permissions scopes ∧
        s' = createdStore newId s user dto role email permissions scopes := by
  constructor
  · rintro ⟨row, hok⟩
    unfold createSubAdmin at hok
    obtain ⟨hadmin, hok⟩ := check_bind_eq_ok.mp hok
    obtain ⟨role, hrole, hok⟩ := bind_eq_ok.mp hok
    obtain ⟨email, hemail, hok⟩ := bind_eq_ok.mp hok
    obtain ⟨hcontact, hok⟩ := throwIf_bind_eq_ok.mp hok
    obtain ⟨hunknown, hok⟩ := throwIf_bind_eq_ok.mp hok
    obtain ⟨permissions, hpermissions, hok⟩ := bind_eq_ok.mp hok
    obtain ⟨scopes, hscopes, hok⟩ := bind_eq_ok.mp hok
    obtain ⟨horganization, hok⟩ := check_bind_eq_ok.mp hok
    obtain ⟨hfree, hok⟩ := throwIf_bind_eq_ok.mp hok
    have hstore := (Prod.mk.inj (Except.ok.inj hok)).1
    exact ⟨role, email, permissions, scopes,
      ⟨assertDelegationAdmin_eq_ok.mp hadmin, hrole, hemail, hcontact, hunknown,
      hpermissions, hscopes, checkOrganization_eq_ok.mp horganization, by simpa using hfree⟩,
      hstore.symm⟩
  · rintro ⟨role, email, permissions, scopes, h, rfl⟩
    refine ⟨createdRow newId user dto role email permissions scopes, ?_⟩
    refine check_bind_eq_ok.mpr ⟨assertDelegationAdmin_eq_ok.mpr h.admin, ?_⟩
    refine bind_eq_ok.mpr ⟨role, h.readsRole, bind_eq_ok.mpr ⟨email, h.readsEmail, ?_⟩⟩
    refine throwIf_bind_eq_ok.mpr ⟨h.contact, throwIf_bind_eq_ok.mpr ⟨h.unknown, ?_⟩⟩
    refine bind_eq_ok.mpr
      ⟨permissions, h.readsPermissions, bind_eq_ok.mpr ⟨scopes, h.readsScopes, ?_⟩⟩
    exact check_bind_eq_ok.mpr
      ⟨checkOrganization_eq_ok.mpr h.organization, throwIf_bind_eq_ok.mpr ⟨by simp [h.free], rfl⟩⟩

/-- Everything `assignPermissions` checks. -/
structure AssignsPermissions (s : Store) (user : User) (id : String) (dto : DelegationDto)
    (target : User) (permissions : List String) : Prop where
  admin : user.role = .superAdmin ∨ user.role = .platformOwner ∨ user.role = .executiveSuperAdmin
  target : Administers s user id target
  readsPermissions : stringList dto.permissions = .ok permissions
  some_permission : permissions ≠ []

theorem assignPermissions_eq_ok :
    (∃ record, assignPermissions s user id dto = .ok (s', record)) ↔ ∃ target permissions,
      AssignsPermissions s user id dto target permissions ∧
        s' = s.addAuthority (assignedAuthority user target dto permissions) := by
  constructor
  · rintro ⟨record, hok⟩
    unfold assignPermissions at hok
    obtain ⟨hadmin, hok⟩ := check_bind_eq_ok.mp hok
    obtain ⟨target, htarget, hok⟩ := bind_eq_ok.mp hok
    obtain ⟨permissions, hpermissions, hok⟩ := bind_eq_ok.mp hok
    obtain ⟨hsome, hok⟩ := throwIf_bind_eq_ok.mp hok
    have hstore := (Prod.mk.inj (Except.ok.inj hok)).1
    exact ⟨target, permissions,
      ⟨assertDelegationAdmin_eq_ok.mp hadmin, findSubAdmin_eq_ok.mp htarget, hpermissions,
      hsome⟩, hstore.symm⟩
  · rintro ⟨target, permissions, h, rfl⟩
    refine ⟨assignedAuthority user target dto permissions, ?_⟩
    refine check_bind_eq_ok.mpr ⟨assertDelegationAdmin_eq_ok.mpr h.admin, ?_⟩
    refine bind_eq_ok.mpr ⟨target, findSubAdmin_eq_ok.mpr h.target, ?_⟩
    exact bind_eq_ok.mpr
      ⟨permissions, h.readsPermissions, throwIf_bind_eq_ok.mpr ⟨h.some_permission, rfl⟩⟩

/-- Everything `assignScopes` checks. -/
structure AssignsScopes (s : Store) (user : User) (id : String) (dto : DelegationDto)
    (target : User) (scopes : List DelegatedScope) : Prop where
  admin : user.role = .superAdmin ∨ user.role = .platformOwner ∨ user.role = .executiveSuperAdmin
  target : Administers s user id target
  readsScopes : scopeList dto.scopes = .ok scopes
  some_scope : scopes ≠ []

theorem assignScopes_eq_ok :
    (∃ rows, assignScopes s user id dto = .ok (s', rows)) ↔ ∃ target scopes,
      AssignsScopes s user id dto target scopes ∧
        s' = s.addScopes (scopes.map (assignedScope user target)) := by
  constructor
  · rintro ⟨rows, hok⟩
    unfold assignScopes at hok
    obtain ⟨hadmin, hok⟩ := check_bind_eq_ok.mp hok
    obtain ⟨target, htarget, hok⟩ := bind_eq_ok.mp hok
    obtain ⟨scopes, hscopes, hok⟩ := bind_eq_ok.mp hok
    obtain ⟨hsome, hok⟩ := throwIf_bind_eq_ok.mp hok
    have hstore := (Prod.mk.inj (Except.ok.inj hok)).1
    exact ⟨target, scopes,
      ⟨assertDelegationAdmin_eq_ok.mp hadmin, findSubAdmin_eq_ok.mp htarget, hscopes, hsome⟩,
      hstore.symm⟩
  · rintro ⟨target, scopes, h, rfl⟩
    refine ⟨scopes.map (assignedScope user target), ?_⟩
    refine check_bind_eq_ok.mpr ⟨assertDelegationAdmin_eq_ok.mpr h.admin, ?_⟩
    refine bind_eq_ok.mpr ⟨target, findSubAdmin_eq_ok.mpr h.target, ?_⟩
    exact bind_eq_ok.mpr ⟨scopes, h.readsScopes, throwIf_bind_eq_ok.mpr ⟨h.some_scope, rfl⟩⟩

/-- Everything a call can do. -/
inductive Performed (call : Call) (s : Store) : Store → Prop where
  | unchanged : Performed call s s
  | created (user : User) (dto : DelegationDto) (role : UserRole) (email : Option String)
      (permissions : List String) (scopes : List DelegatedScope)
      (operation : call.operation = .createSubAdmin dto)
      (actor : validate s call.actorId = some user)
      (creates : Creates call.newId s user dto role email permissions scopes) :
      Performed call s (createdStore call.newId s user dto role email permissions scopes)
  | statusSet (id : String) (status : AccountStatus) :
      Performed call s (s.updateUser id (statusData status))
  | permissionsAssigned (user : User) (id : String) (dto : DelegationDto) (target : User)
      (permissions : List String) (operation : call.operation = .assignPermissions id dto)
      (actor : validate s call.actorId = some user)
      (assigns : AssignsPermissions s user id dto target permissions) :
      Performed call s (s.addAuthority (assignedAuthority user target dto permissions))
  | scopesAssigned (user : User) (id : String) (dto : DelegationDto) (target : User)
      (scopes : List DelegatedScope) (operation : call.operation = .assignScopes id dto)
      (actor : validate s call.actorId = some user)
      (assigns : AssignsScopes s user id dto target scopes) :
      Performed call s (s.addScopes (scopes.map (assignedScope user target)))

theorem statusSet_performed (s : Store) (user : User) (id : String) (status : AccountStatus) :
    Performed call s (commit s (setSubAdminStatus s user id status)).store := by
  refine commit_induction (p := Performed call s) .unchanged fun s' row hok => ?_
  unfold setSubAdminStatus at hok
  obtain ⟨-, hok⟩ := check_bind_eq_ok.mp hok
  obtain ⟨-, hok⟩ := throwIf_bind_eq_ok.mp hok
  obtain ⟨existing, -, hok⟩ := bind_eq_ok.mp hok
  rw [← (Prod.mk.inj (Except.ok.inj hok)).1]
  exact .statusSet id status

theorem perform_cases (call : Call) (s : Store) : Performed call s (perform call s) := by
  unfold perform
  cases hactor : validate s call.actorId with
  | none => exact .unchanged
  | some user =>
    dsimp only
    cases hoperation : call.operation with
    | createSubAdmin dto =>
      dsimp only
      refine commit_induction (p := Performed call s) .unchanged fun s' row hok => ?_
      obtain ⟨role, email, permissions, scopes, hcreates, rfl⟩ :=
        createSubAdmin_eq_ok.mp ⟨row, hok⟩
      exact .created user dto role email permissions scopes hoperation hactor hcreates
    | setSubAdminStatus id status => exact statusSet_performed s user id status
    | assignPermissions id dto =>
      dsimp only
      refine commit_induction (p := Performed call s) .unchanged fun s' row hok => ?_
      obtain ⟨target, permissions, hassigns, rfl⟩ := assignPermissions_eq_ok.mp ⟨row, hok⟩
      exact .permissionsAssigned user id dto target permissions hoperation hactor hassigns
    | assignScopes id dto =>
      dsimp only
      refine commit_induction (p := Performed call s) .unchanged fun s' row hok => ?_
      obtain ⟨target, scopes, hassigns, rfl⟩ := assignScopes_eq_ok.mp ⟨row, hok⟩
      exact .scopesAssigned user id dto target scopes hoperation hactor hassigns

theorem perform_of_creates {role : UserRole} {email : Option String} {permissions : List String}
    {scopes : List DelegatedScope} (hactor : validate s call.actorId = some user)
    (hoperation : call.operation = .createSubAdmin dto)
    (h : Creates call.newId s user dto role email permissions scopes) :
    perform call s = createdStore call.newId s user dto role email permissions scopes := by
  obtain ⟨row, hok⟩ := createSubAdmin_eq_ok.mpr ⟨role, email, permissions, scopes, h, rfl⟩
  rw [perform, hactor, hoperation]
  dsimp only
  rw [hok]
  rfl

theorem perform_of_assignsPermissions {target : User} {permissions : List String}
    (hactor : validate s call.actorId = some user)
    (hoperation : call.operation = .assignPermissions id dto)
    (h : AssignsPermissions s user id dto target permissions) :
    perform call s = s.addAuthority (assignedAuthority user target dto permissions) := by
  obtain ⟨record, hok⟩ := assignPermissions_eq_ok.mpr ⟨target, permissions, h, rfl⟩
  rw [perform, hactor, hoperation]
  dsimp only
  rw [hok]
  rfl

theorem perform_of_assignsScopes {target : User} {scopes : List DelegatedScope}
    (hactor : validate s call.actorId = some user)
    (hoperation : call.operation = .assignScopes id dto)
    (h : AssignsScopes s user id dto target scopes) :
    perform call s = s.addScopes (scopes.map (assignedScope user target)) := by
  obtain ⟨rows, hok⟩ := assignScopes_eq_ok.mpr ⟨target, scopes, h, rfl⟩
  rw [perform, hactor, hoperation]
  dsimp only
  rw [hok]
  rfl

/-! ### What the administrators have -/

/-- The permissions that are among those of an administrator of the service, spelled out. -/
def Grantable (role : UserRole) (permission : String) : Prop :=
  if role = .platformOwner then
    (∃ area ∈ ["platform.", "governance.", "delegation."], area.toList <+: permission.toList) ∨
      permission = "audit.read"
  else permission ∈ ["organizations.read", "analytics.read", "regulatory.read", "audit.read"]

/-- The user may delegate and is not a super administrator. -/
def DelegatingAdmin (user : User) : Prop :=
  user.role = .platformOwner ∨ user.role = .executiveSuperAdmin

theorem expandedPermissions_platformOwner :
    expandedPermissions .platformOwner =
      ["platform.*", "governance.*", "delegation.*", "audit.read"] := by decide

theorem expandedPermissions_executiveSuperAdmin :
    expandedPermissions .executiveSuperAdmin =
      ["organizations.read", "analytics.read", "regulatory.read", "audit.read"] := by
  decide

/-- A permission with a wildcard stands for what begins with its area. -/
theorem covers_area_iff (area permission : String) :
    Wildcard.Covers '.' '*' (area ++ ".*").toList permission.toList ↔
      (area ++ ".").toList <+: permission.toList := by
  rw [String.toList_append, String.toList_append]
  exact Wildcard.covers_pattern_iff

/-- A permission without one stands for itself. -/
theorem covers_text_iff {text : String} (h : ¬ ['.', '*'] <:+ text.toList) (permission : String) :
    Wildcard.Covers '.' '*' text.toList permission.toList ↔ permission = text := by
  rw [Wildcard.covers_word_iff h, String.toList_inj, eq_comm]

theorem among_iff {role : UserRole} {permissions : List String} :
    Among role permissions ↔
      ∀ permission ∈ permissions, ∃ own ∈ expandedPermissions role,
        Wildcard.Covers '.' '*' own.toList permission.toList := by
  simp [Among, Wildcard.Within]

theorem among_iff_grantable (hadmin : DelegatingAdmin user) {permissions : List String} :
    Among user.role permissions ↔ ∀ permission ∈ permissions, Grantable user.role permission := by
  rw [among_iff]
  refine forall₂_congr fun permission _ => ?_
  rcases hadmin with howner | hexecutive
  · have hplatform := covers_area_iff "platform" permission
    have hgovernance := covers_area_iff "governance" permission
    have hdelegation := covers_area_iff "delegation" permission
    have haudit : Wildcard.Covers '.' '*' "audit.read".toList permission.toList ↔
        permission = "audit.read" :=
      covers_text_iff (by decide) permission
    simp only [String.reduceAppend] at hplatform hgovernance hdelegation
    rw [howner, expandedPermissions_platformOwner, Grantable, if_pos rfl]
    simp only [List.mem_cons, List.not_mem_nil, or_false, exists_eq_or_imp, exists_eq_left]
    rw [hplatform, hgovernance, hdelegation, haudit, or_assoc, or_assoc]
  · have hword : ∀ own ∈ expandedPermissions .executiveSuperAdmin, ¬ ['.', '*'] <:+ own.toList := by
      decide
    rw [hexecutive, Grantable, if_neg (by decide), ← expandedPermissions_executiveSuperAdmin]
    constructor
    · rintro ⟨own, hown, hcovers⟩
      rwa [(covers_text_iff (hword own hown) permission).mp hcovers]
    · exact fun hmem => ⟨permission, hmem, .refl _⟩

/-- Of the roles of the service an administrator covers the own one. -/
theorem among_role_iff (hadmin : DelegatingAdmin user) {role : UserRole}
    (hrole : role ∈ governanceAdminRoles) :
    Among user.role (expandedPermissions role) ↔ role = user.role := by
  have hfinite : ∀ own ∈ [UserRole.platformOwner, .executiveSuperAdmin],
      ∀ role ∈ governanceAdminRoles,
      (Among own (expandedPermissions role) ↔ role = own) := by decide +kernel
  exact hfinite user.role (by simpa [DelegatingAdmin] using hadmin) role hrole

/-! ### Calls within the own authority -/

/-- A scope asks for permissions that may be granted and, but from the owner of the platform, for
no other organization. -/
structure ScopeGrantable (user : User) (scope : DelegatedScope) : Prop where
  permissions : ∀ permission ∈ scope.permissions, Grantable user.role permission
  organization : user.role = .platformOwner ∨ scope.organizationId = none ∨
    scope.organizationId = user.organizationId

/-- What an accepted request asks for is the administrator's own: the role, the permissions and
the scopes. -/
def AsksWithinOwn (s : Store) (call : Call) : Prop :=
  ∀ user, validate s call.actorId = some user →
    match call.operation with
    | .createSubAdmin dto => ∀ role email permissions scopes,
        Creates call.newId s user dto role email permissions scopes →
        role = user.role ∧ (∀ permission ∈ permissions, Grantable user.role permission) ∧
          ∀ scope ∈ scopes, ScopeGrantable user scope
    | .setSubAdminStatus _ _ => True
    | .assignPermissions id dto => ∀ target permissions,
        AssignsPermissions s user id dto target permissions →
        target.role = user.role ∧ ∀ permission ∈ permissions, Grantable user.role permission
    | .assignScopes id dto => ∀ target scopes, AssignsScopes s user id dto target scopes →
        ∀ scope ∈ scopes, ScopeGrantable user scope

/-- The call is not one of a super administrator. -/
def NoSuperAdmin (s : Store) (call : Call) : Prop :=
  ∀ user, validate s call.actorId = some user → user.role ≠ .superAdmin

/-- What the call records is covered by the one who makes it. -/
def DelegationCovered (s : Store) (call : Call) : Prop :=
  Delegated (fun user => validate s call.actorId = some user) s (perform call s)

theorem coversScope_iff (hadmin : DelegatingAdmin user) {organizationId : Option String}
    {scope : DelegatedScope} (horganization : OwnOrganization user organizationId) :
    CoversScope user organizationId scope ↔ ScopeGrantable user scope := by
  have hown : OwnOrganization user (scope.organizationId <|> organizationId) ↔
      user.role = .platformOwner ∨ scope.organizationId = none ∨
        scope.organizationId = user.organizationId := by
    rw [OwnOrganization] at horganization ⊢
    cases scope.organizationId with
    | none => simpa using horganization
    | some own => simp
  constructor
  · exact fun h => ⟨(among_iff_grantable hadmin).mp h.permissions, hown.mp h.organization⟩
  · exact fun h => ⟨(among_iff_grantable hadmin).mpr h.permissions, hown.mpr h.organization⟩

/-- The organization of a new sub-admin is the administrator's own. -/
theorem resolveOrganizationScope_own (hadmin : DelegatingAdmin user)
    (organizationId : Option Json) :
    OwnOrganization user (resolveOrganizationScope organizationId user) := by
  rcases hadmin with howner | hexecutive
  · exact .inl howner
  · right
    simp [resolveOrganizationScope, hexecutive]

theorem Administers.own {target : User} (h : Administers s user id target)
    (hadmin : DelegatingAdmin user) :
    OwnOrganization user target.organizationId := by
  rcases h.organization with hsuper | howner | hown
  · rcases hadmin with h' | h' <;> rw [hsuper] at h' <;> cases h'
  · exact .inl howner
  · exact .inr hown

theorem delegatingAdmin_of {user : User}
    (hadmin : user.role = .superAdmin ∨ user.role = .platformOwner ∨
      user.role = .executiveSuperAdmin)
    (hsuper : user.role ≠ .superAdmin) : DelegatingAdmin user :=
  hadmin.resolve_left hsuper

/-- `parseSubAdminRole` yields a role of the service. -/
theorem mem_governanceAdminRoles_of_parse {raw : Option Json} {role : UserRole}
    (h : parseSubAdminRole raw = .ok role) :
    role ∈ governanceAdminRoles := by
  unfold parseSubAdminRole at h
  obtain ⟨text, -, h⟩ := orThrow_bind_eq_ok.mp h
  simpa using ((Option.filter_eq_some_iff ..).mp (orThrow_eq_ok.mp h)).2

/-- What a created sub-admin is recorded with is covered exactly where the request keeps to the
administrator's own. -/
theorem coversCreated_iff {role : UserRole} {email : Option String} {permissions : List String}
    {scopes : List DelegatedScope} (hadmin : DelegatingAdmin user)
    (h : Creates newId s user dto role email permissions scopes) :
    (CoversAccount user (createdRow newId user dto role email permissions scopes) ∧
        CoversAuthority user (createdAuthority newId user dto role permissions scopes)) ↔
      role = user.role ∧ (∀ permission ∈ permissions, Grantable user.role permission) ∧
        ∀ scope ∈ scopes, ScopeGrantable user scope := by
  have hown := resolveOrganizationScope_own hadmin dto.organizationId
  have hrole := among_role_iff hadmin (mem_governanceAdminRoles_of_parse h.readsRole)
  constructor
  · rintro ⟨haccount, hauthority⟩
    refine ⟨hrole.mp haccount.role, (among_iff_grantable hadmin).mp hauthority.permissions,
      fun scope hscope => ?_⟩
    exact (coversScope_iff hadmin hown).mp (hauthority.scopes scope hscope)
  · rintro ⟨hsame, hpermissions, hscopes⟩
    refine ⟨⟨hrole.mpr hsame, hown⟩, hrole.mpr hsame,
      (among_iff_grantable hadmin).mpr hpermissions, hown, ?_⟩
    exact fun scope hscope => (coversScope_iff hadmin hown).mpr (hscopes scope hscope)

theorem coversAssigned_iff {target : User} {permissions : List String}
    (hadmin : DelegatingAdmin user) (h : AssignsPermissions s user id dto target permissions) :
    CoversAuthority user (assignedAuthority user target dto permissions) ↔
      target.role = user.role ∧ ∀ permission ∈ permissions, Grantable user.role permission := by
  have hrole := among_role_iff hadmin h.target.delegated
  constructor
  · exact fun hauthority =>
      ⟨hrole.mp hauthority.role, (among_iff_grantable hadmin).mp hauthority.permissions⟩
  · rintro ⟨hsame, hpermissions⟩
    refine ⟨hrole.mpr hsame, (among_iff_grantable hadmin).mpr hpermissions, h.target.own hadmin, ?_⟩
    exact fun scope hscope => absurd hscope List.not_mem_nil

theorem coversAssignedScope_iff {target : User} {scopes : List DelegatedScope}
    (hadmin : DelegatingAdmin user)
    (h : AssignsScopes s user id dto target scopes) (scope : DelegatedScope) :
    CoversScope user none (assignedScope user target scope).toDelegatedScope ↔
      ScopeGrantable user scope := by
  rw [← coversScope_iff hadmin (h.target.own hadmin)]
  -- the organization of the target is written to the row
  have hresolved : ((assignedScope user target scope).organizationId <|> none) =
      (scope.organizationId <|> target.organizationId) := by
    simp [assignedScope]
  exact ⟨fun hrow => ⟨hrow.permissions, hresolved ▸ hrow.organization⟩,
    fun hscope => ⟨hscope.permissions, hresolved ▸ hscope.organization⟩⟩

theorem delegated_created_iff {role : UserRole} {email : Option String} {permissions : List String}
    {scopes : List DelegatedScope} (hadmin : DelegatingAdmin user)
    (h : Creates newId s user dto role email permissions scopes) :
    Delegated (· = user) s (createdStore newId s user dto role email permissions scopes) ↔
      role = user.role ∧ (∀ permission ∈ permissions, Grantable user.role permission) ∧
        ∀ scope ∈ scopes, ScopeGrantable user scope := by
  have hfind : ∀ userId,
      (createdStore newId s user dto role email permissions scopes).user? userId =
      if userId = newId then some (createdRow newId user dto role email permissions scopes) else
        s.user? userId :=
    Table.find?_insert_of_free (by exact h.free)
  rw [← coversCreated_iff hadmin h]
  constructor
  · intro hdelegated
    constructor
    · rcases hdelegated.accounts newId _ ((hfind newId).trans (if_pos rfl)) with
        ⟨before, hbefore, -⟩ | ⟨_, rfl, hcovers⟩
      · rw [h.free] at hbefore
        cases hbefore
      · exact hcovers
    · obtain ⟨added, hadded, hcovered⟩ := hdelegated.authorities
      obtain rfl := List.append_cancel_left hadded
      obtain ⟨_, rfl, hcovers⟩ := hcovered _ (List.mem_singleton_self _)
      exact hcovers
  · rintro ⟨haccount, hauthority⟩
    refine ⟨fun userId row hrow => ?_, ⟨_, rfl, ?_⟩, ⟨[], (List.append_nil _).symm, by simp⟩⟩
    · rw [hfind] at hrow
      split at hrow
      · obtain rfl := Option.some.inj hrow
        exact .inr ⟨user, rfl, haccount⟩
      · exact .inl ⟨row, hrow, rfl, rfl⟩
    · intro authority hmem
      rw [List.mem_singleton.mp hmem]
      exact ⟨user, rfl, hauthority⟩

theorem delegated_permissions_iff {target : User} {permissions : List String}
    (hadmin : DelegatingAdmin user) (h : AssignsPermissions s user id dto target permissions) :
    Delegated (· = user) s (s.addAuthority (assignedAuthority user target dto permissions)) ↔
      target.role = user.role ∧ ∀ permission ∈ permissions, Grantable user.role permission := by
  rw [← coversAssigned_iff hadmin h]
  constructor
  · intro hdelegated
    obtain ⟨added, hadded, hcovered⟩ := hdelegated.authorities
    obtain rfl := List.append_cancel_left hadded
    obtain ⟨_, rfl, hcovers⟩ := hcovered _ (List.mem_singleton_self _)
    exact hcovers
  · intro hcovers
    refine ⟨fun _ row hrow => .inl ⟨row, hrow, rfl, rfl⟩, ⟨_, rfl, ?_⟩,
      ⟨[], (List.append_nil _).symm, by simp⟩⟩
    intro authority hmem
    rw [List.mem_singleton.mp hmem]
    exact ⟨user, rfl, hcovers⟩

theorem delegated_scopes_iff {target : User} {scopes : List DelegatedScope}
    (hadmin : DelegatingAdmin user) (h : AssignsScopes s user id dto target scopes) :
    Delegated (· = user) s (s.addScopes (scopes.map (assignedScope user target))) ↔
      ∀ scope ∈ scopes, ScopeGrantable user scope := by
  constructor
  · intro hdelegated scope hscope
    obtain ⟨added, hadded, hcovered⟩ := hdelegated.scopes
    obtain rfl := List.append_cancel_left hadded
    obtain ⟨_, rfl, hcovers⟩ := hcovered _ (List.mem_map_of_mem hscope)
    exact (coversAssignedScope_iff hadmin h scope).mp hcovers
  · intro hgrantable
    refine ⟨fun _ row hrow => .inl ⟨row, hrow, rfl, rfl⟩, ⟨[], (List.append_nil _).symm, by simp⟩,
      ⟨_, rfl, ?_⟩⟩
    intro row hmem
    obtain ⟨scope, hscope, rfl⟩ := List.mem_map.mp hmem
    exact ⟨user, rfl, (coversAssignedScope_iff hadmin h scope).mpr (hgrantable scope hscope)⟩

/-- Setting a status delegates nothing. -/
theorem delegated_statusSet (By : User → Prop) (s : Store) (id : String) (status : AccountStatus) :
    Delegated By s (s.updateUser id (statusData status)) := by
  refine ⟨fun userId row hrow => .inl ?_, ⟨[], (List.append_nil _).symm, by simp⟩,
    ⟨[], (List.append_nil _).symm, by simp⟩⟩
  rw [Store.user?, Store.updateUser, Table.find?_modify] at hrow
  split at hrow
  · obtain ⟨before, hbefore, rfl⟩ := Option.map_eq_some_iff.mp hrow
    exact ⟨before, hbefore, rfl, rfl⟩
  · exact ⟨row, hrow, rfl, rfl⟩

theorem delegationCovered_iff_of_actor (hactor : validate s call.actorId = some user) :
    DelegationCovered s call ↔ Delegated (· = user) s (perform call s) :=
  ⟨fun h => h.mono fun _ hactor' => Option.some.inj (hactor'.symm.trans hactor),
    fun h => h.mono fun _ heq => heq ▸ hactor⟩

/-- **One call.** What a call records is covered by the one who makes it exactly where the request
asks for no more than the administrator's own. -/
theorem delegationCovered_iff (hsuper : NoSuperAdmin s call) : DelegationCovered s call ↔
    AsksWithinOwn s call := by
  constructor
  · intro h user hactor
    rw [delegationCovered_iff_of_actor hactor] at h
    split
    next dto hoperation =>
      intro role email permissions scopes hcreates
      rw [perform_of_creates hactor hoperation hcreates] at h
      exact (delegated_created_iff
        (delegatingAdmin_of hcreates.admin (hsuper user hactor)) hcreates).mp h
    next => trivial
    next id dto hoperation =>
      intro target permissions hassigns
      rw [perform_of_assignsPermissions hactor hoperation hassigns] at h
      exact (delegated_permissions_iff
        (delegatingAdmin_of hassigns.admin (hsuper user hactor)) hassigns).mp h
    next id dto hoperation =>
      intro target scopes hassigns
      rw [perform_of_assignsScopes hactor hoperation hassigns] at h
      exact (delegated_scopes_iff
        (delegatingAdmin_of hassigns.admin (hsuper user hactor)) hassigns).mp h
  · intro h
    have hperformed := perform_cases call s
    cases hactor : validate s call.actorId with
    | none =>
      have hsame : perform call s = s := by rw [perform, hactor]
      rw [DelegationCovered, hsame]
      exact .refl _ s
    | some user =>
      have hasks := h user hactor
      rw [delegationCovered_iff_of_actor hactor]
      generalize perform call s = s' at hperformed
      cases hperformed with
      | unchanged => exact .refl _ s
      | statusSet id status => exact delegated_statusSet _ s id status
      | created user' dto role email permissions scopes hoperation hactor' hcreates =>
        obtain rfl := Option.some.inj (hactor'.symm.trans hactor)
        rw [hoperation] at hasks
        exact (delegated_created_iff
          (delegatingAdmin_of hcreates.admin (hsuper _ hactor)) hcreates).mpr
          (hasks role email permissions scopes hcreates)
      | permissionsAssigned user' id dto target permissions hoperation hactor' hassigns =>
        obtain rfl := Option.some.inj (hactor'.symm.trans hactor)
        rw [hoperation] at hasks
        exact (delegated_permissions_iff
          (delegatingAdmin_of hassigns.admin (hsuper _ hactor)) hassigns).mpr
          (hasks target permissions hassigns)
      | scopesAssigned user' id dto target scopes hoperation hactor' hassigns =>
        obtain rfl := Option.some.inj (hactor'.symm.trans hactor)
        rw [hoperation] at hasks
        exact (delegated_scopes_iff
          (delegatingAdmin_of hassigns.admin (hsuper _ hactor)) hassigns).mpr
          (hasks target scopes hassigns)

/-! ### Chains of delegations -/

/-- The user is in `s`, with the role and the organization they have there, and makes one of the
calls. -/
def InitialActor (s : Store) (calls : List Call) (user : User) : Prop :=
  ∃ call ∈ calls, s.user? call.actorId = some user

/-- By induction on the run: who makes a later call is there from the start, or is covered by the
one who made the account, who is an initial actor. -/
theorem delegated_run (s : Store) (calls : List Call)
    (h : Along perform DelegationCovered s calls) :
    Delegated (InitialActor s calls) s (run perform s calls) := by
  induction calls generalizing s with
  | nil => exact .refl _ s
  | cons call calls ih =>
    have hfirst : Delegated (InitialActor s (call :: calls)) s (perform call s) :=
      Delegated.mono h.1 fun user hactor =>
        ⟨call, List.mem_cons_self, (validate_eq_some_iff.mp hactor).1⟩
    refine hfirst.trans (ih (perform call s) h.2) fun user' hinitial => ?_
    obtain ⟨later, hlater, hfound⟩ := hinitial
    rcases hfirst.accounts later.actorId user' hfound with
      ⟨before, hbefore, hrole, horganization⟩ | hcovered
    · exact ⟨before, ⟨later, List.mem_cons_of_mem _ hlater, hbefore⟩, .of_eq hrole horganization⟩
    · exact hcovered

/-- **The ceiling of delegation.** In a run without super administrators every call records what
the one who makes it covers exactly when every request asks for the administrator's own role,
permissions and scopes; and then all that has been delegated in the end is covered by users who
were there, and acted, from the start. -/
theorem delegation_covered_iff (s : Store) (calls : List Call)
    (hsuper : Along perform NoSuperAdmin s calls) :
    (Along perform DelegationCovered s calls ↔ Along perform AsksWithinOwn s calls) ∧
      (Along perform AsksWithinOwn s calls →
        Delegated (InitialActor s calls) s (run perform s calls)) := by
  have hiff : Along perform (fun s call => DelegationCovered s call ∧ NoSuperAdmin s call) s calls ↔
      Along perform (fun s call => AsksWithinOwn s call ∧ NoSuperAdmin s call) s calls :=
    along_congr (fun s call => and_congr_left fun hnone => delegationCovered_iff hnone) s calls
  rw [along_and, along_and, and_iff_left hsuper, and_iff_left hsuper] at hiff
  exact ⟨hiff, fun h => delegated_run s calls (hiff.mpr h)⟩

namespace Example

def owner : User := { id := "owner", role := .platformOwner }

def executive : User :=
  { id := "executive", role := .executiveSuperAdmin, organizationId := some "lagos" }

def platformStore : Store :=
  Store.ofUsers ⟨[owner, executive], by simp [owner, executive]⟩
    ⟨[{ id := "lagos" }, { id := "abuja" }], by simp⟩

/-- The executive makes an owner of the platform, who is to manage disputes in Abuja. -/
def createsOwner : Call where
  actorId := "executive"
  operation := .createSubAdmin
    { role := some (.str "PLATFORM_OWNER"), email := some (.str "deputy@fixzone.ng")
      permissions := some (.arr [.str "disputes.manage"])
      scopes := some (.arr [.obj [("organizationId", .str "abuja")]]) }
  newId := "deputy"

/-- The owner of the platform makes a second one. -/
def createsDeputy : Call where
  actorId := "owner"
  operation := .createSubAdmin
    { role := some (.str "PLATFORM_OWNER"), email := some (.str "deputy@fixzone.ng") }
  newId := "deputy"

def activatesDeputy : Call where
  actorId := "owner"
  operation := .setSubAdminStatus "deputy" .active
  newId := ""

/-- The second owner passes a permission on. -/
def deputyGrants : Call where
  actorId := "deputy"
  operation := .assignPermissions "owner" { permissions := some (.arr [.str "governance.read"]) }
  newId := ""

/-- The store in which the second owner acts. -/
def deputyStore : Store := run perform platformStore [createsDeputy, activatesDeputy]

theorem deputy_role : (validate deputyStore "deputy").map (·.role) = some .platformOwner := by
  decide +kernel

theorem owner_role : (deputyStore.user? "owner").map (·.role) = some .platformOwner := by
  decide +kernel

theorem deputyRun_noSuperAdmin :
    Along perform NoSuperAdmin platformStore [createsDeputy, activatesDeputy, deputyGrants] := by
  have howner : ∀ s user, validate s "owner" = some user →
      (validate s "owner").map (·.role) = some .platformOwner →
      user.role ≠ .superAdmin := by
    intro s user hactor hrole
    rw [hactor, Option.map_some, Option.some.injEq] at hrole
    simp [hrole]
  refine ⟨fun user hactor => howner _ user hactor (by decide +kernel),
    fun user hactor => howner _ user hactor (by decide +kernel), fun user hactor => ?_, trivial⟩
  have hrole := deputy_role
  rw [show validate deputyStore "deputy" = some user from hactor, Option.map_some,
    Option.some.injEq] at hrole
  simp [hrole]

end Example

open Example in
/-- What two owners of the platform pass on between them is covered by the first. -/
theorem deputy_within_owner :
    Delegated (InitialActor platformStore [createsDeputy, activatesDeputy, deputyGrants])
    platformStore (run perform platformStore [createsDeputy, activatesDeputy, deputyGrants]) := by
  refine (delegation_covered_iff _ _ deputyRun_noSuperAdmin).2 ⟨?_, fun _ _ => trivial, ?_, trivial⟩
  · intro user hactor role email permissions scopes hcreates
    obtain rfl : owner = user := Option.some.inj hactor
    have hrole : UserRole.platformOwner = role := Except.ok.inj hcreates.readsRole
    have hpermissions : [] = permissions := Except.ok.inj hcreates.readsPermissions
    have hscopes : [] = scopes := Except.ok.inj hcreates.readsScopes
    exact ⟨hrole.symm, by simp [← hpermissions], by simp [← hscopes]⟩
  · intro user hactor target permissions hassigns
    have huser := deputy_role
    rw [show validate deputyStore "deputy" = some user from hactor, Option.map_some,
      Option.some.injEq] at huser
    have htarget := owner_role
    rw [show deputyStore.user? "owner" = some target from hassigns.target.found, Option.map_some,
      Option.some.injEq] at htarget
    have hpermissions : ["governance.read"] = permissions := Except.ok.inj hassigns.readsPermissions
    refine ⟨htarget.trans huser.symm, fun permission hmem => ?_⟩
    rw [← hpermissions, List.mem_singleton] at hmem
    rw [Grantable, if_pos huser, hmem]
    exact .inl ⟨"governance.", by simp, by decide⟩

open Example in
/-- The executive administrator of an organization makes an owner of the platform. -/
theorem executive_makes_owner : ¬ ∀ (s : Store) (calls : List Call),
    Along perform NoSuperAdmin s calls →
    Along perform DelegationCovered s calls := by
  intro h
  have hcovered : DelegationCovered platformStore createsOwner := by
    refine (h platformStore [createsOwner] ⟨fun user hactor => ?_, trivial⟩).1
    obtain rfl : executive = user := Option.some.inj hactor
    decide
  have hrow : ((perform createsOwner platformStore).user? "deputy").map (·.role) =
      some .platformOwner := by
    decide +kernel
  obtain ⟨row, hrow, hrole⟩ := Option.map_eq_some_iff.mp hrow
  rcases hcovered.accounts "deputy" row hrow with ⟨before, hbefore, -⟩ | ⟨user, hactor, hcovers⟩
  · cases hbefore
  · obtain rfl : executive = user := Option.some.inj hactor
    have howner := eq_platformOwner_of_among (hrole ▸ hcovers.role)
    cases howner

end FixZone.GovernanceService
