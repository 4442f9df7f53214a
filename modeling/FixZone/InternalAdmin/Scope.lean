import FixZone.InternalAdmin.Service
import FixZone.Library.Grants
import Mathlib.Data.Fintype.EquivFin

/-!
# Permissions and their scopes

A user's grants are the own role, whose scope is the platform, and the active
assignments, each with its permissions and its scope. `hasPermission` asks whether some
grant has the permission and whether some grant covers the organization, the user's own
organization counting as covered: it is the pool of the grants (`hasPermission_iff`).

So a permission can be used where another grant reaches. It stays within the grant
that carries it exactly for the users each of whose permissions is as wide as all their
scopes together (`permission_within_grant_iff`).
-/

namespace FixZone.InternalAdminService

open Library Accounts

/-- A grant of a user: the own role, or an assignment. -/
structure InternalGrant where
  permissions : List InternalPermissionKey
  scope : InternalScope

/-- The organizations a scope covers. -/
def InternalScope.Covers (scope : InternalScope) (organizationId : String) : Prop :=
  scope.type = .platform ∨ scope.organizationId = some organizationId ∨
    scope.ref = some organizationId

/-- The organizations a scope names. -/
def InternalScope.names (scope : InternalScope) : List String :=
  scope.organizationId.toList ++ scope.ref.toList

/-- The grant an assignment makes. -/
def assignmentGrant (assignment : InternalRoleAssignment) : InternalGrant where
  permissions := permissionArray assignment.permissionsSnapshot
  scope := assignmentScope assignment

section Grants

variable (env : ProcessEnv) (now : Millis) (s : Store) (user : User)

/-- The grant the own role makes, if it has permissions. -/
def roleGrants : List InternalGrant :=
  if permissionsForRole env user.role = [] then [] else
    [⟨permissionsForRole env user.role, roleScope user⟩]

/-- The grants of a user; one who is suspended has none. -/
def internalGrants : List InternalGrant :=
  if user.accountStatus = .suspended then []
  else roleGrants env user ++ (activeAssignments now s user.id).map assignmentGrant

/-- The organizations the scopes of a user name, and the own one. -/
def namedOrganizations : List String :=
  user.organizationId.toList ++ (internalGrants env now s user).flatMap fun grant =>
    grant.scope.names

/-- One grant contains the permission and covers the organization. -/
def CarriedByGrant (p : InternalPermissionKey) (organizationId : String) : Prop :=
  ∃ grant ∈ internalGrants env now s user, p ∈ grant.permissions ∧ grant.scope.Covers organizationId

/-- Every permission is as wide as the scopes together: platform-wide if some scope is, and for
every organization that is named. -/
def PermissionsAsWideAsScopes : Prop :=
  ∀ grant ∈ internalGrants env now s user, ∀ p ∈ grant.permissions,
    ((∃ wide ∈ internalGrants env now s user, wide.scope.type = .platform) →
        ∃ wide ∈ internalGrants env now s user, p ∈ wide.permissions ∧
          wide.scope.type = .platform) ∧
      ∀ organizationId ∈ namedOrganizations env now s user, organizationId ≠ "" →
        CarriedByGrant env now s user p organizationId

/-- A grant, as the organizations it covers and the permissions it has. -/
def InternalGrant.toGrant (grant : InternalGrant) : Grant InternalPermissionKey String where
  permits := {p | p ∈ grant.permissions}
  covers := {organizationId | grant.scope.Covers organizationId}

/-- The own organization, as a grant that permits nothing. -/
def ownOrganization : Grant InternalPermissionKey String where
  permits := ∅
  covers := {organizationId | user.organizationId = some organizationId}

/-- What `hasPermission` combines. -/
def pool : List (Grant InternalPermissionKey String) :=
  ownOrganization user :: (internalGrants env now s user).map InternalGrant.toGrant

end Grants

variable {env : ProcessEnv} {now : Millis} {s : Store} {user : User} {p : InternalPermissionKey}
  {organizationId : String}

theorem effectivePermissions_eq :
    (effectivePermissionsForUser env now s user).permissions =
      ((internalGrants env now s user).flatMap InternalGrant.permissions).eraseDups := by
  unfold effectivePermissionsForUser internalGrants roleGrants
  split
  · rfl
  · split
    · next hnone => simp [hnone, List.flatMap_map, assignmentGrant]
    · simp [List.flatMap_map, assignmentGrant]

theorem effectiveScopes_eq :
    (effectivePermissionsForUser env now s user).scopes =
      (internalGrants env now s user).map InternalGrant.scope := by
  unfold effectivePermissionsForUser internalGrants roleGrants
  split
  · rfl
  · split
    · next hnone => simp [hnone, assignmentGrant, Function.comp_def]
    · next hsome => simp [hsome, assignmentGrant, Function.comp_def]

theorem mem_permitted_pool : p ∈ Grant.permitted (pool env now s user) ↔
    p ∈ (effectivePermissionsForUser env now s user).permissions := by
  rw [effectivePermissions_eq, List.mem_eraseDups, List.mem_flatMap, Grant.mem_permitted]
  simp [pool, ownOrganization, InternalGrant.toGrant]

theorem mem_covered_pool : organizationId ∈ Grant.covered (pool env now s user) ↔
    user.organizationId = some organizationId ∨
      ∃ grant ∈ internalGrants env now s user, grant.scope.Covers organizationId := by
  simp [Grant.mem_covered, pool, ownOrganization, InternalGrant.toGrant]

/-- `hasPermission` for an organization is the pool of the grants. -/
theorem hasPermission_iff (horganization : organizationId ≠ "") :
    hasPermission env now s user p (some organizationId) = true ↔
      Grant.Pooled (pool env now s user) p organizationId := by
  rw [Grant.Pooled, mem_permitted_pool, mem_covered_pool]
  simp only [hasPermission, effectiveScopes_eq, Bool.and_eq_true, List.contains_iff_mem,
    Bool.or_eq_true, Bool.not_eq_true', List.any_map, List.any_eq_true, Function.comp_apply,
    decide_eq_true_eq, truthy_some_iff.mpr horganization, Bool.true_eq_false,
    false_or, InternalScope.Covers, or_assoc]
  exact and_congr_right fun _ => or_comm

theorem granted_pool_iff : Grant.Granted (pool env now s user) p organizationId ↔
    CarriedByGrant env now s user p organizationId := by
  simp [Grant.Granted, pool, ownOrganization, InternalGrant.toGrant, CarriedByGrant]

/-- A scope covers every organization, or the ones it names. -/
theorem named_pool : Grant.Named (namedOrganizations env now s user) (pool env now s user) := by
  intro g hg
  rcases List.mem_cons.mp hg with rfl | hg
  · refine .inr fun organizationId hown => List.mem_append_left _ ?_
    exact Option.mem_toList.mpr hown
  · obtain ⟨grant, hgrant, rfl⟩ := List.mem_map.mp hg
    by_cases hplatform : grant.scope.type = .platform
    · exact .inl (Set.eq_univ_of_forall fun _ => .inl hplatform)
    · refine .inr fun organizationId hcovers =>
        List.mem_append_right _ (List.mem_flatMap.mpr ⟨grant, hgrant, ?_⟩)
      rcases hcovers with htype | hscope | hscope
      · exact absurd htype hplatform
      · exact List.mem_append_left _ (Option.mem_toList.mpr hscope)
      · exact List.mem_append_right _ (Option.mem_toList.mpr hscope)

/-- An organization that is named is covered. -/
theorem covered_of_named (h : organizationId ∈ namedOrganizations env now s user) :
    organizationId ∈ Grant.covered (pool env now s user) := by
  rw [mem_covered_pool]
  rcases List.mem_append.mp h with hown | hscope
  · exact .inl (Option.mem_toList.mp hown)
  · obtain ⟨grant, hgrant, hname⟩ := List.mem_flatMap.mp hscope
    refine .inr ⟨grant, hgrant, ?_⟩
    rcases List.mem_append.mp hname with hname | hname
    · exact .inr (.inl (Option.mem_toList.mp hname))
    · exact .inr (.inr (Option.mem_toList.mp hname))

/-- The scope of a grant covers everything only where it is the platform. -/
theorem InternalGrant.covers_eq_univ_iff {grant : InternalGrant} :
    grant.toGrant.covers = Set.univ ↔ grant.scope.type = .platform := by
  constructor
  · intro huniv
    obtain ⟨fresh, hfresh⟩ := Grant.exists_fresh grant.scope.names
    have hcovers : grant.scope.Covers fresh := (Set.eq_univ_iff_forall.mp huniv) fresh
    rcases hcovers with hplatform | hscope | hscope
    · exact hplatform
    · exact absurd (List.mem_append_left _ (Option.mem_toList.mpr hscope)) hfresh
    · exact absurd (List.mem_append_right _ (Option.mem_toList.mpr hscope)) hfresh
  · exact fun hplatform => Set.eq_univ_of_forall fun _ => .inl hplatform

theorem ownOrganization_covers_ne_univ : (ownOrganization user).covers ≠ Set.univ := by
  intro huniv
  obtain ⟨fresh, hfresh⟩ := Grant.exists_fresh user.organizationId.toList
  have hcovers : user.organizationId = some fresh := (Set.eq_univ_iff_forall.mp huniv) fresh
  exact hfresh (Option.mem_toList.mpr hcovers)

/-- A part of the pool covers everything where a scope is the platform. -/
theorem exists_covers_eq_univ_iff :
    (∃ g ∈ pool env now s user, g.covers = Set.univ) ↔
      ∃ grant ∈ internalGrants env now s user, grant.scope.type = .platform := by
  simp [pool, ownOrganization_covers_ne_univ, InternalGrant.covers_eq_univ_iff]

theorem exists_permits_covers_eq_univ_iff :
    (∃ g ∈ pool env now s user, p ∈ g.permits ∧ g.covers = Set.univ) ↔
      ∃ grant ∈ internalGrants env now s user, p ∈ grant.permissions ∧
        grant.scope.type = .platform := by
  simp only [pool, List.exists_mem_cons_iff, ownOrganization_covers_ne_univ, and_false, false_or,
    List.mem_map, exists_exists_and_eq_and, InternalGrant.covers_eq_univ_iff]
  rfl

theorem mem_permitted_pool_iff :
    p ∈ Grant.permitted (pool env now s user) ↔
      ∃ grant ∈ internalGrants env now s user, p ∈ grant.permissions := by
  simp [Grant.mem_permitted, pool, ownOrganization, InternalGrant.toGrant]

/-- A role with permissions is platform-wide. -/
theorem platform_of_role (hnot : user.accountStatus ≠ .suspended)
    (hrole : permissionsForRole env user.role ≠ []) :
    ∃ grant ∈ internalGrants env now s user, grant.scope.type = .platform := by
  refine ⟨⟨permissionsForRole env user.role, roleScope user⟩, ?_, rfl⟩
  rw [internalGrants, if_neg hnot, roleGrants, if_neg hrole]
  exact List.mem_append_left _ List.mem_cons_self

theorem permissionsAsWideAsScopes_iff : PermissionsAsWideAsScopes env now s user ↔
    ∀ p ∈ Grant.permitted (pool env now s user),
      ((∃ g ∈ pool env now s user, g.covers = Set.univ) →
          ∃ g ∈ pool env now s user, p ∈ g.permits ∧ g.covers = Set.univ) ∧
        ∀ r ∈ namedOrganizations env now s user, r ∉ [""] →
          r ∈ Grant.covered (pool env now s user) →
          Grant.Granted (pool env now s user) p r := by
  simp only [PermissionsAsWideAsScopes, exists_covers_eq_univ_iff,
    exists_permits_covers_eq_univ_iff, granted_pool_iff, List.mem_singleton]
  constructor
  · intro h p hp
    obtain ⟨grant, hgrant, hp⟩ := mem_permitted_pool_iff.mp hp
    obtain ⟨hplatform, hnamed⟩ := h grant hgrant p hp
    exact ⟨hplatform, fun r hr hne _ => hnamed r hr hne⟩
  · intro h grant hgrant p hp
    obtain ⟨hplatform, hnamed⟩ := h p (mem_permitted_pool_iff.mpr ⟨grant, hgrant, hp⟩)
    exact ⟨hplatform, fun r hr hne => hnamed r hr hne (covered_of_named hr)⟩

/-- **Scopes.** Every permission a user can use on an organization is carried to it by a single
grant exactly when each of the permissions is as wide as the scopes together. -/
theorem permission_within_grant_iff (env : ProcessEnv) (now : Millis) (s : Store) (user : User) :
    (∀ p organizationId, organizationId ≠ "" →
      hasPermission env now s user p (some organizationId) = true →
        CarriedByGrant env now s user p organizationId) ↔
      PermissionsAsWideAsScopes env now s user := by
  rw [permissionsAsWideAsScopes_iff, ← Grant.pooled_granted_iff named_pool [""]]
  simp only [granted_pool_iff, List.mem_singleton]
  refine forall_congr' fun p => forall_congr' fun organizationId => forall_congr' fun hne => ?_
  rw [hasPermission_iff hne]

namespace Example

/-- An assignment with a scope of one organization. -/
def organizationAssignment (id organizationId : String) (permissions : List InternalPermissionKey) :
    InternalRoleAssignment where
  id
  userId := "administrator"
  role := .financeBillingAdmin
  scopeType := .organization
  organizationId := some organizationId
  permissionsSnapshot := permissionsSnapshot permissions
  assignedById := "owner"
  startsAt := 0

/-- A user who may ask for refunds in `lagos` and read reports' operations in `abuja`. -/
def twoOrganizations : Store :=
  { Store.ofUsers (Table.empty _) (Table.empty _) with
    assignments := ⟨[organizationAssignment "refunds" "lagos" [.paymentRefundRequest],
      organizationAssignment "operations" "abuja" [.reportOperations]],
      by simp [organizationAssignment]⟩ }

def administrator : User := { id := "administrator" }

end Example

open Example in
/-- A permission granted for one organization can be used on another one that an unrelated
assignment is for. -/
theorem permission_crosses_organizations :
    ¬ ∀ (env : ProcessEnv) (now : Millis) (s : Store) (user : User) (p : InternalPermissionKey)
    (organizationId : String),
      organizationId ≠ "" → hasPermission env now s user p (some organizationId) = true →
        CarriedByGrant env now s user p organizationId := by
  intro h
  obtain ⟨grant, hgrant, hp, hcovers⟩ :=
    h (fun _ => none) 1 twoOrganizations administrator .paymentRefundRequest "abuja"
    (by decide) (by decide +kernel)
  have hgrants : internalGrants (fun _ => none) 1 twoOrganizations administrator =
      twoOrganizations.assignments.rows.map assignmentGrant := by
    simp [internalGrants, roleGrants, permissionsForRole, resolveInternalRoleDefinition,
      internalRoleCatalog,
      activeAssignments, activeAt, administrator, twoOrganizations, organizationAssignment]
  rw [hgrants] at hgrant
  simp only [twoOrganizations, List.map_cons, List.map_nil, List.mem_cons, List.not_mem_nil,
    or_false] at hgrant
  rcases hgrant with rfl | rfl
  · simp [InternalScope.Covers, assignmentGrant, assignmentScope, organizationAssignment] at hcovers
  · simp [assignmentGrant, organizationAssignment, permissionArray_permissionsSnapshot] at hp

end FixZone.InternalAdminService
