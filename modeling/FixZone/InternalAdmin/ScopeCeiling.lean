import FixZone.InternalAdmin.Operations

/-!
# The ceiling of a scope

An administrator who is scoped to one organization should make nothing usable beyond
it. `resolveScope` compares the organization a request names with the actor's. It
does not look at the reference of the scope, which `hasPermission` reads as an organization
too, nor at the type, and the role an acceptance writes is platform-wide whatever
scope the invitation carries.

So a call stays within an organization only where it adds nothing outside it
(`scope_ceiling_iff`): an assignment does when neither it nor its user reaches further, or the
user could do all of it before; an acceptance when the user already had the permissions
on the whole platform.
-/

namespace FixZone.InternalAdminService

open Library Accounts

/-- `canUsePlatformQueueScope`. -/
def canUsePlatformQueueScope (effective : EffectivePermissionResult) (user : User) : Bool :=
  (user.role = .superAdmin || user.role = .platformSuperAdmin) ||
    (effective.scopes.any (fun scope => scope.type = .platform) &&
      !(truthy user.organizationId && effective.scopes.any fun scope =>
          scope.type = .organization && truthy (scope.organizationId <|> scope.ref)))

/-- `organizationScopeIds`. -/
def organizationScopeIds (effective : EffectivePermissionResult) (user : User) : List String :=
  ((user.organizationId :: effective.scopes.map fun scope =>
    scope.organizationId <|> scope.ref).filterMap
    fun item => item.filter (· ≠ "")).eraseDups

section Scoped

variable (env : ProcessEnv) (organizationId : String)

/-- The actor is scoped to one organization, the way the service decides what an administrator may
list. -/
def ScopedTo (s : Store) (call : Call) : Prop :=
  ∀ user, validate s call.actorId = some user →
    let effective := effectivePermissionsForUser env call.now s user
    canUsePlatformQueueScope effective user = false ∧
      organizationScopeIds effective user = [organizationId]

/-- The call makes no permission usable on another organization, at any time from then on. -/
def StaysWithin (s : Store) (call : Call) : Prop :=
  ∀ t, call.now ≤ t → ∀ userId p other, other ≠ organizationId → other ≠ "" →
    CanUse env t (perform env call s) userId p other → CanUse env t s userId p other

/-- The user reaches the organization at a time. -/
def Reaches (t : Millis) (s : Store) (user : User) (other : String) : Prop :=
  user.organizationId = some other ∨ ∃ grant ∈ internalGrants env t s user, grant.scope.Covers other

/-- A further assignment of a user adds nothing outside the organization: nothing outside is reached
at all, or the user could do everything before. -/
def AssignmentAddsNothing (t : Millis) (s : Store) (target : User)
    (definition : InternalRoleDefinition) (scope : InternalScope) : Prop :=
  (∀ other, other ≠ organizationId → other ≠ "" →
    ¬ Reaches env t s target other ∧ ¬ scope.Covers other) ∨
    (∀ p ∈ definition.permissions, p ∈ (effectivePermissionsForUser env t s target).permissions) ∧
      ∀ other, other ≠ organizationId → other ≠ "" → scope.Covers other →
        Reaches env t s target other

/-- The user has the permissions of the role on the whole platform. -/
def RoleAddsNothing (t : Millis) (s : Store) (user : User)
    (definition : InternalRoleDefinition) : Prop :=
  (∃ grant ∈ internalGrants env t s user, grant.scope.type = .platform) ∧
    ∀ p ∈ definition.permissions, p ∈ (effectivePermissionsForUser env t s user).permissions

/-- The call adds nothing outside the organization. An invitation never does. -/
structure AddsNothingBeyond (s : Store) (call : Call) : Prop where
  accept : ∀ user invitationId invitation definition, validate s call.actorId = some user →
    call.operation = .accept invitationId → s.invitation? invitationId = some invitation →
    Acceptable (call.server env) s user invitation definition →
    ∀ t, call.now ≤ t → RoleAddsNothing env t s user definition
  assign : ∀ user targetUserId dto definition scope startsAt expiresAt,
    validate s call.actorId = some user →
    call.operation = .assign targetUserId dto →
    Assignable (call.server env) s user targetUserId dto definition scope startsAt expiresAt →
    ∀ target, s.user? targetUserId = some target → target.accountStatus ≠ .suspended →
    ∀ t, call.now ≤ t →
      activeAt t (assignedRow
        (call.server env) user targetUserId definition scope startsAt expiresAt dto.reason) = true →
      AssignmentAddsNothing env organizationId t s target definition scope

end Scoped

variable {env : ProcessEnv} {organizationId : String} {t : Millis} {s s' : Store}
  {user row target : User} {call : Call}
  {p : InternalPermissionKey} {definition : InternalRoleDefinition} {scope : InternalScope}

/-! ### The pool after a call -/

theorem reaches_iff {other : String} :
    Reaches env t s user other ↔ other ∈ Grant.covered (pool env t s user) := mem_covered_pool.symm

theorem canUse_iff {userId other : String} (hrow : s.user? userId = some row) (hne : other ≠ "") :
    CanUse env t s userId p other ↔ Grant.Pooled (pool env t s row) p other := by
  rw [← hasPermission_iff hne, CanUse, hrow]
  simp

theorem not_pooled_of_suspended {other : String} (h : row.accountStatus = .suspended) :
    ¬ Grant.Pooled (pool env t s row) p other := by
  rintro ⟨hp, -⟩
  obtain ⟨grant, hgrant, -⟩ := mem_permitted_pool_iff.mp hp
  rw [internalGrants, if_pos h] at hgrant
  exact List.not_mem_nil hgrant

/-- An assignment of the user that is active is one more grant. -/
theorem pool_insert {assignment : InternalRoleAssignment}
    (hfree : s.assignments.find? assignment.id = none)
    (hnot : row.accountStatus ≠ .suspended) (huser : assignment.userId = row.id)
    (hactive : activeAt t assignment = true) :
    pool env t (s.insertAssignment assignment) row =
      pool env t s row ++ [(assignmentGrant assignment).toGrant] := by
  unfold pool internalGrants
  rw [activeAssignments_insert hfree, if_neg hnot, if_neg hnot, if_pos ⟨huser, hactive⟩]
  simp

/-- An assignment of somebody else, or one that is not active, changes nothing. -/
theorem activeAssignments_insert_of_not {assignment : InternalRoleAssignment}
    (hfree : s.assignments.find? assignment.id = none) {userId : String}
    (hnot : ¬ (assignment.userId = userId ∧ activeAt t assignment = true)) :
    activeAssignments t (s.insertAssignment assignment) userId = activeAssignments t s userId := by
  rw [activeAssignments_insert hfree, if_neg hnot, List.append_nil]

/-! ### An assignment -/

section Assign

variable {targetUserId : String} {dto : AssignInternalRoleDto} {startsAt expiresAt : Option Millis}

theorem toGrant_assignedRow {server : Server} {reason : Option String} :
    (assignmentGrant
    (assignedRow server user targetUserId definition scope startsAt expiresAt reason)).toGrant =
      ⟨{p | p ∈ definition.permissions}, {other | scope.Covers other}⟩ := by
  unfold InternalGrant.toGrant assignmentGrant assignedRow
  rw [permissionArray_permissionsSnapshot]
  rfl

/-- While an assignment is active it makes nothing usable outside exactly where it adds nothing. -/
theorem assignment_within_iff (hdefinition : definition ∈ internalRoleCatalog) :
    (∀ p, ∀ other ∈ {other | other ≠ organizationId ∧ other ≠ ""},
        Grant.Pooled (pool env t s target ++
          [⟨{p | p ∈ definition.permissions}, {other | scope.Covers other}⟩]) p other →
          Grant.Pooled (pool env t s target) p other) ↔
      AssignmentAddsNothing env organizationId t s target definition scope := by
  obtain ⟨p, hp⟩ := List.exists_mem_of_ne_nil _ (permissions_ne_nil hdefinition)
  rw [Grant.pooled_append_iff ⟨p, hp⟩]
  unfold AssignmentAddsNothing
  simp only [reaches_iff, ← mem_permitted_pool, Set.mem_ofPred_eq, and_imp]
  rfl

theorem staysWithin_assign_iff (hdefinition : definition ∈ internalRoleCatalog)
    {assignment : InternalRoleAssignment} (hfree : s.assignments.find? assignment.id = none)
    (hgrant : (assignmentGrant assignment).toGrant =
      ⟨{p | p ∈ definition.permissions}, {other | scope.Covers other}⟩) :
    (∀ userId p other, other ≠ organizationId → other ≠ "" →
        CanUse env t (s.insertAssignment assignment) userId p other →
          CanUse env t s userId p other) ↔
      ∀ target, s.user? assignment.userId = some target → target.accountStatus ≠ .suspended →
        activeAt t assignment = true →
          AssignmentAddsNothing env organizationId t s target definition scope := by
  constructor
  · intro hstays target htarget hnot hactive
    refine (assignment_within_iff hdefinition).mp fun p other hother hpooled => ?_
    have hid : assignment.userId = target.id := (user_id_of_find htarget).symm
    have hafter : (s.insertAssignment assignment).user? assignment.userId = some target := htarget
    rw [← hgrant, ← pool_insert hfree hnot hid hactive] at hpooled
    have hcan := (canUse_iff hafter hother.2).mpr hpooled
    exact (canUse_iff htarget hother.2).mp (hstays _ p other hother.1 hother.2 hcan)
  · intro hadds userId p other hother hne hcan
    by_cases hactive : assignment.userId = userId ∧ activeAt t assignment = true
    · obtain ⟨rfl, hactive⟩ := hactive
      obtain ⟨target, hafter, -⟩ := id hcan
      have htarget : s.user? assignment.userId = some target := hafter
      have hpooled := (canUse_iff hafter hne).mp hcan
      rw [canUse_iff htarget hne]
      by_cases hsuspended : target.accountStatus = .suspended
      · exact absurd hpooled (not_pooled_of_suspended hsuspended)
      · rw [pool_insert hfree hsuspended (user_id_of_find htarget).symm hactive, hgrant] at hpooled
        exact (assignment_within_iff hdefinition).mpr
          (hadds target htarget hsuspended hactive) p other ⟨hother, hne⟩ hpooled
    · have huser : (s.insertAssignment assignment).user? userId = s.user? userId := rfl
      exact (canUse_congr hne huser (activeAssignments_insert_of_not hfree hactive)).mp hcan

end Assign

/-! ### An acceptance -/

section Accept

variable {server : Server} {invitation : Invitation}

/-- The row of the user after an acceptance. -/
theorem user?_acceptedStore (hrow : s.user? user.id = some row) :
    (acceptedStore server s user invitation definition).user? user.id =
      some ((administratorData invitation.role (invitationScope invitation)).apply row) := by
  rw [acceptedStore, Store.user?_updateInvitation, Store.user?_insertAssignment]
  exact Table.find?_modify_self _ hrow

theorem user?_acceptedStore_of_ne {userId : String} (hne : userId ≠ user.id) :
    (acceptedStore server s user invitation definition).user? userId = s.user? userId := by
  rw [acceptedStore, Store.user?_updateInvitation, Store.user?_insertAssignment]
  exact Table.find?_modify_of_ne _ hne

theorem activeAssignments_acceptedStore (hfree : s.assignments.find? server.newId = none)
    (userId : String) :
    activeAssignments t (acceptedStore server s user invitation definition) userId =
      activeAssignments t s userId ++
        if user.id = userId ∧ activeAt t
        (acceptedAssignment server user invitation definition (invitationScope invitation))
        then [acceptedAssignment server user invitation definition (invitationScope invitation)]
          else [] := by
  have hinserted : (s.updateUser user.id
    (administratorData invitation.role (invitationScope invitation))).assignments.find?
      (acceptedAssignment server user invitation definition (invitationScope invitation)).id =
        none := hfree
  exact activeAssignments_insert hinserted userId

/-- After an acceptance the user has the permissions of the role, and those of the assignments from
before, on every organization. -/
theorem pooled_acceptedStore_iff (h : Acceptable server s user invitation definition)
    {other : String} :
    Grant.Pooled (pool server.env t (acceptedStore server s user invitation definition)
        ((administratorData invitation.role (invitationScope invitation)).apply user)) p other ↔
      p ∈ definition.permissions ∨
        ∃ assignment ∈ activeAssignments t s user.id,
          p ∈ permissionArray assignment.permissionsSnapshot := by
  have hrole : permissionsForRole server.env invitation.role = definition.permissions :=
    permissionsForRole_of_enabled h.resolved h.enabled
  have hne : permissionsForRole server.env invitation.role ≠ [] := by
    rw [hrole]
    exact permissions_ne_nil (mem_of_resolveInternalRoleDefinition h.resolved)
  have hcovered :
    other ∈ Grant.covered (pool server.env t (acceptedStore server s user invitation definition)
      ((administratorData invitation.role (invitationScope invitation)).apply user)) := by
    have hplatform :
      ∃ grant ∈ internalGrants server.env t (acceptedStore server s user invitation definition)
        ((administratorData invitation.role (invitationScope invitation)).apply user),
          grant.scope.type = .platform :=
      platform_of_role (by simp) (by simpa using hne)
    obtain ⟨grant, hgrant, hplatform⟩ := hplatform
    exact mem_covered_pool.mpr (.inr ⟨grant, hgrant, .inl hplatform⟩)
  rw [Grant.Pooled, and_iff_left hcovered, mem_permitted_pool, mem_effectivePermissions_iff]
  simp only [administratorData, hrole, activeAssignments_acceptedStore h.free, List.mem_append,
    or_and_right, exists_or, ne_eq, reduceCtorEq, not_false_eq_true, true_and]
  refine or_congr_right' fun hnot => or_iff_left ?_
  rintro ⟨assignment, hmem, hp⟩
  split at hmem
  · obtain rfl := List.mem_singleton.mp hmem
    rw [acceptedAssignment, permissionArray_permissionsSnapshot] at hp
    exact hnot hp
  · exact List.not_mem_nil hmem

/-- An acceptance makes nothing usable outside exactly where the role adds nothing. -/
theorem staysWithin_accept_iff (h : Acceptable server s user invitation definition)
    (hfound : s.user? user.id = some user) (hactive : user.accountStatus = .active) :
    (∀ userId p other, other ≠ organizationId → other ≠ "" →
        CanUse server.env t (acceptedStore server s user invitation definition) userId p other →
          CanUse server.env t s userId p other) ↔
      RoleAddsNothing server.env t s user definition := by
  have hafter : (acceptedStore server s user invitation definition).user? user.id =
      some ((administratorData invitation.role (invitationScope invitation)).apply user) :=
      user?_acceptedStore hfound
  constructor
  · intro hstays
    have hpooled : ∀ p ∈ definition.permissions, ∀ other, other ∉ [organizationId, ""] →
        Grant.Pooled (pool server.env t s user) p other := by
      intro p hp other hother
      simp only [List.mem_cons, List.not_mem_nil, or_false, not_or] at hother
      refine (canUse_iff hfound hother.2).mp (hstays user.id p other hother.1 hother.2 ?_)
      exact (canUse_iff hafter hother.2).mpr ((pooled_acceptedStore_iff h).mpr (.inl hp))
    obtain ⟨p, hp⟩ := List.exists_mem_of_ne_nil _
      (permissions_ne_nil (mem_of_resolveInternalRoleDefinition h.resolved))
    refine ⟨exists_covers_eq_univ_iff.mp ?_, fun p hp => ?_⟩
    · exact (Grant.covered_of_compl_iff named_pool _).mp fun other hother =>
        (hpooled p hp other hother).2
    · obtain ⟨other, hother⟩ := Grant.exists_fresh [organizationId, ""]
      exact mem_permitted_pool.mp (hpooled p hp other hother).1
  · rintro ⟨hplatform, hpermissions⟩ userId p other hother hne hcan
    by_cases huser : userId = user.id
    · subst huser
      obtain ⟨g, hg, huniv⟩ := exists_covers_eq_univ_iff.mpr hplatform
      rw [canUse_iff hfound hne]
      refine ⟨mem_permitted_pool.mpr ?_, g, hg, huniv ▸ Set.mem_univ other⟩
      rcases (pooled_acceptedStore_iff h).mp ((canUse_iff hafter hne).mp hcan) with hp | hold
      · exact hpermissions p hp
      · exact mem_effectivePermissions_iff.mpr ⟨by rw [hactive]; decide, .inr hold⟩
    · refine (canUse_congr hne (user?_acceptedStore_of_ne huser) ?_).mp hcan
      rw [activeAssignments_acceptedStore h.free, if_neg (fun hsame => huser hsame.1.symm),
        List.append_nil]

end Accept

/-! ### Runs -/

/-- **A call stays within an organization exactly when it adds nothing outside it.** -/
theorem staysWithin_iff (env : ProcessEnv) (organizationId : String) (s : Store) (call : Call) :
    StaysWithin env organizationId s call ↔ AddsNothingBeyond env organizationId s call := by
  constructor
  · intro hstays
    constructor
    · intro user invitationId invitation definition hactor hoperation hfound hacceptable t ht
      obtain ⟨huser, hactive⟩ := user?_of_validate hactor
      have hwithin := hstays t ht
      rw [perform_of_acceptable hactor hoperation hfound hacceptable] at hwithin
      exact (staysWithin_accept_iff hacceptable huser hactive).mp hwithin
    · intro user targetUserId dto definition scope startsAt expiresAt hactor hoperation hassignable
        target htarget hnot t ht hactive
      have hdefinition := mem_of_resolveInternalRoleDefinition hassignable.resolved
      have hwithin := hstays t ht
      rw [perform_of_assignable hactor hoperation hassignable] at hwithin
      exact (staysWithin_assign_iff hdefinition hassignable.free toGrant_assignedRow).mp hwithin
        target htarget hnot hactive
  · intro hadds t ht userId p other hother hne hcan
    have hperformed := perform_cases env call s
    generalize perform env call s = s' at hperformed hcan
    cases hperformed with
    | unchanged => exact hcan
    | approval => exact (canUse_of_eq hne rfl rfl).mp hcan
    | invited => exact (canUse_of_eq hne rfl rfl).mp hcan
    | expired => exact (canUse_of_eq hne rfl rfl).mp hcan
    | accepted user invitationId invitation definition hoperation hactor hfound hacceptable =>
      obtain ⟨huser, hactive⟩ := user?_of_validate hactor
      have hrole :=
        hadds.accept user invitationId invitation definition hactor hoperation hfound
          hacceptable t ht
      exact (staysWithin_accept_iff hacceptable huser hactive).mpr hrole userId p other
        hother hne hcan
    | assigned user targetUserId dto definition scope startsAt expiresAt hoperation hactor
        hassignable =>
      have hdefinition := mem_of_resolveInternalRoleDefinition hassignable.resolved
      refine (staysWithin_assign_iff hdefinition hassignable.free toGrant_assignedRow).mpr
        (fun target htarget hnot hactive => ?_) userId p other hother hne hcan
      exact hadds.assign user targetUserId dto definition scope startsAt expiresAt hactor hoperation
        hassignable target htarget hnot t ht hactive

/-- **The ceiling of a scope.** Along a run every call stays within the organization exactly when
every call adds nothing outside it; and then nobody can use in the end, from the last call on,
what could not be used at the start. -/
theorem scope_ceiling_iff (env : ProcessEnv) (organizationId : String) (s : Store)
    (calls : List Call) :
    (Along (perform env) (StaysWithin env organizationId) s calls ↔
        Along (perform env) (AddsNothingBeyond env organizationId) s calls) ∧
      (Along (perform env) (AddsNothingBeyond env organizationId) s calls →
        ∀ t, (∀ call ∈ calls, call.now ≤ t) → ∀ userId p other, other ≠ organizationId →
          other ≠ "" →
          CanUse env t (run (perform env) s calls) userId p other →
            CanUse env t s userId p other) := by
  refine ⟨along_congr (staysWithin_iff env organizationId) s calls,
    fun h t ht userId p other hother hne hcan => ?_⟩
  induction calls generalizing s with
  | nil => exact hcan
  | cons call calls ih =>
    obtain ⟨hcall, hcalls⟩ := h
    have hrest := ih (perform env call s) hcalls (fun c hc => ht c (List.mem_cons_of_mem _ hc)) hcan
    exact (staysWithin_iff env organizationId s call).mpr hcall t
      (ht call List.mem_cons_self) userId p other hother hne hrest

namespace Example

/-- An administrator of the support who is scoped to `lagos`. -/
def scopedAdministrator : User :=
  { id := "scoped", role := .supportAdmin, organizationId := some "lagos" }

def helper : User := { id := "helper" }

def scopedStore : Store :=
  { Store.ofUsers ⟨[scopedAdministrator, helper], by simp [scopedAdministrator, helper]⟩
  (Table.empty _) with
    assignments := ⟨[{
      id := "delegation", userId := "scoped", role := .platformSuperAdmin, scopeType :=
      .organization
      scopeRef := some "lagos", organizationId := some "lagos"
      permissionsSnapshot := permissionsSnapshot [.internalAdminAssignRole]
      assignedById := "owner", startsAt := 0 }], by simp⟩ }

/-- The scoped administrator assigns the own role with a scope that refers to `abuja`. -/
def assignElsewhere : Call where
  actorId := "scoped"
  operation := .assign "helper"
    { role := "SUPPORT_ADMIN", scopeType := some "ORGANIZATION", scopeRef := some "abuja" }
  now := 1
  newId := "assignment"

end Example

open Example in
/-- An administrator scoped to one organization makes a permission usable on another. -/
theorem scope_reference_crosses :
    ¬ ∀ (env : ProcessEnv) (organizationId : String) (s : Store) (calls : List Call),
      (∀ call ∈ calls, ScopedTo env organizationId s call) →
        Along (perform env) (StaysWithin env organizationId) s calls := by
  intro h
  have hscoped : ∀ call ∈ [assignElsewhere], ScopedTo (fun _ => none) "lagos" scopedStore call := by
    intro call hcall user hactor
    obtain rfl := List.mem_singleton.mp hcall
    obtain rfl : scopedAdministrator = user := Option.some.inj hactor
    decide +kernel
  have hstays := (h (fun _ => none) "lagos" scopedStore [assignElsewhere] hscoped).1
  have hafter : CanUse (fun _ => none) 1
    (perform (fun _ => none) assignElsewhere scopedStore) "helper"
      .supportAccountAssistance "abuja" := by
    rw [canUse_iff_any]
    decide +kernel
  have hbefore :=
    hstays 1 (by decide) "helper" .supportAccountAssistance "abuja" (by decide) (by decide) hafter
  rw [canUse_iff_any] at hbefore
  revert hbefore
  decide +kernel

end FixZone.InternalAdminService
