import FixZone.InternalAdmin.Scope
import FixZone.Library.Run

/-!
# Runs of the internal administration

A call of one of the three operations by a user, at a time. `perform` is what it
leaves of the store, whether it succeeds or throws, and `perform_cases` lists
everything a call can do. What follows from it is said of the grants of a user: an
assignment is one more grant of its user, an acceptance replaces the grant of the role
and adds one, and all other grants stay (`CanUse` is read off them).
-/

namespace FixZone.InternalAdminService

open Library Accounts

/-- The operations that give a role away. -/
inductive Operation where
  | invite (dto : InviteInternalAdminDto)
  | accept (invitationId : String)
  | assign (targetUserId : String) (dto : AssignInternalRoleDto)

/-- A call: an operation, the user whose token it comes with, and what it finds around the store
apart from the environment of the process, which is the same for all calls. -/
structure Call where
  actorId : String
  operation : Operation
  now : Millis
  date : String → Option Millis := fun _ => none
  newId : String

/-- What the call finds around the store. -/
def Call.server (call : Call) (env : ProcessEnv) : Server := ⟨env, call.now, call.date, call.newId⟩

/-- The store after a call. -/
def perform (env : ProcessEnv) (call : Call) (s : Store) : Store :=
  match validate s call.actorId with
  | none => s
  | some user =>
    match call.operation with
    | .invite dto => (commit s (inviteAdministrator (call.server env) s user dto)).store
    | .accept invitationId => (acceptInvitation (call.server env) s user invitationId).store
    | .assign targetUserId dto =>
        (commit s (assignRole (call.server env) s user targetUserId dto)).store

/-- Everything a call can do. -/
inductive Performed (env : ProcessEnv) (call : Call) (s : Store) : Store → Prop where
  | unchanged : Performed env call s s
  | approval (request : PrivilegedApprovalRequest) : Performed env call s (s.addApproval request)
  | invited (user : User) (dto : InviteInternalAdminDto) (definition : InternalRoleDefinition)
      (row : Invitation) (actor : validate s call.actorId = some user)
      (grantable : Grantable (call.server env) s user .internalAdminInvite definition)
      (role : row.role = definition.role) (low : definition.highRiskGrant = false)
      (free : s.invitation? row.id = none) :
      Performed env call s (s.insertInvitation row)
  | expired (invitationId : String) :
      Performed env call s (s.updateInvitation invitationId expiredData)
  | accepted (user : User) (invitationId : String) (invitation : Invitation)
      (definition : InternalRoleDefinition) (operation : call.operation = .accept invitationId)
      (actor : validate s call.actorId = some user)
      (found : s.invitation? invitationId = some invitation)
      (acceptable : Acceptable (call.server env) s user invitation definition) :
      Performed env call s (acceptedStore (call.server env) s user invitation definition)
  | assigned (user : User) (targetUserId : String) (dto : AssignInternalRoleDto)
      (definition : InternalRoleDefinition)
      (scope : InternalScope) (startsAt expiresAt : Option Millis)
      (operation : call.operation = .assign targetUserId dto)
      (actor : validate s call.actorId = some user)
      (assignable : Assignable
      (call.server env) s user targetUserId dto definition scope startsAt expiresAt) :
      Performed env call s (s.insertAssignment
        (assignedRow
        (call.server env) user targetUserId definition scope startsAt expiresAt dto.reason))

theorem perform_cases (env : ProcessEnv) (call : Call) (s : Store) :
    Performed env call s (perform env call s) := by
  unfold perform
  cases hactor : validate s call.actorId with
  | none => exact .unchanged
  | some user =>
    dsimp only
    cases hoperation : call.operation with
    | invite dto =>
      dsimp only
      refine commit_induction (p := Performed env call s) .unchanged fun s' answer hok => ?_
      obtain ⟨definition, hgrantable, heffect⟩ := inviteAdministrator_eq_ok hok
      cases heffect with
      | approval request => exact .approval request
      | existing => exact .unchanged
      | created row scope hlow _ hid hfree hrole =>
        exact .invited user dto definition row hactor hgrantable hrole hlow (hid ▸ hfree)
    | accept invitationId =>
      dsimp only
      rcases acceptInvitation_store (call.server env) s user invitationId with
        hsame | hexpired | ⟨invitation, definition, hfound, hacceptable, hstore⟩
      · rw [hsame]
        exact .unchanged
      · rw [hexpired]
        exact .expired invitationId
      · rw [hstore]
        exact .accepted user invitationId invitation definition hoperation hactor hfound hacceptable
    | assign targetUserId dto =>
      dsimp only
      refine commit_induction (p := Performed env call s) .unchanged fun s' answer hok => ?_
      cases assignRole_eq_ok hok with
      | approval request => exact .approval request
      | created definition scope startsAt expiresAt hassignable =>
        exact .assigned user targetUserId dto definition scope startsAt expiresAt hoperation
          hactor hassignable

/-- A call keeps what every invitation offers. -/
theorem offersKept_perform (env : ProcessEnv) (call : Call) (s : Store) :
    OffersKept s (perform env call s) := by
  have hperformed := perform_cases env call s
  generalize perform env call s = s' at hperformed
  cases hperformed with
  | unchanged => exact .of_eq rfl
  | approval => exact .of_eq rfl
  | invited => exact offersKept_insertInvitation s _
  | expired invitationId => exact offersKept_updateInvitation s invitationId fun _ =>
      ⟨rfl, rfl, rfl, rfl⟩
  | accepted user invitationId invitation =>
      exact offersKept_updateInvitation _ invitation.id fun _ => ⟨rfl, rfl, rfl, rfl⟩
  | assigned => exact .of_eq rfl

/-! ### The grants after a call -/

variable {env : ProcessEnv} {now t : Millis} {s s' : Store} {user row : User} {call : Call}

theorem activeAssignments_insert {assignment : InternalRoleAssignment}
    (hfree : s.assignments.find? assignment.id = none) (userId : String) :
    activeAssignments t (s.insertAssignment assignment) userId =
      activeAssignments t s userId ++
        if assignment.userId = userId ∧ activeAt t assignment = true then [assignment] else [] := by
  unfold activeAssignments Store.insertAssignment
  rw [Table.rows_insert_of_free hfree, List.filter_append]
  simp only [List.filter_cons, List.filter_nil, Bool.and_eq_true, decide_eq_true_eq]

theorem mem_effectivePermissions_iff {p : InternalPermissionKey} :
    p ∈ (effectivePermissionsForUser env t s row).permissions ↔ row.accountStatus ≠ .suspended ∧
      (p ∈ permissionsForRole env row.role ∨
        ∃ assignment ∈ activeAssignments t s row.id,
          p ∈ permissionArray assignment.permissionsSnapshot) := by
  unfold effectivePermissionsForUser
  split
  · next hsuspended => simp [hsuspended]
  · next hnot => simp [hnot, List.mem_eraseDups]

/-- The grants are read off the row of the user and the active assignments. -/
theorem pool_congr (h : activeAssignments t s' user.id = activeAssignments t s user.id) :
    pool env t s' user = pool env t s user := by
  unfold pool internalGrants
  rw [h]

/-- The user with an id can use a permission on an organization at a time. -/
def CanUse (env : ProcessEnv) (t : Millis) (s : Store) (userId : String) (p : InternalPermissionKey)
    (organizationId : String) : Prop :=
  ∃ row, s.user? userId = some row ∧ hasPermission env t s row p (some organizationId) = true

/-- The user with an id has a permission at a time, on some organization or none. -/
def Holds (env : ProcessEnv) (t : Millis) (s : Store) (userId : String)
    (p : InternalPermissionKey) : Prop :=
  ∃ row, s.user? userId = some row ∧ p ∈ (effectivePermissionsForUser env t s row).permissions

theorem holds_iff {userId : String} {p : InternalPermissionKey} : Holds env t s userId p ↔
    ((s.user? userId).any fun row =>
    (effectivePermissionsForUser env t s row).permissions.contains p) = true := by
  simp [Holds, Option.any_eq_true]

theorem canUse_iff_any {userId organizationId : String} {p : InternalPermissionKey} :
    CanUse env t s userId p organizationId ↔
      ((s.user? userId).any fun row => hasPermission env t s row p (some organizationId)) =
        true := by
  simp [CanUse, Option.any_eq_true]

theorem user_id_of_find {userId : String} (h : s.user? userId = some row) : row.id = userId :=
  Table.key_of_find? h

theorem hasPermission_congr {p : InternalPermissionKey} {organizationId : String}
    (hne : organizationId ≠ "") (h : activeAssignments t s' row.id = activeAssignments t s row.id) :
    hasPermission env t s' row p (some organizationId) = true ↔
      hasPermission env t s row p (some organizationId) = true := by
  rw [hasPermission_iff hne, hasPermission_iff hne, pool_congr h]

/-- Where the row and the assignments of a user stay, so does what the user can use. -/
theorem canUse_congr {userId organizationId : String} {p : InternalPermissionKey}
    (hne : organizationId ≠ "") (huser : s'.user? userId = s.user? userId)
    (hassignments : activeAssignments t s' userId = activeAssignments t s userId) :
    CanUse env t s' userId p organizationId ↔ CanUse env t s userId p organizationId := by
  unfold CanUse
  rw [huser]
  refine exists_congr fun row => and_congr_right fun hrow => ?_
  have hid := user_id_of_find hrow
  exact hasPermission_congr hne (by rw [hid]; exact hassignments)

/-- What nobody's row and no assignment has changed for, nobody can use more of. -/
theorem canUse_of_eq {userId organizationId : String} {p : InternalPermissionKey}
    (hne : organizationId ≠ "")
    (husers : s'.users = s.users) (hassignments : s'.assignments = s.assignments) :
    CanUse env t s' userId p organizationId ↔ CanUse env t s userId p organizationId := by
  refine canUse_congr hne ?_ ?_
  · rw [Store.user?, Store.user?, husers]
  · rw [activeAssignments, activeAssignments, hassignments]

theorem perform_of_acceptable {invitationId : String} {invitation : Invitation}
    {definition : InternalRoleDefinition} (hactor : validate s call.actorId = some user)
    (hoperation : call.operation = .accept invitationId)
    (hfound : s.invitation? invitationId = some invitation)
    (h : Acceptable (call.server env) s user invitation definition) :
    perform env call s = acceptedStore (call.server env) s user invitation definition := by
  unfold perform
  rw [hactor, hoperation]
  exact acceptInvitation_of_acceptable hfound h

theorem perform_of_assignable {targetUserId : String} {dto : AssignInternalRoleDto}
    {definition : InternalRoleDefinition} {scope : InternalScope}
    {startsAt expiresAt : Option Millis} (hactor : validate s call.actorId = some user)
    (hoperation : call.operation = .assign targetUserId dto)
    (h : Assignable (call.server env) s user targetUserId dto definition scope startsAt expiresAt) :
    perform env call s = s.insertAssignment
      (assignedRow
      (call.server env) user targetUserId definition scope startsAt expiresAt dto.reason) := by
  unfold perform
  rw [hactor, hoperation]
  dsimp only
  rw [assignRole_of_assignable h, commit]

end FixZone.InternalAdminService
