import FixZone.InternalAdmin.ScopeCeiling
import FixZone.InternalAdmin.Lifecycle
import FixZone.Users.Administration
import FixZone.Library.Observed

/-!
# What the removal of a role leaves

An acceptance gives a role twice: it writes the role to the row of the user, and it creates an
assignment with the permissions of the role. `removeRole` revokes the assignment, and nothing in
the service writes the role of a user but a later acceptance. So after a removal the role a user
accepted last still counts, unless the account is suspended; the permissions of a removed role are
gone exactly when what is left of them is granted by other assignments
(`revocation_effective_iff`).
-/

namespace FixZone.InternalAdminService

open Library Accounts
open UsersService (statusData writeUserStatus)
open ReportService (HttpError)

/-! ### The operations that take away -/

/-- `removeRole`. -/
def removeRole (env : ProcessEnv) (now : Millis) (s : Store) (user : User)
    (assignmentId : String) : Except HttpError Store := do
  let assignment ← removableAssignment env now s user assignmentId
  checkWhen (isSuperAdminRole assignment.role)
    (assertNotFinalActiveSuperAdmin s assignment.userId)
  revokeAssignment s assignmentId

/-- `suspendAdministrator`. -/
def suspendAdministrator (env : ProcessEnv) (now : Millis) (s : Store) (user : User)
    (targetUserId : String) : Except HttpError Store := do
  assertMaySuspend env now s user targetUserId
  assertNotFinalActiveSuperAdmin s targetUserId
  writeUserStatus s targetUserId .suspended

/-- `reactivateAdministrator`. -/
def reactivateAdministrator (env : ProcessEnv) (now : Millis) (s : Store) (user : User)
    (targetUserId : String) : Except HttpError Store := do
  assertPermission env now s user .internalAdminSuspend
  writeUserStatus s targetUserId .active

/-- `revokeSessions`. -/
def revokeSessions (env : ProcessEnv) (now : Millis) (s : Store) (user : User)
    (targetUserId : String) (reason : Option String) : Except HttpError Store := do
  let profileData ← revokedProfile env now s user targetUserId reason
  writeSessionsRevoked s targetUserId profileData

/-- The operations on what an administrator has. -/
inductive LifecycleOperation where
  | removeRole (assignmentId : String)
  | suspendAdministrator (targetUserId : String)
  | reactivateAdministrator (targetUserId : String)
  | revokeSessions (targetUserId : String) (reason : Option String)

/-- The status an operation writes to a user. -/
def LifecycleOperation.status (userId : String) : LifecycleOperation → Option AccountStatus
  | .suspendAdministrator targetUserId => if targetUserId = userId then some .suspended else none
  | .reactivateAdministrator targetUserId => if targetUserId = userId then some .active else none
  | .removeRole _ | .revokeSessions _ _ => none

/-- A call of one of them, by a user at a time. -/
structure LifecycleCall where
  actorId : String
  operation : LifecycleOperation
  now : Millis

/-- The answer to a call by the user whose token it comes with. -/
def LifecycleCall.answer (env : ProcessEnv) (s : Store) (call : LifecycleCall) (user : User) :
    Except HttpError Store :=
  match call.operation with
  | .removeRole assignmentId => removeRole env call.now s user assignmentId
  | .suspendAdministrator targetUserId => suspendAdministrator env call.now s user targetUserId
  | .reactivateAdministrator targetUserId =>
    reactivateAdministrator env call.now s user targetUserId
  | .revokeSessions targetUserId reason =>
    revokeSessions env call.now s user targetUserId reason

/-! ### Runs -/

/-- A call of the service. -/
inductive AdminEvent where
  | grants (call : Call)
  | lifecycle (call : LifecycleCall)

section Runs

variable (env : ProcessEnv)

/-- What a call of the second kind leaves in the store, if it succeeds. -/
def lifecycleResult (s : Store) (call : LifecycleCall) : Option Store :=
  (validate s call.actorId).bind fun user => (call.answer env s user).toOption

/-- The store after a call. -/
def performAdmin : AdminEvent → Store → Store
  | .grants call, s => perform env call s
  | .lifecycle call, s => (lifecycleResult env s call).getD s

variable (userId : String)

/-- The invitation that a call of a user takes up. -/
def takenUp (s : Store) (call : Call) : Option Invitation :=
  match call.operation with
  | .accept invitationId =>
    (validate s call.actorId).bind fun user =>
      if call.actorId = userId then
        (acceptInvitation (call.server env) s user invitationId).answer.toOption.bind fun _ =>
          s.invitation? invitationId
      else none
  | .invite _ | .assign _ _ => none

/-- The role a call writes to a user. -/
def writtenRole (s : Store) : AdminEvent → Option UserRole
  | .grants call => (takenUp env userId s call).map Invitation.role
  | .lifecycle _ => none

/-- The status a call writes to a user. -/
def writtenStatus (s : Store) : AdminEvent → Option AccountStatus
  | .grants call => (takenUp env userId s call).map fun _ => .active
  | .lifecycle call => (lifecycleResult env s call).bind fun _ => call.operation.status userId

/-- An active assignment of the user, other than the one with the id, grants the permission. -/
def GrantedByAnother (t : Millis) (s : Store) (assignmentId : String)
    (p : InternalPermissionKey) : Prop :=
  ∃ assignment ∈ activeAssignments t s userId, assignment.id ≠ assignmentId ∧
    p ∈ permissionArray assignment.permissionsSnapshot

/-- The assignment with the id does not count at a time: it was revoked, or it has run out. -/
def AssignmentGone (t : Millis) (s : Store) (assignmentId : String) : Prop :=
  ∀ assignment, s.assignments.find? assignmentId = some assignment → activeAt t assignment = false

/-- The user has no permission of the role but those that other active assignments grant. -/
def RoleGone (t : Millis) (s : Store) (assignmentId : String) (role : UserRole) : Prop :=
  ∀ p ∈ permissionsForRole env role, Holds env t s userId p →
    GrantedByAnother userId t s assignmentId p

/-- At the end of a run from the store after an acceptance of a role, the user was suspended last,
or the role accepted last has no permission of the first one but those that other active
assignments grant. -/
def RoleSuperseded (t : Millis) (s : Store) (later : List AdminEvent) (assignmentId : String)
    (role : UserRole) : Prop :=
  lastWritten (performAdmin env) (writtenStatus env userId) s later = some .suspended ∨
    ∀ p ∈ permissionsForRole env role,
      p ∈ permissionsForRole env
        ((lastWritten (performAdmin env) (writtenRole env userId) s later).getD role) →
        GrantedByAnother userId t (run (performAdmin env) s later) assignmentId p

end Runs

variable {env : ProcessEnv} {now t : Millis} {s s' : Store} {user row : User} {userId : String}

/-! ### What a call writes to the row of a user -/

theorem toOption_eq_some_iff {ε α : Type} {x : Except ε α} {a : α} :
    x.toOption = some a ↔ x = .ok a := by
  cases x <;> simp [Except.toOption]

theorem writeUserStatus_eq_ok {status : AccountStatus} :
    writeUserStatus s userId status = .ok s' ↔
      (s.user? userId).isSome ∧ s.updateUser userId (statusData status) = s' := by
  unfold writeUserStatus
  rw [throwIf_bind_eq_ok, Bool.not_eq_true, Option.isNone_eq_false_iff, pure_eq_ok]

theorem map_user?_updateUser {α : Type} (column : User → α) (targetUserId : String)
    (data : Patch User.id) (hsame : ∀ row, column (data.apply row) = column row) :
    ((s.updateUser targetUserId data).user? userId).map column =
      (s.user? userId).map column := by
  unfold Store.updateUser Store.user?
  rw [Table.find?_modify]
  split
  · simp [Function.comp_def, hsame]
  · rfl

theorem map_accountStatus_writeUserStatus {targetUserId : String} {status : AccountStatus}
    (h : writeUserStatus s targetUserId status = .ok s') :
    (s'.user? userId).map User.accountStatus =
      (if targetUserId = userId then some status else none).or
        ((s.user? userId).map User.accountStatus) := by
  obtain ⟨hfound, rfl⟩ := writeUserStatus_eq_ok.mp h
  unfold Store.updateUser Store.user?
  rw [Table.find?_modify]
  by_cases heq : targetUserId = userId
  · subst heq
    obtain ⟨row, hrow⟩ := Option.isSome_iff_exists.mp hfound
    unfold Store.user? at hrow
    simp [hrow]
  · simp [heq, Ne.symm heq]

/-- A call that takes away leaves the roles as they are, and writes the status it says. -/
theorem columns_answer {call : LifecycleCall} (h : call.answer env s user = .ok s') :
    (s'.user? userId).map User.role = (s.user? userId).map User.role ∧
      (s'.user? userId).map User.accountStatus = (call.operation.status userId).or
        ((s.user? userId).map User.accountStatus) := by
  unfold LifecycleCall.answer at h
  cases hoperation : call.operation with
  | removeRole assignmentId =>
    rw [hoperation] at h
    obtain ⟨assignment, -, h⟩ := bind_eq_ok.mp h
    obtain ⟨-, h⟩ := check_bind_eq_ok.mp h
    obtain ⟨-, h⟩ := throwIf_bind_eq_ok.mp h
    obtain rfl := pure_eq_ok.mp h
    exact ⟨rfl, rfl⟩
  | suspendAdministrator targetUserId =>
    rw [hoperation] at h
    obtain ⟨-, h⟩ := check_bind_eq_ok.mp h
    obtain ⟨-, h⟩ := check_bind_eq_ok.mp h
    refine ⟨?_, map_accountStatus_writeUserStatus h⟩
    obtain ⟨-, rfl⟩ := writeUserStatus_eq_ok.mp h
    exact map_user?_updateUser _ _ _ fun _ => rfl
  | reactivateAdministrator targetUserId =>
    rw [hoperation] at h
    obtain ⟨-, h⟩ := check_bind_eq_ok.mp h
    refine ⟨?_, map_accountStatus_writeUserStatus h⟩
    obtain ⟨-, rfl⟩ := writeUserStatus_eq_ok.mp h
    exact map_user?_updateUser _ _ _ fun _ => rfl
  | revokeSessions targetUserId reason =>
    rw [hoperation] at h
    obtain ⟨profileData, -, h⟩ := bind_eq_ok.mp h
    obtain ⟨-, h⟩ := throwIf_bind_eq_ok.mp h
    obtain rfl := pure_eq_ok.mp h
    exact ⟨map_user?_updateUser _ _ _ fun _ => rfl, map_user?_updateUser _ _ _ fun _ => rfl⟩

/-- A user takes up an invitation in a call exactly where the call accepts it. -/
theorem takenUp_eq_some_iff {call : Call} {invitation : Invitation} :
    takenUp env userId s call = some invitation ↔
      call.actorId = userId ∧ ∃ user invitationId definition, validate s call.actorId = some user ∧
        call.operation = .accept invitationId ∧ s.invitation? invitationId = some invitation ∧
        Acceptable (call.server env) s user invitation definition := by
  unfold takenUp
  cases hoperation : call.operation with
  | invite dto => simp
  | assign targetUserId dto => simp
  | accept invitationId =>
    simp only [Option.bind_eq_some_iff, Option.ite_none_right_eq_some, toOption_eq_some_iff,
      acceptInvitation_answer_eq_ok, Operation.accept.injEq]
    constructor
    · rintro ⟨user, hactor, hid, definition, ⟨invitation', hfound', hacceptable⟩, hfound⟩
      obtain rfl := Option.some.inj (hfound.symm.trans hfound')
      exact ⟨hid, user, invitationId, definition, hactor, rfl, hfound, hacceptable⟩
    · rintro ⟨hid, user, _, definition, hactor, rfl, hfound, hacceptable⟩
      exact ⟨user, hactor, hid, definition, ⟨invitation, hfound, hacceptable⟩, hfound⟩

theorem user?_acceptedStore_map {invitation : Invitation} {definition : InternalRoleDefinition}
    {server : Server} (hrow : s.user? user.id = some row) :
    ((acceptedStore server s user invitation definition).user? user.id).map User.role =
        some invitation.role ∧
      ((acceptedStore server s user invitation definition).user? user.id).map User.accountStatus =
        some .active := by
  rw [user?_acceptedStore hrow]
  exact ⟨rfl, rfl⟩

/-- A call that gives a role away writes to a user only by an acceptance of that user. -/
theorem columns_perform (call : Call) :
    ((perform env call s).user? userId).map User.role =
        ((takenUp env userId s call).map Invitation.role).or ((s.user? userId).map User.role) ∧
      ((perform env call s).user? userId).map User.accountStatus =
        ((takenUp env userId s call).map fun _ => .active).or
          ((s.user? userId).map User.accountStatus) := by
  cases htaken : takenUp env userId s call with
  | some invitation =>
    obtain ⟨rfl, user, invitationId, definition, hactor, hoperation, hfound, hacceptable⟩ :=
      takenUp_eq_some_iff.mp htaken
    obtain ⟨hrow, -⟩ := user?_of_validate hactor
    have hid : user.id = call.actorId := user_id_of_find (validate_eq_some_iff.mp hactor).1
    rw [perform_of_acceptable hactor hoperation hfound hacceptable, ← hid]
    exact user?_acceptedStore_map hrow
  | none =>
    have hsame : (perform env call s).user? userId = s.user? userId := by
      have hperformed := perform_cases env call s
      generalize perform env call s = s' at hperformed
      cases hperformed with
      | unchanged => rfl
      | approval => rfl
      | invited => rfl
      | expired => rfl
      | assigned => rfl
      | accepted user invitationId invitation definition hoperation hactor hfound hacceptable =>
        refine user?_acceptedStore_of_ne fun heq => ?_
        have hid : user.id = call.actorId := user_id_of_find (validate_eq_some_iff.mp hactor).1
        have htaken' := takenUp_eq_some_iff.mpr
          ⟨hid.symm.trans heq.symm, user, invitationId, definition, hactor, hoperation, hfound,
            hacceptable⟩
        rw [htaken] at htaken'
        cases htaken'
    rw [hsame]
    exact ⟨rfl, rfl⟩

theorem columns_lifecycle (call : LifecycleCall) :
    (((lifecycleResult env s call).getD s).user? userId).map User.role =
        (s.user? userId).map User.role ∧
      (((lifecycleResult env s call).getD s).user? userId).map User.accountStatus =
        ((lifecycleResult env s call).bind fun _ => call.operation.status userId).or
          ((s.user? userId).map User.accountStatus) := by
  cases hresult : lifecycleResult env s call with
  | none => exact ⟨rfl, rfl⟩
  | some s' =>
    obtain ⟨user, -, hanswer⟩ := Option.bind_eq_some_iff.mp hresult
    exact columns_answer (toOption_eq_some_iff.mp hanswer)

/-- The role of a user is the one last accepted. -/
theorem writes_role (env : ProcessEnv) (userId : String) :
    Writes (performAdmin env) (writtenRole env userId)
    (fun s => (s.user? userId).map User.role) := by
  rintro s (call | call)
  · exact (columns_perform call).1
  · exact (columns_lifecycle call).1

/-- The status of a user is the one last written, by an acceptance, a suspension or a
reactivation. -/
theorem writes_status (env : ProcessEnv) (userId : String) :
    Writes (performAdmin env) (writtenStatus env userId)
    (fun s => (s.user? userId).map User.accountStatus) := by
  rintro s (call | call)
  · exact (columns_perform call).2
  · exact (columns_lifecycle call).2

/-! ### After a removal -/

/-- A user has a permission by the own role or by an assignment that counts. -/
theorem holds_iff_columns {role : UserRole} {status : AccountStatus} {p : InternalPermissionKey}
    (hrole : (s.user? userId).map User.role = some role)
    (hstatus : (s.user? userId).map User.accountStatus = some status) :
    Holds env t s userId p ↔ status ≠ .suspended ∧ (p ∈ permissionsForRole env role ∨
      ∃ assignment ∈ activeAssignments t s userId,
        p ∈ permissionArray assignment.permissionsSnapshot) := by
  obtain ⟨row, hrow, rfl⟩ := Option.map_eq_some_iff.mp hrole
  rw [hrow] at hstatus
  obtain rfl := Option.some.inj hstatus
  unfold Holds
  simp only [hrow, Option.some.injEq, exists_eq_left', mem_effectivePermissions_iff,
    user_id_of_find hrow]

theorem assignmentGone_iff {assignmentId : String} : AssignmentGone t s assignmentId ↔
    ((s.assignments.find? assignmentId).all fun assignment => !activeAt t assignment) = true := by
  simp [AssignmentGone, Option.all_eq_true]

theorem grantedByAnother_iff_of_gone {assignmentId : String} {p : InternalPermissionKey}
    (hgone : AssignmentGone t s assignmentId) :
    GrantedByAnother userId t s assignmentId p ↔ ∃ assignment ∈ activeAssignments t s userId,
      p ∈ permissionArray assignment.permissionsSnapshot := by
  refine exists_congr fun assignment => and_congr_right fun hmem => and_iff_right fun hid => ?_
  obtain ⟨hrow, hactive⟩ := List.mem_filter.mp hmem
  have hfound : s.assignments.find? assignmentId = some assignment := by
    rw [← hid]
    exact Table.mem_rows_iff.mp hrow
  simp [hgone assignment hfound] at hactive

/-- **Revocation.** After the assignment that a user got with an invitation is gone, the
permissions of its role are gone exactly when the role has been superseded. -/
theorem revocation_effective_iff (env : ProcessEnv) (s : Store) (call : Call) (userId : String)
    (invitation : Invitation) (htaken : takenUp env userId s call = some invitation)
    (later : List AdminEvent) (t : Millis)
    (hgone : AssignmentGone t (run (performAdmin env) (perform env call s) later) call.newId) :
    RoleGone env userId t (run (performAdmin env) (perform env call s) later) call.newId
        invitation.role ↔
      RoleSuperseded env userId t (perform env call s) later call.newId invitation.role := by
  obtain ⟨hrole, hstatus⟩ := @columns_perform env s userId call
  rw [htaken] at hrole hstatus
  have hlastRole : ((run (performAdmin env) (perform env call s) later).user? userId).map
      User.role = some ((lastWritten (performAdmin env) (writtenRole env userId)
        (perform env call s) later).getD invitation.role) := by
    rw [(writes_role env userId).column_run, hrole, Option.map_some, Option.some_or,
      Option.or_some]
  have hlastStatus : ((run (performAdmin env) (perform env call s) later).user? userId).map
      User.accountStatus = some ((lastWritten (performAdmin env) (writtenStatus env userId)
        (perform env call s) later).getD .active) := by
    rw [(writes_status env userId).column_run, hstatus, Option.map_some, Option.some_or,
      Option.or_some]
  have hholds := fun p => @holds_iff_columns env t _ userId _ _ p hlastRole hlastStatus
  unfold RoleGone RoleSuperseded
  constructor
  · intro hlaw
    by_cases hsuspended : lastWritten (performAdmin env) (writtenStatus env userId)
        (perform env call s) later = some .suspended
    · exact .inl hsuspended
    · refine .inr fun p hp hrole => hlaw p hp ((hholds p).mpr ⟨fun heq => ?_, .inl hrole⟩)
      rcases Option.getD_eq_iff.mp heq with hlast | ⟨-, hactive⟩
      · exact hsuspended hlast
      · cases hactive
  · rintro (hsuspended | hsuperseded) p hp hheld
    · obtain ⟨hnot, -⟩ := (hholds p).mp hheld
      rw [hsuspended] at hnot
      exact absurd rfl hnot
    · obtain ⟨-, hrole | hassignment⟩ := (hholds p).mp hheld
      · exact hsuperseded p hp hrole
      · exact (grantedByAnother_iff_of_gone hgone).mpr hassignment

namespace Example

/-- The invitation to support. -/
def supportInvitation : Invitation :=
  { id := "invitation", email := some "helper@fixzone.ng", role := .supportAdmin
    invitedById := "owner" }

/-- Someone of the legal department, whose role has no permissions. -/
def invitee : User := { id := "newcomer", role := .legalAdmin }

/-- The store of a super administrator and a newcomer who is invited. -/
def invitedStore : Store :=
  { Store.ofUsers ⟨[{ id := "owner", role := .superAdmin }, invitee], by simp [invitee]⟩
      (Table.empty _) with
    invitations := ⟨[supportInvitation], by simp⟩ }

/-- The newcomer takes the invitation up. -/
def newcomerAccepts : Call :=
  { actorId := "newcomer", now := 1, newId := "assignment", operation := .accept "invitation" }

/-- The super administrator removes the role. -/
def ownerRemoves : AdminEvent :=
  .lifecycle { actorId := "owner", operation := .removeRole "assignment", now := 2 }

/-- The super administrator suspends the newcomer. -/
def ownerSuspends : AdminEvent :=
  .lifecycle { actorId := "owner", operation := .suspendAdministrator "newcomer", now := 3 }

end Example

open Example in
/-- A newcomer who is suspended besides has nothing of the removed role. -/
theorem suspended_newcomer_has_nothing :
    RoleGone (fun _ => none) "newcomer" 4 (run (performAdmin fun _ => none)
      (perform (fun _ => none) newcomerAccepts invitedStore) [ownerRemoves, ownerSuspends])
      "assignment" .supportAdmin := by
  refine (revocation_effective_iff (fun _ => none) invitedStore newcomerAccepts "newcomer"
    supportInvitation rfl [ownerRemoves, ownerSuspends] 4 ?_).mpr (.inl ?_)
  · rw [assignmentGone_iff]
    decide +kernel
  · decide +kernel

open Example in
/-- The newcomer keeps a permission of the role that was removed. -/
theorem removed_role_still_counts :
    ¬ ∀ (env : ProcessEnv) (s : Store) (call : Call) (user : User) (invitation : Invitation),
      validate s call.actorId = some user →
      (effectivePermissionsForUser env call.now s user).permissions = [] →
      takenUp env user.id s call = some invitation → ∀ (later : List AdminEvent) (t : Millis),
      AssignmentGone t (run (performAdmin env) (perform env call s) later) call.newId →
        RoleGone env user.id t (run (performAdmin env) (perform env call s) later) call.newId
          invitation.role := by
  intro h
  have hgone : AssignmentGone 3 (run (performAdmin fun _ => none)
      (perform (fun _ => none) newcomerAccepts invitedStore) [ownerRemoves]) "assignment" := by
    rw [assignmentGone_iff]
    decide +kernel
  have hheld : Holds (fun _ => none) 3 (run (performAdmin fun _ => none)
      (perform (fun _ => none) newcomerAccepts invitedStore) [ownerRemoves]) "newcomer"
      .supportAccountAssistance := by
    rw [holds_iff]
    decide +kernel
  have hlaw := h (fun _ => none) invitedStore newcomerAccepts invitee
    supportInvitation rfl (by decide +kernel) rfl [ownerRemoves] 3 hgone
    .supportAccountAssistance (by decide +kernel) hheld
  obtain ⟨assignment, hmem, -⟩ := hlaw
  have hnone : activeAssignments 3 (run (performAdmin fun _ => none)
      (perform (fun _ => none) newcomerAccepts invitedStore) [ownerRemoves]) invitee.id = [] := by
    rw [← List.isEmpty_iff]
    decide +kernel
  rw [hnone] at hmem
  cases hmem

end FixZone.InternalAdminService
