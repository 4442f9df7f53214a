import FixZone.InternalAdmin.Service

/-!
# Administrators put out of action

The part of `InternalAdminService` that takes away: `removeRole`, `suspendAdministrator`
and `revokeSessions`, each with the checks it makes on what it reads and the row it writes
afterwards. Left out is what a revoked assignment records of who revoked it and why.
-/

namespace FixZone.InternalAdminService

open Library Accounts
open ReportService (HttpError forbidden notFound)

/-- `assertNotFinalActiveSuperAdmin`. -/
def assertNotFinalActiveSuperAdmin (s : Store) (targetUserId : String) : Except HttpError PUnit :=
  throwIf ((s.users.rows.filter fun row => row.id ≠ targetUserId && row.accountStatus = .active &&
      (row.role = .superAdmin || row.role = .platformSuperAdmin)).length < 1)
    (forbidden "Cannot remove the final active platform super administrator.")

/-- The reading of `removeRole`: the assignment, if the actor may remove it. -/
def removableAssignment (env : ProcessEnv) (now : Millis) (s : Store) (user : User)
    (assignmentId : String) : Except HttpError InternalRoleAssignment := do
  assertPermission env now s user .internalAdminAssignRole
  orThrow (s.assignments.find? assignmentId) (notFound "Role assignment not found")

/-- The roles whose removal is checked. -/
def isSuperAdminRole (role : UserRole) : Bool := role = .platformSuperAdmin || role = .superAdmin

/-- The column of an assignment that is revoked. -/
@[simp] def revokedData : Patch InternalRoleAssignment.id where
  apply row := { row with status := .revoked }

/-- The write of `removeRole`. -/
def revokeAssignment (s : Store) (assignmentId : String) : Except HttpError Store := do
  throwIf ((s.assignments.find? assignmentId).isNone) missingRowError
  return { s with assignments := s.assignments.modify assignmentId revokedData }

/-- The checks of `suspendAdministrator` before it counts. -/
def assertMaySuspend (env : ProcessEnv) (now : Millis) (s : Store) (user : User)
    (targetUserId : String) : Except HttpError PUnit := do
  assertPermission env now s user .internalAdminSuspend
  throwIf (user.id = targetUserId) (forbidden "Administrators cannot suspend themselves.")

/-! ### Sessions -/

/-- The profile of a user whose sessions are revoked. -/
def revocationProfile (now : Millis) (profileData : Option Json) (reason : Option String) : Json :=
  .obj ((objectRecord profileData).filter (fun field => field.1 ≠ "sessionRevocation") ++
    [("sessionRevocation", .obj [("requestedAt", .str (toISOString now)),
      ("reason", optionalJson reason), ("enforcement", .str "token_version_advanced")])])

/-- The checks of `revokeSessions`, and the profile it writes after them. -/
def revokedProfile (env : ProcessEnv) (now : Millis) (s : Store) (user : User)
    (targetUserId : String) (reason : Option String) : Except HttpError Json := do
  assertPermission env now s user .internalAdminRevokeSessions
  throwIf (user.id = targetUserId)
    (forbidden "Use account security settings for self-session changes.")
  let target ← orThrow (s.user? targetUserId) (notFound "Administrator not found")
  return revocationProfile now target.profileData reason

/-- The columns of a user whose sessions are revoked. -/
@[simp] def sessionsRevokedData (profileData : Json) : Patch User.id where
  apply row := { row with
    tokenVersion := row.tokenVersion + 1
    profileData := some profileData }

/-- The write of `revokeSessions`. -/
def writeSessionsRevoked (s : Store) (targetUserId : String) (profileData : Json) :
    Except HttpError Store := do
  throwIf ((s.user? targetUserId).isNone) missingRowError
  return s.updateUser targetUserId (sessionsRevokedData profileData)

end FixZone.InternalAdminService
