import FixZone.Users.Service

/-!
# Accounts under administration

The part of `UsersService` that changes accounts of others: `updateUser` and
`setUserStatus`, each of which reads the row it is about within the scope of the actor,
checks, and writes afterwards. What is read and checked gives the columns to write; the
write meets the constraints of the database.

The request of `updateUser` has no declared type, so its fields are whatever JSON came in. Left
out are the categories, the coverage and the plan of a provider.
-/

namespace FixZone.UsersService

open Library Accounts
open ReportService (HttpError forbidden badRequest)

/-! ### Finding the row -/

/-- `buildAdminScope`: the rows an actor may administer. -/
def buildAdminScope (s : Store) (user : User) : Except HttpError (User → Bool) := do
  throwIf (user.role ≠ .superAdmin ∧ user.role ≠ .orgAdmin ∧ user.role ≠ .dispatchOfficer)
    (forbidden "Not allowed")
  throwIf (user.role ≠ .superAdmin ∧ truthy user.organizationId = false)
    (forbidden "No organization assigned")
  return fun row => user.role = .superAdmin || row.organizationId = user.organizationId ||
    row.role = .provider && s.memberships.rows.any fun membership =>
      membership.providerId = row.id && membership.active &&
        some membership.organizationId = user.organizationId

/-- `getUser`. -/
def getUser (s : Store) (user : User) (id : String) : Except HttpError User := do
  let scope ← buildAdminScope s user
  orThrow ((s.user? id).filter scope) (forbidden "User not found in your scope")

/-! ### `updateUser` -/

/-- The fields of the request. -/
structure UpdateUserDto where
  phone : Option Json := none
  email : Option Json := none
  fullName : Option Json := none
  organizationId : Option Json := none
  role : Option Json := none
  providerId : Option Json := none

/-- The columns to write; `none` leaves a column as it is. -/
structure UserUpdateInput where
  phone : Option (Option String) := none
  email : Option (Option String) := none
  fullName : Option String := none
  organizationId : Option (Option String) := none
  role : Option UserRole := none
  providerId : Option (Option String) := none

/-- A new email, or none, has not been verified. -/
@[simp] def UserUpdateInput.patch (data : UserUpdateInput) : Patch User.id where
  apply row := { row with
    phone := data.phone.getD row.phone
    email := data.email.getD row.email
    emailVerifiedAt := if data.email.isSome then none else row.emailVerifiedAt
    identityVerificationStatus :=
      if data.email.join.isSome then .unverified else row.identityVerificationStatus
    fullName := data.fullName.getD row.fullName
    organizationId := data.organizationId.getD row.organizationId
    role := data.role.getD row.role
    providerId := data.providerId.getD row.providerId }

/-- `normalizeEmail`. -/
def normalizeEmail (raw : String) : Except HttpError (Option String) :=
  let email := trim (toLowerCase raw)
  if email = "" then .ok none
  else if isEmailText email then .ok (some email)
  else .error (badRequest "Enter a valid email address")

def identityEmailConflict : HttpError :=
  domainError .conflict "IDENTITY_EMAIL_CONFLICT"
    "This email already belongs to another SecureZone user."

/-- What Prisma throws for a value that is none of an enumeration. -/
def invalidEnumError : HttpError :=
  { kind := .internal, message := "Invalid value for argument `role`. Expected UserRole." }

/-- The email to write, for a provider. -/
def emailUpdate (s : Store) (existing : User) (raw : Option Json) :
    Except HttpError (Option (Option String)) :=
  match stringOf raw with
  | some text =>
    if existing.role = .provider then do
      let email ← normalizeEmail text
      throwIf (∃ duplicate ∈ s.users.rows, truthy email ∧ duplicate.email = email ∧
        duplicate.id ≠ existing.id) identityEmailConflict
      return some email
    else .ok none
  | none => .ok none

/-- The role to write, which only a super administrator may. -/
def roleUpdate (user : User) (raw : Option Json) : Except HttpError (Option UserRole) :=
  match stringOf raw with
  | some text =>
    if user.role = .superAdmin then do
      let role ← orThrow (UserRole.ofText? text) invalidEnumError
      return some role
    else .ok none
  | none => .ok none

/-- The checks of `updateUser`, and the columns it writes after them. -/
def updateUserInput (s : Store) (user : User) (id : String) (dto : UpdateUserDto) :
    Except HttpError UserUpdateInput := do
  let existing ← getUser s user id
  throwIf (user.role ≠ .superAdmin ∧ existing.role = .superAdmin)
    (forbidden "Only Super Admin can edit Super Admin users")
  let email ← emailUpdate s existing dto.email
  let role ← roleUpdate user dto.role
  return {
    phone := (stringOf dto.phone).map fun text => trimmedOrNull (some text)
    email
    fullName := (stringOf dto.fullName).bind fun text => trimmedOrNull (some text)
    organizationId := if user.role = .superAdmin then
      (stringOf dto.organizationId).map fun text => trimmedOrNull (some text) else none
    role
    providerId := if existing.role = .provider then
      (stringOf dto.providerId).map fun text => trimmedOrNull (some text) else none }

/-- A unique column of users has room for the value to write. -/
def uniqueFor (s : Store) (id : String) (column : User → Option String)
    (value : Option (Option String)) : Bool :=
  s.users.rows.all fun row => row.id = id || value.join.all fun text => column row ≠ some text

/-- The write of `updateUser`. -/
def writeUserUpdate (s : Store) (id : String) (data : UserUpdateInput) :
    Except HttpError Store := do
  throwIf (s.user? id).isNone missingRowError
  checkOrganization s data.organizationId.join
  throwIf (uniqueFor s id User.phone data.phone = false ∨
    uniqueFor s id User.email data.email = false ∨
      uniqueFor s id User.providerId data.providerId = false) uniqueError
  return s.updateUser id data.patch

/-- The write of `updateUser` is to a user who is there. -/
theorem writeUserUpdate_eq_ok {s s' : Store} {id : String} {data : UserUpdateInput}
    (h : writeUserUpdate s id data = .ok s') :
    (s.user? id).isSome ∧ s' = s.updateUser id data.patch := by
  unfold writeUserUpdate at h
  obtain ⟨hfound, h⟩ := throwIf_bind_eq_ok.mp h
  obtain ⟨-, h⟩ := check_bind_eq_ok.mp h
  obtain ⟨-, h⟩ := throwIf_bind_eq_ok.mp h
  rw [Bool.not_eq_true, Option.isNone_eq_false_iff] at hfound
  exact ⟨hfound, (pure_eq_ok.mp h).symm⟩

/-! ### `setUserStatus` -/

/-- The checks of `setUserStatus` before it counts; it answers whether there is something to
count, that is whether a super administrator is to be put out of action. -/
def setUserStatusTarget (s : Store) (user : User) (id : String) (status : AccountStatus) :
    Except HttpError Bool := do
  throwIf (user.id = id) (forbidden "You cannot suspend or activate yourself")
  let existing ← getUser s user id
  throwIf (user.role ≠ .superAdmin ∧ existing.role = .superAdmin)
    (forbidden "Only Super Admin can manage Super Admin users")
  return existing.role = .superAdmin && status ≠ .active

/-- A row of an active super administrator. -/
def isActiveSuperAdmin (row : User) : Bool := row.role = .superAdmin && row.accountStatus = .active

/-- The count of `setUserStatus`. -/
def assertNotFinalSuperAdmin (s : Store) (id : String) : Except HttpError PUnit :=
  throwIf ((s.users.rows.filter fun row => isActiveSuperAdmin row && row.id ≠ id).length = 0)
    (forbidden "Cannot deactivate the final active Super Admin")

/-- The column of a new status. -/
@[simp] def statusData (status : AccountStatus) : Patch User.id where
  apply row := { row with accountStatus := status }
  key_apply := User.id_withStatus status

/-- The write of `setUserStatus`, and that of `suspendAdministrator`. -/
def writeUserStatus (s : Store) (id : String) (status : AccountStatus) :
    Except HttpError Store := do
  throwIf (s.user? id).isNone missingRowError
  return s.updateUser id (statusData status)

end FixZone.UsersService
