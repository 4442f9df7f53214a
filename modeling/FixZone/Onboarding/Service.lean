import FixZone.Accounts

/-!
# Onboarding

`requestProviderAccess`: somebody without an account applies to be a provider. The request may name
an invitation by its code, and the applicant belongs to the organization of the invitation then.

The invite code of an invitation is given to it when it is created and is never written again, so
it is read off the id of the row. The organizations here have no status and no time of creation:
the oldest one that is active is a value that the request finds.
-/

namespace FixZone.OnboardingService

open Library Accounts
open ReportService (HttpError badRequest notFound)

/-- `ProviderAccessRequestDto`, without the fields that go to columns nothing here reads. -/
structure ProviderAccessRequestDto where
  applicantType : String
  fullName : String
  email : String
  phone : String
  password : String
  confirmPassword : String
  address : String
  yearsOfExperience : ℕ
  supportingDocuments : Option Json := none
  organizationInviteCode : Option String := none

/-- What a request finds around the accounts: the codes of the invitations by their ids, the clock,
the id of a new row, what `bcrypt` makes of a password, and the oldest active organization. -/
structure Surroundings where
  inviteCode : String → String
  now : Millis
  newId : String
  hash : String → String
  activeOrganizationId : Option String

variable (env : Surroundings) (s : Store)

/-- `prisma.invitation.findUnique({ where: { inviteCode } })`. -/
def invitationWithCode (code : String) : Option Invitation :=
  s.invitations.rows.find? fun row => env.inviteCode row.id = trim code

/-- The code that a request names. -/
def ProviderAccessRequestDto.code? (dto : ProviderAccessRequestDto) : Option String :=
  dto.organizationInviteCode.filter (· ≠ "")

/-- `resolveProviderOrganization`. -/
def resolveProviderOrganization (dto : ProviderAccessRequestDto) :
    Except HttpError (Option String) :=
  match dto.code? with
  | none => .ok env.activeOrganizationId
  | some code => do
    let invitation ← orThrow ((invitationWithCode env s code).filter (·.status = .pending))
      (notFound "Invitation code is invalid or expired")
    return invitation.organizationId

/-- The applicant. -/
def applicant (dto : ProviderAccessRequestDto) (organizationId : Option String) : User where
  id := env.newId
  fullName := trim dto.fullName
  email := some (trim (toLowerCase dto.email))
  phone := some (trim dto.phone)
  passwordHash := some (env.hash dto.password)
  role := .pendingProvider
  accountStatus := .pendingApproval
  organizationId
  profileData := some (.obj [("applicantType", .str dto.applicantType),
    ("address", .str (trim dto.address)),
    ("yearsOfExperience", .num (toString dto.yearsOfExperience)),
    ("supportingDocuments", dto.supportingDocuments.getD .null),
    ("requestedAt", .str (toISOString env.now))])

/-- `requestProviderAccess`. -/
def requestProviderAccess (dto : ProviderAccessRequestDto) : Except HttpError (Store × User) := do
  throwIf (dto.password ≠ dto.confirmPassword) (badRequest "Passwords do not match")
  throwIf (s.users.rows.any fun row => row.email = some (trim (toLowerCase dto.email)) ||
    row.phone = some (trim dto.phone)) (badRequest "User already exists")
  let organizationId ← resolveProviderOrganization env s dto
  throwIf (s.user? env.newId).isSome uniqueError
  return (s.insertUser (applicant env dto organizationId), applicant env dto organizationId)

/-! ### What it does -/

variable {env s} {s' : Store} {dto : ProviderAccessRequestDto} {user : User}

/-- What an application was checked for, the code apart. -/
structure Applies (env : Surroundings) (s : Store) (dto : ProviderAccessRequestDto) : Prop where
  passwords : dto.password = dto.confirmPassword
  unknown : ∀ row ∈ s.users.rows, row.email ≠ some (trim (toLowerCase dto.email)) ∧
    row.phone ≠ some (trim dto.phone)
  free : s.user? env.newId = none

theorem requestProviderAccess_eq_ok : requestProviderAccess env s dto = .ok (s', user) ↔
    Applies env s dto ∧ ∃ organizationId,
      resolveProviderOrganization env s dto = .ok organizationId ∧
      s' = s.insertUser (applicant env dto organizationId) ∧
      user = applicant env dto organizationId := by
  unfold requestProviderAccess
  rw [throwIf_bind_eq_ok, throwIf_bind_eq_ok]
  constructor
  · rintro ⟨hpasswords, hunknown, h⟩
    obtain ⟨organizationId, horganization, h⟩ := bind_eq_ok.mp h
    obtain ⟨hfree, h⟩ := throwIf_bind_eq_ok.mp h
    obtain ⟨rfl, rfl⟩ := Prod.mk.inj (pure_eq_ok.mp h)
    refine ⟨⟨not_not.mp hpasswords, ?_, by simpa using hfree⟩, organizationId, horganization, rfl,
      rfl⟩
    simpa using hunknown
  · rintro ⟨happlies, organizationId, horganization, rfl, rfl⟩
    refine ⟨not_not.mpr happlies.passwords, by simpa using happlies.unknown,
      bind_eq_ok.mpr ⟨organizationId, horganization, throwIf_bind_eq_ok.mpr ⟨?_, rfl⟩⟩⟩
    simp [happlies.free]

/-- A code is good where its invitation is pending. -/
theorem resolveProviderOrganization_code {code : String} {organizationId : Option String}
    (hcode : dto.code? = some code) :
    resolveProviderOrganization env s dto = .ok organizationId ↔
      ∃ row, invitationWithCode env s code = some row ∧ row.status = .pending ∧
        row.organizationId = organizationId := by
  unfold resolveProviderOrganization
  rw [hcode]
  dsimp only
  rw [orThrow_bind_eq_ok]
  constructor
  · rintro ⟨row, hrow, h⟩
    obtain ⟨hfound, hpending⟩ := Option.filter_eq_some_iff.mp hrow
    exact ⟨row, hfound, of_decide_eq_true hpending, pure_eq_ok.mp h⟩
  · rintro ⟨row, hfound, hpending, rfl⟩
    exact ⟨row, Option.filter_eq_some_iff.mpr ⟨hfound, decide_eq_true hpending⟩, rfl⟩

end FixZone.OnboardingService
