import FixZone.PlatformConfiguration.CapabilityCoverage
import FixZone.Users.Service

/-!
# Changing the capabilities of a provider

`assignProviderCapabilities`, `removeProviderCapability` and `deactivateProviderCapability`: each
reads the list of assignments from the profile of the provider, changes it, and stores it back
beside what else the profile has.
-/

namespace FixZone.PlatformConfigurationService

open Library Accounts
open ReportService (HttpError forbidden notFound typeError providerCapabilitiesKey)
open UsersService (withField)

/-- The ids of `getProviderCapabilities`. -/
def providerCapabilityIds : List String :=
  ["electrical", "plumbing", "mechanical", "civil_works", "property_management", "facilities",
    "cleaning", "inspection", "architecture", "medical", "legal", "ict", "agriculture", "surveying",
    "security", "property", "education"]

/-- `UpdateProviderCapabilitiesDto`. -/
structure UpdateProviderCapabilitiesDto where
  capabilityIds : List String
  status : Option String := none

/-- An assignment as it is stored. -/
def CapabilityAssignment.toJson (item : CapabilityAssignment) : Json :=
  .obj [("id", .str item.id), ("status", .str item.status),
    ("assignedAt", optionalJson item.assignedAt),
    ("deactivatedAt", optionalJson item.deactivatedAt),
    ("approvalWorkflow", .str item.approvalWorkflow)]

/-- `capabilityMap.set(item.id, item)`. -/
def setAssignment (items : List CapabilityAssignment) (item : CapabilityAssignment) :
    List CapabilityAssignment :=
  if items.any (·.id = item.id) then
    items.map fun other => if other.id = item.id then item else other
  else items ++ [item]

/-- `assertCanManageProvider`. -/
def assertCanManageProvider (s : Store) (user : User) (providerId : String) :
    Except HttpError PUnit :=
  if user.role = .superAdmin then .ok ⟨⟩
  else do
    throwIf (truthy user.organizationId = false) (forbidden "No organization scope")
    throwIf (¬∃ provider ∈ s.user? providerId, provider.organizationId = user.organizationId ∨
      s.memberships.rows.any fun membership => membership.providerId = providerId &&
        membership.active && some membership.organizationId = user.organizationId)
      (forbidden "Provider is outside your organization")

/-- `getProviderForCapabilities`. -/
def getProviderForCapabilities (s : Store) (providerId : String) : Except HttpError User :=
  orThrow ((s.user? providerId).filter (·.role = .provider)) (notFound "Provider not found")

/-- The column that `saveProviderCapabilities` writes. -/
@[simp] def capabilitiesData (assignments : List CapabilityAssignment) : Patch User.id where
  apply row := { row with
    profileData := some (withField row.profileData providerCapabilitiesKey
      (.arr (assignments.map (·.toJson)))) }

/-- The three methods, by what they make of the assignments. They answer with a summary of these. -/
def changeCapabilities (change : List CapabilityAssignment → List CapabilityAssignment) (s : Store)
    (user : User) (providerId : String) : Except HttpError (Store × List CapabilityAssignment) := do
  assertCanManageProvider s user providerId
  let provider ← getProviderForCapabilities s providerId
  let existing ← orThrow (readProviderCapabilityAssignments provider.profileData) typeError
  return (s.updateUser providerId (capabilitiesData (change existing)), change existing)

/-- A capability that is assigned. -/
def newAssignment (now : Millis) (status : Option String) (id : String) :
    CapabilityAssignment where
  id
  status := (trimmedOrNull status).getD "ACTIVE"
  assignedAt := some (toISOString now)
  deactivatedAt := none
  approvalWorkflow := "placeholder"

/-- `assignProviderCapabilities`. -/
def assignProviderCapabilities (now : Millis) (s : Store) (user : User) (providerId : String)
    (dto : UpdateProviderCapabilitiesDto) : Except HttpError (Store × List CapabilityAssignment) :=
  changeCapabilities (fun existing =>
    ((dto.capabilityIds.filter providerCapabilityIds.contains).map
      (newAssignment now dto.status)).foldl setAssignment (existing.foldl setAssignment []))
    s user providerId

/-- `removeProviderCapability`. -/
def removeProviderCapability (s : Store) (user : User) (providerId capabilityId : String) :
    Except HttpError (Store × List CapabilityAssignment) :=
  changeCapabilities (fun existing => existing.filter (·.id ≠ capabilityId)) s user providerId

/-- `deactivateProviderCapability`. -/
def deactivateProviderCapability (now : Millis) (s : Store) (user : User)
    (providerId capabilityId : String) : Except HttpError (Store × List CapabilityAssignment) :=
  changeCapabilities (fun existing => existing.map fun item =>
    if item.id = capabilityId then
      { item with status := "INACTIVE", deactivatedAt := some (toISOString now) }
    else item) s user providerId

variable {s s' : Store} {user : User} {providerId : String}
  {change : List CapabilityAssignment → List CapabilityAssignment}
  {assignments : List CapabilityAssignment}

/-- What is answered is what is stored. -/
theorem changeCapabilities_eq_ok
    (h : changeCapabilities change s user providerId = .ok (s', assignments)) :
    ∃ provider, s.user? providerId = some provider ∧
      s' = s.updateUser providerId (capabilitiesData assignments) := by
  unfold changeCapabilities at h
  obtain ⟨-, h⟩ := check_bind_eq_ok.mp h
  obtain ⟨provider, hprovider, h⟩ := bind_eq_ok.mp h
  obtain ⟨existing, -, h⟩ := orThrow_bind_eq_ok.mp h
  obtain ⟨rfl, rfl⟩ := Prod.mk.inj (pure_eq_ok.mp h)
  exact ⟨provider, (Option.filter_eq_some_iff.mp (orThrow_eq_ok.mp hprovider)).1, rfl⟩

end FixZone.PlatformConfigurationService
