import FixZone.Library.Guard
import FixZone.Library.Table
import FixZone.PlatformModules.Service
import FixZone.Report.Model

/-!
# Readiness of an organization

`OrganizationService.getReadiness`: the checks an organization has to pass before it can be
dispatched to, and among them those of its routing readiness. The modules of an organization are
those of `PlatformModulesService`, which always adds the maintenance module.

The tables hold their rows in the order of `createdAt` and id.
-/

namespace FixZone.OrganizationService

open Library Organization PlatformModulesService
open ReportService (HttpError JwtUser ResponsibilityProviderProfile
  ResponsibilityOrganizationProfile forbidden notFound typeError)

/-! ### Rows -/

/-- What routing and readiness read of a `User` row. -/
structure User where
  id : String
  role : UserRole
  accountStatus : AccountStatus := .active
  organizationId : Option String := none
  serviceCategories : Option Json := none
  coverageAreas : Option Json := none
  profileData : Option Json := none
  id_ne : id ≠ "" := by decide

/-- `ProviderOrganization`. -/
structure ProviderOrganization where
  providerId : String
  organizationId : String
  active : Bool := true

/-- `JurisdictionZone`. -/
structure JurisdictionZone extends RoutingJurisdictionZone where
  organizationId : Option String

/-- `Organization`. -/
structure OrganizationRow where
  id : String
  name : String := ""
  status : OrganizationStatus := .active
  contactEmail : Option String := none
  contactPhone : Option String := none
  address : Option String := none
  state : Option String := none
  lga : Option String := none
  country : Option String := none
  profileData : Option Json := none
  subscriptionPlan : SubscriptionPlan := .free
  billingStatus : BillingStatus := .trial
  allowedReportsPerMonth : Option ℕ := none
  enabledModules : Option Json := none

/-- The tables. -/
structure Tables where
  organizations : Table OrganizationRow.id
  users : Table User.id
  providerOrganizations : List ProviderOrganization := []
  jurisdictionZones : List JurisdictionZone := []

/-! ### Lists -/

/-- `jsonStringList`. -/
def jsonStringList (value : Option Json) : Option (List String) :=
  ReportService.jsonStringList value

/-- `collectStringList`, of texts. -/
def collectStringList (locale : LocaleOrder) (values : List String) : List String :=
  distinctSorted locale ((values.map trim).filter (· ≠ ""))

/-- `organizationMandateCategories`. -/
def organizationMandateCategories (locale : LocaleOrder) (profileData : Option Json) :
    Option (List String) := do
  let profile := ReportService.profileObject profileData
  let routing := ReportService.routingProfile profile
  let mandates ← jsonStringList (profile.field? "mandates")
  let supported ← jsonStringList (profile.field? "supportedCategories")
  let routed ← jsonStringList (routing.field? "mandateCategories")
  let routedSupported ← jsonStringList (routing.field? "supportedCategories")
  return collectStringList locale (mandates ++ supported ++ routed ++ routedSupported)

/-! ### Readiness -/

variable (locale : LocaleOrder) (t : Tables)

/-- `assertCanAccessOrganization`. -/
def assertCanAccessOrganization (id : String) (user : JwtUser) : Except HttpError PUnit :=
  throwIf (user.role ≠ .superAdmin ∧
      (truthy user.organizationId = false ∨ user.organizationId ≠ some id))
    (forbidden "Organization access denied")

/-- Who may look at an organization. -/
def MayAccess (id : String) (user : JwtUser) : Prop :=
  user.role = .superAdmin ∨ id ≠ "" ∧ user.organizationId = some id

theorem assertCanAccessOrganization_eq_ok {id : String} {user : JwtUser} {u : PUnit} :
    assertCanAccessOrganization id user = .ok u ↔ MayAccess id user := by
  unfold assertCanAccessOrganization MayAccess
  rw [throwIf_eq_ok]
  constructor
  · intro h
    by_cases hadmin : user.role = .superAdmin
    · exact .inl hadmin
    · simp only [not_and, not_or, Bool.not_eq_false, not_not] at h
      obtain ⟨htruthy, horganization⟩ := h hadmin
      exact .inr ⟨by simpa [horganization, truthy] using htruthy, horganization⟩
  · rintro (hadmin | ⟨hne, horganization⟩)
    · simp [hadmin]
    · simp [horganization, hne, truthy]

/-- The providers of an organization, as `getReadiness` queries them. -/
def readinessProviders (id : String) : List User :=
  t.users.rows.filter fun user =>
    user.role = .provider && user.accountStatus = .active &&
      (user.organizationId = some id || t.providerOrganizations.any fun link =>
        link.providerId = user.id && link.organizationId = id && link.active)

/-- The active members of an organization with a role. -/
def activeMembers (id : String) (role : UserRole) : ℕ :=
  t.users.rows.countP fun user =>
    user.organizationId = some id && user.role = role && user.accountStatus = .active

/-- The active zones of an organization. -/
def activeZones (id : String) : List RoutingJurisdictionZone :=
  (t.jurisdictionZones.filter fun zone =>
    zone.organizationId = some id && zone.active = some true).map (·.toRoutingJurisdictionZone)

/-- The `status` of a check. -/
inductive CheckStatus where
  | pass | blocker | warning
  deriving DecidableEq

/-- What `readinessCheck` returns. -/
structure ReadinessCheck where
  key : String
  label : String
  status : CheckStatus
  message : String

/-- `readinessCheck`. -/
def readinessCheck (key label : String) (passed : Bool) (passMessage failMessage : String)
    (failureStatus : CheckStatus := .blocker) : ReadinessCheck where
  key
  label
  status := if passed then .pass else failureStatus
  message := if passed then passMessage else failMessage

/-- A check does not block when it passes. -/
theorem readinessCheck_ne_blocker_iff {key label : String} {passed : Bool}
    {passMessage failMessage : String} :
    (readinessCheck key label passed passMessage failMessage).status ≠ .blocker ↔ passed := by
  cases passed <;> simp [readinessCheck]

/-- A check that only warns never does. -/
theorem readinessCheck_warning {key label : String} {passed : Bool}
    {passMessage failMessage : String} :
    (readinessCheck key label passed passMessage failMessage .warning).status ≠ .blocker := by
  cases passed <;> simp [readinessCheck]

/-- How ready the checks find an organization: what `state` and `operationalReadiness` say. -/
inductive ReadinessState where
  | ready | readyWithWarnings | notReady
  deriving DecidableEq

/-- The blockers and the warnings of a list of checks, and what follows from them. -/
structure Verdict where
  ready : Bool
  state : ReadinessState
  blockingReasons : List String
  warnings : List String

/-- The verdict of a list of checks. -/
def verdictOf (checks : List ReadinessCheck) : Verdict :=
  let blockers := checks.filter fun check => check.status = .blocker
  let warnings := checks.filter fun check => check.status = .warning
  { ready := blockers.isEmpty
    state := if blockers.isEmpty then
        if warnings.isEmpty then .ready else .readyWithWarnings
      else .notReady
    blockingReasons := blockers.map (·.message)
    warnings := warnings.map (·.message) }

/-- The verdict is good when no check blocks. -/
theorem verdictOf_ready_iff {checks : List ReadinessCheck} :
    (verdictOf checks).ready ↔ ∀ check ∈ checks, check.status ≠ .blocker := by
  simp [verdictOf]

/-- What the two lists of checks look at. -/
structure ReadinessFacts where
  organization : OrganizationRow
  adminCount : ℕ
  dispatchCount : ℕ
  providerCount : ℕ
  coveredCategories : List String
  providerCoverageAreas : List String
  moduleSummary : OrganizationModuleSummary
  routingMandateCategories : List String
  jurisdictionZones : List RoutingJurisdictionZone
  jurisdiction : RoutingJurisdictionMatch

namespace ReadinessFacts

variable (facts : ReadinessFacts)

/-- Whether the organization can be written to or called. -/
def contact : Bool :=
  truthy facts.organization.contactEmail || truthy facts.organization.contactPhone

/-- Whether the billing state allows operation. -/
def billing : Bool :=
  facts.organization.billingStatus ≠ .suspended && facts.organization.billingStatus ≠ .cancelled

/-- `routingChecks`. -/
def routingChecks : List ReadinessCheck :=
  [readinessCheck "routing_contact" "Routing contact" facts.contact
      "Organization contact channel is present."
      "Add a contact email or phone for responsibility review.",
    readinessCheck "routing_jurisdiction" "Routing jurisdiction" facts.jurisdiction.configured
      "Organization jurisdiction is configured."
      "Configure a jurisdiction zone, state, LGA or service address.",
    readinessCheck "routing_mandate" "Responsibility mandate"
      (facts.routingMandateCategories ≠ [] || facts.coveredCategories ≠ [])
      "Responsibility categories are configured."
      "Configure organization mandate categories or provider service categories.",
    readinessCheck "routing_module" "Maintenance module" facts.moduleSummary.maintenanceActive
      "FixZone Maintenance is enabled."
      "Enable the maintenance module before responsibility review.",
    readinessCheck "routing_billing" "Billing status" facts.billing
      "Billing state allows responsibility review."
      "Resolve suspended or cancelled billing state.",
    readinessCheck "routing_provider_capacity" "Dispatch provider capacity"
      (0 < facts.providerCount)
      "At least one active provider is available for dispatch."
      ("Add provider capacity before assignment; responsibility review can still use " ++
        "organization mandates.")
      .warning]

/-- What the routing checks demand. -/
theorem routingChecks_ready_iff :
    (verdictOf facts.routingChecks).ready ↔ facts.contact ∧ facts.jurisdiction.configured ∧
      (facts.routingMandateCategories ≠ [] ∨ facts.coveredCategories ≠ []) ∧
        facts.moduleSummary.maintenanceActive ∧ facts.billing := by
  rw [verdictOf_ready_iff]
  simp only [routingChecks, List.forall_mem_cons, readinessCheck_ne_blocker_iff,
    Bool.or_eq_true, decide_eq_true_eq]
  simp [readinessCheck_warning]

/-- `checks`. A plan is always assigned. -/
def checks : List ReadinessCheck :=
  [readinessCheck "status" "Organization status" (facts.organization.status = .active)
      "Organization is active." "Activate the organization before dispatch.",
    readinessCheck "profile" "Organization profile"
      (facts.organization.name ≠ "" && facts.contact)
      "Organization name and contact channel are present."
      "Add a contact email or phone before production handover.",
    readinessCheck "jurisdiction" "Jurisdiction"
      (truthy facts.organization.state || truthy facts.organization.lga ||
        truthy facts.organization.address)
      "Jurisdiction or address is configured." "Configure state, LGA or service address.",
    readinessCheck "admin" "Administrator" (0 < facts.adminCount)
      "At least one active organization administrator exists."
      "Add an active Organization Admin.",
    readinessCheck "dispatch" "Dispatch operations" (0 < facts.dispatchCount)
      "At least one active dispatch officer exists."
      "Add a dispatch officer or confirm Super Admin manual dispatch coverage." .warning,
    readinessCheck "providers" "Provider coverage" (0 < facts.providerCount)
      "At least one accepted active provider membership is linked."
      "Accept at least one provider membership invitation before dispatch.",
    readinessCheck "categories" "Service categories" (facts.coveredCategories ≠ [])
      "Provider service category coverage is configured."
      "Configure provider service categories for dispatch matching.",
    readinessCheck "module" "Maintenance module" facts.moduleSummary.maintenanceActive
      "FixZone Maintenance is enabled."
      "Enable the maintenance module before live operations.",
    readinessCheck "billing" "Billing status" facts.billing
      "Billing state allows operation." "Resolve suspended or cancelled billing state.",
    readinessCheck "plan" "Plan assignment" true
      "Subscription plan is assigned." "Assign a subscription plan."]

end ReadinessFacts

/-- What `getReadiness` reports: the facts it shows, and the verdict of each list of checks. -/
structure Readiness where
  facts : ReadinessFacts
  readiness : Verdict
  routingReadiness : Verdict

/-- What `getReadiness` reads of an organization; `none` where it throws. -/
def readinessFacts (organization : OrganizationRow) : Option ReadinessFacts := do
  let providers := readinessProviders t organization.id
  let jurisdictionZones := activeZones t organization.id
  let moduleSummary ← organizationModuleSummary organization.enabledModules
  let categories ← providers.mapM fun provider => jsonStringList provider.serviceCategories
  let coverage ← providers.mapM fun provider => jsonStringList provider.coverageAreas
  let routingMandateCategories ← organizationMandateCategories locale organization.profileData
  return {
    organization
    adminCount := activeMembers t organization.id .orgAdmin
    dispatchCount := activeMembers t organization.id .dispatchOfficer
    providerCount := providers.length
    coveredCategories := collectStringList locale categories.flatten
    providerCoverageAreas := collectStringList locale coverage.flatten
    moduleSummary
    routingMandateCategories
    jurisdictionZones
    jurisdiction := evaluateRoutingJurisdiction locale
      { country := organization.country, state := organization.state, lga := organization.lga,
        address := organization.address, jurisdictionZones } {} }

/-- `getReadiness`. -/
def getReadiness (id : String) (user : JwtUser) : Except HttpError Readiness := do
  assertCanAccessOrganization id user
  let organization ← orThrow (t.organizations.find? id) (notFound "Organization not found")
  let facts ← orThrow (readinessFacts locale t organization) typeError
  return { facts, readiness := verdictOf facts.checks,
           routingReadiness := verdictOf facts.routingChecks }

end FixZone.OrganizationService
