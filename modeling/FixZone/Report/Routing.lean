import FixZone.Report.Category
import Mathlib.Data.Rat.Defs

/-!
# Responsibility routing

`ReportService.serializeOrganizationCandidate` and `resolveReportResponsibility`: which
organization a new report is offered to. An organization is taken with its active
provider links, its provider users and its jurisdiction zones, as the queries include
them, and a list of organizations is in the order the query returns it. `none` is a
`TypeError` thrown while a candidate or the diagnostics are computed.
-/

namespace FixZone.ReportService

open Library Organization

/-- `PROVIDER_CAPABILITIES_KEY`. -/
def providerCapabilitiesKey : String := "secureZoneProviderCapabilities"

/-- `ResponsibilityProviderProfile`. -/
structure ResponsibilityProviderProfile where
  id : String
  accountStatus : Option AccountStatus := some .active
  serviceCategories : Option Json := none
  coverageAreas : Option Json := none
  profileData : Option Json := none

/-- `ResponsibilityOrganizationProfile`. `allowedReportsPerMonth` is read by the quota check only. -/
structure ResponsibilityOrganizationProfile where
  id : String
  name : String := ""
  status : OrganizationStatus := .active
  billingStatus : BillingStatus := .trial
  contactEmail : Option String := none
  contactPhone : Option String := none
  country : Option String := none
  state : Option String := none
  lga : Option String := none
  address : Option String := none
  enabledModules : Option Json := none
  profileData : Option Json := none
  allowedReportsPerMonth : Option ℕ := none
  jurisdictionZones : List RoutingJurisdictionZone := []
  providerLinks : List (Option ResponsibilityProviderProfile) := []
  users : List ResponsibilityProviderProfile := []

/-- What routing reads of a report or of `CreateReportDto`. -/
structure RoutedReport where
  title : String := ""
  description : String := ""
  category : String
  location : String := ""
  locationName : Option String := none
  locationAddress : Option String := none
  locationLandmark : Option String := none
  latitude : Option ℚ := none
  longitude : Option ℚ := none
  locationSource : Option String := none

/-- The location texts of a report. -/
def RoutedReport.locationInput (report : RoutedReport) : RoutingLocationInput where
  location := some report.location
  locationName := report.locationName
  locationAddress := report.locationAddress
  locationLandmark := report.locationLandmark
  description := some report.description
  title := some report.title

/-- The locality of an organization. -/
def ResponsibilityOrganizationProfile.locality (organization : ResponsibilityOrganizationProfile) :
    RoutingOrganizationLocality where
  country := organization.country
  state := organization.state
  lga := organization.lga
  address := organization.address
  jurisdictionZones := organization.jurisdictionZones

/-! ### Providers and modules -/

/-- `Map.set` in insertion order: a later value for a key takes the place of the first. -/
def setProvider (providers : List ResponsibilityProviderProfile)
    (provider : ResponsibilityProviderProfile) : List ResponsibilityProviderProfile :=
  if providers.any fun p => p.id = provider.id then
    providers.map fun p => if p.id = provider.id then provider else p
  else providers ++ [provider]

/-- Whether a provider is kept in the maps below. -/
def isActiveProvider (provider : ResponsibilityProviderProfile) : Bool :=
  provider.id ≠ "" && provider.accountStatus = some .active

/-- `organizationAcceptedProviders`. -/
def organizationAcceptedProviders (organization : ResponsibilityOrganizationProfile) :
    List ResponsibilityProviderProfile :=
  ((organization.providerLinks.filterMap id).filter isActiveProvider).foldl setProvider []

/-- `organizationActiveProviders`. -/
def organizationActiveProviders (organization : ResponsibilityOrganizationProfile) :
    List ResponsibilityProviderProfile :=
  (organization.users.filter isActiveProvider).foldl setProvider
    (organizationAcceptedProviders organization)

/-- Whether a stored capability assignment counts as active. -/
def capabilityStatusActive (status : Option Json) : Bool :=
  match status with
  | none | some .null => true
  | some (.str s) => s = "ACTIVE"
  | some (.num text) => text = "ACTIVE"
  | some (.bool _) | some (.arr _) | some (.obj _) => false

/-- `activeProviderCapabilityIds`. -/
def activeProviderCapabilityIds (provider : ResponsibilityProviderProfile) : Option (List String) :=
  match provider.profileData.bind (Json.field? providerCapabilitiesKey) with
  | some (.arr assignments) => do
    let active := assignments.filter fun item =>
      item.isObject && capabilityStatusActive (item.field? "status")
    let ids ← active.mapM fun item =>
      match item.field? "id" with
      | none | some .null => some ""
      | some value => value.toText
    return (ids.map trim).filter (· ≠ "")
  | _ => some []

/-- `maintenanceModuleEnabled`. -/
def maintenanceModuleEnabled (value : Option Json) : Option Bool :=
  match value with
  | none | some .null => some true
  | some (.arr modules) =>
    if modules.isEmpty then some true
    else do return (← modules.mapM Json.toText).contains "maintenance"
  | some (.obj fields) =>
    match (Json.obj fields).field? "maintenance" with
    | some (.bool false) => some false
    | _ =>
      match (Json.obj fields).field? "modules", (Json.obj fields).field? "enabledModules" with
      | some (.arr modules), _ => do return (← modules.mapM Json.toText).contains "maintenance"
      | _, some (.arr modules) => do return (← modules.mapM Json.toText).contains "maintenance"
      | _, _ => some true
  | some _ => some true

/-! ### Candidates -/

/-- How sure a candidate is. -/
inductive Confidence where
  | high | medium | low | none
  deriving DecidableEq, Repr

/-- Where a candidate's claim to the category comes from. -/
inductive CategorySource where
  | explicitCapabilityMetadata | organizationMandate | inheritedProviderProfile
  | governedFallbackMapping | none
  deriving DecidableEq, Repr

/-- `categoryMatch` of a candidate. -/
structure CategoryMatch where
  requestedCategory : String
  normalizedCategory : String
  matched : Bool
  matchedMaintenanceCapabilities : List String
  source : CategorySource
  deriving DecidableEq, Repr

/-- One entry of the provider diagnostics. -/
structure ProviderDiagnostic where
  providerId : String
  categories : List String
  capabilities : List String
  categoryMatch : Bool
  capabilityMatch : Bool
  acceptedMembership : Bool
  deriving DecidableEq, Repr

/-- `OrganizationCandidate`. The jurisdiction part of its readiness and summary is `jurisdiction`. -/
structure OrganizationCandidate where
  id : String
  name : String
  eligible : Bool
  reasons : List String
  categoryMatch : CategoryMatch
  jurisdictionMatch : Bool
  serviceModuleReady : Bool
  confidence : Confidence
  activeProviderCount : ℕ
  acceptedProviderCount : ℕ
  capabilityBackedProviderCount : ℕ
  inheritedProfileProviderCount : ℕ
  coveredCategories : List String
  mandateCategories : List String
  excludedCategories : List String
  explicitCapabilities : List String
  coverageAreas : List String
  jurisdiction : RoutingJurisdictionMatch
  providerDiagnostics : List ProviderDiagnostic
  deriving DecidableEq, Repr

/-- The object `profileData.responsibilityRouting`, or the empty object. -/
def routingProfile (profileData : Json) : Json :=
  match profileData.field? "responsibilityRouting" with
  | some routing => if routing.isObject then routing else .obj []
  | none => .obj []

/-- The object `organization.profileData`, or the empty object. -/
def profileObject (profileData : Option Json) : Json :=
  match profileData with
  | some profile => if profile.isObject then profile else .obj []
  | none => .obj []

variable (locale : LocaleOrder)

/-- The categories an organization's profile claims. -/
def mandateCategoriesOf (organization : ResponsibilityOrganizationProfile) : Option (List String) :=
  do
  let profileData := profileObject organization.profileData
  let routing := routingProfile profileData
  let mandates ← jsonStringList (profileData.field? "mandates")
  let supported ← jsonStringList (profileData.field? "supportedCategories")
  let routed ← jsonStringList (routing.field? "mandateCategories")
  let routedSupported ← jsonStringList (routing.field? "supportedCategories")
  return collectStringList locale (mandates ++ supported ++ routed ++ routedSupported)

/-- The categories an organization's profile excludes. -/
def excludedCategoriesOf (organization : ResponsibilityOrganizationProfile) :
    Option (List String) := do
  let profileData := profileObject organization.profileData
  let routing := routingProfile profileData
  let excluded ← jsonStringList (profileData.field? "excludedCategories")
  let routed ← jsonStringList (routing.field? "excludedCategories")
  return collectStringList locale (excluded ++ routed)

/-- Whether one of the listed categories is compatible with the normalized one. -/
def someCompatible (categories : List String) (normalizedCategory : String) : Option Bool :=
  (categories.map normalizeResponsibilityCategory).anyM fun item =>
    categoriesCompatible item normalizedCategory

/-- Whether a provider's capabilities serve the category: one of those the category
requires or, when it requires none in particular, any maintenance capability. -/
def capabilitiesServe (requiredCapabilityIds capabilities : List String) : Bool :=
  capabilities.any fun id =>
    if requiredCapabilityIds ≠ [] then requiredCapabilityIds.contains id
    else activeMaintenanceCapabilities.contains id

/-- `organization.profileData` and its providers as the candidate reads them. -/
structure CandidateFacts where
  mandateCategories : List String
  excludedCategories : List String
  requiredCapabilityIds : List String
  explicitCapabilityProviderCount : ℕ
  inheritedProfileProviderCount : ℕ
  inheritedCategories : List String
  explicitCapabilities : List String
  coverageAreas : List String
  serviceModuleReady : Bool
  inheritedCategoryMatch : Bool
  mandateCategoryMatch : Bool
  explicitlyExcludedCategory : Bool
  providerDiagnostics : List ProviderDiagnostic

/-- The first half of `serializeOrganizationCandidate`: what it reads off the organization. -/
def candidateFacts (organization : ResponsibilityOrganizationProfile) (category : String) :
    Option CandidateFacts := do
  let mandateCategories ← mandateCategoriesOf locale organization
  let excludedCategories ← excludedCategoriesOf locale organization
  let activeProviders := organizationActiveProviders organization
  let acceptedProviders := organizationAcceptedProviders organization
  let normalizedCategory := normalizeResponsibilityCategory category
  let requiredCapabilityIds ← capabilityIdsForCategory normalizedCategory
  let capabilities ← activeProviders.mapM activeProviderCapabilityIds
  let categories ← activeProviders.mapM fun provider => jsonStringList provider.serviceCategories
  let coverage ← activeProviders.mapM fun provider => jsonStringList provider.coverageAreas
  let inheritedCategories := collectStringList locale categories.flatten
  let serviceModuleReady ← maintenanceModuleEnabled organization.enabledModules
  let inheritedCategoryMatch ←
    if normalizedCategory = "" then some true else
      someCompatible inheritedCategories normalizedCategory
  let mandateCategoryMatch ← someCompatible mandateCategories normalizedCategory
  let explicitlyExcludedCategory ← someCompatible excludedCategories normalizedCategory
  let providerDiagnostics ← ((activeProviders.zip categories).zip capabilities).mapM
    fun ((provider, own), held) => do
      let categoryMatch ← someCompatible own normalizedCategory
      return {
        providerId := provider.id
        categories := own
        capabilities := held
        categoryMatch
        capabilityMatch := capabilitiesServe requiredCapabilityIds held
        acceptedMembership := acceptedProviders.any fun accepted => accepted.id = provider.id }
  return {
    mandateCategories
    excludedCategories
    requiredCapabilityIds
    explicitCapabilityProviderCount := capabilities.countP (capabilitiesServe requiredCapabilityIds)
    inheritedProfileProviderCount := categories.countP (· ≠ [])
    inheritedCategories
    explicitCapabilities := collectStringList locale capabilities.flatten
    coverageAreas := collectStringList locale coverage.flatten
    serviceModuleReady
    inheritedCategoryMatch
    mandateCategoryMatch
    explicitlyExcludedCategory
    providerDiagnostics }

namespace CandidateFacts

variable (facts : CandidateFacts)

/-- `explicitCapabilityBacked`. -/
def explicitCapabilityBacked : Bool := 0 < facts.explicitCapabilityProviderCount

/-- `capabilityCategoryMatch`. -/
def capabilityCategoryMatch : Bool :=
  facts.requiredCapabilityIds ≠ [] && facts.explicitCapabilityBacked

/-- Whether the organization claims the category in one of the three ways. -/
def categoryMatched : Bool :=
  facts.inheritedCategoryMatch || facts.mandateCategoryMatch || facts.capabilityCategoryMatch

/-- Whether the organization has anything it could be responsible for. -/
def categoriesConfigured : Bool :=
  facts.inheritedCategories ≠ [] || facts.mandateCategories ≠ [] || facts.explicitCapabilityBacked

end CandidateFacts

/-- The texts of `reasons`, in the order they are pushed. -/
def candidateReasons (organization : ResponsibilityOrganizationProfile) (category : String)
    (facts : CandidateFacts) (jurisdiction : RoutingJurisdictionMatch) : List String :=
  (if organization.status ≠ .active then ["Organization is not active."] else []) ++
  (if !facts.serviceModuleReady then
    ["Maintenance Services is not enabled for this organization."] else []) ++
  (if organization.billingStatus = .suspended ∨ organization.billingStatus = .cancelled then
    ["Organization billing status blocks dispatch."] else []) ++
  (if !truthy organization.contactEmail && !truthy organization.contactPhone then
    ["Organization contact channel is missing."] else []) ++
  (if !jurisdiction.configured then ["Organization jurisdiction or address is missing."] else []) ++
  (if !jurisdiction.comparableLocationAvailable then
    ["Report has no comparable textual locality for jurisdiction matching."] else []) ++
  (if !facts.categoriesConfigured then
    ["No mandate or inherited provider profile categories are configured."]
  else if !facts.categoryMatched then
    ["No organization mandate or provider profile covers " ++ category ++ "."] else []) ++
  (if facts.explicitlyExcludedCategory then
    ["Organization has an explicit responsibility exclusion for " ++ category ++ "."] else []) ++
  (if !jurisdiction.matched then
  ["Organization jurisdiction does not match the report location."] else [])

/-- `categorySource`. -/
def categorySource (facts : CandidateFacts) : CategorySource :=
  if facts.explicitCapabilityBacked then .explicitCapabilityMetadata
  else if facts.mandateCategoryMatch then .organizationMandate
  else if facts.inheritedCategoryMatch then .inheritedProviderProfile
  else if facts.capabilityCategoryMatch then .governedFallbackMapping
  else .none

/-- `confidence`. -/
def candidateConfidence (facts : CandidateFacts) (eligible jurisdictionMatch : Bool) : Confidence :=
  if !eligible then
    if facts.explicitCapabilityBacked || facts.inheritedCategoryMatch ||
      facts.mandateCategoryMatch then .low
    else .none
  else if facts.explicitCapabilityBacked && jurisdictionMatch then .high
  else .medium

/-- `serializeOrganizationCandidate`. -/
def serializeOrganizationCandidate (organization : ResponsibilityOrganizationProfile)
    (category : String) (report : RoutedReport) : Option OrganizationCandidate := do
  let facts ← candidateFacts locale organization category
  let jurisdiction := evaluateRoutingJurisdiction locale organization.locality report.locationInput
  let reasons := candidateReasons organization category facts jurisdiction
  let eligible := reasons.isEmpty
  return {
    id := organization.id
    name := organization.name
    eligible
    reasons
    categoryMatch := {
      requestedCategory := category
      normalizedCategory := normalizeResponsibilityCategory category
      matched := facts.categoryMatched
      matchedMaintenanceCapabilities := facts.requiredCapabilityIds
      source := categorySource facts }
    jurisdictionMatch := jurisdiction.matched
    serviceModuleReady := facts.serviceModuleReady
    confidence := candidateConfidence facts eligible jurisdiction.matched
    activeProviderCount := (organizationActiveProviders organization).length
    acceptedProviderCount := (organizationAcceptedProviders organization).length
    capabilityBackedProviderCount := facts.explicitCapabilityProviderCount
    inheritedProfileProviderCount := facts.inheritedProfileProviderCount
    coveredCategories := facts.inheritedCategories
    mandateCategories := facts.mandateCategories
    excludedCategories := facts.excludedCategories
    explicitCapabilities := facts.explicitCapabilities
    coverageAreas := facts.coverageAreas
    jurisdiction
    providerDiagnostics := facts.providerDiagnostics }

/-! ### Assets -/

/-- The asset tables `assetResponsibilityOrganizationIds` queries. -/
structure AssetTables where
  /-- `PotentialAsset`: id, category, location text, owner and ownership status. -/
  potentialAssets : List (String × String × Option String × Option String × Option String) := []
  /-- `AssetCandidateOwner`: asset, organization and ownership status. -/
  assetCandidateOwners : List (String × Option String × String) := []
  /-- `AssetClaim`: asset, claimant organization and status. -/
  assetClaims : List (String × Option String × String) := []

/-- `assetResponsibilityOrganizationIds`. -/
def assetResponsibilityOrganizationIds (assets : AssetTables) (dto : RoutedReport) : List String :=
  let category := trim dto.category
  let location := trim dto.location
  if category = "" then []
  else
    let potentialAssets :=
      (assets.potentialAssets.filter fun (_, assetCategory, locationText, owner, _) =>
      assetCategory = category &&
        (owner.isSome || (location ≠ "" && includes (locationText.getD "") location))).take 25
    let owned := potentialAssets.filterMap fun (_, _, _, owner, ownershipStatus) =>
      if truthy owner && ownershipStatus ≠ some "DISPUTED" && ownershipStatus ≠ some "UNKNOWN" then
        owner
      else none
    let assetIds := potentialAssets.map Prod.fst
    let owners := (assets.assetCandidateOwners.filter fun (asset, organization, ownershipStatus) =>
      assetIds.contains asset && organization.isSome &&
        ["VERIFIED", "PENDING"].contains ownershipStatus).take 25
    let claims := (assets.assetClaims.filter fun (asset, claimant, status) =>
      assetIds.contains asset && claimant.isSome && status = "APPROVED").take 25
    let ids := owned ++ owners.filterMap (·.2.1) ++ claims.filterMap (·.2.1)
    (ids.filter (· ≠ "")).reverse.dedup.reverse

/-! ### Resolution -/

/-- `ResponsibilityOutcome`; the canonical outcome of the diagnostics renames
`HIGH_CONFIDENCE` to `MATCHED` and `RESTRICTED_OR_CONFLICTED` to `RESTRICTED`. -/
inductive ResponsibilityOutcome where
  | highConfidence | ambiguous | unmatched | restrictedOrConflicted | noLocation | noCategory
  deriving DecidableEq, Repr

/-- The `report` part of the diagnostics. -/
structure ResolvedReport where
  category : Option String
  normalizedCategory : Option String
  normalizedCategoryAliases : List String
  latitude : Option ℚ
  longitude : Option ℚ
  text : Option String
  name : Option String
  address : Option String
  landmark : Option String
  source : String
  deriving DecidableEq

/-- `ResponsibilityResolutionDiagnostics`, without the instant it was evaluated at. -/
structure ResponsibilityResolutionDiagnostics where
  outcome : ResponsibilityOutcome
  candidateCount : ℕ
  eligibleCandidateCount : ℕ
  proposedOrganizationId : Option String
  selectedCandidateId : Option String
  reasonCode : String
  report : ResolvedReport
  candidates : List OrganizationCandidate
  deriving DecidableEq

/-- `ResponsibilityResolution`. -/
structure ResponsibilityResolution where
  outcome : ResponsibilityOutcome
  organization : Option String
  candidates : List OrganizationCandidate
  reasons : List String
  matchFactors : List String
  diagnostics : ResponsibilityResolutionDiagnostics
  deriving DecidableEq

/-- `locationSourceFor`. -/
def locationSourceFor (dto : RoutedReport) : String :=
  let hasCoordinates := dto.latitude.isSome && dto.longitude.isSome
  let hasText := trimmed dto.locationName ≠ "" || trimmed dto.locationAddress ≠ "" ||
    trimmed dto.locationLandmark ≠ ""
  if hasCoordinates && hasText then "COMBINED"
  else if hasCoordinates then "DEVICE_GPS"
  else if hasText then "TYPED_LOCATION"
  else "UNKNOWN"

/-- `hasResponsibilityLocation`. -/
def hasResponsibilityLocation (dto : RoutedReport) : Bool :=
  routingLocationText dto.locationInput ≠ ""

/-- `responsibilityReasonCode`. -/
def responsibilityReasonCode (outcome : ResponsibilityOutcome)
    (candidates : List OrganizationCandidate) : String :=
  match outcome with
  | .highConfidence => "MATCHED_DETERMINISTIC"
  | .ambiguous => "MULTIPLE_ELIGIBLE_CANDIDATES"
  | .restrictedOrConflicted => "EXPLICIT_EXCLUSION_OR_RESTRICTION"
  | .noLocation => "NO_LOCATION_PROVIDED"
  | .noCategory => "NO_CATEGORY_PROVIDED"
  | .unmatched => if candidates.isEmpty then "NO_ORGANIZATION_CANDIDATES" else
      "NO_ELIGIBLE_ORGANIZATION"

/-- What a branch of `resolveReportResponsibility` hands to `responsibilityResolutionResult`. -/
structure ResolutionInput where
  outcome : ResponsibilityOutcome
  organization : Option String := none
  candidates : List OrganizationCandidate := []
  allCandidates : List OrganizationCandidate := []
  reasons : List String
  matchFactors : List String := []

/-- `responsibilityResolutionDiagnostics`. -/
def responsibilityResolutionDiagnostics (dto : RoutedReport) (input : ResolutionInput) :
    Option ResponsibilityResolutionDiagnostics := do
  let normalizedCategory := if trim dto.category = "" then none
    else some (normalizeResponsibilityCategory dto.category)
  let candidates := if input.allCandidates ≠ [] then input.allCandidates else input.candidates
  let aliases ← if truthy normalizedCategory then
      normalizedCategoryAliases locale (normalizedCategory.getD "")
    else some []
  return {
    outcome := input.outcome
    candidateCount := candidates.length
    eligibleCandidateCount := candidates.countP (·.eligible)
    proposedOrganizationId := input.organization
    selectedCandidateId := input.organization
    reasonCode := responsibilityReasonCode input.outcome candidates
    report := {
      category := trimmedOrNull (some dto.category)
      normalizedCategory
      normalizedCategoryAliases := aliases
      latitude := dto.latitude
      longitude := dto.longitude
      text := trimmedOrNull (some dto.location)
      name := trimmedOrNull dto.locationName
      address := trimmedOrNull dto.locationAddress
      landmark := trimmedOrNull dto.locationLandmark
      source := dto.locationSource.getD (locationSourceFor dto) }
    candidates }

/-- `responsibilityResolutionResult`. -/
def responsibilityResolutionResult (dto : RoutedReport) (input : ResolutionInput) :
    Option ResponsibilityResolution := do
  let diagnostics ← responsibilityResolutionDiagnostics locale dto input
  return {
    outcome := input.outcome
    organization := input.organization
    candidates := input.candidates
    reasons := input.reasons
    matchFactors := input.matchFactors
    diagnostics }

/-- The text by which the resolver recognises a candidate with an explicit exclusion. -/
def exclusionText : String := "explicit responsibility exclusion"

/-- Whether one of a candidate's reasons reads like an explicit exclusion. -/
def isRestricted (candidate : OrganizationCandidate) : Bool :=
  candidate.reasons.any fun reason => includes (toLowerCase reason) exclusionText

/-- The outcome over the candidates of all active organizations: the last part of
`resolveReportResponsibility`. -/
def resolveCandidates (allCandidates : List OrganizationCandidate)
    (assetOrganizationIds : List String) : ResolutionInput :=
  let evaluated := allCandidates.filter (·.eligible)
  let restricted := allCandidates.filter isRestricted
  if restricted ≠ [] then
    { outcome := .restrictedOrConflicted
      candidates := restricted
      allCandidates
      reasons := restricted.flatMap (·.reasons)
      matchFactors := ["explicit_exclusion_or_restriction"] }
  else
    let assetBacked := evaluated.filter fun candidate => assetOrganizationIds.contains candidate.id
    let decisive := if assetBacked ≠ [] then assetBacked else evaluated
    let matchFactors := (if assetBacked ≠ [] then ["asset_or_ownership_responsibility"] else []) ++
      ["organization_active_status", "operational_availability", "organization_jurisdiction",
        "mandate_or_supported_category"]
    match decisive with
    | [candidate] =>
      { outcome := .highConfidence
        organization := some candidate.id
        candidates := decisive
        allCandidates
        reasons := candidate.reasons
        matchFactors }
    | [] =>
      { outcome := .unmatched
        allCandidates
        reasons := ["No active operational organization matched deterministically"]
        matchFactors }
    | _ :: _ :: _ =>
      { outcome := .ambiguous
        candidates := decisive
        allCandidates
        reasons := ["Multiple responsible organizations qualified"]
        matchFactors }

/-- `resolveReportResponsibility`, given the organizations and the asset tables. -/
def resolveReportResponsibility (organizations : List ResponsibilityOrganizationProfile)
    (assets : AssetTables) (dto : RoutedReport) : Option ResponsibilityResolution :=
  if trim dto.category = "" then
    responsibilityResolutionResult locale dto
      { outcome := .noCategory, reasons := ["Report category is missing"] }
  else if !hasResponsibilityLocation dto then
    responsibilityResolutionResult locale dto
      { outcome := .noLocation, reasons := ["Report location is missing"] }
  else do
    let active := organizations.filter fun organization => organization.status = .active
    let allCandidates ← active.mapM fun organization =>
      serializeOrganizationCandidate locale organization dto.category dto
    responsibilityResolutionResult locale dto
      (resolveCandidates allCandidates (assetResponsibilityOrganizationIds assets dto))

end FixZone.ReportService
