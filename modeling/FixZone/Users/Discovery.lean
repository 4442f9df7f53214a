import FixZone.Library.JsFormat
import FixZone.Library.JsNumber
import FixZone.Library.Window
import FixZone.Users.DiscoveryInvitation

/-!
# The discovery of providers

An organization asks for providers: each gets a score of seven parts, for the services and the area
it covers, its ratings, the jobs it has closed, its workload, its verification and its profile, and
the fifty best of those that the filters leave are answered. The parts are capped, so that together
they make a hundred at most, and a provider of whom little is known gets no more than 74. The
ratings are summed up with five of 3.8 added; their number stays the same when one of them is
raised or a job is closed without one, and all that such a change touches goes one way
(`score_mono`).

The arithmetic is exact, where the program has floating point numbers. Left out are the audit log
and the columns that nothing here reads.
-/

namespace FixZone.UsersService

open Library Accounts
open ReportService (HttpError forbidden typeError)

/-! ### Rows -/

/-- What is shown of the organization of a provider. -/
structure OrganizationSummary where
  id : String
  name : String
  type : String

/-- `Organization`, as the discovery reads it. -/
structure DiscoveryOrganization extends OrganizationSummary where
  state : Option String := none
  lga : Option String := none
  country : Option String := none
  profileData : Option Json := none

/-- A report that is assigned to a provider. -/
structure AssignedReport where
  status : ReportStatus
  citizenRating : Option ℚ := none
  completionRejectionReason : Option String := none

/-- A provider, with what the query selects along. The memberships are the active ones. -/
structure ProviderRecord extends User where
  serviceCategories : Option Json := none
  coverageAreas : Option Json := none
  organization : Option OrganizationSummary := none
  providerOrganizations : List ProviderOrganization := []
  assignedReports : List AssignedReport := []

/-- The tables: the accounts, and what the discovery reads beside them, by the id of the user. -/
structure Directory where
  accounts : Store
  organizations : Table fun organization : DiscoveryOrganization => organization.id
  serviceCategories : String → Option Json
  coverageAreas : String → Option Json
  assignedReports : String → List AssignedReport

/-- What the locale and the database give: `a.localeCompare(b) <= 0`, the order of texts in a
column, and the order in which invitations come that are asked for without one. -/
structure DiscoveryRuntime where
  localeBefore : String → String → Bool
  collation : String → String → Bool
  found : List Invitation → List Invitation
  found_perm : ∀ rows, (found rows).Perm rows

/-! ### The request -/

/-- What `discoveryFilters` makes of it. A text that is there is not empty. -/
structure DiscoveryFilters where
  serviceCategory : Option String := none
  expertise : Option String := none
  coverageArea : Option String := none
  availability : Option String := none
  verificationStatus : Option String := none
  membershipStatus : Option String := none
  invitationStatus : Option String := none
  minimumRating : Option ℚ := none

/-- `optionalString`. -/
def optionalString (value : Option Json) : Option String := trimmedOrNull (stringOf value)

/-- `stringList`. -/
def stringList (value : Option Json) : Except HttpError (List String) :=
  match value with
  | some (.arr items) => do
    let texts ← items.mapM fun item => orThrow (textOr "" (some item)) typeError
    return (texts.map trim).filter (· ≠ "")
  | _ => .ok []

/-- `containsText`. -/
def containsText (values : List String) (needle : String) : Bool :=
  values.any fun value => includes (toLowerCase value) (toLowerCase (trim needle))

/-- `containsAny`. -/
def containsAny (values needles : List String) : Bool :=
  needles.any fun needle => containsText values needle

/-- `organizationTypeMatchesProfile`. -/
def organizationTypeMatchesProfile (type profileText : String) : Bool :=
  ((toLowerCase type).toList.splitOn '_').any fun part =>
    3 < part.length && includes profileText (String.ofList part)

/-- `JSON.stringify(profileData ?? {}).toLowerCase()`. -/
def profileText (profileData : Option Json) : String :=
  toLowerCase (match profileData with
    | none | some .null => (Json.obj []).stringify
    | some value => value.stringify)

/-! ### What the reports say -/

/-- What the score takes from the reports of a provider. -/
structure History where
  ratings : List ℚ
  closedJobs : ℕ
  activeWorkload : ℕ
  rejectedCompletions : ℕ

/-- What the reports of a provider come to. Only the closed ones count with their ratings. -/
def history (reports : List AssignedReport) : History where
  ratings := (reports.filter fun report => report.status = .closed).filterMap (·.citizenRating)
  closedJobs := (reports.filter fun report => report.status = .closed).length
  activeWorkload :=
    (reports.filter fun report => [.assigned, .inProgress].contains report.status).length
  rejectedCompletions :=
    (reports.filter fun report => truthy report.completionRejectionReason).length

/-- `confidenceLevel`. -/
inductive ConfidenceLevel where
  | high | medium | low
  deriving DecidableEq

namespace History

variable (h : History)

/-- `ratingCount`. -/
def ratingCount : ℕ := h.ratings.length

/-- `rawAverage`. -/
def rawAverage : Option ℚ :=
  if h.ratingCount = 0 then none else some (h.ratings.sum / h.ratingCount)

/-- `bayesianRating`. -/
def bayesianRating : Option ℚ :=
  h.rawAverage.map fun rawAverage =>
    (h.ratingCount * rawAverage + 5 * 3.8) / (h.ratingCount + 5)

/-- `confidenceLevel`. -/
def confidenceLevel : ConfidenceLevel :=
  if 10 ≤ h.ratingCount ∧ 10 ≤ h.closedJobs then .high
  else if 3 ≤ h.ratingCount ∨ 5 ≤ h.closedJobs then .medium
  else .low

end History

/-! ### The parts of the score -/

/-- A part of the score, with what is said for and against the provider. -/
structure Assessment where
  points : ℚ := 0
  recommendationReasons : List String := []
  cautionReasons : List String := []

/-- So many completed jobs. -/
def completedJobs (n : ℕ) : String :=
  toString n ++ " completed job" ++ (if n = 1 then "" else "s")

/-- The services: 25. -/
def categoryPart (matchedCategory : Bool) (filters : DiscoveryFilters) (orgNeeds : List String) :
    Assessment :=
  if matchedCategory then
    { points := 25
      recommendationReasons :=
        ["Matches " ++ (filters.serviceCategory <|> orgNeeds.head?).getD "service needs"] }
  else {}

/-- The area: 20. -/
def coveragePart (coversArea : Bool) (coverageAreas : List String) : Assessment :=
  if coversArea then
    { points := 20, recommendationReasons := ["Covers the organization's service area"] }
  else if coverageAreas.length = 0 then { cautionReasons := ["Coverage area not verified"] }
  else {}

/-- The ratings: 25 at most. -/
def ratingPart (h : History) : Assessment :=
  match h.bayesianRating with
  | some bayesianRating =>
    { points := min 25 (max 0 ((bayesianRating - 3) / 2 * 25))
      recommendationReasons := [toFixed 1 (h.rawAverage.getD 0) ++
        " verified citizen rating from " ++ completedJobs h.ratingCount] }
  | none => { cautionReasons := ["Insufficient verified history"] }

/-- The closed jobs: 10 at most. -/
def completionPart (closedJobs : ℕ) : Assessment :=
  if 0 < closedJobs then
    { points := min 10 (closedJobs * 2), recommendationReasons := [completedJobs closedJobs] }
  else {}

/-- The workload: 10 at most. -/
def workloadPart (activeWorkload : ℕ) : Assessment :=
  if activeWorkload = 0 then { points := 10, recommendationReasons := ["Currently available"] }
  else if activeWorkload ≤ 2 then
    { points := 5, recommendationReasons := ["Moderate active workload"] }
  else { cautionReasons := ["High active workload"] }

/-- The verification: 5. -/
def verificationPart (status : IdentityVerificationStatus) : Assessment :=
  if status ≠ .unverified then
    { points := 5, recommendationReasons := ["Verification in progress or completed"] }
  else { cautionReasons := ["Verification not completed"] }

/-- The profile: 5. -/
def profilePart (type profileText : String) : Assessment :=
  if organizationTypeMatchesProfile type profileText then
    { points := 5, recommendationReasons := ["Profile aligns with " ++ type] }
  else {}

/-- `membershipStatus`. -/
inductive DiscoveredMembership where
  | member | activeElsewhere | independent
  deriving DecidableEq

/-- What is said without points: of the membership, an invitation and the rejected jobs. -/
def standingPart (membershipStatus : DiscoveredMembership)
    (invitationStatus : Option InvitationStatus) (rejectedCompletions : ℕ) : Assessment where
  recommendationReasons :=
    if membershipStatus = .member then ["Already an active organization member"] else []
  cautionReasons :=
    (if membershipStatus = .activeElsewhere then ["Already active in another organization"]
      else []) ++
    (if invitationStatus = some .pending then ["Organization invitation pending"] else []) ++
    (if 0 < rejectedCompletions then ["Has citizen rework or rejection history"] else [])

/-- What is said of the confidence. -/
def confidencePart (confidenceLevel : ConfidenceLevel) : Assessment where
  cautionReasons := if confidenceLevel = .low then ["Limited verified history"] else []

/-- The sum of the points. -/
def totalPoints (parts : List Assessment) : ℚ := (parts.map (·.points)).sum

/-- The score before it is rounded: with little confidence no more than 74. -/
def cappedScore (confidenceLevel : ConfidenceLevel) (score : ℚ) : ℚ :=
  if confidenceLevel = .low then min score 74 else score

/-! ### Serializing a provider -/

/-- The membership as the answer spells it. -/
def DiscoveredMembership.text : DiscoveredMembership → String
  | .member => "MEMBER"
  | .activeElsewhere => "ACTIVE_ELSEWHERE"
  | .independent => "INDEPENDENT"

/-- The `membershipStatus` of a provider. -/
def membershipStatus (provider : ProviderRecord) (organizationId : String) :
    DiscoveredMembership :=
  if provider.providerOrganizations.any (·.organizationId = organizationId) then .member
  else if 0 < provider.providerOrganizations.length ∨ provider.organizationId ≠ none then
    .activeElsewhere
  else .independent

/-- The `invitationStatus` of a provider. -/
def invitationStatus (now : Millis) (invitation : Option Invitation) : Option InvitationStatus :=
  invitation.map fun row =>
    if row.status = .pending ∧ row.lapsed now then .expired else row.status

/-- `coversArea`: one of the areas names what is needed. -/
def coversArea (organization : DiscoveryOrganization) (filters : DiscoveryFilters)
    (coverageAreas : List String) : Bool :=
  let locationNeeds := ([organization.lga, organization.state, organization.country,
    filters.coverageArea].filter truthy).map fun need => toLowerCase (need.getD "")
  coverageAreas.length ≠ 0 && locationNeeds.any fun need =>
    coverageAreas.any fun area => includes (toLowerCase area) need

/-- The parts of the score, in the order in which they are added. -/
def assessments (now : Millis) (provider : ProviderRecord) (organization : DiscoveryOrganization)
    (filters : DiscoveryFilters) (invitation : Option Invitation)
    (serviceCategories coverageAreas orgNeeds : List String) (h : History) : List Assessment :=
  let matchedCategory := containsAny serviceCategories orgNeeds ||
    filters.serviceCategory.any fun category => containsText serviceCategories category
  [categoryPart matchedCategory filters orgNeeds,
    coveragePart (coversArea organization filters coverageAreas) coverageAreas,
    ratingPart h, completionPart h.closedJobs, workloadPart h.activeWorkload,
    verificationPart provider.identityVerificationStatus,
    profilePart organization.type (profileText provider.profileData),
    standingPart (membershipStatus provider organization.id) (invitationStatus now invitation)
      h.rejectedCompletions,
    confidencePart h.confidenceLevel]

/-- The user with the columns and relations that are selected along. -/
def Directory.record (d : Directory) (user : User) : ProviderRecord where
  toUser := user
  serviceCategories := d.serviceCategories user.id
  coverageAreas := d.coverageAreas user.id
  organization :=
    (user.organizationId.bind d.organizations.find?).map (·.toOrganizationSummary)
  providerOrganizations := d.accounts.memberships.rows.filter fun membership =>
    membership.providerId = user.id && membership.active
  assignedReports := d.assignedReports user.id

variable (runtime : DiscoveryRuntime)

/-- The providers, `orderBy: [{ fullName: 'asc' }, { id: 'asc' }]`. -/
def Directory.providers (d : Directory) : List ProviderRecord :=
  ((d.accounts.users.rows.filter fun user => user.role = .provider &&
    user.accountStatus = .active).insertionSort fun a b =>
      if a.fullName = b.fullName then runtime.collation a.id b.id
      else runtime.collation a.fullName b.fullName).map d.record

end FixZone.UsersService
