import FixZone.Report.Model
import FixZone.Report.Workflow

/-!
# Completion governance

The helpers of `ReportService` that decide how a completed report is closed: the
policy in force, the review state it asks for, whether the recorded decisions satisfy
it, and what blocks a decision. They are functions of the report's columns, shared by
the methods that record decisions, repair them or sweep for deadlines.
-/

namespace FixZone.ReportService

open Library Organization

/-! ### Policies -/

/-- `normalizeCompletionPolicy`. -/
def normalizeCompletionPolicy (value : Option Json) : Option CompletionPolicy :=
  match value with
  | some (.str text) => CompletionPolicy.all.find? fun policy =>
      policy.text = toUpperCase (trim text)
  | _ => none

/-- `policyForReport`. -/
def policyForReport (cfg : Config) (report : Report) : CompletionPolicy :=
  (report.completionPolicy <|> normalizeCompletionPolicy (cfg.completionPolicy.map Json.str)).getD
    .citizenConfirmationRequired

/-- The policy among the entries of a record whose category is compatible with the given
one and whose value is a policy; `none` is a `TypeError` of a comparison. -/
def policyFromEntries (normalizedCategory : String) : List (String × Json) →
    Option (Option CompletionPolicy)
  | [] => some none
  | (key, policy) :: entries => do
    if ← categoriesCompatible (normalizeResponsibilityCategory key) normalizedCategory then
      match normalizeCompletionPolicy (some policy) with
      | some normalizedPolicy => return some normalizedPolicy
      | none => policyFromEntries normalizedCategory entries
    else policyFromEntries normalizedCategory entries

/-- `policyFromCategoryRecord`. -/
def policyFromCategoryRecord (value : Option Json) (normalizedCategory : String) :
    Option (Option CompletionPolicy) :=
  match value with
  | some (.obj entries) => policyFromEntries normalizedCategory entries
  | _ => some none

/-- The first policy that one of the records gives. -/
def firstPolicy (normalizedCategory : String) : List (Option Json) →
    Option (Option CompletionPolicy)
  | [] => some none
  | record :: records => do
    match ← policyFromCategoryRecord record normalizedCategory with
    | some policy => return some policy
    | none => firstPolicy normalizedCategory records

/-- `completionPolicyFromCategoryMap`. -/
def completionPolicyFromCategoryMap (profileData : Option Json) (category : String) :
    Option (Option CompletionPolicy) :=
  let normalizedCategory := normalizeResponsibilityCategory category
  match profileData with
  | some (.obj fields) =>
    if normalizedCategory = "" then some none
    else firstPolicy normalizedCategory
      [(Json.obj fields).field? "completionPoliciesByCategory",
        (Json.obj fields).field? "categoryCompletionPolicies",
        ((Json.obj fields).field? "serviceConfiguration").bind
        (Json.field? "completionPoliciesByCategory")]
  | _ => some none

/-- `completionPolicyFromPlatformCategory`: the persisted setting, else the environment
variable, whose record is read inside a `try` that swallows every exception. -/
def completionPolicyFromPlatformCategory (cfg : Config) (env : Env) (category : String) :
    Option (Option CompletionPolicy) := do
  let normalizedCategory := normalizeResponsibilityCategory category
  if normalizedCategory = "" then return none
  match ← policyFromCategoryRecord env.completionPoliciesByCategory normalizedCategory with
  | some persisted => return some persisted
  | none => return (policyFromCategoryRecord cfg.completionCategoryPolicies normalizedCategory).getD none

/-- `completionPolicyFromProfile`. -/
def completionPolicyFromProfile (profileData : Option Json) : Option CompletionPolicy :=
  normalizeCompletionPolicy (profileData.bind (Json.field? "completionPolicy"))

/-- `requiresDualCompletionByDefault`. -/
def requiresDualCompletionByDefault (category : String) : Option Bool :=
  ["road", "roads", "road maintenance", "road infrastructure", "infrastructure", "civil works",
    "drainage", "bridge", "street lighting", "public works"].anyM fun item =>
      categoriesCompatible (normalizeResponsibilityCategory category)
        (normalizeResponsibilityCategory item)

/-- `CompletionPolicyResolution`. -/
structure CompletionPolicyResolution where
  policy : CompletionPolicy
  source : String
  deriving DecidableEq

/-- `resolveCompletionPolicy`; `none` is a `TypeError`. -/
def resolveCompletionPolicy (cfg : Config) (env : Env) (report : Report) :
    Option CompletionPolicyResolution :=
  match report.completionPolicy with
  | some policy => some ⟨policy, "REPORT_OVERRIDE"⟩
  | none => do
    let profileData := (env.organization? report.organizationId).bind (·.profileData)
    match ← completionPolicyFromCategoryMap profileData report.category with
    | some policy => return ⟨policy, "ORGANIZATION_SERVICE_CATEGORY"⟩
    | none =>
      match ← completionPolicyFromPlatformCategory cfg env report.category with
      | some policy => return ⟨policy, "PLATFORM_SERVICE_CATEGORY"⟩
      | none =>
        match completionPolicyFromProfile profileData with
        | some policy => return ⟨policy, "ORGANIZATION_PROFILE"⟩
        | none =>
          match normalizeCompletionPolicy (cfg.completionPolicy.map Json.str) with
          | some configured => return ⟨configured, "PLATFORM_ENV"⟩
          | none =>
            if ← requiresDualCompletionByDefault report.category then
              return ⟨.bothRequired, "BUILT_IN_OPERATIONAL_CATEGORY_DEFAULT"⟩
            else return ⟨.citizenConfirmationRequired, "PLATFORM_DEFAULT"⟩

/-- `reviewDeadlineFor`, on a host whose clock keeps no daylight saving time. -/
def reviewDeadlineFor (cfg : Config) (env : Env) (policy : CompletionPolicy) : Option Millis :=
  if policy ≠ .autoCloseAfterReviewWindow then none
  else some (env.now + cfg.completionReviewWindowHours * 3600000)

/-! ### Decisions -/

/-- `reviewStateFor`. -/
def reviewStateFor (policy : CompletionPolicy)
    (citizenDecision organizationDecision : Option CompletionDecision) : CompletionReviewState :=
  if citizenDecision = some .disputed ∨ organizationDecision = some .escalated then .disputed
  else if citizenDecision = some .reworkRequested ∨
    organizationDecision = some .reworkRequested then
    .reworkRequested
  else if policy = .bothRequired ∧ citizenDecision = some .confirmed then
    .awaitingOrganizationVerification
  else if policy = .bothRequired ∧ organizationDecision = some .verified then .awaitingCitizenReview
  else if policy = .organizationConfirmationRequired then .awaitingOrganizationVerification
  else if policy = .adminResolutionRequired then .awaitingAdminResolution
  else if policy = .autoCloseAfterReviewWindow then .awaitingReviewWindow
  else if policy = .bothRequired then .awaitingBoth
  else .awaitingCitizenReview

/-- `isCompletionSatisfied`. -/
def isCompletionSatisfied (policy : CompletionPolicy)
    (citizenDecision organizationDecision : Option CompletionDecision) : Bool :=
  let citizenConfirmed : Bool := citizenDecision = some .confirmed
  let organizationVerified : Bool := organizationDecision = some .verified
  match policy with
  | .citizenConfirmationRequired => citizenConfirmed
  | .organizationConfirmationRequired => organizationVerified
  | .bothRequired => citizenConfirmed && organizationVerified
  | .citizenOrOrganization => citizenConfirmed || organizationVerified
  | .autoCloseAfterReviewWindow => citizenConfirmed || organizationVerified
  | .adminResolutionRequired => false

/-- Whether a completion counts as disputed. -/
def underDispute (report : Report) : Bool :=
  report.completionReviewState = some .disputed ||
    report.citizenCompletionDecision = some .disputed ||
    report.organizationCompletionDecision = some .escalated

/-- Whether a completion waits for rework. -/
def underRework (report : Report) : Bool :=
  report.completionReviewState = some .reworkRequested ||
    report.citizenCompletionDecision = some .reworkRequested ||
    report.organizationCompletionDecision = some .reworkRequested

/-- Whether a completion is on governance hold. -/
def onHold (report : Report) : Bool := truthy report.completionGovernanceHoldReason

/-- `assertNoActiveCompletionBlockers`. -/
def assertNoActiveCompletionBlockers (report : Report) : Except HttpError PUnit := do
  throwIf (report.status = .closed) (conflict "Report is already closed")
  throwIf (underDispute report) (conflict "Completion is under dispute")
  throwIf (onHold report) (conflict "Completion is on governance hold")
  throwIf (underRework report) (conflict "Completion rework is required")

/-- What `assertNoActiveCompletionBlockers` asserts. -/
structure Unblocked (report : Report) : Prop where
  open_ : report.status ≠ .closed
  undisputed : underDispute report = false
  unheld : onHold report = false
  settled : underRework report = false

theorem assertNoActiveCompletionBlockers_eq_ok {report : Report} {u : PUnit} :
    assertNoActiveCompletionBlockers report = .ok u ↔ Unblocked report := by
  simp only [assertNoActiveCompletionBlockers, throwIf_bind_eq_ok, throwIf_eq_ok, Bool.not_eq_true]
  exact ⟨fun ⟨h1, h2, h3, h4⟩ => ⟨h1, h2, h3, h4⟩, fun ⟨h1, h2, h3, h4⟩ => ⟨h1, h2, h3, h4⟩⟩

/-- `assertCitizenCanRequestCompletionRework`. -/
def assertCitizenCanRequestCompletionRework (report : Report) : Except HttpError PUnit := do
  throwIf (report.citizenCompletionDecision = some .confirmed)
    (conflict "Citizen completion decision has already been submitted for this attempt")
  throwIf (report.citizenCompletionDecision = some .reworkRequested)
    (conflict "Citizen completion rework has already been requested for this attempt")

/-- `assertOrganizationCanRequestCompletionRework`. -/
def assertOrganizationCanRequestCompletionRework (report : Report) : Except HttpError PUnit := do
  throwIf (report.organizationCompletionDecision = some .verified)
    (conflict "Organization completion decision has already been submitted for this attempt")
  throwIf (report.organizationCompletionDecision = some .reworkRequested)
    (conflict "Organization completion rework has already been requested for this attempt")

/-- `completionDeadlineSkipReason`. -/
def completionDeadlineSkipReason (report : Report) : Option String :=
  if report.status = .closed then some "already_closed"
  else if report.completionReviewProcessedAt.isSome then some "already_processed"
  else if onHold report then some "governance_hold"
  else if underDispute report then some "active_dispute"
  else if underRework report then some "active_rework"
  else none

theorem completionDeadlineSkipReason_eq_none {report : Report} :
    completionDeadlineSkipReason report = none ↔
      Unblocked report ∧ report.completionReviewProcessedAt = none := by
  unfold completionDeadlineSkipReason
  constructor
  · intro h
    split_ifs at h with h1 h2 h3 h4 h5
    exact ⟨⟨h1, by simpa using h4, by simpa using h3, by simpa using h5⟩, by simpa using h2⟩
  · rintro ⟨⟨h1, h2, h3, h4⟩, h5⟩
    simp [h1, h2, h3, h4, h5]

/-- `requiredGovernanceReason`. -/
def requiredGovernanceReason (reason : String) : Except HttpError String :=
  if trim reason = "" then .error (badRequest "Reason is required") else .ok (trim reason)

theorem requiredGovernanceReason_eq_ok {reason trimmed : String} :
    requiredGovernanceReason reason = .ok trimmed ↔ trim reason ≠ "" ∧ trim reason = trimmed := by
  unfold requiredGovernanceReason
  split <;> simp_all

end FixZone.ReportService
