import FixZone.Report.Completion

/-!
# Intake

`createReport`, and the methods by which a report finds the organization that is
responsible for it: `assignOrganization` by the platform, `acceptOrganizationReport`
and `rejectOrganizationReport` by the organization it was offered to.
-/

namespace FixZone.ReportService

open Library Organization

variable (cfg : Config) (env : Env) (s : Store)

/-! ### Creation -/

/-- `enforceMonthlyReportQuota`. -/
def enforceMonthlyReportQuota (organizationId : String) : Except HttpError PUnit :=
  match (env.organization? organizationId).bind (·.allowedReportsPerMonth) with
  | none => .ok ⟨⟩
  | some allowed =>
    let reportsThisMonth := s.reports.rows.countP fun report =>
      report.organizationId = organizationId && utcMonthStart env.now ≤ report.createdAt
    throwIf (allowed ≤ reportsThisMonth)
      { kind := .conflict, code := some "REPORT_QUOTA_EXCEEDED",
        message := "This organization has reached its monthly report quota." }

/-- The row `createReport` creates. -/
def createdReport (user : JwtUser) (dto : RoutedReport) (organizationId locationSource : String)
    (intakeRoute : ResponsibilityResolution) : Report :=
  let routedOrganizationId :=
    if intakeRoute.outcome = .highConfidence then intakeRoute.organization else none
  let routedToOrganization := truthy routedOrganizationId
  { toRoutedReport := { dto with locationSource := some (dto.locationSource.getD locationSource) }
    id := env.newReportId
    status := if routedToOrganization then .orgReview else .triage
    citizenId := user.getUserId
    organizationId
    assignedOrganizationId := routedOrganizationId
    organizationAssignedAt := if routedToOrganization then some env.now else none
    organizationAssignmentSource := some
      (if routedToOrganization then "Automatic intake match"
      else if intakeRoute.outcome = .ambiguous then "Ambiguous responsibility match"
      else if intakeRoute.outcome = .restrictedOrConflicted then
        "Restricted or conflicted responsibility match"
      else "Platform responsibility resolution")
    createdAt := env.now }

/-- An activity of the responsibility resolver. -/
def resolverActivity (report : Report) (action : String) (intakeRoute : ResponsibilityResolution) :
    ReportActivity where
  reportId := report.id
  organizationId := report.organizationId
  actorUserId := none
  actorRole := .superAdmin
  actorName := some "SecureZone Responsibility Resolver"
  action := action
  toStatus := some report.status
  responsibilityResolution := some intakeRoute.diagnostics

/-- What follows the creation of a report. -/
def createReportEffects (user : JwtUser) (intakeRoute : ResponsibilityResolution)
    (report : Report) : List Effect :=
  [.notification
      { userId := user.getUserId, reportId := report.id, type := "acknowledged",
        title := "Report received",
        message := "Your report " ++ quoted report.title ++
          " has been received and is under review." },
    .activity { recordReportActivity user report.id report.organizationId "REPORT_CREATED" with
      toStatus := some report.status
      responsibilityResolution := some intakeRoute.diagnostics },
    .activity (resolverActivity report "RESPONSIBILITY_RESOLUTION_ATTEMPTED" intakeRoute)] ++
  (if report.status = .orgReview then
    [.activity { resolverActivity report "RESPONSIBILITY_REVIEW_ENTERED" intakeRoute with
        fromStatus := some .triage },
      .operators (report.assignedOrganizationId.getD "")
        { reportId := report.id, type := "organization_report_offered",
          title := "Incoming report for review",
          message := quoted report.title ++ " is awaiting your organization intake decision." }]
  else if [.ambiguous, .unmatched, .restrictedOrConflicted].contains intakeRoute.outcome then
    [.resolvers
        { reportId := report.id, type := "responsibility_resolution_required",
          title := "Responsibility resolution required",
          message := quoted report.title ++ " requires platform responsibility resolution." }]
  else [])

/-- `createReport`. -/
def createReport (user : JwtUser) (dto : RoutedReport) : Except HttpError (List Action) := do
  let locationSource ← env.reportLocation
  throwIf (user.role ≠ .citizen) (forbidden "Only citizens can create reports")
  throwIf (!truthy user.organizationId) (forbidden "Citizen must belong to an organization")
  let intakeRoute ← orThrow
    (resolveReportResponsibility cfg.locale env.organizations env.assets dto) typeError
  let organizationId := user.organizationId.getD ""
  enforceMonthlyReportQuota env s organizationId
  let report := createdReport env user dto organizationId locationSource intakeRoute
  return [.create report (createReportEffects user intakeRoute report)]

variable {cfg env s} in
theorem createReport_eq_ok {user : JwtUser} {dto : RoutedReport} {actions : List Action}
    (h : createReport cfg env s user dto = .ok actions) :
    ∃ organizationId locationSource intakeRoute,
      user.role = .citizen ∧ user.organizationId = some organizationId ∧
        [.create (createdReport env user dto organizationId locationSource intakeRoute)
          (createReportEffects user intakeRoute
            (createdReport env user dto organizationId locationSource intakeRoute))] = actions := by
  obtain ⟨locationSource, -, h⟩ := bind_eq_ok.mp h
  simp only [orThrow_bind_eq_ok, check_bind_eq_ok, pure_eq_ok] at h
  obtain ⟨hrole, horg, intakeRoute, -, -, h⟩ := h
  cases ho : user.organizationId with
  | none => simp [ho] at horg
  | some organizationId =>
    rw [ho] at h
    exact ⟨organizationId, locationSource, intakeRoute, by simpa using hrole, rfl, h⟩

/-! ### Responsibility -/

/-- `AssignOrganizationDto`. -/
structure AssignOrganizationDto where
  organizationId : String
  reason : Option String := none
  establishAuthoritativeOwnership : Bool := false
  overrideReadiness : Bool := false

/-- The columns `assignOrganization` writes. -/
@[simp] def assignOrganizationData (user : JwtUser) (dto : AssignOrganizationDto) (report : Report)
    (organization : ResponsibilityOrganizationProfile) : Patch Report.id where
  apply r := { r with
    organizationId :=
      if dto.establishAuthoritativeOwnership then organization.id else report.organizationId
    assignedOrganizationId := some organization.id
    organizationAssignedById := some user.id
    organizationAssignedAt := some env.now
    organizationAssignmentSource := some
      (if dto.overrideReadiness then "Super Admin override: " ++ trimmed dto.reason else
        trimmed dto.reason)
    status := if dto.establishAuthoritativeOwnership then .pending else .orgReview
    lastAssignmentOutcome := none
    lastAssignmentReason := none
    lastAssignmentAt := some env.now
    lastAssignmentProviderId := none }

/-- What follows `assignOrganization`. -/
def assignOrganizationEffects (user : JwtUser) (dto : AssignOrganizationDto) (report : Report)
    (organization : ResponsibilityOrganizationProfile) (routed : Report) : List Effect :=
  let establishOwnership := dto.establishAuthoritativeOwnership
  [.activity { recordReportActivity user report.id routed.organizationId
    "ORGANIZATION_ASSIGNED" with
      fromStatus := some report.status
      toStatus := some routed.status
      reason := trimmedOrNull dto.reason },
    .operators organization.id
      { reportId := report.id
        type := if establishOwnership then "organization_manual_override" else
          "organization_assignment"
        title := if establishOwnership then "Report ownership assigned by platform"
          else "Report assigned for responsibility review"
        message := if establishOwnership then
            quoted routed.title ++ " was assigned to " ++ organization.name ++
              " by platform override."
          else quoted routed.title ++ " is awaiting your organization's responsibility review." },
    .notification
      { userId := routed.citizenId, reportId := report.id
        type := if establishOwnership then "organization_manual_override"
          else "organization_responsibility_review"
        title := "Report routing update"
        message := if establishOwnership then
            quoted routed.title ++ " has been routed to the responsible organization."
          else quoted routed.title ++ " is being reviewed by a responsible organization." }]

/-- `assignOrganization`. -/
def assignOrganization (reportId : String) (dto : AssignOrganizationDto) (user : JwtUser) :
    Except HttpError (List Action) := do
  throwIf (!user.isSuperAdmin)
    (forbidden "Only Super Admin can manually route organization responsibility")
  let report ← orThrow (s.report? reportId) (notFound "Report not found")
  throwIf (report.status ≠ .pending ∧ report.status ≠ .triage)
    (forbidden "Report cannot be assigned in its current status")
  throwIf (truthy report.assignedProviderId) (forbidden "Report already has an assigned provider")
  let organization ← orThrow (env.organization? dto.organizationId)
    (notFound "Organization not found")
  let candidate ← orThrow
    (serializeOrganizationCandidate cfg.locale organization report.category report.toRoutedReport)
      typeError
  throwIf (!candidate.eligible && !(dto.overrideReadiness || dto.establishAuthoritativeOwnership))
    { kind := .forbidden, code := some "ORGANIZATION_NOT_READY",
      message := "Organization is not eligible for this assignment.", reasons := candidate.reasons }
  throwIf (trimmed dto.reason = "") (badRequest "Manual routing reason is required")
  throwIf (dto.establishAuthoritativeOwnership ∧ organization.status ≠ .active)
    (forbidden "Organization is not active")
  let moduleEnabled ← orThrow
    (if dto.establishAuthoritativeOwnership then
      maintenanceModuleEnabled organization.enabledModules
    else some true) typeError
  throwIf (!moduleEnabled) (forbidden "Maintenance Services is not enabled for this organization.")
  return [.update reportId none (assignOrganizationData env user dto report organization)
    (assignOrganizationEffects user dto report organization)]

/-- When `assignOrganization` routes a report to an organization. -/
structure RouteAllowed (cfg : Config) (user : JwtUser) (report : Report)
    (dto : AssignOrganizationDto) (organization : ResponsibilityOrganizationProfile) : Prop where
  superAdmin : user.isSuperAdmin
  routable : report.status = .pending ∨ report.status = .triage
  free : truthy report.assignedProviderId = false
  ready : ∃ candidate,
    serializeOrganizationCandidate cfg.locale organization report.category report.toRoutedReport =
        some candidate ∧
      (candidate.eligible ∨ dto.overrideReadiness ∨ dto.establishAuthoritativeOwnership)
  reasoned : trimmed dto.reason ≠ ""
  owned : dto.establishAuthoritativeOwnership →
    organization.status = .active ∧ maintenanceModuleEnabled organization.enabledModules = some true

variable {cfg env s} in
theorem assignOrganization_eq_ok {reportId : String} {dto : AssignOrganizationDto} {user : JwtUser}
    {actions : List Action} :
    assignOrganization cfg env s reportId dto user = .ok actions ↔
      ∃ report organization, s.report? reportId = some report ∧
        env.organization? dto.organizationId = some organization ∧
        RouteAllowed cfg user report dto organization ∧
        [.update reportId none (assignOrganizationData env user dto report organization)
          (assignOrganizationEffects user dto report organization)] = actions := by
  simp only [assignOrganization, throwIf_bind_eq_ok, orThrow_bind_eq_ok, pure_eq_ok]
  constructor
  · rintro ⟨h1, report, hr, h2, h3, organization, ho, candidate, hc, h4, h5, h6, enabled, he, h7, h⟩
    refine ⟨report, organization, hr, ho,
      ⟨?_, ?_, ?_, ⟨candidate, hc, ?_⟩, h5, fun howned => ⟨?_, ?_⟩⟩, h⟩ <;>
      grind
  · rintro ⟨report, organization, hr, ho, ⟨h1, h2, h3, ⟨candidate, hc, h4⟩, h5, h6⟩, h⟩
    refine ⟨?_, report, hr, ?_, ?_, organization, ho, candidate, hc, ?_, h5, ?_, true, ?_, ?_,
      h⟩ <;> grind

/-- `responsibilityResolutionFromActivity`, of the timeline of a report. -/
def responsibilityResolutionFromActivity (reportId : String) :
    Option ResponsibilityResolutionDiagnostics :=
  (s.activities.filter fun activity => activity.reportId = reportId).reverse.findSome?
    (·.responsibilityResolution)

/-- `isLegacyMatchedResponsibilityReview`. -/
def isLegacyMatchedResponsibilityReview (report : Report) (organizationId : String)
    (responsibilityResolution : Option ResponsibilityResolutionDiagnostics) : Bool :=
  organizationId ≠ "" && report.status = .triage && report.organizationId = organizationId &&
    !truthy report.assignedOrganizationId && !truthy report.assignedProviderId &&
    report.lastAssignmentOutcome ≠ some .rejected &&
    report.organizationAssignmentSource ≠ some "Organization rejected report" &&
    responsibilityResolution.any fun resolution =>
      resolution.outcome = .highConfidence &&
        (resolution.proposedOrganizationId <|> resolution.selectedCandidateId) = some organizationId

/-- Whether the method sees the report as a legacy matched review of the organization. -/
def legacyMatchedReview (report : Report) (organizationId : String) : Bool :=
  isLegacyMatchedResponsibilityReview report organizationId
    (responsibilityResolutionFromActivity s report.id)

/-- A legacy matched review is one of a report in triage that has no provider. -/
theorem triage_of_legacyMatchedReview {s : Store} {report : Report} {organizationId : String}
    (h : legacyMatchedReview s report organizationId) :
    report.status = .triage ∧ truthy report.assignedProviderId = false := by
  simp only [legacyMatchedReview, isLegacyMatchedResponsibilityReview, Bool.and_eq_true,
    decide_eq_true_eq, Bool.not_eq_true'] at h
  obtain ⟨⟨⟨⟨⟨⟨⟨-, h1⟩, -⟩, -⟩, h2⟩, -⟩, -⟩, -⟩ := h
  exact ⟨h1, h2⟩

/-- The columns `acceptOrganizationReport` writes. -/
@[simp] def acceptOrganizationReportData (organizationId : String) (report : Report) :
    Patch Report.id where
  apply r := { r with
    status := .pending
    organizationId
    assignedOrganizationId := some (report.assignedOrganizationId.getD organizationId)
    organizationAssignedAt := some (report.organizationAssignedAt.getD env.now)
    organizationAssignmentSource := some "Organization accepted report"
    lastAssignmentOutcome := none
    lastAssignmentReason := none
    lastAssignmentAt := some env.now }

/-- What follows `acceptOrganizationReport`. -/
def acceptOrganizationReportEffects (user : JwtUser) (organizationId : String)
    (note : Option String) (report updated : Report) : List Effect :=
  [.activity { recordReportActivity user report.id organizationId
    "ORGANIZATION_ACCEPTED_REPORT" with
      fromStatus := some report.status
      toStatus := some updated.status
      note := trimmedOrNull note },
    .notification
      { userId := updated.citizenId, reportId := report.id, type := "organization_report_accepted",
        title := "Report accepted for dispatch",
        message := quoted updated.title ++
          " was accepted by the responsible organization and is awaiting provider assignment." },
    .operators organizationId
      { reportId := report.id, type := "organization_report_accepted", title := "Report accepted",
        message := quoted updated.title ++ " is now in your dispatch queue." }]

/-- `acceptOrganizationReport`. -/
def acceptOrganizationReport (reportId : String) (note : Option String) (user : JwtUser) :
    Except HttpError (List Action) := do
  let organizationId ← user.requireUserOrganizationId
  throwIf (!user.isAdmin && !user.isDispatch)
    (forbidden "Only organization operators can accept reports")
  let report ← orThrow (s.report? reportId) (notFound "Report not found")
  let legacy := legacyMatchedReview s report organizationId
  throwIf (report.assignedOrganizationId ≠ some organizationId && !legacy)
    (forbidden "Report is not routed to your organization")
  if report.status = .pending ∧ report.organizationId = organizationId then
    return []
  throwIf (report.status ≠ .orgReview && !legacy)
    (conflict "Report is not awaiting organization decision")
  return [.update reportId none (acceptOrganizationReportData env organizationId report)
    (acceptOrganizationReportEffects user organizationId note report)]

/-- When an operator may decide on a report that was offered to the organization. -/
structure IntakeAllowed (s : Store) (user : JwtUser) (organizationId : String)
    (report : Report) : Prop where
  organization : user.organizationId = some organizationId
  organization_ne : organizationId ≠ ""
  operator : user.isAdmin ∨ user.isDispatch
  routed : report.assignedOrganizationId = some organizationId ∨
    legacyMatchedReview s report organizationId

variable {env s} in
theorem acceptOrganizationReport_eq_ok {reportId : String} {note : Option String} {user : JwtUser}
    {actions : List Action} :
    acceptOrganizationReport env s reportId note user = .ok actions ↔
      ∃ report organizationId, s.report? reportId = some report ∧
        IntakeAllowed s user organizationId report ∧
        (report.status = .pending ∧ report.organizationId = organizationId ∧ [] = actions ∨
          ¬(report.status = .pending ∧ report.organizationId = organizationId) ∧
            (report.status = .orgReview ∨ legacyMatchedReview s report organizationId) ∧
            [.update reportId none (acceptOrganizationReportData env organizationId report)
              (acceptOrganizationReportEffects user organizationId note report)] = actions) := by
  constructor
  · intro h
    obtain ⟨organizationId, horg, h⟩ := bind_eq_ok.mp h
    obtain ⟨horg, hne⟩ := JwtUser.requireUserOrganizationId_eq_ok.mp horg
    simp only [throwIf_bind_eq_ok, orThrow_bind_eq_ok] at h
    obtain ⟨h1, report, hr, h2, h⟩ := h
    refine ⟨report, organizationId, hr, ⟨horg, hne, by grind, by grind⟩, ?_⟩
    split at h
    · next hdone => exact .inl ⟨hdone.1, hdone.2, pure_eq_ok.mp h⟩
    · next hopen =>
      rw [throwIf_bind_eq_ok, pure_eq_ok] at h
      exact .inr ⟨hopen, by grind, h.2⟩
  · rintro ⟨report, organizationId, hr, ⟨horg, hne, h1, h2⟩, h⟩
    refine bind_eq_ok.mpr
      ⟨organizationId, JwtUser.requireUserOrganizationId_eq_ok.mpr ⟨horg, hne⟩, ?_⟩
    simp only [throwIf_bind_eq_ok, orThrow_bind_eq_ok]
    refine ⟨by grind, report, hr, by grind, ?_⟩
    rcases h with ⟨hp, ho, h⟩ | ⟨hopen, h3, h⟩
    · rw [if_pos ⟨hp, ho⟩, pure_eq_ok]
      exact h
    · rw [if_neg hopen, throwIf_bind_eq_ok, pure_eq_ok]
      exact ⟨by grind, h⟩

/-- The columns `rejectOrganizationReport` writes. -/
@[simp] def rejectOrganizationReportData (reason : String) (report : Report) : Patch Report.id where
  apply r := { r with
    status := .triage
    organizationId := report.organizationId
    assignedOrganizationId := none
    organizationAssignedById := none
    organizationAssignedAt := none
    organizationAssignmentSource := some "Organization rejected report"
    assignedProviderId := none
    assignedAt := none
    assignmentDeadlineAt := none
    lastAssignmentOutcome := some .rejected
    lastAssignmentReason := some reason
    lastAssignmentAt := some env.now }

/-- What follows `rejectOrganizationReport`. -/
def rejectOrganizationReportEffects (user : JwtUser) (organizationId reason : String)
    (report updated : Report) : List Effect :=
  [.activity { recordReportActivity user report.id organizationId
    "ORGANIZATION_REJECTED_REPORT" with
      fromStatus := some report.status
      toStatus := some updated.status
      reason := some reason },
    .resolvers
      { reportId := report.id, type := "organization_report_rejected",
        title := "Organization rejected responsibility",
        message := quoted updated.title ++ " was returned to platform responsibility resolution." },
    .notification
      { userId := updated.citizenId, reportId := report.id, type := "organization_report_rejected",
        title := "Report returned for platform review",
        message := quoted updated.title ++ " was returned for SecureZone platform triage." }]

/-- `rejectOrganizationReport`. -/
def rejectOrganizationReport (reportId reason : String) (suggestedOrganizationId : Option String)
    (user : JwtUser) : Except HttpError (List Action) := do
  let organizationId ← user.requireUserOrganizationId
  throwIf (!user.isAdmin && !user.isDispatch)
    (forbidden "Only organization operators can reject reports")
  throwIf (trim reason = "") (badRequest "Rejection reason is required")
  let report ← orThrow (s.report? reportId) (notFound "Report not found")
  let legacy := legacyMatchedReview s report organizationId
  throwIf (report.assignedOrganizationId ≠ some organizationId && !legacy)
    (forbidden "Report is not routed to your organization")
  if report.status = .triage ∧ !legacy then
    return []
  throwIf (report.status ≠ .orgReview && !legacy)
    (conflict "Report is not awaiting organization decision")
  throwIf (trimmed suggestedOrganizationId ≠ "" ∧
    env.organization? (trimmed suggestedOrganizationId) = none)
    (badRequest "Suggested organization was not found")
  return [.update reportId none (rejectOrganizationReportData env (trim reason) report)
    (rejectOrganizationReportEffects user organizationId (trim reason) report)]

variable {env s} in
theorem rejectOrganizationReport_eq_ok {reportId reason : String}
    {suggestedOrganizationId : Option String} {user : JwtUser} {actions : List Action} :
    rejectOrganizationReport env s reportId reason suggestedOrganizationId user = .ok actions ↔
      ∃ report organizationId, s.report? reportId = some report ∧
        IntakeAllowed s user organizationId report ∧
        trim reason ≠ "" ∧
        (report.status = .triage ∧ legacyMatchedReview s report organizationId = false ∧
          [] = actions ∨
          (report.status = .orgReview ∨ legacyMatchedReview s report organizationId) ∧
            (trimmed suggestedOrganizationId = "" ∨
              env.organization? (trimmed suggestedOrganizationId) ≠ none) ∧
            [.update reportId none (rejectOrganizationReportData env (trim reason) report)
              (rejectOrganizationReportEffects user organizationId (trim reason) report)] =
                actions) := by
  constructor
  · intro h
    obtain ⟨organizationId, horg, h⟩ := bind_eq_ok.mp h
    obtain ⟨horg, hne⟩ := JwtUser.requireUserOrganizationId_eq_ok.mp horg
    simp only [throwIf_bind_eq_ok, orThrow_bind_eq_ok] at h
    obtain ⟨h1, h2, report, hr, h3, h⟩ := h
    refine ⟨report, organizationId, hr, ⟨horg, hne, by grind, by grind⟩, h2, ?_⟩
    split at h
    · next hdone => exact .inl ⟨hdone.1, by simpa using hdone.2, pure_eq_ok.mp h⟩
    · next hopen =>
      rw [throwIf_bind_eq_ok, throwIf_bind_eq_ok, pure_eq_ok] at h
      exact .inr ⟨by grind, by grind, h.2.2⟩
  · rintro ⟨report, organizationId, hr, ⟨horg, hne, h1, h2⟩, h3, h⟩
    refine bind_eq_ok.mpr
      ⟨organizationId, JwtUser.requireUserOrganizationId_eq_ok.mpr ⟨horg, hne⟩, ?_⟩
    simp only [throwIf_bind_eq_ok, orThrow_bind_eq_ok]
    refine ⟨by grind, h3, report, hr, by grind, ?_⟩
    rcases h with ⟨ht, hl, h⟩ | ⟨h4, h5, h⟩
    · rw [if_pos ⟨ht, by simpa using hl⟩, pure_eq_ok]
      exact h
    · rw [if_neg (by grind), throwIf_bind_eq_ok, throwIf_bind_eq_ok, pure_eq_ok]
      exact ⟨by grind, by grind, h⟩

end FixZone.ReportService
