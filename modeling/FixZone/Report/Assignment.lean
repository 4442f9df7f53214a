import FixZone.Report.Completion

/-!
# Assignments

How a report gets a provider and loses it: `assignProviderById`, `cancelAssignment`,
`rejectAssignment`, and `expireOverdueAssignments`, the sweep that several methods run
before they read. `reassignProvider` is a cancellation followed by an assignment and
stands with the requests.
-/

namespace FixZone.ReportService

open Library Organization

variable (cfg : Config) (env : Env) (s : Store)

/-! ### Expiry -/

/-- The filter of `expireOverdueAssignments`. -/
structure ExpiryFilter where
  providerId : Option String := none
  organizationId : Option String := none

/-- Whether the filter lets a report through: a blank id does not filter. -/
def ExpiryFilter.covers (filter : ExpiryFilter) (report : Report) : Bool :=
  (!truthy filter.providerId || report.assignedProviderId = filter.providerId) &&
    (!truthy filter.organizationId || some report.organizationId = filter.organizationId)

/-- Whether a report is assigned and its deadline has passed. -/
def isOverdue (report : Report) : Bool :=
  report.status = .assigned && report.assignmentDeadlineAt.any (· < env.now)

/-- The columns `expireOverdueAssignments` writes. -/
@[simp] def expireData (report : Report) : Patch Report.id where
  apply r := { r with
    status := .pending
    assignedProviderId := none
    assignedAt := none
    assignmentDeadlineAt := none
    lastAssignmentOutcome := some .timedOut
    lastAssignmentReason := some "Assignment acceptance window expired"
    lastAssignmentAt := some env.now
    lastAssignmentProviderId := report.assignedProviderId }

/-- What follows the expiry of an assignment. -/
def expireEffects (actor : Option JwtUser) (report : Report) : List Effect :=
  [.activity
      { reportId := report.id
        organizationId := report.organizationId
        actorUserId := actor.map (·.id)
        actorRole := (actor.map (·.role)).getD .dispatchOfficer
        actorName := match actor with
          | some user => user.fullName <|> user.email
          | none => some "System"
        action := "ASSIGNMENT_TIMED_OUT"
        fromStatus := some .assigned
        toStatus := some .pending
        providerId := report.assignedProviderId
        reason := some "Assignment acceptance window expired" },
    .operators report.organizationId
      { reportId := report.id, type := "assignment_timeout", title := "Assignment timed out",
        message := "Assignment for " ++ quoted report.title ++
          " timed out and returned to dispatch." }] ++
  (if truthy report.assignedProviderId then
    [.notification
      { userId := report.assignedProviderId.getD "", reportId := report.id, type := "assignment_timeout",
        title := "Assignment timed out",
        message := "Your assignment for " ++ quoted report.title ++
          " expired and was returned to dispatch." }]
  else []) ++
  [.notification
      { userId := report.citizenId, reportId := report.id, type := "assignment_timeout",
        title := "Assignment update",
        message := "The provider assignment for " ++ quoted report.title ++
          " timed out. Dispatch will reassign it." }]

/-- `expireOverdueAssignments`: every overdue report the filter covers, as it was read, is
written. -/
def expireOverdueAssignments (filter : ExpiryFilter) (actor : Option JwtUser) : List Action :=
  (s.reports.rows.filter fun report => isOverdue env report &&
    filter.covers report).map fun report =>
    .update report.id none (expireData env report) fun _ => expireEffects actor report

/-- Whether `assertAssignmentStillAcceptable` refuses the report to its provider. -/
def assignmentLapsed (report : Report) (userId : String) : Bool :=
  report.status = .assigned && report.assignedProviderId = some userId &&
    report.assignmentDeadlineAt.any (· < env.now)

/-- The end of `assertAssignmentStillAcceptable`: sweep the provider's assignments and throw. -/
def expireAndRefuse (user : JwtUser) : List Action :=
  expireOverdueAssignments env s { providerId := some user.getUserId } (some user) ++
    [.throw (conflict "Assignment acceptance window expired")]

/-- The filter of a sweep over the organization of a user, or over all for a super admin. -/
def organizationFilter (user : JwtUser) : ExpiryFilter where
  organizationId := if user.isSuperAdmin then none else user.organizationId

/-- `processOverdueAssignments`. -/
def processOverdueAssignments (user : JwtUser) : Except HttpError (List Action) := do
  throwIf (!user.isOperator) (forbidden "Not allowed")
  return expireOverdueAssignments env s (organizationFilter user) (some user)

/-- `getAssignedReports`, up to the query it answers with. -/
def getAssignedReports (user : JwtUser) : Except HttpError (List Action) := do
  throwIf (!user.isProvider) (forbidden "Only providers allowed")
  return expireOverdueAssignments env s { providerId := some user.getUserId } none

/-- The first part of `getOrganizationReports`, `getDashboardSummary` and `getRecentReports`:
the scope of the user, and a sweep over it. -/
def expireInScope (user : JwtUser) (actor : Option JwtUser) : Except HttpError (List Action) := do
  throwIf (!user.isSuperAdmin && !truthy user.organizationId) (forbidden "No org")
  return expireOverdueAssignments env s (organizationFilter user) actor

/-- `getOrganizationReports`, up to the query it answers with. -/
def getOrganizationReports (user : JwtUser) : Except HttpError (List Action) :=
  expireInScope env s user none

/-- `getDashboardSummary`, up to the counts it answers with. -/
def getDashboardSummary (user : JwtUser) : Except HttpError (List Action) :=
  expireInScope env s user (some user)

/-- `getRecentReports`, up to the query it answers with. -/
def getRecentReports (user : JwtUser) : Except HttpError (List Action) :=
  expireInScope env s user (some user)

/-! ### Providers -/

/-- `assertActiveProvider`. -/
def assertActiveProvider (userId : String) : Except HttpError PUnit := do
  let user ← orThrow ((env.user? userId).filter (·.role = .provider))
    (forbidden "Provider account not found")
  throwIf (user.accountStatus = .suspended) (forbidden "Provider account is suspended")

/-- `authorizedProviderOrganizationIds`. -/
def authorizedProviderOrganizationIds (user : JwtUser) : List String :=
  let links :=
    (env.users.filter fun row => row.id = user.getUserId).flatMap (·.providerOrganizations)
  user.organizationId.toList.filter (· ≠ "") ++
    ((links.filter (·.active)).map (·.organizationId)).filter (· ≠ "")

/-- `assertProviderCanAccessReport`. -/
def assertProviderCanAccessReport (user : JwtUser) (report : Report) : Except HttpError PUnit :=
  throwIf (user.isProvider && report.assignedProviderId ≠ some user.getUserId &&
      !(authorizedProviderOrganizationIds env user).contains report.organizationId)
    (forbidden "Provider organization access denied")

/-- What `assertActiveProvider` asserts. -/
def ActiveProvider (userId : String) : Prop :=
  ∃ row, env.user? userId = some row ∧ row.role = .provider ∧ row.accountStatus ≠ .suspended

variable {env s}

theorem assertActiveProvider_eq_ok {userId : String} {u : PUnit} :
    assertActiveProvider env userId = .ok u ↔ ActiveProvider env userId := by
  simp only [assertActiveProvider, orThrow_bind_eq_ok, throwIf_eq_ok, Option.filter_eq_some_iff,
    decide_eq_true_eq, and_assoc]
  rfl

theorem assertProviderCanAccessReport_of_assigned {user : JwtUser} {report : Report}
    (h : report.assignedProviderId = some user.id) :
    assertProviderCanAccessReport env user report = .ok ⟨⟩ := by
  refine throwIf_of_not ?_
  simp [h]

variable (env s)

/-! ### Notices -/

/-- `notifyStatusChange`. -/
def notifyStatusChange (report : Report) : List Effect :=
  match report.status with
  | .assigned => [.notification
      { userId := report.citizenId, reportId := report.id, type := "assigned", title := "Report assigned",
        message := "Your report " ++ quoted report.title ++ " has been assigned to a provider." }]
  | .inProgress => [.notification
      { userId := report.citizenId, reportId := report.id, type := "status_update", title := "Work started",
        message := "A provider has started work on " ++ quoted report.title ++ "." }]
  | .completedByProvider => [.notification
      { userId := report.citizenId, reportId := report.id, type := "completion_review",
        title := "Ready for review",
        message := "The provider marked " ++ quoted report.title ++
          " complete. Please review it." }]
  | .closed => [.notification
      { userId := report.citizenId, reportId := report.id, type := "resolved", title := "Report closed",
        message := "Your report " ++ quoted report.title ++ " has been closed." }]
  | .triage | .orgReview | .pending => []

/-! ### Assignment -/

/-- The columns that take a report out of its assignment. -/
@[simp] def unassignData (reason providerId : String) : Patch Report.id where
  apply r := { r with
    status := .pending
    assignedProviderId := none
    assignedAt := none
    assignmentDeadlineAt := none
    lastAssignmentOutcome := some .rejected
    lastAssignmentReason := some reason
    lastAssignmentAt := some env.now
    lastAssignmentProviderId := some providerId }

/-- What follows `cancelAssignment`. -/
def cancelAssignmentEffects (user : JwtUser) (cleanReason previousProviderId : String)
    (report updated : Report) : List Effect :=
  [.activity { recordReportActivity user report.id updated.organizationId
    "ASSIGNMENT_CANCELLED" with
      fromStatus := some report.status
      toStatus := some updated.status
      providerId := some previousProviderId
      reason := some cleanReason },
    .notification
      { userId := previousProviderId, reportId := report.id, type := "assignment_cancelled",
        title := "Assignment cancelled",
        message := "Your assignment for " ++ quoted updated.title ++ " was cancelled. Reason: " ++
          cleanReason },
    .operators updated.organizationId
      { reportId := report.id, type := "assignment_cancelled", title := "Assignment returned to dispatch",
        message := quoted updated.title ++ " was returned to the dispatch queue." }]

/-- `cancelAssignment`. -/
def cancelAssignment (reportId : String) (reason : Option String) (user : JwtUser) :
    Except HttpError (List Action) := do
  throwIf (!user.isOperator) (forbidden "Not allowed")
  let report ← orThrow (s.report? reportId) (notFound "Report not found")
  throwIf (!user.isSuperAdmin && some report.organizationId ≠ user.organizationId)
    (forbidden "Wrong org")
  throwIf (!truthy report.assignedProviderId || report.status = .pending)
    (forbidden "Report has no active assignment")
  let previousProviderId := report.assignedProviderId.getD ""
  let cleanReason := (trimmedOrNull reason).getD "Assignment cancelled by administrator"
  return [.update reportId none (unassignData env cleanReason previousProviderId)
    (cancelAssignmentEffects user cleanReason previousProviderId report)]

/-- When `cancelAssignment` cancels. -/
structure CancelAllowed (user : JwtUser) (report : Report) : Prop where
  operator : user.isOperator
  scope : user.isSuperAdmin ∨ some report.organizationId = user.organizationId
  assigned : truthy report.assignedProviderId
  active : report.status ≠ .pending

/-- The reason `cancelAssignment` records. -/
def cancelReason (reason : Option String) : String :=
  (trimmedOrNull reason).getD "Assignment cancelled by administrator"

variable {env s} in
theorem cancelAssignment_eq_ok {reportId : String} {reason : Option String} {user : JwtUser}
    {actions : List Action} :
    cancelAssignment env s reportId reason user = .ok actions ↔
      ∃ report, s.report? reportId = some report ∧ CancelAllowed user report ∧
        [.update reportId none
          (unassignData env (cancelReason reason) (report.assignedProviderId.getD ""))
          (cancelAssignmentEffects user (cancelReason reason)
          (report.assignedProviderId.getD "") report)] =
            actions := by
  simp only [cancelAssignment, throwIf_bind_eq_ok, orThrow_bind_eq_ok, pure_eq_ok]
  constructor
  · rintro ⟨h1, report, hr, h2, h3, h⟩
    refine ⟨report, hr, ⟨?_, ?_, ?_, ?_⟩, h⟩ <;> grind
  · rintro ⟨report, hr, ⟨h1, h2, h3, h4⟩, h⟩
    refine ⟨?_, report, hr, ?_, ?_, h⟩ <;> grind

/-- The options `assignProviderById` takes from `AssignProviderDto`. -/
structure AssignOptions where
  overrideOrganizationRouting : Bool := false
  overrideReason : Option String := none

/-- Whether a provider is a member of the report's organization. -/
def providerBelongsToReportOrg (provider : User) (report : Report) : Bool :=
  provider.organizationId = some report.organizationId ||
    provider.providerOrganizations.any fun link =>
      link.organizationId = report.organizationId && link.active

/-- `assertAssignmentAllowed`. -/
def assertAssignmentAllowed (report : Report) (provider : User) (user : JwtUser) :
    Except HttpError PUnit := do
  throwIf (report.status ≠ .pending) (forbidden "Report cannot be assigned in its current status")
  throwIf (truthy report.assignedProviderId) (forbidden "Report already has an assigned provider")
  throwIf (!user.isSuperAdmin && some report.organizationId ≠ user.organizationId)
    (forbidden "Cross-org not allowed")
  throwIf (!user.isSuperAdmin && provider.organizationId ≠ user.organizationId &&
      !provider.providerOrganizations.any fun link =>
        link.organizationId = report.organizationId && link.active)
    (forbidden "Provider must be same org")

/-- The columns `assignProviderById` writes. -/
@[simp] def assignProviderData (providerId : String) : Patch Report.id where
  apply r := { r with
    assignedProviderId := some providerId
    status := .assigned
    assignedAt := some env.now
    assignmentDeadlineAt := some (env.now + cfg.assignmentTimeoutMinutes * 60 * 1000)
    lastAssignmentOutcome := none
    lastAssignmentReason := none
    lastAssignmentAt := none
    lastAssignmentProviderId := none }

/-- What follows `assignProviderById`. -/
def assignProviderEffects (user : JwtUser) (providerId : String) (options : AssignOptions)
    (report updated : Report) : List Effect :=
  notifyStatusChange updated ++
  [.operators updated.organizationId
      { reportId := report.id, type := "assignment", title := "Provider assigned",
        message := "A provider was assigned to " ++ quoted updated.title ++ "." },
    .notification
      { userId := providerId, reportId := report.id, type := "assignment", title := "New assignment",
        message := "You have been assigned " ++ quoted updated.title ++ ". Accept before " ++
          (updated.assignmentDeadlineAt.map toISOString).getD "the timeout window expires" ++ "." },
    .activity { recordReportActivity user report.id updated.organizationId "PROVIDER_ASSIGNED" with
      fromStatus := some report.status
      toStatus := some updated.status
      providerId := some providerId
      reason := options.overrideReason.map trim }]

/-- `assignProviderById`. -/
def assignProviderById (reportId providerId : String) (user : JwtUser) (options : AssignOptions) :
    Except HttpError (List Action) := do
  throwIf (!user.isOperator) (forbidden "Not allowed")
  let report ← orThrow (s.report? reportId) (notFound "Report not found")
  let provider ← orThrow ((env.user? providerId).filter (·.role = .provider))
    (forbidden "Invalid provider")
  throwIf (provider.accountStatus ≠ .active) (forbidden "Provider account is not active")
  throwIf (user.isSuperAdmin && !providerBelongsToReportOrg provider report &&
      (!options.overrideOrganizationRouting || trimmed options.overrideReason = ""))
    { kind := .forbidden, code := some "ORGANIZATION_ROUTING_OVERRIDE_REQUIRED",
      message := "Direct provider assignment bypasses the owning organization and requires an override reason." }
  assertAssignmentAllowed report provider user
  throwIf (!user.isSuperAdmin && !providerBelongsToReportOrg provider report)
    (forbidden "Provider must have active membership in the report organization")
  return [.update reportId none (assignProviderData cfg env providerId)
    (assignProviderEffects user providerId options report)]

/-- When `assignProviderById` assigns the provider. -/
structure AssignAllowed (user : JwtUser) (report : Report) (provider : User)
    (options : AssignOptions) : Prop where
  operator : user.isOperator
  pending : report.status = .pending
  free : truthy report.assignedProviderId = false
  role : provider.role = .provider
  active : provider.accountStatus = .active
  scope : user.isSuperAdmin ∨
    some report.organizationId = user.organizationId ∧ providerBelongsToReportOrg provider report
  override : providerBelongsToReportOrg provider report ∨
    options.overrideOrganizationRouting ∧ trimmed options.overrideReason ≠ ""

variable {cfg env s} in
theorem assignProviderById_eq_ok {reportId providerId : String} {user : JwtUser}
    {options : AssignOptions} {actions : List Action} :
    assignProviderById cfg env s reportId providerId user options = .ok actions ↔
      ∃ report provider, s.report? reportId = some report ∧ env.user? providerId = some provider ∧
        AssignAllowed user report provider options ∧
        [.update reportId none (assignProviderData cfg env providerId)
          (assignProviderEffects user providerId options report)] = actions := by
  simp only [assignProviderById, assertAssignmentAllowed, bind_assoc, throwIf_bind_eq_ok,
    orThrow_bind_eq_ok, pure_eq_ok, Option.filter_eq_some_iff, decide_eq_true_eq]
  constructor
  · rintro ⟨h1, report, hr, provider, ⟨hp, hrole⟩, h2, h3, h4, h5, h6, h7, h8, h⟩
    refine ⟨report, provider, hr, hp, ⟨?_, ?_, ?_, hrole, ?_, ?_, ?_⟩, h⟩ <;>
      grind [providerBelongsToReportOrg]
  · rintro ⟨report, provider, hr, hp, ⟨h1, h2, h3, h4, h5, h6, h7⟩, h⟩
    refine ⟨?_, report, hr, provider, ⟨hp, h4⟩, ?_, ?_, ?_, ?_, ?_, ?_, ?_, h⟩ <;>
      grind [providerBelongsToReportOrg]

/-- What follows `rejectAssignment`. -/
def rejectAssignmentEffects (user : JwtUser) (reason : String) (report updated : Report) :
    List Effect :=
  [.activity { recordReportActivity user report.id updated.organizationId "PROVIDER_REJECTED" with
      fromStatus := some report.status
      toStatus := some updated.status
      providerId := some user.getUserId
      reason := some reason },
    .operators updated.organizationId
      { reportId := report.id, type := "assignment_rejected", title := "Assignment rejected",
        message := "Provider rejected " ++ quoted updated.title ++ ". Reason: " ++ reason }]

/-- `rejectAssignment`. -/
def rejectAssignment (reportId reason : String) (user : JwtUser) : Except HttpError (List Action) :=
  do
  throwIf (!user.isProvider) (forbidden "Only providers can reject assignments")
  assertActiveProvider env user.getUserId
  let report ← orThrow (s.report? reportId) (notFound "Report not found")
  throwIf (report.assignedProviderId ≠ some user.getUserId) (forbidden "Not your report")
  assertProviderCanAccessReport env user report
  if assignmentLapsed env report user.getUserId then
    return expireAndRefuse env s user
  throwIf (report.status ≠ .assigned) (forbidden "Only new assignments can be rejected")
  return [.update reportId none (unassignData env (trim reason) user.getUserId)
    (rejectAssignmentEffects user (trim reason) report)]

/-- When `rejectAssignment` reaches the assignment it was called for. -/
structure RejectCalled (env : Env) (user : JwtUser) (report : Report) : Prop where
  provider : user.isProvider
  active : ActiveProvider env user.id
  own : report.assignedProviderId = some user.id

variable {env s} in
theorem rejectAssignment_eq_ok {reportId reason : String} {user : JwtUser} {actions : List Action} :
    rejectAssignment env s reportId reason user = .ok actions ↔
      ∃ report, s.report? reportId = some report ∧ RejectCalled env user report ∧
        (assignmentLapsed env report user.id ∧ expireAndRefuse env s user = actions ∨
          assignmentLapsed env report user.id = false ∧ report.status = .assigned ∧
            [.update reportId none (unassignData env (trim reason) user.id)
              (rejectAssignmentEffects user (trim reason) report)] = actions) := by
  simp only [rejectAssignment, check_bind_eq_ok, orThrow_bind_eq_ok, throwIf_eq_ok,
    assertActiveProvider_eq_ok]
  constructor
  · rintro ⟨h1, hactive, report, hr, hown, -, h⟩
    refine ⟨report, hr, ⟨by simpa using h1, hactive, by simpa using hown⟩, ?_⟩
    by_cases hlapsed : assignmentLapsed env report user.id
    · rw [if_pos hlapsed, pure_eq_ok] at h
      exact .inl ⟨hlapsed, h⟩
    · rw [if_neg hlapsed, check_bind_eq_ok, throwIf_eq_ok, pure_eq_ok] at h
      exact .inr ⟨by simpa using hlapsed, by simpa using h.1, h.2⟩
  · rintro ⟨report, hr, ⟨h1, hactive, hown⟩, h⟩
    refine ⟨by simpa using h1, hactive, report, hr, by simpa using hown,
      assertProviderCanAccessReport_of_assigned hown, ?_⟩
    rcases h with ⟨hlapsed, h⟩ | ⟨hlapsed, hassigned, h⟩
    · rw [if_pos hlapsed, pure_eq_ok]
      exact h
    · rw [if_neg (by simpa using hlapsed), check_bind_eq_ok, throwIf_eq_ok, pure_eq_ok]
      exact ⟨by simpa using hassigned, h⟩

end FixZone.ReportService
