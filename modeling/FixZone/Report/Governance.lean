import FixZone.Report.Assignment
import Mathlib.Data.List.Sort

/-!
# Completion governance by the platform

The methods by which a super administrator repairs a completion, and
`processCompletionReviewDeadlines`, the sweep that closes completions nobody decided on
within the review window.
-/

namespace FixZone.ReportService

open Library Organization

variable (cfg : Config) (env : Env) (s : Store)

/-! ### Interventions -/

/-- `getAdminGovernanceReport`. -/
def getAdminGovernanceReport (reportId : String) : Except HttpError Report :=
  orThrow (s.report? reportId) (notFound "Report not found")

/-- The rows of `recordGovernanceAction`. -/
def recordGovernanceAction (user : JwtUser) (action reason notifyType notifyTitle : String)
    (previous updated : Report) : List Effect :=
  let notice : Notice :=
    { reportId := updated.id, type := notifyType, title := notifyTitle,
      message := "Governance updated " ++ quoted updated.title ++ "." }
  [.activity { recordReportActivity user updated.id updated.organizationId action with
      fromStatus := some previous.status
      toStatus := some updated.status
      providerId := updated.assignedProviderId
      reason := some reason },
    .notification { notice with userId := updated.citizenId },
    .operators updated.organizationId notice]

/-- The columns `adminResolveAndClose` writes. -/
@[simp] def resolveAndCloseData (user : JwtUser) (reason : String) : Patch Report.id where
  apply r := { r with
    status := .closed
    completionReviewState := some .closed
    completionFinalizedAt := some env.now
    completionFinalizedById := some user.getUserId
    completionFinalizedByRole := some user.role
    completionFinalActorType := some "SUPER_ADMIN_GOVERNANCE"
    completionClosureReason := some reason }

/-- `adminResolveAndClose`. -/
def adminResolveAndClose (reportId reason : String) (user : JwtUser) :
    Except HttpError (List Action) := do
  user.assertSuperAdmin
  let report ← getAdminGovernanceReport s reportId
  throwIf (report.status = .closed) (conflict "Report is already closed")
  throwIf (onHold report) (conflict "Remove governance hold before resolving")
  let reason ← requiredGovernanceReason reason
  return [.update report.id none (resolveAndCloseData env user reason)
    (recordGovernanceAction user "ADMIN_COMPLETION_RESOLVED_CLOSED" reason
      "governance_resolution_closed"
      "Report closed by governance resolution" report)]

variable {cfg env s}

/-- When the platform may intervene in a completion, for a reason. -/
structure GovernanceAllowed (user : JwtUser) (reason : String) : Prop where
  superAdmin : user.role = .superAdmin
  reasoned : trim reason ≠ ""

theorem adminResolveAndClose_eq_ok {reportId reason : String} {user : JwtUser}
    {actions : List Action} :
    adminResolveAndClose env s reportId reason user = .ok actions ↔
      ∃ report, s.report? reportId = some report ∧ GovernanceAllowed user reason ∧
        report.status ≠ .closed ∧ onHold report = false ∧
        [.update report.id none (resolveAndCloseData env user (trim reason))
          (recordGovernanceAction user "ADMIN_COMPLETION_RESOLVED_CLOSED" (trim reason)
            "governance_resolution_closed" "Report closed by governance resolution" report)] =
              actions := by
  simp only [adminResolveAndClose, getAdminGovernanceReport, check_bind_eq_ok,
    JwtUser.assertSuperAdmin_eq_ok, orThrow_bind_eq_ok, throwIf_eq_ok,
    bind_eq_ok (x := requiredGovernanceReason _), requiredGovernanceReason_eq_ok, pure_eq_ok]
  constructor
  · rintro ⟨h1, report, hr, h2, h3, _, ⟨h4, rfl⟩, h⟩
    exact ⟨report, hr, ⟨h1, h4⟩, h2, by simpa using h3, h⟩
  · rintro ⟨report, hr, ⟨h1, h4⟩, h2, h3, h⟩
    exact ⟨h1, report, hr, h2, by simpa using h3, _, ⟨h4, rfl⟩, h⟩

variable (cfg env s)

/-- The columns `adminReturnForCompletionRework` writes. -/
@[simp] def returnForReworkData (reason : String) : Patch Report.id where
  apply r := { r with
    status := .assigned
    completionReviewState := some .reworkRequested
    organizationCompletionDecision := some .escalated
    organizationCompletionReason := some reason
    completionRejectionReason := some reason
    completionDisputeReason := some reason }

/-- What follows `adminReturnForCompletionRework`. -/
def returnForReworkEffects (user : JwtUser) (reason : String) (report updated : Report) :
    List Effect :=
  recordGovernanceAction user "ADMIN_COMPLETION_RETURNED_FOR_REWORK" reason
    "governance_rework_requested"
    "Report returned for provider rework" report updated ++
  (if truthy updated.assignedProviderId then
    [.notification
      { userId := updated.assignedProviderId.getD "", reportId := report.id,
        type := "governance_rework_requested", title := "Report returned for rework",
        message := "Governance returned " ++ quoted updated.title ++ " for provider rework." }]
  else [])

/-- `adminReturnForCompletionRework`. -/
def adminReturnForCompletionRework (reportId reason : String) (user : JwtUser) :
    Except HttpError (List Action) := do
  user.assertSuperAdmin
  let report ← getAdminGovernanceReport s reportId
  throwIf (report.status = .closed) (conflict "Closed reports must be reopened before rework")
  throwIf (report.completionReviewState = some .reworkRequested)
    (conflict "Report is already returned for rework")
  let reason ← requiredGovernanceReason reason
  return [.update report.id none (returnForReworkData reason)
    (returnForReworkEffects user reason report)]

variable {cfg env s} in
theorem adminReturnForCompletionRework_eq_ok {reportId reason : String} {user : JwtUser}
    {actions : List Action} :
    adminReturnForCompletionRework s reportId reason user = .ok actions ↔
      ∃ report, s.report? reportId = some report ∧ GovernanceAllowed user reason ∧
        report.status ≠ .closed ∧ report.completionReviewState ≠ some .reworkRequested ∧
        [.update report.id none (returnForReworkData (trim reason))
        (returnForReworkEffects user (trim reason) report)] = actions := by
  simp only [adminReturnForCompletionRework, getAdminGovernanceReport, check_bind_eq_ok,
    JwtUser.assertSuperAdmin_eq_ok, orThrow_bind_eq_ok, throwIf_eq_ok,
    bind_eq_ok (x := requiredGovernanceReason _), requiredGovernanceReason_eq_ok, pure_eq_ok]
  constructor
  · rintro ⟨h1, report, hr, h2, h3, _, ⟨h4, rfl⟩, h⟩
    exact ⟨report, hr, ⟨h1, h4⟩, h2, h3, h⟩
  · rintro ⟨report, hr, ⟨h1, h4⟩, h2, h3, h⟩
    exact ⟨h1, report, hr, h2, h3, _, ⟨h4, rfl⟩, h⟩

/-- The columns `adminPlaceCompletionHold` writes. -/
@[simp] def placeHoldData (reason : String) : Patch Report.id where
  apply r := { r with
    completionGovernanceHoldReason := some reason
    completionReviewState := some .governanceHold }

/-- `adminPlaceCompletionHold`. -/
def adminPlaceCompletionHold (reportId reason : String) (user : JwtUser) :
    Except HttpError (List Action) := do
  user.assertSuperAdmin
  let report ← getAdminGovernanceReport s reportId
  throwIf (report.status = .closed) (conflict "Reopen closed reports before placing hold")
  let reason ← requiredGovernanceReason reason
  throwIf (onHold report) (conflict "Report is already on governance hold")
  return [.update report.id none (placeHoldData reason)
    (recordGovernanceAction user "ADMIN_COMPLETION_HOLD_PLACED" reason "completion_governance_hold"
      "Report placed on governance hold" report)]

variable {cfg env s} in
theorem adminPlaceCompletionHold_eq_ok {reportId reason : String} {user : JwtUser}
    {actions : List Action} :
    adminPlaceCompletionHold s reportId reason user = .ok actions ↔
      ∃ report, s.report? reportId = some report ∧ GovernanceAllowed user reason ∧
        report.status ≠ .closed ∧ onHold report = false ∧
        [.update report.id none (placeHoldData (trim reason))
          (recordGovernanceAction user "ADMIN_COMPLETION_HOLD_PLACED"
          (trim reason) "completion_governance_hold"
            "Report placed on governance hold" report)] = actions := by
  simp only [adminPlaceCompletionHold, getAdminGovernanceReport, check_bind_eq_ok,
    JwtUser.assertSuperAdmin_eq_ok, orThrow_bind_eq_ok, throwIf_eq_ok,
    bind_eq_ok (x := requiredGovernanceReason _), requiredGovernanceReason_eq_ok, pure_eq_ok]
  constructor
  · rintro ⟨h1, report, hr, h2, _, ⟨h4, rfl⟩, h3, h⟩
    exact ⟨report, hr, ⟨h1, h4⟩, h2, by simpa using h3, h⟩
  · rintro ⟨report, hr, ⟨h1, h4⟩, h2, h3, h⟩
    exact ⟨h1, report, hr, h2, _, ⟨h4, rfl⟩, by simpa using h3, h⟩

/-- The columns `adminRemoveCompletionHold` writes. -/
@[simp] def removeHoldData (report : Report) : Patch Report.id where
  apply r := { r with
    completionGovernanceHoldReason := none
    completionReviewState := some (if report.status = .closed then .closed
      else reviewStateFor (policyForReport cfg report) report.citizenCompletionDecision
        report.organizationCompletionDecision) }

/-- `adminRemoveCompletionHold`. -/
def adminRemoveCompletionHold (reportId reason : String) (user : JwtUser) :
    Except HttpError (List Action) := do
  user.assertSuperAdmin
  let report ← getAdminGovernanceReport s reportId
  let reason ← requiredGovernanceReason reason
  throwIf (!onHold report) (conflict "Report is not on governance hold")
  return [.update report.id none (removeHoldData cfg report)
    (recordGovernanceAction user "ADMIN_COMPLETION_HOLD_REMOVED" reason
      "completion_governance_hold_removed"
      "Governance hold removed" report)]

variable {cfg env s} in
theorem adminRemoveCompletionHold_eq_ok {reportId reason : String} {user : JwtUser}
    {actions : List Action} :
    adminRemoveCompletionHold cfg s reportId reason user = .ok actions ↔
      ∃ report, s.report? reportId = some report ∧ GovernanceAllowed user reason ∧
        onHold report ∧
        [.update report.id none (removeHoldData cfg report)
          (recordGovernanceAction user "ADMIN_COMPLETION_HOLD_REMOVED" (trim reason)
            "completion_governance_hold_removed" "Governance hold removed" report)] = actions := by
  simp only [adminRemoveCompletionHold, getAdminGovernanceReport, check_bind_eq_ok,
    JwtUser.assertSuperAdmin_eq_ok, orThrow_bind_eq_ok, throwIf_eq_ok,
    bind_eq_ok (x := requiredGovernanceReason _), requiredGovernanceReason_eq_ok, pure_eq_ok]
  constructor
  · rintro ⟨h1, report, hr, _, ⟨h4, rfl⟩, h2, h⟩
    exact ⟨report, hr, ⟨h1, h4⟩, by simpa using h2, h⟩
  · rintro ⟨report, hr, ⟨h1, h4⟩, h2, h⟩
    exact ⟨h1, report, hr, _, ⟨h4, rfl⟩, by simpa using h2, h⟩

/-- The columns `adminReopenCompletion` writes. -/
@[simp] def reopenData (report : Report) : Patch Report.id where
  apply r := { r with
    status := .completedByProvider
    completionReviewState := some (reviewStateFor (policyForReport cfg report)
      report.citizenCompletionDecision report.organizationCompletionDecision) }

/-- `adminReopenCompletion`. -/
def adminReopenCompletion (reportId reason : String) (user : JwtUser) :
    Except HttpError (List Action) := do
  user.assertSuperAdmin
  let report ← getAdminGovernanceReport s reportId
  throwIf (report.status ≠ .closed) (conflict "Only closed reports can be reopened")
  let reason ← requiredGovernanceReason reason
  return [.update report.id none (reopenData cfg report)
    (recordGovernanceAction user "ADMIN_COMPLETION_REOPENED" reason "completion_governance_reopened"
      "Report reopened by governance" report)]

variable {cfg env s} in
theorem adminReopenCompletion_eq_ok {reportId reason : String} {user : JwtUser}
    {actions : List Action} :
    adminReopenCompletion cfg s reportId reason user = .ok actions ↔
      ∃ report, s.report? reportId = some report ∧ GovernanceAllowed user reason ∧
        report.status = .closed ∧
        [.update report.id none (reopenData cfg report)
          (recordGovernanceAction user "ADMIN_COMPLETION_REOPENED"
          (trim reason) "completion_governance_reopened"
            "Report reopened by governance" report)] = actions := by
  simp only [adminReopenCompletion, getAdminGovernanceReport, check_bind_eq_ok,
    JwtUser.assertSuperAdmin_eq_ok, orThrow_bind_eq_ok, throwIf_eq_ok,
    bind_eq_ok (x := requiredGovernanceReason _), requiredGovernanceReason_eq_ok, pure_eq_ok]
  constructor
  · rintro ⟨h1, report, hr, h2, _, ⟨h4, rfl⟩, h⟩
    exact ⟨report, hr, ⟨h1, h4⟩, by simpa using h2, h⟩
  · rintro ⟨report, hr, ⟨h1, h4⟩, h2, h⟩
    exact ⟨h1, report, hr, by simpa using h2, _, ⟨h4, rfl⟩, h⟩

/-- The columns `adminOverrideCompletionPolicy` writes. -/
@[simp] def overridePolicyData (policy : CompletionPolicy) (report : Report) : Patch Report.id where
  apply r := { r with
    completionPolicy := some policy
    completionPolicySource := some "SUPER_ADMIN_REPORT_OVERRIDE"
    completionReviewState := some (reviewStateFor policy report.citizenCompletionDecision
      report.organizationCompletionDecision) }

/-- `adminOverrideCompletionPolicy`. -/
def adminOverrideCompletionPolicy (reportId : String) (policy : CompletionPolicy) (reason : String)
    (user : JwtUser) : Except HttpError (List Action) := do
  user.assertSuperAdmin
  let report ← getAdminGovernanceReport s reportId
  let reason ← requiredGovernanceReason reason
  throwIf (report.status = .closed) (conflict "Reopen closed reports before overriding policy")
  throwIf (policyForReport cfg report = policy) (conflict "Report already uses this policy")
  return [.update report.id none (overridePolicyData policy report)
    (recordGovernanceAction user "ADMIN_COMPLETION_POLICY_OVERRIDDEN" reason
      "completion_policy_overridden"
      "Completion policy overridden" report)]

variable {cfg env s} in
theorem adminOverrideCompletionPolicy_eq_ok {reportId reason : String} {policy : CompletionPolicy}
    {user : JwtUser} {actions : List Action} :
    adminOverrideCompletionPolicy cfg s reportId policy reason user = .ok actions ↔
      ∃ report, s.report? reportId = some report ∧ GovernanceAllowed user reason ∧
        report.status ≠ .closed ∧ policyForReport cfg report ≠ policy ∧
        [.update report.id none (overridePolicyData policy report)
          (recordGovernanceAction user "ADMIN_COMPLETION_POLICY_OVERRIDDEN" (trim reason)
            "completion_policy_overridden" "Completion policy overridden" report)] = actions := by
  simp only [adminOverrideCompletionPolicy, getAdminGovernanceReport, check_bind_eq_ok,
    JwtUser.assertSuperAdmin_eq_ok, orThrow_bind_eq_ok, throwIf_eq_ok,
    bind_eq_ok (x := requiredGovernanceReason _), requiredGovernanceReason_eq_ok, pure_eq_ok]
  constructor
  · rintro ⟨h1, report, hr, _, ⟨h4, rfl⟩, h2, h3, h⟩
    exact ⟨report, hr, ⟨h1, h4⟩, h2, h3, h⟩
  · rintro ⟨report, hr, ⟨h1, h4⟩, h2, h3, h⟩
    exact ⟨h1, report, hr, _, ⟨h4, rfl⟩, h2, h3, h⟩

/-! ### Review deadlines -/

/-- `ProcessCompletionReviewDeadlinesDto`. -/
structure ProcessDeadlinesDto where
  limit : ℕ := 100
  dryRun : Bool := false
  reason : String := ""

/-- `orderBy: [{ completionReviewDeadlineAt: 'asc' }, { id: 'asc' }]`; the database sorts a
missing deadline last. -/
def deadlineBefore (a b : Report) : Bool :=
  match a.completionReviewDeadlineAt, b.completionReviewDeadlineAt with
  | some m, some n => m < n || (m = n && a.id ≤ b.id)
  | some _, none => true
  | none, some _ => false
  | none, none => a.id ≤ b.id

/-- The reports `processCompletionReviewDeadlines` looks at. -/
def deadlineCandidates (limit : ℕ) : List Report :=
  ((s.reports.rows.filter fun report =>
    report.completionPolicy = some .autoCloseAfterReviewWindow).insertionSort
    fun a b => deadlineBefore a b).take limit

/-- Whether the sweep closes a report it looks at. -/
def deadlineEligible (report : Report) : Bool :=
  report.completionReviewDeadlineAt.any (· ≤ env.now) &&
    completionDeadlineSkipReason report = none &&
    report.status = .completedByProvider

/-- The columns `processCompletionReviewDeadlines` writes. -/
@[simp] def deadlineCloseData (user : JwtUser) : Patch Report.id where
  apply r := { r with
    status := .closed
    completionReviewState := some .closed
    completionReviewProcessedAt := some env.now
    completionFallbackRule := some "AUTO_CLOSE_AFTER_REVIEW_WINDOW_DEADLINE_EXPIRED"
    completionFinalActorType := some "SYSTEM_REVIEW_WINDOW"
    completionFinalizedAt := some env.now
    completionFinalizedById := some user.getUserId
    completionFinalizedByRole := some user.role
    completionClosureReason := some ("Review window expired; fallback closure authority applied " ++
      "without recording citizen or organization approval.") }

/-- What follows the closure of a report whose review window is over. -/
def deadlineCloseEffects (user : JwtUser) (updated : Report) : List Effect :=
  notifyStatusChange updated ++
  [.activity { recordReportActivity user updated.id updated.organizationId
      "COMPLETION_REVIEW_WINDOW_FALLBACK_CLOSED" with
      fromStatus := some .completedByProvider
      toStatus := some .closed
      providerId := updated.assignedProviderId
      reason := updated.completionClosureReason }]

/-- `processCompletionReviewDeadlines`: the eligible reports, as they were read, are closed one
after the other, each on condition that it still is completed by its provider. -/
def processCompletionReviewDeadlines (dto : ProcessDeadlinesDto) (user : JwtUser) :
    Except HttpError (List Action) := do
  throwIf (user.role ∉ [UserRole.superAdmin, .complianceAdmin, .regulatoryAdmin])
    (forbidden "Platform completion processing required")
  if dto.dryRun then
    return []
  let _ ← requiredGovernanceReason dto.reason
  return ((deadlineCandidates s dto.limit).filter (deadlineEligible env)).map fun report =>
    .update report.id (some .completedByProvider) (deadlineCloseData env user)
      (deadlineCloseEffects user)

variable {env s} in
theorem processCompletionReviewDeadlines_eq_ok {dto : ProcessDeadlinesDto} {user : JwtUser}
    {actions : List Action} :
    processCompletionReviewDeadlines env s dto user = .ok actions ↔
      (user.role = .superAdmin ∨ user.role = .complianceAdmin ∨ user.role = .regulatoryAdmin) ∧
        (dto.dryRun ∧ [] = actions ∨
          dto.dryRun = false ∧ trim dto.reason ≠ "" ∧
            (((deadlineCandidates s dto.limit).filter (deadlineEligible env)).map fun report =>
              Action.update report.id (some .completedByProvider) (deadlineCloseData env user)
                (deadlineCloseEffects user)) = actions) := by
  unfold processCompletionReviewDeadlines
  rw [throwIf_bind_eq_ok]
  refine and_congr (by simp [or_iff_not_imp_left]) ?_
  by_cases hdry : dto.dryRun
  · rw [if_pos hdry, pure_eq_ok]
    simp [hdry]
  · rw [if_neg hdry]
    simp only [bind_eq_ok (x := requiredGovernanceReason _),
      requiredGovernanceReason_eq_ok, pure_eq_ok]
    simp [hdry]

end FixZone.ReportService
