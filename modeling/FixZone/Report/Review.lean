import FixZone.Report.Assignment

/-!
# Review of completed work

The decisions of the citizen and of the organization on a completed report. Each
method reads the report, checks who asks and what has been decided, and writes the
decision together with the status that follows from it.
-/

namespace FixZone.ReportService

open Library Organization

variable (cfg : Config) (env : Env) (s : Store)

/-! ### The report under review -/

/-- `getCitizenReviewReport`. -/
def getCitizenReviewReport (reportId : String) (user : JwtUser) : Except HttpError Report := do
  throwIf (user.role ≠ .citizen) (forbidden "Only citizens can review completion")
  let report ← orThrow (s.report? reportId) (notFound "Report not found")
  throwIf (report.citizenId ≠ user.getUserId) (forbidden "Not your report")
  throwIf (report.status ≠ .completedByProvider ∧
      ¬(report.status = .closed ∧ report.citizenCompletionDecision = some .confirmed))
    (forbidden "Report is not awaiting citizen review")
  return report

/-- `getOrganizationCompletionReviewReport`, with the options the two methods below call it with. -/
def getOrganizationCompletionReviewReport (reportId : String) (user : JwtUser) :
    Except HttpError Report := do
  throwIf (!user.isAdmin && !user.isDispatch) (forbidden "Only organization operators can verify")
  let organizationId ← user.requireUserOrganizationId
  let report ← orThrow (s.report? reportId) (notFound "Report not found")
  throwIf (report.organizationId ≠ organizationId)
    (forbidden "Organization cannot verify this report")
  throwIf (report.status ≠ .completedByProvider ∧
      ¬(report.status = .closed ∧ report.organizationCompletionDecision = some .verified))
    (forbidden "Report is not awaiting completion verification")
  return report

/-- When the citizen has a report to review. -/
structure CitizenReviews (user : JwtUser) (report : Report) : Prop where
  role : user.role = .citizen
  own : report.citizenId = user.id
  completed : report.status = .completedByProvider ∨
    report.status = .closed ∧ report.citizenCompletionDecision = some .confirmed

/-- When an operator of the organization has a report to review. -/
structure OrganizationReviews (user : JwtUser) (report : Report) : Prop where
  role : user.isAdmin ∨ user.isDispatch
  organization : user.organizationId = some report.organizationId
  organization_ne : report.organizationId ≠ ""
  completed : report.status = .completedByProvider ∨
    report.status = .closed ∧ report.organizationCompletionDecision = some .verified

variable {s} in
theorem getCitizenReviewReport_eq_ok {reportId : String} {user : JwtUser} {report : Report} :
    getCitizenReviewReport s reportId user = .ok report ↔
      s.report? reportId = some report ∧ CitizenReviews user report := by
  simp only [getCitizenReviewReport, throwIf_bind_eq_ok, orThrow_bind_eq_ok, pure_eq_ok]
  constructor
  · rintro ⟨h1, r, hr, h2, h3, rfl⟩
    exact ⟨hr, by grind, by grind, by grind⟩
  · rintro ⟨hr, h1, h2, h3⟩
    exact ⟨by grind, report, hr, by grind, by grind, rfl⟩

variable {s} in
theorem getOrganizationCompletionReviewReport_eq_ok {reportId : String} {user : JwtUser}
    {report : Report} :
    getOrganizationCompletionReviewReport s reportId user = .ok report ↔
      s.report? reportId = some report ∧ OrganizationReviews user report := by
  unfold getOrganizationCompletionReviewReport
  rw [throwIf_bind_eq_ok, bind_eq_ok]
  simp only [throwIf_bind_eq_ok, orThrow_bind_eq_ok, pure_eq_ok,
    JwtUser.requireUserOrganizationId_eq_ok]
  constructor
  · rintro ⟨h1, organizationId, ⟨horg, hne⟩, r, hr, h2, h3, rfl⟩
    exact ⟨hr, by grind, by grind, by grind, by grind⟩
  · rintro ⟨hr, h1, h2, h3, h4⟩
    exact ⟨by grind, report.organizationId, ⟨h2, h3⟩, report, hr, by grind, by grind, rfl⟩

/-- `notifyAuthoritativeCompletionClosure`. -/
def notifyAuthoritativeCompletionClosure (report : Report) : List Effect :=
  notifyStatusChange report ++
  (if truthy report.assignedProviderId then
    [.notification
      { userId := report.assignedProviderId.getD "", reportId := report.id, type := "completion_confirmed",
        title := "Completion confirmed",
        message := "Completion for " ++ quoted report.title ++
          " has been confirmed and the report is closed." }]
  else [])

/-! ### Confirmation -/

/-- `CitizenConfirmCompletionDto`. -/
structure CitizenConfirmCompletionDto where
  rating : ℕ
  feedback : Option String := none

/-- The organization's decision as a confirmation counts it. -/
def countedOrganizationDecision (report : Report) : Option CompletionDecision :=
  some (report.organizationCompletionDecision.getD .pending)

/-- `closes`, of a confirmation by the citizen. -/
def confirmCloses (report : Report) : Bool :=
  isCompletionSatisfied (policyForReport cfg report) (some .confirmed)
    (countedOrganizationDecision report)

/-- The columns `confirmCitizenCompletion` writes. -/
@[simp] def confirmData (user : JwtUser) (dto : CitizenConfirmCompletionDto) (report : Report) :
    Patch Report.id where
  apply r :=
    let closes := confirmCloses cfg report
    { r with
      status := if closes then .closed else .completedByProvider
      citizenRating := some dto.rating
      citizenFeedback := trimmedOrNull dto.feedback
      citizenCompletionDecision := some .confirmed
      citizenCompletionDecidedAt := some env.now
      completionRejectionReason := none
      completionReviewState := some (if closes then .closed
        else reviewStateFor (policyForReport cfg report) (some .confirmed)
          (countedOrganizationDecision report))
      completionFinalizedAt := if closes then some env.now else none
      completionFinalizedById := if closes then some user.getUserId else none
      completionFinalizedByRole := if closes then some user.role else none
      completionClosureReason :=
        if closes then some "Citizen confirmation satisfied completion policy." else none }

/-- What follows `confirmCitizenCompletion`. -/
def confirmEffects (user : JwtUser) (dto : CitizenConfirmCompletionDto) (report updated : Report) :
    List Effect :=
  let closes := confirmCloses cfg report
  (if closes then notifyAuthoritativeCompletionClosure updated
  else [.operators updated.organizationId
      { reportId := report.id, type := "citizen_completion_confirmed",
        title := "Citizen confirmed completion",
        message := "Citizen confirmed " ++ quoted updated.title ++
          ". Organization verification is still required." }]) ++
  [.activity { recordReportActivity user report.id updated.organizationId
    "CITIZEN_CONFIRMED_COMPLETION" with
      fromStatus := some report.status
      toStatus := some updated.status
      providerId := updated.assignedProviderId
      note := trimmedOrNull dto.feedback }] ++
  (if closes then [.workflow .citizenConfirmedCompletion] else [])

/-- `confirmCitizenCompletion`; a confirmation that is recorded already is answered with
the report as it is. -/
def confirmCitizenCompletion (reportId : String) (dto : CitizenConfirmCompletionDto)
    (user : JwtUser) : Except HttpError (List Action) := do
  let report ← getCitizenReviewReport s reportId user
  if report.citizenCompletionDecision = some .confirmed then
    return []
  assertNoActiveCompletionBlockers report
  return [.update report.id none (confirmData cfg env user dto report)
    (confirmEffects cfg user dto report)]

variable {cfg env s} in
theorem confirmCitizenCompletion_eq_ok {reportId : String} {dto : CitizenConfirmCompletionDto}
    {user : JwtUser} {actions : List Action} :
    confirmCitizenCompletion cfg env s reportId dto user = .ok actions ↔
      ∃ report, s.report? reportId = some report ∧ CitizenReviews user report ∧
        (report.citizenCompletionDecision = some .confirmed ∧ [] = actions ∨
          report.citizenCompletionDecision ≠ some .confirmed ∧ Unblocked report ∧
            [.update report.id none (confirmData cfg env user dto report)
              (confirmEffects cfg user dto report)] = actions) := by
  unfold confirmCitizenCompletion
  simp only [bind_eq_ok (x := getCitizenReviewReport _ _ _),
    getCitizenReviewReport_eq_ok, and_assoc]
  refine exists_congr fun report => and_congr_right fun _ => and_congr_right fun _ => ?_
  by_cases hdone : report.citizenCompletionDecision = some .confirmed
  · rw [if_pos hdone, pure_eq_ok]
    grind
  · rw [if_neg hdone, check_bind_eq_ok, assertNoActiveCompletionBlockers_eq_ok, pure_eq_ok]
    grind

/-- The columns `rejectCitizenCompletion` writes. -/
@[simp] def rejectCompletionData (reason : String) : Patch Report.id where
  apply r := { r with
    status := .assigned
    completionRejectionReason := some reason
    citizenCompletionDecision := some .reworkRequested
    citizenCompletionDecidedAt := some env.now
    completionReviewState := some .reworkRequested
    completionDisputeReason := some reason }

/-- What follows `rejectCitizenCompletion`. -/
def rejectCompletionEffects (user : JwtUser) (reason : String) (report updated : Report) :
    List Effect :=
  notifyStatusChange updated ++
  [.activity { recordReportActivity user report.id updated.organizationId
    "CITIZEN_MARKED_WORK_INCOMPLETE" with
      fromStatus := some report.status
      toStatus := some updated.status
      providerId := updated.assignedProviderId
      reason := some reason },
    .operators updated.organizationId
      { reportId := report.id, type := "completion_review_requested", title := "Citizen requested review",
        message := "Citizen marked " ++ quoted updated.title ++ " as still incomplete." },
    .workflow (.citizenRejectedCompletion report.id updated.organizationId
      updated.assignedProviderId)]

/-- `rejectCitizenCompletion`. -/
def rejectCitizenCompletion (reportId reason : String) (user : JwtUser) :
    Except HttpError (List Action) := do
  let report ← getCitizenReviewReport s reportId user
  assertCitizenCanRequestCompletionRework report
  let reason ← requiredGovernanceReason reason
  return [.update report.id none (rejectCompletionData env reason)
    (rejectCompletionEffects user reason report)]

variable {env s} in
theorem rejectCitizenCompletion_eq_ok {reportId reason : String} {user : JwtUser}
    {actions : List Action} :
    rejectCitizenCompletion env s reportId reason user = .ok actions ↔
      ∃ report, s.report? reportId = some report ∧ CitizenReviews user report ∧
        report.citizenCompletionDecision ≠ some .confirmed ∧
        report.citizenCompletionDecision ≠ some .reworkRequested ∧ trim reason ≠ "" ∧
        [.update report.id none (rejectCompletionData env (trim reason))
          (rejectCompletionEffects user (trim reason) report)] = actions := by
  unfold rejectCitizenCompletion
  simp only [bind_eq_ok (x := getCitizenReviewReport _ _ _),
    getCitizenReviewReport_eq_ok, and_assoc, assertCitizenCanRequestCompletionRework, bind_assoc,
    check_bind_eq_ok, throwIf_eq_ok, bind_eq_ok (x := requiredGovernanceReason _),
    requiredGovernanceReason_eq_ok, pure_eq_ok]
  grind

/-! ### Verification -/

/-- The citizen's decision as a verification counts it. -/
def countedCitizenDecision (report : Report) : Option CompletionDecision :=
  some (report.citizenCompletionDecision.getD .pending)

/-- `closes`, of a verification by the organization. -/
def verifyCloses (report : Report) : Bool :=
  isCompletionSatisfied (policyForReport cfg report) (countedCitizenDecision report)
    (some .verified)

/-- The columns `verifyOrganizationCompletion` writes. -/
@[simp] def verifyData (user : JwtUser) (reason : Option String) (report : Report) :
    Patch Report.id where
  apply r :=
    let closes := verifyCloses cfg report
    { r with
      status := if closes then .closed else .completedByProvider
      organizationCompletionDecision := some .verified
      organizationCompletionDecidedAt := some env.now
      organizationCompletionDecidedById := some user.getUserId
      organizationCompletionReason := trimmedOrNull reason
      completionReviewState := some (if closes then .closed
        else reviewStateFor (policyForReport cfg report) (countedCitizenDecision report)
          (some .verified))
      completionFinalizedAt := if closes then some env.now else none
      completionFinalizedById := if closes then some user.getUserId else none
      completionFinalizedByRole := if closes then some user.role else none
      completionClosureReason :=
        if closes then
          some ((trimmedOrNull reason).getD
            "Organization verification satisfied completion policy.")
        else none }

/-- What follows `verifyOrganizationCompletion`. -/
def verifyEffects (user : JwtUser) (reason : Option String) (report updated : Report) :
    List Effect :=
  (if verifyCloses cfg report then notifyAuthoritativeCompletionClosure updated
  else [.notification
      { userId := updated.citizenId, reportId := report.id, type := "organization_completion_verified",
        title := "Organization verified completion",
        message := "Organization verified " ++ quoted updated.title ++
          ". Your confirmation is still required." }]) ++
  [.activity { recordReportActivity user report.id updated.organizationId
      "ORGANIZATION_VERIFIED_COMPLETION" with
      fromStatus := some report.status
      toStatus := some updated.status
      providerId := updated.assignedProviderId
      reason := trimmedOrNull reason }]

/-- `verifyOrganizationCompletion`. -/
def verifyOrganizationCompletion (reportId : String) (reason : Option String) (user : JwtUser) :
    Except HttpError (List Action) := do
  let report ← getOrganizationCompletionReviewReport s reportId user
  if report.organizationCompletionDecision = some .verified then
    return []
  assertNoActiveCompletionBlockers report
  throwIf (policyForReport cfg report = .adminResolutionRequired)
    (forbidden "This completion requires platform resolution.")
  return [.update report.id none (verifyData cfg env user reason report)
    (verifyEffects cfg user reason report)]

variable {cfg env s} in
theorem verifyOrganizationCompletion_eq_ok {reportId : String} {reason : Option String}
    {user : JwtUser} {actions : List Action} :
    verifyOrganizationCompletion cfg env s reportId reason user = .ok actions ↔
      ∃ report, s.report? reportId = some report ∧ OrganizationReviews user report ∧
        (report.organizationCompletionDecision = some .verified ∧ [] = actions ∨
          report.organizationCompletionDecision ≠ some .verified ∧ Unblocked report ∧
            policyForReport cfg report ≠ .adminResolutionRequired ∧
            [.update report.id none (verifyData cfg env user reason report)
              (verifyEffects cfg user reason report)] = actions) := by
  unfold verifyOrganizationCompletion
  simp only [bind_eq_ok (x := getOrganizationCompletionReviewReport _ _ _),
    getOrganizationCompletionReviewReport_eq_ok, and_assoc]
  refine exists_congr fun report => and_congr_right fun _ => and_congr_right fun _ => ?_
  by_cases hdone : report.organizationCompletionDecision = some .verified
  · rw [if_pos hdone, pure_eq_ok]
    grind
  · rw [if_neg hdone, check_bind_eq_ok, assertNoActiveCompletionBlockers_eq_ok,
      throwIf_bind_eq_ok, pure_eq_ok]
    grind

/-- The columns `requestOrganizationCompletionRework` writes. -/
@[simp] def requestReworkData (user : JwtUser) (reason : String) : Patch Report.id where
  apply r := { r with
    status := .assigned
    organizationCompletionDecision := some .reworkRequested
    organizationCompletionDecidedAt := some env.now
    organizationCompletionDecidedById := some user.getUserId
    organizationCompletionReason := some reason
    completionRejectionReason := some reason
    completionReviewState := some .reworkRequested
    completionDisputeReason := some reason }

/-- What follows `requestOrganizationCompletionRework`. -/
def requestReworkEffects (user : JwtUser) (reason : String) (report updated : Report) :
    List Effect :=
  let notice userId : Notification :=
    { userId, reportId := report.id, type := "completion_rework_requested",
      title := "Completion rework requested",
      message := "Organization requested rework on " ++ quoted updated.title ++ "." }
  (if truthy updated.assignedProviderId then
    [.notification (notice (updated.assignedProviderId.getD ""))] else []) ++
  [.notification (notice updated.citizenId),
    .activity { recordReportActivity user report.id updated.organizationId
      "ORGANIZATION_REQUESTED_COMPLETION_REWORK" with
      fromStatus := some report.status
      toStatus := some updated.status
      providerId := updated.assignedProviderId
      reason := some reason }]

/-- `requestOrganizationCompletionRework`. -/
def requestOrganizationCompletionRework (reportId reason : String) (user : JwtUser) :
    Except HttpError (List Action) := do
  let report ← getOrganizationCompletionReviewReport s reportId user
  assertOrganizationCanRequestCompletionRework report
  let reason ← requiredGovernanceReason reason
  return [.update report.id none (requestReworkData env user reason)
    (requestReworkEffects user reason report)]

variable {env s} in
theorem requestOrganizationCompletionRework_eq_ok {reportId reason : String} {user : JwtUser}
    {actions : List Action} :
    requestOrganizationCompletionRework env s reportId reason user = .ok actions ↔
      ∃ report, s.report? reportId = some report ∧ OrganizationReviews user report ∧
        report.organizationCompletionDecision ≠ some .verified ∧
        report.organizationCompletionDecision ≠ some .reworkRequested ∧ trim reason ≠ "" ∧
        [.update report.id none (requestReworkData env user (trim reason))
          (requestReworkEffects user (trim reason) report)] = actions := by
  unfold requestOrganizationCompletionRework
  simp only [bind_eq_ok (x := getOrganizationCompletionReviewReport _ _ _),
    getOrganizationCompletionReviewReport_eq_ok, and_assoc,
    assertOrganizationCanRequestCompletionRework, bind_assoc, check_bind_eq_ok, throwIf_eq_ok,
    bind_eq_ok (x := requiredGovernanceReason _), requiredGovernanceReason_eq_ok, pure_eq_ok]
  grind

end FixZone.ReportService
