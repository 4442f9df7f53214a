import FixZone.Report.Trail

/-!
# Who sees a report and its evidence

`getReportById` and `assertCanAccessEvidence` decide by role, status and organization, the
first from the token of the caller and the second from the account behind it. Each is met
by a list of the users it lets through, `SeesReport` and `OpensEvidence`, and
`opensUnseen_iff` says who opens the evidence of a report that they are not shown.
-/

namespace FixZone.ReportService

open Library

variable (env : Env) (s : Store)

/-- `getReportById`, the details it adds apart. -/
def getReportById (reportId : String) (user : JwtUser) : Except HttpError Report := do
  let report ← orThrow (s.report? reportId) (notFound "Report not found")
  if user.isSuperAdmin then
    return report
  let sameOrg := truthy user.organizationId && some report.organizationId = user.organizationId
  let assignedReviewOrg := truthy user.organizationId &&
    report.assignedOrganizationId = user.organizationId && report.status = .orgReview
  if report.citizenId = user.getUserId then
    return report
  if report.assignedProviderId = some user.getUserId && user.isProvider then
    return report
  if (user.isAdmin || user.isDispatch) && (sameOrg || assignedReviewOrg) &&
      report.status ≠ .triage then
    return report
  .error (forbidden "Access denied")

/-- `assertCanAccessEvidence`. -/
def assertCanAccessEvidence (report : Report) (user : JwtUser) : Except HttpError PUnit := do
  let activeUser ← orThrow ((env.user? user.getUserId).filter (·.accountStatus = .active))
    (forbidden "Evidence not available")
  if user.isSuperAdmin then
    return
  if user.role = .citizen && report.citizenId = user.getUserId then
    return
  if user.isProvider then
    if report.assignedProviderId = some user.getUserId ||
        report.lastAssignmentProviderId = some user.getUserId then
      return
    assertProviderCanAccessReport env user report
  let sameOrg := truthy activeUser.organizationId &&
    activeUser.organizationId = some report.organizationId
  let assignedReviewOrg := truthy activeUser.organizationId &&
    activeUser.organizationId = report.assignedOrganizationId
  if (user.isAdmin || user.isDispatch) && (sameOrg || assignedReviewOrg) then
    return
  .error (forbidden "Evidence not available")

/-- The operators of an organization see its reports once they are out of triage, and those that
are under its review. -/
structure OperatorSees (user : JwtUser) (report : Report) : Prop where
  operator : user.isAdmin ∨ user.isDispatch
  organization : truthy user.organizationId
  routed : some report.organizationId = user.organizationId ∨
    report.assignedOrganizationId = user.organizationId ∧ report.status = .orgReview
  past : report.status ≠ .triage

/-- Who may read a report. -/
inductive SeesReport (user : JwtUser) (report : Report) : Prop where
  | superAdmin : user.isSuperAdmin → SeesReport user report
  | citizen : report.citizenId = user.id → SeesReport user report
  | provider : report.assignedProviderId = some user.id → user.isProvider → SeesReport user report
  | operator : OperatorSees user report → SeesReport user report

variable {env s} {user : JwtUser}

theorem getReportById_eq_ok {reportId : String} {report : Report} :
    getReportById s reportId user = .ok report ↔
      s.report? reportId = some report ∧ SeesReport user report := by
  unfold getReportById
  rw [orThrow_bind_eq_ok]
  constructor
  · rintro ⟨r, hrow, h⟩
    dsimp only at h
    split_ifs at h with hsuper hcitizen hprovider hoperator
    · obtain rfl := pure_eq_ok.mp h
      exact ⟨hrow, .superAdmin hsuper⟩
    · obtain rfl := pure_eq_ok.mp h
      exact ⟨hrow, .citizen hcitizen⟩
    · obtain rfl := pure_eq_ok.mp h
      exact ⟨hrow, by grind [SeesReport.provider]⟩
    · obtain rfl := pure_eq_ok.mp h
      refine ⟨hrow, .operator ⟨?_, ?_, ?_, ?_⟩⟩ <;> grind
  · rintro ⟨hrow, hsees⟩
    refine ⟨report, hrow, ?_⟩
    dsimp only
    split_ifs with hsuper hcitizen hprovider hoperator
    all_goals try rfl
    cases hsees with
    | superAdmin h => exact absurd h hsuper
    | citizen h => exact absurd h hcitizen
    | provider h1 h2 => exact absurd (by simp [h1, h2]) hprovider
    | operator h =>
      obtain ⟨h1, h2, h3, h4⟩ := h
      refine absurd ?_ hoperator
      grind

/-- Who may open the evidence of a report: the account has to be active. -/
structure OpensEvidence (env : Env) (user : JwtUser) (report : Report) (account : User) :
    Prop where
  found : env.user? user.id = some account
  active : account.accountStatus = .active
  entitled :
    user.isSuperAdmin ∨ user.role = .citizen ∧ report.citizenId = user.id ∨
      user.isProvider ∧ (report.assignedProviderId = some user.id ∨
        report.lastAssignmentProviderId = some user.id) ∨
      (user.isAdmin ∨ user.isDispatch) ∧ truthy account.organizationId ∧
        (account.organizationId = some report.organizationId ∨
          account.organizationId = report.assignedOrganizationId)

theorem assertCanAccessEvidence_eq_ok {report : Report} {u : PUnit} :
    assertCanAccessEvidence env report user = .ok u ↔
      ∃ account, OpensEvidence env user report account := by
  unfold assertCanAccessEvidence
  rw [orThrow_bind_eq_ok]
  constructor
  · rintro ⟨account, haccount, h⟩
    obtain ⟨haccount, hactive⟩ := Option.filter_eq_some_iff.mp haccount
    refine ⟨account, haccount, by simpa using hactive, ?_⟩
    dsimp only at h
    split_ifs at h with hsuper hcitizen hprovider hassigned hoperator hoperator
    · exact .inl hsuper
    · exact .inr (.inl (by grind))
    · exact .inr (.inr (.inl ⟨hprovider, by grind⟩))
    · exact .inr (.inr (.inr (by grind)))
    · obtain ⟨_, -, h⟩ := bind_eq_ok.mp h
      cases h
    · exact .inr (.inr (.inr (by grind)))
  · rintro ⟨account, hfound, hactive, hentitled⟩
    refine ⟨account, Option.filter_eq_some_iff.mpr ⟨hfound, by simpa using hactive⟩, ?_⟩
    dsimp only
    split_ifs with hsuper hcitizen hprovider hassigned hoperator hoperator
    all_goals try rfl
    · grind [JwtUser.isProvider, JwtUser.isAdmin, JwtUser.isDispatch]
    · grind [JwtUser.isProvider, JwtUser.isAdmin, JwtUser.isDispatch]
    · grind

/-- The account of the caller is in the organization the token names, as `JwtStrategy` makes it. -/
def SignedIn (env : Env) (user : JwtUser) : Prop :=
  ∀ account, env.user? user.id = some account → account.organizationId = user.organizationId

/-- Whose role and organization let them open the evidence of a report, and not read the report: the
provider who had it last, and the operators of its organization while it is in triage, or of the
organization it is assigned to while that is not reviewing it. -/
inductive EvidenceOnly (user : JwtUser) (report : Report) : Prop where
  | formerProvider : user.isProvider → report.lastAssignmentProviderId = some user.id →
      report.assignedProviderId ≠ some user.id → EvidenceOnly user report
  | triage : user.isAdmin ∨ user.isDispatch → truthy user.organizationId →
      some report.organizationId = user.organizationId → report.status = .triage →
      EvidenceOnly user report
  | notReviewing : user.isAdmin ∨ user.isDispatch → truthy user.organizationId →
      report.assignedOrganizationId = user.organizationId →
      some report.organizationId ≠ user.organizationId → report.status ≠ .orgReview →
      EvidenceOnly user report

/-- Who opens the evidence of a report without being shown the report. -/
structure OpensUnseen (env : Env) (user : JwtUser) (report : Report) : Prop where
  active : ∃ account, env.user? user.id = some account ∧ account.accountStatus = .active
  not_citizen : report.citizenId ≠ user.id
  entitled : EvidenceOnly user report

theorem EvidenceOnly.not_sees {report : Report} (h : EvidenceOnly user report)
    (hcitizen : report.citizenId ≠ user.id) : ¬ SeesReport user report := by
  have hroles : ¬(user.isSuperAdmin ∧ (user.isProvider ∨ user.isAdmin ∨ user.isDispatch)) ∧
      ¬(user.isProvider ∧ (user.isAdmin ∨ user.isDispatch)) := by
    unfold JwtUser.isSuperAdmin JwtUser.isProvider JwtUser.isAdmin JwtUser.isDispatch
    cases user.role <;> decide
  intro hsees
  cases hsees with
  | superAdmin hsuper => cases h <;> tauto
  | citizen h => exact hcitizen h
  | provider hassigned hprovider => cases h <;> tauto
  | operator hsees =>
    have hoperator := hsees.operator
    cases h with
    | formerProvider hprovider => tauto
    | triage _ _ _ htriage => exact hsees.past htriage
    | notReviewing _ _ _ helsewhere hreview =>
      exact hsees.routed.elim helsewhere fun h => hreview h.2

/-- Who opens the evidence of a report and is not shown it is an active user, other than the
citizen, of the kinds of `EvidenceOnly`. -/
theorem opensUnseen_iff {report : Report} (hsigned : SignedIn env user) :
    assertCanAccessEvidence env report user = .ok ⟨⟩ ∧ ¬ SeesReport user report ↔
      OpensUnseen env user report := by
  rw [assertCanAccessEvidence_eq_ok]
  constructor
  · rintro ⟨⟨account, hfound, hactive, hentitled⟩, hunseen⟩
    refine ⟨⟨account, hfound, hactive⟩, fun h => hunseen (.citizen h), ?_⟩
    rcases hentitled with hsuper | ⟨-, hcitizen⟩ | ⟨hprovider, hassigned⟩ |
      ⟨hoperator, htruthy, hrouted⟩
    · exact absurd (.superAdmin hsuper) hunseen
    · exact absurd (.citizen hcitizen) hunseen
    · have hother : report.assignedProviderId ≠ some user.id :=
        fun hown => hunseen (.provider hown hprovider)
      exact .formerProvider hprovider (hassigned.resolve_left hother) hother
    · rw [hsigned account hfound] at htruthy hrouted
      by_cases hsame : some report.organizationId = user.organizationId
      · refine .triage hoperator htruthy hsame ?_
        by_contra htriage
        exact hunseen (.operator ⟨hoperator, htruthy, .inl hsame, htriage⟩)
      · have hassigned := (hrouted.resolve_left (Ne.symm hsame)).symm
        refine .notReviewing hoperator htruthy hassigned hsame fun hreview => ?_
        exact hunseen (.operator ⟨hoperator, htruthy, .inr ⟨hassigned, hreview⟩, by simp [hreview]⟩)
  · rintro ⟨⟨account, hfound, hactive⟩, hcitizen, hentitled⟩
    refine ⟨⟨account, hfound, hactive, ?_⟩, hentitled.not_sees hcitizen⟩
    rw [hsigned account hfound]
    cases hentitled with
    | formerProvider hprovider hlast => exact .inr (.inr (.inl ⟨hprovider, .inr hlast⟩))
    | triage hoperator htruthy hsame =>
      exact .inr (.inr (.inr ⟨hoperator, htruthy, .inl hsame.symm⟩))
    | notReviewing hoperator htruthy hassigned =>
      exact .inr (.inr (.inr ⟨hoperator, htruthy, .inr hassigned.symm⟩))

end FixZone.ReportService
