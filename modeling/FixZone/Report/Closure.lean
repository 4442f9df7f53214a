import FixZone.Library.Run
import FixZone.Report.Change

/-!
# How reports are closed, and whether they stay so

A report may be closed by the decisions its completion policy asks for, by the platform,
or by the end of its review window. `updateStatus` is a fourth way, which looks at none
of this: `closure_sound_iff` says that along a run every closing step is one of the
three sanctioned ones exactly when no operator closes a completed report by a status
update.

A closed report is to stay as it is until it is reopened. Cancelling or reassigning the
provider of a closed report undoes the closure: `closed_terminal_iff` says that along a
run closed reports stay closed exactly when nobody does this.
-/

namespace FixZone.ReportService

open Library Organization

variable {cfg : Config} {env : Env} {s : Store} {user : JwtUser} {event : Event}

/-! ### Closing steps -/

/-- The step moves the report `id` from another status to `CLOSED`. -/
structure Closes (cfg : Config) (s : Store) (event : Event) (id : String)
    (r r' : Report) : Prop where
  before : s.report? id = some r
  notClosed : r.status ≠ .closed
  after : (step cfg event s).report? id = some r'
  closed : r'.status = .closed

/-- The ways in which a report may be closed. -/
inductive SoundClosure (cfg : Config) (event : Event) (r r' : Report) : Prop where
  | confirmed {dto : CitizenConfirmCompletionDto} :
      event.request = .call (.confirmCitizenCompletion r.id dto) →
      Unblocked r →
      isCompletionSatisfied
        (policyForReport cfg r') r'.citizenCompletionDecision r'.organizationCompletionDecision →
      SoundClosure cfg event r r'
  | verified {reason : Option String} :
      event.request = .call (.verifyOrganizationCompletion r.id reason) →
      Unblocked r →
      isCompletionSatisfied
        (policyForReport cfg r') r'.citizenCompletionDecision r'.organizationCompletionDecision →
      SoundClosure cfg event r r'
  | resolved {reason : String} : event.request = .call (.adminResolveAndClose r.id reason) →
      onHold r = false →
      SoundClosure cfg event r r'
  | windowOver {dto : ProcessDeadlinesDto} :
      event.request = .call (.processCompletionReviewDeadlines dto) →
      r.status = .completedByProvider → policyForReport cfg r = .autoCloseAfterReviewWindow →
      (∃ deadline, r.completionReviewDeadlineAt = some deadline ∧ deadline ≤ event.env.now) →
        Unblocked r →
      SoundClosure cfg event r r'

/-- An operator of the report's organization, or a super admin, closes a completed report by
`updateStatus`. -/
structure ClosedByStatusUpdate (s : Store) (event : Event) (r : Report)
    (dto : UpdateReportStatusDto) : Prop where
  request : event.request = .call (.updateStatus r.id dto)
  next : dto.status = .closed
  before : s.report? r.id = some r
  completed : r.status = .completedByProvider
  authority : (event.user.role = .orgAdmin ∨ event.user.role = .dispatchOfficer) ∧
      some r.organizationId = event.user.organizationId ∨ event.user.role = .superAdmin

/-- `closes` is that the policy is satisfied with the confirmation. -/
theorem confirmCloses_eq (cfg : Config) (r : Report) :
    confirmCloses cfg r =
      isCompletionSatisfied (policyForReport cfg r)
      (some .confirmed) r.organizationCompletionDecision := by
  unfold confirmCloses countedOrganizationDecision
  cases r.organizationCompletionDecision <;> cases policyForReport cfg r <;>
    simp [isCompletionSatisfied]

/-- `closes` is that the policy is satisfied with the verification. -/
theorem verifyCloses_eq (cfg : Config) (r : Report) :
    verifyCloses cfg r =
      isCompletionSatisfied (policyForReport cfg r) r.citizenCompletionDecision
      (some .verified) := by
  unfold verifyCloses countedCitizenDecision
  cases r.citizenCompletionDecision <;> cases policyForReport cfg r <;> simp [isCompletionSatisfied]

/-- What makes a candidate of the deadline sweep eligible. -/
theorem deadlineEligible_iff {r : Report} :
    deadlineEligible env r ↔
      (∃ deadline, r.completionReviewDeadlineAt = some deadline ∧ deadline ≤ env.now) ∧
      Unblocked r ∧ r.completionReviewProcessedAt = none ∧ r.status = .completedByProvider := by
  simp only [deadlineEligible, Bool.and_eq_true, decide_eq_true_eq,
    completionDeadlineSkipReason_eq_none, Option.any_eq_true, and_assoc]

theorem policyForReport_of_some (cfg : Config) {r : Report} {policy : CompletionPolicy}
    (h : r.completionPolicy = some policy) :
    policyForReport cfg r = policy := by
  simp [policyForReport, h]

/-- A call that closes a report does it in one of the sanctioned ways or by a status update. -/
theorem change_closed {call : Call} {r r' : Report} (hrequest : event.request = .call call)
    (h : Change cfg event.env s event.user call r r') (hopen : r.status ≠ .closed)
    (hclosed : r'.status = .closed) (hrow : s.report? r.id = some r) :
    SoundClosure cfg event r r' ∨ ∃ dto, ClosedByStatusUpdate s event r dto := by
  cases h with
  | @updateStatus _ dto hlate hready hallowed hc =>
    have hnext : dto.status = .closed := hclosed
    refine .inr ⟨dto, hrequest, hnext, hrow, ?_, ?_⟩
    · exact canTransitionReportStatus_closed.mp (hnext ▸ hallowed.transition)
    · rcases hallowed.authority with ⟨-, -, hprovider⟩ | hauthority
      · simp [hnext] at hprovider
      · exact hauthority
  | @submitCompletion _ dto _ hready hallowed hc hpolicy =>
    have hnext : dto.status = .closed := hclosed
    rw [hc] at hnext
    cases hnext
  | confirmCitizenCompletion hreviews hdecision hunblocked =>
    have hcloses : confirmCloses cfg r := by
      by_contra hc
      simp [hc] at hclosed
    exact .inl (.confirmed hrequest hunblocked (confirmCloses_eq cfg r ▸ hcloses))
  | verifyOrganizationCompletion hreviews hdecision hunblocked hpolicy =>
    have hcloses : verifyCloses cfg r := by
      by_contra hc
      simp [hc] at hclosed
    exact .inl (.verified hrequest hunblocked (verifyCloses_eq cfg r ▸ hcloses))
  | adminResolveAndClose hallowed hnotClosed hheld => exact .inl (.resolved hrequest hheld)
  | processCompletionReviewDeadlines hrole hdry hreason hcandidate heligible =>
    obtain ⟨hdeadline, hunblocked, -, hcompleted⟩ := deadlineEligible_iff.mp heligible
    have hpolicy := policyForReport_of_some cfg (mem_rows_of_mem_deadlineCandidates hcandidate).2
    exact .inl (.windowOver hrequest hcompleted hpolicy hdeadline hunblocked)
  | assignOrganization ho hallowed =>
    simp only [assignOrganizationData] at hclosed
    split at hclosed <;> cases hclosed
  | @uploadReportEvidence _ dto saved =>
    cases saved <;> exact absurd hclosed hopen
  | uploadCompletionEvidence | adminPlaceCompletionHold | adminRemoveCompletionHold
  | adminOverrideCompletionPolicy => exact absurd hclosed hopen
  | _ => simp at hclosed

/-- A reassignment leaves no report closed that it writes. -/
theorem reassigned_not_closed {providerId : String} {reason : Option String} {r r' : Report}
    (h : Reassigned cfg env user providerId reason r r') : r'.status ≠ .closed := by
  cases h <;> simp [reassignCancelData]

/-- A status update that closes a report is carried out. -/
theorem ClosedByStatusUpdate.closes (cfg : Config) {r : Report} {dto : UpdateReportStatusDto}
    (h : ClosedByStatusUpdate s event r dto) : ∃ r', Closes cfg s event r.id r r' := by
  have hallowed : TransitionAllowed event.user r dto.status := by
    refine ⟨?_, ?_, .inr h.authority⟩
    · rw [h.next]
      decide
    · rw [h.next, h.completed]
      rfl
  have hrole : event.user.isProvider = false := by
    have := h.authority
    simp only [JwtUser.isProvider, decide_eq_false_iff_not]
    grind
  have hchange : Change cfg event.env s event.user (.updateStatus r.id dto) r
      ((statusData dto.status).apply r) := by
    refine .updateStatus ?_ ?_ hallowed ?_
    · simp [startsLate, hrole]
    · intro hprovider
      rw [hrole] at hprovider
      cases hprovider
    · rw [h.next]
      decide
  refine ⟨_, h.before, ?_, hchange.takes_place h.request h.before rfl, h.next⟩
  rw [h.completed]
  decide

/-- A step closes reports in sanctioned ways exactly when it is no closing status update. -/
theorem step_closure_sound_iff :
    (∀ id r r', Closes cfg s event id r r' → SoundClosure cfg event r r') ↔
      ¬ ∃ r dto, ClosedByStatusUpdate s event r dto := by
  constructor
  · rintro hsound ⟨r, dto, hupdate⟩
    obtain ⟨r', hcloses⟩ := hupdate.closes cfg
    have hrequest := hupdate.request
    cases hsound _ _ _ hcloses with
    | confirmed h _ _ | verified h _ _ | resolved h _ | windowOver h _ _ _ _ =>
      rw [hrequest] at h
      simp at h
  · intro hno id r r' hcloses
    obtain ⟨r'', hrow, hchange⟩ := step_report? cfg event hcloses.before
    obtain rfl : r'' = r' := Option.some.inj (hrow.symm.trans hcloses.after)
    rcases hchange with rfl | ⟨hrequest, hchange⟩ | ⟨-, hreassigned⟩
    · exact absurd hcloses.closed hcloses.notClosed
    · have hbefore := hcloses.before
      rw [← id_of_report? hbefore] at hbefore
      rcases change_closed hrequest hchange hcloses.notClosed hcloses.closed hbefore with
        h | ⟨dto, h⟩
      · exact h
      · exact absurd ⟨r, dto, h⟩ hno
    · exact absurd hcloses.closed (reassigned_not_closed hreassigned)

/-- **Closure soundness.** Along a run every step that closes a report does it in one of the
sanctioned ways exactly when no step closes a completed report by a status update. -/
theorem closure_sound_iff (cfg : Config) (s : Store) (events : List Event) :
    Along (step cfg) (fun s event => ∀ id r r', Closes cfg s event id r r' →
      SoundClosure cfg event r r') s
        events ↔
      Along (step cfg) (fun s event => ¬ ∃ r dto, ClosedByStatusUpdate s event r dto) s events :=
  along_congr (fun _ _ => step_closure_sound_iff) s events

/-- Holds a completed report, and then an operator closes it. -/
def heldRun : List Event :=
  [Example.created, Example.at_ 1 Example.superAdmin (.adminResolveAndClose "report" "Repaired"),
    Example.at_ 2 Example.superAdmin (.adminReopenCompletion "report" "Complaint"),
    Example.at_ 3 Example.superAdmin (.adminPlaceCompletionHold "report" "Investigation")]

/-- A report on governance hold is closed by a status update of its organization. -/
theorem closure_unsound_under_hold :
    ¬ ∀ (cfg : Config) (s : Store) (events : List Event),
      Along (step cfg) (fun s event => ∀ id r r', Closes cfg s event id r r' →
        SoundClosure cfg event r r') s
        events := by
  intro h
  have hstep := along_iff.mp (h {} Store.empty
    (heldRun ++ [Example.at_ 4 Example.orgAdmin (.updateStatus "report" { status := .closed })]))
      heldRun _ [] rfl
  have hheld : ((run (step {}) Store.empty heldRun).report? "report").map
      (fun r => (r.status, onHold r, r.organizationId)) =
        some (.completedByProvider, true, "org") := by
    decide +kernel
  obtain ⟨r, hr, hcolumns⟩ := Option.map_eq_some_iff.mp hheld
  simp only [Prod.mk.injEq] at hcolumns
  refine step_closure_sound_iff.mp hstep
    ⟨r, { status := .closed }, ?_, rfl, ?_, hcolumns.1, .inl ⟨.inl rfl, ?_⟩⟩
  · rw [id_of_report? hr]
    rfl
  · rw [id_of_report? hr]
    exact hr
  · rw [hcolumns.2.2]
    rfl

/-! ### Closed reports -/

/-- The requests that are to leave a closed report's status, provider and decisions alone:
those that assign, those of the organizations and the uploads. -/
def Request.sparesClosed : Request → Bool
  | .reassignProvider .. => true
  | .call c => match c with
    | .assignOrganization .. | .acceptOrganizationReport .. | .rejectOrganizationReport ..
    | .processOverdueAssignments | .getAssignedReports | .getOrganizationReports |
      .getDashboardSummary
    | .getRecentReports | .cancelAssignment .. | .assignProviderById .. | .rejectAssignment ..
    | .uploadCompletionEvidence .. | .uploadReportEvidence .. => true
    | _ => false

/-- A successful `adminReopenCompletion` of the report. -/
def Reopens (cfg : Config) (s : Store) (event : Event) (id : String) : Prop :=
  (∃ reason, event.request = .call (.adminReopenCompletion id reason)) ∧
    (outcome cfg event s).error = none

/-- The columns of a report that its closure settles. -/
def settled (r : Report) : ReportStatus × Option String × Option CompletionDecision ×
    Option CompletionDecision :=
  (r.status, r.assignedProviderId, r.citizenCompletionDecision, r.organizationCompletionDecision)

/-- The step keeps closed reports closed, unless it reopens them, and a request that is to
spare them does. -/
def KeepsClosed (cfg : Config) (s : Store) (event : Event) : Prop :=
  ∀ id r, s.report? id = some r → r.status = .closed → ∃ r',
    (step cfg event s).report? id = some r' ∧
    (r'.status = .closed ∨ Reopens cfg s event id) ∧
      (event.request.sparesClosed → settled r' = settled r)

/-- Someone cancels or reassigns the provider of a closed report. -/
structure ReleasesClosed (s : Store) (event : Event) (r : Report) : Prop where
  request : (∃ reason, event.request = .call (.cancelAssignment r.id reason)) ∨
    ∃ providerId reason, event.request = .reassignProvider r.id providerId reason
  before : s.report? r.id = some r
  closed : r.status = .closed
  assigned : truthy r.assignedProviderId
  authority : event.user.role = .superAdmin ∨ (event.user.role = .orgAdmin ∨ event.user.role = .dispatchOfficer) ∧
    some r.organizationId = event.user.organizationId

/-- What a call may do to a closed report. -/
theorem change_of_closed {call : Call} {r r' : Report} (h : Change cfg env s user call r r')
    (hclosed : r.status = .closed) :
    (∃ reason, call = .adminReopenCompletion r.id reason ∧ GovernanceAllowed user reason) ∨
      (∃ reason, call = .cancelAssignment r.id reason ∧ CancelAllowed user r) ∨
      (settled r' = settled r) := by
  have htransition : ∀ next, canTransitionReportStatus r.status next = false := by
    intro next
    rw [hclosed]
    rfl
  cases h with
  | adminReopenCompletion hallowed _ => exact .inl ⟨_, rfl, hallowed⟩
  | cancelAssignment hallowed => exact .inr (.inl ⟨_, rfl, hallowed⟩)
  | uploadCompletionEvidence | adminRemoveCompletionHold => exact .inr (.inr rfl)
  | @uploadReportEvidence _ _ saved =>
    cases saved <;> exact .inr (.inr rfl)
  | assignOrganization _ hallowed =>
    have := hallowed.routable
    simp [hclosed] at this
  | acceptOrganizationReport _ _ hreview | rejectOrganizationReport _ _ hreview _ =>
    rcases hreview with hreview | hreview
    · simp [hclosed] at hreview
    · have := (triage_of_legacyMatchedReview hreview).1
      simp [hclosed] at this
  | expire _ hswept => simp [sweptBy, isOverdue, hclosed] at hswept
  | assignProviderById _ hallowed =>
    have := hallowed.pending
    simp [hclosed] at this
  | rejectAssignment _ _ hassigned => simp [hclosed] at hassigned
  | updateStatus _ _ hallowed _ | submitCompletion _ hallowed _ _ =>
    have := hallowed.transition
    simp [htransition] at this
  | confirmCitizenCompletion _ _ hunblocked | verifyOrganizationCompletion _ _ hunblocked _ =>
    exact absurd hclosed hunblocked.open_
  | rejectCitizenCompletion hreviews hconfirmed _ _ =>
    have := hreviews.completed
    simp [hclosed, hconfirmed] at this
  | requestOrganizationCompletionRework hreviews hverified _ _ =>
    have := hreviews.completed
    simp [hclosed, hverified] at this
  | adminResolveAndClose _ hopen _ | adminReturnForCompletionRework _ hopen _ | adminPlaceCompletionHold _ hopen _
  | adminOverrideCompletionPolicy _ hopen _ => exact absurd hclosed hopen
  | processCompletionReviewDeadlines _ _ _ _ heligible =>
    have := (deadlineEligible_iff.mp heligible).2.2.2
    simp [hclosed] at this

/-- Whoever may release a closed report is allowed to cancel its assignment. -/
theorem ReleasesClosed.cancelAllowed {r : Report} (h : ReleasesClosed s event r) :
    CancelAllowed event.user r where
  operator := by
    have := h.authority
    grind [JwtUser.isOperator, JwtUser.isAdmin, JwtUser.isDispatch, JwtUser.isSuperAdmin]
  scope := by
    have := h.authority
    grind [JwtUser.isSuperAdmin]
  assigned := h.assigned
  active := by simp [h.closed]

/-- Who is allowed to cancel the assignment of a closed report releases it. -/
theorem CancelAllowed.releases {r : Report} (h : CancelAllowed event.user r)
    (hrequest : (∃ reason, event.request = .call (.cancelAssignment r.id reason)) ∨
      ∃ providerId reason, event.request = .reassignProvider r.id providerId reason)
    (hrow : s.report? r.id = some r) (hclosed : r.status = .closed) : ReleasesClosed s event r where
  request := hrequest
  before := hrow
  closed := hclosed
  assigned := h.assigned
  authority := by
    have hoperator := h.operator
    have hscope := h.scope
    grind [JwtUser.isOperator, JwtUser.isAdmin, JwtUser.isDispatch, JwtUser.isSuperAdmin]

/-- A release is carried out. -/
theorem ReleasesClosed.not_closed (cfg : Config) {r : Report} (h : ReleasesClosed s event r) :
    ∃ r', (step cfg event s).report? r.id = some r' ∧ r'.status ≠ .closed := by
  rcases h.request with ⟨reason, hrequest⟩ | ⟨providerId, reason, hrequest⟩
  · exact ⟨_, (Change.cancelAssignment h.cancelAllowed).takes_place hrequest h.before rfl, by simp⟩
  · by_cases hassign : ∃ provider, event.env.user? providerId = some provider ∧
        AssignAllowed event.user ((reassignCancelData event.env reason r).apply r) provider {}
    · obtain ⟨provider, hp, hassign⟩ := hassign
      exact ⟨_, (Reassigned.moved h.cancelAllowed hp hassign).takes_place hrequest h.before,
        by simp⟩
    · refine ⟨_, (Reassigned.cancelled h.cancelAllowed ?_).takes_place hrequest h.before,
        by simp [reassignCancelData]⟩
      intro provider hp hallowed
      exact hassign ⟨provider, hp, hallowed⟩

/-- A step keeps closed reports closed exactly when it releases none. -/
theorem step_keepsClosed_iff : KeepsClosed cfg s event ↔ ¬ ∃ r, ReleasesClosed s event r := by
  constructor
  · rintro hkeeps ⟨r, hreleases⟩
    obtain ⟨r', hrow, hopen⟩ := hreleases.not_closed cfg
    obtain ⟨r'', hrow', hclosed | ⟨⟨reason, hrequest⟩, -⟩, -⟩ :=
      hkeeps r.id r hreleases.before hreleases.closed
    · rw [hrow] at hrow'
      exact hopen (Option.some.inj hrow' ▸ hclosed)
    · rcases hreleases.request with ⟨_, h⟩ | ⟨_, _, h⟩ <;> rw [hrequest] at h <;> simp at h
  · intro hno id r hrow hclosed
    have hid := id_of_report? hrow
    subst hid
    obtain ⟨r', hrow', hchange⟩ := step_report? cfg event hrow
    refine ⟨r', hrow', ?_⟩
    rcases hchange with rfl | ⟨hrequest, hchange⟩ | ⟨hrequest, hreassigned⟩
    · exact ⟨.inl hclosed, fun _ => rfl⟩
    · rcases change_of_closed hchange hclosed with
        ⟨reason, rfl, hallowed⟩ | ⟨reason, rfl, hallowed⟩ | hsettled
      · refine ⟨.inr ⟨⟨reason, hrequest⟩, ?_⟩, fun hspares => ?_⟩
        · have hread : readCall cfg event.env s event.user
              (.adminReopenCompletion r.id reason) = .ok _ :=
            adminReopenCompletion_eq_ok.mpr ⟨r, hrow, hallowed, hclosed, rfl⟩
          rw [outcome, hrequest]
          exact execute_error_of_read hread hrow
        · rw [hrequest] at hspares
          cases hspares
      · exact absurd ⟨r, hallowed.releases (.inl ⟨reason, hrequest⟩) hrow hclosed⟩ hno
      · exact ⟨.inl ((congrArg Prod.fst hsettled).trans hclosed), fun _ => hsettled⟩
    · cases hreassigned with
      | cancelled hallowed _ | moved hallowed _ _ =>
        exact absurd ⟨r, hallowed.releases (.inr ⟨_, _, hrequest⟩) hrow hclosed⟩ hno
      | assigned _ hallowed =>
        have := hallowed.pending
        simp [hclosed] at this

/-- **Closed is terminal but for the reopening.** Along a run closed reports stay closed unless
reopened, and the requests that are to spare them do, exactly when no step cancels or
reassigns the provider of a closed report. -/
theorem closed_terminal_iff (cfg : Config) (s : Store) (events : List Event) :
    Along (step cfg) (KeepsClosed cfg) s events ↔
      Along (step cfg) (fun s event => ¬ ∃ r, ReleasesClosed s event r) s events :=
  along_congr (fun _ _ => step_keepsClosed_iff) s events

/-- The operator of the organization cancels the assignment of a closed report, which is
thereby back in dispatch. -/
theorem closed_report_cancelled :
    ¬ ∀ (cfg : Config) (s : Store) (events : List Event),
      Along (step cfg) (KeepsClosed cfg) s events := by
  intro h
  let pre := Example.dispatched ++
    [Example.at_ 4 Example.superAdmin (.adminResolveAndClose "report" "Repaired")]
  have hstep := along_iff.mp (h {} Store.empty
    (pre ++ [Example.at_ 5 Example.orgAdmin (.cancelAssignment "report" none)])) pre _ [] rfl
  have hclosed : ((run (step {}) Store.empty pre).report? "report").map
      (fun r => (r.status, truthy r.assignedProviderId, r.organizationId)) =
        some (.closed, true, "org") := by
    decide +kernel
  obtain ⟨r, hr, hcolumns⟩ := Option.map_eq_some_iff.mp hclosed
  simp only [Prod.mk.injEq] at hcolumns
  refine step_keepsClosed_iff.mp hstep
    ⟨r, .inl ⟨none, ?_⟩, ?_, hcolumns.1, hcolumns.2.1, .inr ⟨.inl rfl, ?_⟩⟩
  · rw [id_of_report? hr]
    rfl
  · rw [id_of_report? hr]
    exact hr
  · rw [hcolumns.2.2]
    rfl

end FixZone.ReportService
