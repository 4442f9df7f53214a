import FixZone.Report.Closure

/-!
# Completions that nobody can close

The decisions on a completion, its policy and its review state are separate columns,
written by different methods. A completed report that nothing blocks should wait for a
decision: its policy is not satisfied by the decisions recorded already, its review
state names a reviewer who has not decided, and one of the two reviewers has not. If it
does not, a repetition of either decision is answered with the report as it is, and the
report can no longer be closed by those it waits for.

`NotStuck` says this of a report. It is an invariant of all methods but four: the
platform may reopen a report, take its hold away or override its policy without looking
at the decisions that are there, and a citizen may confirm where only the platform can
resolve. `no_stuck_completion_iff` says exactly when a run from the empty store keeps it.
-/

namespace FixZone.ReportService

open Library Organization

variable {cfg : Config} {env : Env} {s : Store} {user : JwtUser} {event : Event}

/-- A decision is still missing, for the policy and from one of the reviewers. -/
structure Undecided (policy : CompletionPolicy) (citizen organization : Option CompletionDecision) :
    Prop where
  unsatisfied : isCompletionSatisfied policy citizen organization = false
  reviewer : citizen ≠ some .confirmed ∨ organization ≠ some .verified

/-- The review state names a reviewer only while that reviewer has not decided. -/
structure StateAgrees (r : Report) : Prop where
  citizen : r.completionReviewState = some .awaitingCitizenReview →
    r.citizenCompletionDecision ≠ some .confirmed
  organization : r.completionReviewState = some .awaitingOrganizationVerification →
    r.organizationCompletionDecision ≠ some .verified

/-- No dispute of the citizen and no request for rework stands in the way of a decision. -/
structure Undisputed (r : Report) : Prop where
  citizen : r.citizenCompletionDecision ≠ some .disputed
  rework : underRework r = false

/-- A completed report on which nothing is held, disputed or to be redone waits for a decision. -/
def NotStuck (cfg : Config) (r : Report) : Prop :=
  r.status = .completedByProvider → onHold r = false → Undisputed r →
    Undecided (policyForReport cfg r) r.citizenCompletionDecision r.organizationCompletionDecision ∧
      StateAgrees r

/-- No report is stuck. -/
def NoneStuck (cfg : Config) (s : Store) : Prop := ∀ id r, s.report? id = some r → NotStuck cfg r

/-- A decision is missing, unless one of the decisions disputes the work or sends it back. -/
def Reviewable (policy : CompletionPolicy) (r : Report) : Prop :=
  r.citizenCompletionDecision ≠ some .disputed →
    r.citizenCompletionDecision ≠ some .reworkRequested →
    r.organizationCompletionDecision ≠ some .reworkRequested →
    Undecided policy r.citizenCompletionDecision r.organizationCompletionDecision

/-- What a step must look at to keep every completion open to a decision: the decisions
recorded for a report that is reopened, released from hold or put under another policy, and
the policy of one that the citizen confirms. -/
structure LeavesReviewer (cfg : Config) (s : Store) (event : Event) : Prop where
  reopen : ∀ r reason, event.request = .call (.adminReopenCompletion r.id reason) →
    s.report? r.id = some r → GovernanceAllowed event.user reason → r.status = .closed →
    onHold r = false → Reviewable (policyForReport cfg r) r
  removeHold : ∀ r reason, event.request = .call (.adminRemoveCompletionHold r.id reason) →
    s.report? r.id = some r → GovernanceAllowed event.user reason → onHold r →
    r.status = .completedByProvider → Reviewable (policyForReport cfg r) r
  override : ∀ r policy reason,
    event.request = .call (.adminOverrideCompletionPolicy r.id policy reason) →
    s.report? r.id = some r → GovernanceAllowed event.user reason →
      r.status = .completedByProvider →
    policyForReport cfg r ≠ policy → onHold r = false → Reviewable policy r
  confirm : ∀ r dto, event.request = .call (.confirmCitizenCompletion r.id dto) →
    s.report? r.id = some r →
    CitizenReviews event.user r → r.citizenCompletionDecision ≠ some .confirmed → Unblocked r →
    policyForReport cfg r = .adminResolutionRequired →
      r.organizationCompletionDecision ≠ some .verified

/-! ### Review states -/

/-- The review state asks for rework only when a decision does. -/
theorem reviewStateFor_ne_reworkRequested (policy : CompletionPolicy)
    {c o : Option CompletionDecision}
    (hc : c ≠ some .reworkRequested) (ho : o ≠ some .reworkRequested) :
    reviewStateFor policy c o ≠ .reworkRequested := by
  unfold reviewStateFor
  split_ifs <;> simp_all

/-- The review state of a completion that is not satisfied names a reviewer who has not decided. -/
theorem stateAgrees_of_unsatisfied (policy : CompletionPolicy) {r : Report}
    (hstate : r.completionReviewState =
      some (reviewStateFor policy r.citizenCompletionDecision r.organizationCompletionDecision))
    (h : isCompletionSatisfied policy r.citizenCompletionDecision r.organizationCompletionDecision =
      false) :
    StateAgrees r := by
  constructor
  · intro hcitizen hconfirmed
    rw [hstate, Option.some.injEq, hconfirmed] at hcitizen
    rw [hconfirmed] at h
    cases policy <;> grind [reviewStateFor, isCompletionSatisfied]
  · intro horganization hverified
    rw [hstate, Option.some.injEq, hverified] at horganization
    rw [hverified] at h
    cases policy <;> grind [reviewStateFor, isCompletionSatisfied]

/-! ### Steps -/

/-- A completion put under review again is not stuck exactly when a decision is missing. -/
theorem notStuck_reviewed_iff {policy : CompletionPolicy} {r : Report}
    (hcompleted : r.status = .completedByProvider) (hheld : onHold r = false)
    (hpolicy : policyForReport cfg r = policy)
    (hstate : r.completionReviewState =
      some (reviewStateFor policy r.citizenCompletionDecision r.organizationCompletionDecision)) :
    NotStuck cfg r ↔ Reviewable policy r := by
  subst hpolicy
  constructor
  · intro h hcitizen hrework horganization
    refine (h hcompleted hheld ⟨hcitizen, ?_⟩).1
    have := reviewStateFor_ne_reworkRequested (policyForReport cfg r) hrework horganization
    simp [underRework, hstate, this, hrework, horganization]
  · intro h _ _ hundisputed
    have hrework := hundisputed.rework
    simp only [underRework, Bool.or_eq_false_iff, decide_eq_false_iff_not] at hrework
    have hundecided := h hundisputed.citizen hrework.1.2 hrework.2
    exact ⟨hundecided, stateAgrees_of_unsatisfied _ hstate hundecided.unsatisfied⟩

theorem notStuck_reopened_iff {r : Report} (hheld : onHold r = false) :
    NotStuck cfg ((reopenData cfg r).apply r) ↔ Reviewable (policyForReport cfg r) r :=
  notStuck_reviewed_iff (r := (reopenData cfg r).apply r) rfl hheld rfl rfl

theorem notStuck_released_iff {r : Report} (hcompleted : r.status = .completedByProvider) :
    NotStuck cfg ((removeHoldData cfg r).apply r) ↔ Reviewable (policyForReport cfg r) r := by
  refine notStuck_reviewed_iff (r := (removeHoldData cfg r).apply r) hcompleted rfl rfl ?_
  simp [hcompleted]

theorem notStuck_overridden_iff {policy : CompletionPolicy} {r : Report}
    (hcompleted : r.status = .completedByProvider) (hheld : onHold r = false) :
    NotStuck cfg ((overridePolicyData policy r).apply r) ↔ Reviewable policy r :=
  notStuck_reviewed_iff (r := (overridePolicyData policy r).apply r) hcompleted hheld rfl rfl

theorem notStuck_of_status {r : Report} (h : r.status ≠ .completedByProvider) : NotStuck cfg r :=
  fun hcompleted => absurd hcompleted h

theorem notStuck_of_onHold {r : Report} (h : onHold r) : NotStuck cfg r := by
  intro _ hfree
  rw [h] at hfree
  cases hfree

/-- A report is stuck or not by its status, its decisions, its policy and its review state. -/
theorem notStuck_congr {r r' : Report} (hr : NotStuck cfg r) (hstatus : r'.status = r.status)
    (hhold : r'.completionGovernanceHoldReason = r.completionGovernanceHoldReason)
    (hcitizen : r'.citizenCompletionDecision = r.citizenCompletionDecision)
    (horganization : r'.organizationCompletionDecision = r.organizationCompletionDecision)
    (hpolicy : r'.completionPolicy = r.completionPolicy)
    (hstate : r'.completionReviewState = r.completionReviewState) : NotStuck cfg r' := by
  intro hcompleted hheld hundisputed
  obtain ⟨hundecided, hagrees⟩ := hr (hstatus ▸ hcompleted) (by rw [← hheld, onHold, onHold, hhold])
    ⟨hcitizen ▸ hundisputed.citizen, by
      rw [← hundisputed.rework, underRework, underRework, hcitizen, horganization, hstate]⟩
  have hpolicy' : policyForReport cfg r' = policyForReport cfg r := by
    rw [policyForReport, policyForReport, hpolicy]
  exact ⟨⟨by rw [hpolicy', hcitizen, horganization]; exact hundecided.unsatisfied,
      by rw [hcitizen, horganization]; exact hundecided.reviewer⟩,
    ⟨by rw [hstate, hcitizen]; exact hagrees.citizen,
    by rw [hstate, horganization]; exact hagrees.organization⟩⟩

/-- A missing decision of the organization asks for the same review as a pending one. -/
theorem reviewStateFor_organization_getD (policy : CompletionPolicy)
    (c o : Option CompletionDecision) :
    reviewStateFor policy c (some (o.getD .pending)) = reviewStateFor policy c o := by
  cases o <;> simp [reviewStateFor]

/-- A missing decision of the citizen asks for the same review as a pending one. -/
theorem reviewStateFor_citizen_getD (policy : CompletionPolicy) (c o : Option CompletionDecision) :
    reviewStateFor policy (some (c.getD .pending)) o = reviewStateFor policy c o := by
  cases c <;> simp [reviewStateFor]

/-- A confirmation that closes nothing leaves a report that waits for the organization. -/
theorem notStuck_confirmed {dto : CitizenConfirmCompletionDto} {r : Report}
    (hadmin : policyForReport cfg r = .adminResolutionRequired →
      r.organizationCompletionDecision ≠ some .verified) :
    NotStuck cfg ((confirmData cfg env user dto r).apply r) := by
  by_cases hcloses : confirmCloses cfg r
  · exact notStuck_of_status (by simp [hcloses])
  · have hunsatisfied : isCompletionSatisfied (policyForReport cfg r) (some .confirmed)
        r.organizationCompletionDecision = false := by
      simpa [confirmCloses_eq] using hcloses
    intro _ _ _
    refine ⟨⟨hunsatisfied, .inr ?_⟩, stateAgrees_of_unsatisfied
      (policyForReport cfg r) ?_ hunsatisfied⟩
    · intro hverified
      have hverified : r.organizationCompletionDecision = some .verified := hverified
      cases hpolicy : policyForReport cfg r <;> simp_all [isCompletionSatisfied]
    · simp [hcloses, countedOrganizationDecision, reviewStateFor_organization_getD]

/-- A verification that closes nothing leaves a report that waits for the citizen. -/
theorem notStuck_verified {reason : Option String} {r : Report}
    (hadmin : policyForReport cfg r ≠ .adminResolutionRequired) :
    NotStuck cfg ((verifyData cfg env user reason r).apply r) := by
  by_cases hcloses : verifyCloses cfg r
  · exact notStuck_of_status (by simp [hcloses])
  · have hunsatisfied : isCompletionSatisfied (policyForReport cfg r) r.citizenCompletionDecision
        (some .verified) = false := by
      simpa [verifyCloses_eq] using hcloses
    intro _ _ _
    refine ⟨⟨hunsatisfied, .inl ?_⟩, stateAgrees_of_unsatisfied (policyForReport cfg r) ?_ hunsatisfied⟩
    · intro hconfirmed
      have hconfirmed : r.citizenCompletionDecision = some .confirmed := hconfirmed
      cases hpolicy : policyForReport cfg r <;> simp_all [isCompletionSatisfied]
    · simp [hcloses, countedCitizenDecision, reviewStateFor_citizen_getD]

/-- A submission is reviewed by somebody who has not decided. -/
theorem notStuck_submitted {dto : UpdateReportStatusDto} {evidence : EvidenceFields}
    {policy : CompletionPolicyResolution} {r : Report} :
    NotStuck cfg ((completionData cfg env dto evidence policy).apply r) := by
  intro _ _ _
  refine ⟨⟨?_, .inl (by simp)⟩, ⟨fun _ => by simp, fun _ => by simp⟩⟩
  cases hpolicy : policyForReport cfg ((completionData cfg env dto evidence policy).apply r) <;>
    simp [isCompletionSatisfied]

/-- A call that looks at the decisions where it must leaves no report stuck. -/
theorem change_notStuck {call : Call} {r r' : Report} (hrequest : event.request = .call call)
    (h : Change cfg event.env s event.user call r r') (hrow : s.report? r.id = some r) (hr : NotStuck cfg r)
    (hleaves : LeavesReviewer cfg s event) : NotStuck cfg r' := by
  cases h with
  | confirmCitizenCompletion hreviews hdecision hunblocked =>
    exact notStuck_confirmed (hleaves.confirm r _ hrequest hrow hreviews hdecision hunblocked)
  | verifyOrganizationCompletion hreviews hdecision hunblocked hpolicy =>
      exact notStuck_verified hpolicy
  | submitCompletion hready hallowed hc hpolicy => exact notStuck_submitted
  | adminReopenCompletion hallowed hclosed =>
    by_cases hheld : onHold r
    · exact notStuck_of_onHold hheld
    · have hheld : onHold r = false := by simpa using hheld
      exact (notStuck_reopened_iff hheld).mpr
        (hleaves.reopen r _ hrequest hrow hallowed hclosed hheld)
  | adminRemoveCompletionHold hallowed hheld =>
    by_cases hcompleted : r.status = .completedByProvider
    · exact (notStuck_released_iff hcompleted).mpr
        (hleaves.removeHold r _ hrequest hrow hallowed hheld hcompleted)
    · exact notStuck_of_status hcompleted
  | adminOverrideCompletionPolicy hallowed hnotClosed hpolicy =>
    by_cases hcompleted : r.status = .completedByProvider
    · by_cases hheld : onHold r
      · exact notStuck_of_onHold hheld
      · have hheld : onHold r = false := by simpa using hheld
        exact (notStuck_overridden_iff hcompleted hheld).mpr
          (hleaves.override r _ _ hrequest hrow hallowed hcompleted hpolicy hheld)
    · exact notStuck_of_status hcompleted
  | @adminPlaceCompletionHold _ reason hallowed hnotClosed hheld =>
    exact notStuck_of_onHold (truthy_some_iff.mpr hallowed.reasoned)
  | uploadCompletionEvidence => exact notStuck_congr hr rfl rfl rfl rfl rfl rfl
  | @uploadReportEvidence _ _ saved => cases saved <;> exact notStuck_congr hr rfl rfl rfl rfl rfl rfl
  | assignOrganization => exact notStuck_of_status (by simp only [assignOrganizationData]; split <;> simp)
  | updateStatus _ _ _ hc => exact notStuck_of_status hc
  | _ => exact notStuck_of_status (by simp)

/-- A new report is not stuck. -/
theorem notStuck_created {dto : RoutedReport} {organizationId locationSource : String}
    {intakeRoute : ResponsibilityResolution} :
    NotStuck cfg (createdReport env user dto organizationId locationSource intakeRoute) := by
  refine notStuck_of_status ?_
  simp only [createdReport]
  split_ifs <;> simp

/-- A step that looks at the decisions where it must leaves no report stuck. -/
theorem step_noneStuck (hs : NoneStuck cfg s) (hleaves : LeavesReviewer cfg s event) :
    NoneStuck cfg (step cfg event s) := by
  refine step_forall (fun _ _ _ _ => notStuck_created) (fun r r' hrow hr hchange => ?_) hs
  cases hchange with
  | call hrequest hchange => exact change_notStuck hrequest hchange hrow hr hleaves
  | reassign hrequest hreassigned =>
    refine notStuck_of_status ?_
    cases hreassigned <;> simp [reassignCancelData]

/-- From a state in which no report is stuck, a step leaves none stuck exactly when it looks
at the decisions where it must. -/
theorem step_noneStuck_iff (hs : NoneStuck cfg s) :
    NoneStuck cfg (step cfg event s) ↔ LeavesReviewer cfg s event := by
  refine ⟨fun h => ⟨?_, ?_, ?_, ?_⟩, step_noneStuck hs⟩
  · intro r reason hrequest hrow hallowed hclosed hheld
    exact (notStuck_reopened_iff hheld).mp
      (h _ _ ((Change.adminReopenCompletion hallowed hclosed).takes_place hrequest hrow rfl))
  · intro r reason hrequest hrow hallowed hheld hcompleted
    exact (notStuck_released_iff hcompleted).mp
      (h _ _ ((Change.adminRemoveCompletionHold hallowed hheld).takes_place hrequest hrow rfl))
  · intro r policy reason hrequest hrow hallowed hcompleted hpolicy hheld
    have hopen : r.status ≠ .closed := by simp [hcompleted]
    exact (notStuck_overridden_iff hcompleted hheld).mp
      (h _ _ ((Change.adminOverrideCompletionPolicy hallowed hopen hpolicy).takes_place
        hrequest hrow rfl))
  · intro r dto hrequest hrow hreviews hdecision hunblocked hpolicy hverified
    have hopen :=
      h _ _ ((Change.confirmCitizenCompletion hreviews hdecision hunblocked).takes_place
        hrequest hrow rfl)
    have hcloses : confirmCloses cfg r = false := by
      simp [confirmCloses_eq, hpolicy, isCompletionSatisfied]
    have hundecided := (hopen (by simp [hcloses]) hunblocked.unheld
      ⟨by simp, by simp [underRework, hcloses, hpolicy, hverified, countedOrganizationDecision,
      reviewStateFor]⟩).1
    exact hundecided.reviewer.elim (fun hc => hc rfl) (fun ho => ho hverified)

/-- **No stuck completion.** No report is stuck in any state of a run from the empty store
exactly when every step of it looks at the decisions where it must. -/
theorem no_stuck_completion_iff (cfg : Config) (events : List Event) :
    Throughout (step cfg) (NoneStuck cfg) Store.empty events ↔
      Along (step cfg) (LeavesReviewer cfg) Store.empty events :=
  throughout_iff_along (fun _ _ hs => step_noneStuck_iff hs) (fun _ _ h => by cases h) events

/-- The citizen confirms a report that was closed and reopened, and it is reopened again. -/
def confirmedRun : List Event :=
  [Example.created, Example.at_ 1 Example.superAdmin (.adminResolveAndClose "report" "Repaired"),
    Example.at_ 2 Example.superAdmin (.adminReopenCompletion "report" "Complaint"),
    Example.at_ 3 Example.citizen (.confirmCitizenCompletion "report" { rating := 5 }),
    Example.at_ 4 Example.superAdmin (.adminReopenCompletion "report" "Audit")]

/-- A report reopened after the confirmation that closed it is stuck. -/
theorem reopened_report_stuck :
    ¬ ∀ (cfg : Config) (events : List Event),
      Throughout (step cfg) (NoneStuck cfg) Store.empty events := by
  intro h
  have hrun := throughout_iff.mp (h {} confirmedRun) confirmedRun [] (by simp)
  have hstuck : ((run (step {}) Store.empty confirmedRun).report? "report").map (fun r =>
      (r.status, onHold r, r.citizenCompletionDecision, underRework r,
      isCompletionSatisfied (policyForReport {} r)
        r.citizenCompletionDecision r.organizationCompletionDecision)) =
      some (.completedByProvider, false, some .confirmed, false, true) := by
    decide +kernel
  obtain ⟨r, hr, hcolumns⟩ := Option.map_eq_some_iff.mp hstuck
  simp only [Prod.mk.injEq] at hcolumns
  obtain ⟨hcompleted, hheld, hconfirmed, hrework, hsatisfied⟩ := hcolumns
  have hundecided := (hrun _ r hr hcompleted hheld ⟨by simp [hconfirmed], hrework⟩).1
  rw [hundecided.unsatisfied] at hsatisfied
  cases hsatisfied

end FixZone.ReportService
