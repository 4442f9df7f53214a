import FixZone.Report.Closure

/-!
# Work without a provider

A report in `ASSIGNED`, `IN_PROGRESS` or `COMPLETED_BY_PROVIDER` is worked on, and so has
a provider. All methods but two keep this: the platform may return a report for rework
whatever its status, and may reopen a report that was closed before anybody worked on it.
`active_has_provider_iff` says that the reports of a run from the empty store all have
their provider exactly when the platform does neither to a report without one.
-/

namespace FixZone.ReportService

open Library Organization

variable {cfg : Config} {s : Store} {event : Event}

/-- The statuses of a report somebody works on. -/
def isActive : ReportStatus → Bool
  | .assigned | .inProgress | .completedByProvider => true
  | .triage | .orgReview | .pending | .closed => false

/-- A report somebody works on has a provider. -/
def ActiveHasProvider (r : Report) : Prop := isActive r.status → r.assignedProviderId ≠ none

/-- The step puts no report without a provider back to work. -/
structure FindsProvider (s : Store) (event : Event) : Prop where
  rework : ∀ r reason, event.request = .call (.adminReturnForCompletionRework r.id reason) →
    s.report? r.id = some r → GovernanceAllowed event.user reason → r.status ≠ .closed →
    r.completionReviewState ≠ some .reworkRequested → r.assignedProviderId ≠ none
  reopen : ∀ r reason, event.request = .call (.adminReopenCompletion r.id reason) →
    s.report? r.id = some r → GovernanceAllowed event.user reason → r.status = .closed →
    r.assignedProviderId ≠ none

theorem activeHasProvider_of_inactive {r : Report} (h : isActive r.status = false) :
    ActiveHasProvider r := by
  intro hactive
  simp [h] at hactive

/-- A report that keeps its provider and was worked on before still has it. -/
theorem ActiveHasProvider.of_active {r r' : Report} (hr : ActiveHasProvider r)
    (hbefore : isActive r.status)
    (hprovider : r'.assignedProviderId = r.assignedProviderId) : ActiveHasProvider r' := by
  intro _
  rw [hprovider]
  exact hr hbefore

/-- By a status update nobody starts to work on a report that nobody worked on. -/
theorem isActive_of_transitionAllowed {user : JwtUser} {r : Report} {next : ReportStatus}
    (h : TransitionAllowed user r next) (hnext : isActive next) : isActive r.status := by
  have hdirect := h.direct
  have htransition := h.transition
  cases hstatus : r.status <;> cases next <;>
    simp_all [isActive, canTransitionReportStatus, allowedReportTransitions]

/-- A report under review is worked on, unless it was closed by the decision under review. -/
theorem isActive_of_completed {r : Report} {p : Prop}
    (h : r.status = .completedByProvider ∨ r.status = .closed ∧ p)
    (hp : ¬ p) : isActive r.status := by
  rcases h with h | ⟨-, h⟩
  · simp [h, isActive]
  · exact absurd h hp

/-- A call that puts no report without a provider to work leaves every report its provider. -/
theorem change_activeHasProvider {call : Call} {r r' : Report}
    (hrequest : event.request = .call call)
    (h : Change cfg event.env s event.user call r r') (hrow : s.report? r.id = some r) (hr : ActiveHasProvider r)
    (hfinds : FindsProvider s event) : ActiveHasProvider r' := by
  cases h with
  | assignOrganization =>
    refine activeHasProvider_of_inactive ?_
    simp only [assignOrganizationData]
    split <;> rfl
  | assignProviderById => exact fun _ => by simp
  | updateStatus _ _ hallowed _ | submitCompletion _ hallowed _ _ =>
    intro hactive
    exact hr (isActive_of_transitionAllowed hallowed hactive)
  | uploadCompletionEvidence | adminPlaceCompletionHold | adminRemoveCompletionHold
  | adminOverrideCompletionPolicy => exact hr
  | @uploadReportEvidence _ _ saved => cases saved <;> exact hr
  | confirmCitizenCompletion hreviews hdecision _ | rejectCitizenCompletion hreviews hdecision _ _
  | verifyOrganizationCompletion hreviews hdecision _ _
  | requestOrganizationCompletionRework hreviews hdecision _ _ =>
    exact hr.of_active (isActive_of_completed hreviews.completed hdecision) rfl
  | adminReturnForCompletionRework hallowed hopen hstate =>
    exact fun _ => hfinds.rework r _ hrequest hrow hallowed hopen hstate
  | adminReopenCompletion hallowed hclosed => exact fun _ => hfinds.reopen r _ hrequest hrow hallowed hclosed
  | _ => exact activeHasProvider_of_inactive rfl

/-- A new report waits for its organization. -/
theorem activeHasProvider_created {env : Env} {user : JwtUser} {dto : RoutedReport}
    {organizationId locationSource : String} {intakeRoute : ResponsibilityResolution} :
    ActiveHasProvider (createdReport env user dto organizationId locationSource intakeRoute) := by
  refine activeHasProvider_of_inactive ?_
  simp only [createdReport]
  split_ifs <;> rfl

/-- Every report somebody works on has a provider. -/
def AllHaveProvider (s : Store) : Prop := ∀ id r, s.report? id = some r → ActiveHasProvider r

/-- From a state in which all have their provider, a step leaves it to all exactly when it puts no
report without one back to work. -/
theorem step_allHaveProvider_iff (hs : AllHaveProvider s) :
    AllHaveProvider (step cfg event s) ↔ FindsProvider s event := by
  constructor
  · intro h
    constructor
    · intro r reason hrequest hrow hallowed hopen hstate
      have hr' :=
        h _ _ ((Change.adminReturnForCompletionRework hallowed hopen hstate).takes_place
          hrequest hrow rfl)
      exact hr' rfl
    · intro r reason hrequest hrow hallowed hclosed
      have hr' :=
        h _ _ ((Change.adminReopenCompletion hallowed hclosed).takes_place hrequest hrow rfl)
      exact hr' rfl
  · intro hfinds
    refine step_forall (fun _ _ _ _ => activeHasProvider_created)
      (fun r r' hrow hr hchange => ?_) hs
    cases hchange with
    | call hrequest hchange => exact change_activeHasProvider hrequest hchange hrow hr hfinds
    | reassign hrequest hreassigned =>
      cases hreassigned with
      | cancelled => exact activeHasProvider_of_inactive rfl
      | assigned | moved => exact fun _ => by simp

/-- **Active work has a provider.** In every state of a run from the empty store all reports
somebody works on have a provider exactly when no step of it returns a report without one for
rework or reopens it. -/
theorem active_has_provider_iff (cfg : Config) (events : List Event) :
    Throughout (step cfg) AllHaveProvider Store.empty events ↔
      Along (step cfg) FindsProvider Store.empty events :=
  throughout_iff_along (fun _ _ hs => step_allHaveProvider_iff hs) (fun _ _ h => by cases h) events

/-- A new report returned for rework is assigned to nobody. -/
theorem returned_report_without_provider :
    ¬ ∀ (cfg : Config) (events : List Event),
      Throughout (step cfg) AllHaveProvider Store.empty events := by
  intro h
  let events := [Example.created, Example.at_ 1 Example.superAdmin
    (.adminReturnForCompletionRework "report" "Urgent")]
  have hrun := throughout_iff.mp (h {} events) events [] (by simp)
  have hreturned : ((run (step {}) Store.empty events).report? "report").map (fun r =>
      (r.status, r.assignedProviderId)) = some (.assigned, none) := by
    decide +kernel
  obtain ⟨r, hr, hcolumns⟩ := Option.map_eq_some_iff.mp hreturned
  simp only [Prod.mk.injEq] at hcolumns
  exact hrun _ r hr (by simp [hcolumns.1, isActive]) hcolumns.2

end FixZone.ReportService
