import FixZone.Report.Closure

/-!
# The deadline of an automatic closure

The policy of a completion and the deadline of its review window are separate columns. A
submission writes both of them together, but the platform may put a completed report under
another policy, and may reopen one, without a deadline. A completed report that is to close
by itself and has no deadline is skipped by every pass. `Windowed` says that a report is not
left like this, and `closure_deadline_iff` exactly when a run from the empty store keeps it.
-/

namespace FixZone.ReportService

open Library

variable {cfg : Config} {env : Env} {s : Store} {user : JwtUser} {event : Event}

/-- A completed report that is to close after its review window has a deadline. -/
def Windowed (r : Report) : Prop :=
  r.status = .completedByProvider → r.completionPolicy = some .autoCloseAfterReviewWindow →
    r.completionReviewDeadlineAt ≠ none

/-- Every report is windowed. -/
def AllWindowed (s : Store) : Prop := ∀ id r, s.report? id = some r → Windowed r

/-- A step puts no completed report without a deadline under the automatic closure, and reopens none
that was under it. -/
structure KeepsDeadline (cfg : Config) (s : Store) (event : Event) : Prop where
  override : ∀ r reason, event.request =
      .call (.adminOverrideCompletionPolicy r.id .autoCloseAfterReviewWindow reason) →
    s.report? r.id = some r → GovernanceAllowed event.user reason →
    r.status = .completedByProvider → policyForReport cfg r ≠ .autoCloseAfterReviewWindow →
    r.completionReviewDeadlineAt ≠ none
  reopen : ∀ r reason, event.request = .call (.adminReopenCompletion r.id reason) →
    s.report? r.id = some r → GovernanceAllowed event.user reason → r.status = .closed →
    r.completionPolicy = some .autoCloseAfterReviewWindow → r.completionReviewDeadlineAt ≠ none

theorem windowed_of_status {r : Report} (h : r.status ≠ .completedByProvider) : Windowed r :=
  fun hcompleted => absurd hcompleted h

/-- A report is windowed or not by its status, its policy and its deadline. -/
theorem Windowed.congr {r r' : Report} (hr : Windowed r) (hstatus : r'.status = r.status)
    (hpolicy : r'.completionPolicy = r.completionPolicy)
    (hdeadline : r'.completionReviewDeadlineAt = r.completionReviewDeadlineAt) : Windowed r' := by
  unfold Windowed
  rw [hstatus, hpolicy, hdeadline]
  exact hr

/-- A submission has the deadline of its policy. -/
theorem windowed_submitted {dto : UpdateReportStatusDto} {evidence : EvidenceFields}
    {policy : CompletionPolicyResolution} {r : Report} :
    Windowed ((completionData cfg env dto evidence policy).apply r) := by
  intro _ hpolicy
  have hauto : policy.policy = .autoCloseAfterReviewWindow := by simpa using hpolicy
  simp [reviewDeadlineFor, hauto]

theorem change_windowed {call : Call} {r r' : Report} (hrequest : event.request = .call call)
    (h : Change cfg event.env s event.user call r r') (hrow : s.report? r.id = some r)
    (hr : Windowed r) (hkeeps : KeepsDeadline cfg s event) : Windowed r' := by
  cases h with
  | submitCompletion => exact windowed_submitted
  | adminReopenCompletion hallowed hclosed =>
    exact fun _ hpolicy => hkeeps.reopen r _ hrequest hrow hallowed hclosed hpolicy
  | adminOverrideCompletionPolicy hallowed hopen hpolicy =>
    intro hcompleted hauto
    cases hauto
    exact hkeeps.override r _ hrequest hrow hallowed hcompleted hpolicy
  | adminPlaceCompletionHold => exact hr.congr rfl rfl rfl
  | adminRemoveCompletionHold => exact hr.congr rfl rfl rfl
  | uploadCompletionEvidence => exact hr.congr rfl rfl rfl
  | @uploadReportEvidence _ _ saved => cases saved <;> exact hr.congr rfl rfl rfl
  | confirmCitizenCompletion hreviews hdecision =>
    exact fun _ => hr (hreviews.completed.resolve_right fun hdecided => hdecision hdecided.2)
  | verifyOrganizationCompletion hreviews hdecision =>
    exact fun _ => hr (hreviews.completed.resolve_right fun hdecided => hdecision hdecided.2)
  | updateStatus _ _ _ hstatus => exact windowed_of_status hstatus
  | assignOrganization =>
    exact windowed_of_status (by simp only [assignOrganizationData]; split <;> simp)
  | _ => exact windowed_of_status (by simp)

/-- A step that keeps the deadlines leaves every report windowed. -/
theorem step_allWindowed (hs : AllWindowed s) (hkeeps : KeepsDeadline cfg s event) :
    AllWindowed (step cfg event s) := by
  refine step_forall (fun dto organizationId locationSource intakeRoute => ?_)
    (fun r r' hrow hr hchange => ?_) hs
  · refine windowed_of_status ?_
    simp only [createdReport]
    split_ifs <;> simp
  · cases hchange with
    | call hrequest hchange => exact change_windowed hrequest hchange hrow hr hkeeps
    | reassign hrequest hreassigned =>
      refine windowed_of_status ?_
      cases hreassigned <;> simp [reassignCancelData]

/-- From a state in which every report is windowed, a step leaves them windowed exactly when it
keeps the deadlines. -/
theorem step_allWindowed_iff (hs : AllWindowed s) :
    AllWindowed (step cfg event s) ↔ KeepsDeadline cfg s event := by
  refine ⟨fun h => ⟨?_, ?_⟩, step_allWindowed hs⟩
  · intro r reason hrequest hrow hallowed hcompleted hpolicy
    have hopen : r.status ≠ .closed := by simp [hcompleted]
    have hafter := h _ _ ((Change.adminOverrideCompletionPolicy hallowed hopen hpolicy).takes_place
      hrequest hrow rfl)
    exact hafter hcompleted rfl
  · intro r reason hrequest hrow hallowed hclosed hpolicy
    have hafter := h _ _ ((Change.adminReopenCompletion hallowed hclosed).takes_place
      hrequest hrow rfl)
    exact hafter rfl hpolicy

/-- **The deadline of an automatic closure.** Every completed report that is to close by itself
has a deadline, in every state of a run from the empty store, exactly when no step puts such a
report under the automatic closure, or reopens one that was under it, while it has none. -/
theorem closure_deadline_iff (cfg : Config) (events : List Event) :
    Throughout (step cfg) AllWindowed Store.empty events ↔
      Along (step cfg) (KeepsDeadline cfg) Store.empty events :=
  throughout_iff_along (fun _ _ hs => step_allWindowed_iff hs) (fun _ _ h => by cases h) events

/-- A report is closed by the platform, reopened, and put under the automatic closure. -/
def overriddenRun : List Event :=
  [Example.created, Example.at_ 1 Example.superAdmin (.adminResolveAndClose "report" "Repaired"),
    Example.at_ 2 Example.superAdmin (.adminReopenCompletion "report" "Complaint"),
    Example.at_ 3 Example.superAdmin
      (.adminOverrideCompletionPolicy "report" .autoCloseAfterReviewWindow "No answer")]

/-- The report has no deadline. -/
theorem overridden_report_without_deadline :
    ¬ ∀ (cfg : Config) (events : List Event),
      Throughout (step cfg) AllWindowed Store.empty events := by
  intro h
  have hrun := throughout_iff.mp (h {} overriddenRun) overriddenRun [] (by simp)
  have hwithout : ((run (step {}) Store.empty overriddenRun).report? "report").map (fun r =>
      (r.status, r.completionPolicy, r.completionReviewDeadlineAt)) =
      some (.completedByProvider, some .autoCloseAfterReviewWindow, none) := by
    decide +kernel
  obtain ⟨r, hr, hcolumns⟩ := Option.map_eq_some_iff.mp hwithout
  simp only [Prod.mk.injEq] at hcolumns
  obtain ⟨hcompleted, hpolicy, hdeadline⟩ := hcolumns
  exact hrun _ r hr hcompleted hpolicy hdeadline

end FixZone.ReportService
