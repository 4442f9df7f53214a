import FixZone.Report.Change

/-!
# Reports that wait for their organization

A report that is in triage, is under review by an organization or waits for dispatch has
neither a provider nor a deadline to start work by. Such a report comes back from an
assignment by a cancellation, a refusal or the sweep of overdue assignments, all of which
clear the two columns; and what moves it between these statuses leaves them alone. So it
holds in every state of every run (`unrouted_reports_free`).
-/

namespace FixZone.ReportService

open Library Organization

variable {cfg : Config} {s : Store} {event : Event}

/-- The statuses of a report that has not been given to a provider. -/
def isUnrouted : ReportStatus → Bool
  | .triage | .orgReview | .pending => true
  | .assigned | .inProgress | .completedByProvider | .closed => false

/-- A report without a provider, and so without a deadline to start work by. -/
def Free (r : Report) : Prop := r.assignedProviderId = none ∧ r.assignmentDeadlineAt = none

/-- A report that is free has no assignment to cancel. -/
theorem CancelAllowed.not_free {user : JwtUser} {r : Report} (h : CancelAllowed user r) :
    ¬ Free r := by
  intro hfree
  have hassigned := h.assigned
  rw [hfree.1] at hassigned
  cases hassigned

/-- A report that has not been given to a provider is free. -/
def UnroutedFree (r : Report) : Prop := isUnrouted r.status → Free r

theorem unroutedFree_of_routed {r : Report} (h : isUnrouted r.status = false) :
    UnroutedFree r := by
  intro hunrouted
  simp [h] at hunrouted

theorem UnroutedFree.of_unrouted {r r' : Report} (hr : UnroutedFree r) (h : isUnrouted r.status)
    (hprovider : r'.assignedProviderId = r.assignedProviderId)
    (hdeadline : r'.assignmentDeadlineAt = r.assignmentDeadlineAt) : UnroutedFree r' :=
  fun _ => ⟨hprovider.trans (hr h).1, hdeadline.trans (hr h).2⟩

/-- A status update brings no report back to its organization that had gone to a provider. -/
theorem isUnrouted_of_transitionAllowed {user : JwtUser} {r : Report} {next : ReportStatus}
    (h : TransitionAllowed user r next) (hnext : isUnrouted next) : isUnrouted r.status := by
  have htransition := h.transition
  cases hstatus : r.status <;> cases next <;>
    simp_all [isUnrouted, canTransitionReportStatus, allowedReportTransitions]

/-- A report an organization may decide on is under review, or a legacy one in triage. -/
theorem isUnrouted_of_review {r : Report} {organizationId : String}
    (h : r.status = .orgReview ∨ legacyMatchedReview s r organizationId) :
    isUnrouted r.status := by
  rcases h with h | h
  · rw [h]
    rfl
  · rw [(triage_of_legacyMatchedReview h).1]
    rfl

/-- A call leaves every report it returns to its organization free. -/
theorem change_unroutedFree {env : Env} {user : JwtUser} {call : Call} {r r' : Report}
    (h : Change cfg env s user call r r') (hr : UnroutedFree r) : UnroutedFree r' := by
  cases h with
  | assignOrganization _ hallowed =>
    have hbefore : isUnrouted r.status := by
      rcases hallowed.routable with h | h <;> rw [h] <;> rfl
    exact hr.of_unrouted hbefore rfl rfl
  | acceptOrganizationReport _ _ hreview =>
    exact hr.of_unrouted (isUnrouted_of_review hreview) rfl rfl
  | rejectOrganizationReport | expire | cancelAssignment | rejectAssignment =>
    exact fun _ => ⟨rfl, rfl⟩
  | updateStatus _ _ hallowed _ | submitCompletion _ hallowed _ _ =>
    intro hunrouted
    exact hr (isUnrouted_of_transitionAllowed hallowed hunrouted)
  | uploadCompletionEvidence | adminPlaceCompletionHold | adminRemoveCompletionHold
  | adminOverrideCompletionPolicy => exact hr
  | @uploadReportEvidence _ _ saved => cases saved <;> exact hr
  | @confirmCitizenCompletion _ dto =>
    refine unroutedFree_of_routed ?_
    simp only [confirmData]
    split <;> rfl
  | verifyOrganizationCompletion =>
    refine unroutedFree_of_routed ?_
    simp only [verifyData]
    split <;> rfl
  | _ => exact unroutedFree_of_routed rfl

/-- A step leaves every report it returns to its organization free. -/
theorem stepChange_unroutedFree {r r' : Report} (h : StepChange cfg event s r r')
    (hr : UnroutedFree r) : UnroutedFree r' := by
  cases h with
  | call _ hchange => exact change_unroutedFree hchange hr
  | reassign _ hreassigned =>
    cases hreassigned with
    | cancelled => exact fun _ => ⟨rfl, rfl⟩
    | assigned | moved => exact unroutedFree_of_routed rfl

/-- **Unrouted reports carry no provider.** In every state of a run from the empty store, a
report in triage, under review or waiting for dispatch has neither a provider nor a deadline. -/
theorem unrouted_reports_free (cfg : Config) (events : List Event) :
    Throughout (step cfg) (fun s : Store => ∀ id r, s.report? id = some r →
      r.status = .triage ∨ r.status = .orgReview ∨ r.status = .pending →
      r.assignedProviderId = none ∧ r.assignmentDeadlineAt = none) Store.empty events := by
  rw [throughout_iff]
  intro pre post _ id r hrow hstatus
  have hfree : ∀ id r, (run (step cfg) Store.empty pre).report? id = some r → UnroutedFree r :=
    run_inv (I := fun s : Store => ∀ id r, s.report? id = some r → UnroutedFree r)
      (Q := fun _ => True)
      (fun _ _ hs _ => step_forall (fun _ _ _ _ _ => ⟨rfl, rfl⟩)
        (fun _ _ _ hr hchange => stepChange_unroutedFree hchange hr) hs)
      (fun _ _ h => by cases h) fun _ _ => trivial
  have hunrouted : isUnrouted r.status := by
    rcases hstatus with h | h | h <;> rw [h] <;> rfl
  exact hfree id r hrow hunrouted

end FixZone.ReportService
