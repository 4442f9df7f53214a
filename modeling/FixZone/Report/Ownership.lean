import FixZone.Report.ReviewQueue
import FixZone.Report.Unrouted

/-!
# Accepted work

A report under review has been proposed to an organization, which takes it on by
accepting it. What the acceptance writes lasts: only routing the report again gives it to
another organization (`keepsAccepted`). But `updateStatus` also moves a report in and out
of review. It never asks for the proposed organization, and it knows its callers by the
organization the report belongs to, not by the one it is proposed to. So the review is
respected in exactly the runs without such an update (`only_accepted_work_iff`).
-/

namespace FixZone.ReportService

open Library Organization

variable {cfg : Config} {env : Env} {s : Store} {user : JwtUser} {event : Event}

/-! ### What is asked of a run -/

/-- Every report under review has been proposed to an organization. -/
def AllProposed (s : Store) : Prop :=
  ∀ id r, s.report? id = some r → r.status = .orgReview → r.assignedOrganizationId ≠ none

/-- A step that may take the report `r` out of review: one of a super admin, or the acceptance by
an operator of the organization the report is proposed to. -/
def MayRelease (cfg : Config) (s : Store) (event : Event) (r : Report) : Prop :=
  event.user.role = .superAdmin ∨
    ∃ organizationId note, event.request = .call (.acceptOrganizationReport r.id note) ∧
      (outcome cfg event s).error = none ∧ OperatesFor event.user organizationId ∧
      r.assignedOrganizationId = some organizationId

/-- Past review, a report has left it by a step that may release it. -/
def ReleasesLawfully (cfg : Config) (s : Store) (event : Event) : Prop :=
  ∀ id r r', s.report? id = some r → (step cfg event s).report? id = some r' →
    r.status = .orgReview → r'.status ≠ .orgReview → r'.status ≠ .triage →
    MayRelease cfg s event r

/-- The step routes the report `id`. -/
def RoutesAgain (cfg : Config) (id : String) (s : Store) (event : Event) : Prop :=
  (∃ dto, event.request = .call (.assignOrganization id dto)) ∧ (outcome cfg event s).error = none

/-- A report an organization has accepted belongs to it until it is routed again. -/
def KeepsAccepted (cfg : Config) (events : List Event) : Prop :=
  ∀ before event after, before ++ event :: after <+: events →
    ∀ id note organizationId, event.request = .call (.acceptOrganizationReport id note) →
      event.user.organizationId = some organizationId →
      (outcome cfg event (run (step cfg) Store.empty before)).error = none →
      Along (step cfg) (fun s event => ¬ RoutesAgain cfg id s event)
        (run (step cfg) Store.empty (before ++ [event])) after →
      ∀ r, (run (step cfg) Store.empty (before ++ event :: after)).report? id = some r →
        r.organizationId = organizationId

/-- An organization only gets work it accepted. -/
structure OnlyAcceptedWork (cfg : Config) (events : List Event) : Prop where
  proposed : Throughout (step cfg) AllProposed Store.empty events
  released : Along (step cfg) (ReleasesLawfully cfg) Store.empty events
  kept : KeepsAccepted cfg events

/-! ### What an acceptance writes lasts -/

/-- The report belongs to the organization, and is proposed to no other. -/
structure HeldBy (organizationId : String) (r : Report) : Prop where
  organization : r.organizationId = organizationId
  proposed : r.assignedOrganizationId = some organizationId ∨
    truthy r.assignedOrganizationId = false

theorem HeldBy.congr {organizationId : String} {r r' : Report} (h : HeldBy organizationId r)
    (horganization : r'.organizationId = r.organizationId)
    (hassigned : r'.assignedOrganizationId = r.assignedOrganizationId) :
    HeldBy organizationId r' :=
  ⟨horganization.trans h.organization, by rw [hassigned]; exact h.proposed⟩

/-- An organization that may answer a report that is held is the one that holds it. -/
theorem HeldBy.of_intakeAllowed {organizationId answering : String} {r : Report}
    (h : HeldBy organizationId r) (hallowed : IntakeAllowed s user answering r) :
    answering = organizationId := by
  rcases hallowed.routed with hassigned | hmatched
  · rcases h.proposed with hheld | huntruthy
    · exact Option.some.inj (hassigned.symm.trans hheld)
    · rw [hassigned] at huntruthy
      exact absurd (by simpa [truthy] using huntruthy) hallowed.organization_ne
  · rw [← h.organization]
    exact (organization_of_legacyMatchedReview hmatched).2.1.symm

/-- The organization whose acceptance is written holds the report. -/
theorem heldBy_accepted {organizationId : String} {r : Report}
    (hallowed : IntakeAllowed s user organizationId r) :
    HeldBy organizationId ((acceptOrganizationReportData env organizationId r).apply r) := by
  refine ⟨rfl, ?_⟩
  cases hassigned : r.assignedOrganizationId with
  | none => simp [hassigned]
  | some proposed =>
    rcases hallowed.routed with h | hmatched
    · rw [hassigned] at h
      simp [hassigned, Option.some.inj h]
    · have huntruthy : truthy r.assignedOrganizationId = false := by
        simp only [legacyMatchedReview, isLegacyMatchedResponsibilityReview, Bool.and_eq_true,
          Bool.not_eq_true'] at hmatched
        exact hmatched.1.1.1.1.2
      rw [hassigned] at huntruthy
      exact .inr (by simpa [hassigned] using huntruthy)

/-- A call that does not route a report that is held leaves it held. -/
theorem change_heldBy {organizationId : String} {call : Call} {r r' : Report}
    (h : Change cfg env s user call r r') (hr : HeldBy organizationId r)
    (hroutes : ∀ dto, call ≠ .assignOrganization r.id dto) : HeldBy organizationId r' := by
  cases h with
  | assignOrganization => exact absurd rfl (hroutes _)
  | acceptOrganizationReport hallowed =>
    obtain rfl := hr.of_intakeAllowed hallowed
    exact heldBy_accepted hallowed
  | rejectOrganizationReport => exact ⟨hr.organization, .inr rfl⟩
  | @uploadReportEvidence _ _ saved => cases saved <;> exact hr.congr rfl rfl
  | _ => exact hr.congr rfl rfl

theorem change_assignOrganization {reportId : String} {dto : AssignOrganizationDto} {r r' : Report}
    (h : Change cfg env s user (.assignOrganization reportId dto) r r') :
    ∃ organization, env.organization? dto.organizationId = some organization ∧
      RouteAllowed cfg user r dto organization := by
  cases h with
  | expire hsweeps => cases hsweeps
  | assignOrganization ho hallowed => exact ⟨_, ho, hallowed⟩

theorem stepChange_heldBy {organizationId : String} {r r' : Report} (hrow : s.report? r.id = some r)
    (hr : HeldBy organizationId r) (hroutes : ¬ RoutesAgain cfg r.id s event)
    (h : StepChange cfg event s r r') : HeldBy organizationId r' := by
  cases h with
  | @call call hrequest hchange =>
    refine change_heldBy hchange hr fun dto hcall => hroutes ?_
    subst hcall
    refine ⟨⟨dto, hrequest⟩, ?_⟩
    rw [outcome_of_call hrequest]
    obtain ⟨organization, ho, hallowed⟩ := change_assignOrganization hchange
    have hread : readCall cfg event.env s event.user (.assignOrganization r.id dto) = .ok _ :=
      assignOrganization_eq_ok.mpr ⟨r, organization, hrow, ho, hallowed, rfl⟩
    exact execute_error_of_read hread hrow
  | reassign _ hreassigned => cases hreassigned <;> exact hr.congr rfl rfl

/-- The report `id`, if there is one, is held by the organization. -/
def HeldAt (organizationId id : String) (s : Store) : Prop :=
  ∃ r, s.report? id = some r ∧ HeldBy organizationId r

theorem step_heldAt {organizationId id : String} (hs : HeldAt organizationId id s)
    (hroutes : ¬ RoutesAgain cfg id s event) : HeldAt organizationId id (step cfg event s) := by
  obtain ⟨r, hrow, hr⟩ := hs
  obtain rfl := id_of_report? hrow
  obtain ⟨r', hrow', rfl | hchange⟩ := step_report? cfg event hrow
  · exact ⟨_, hrow', hr⟩
  · exact ⟨r', hrow', stepChange_heldBy hrow hr hroutes hchange⟩

/-- After an acceptance that does not throw, the organization that accepted holds the report. -/
theorem heldAt_of_accepted {id organizationId : String} {note : Option String}
    (hrequest : event.request = .call (.acceptOrganizationReport id note))
    (horganization : event.user.organizationId = some organizationId)
    (herror : (outcome cfg event s).error = none) :
    HeldAt organizationId id (step cfg event s) := by
  unfold step
  rw [outcome_of_call hrequest] at herror ⊢
  cases hread : readCall cfg event.env s event.user (.acceptOrganizationReport id note) with
  | error e =>
    rw [execute, hread] at herror
    cases herror
  | ok actions =>
    obtain ⟨r, answering, hrow, hallowed, hactions⟩ := acceptOrganizationReport_eq_ok.mp hread
    obtain rfl : answering = organizationId :=
      Option.some.inj (hallowed.organization.symm.trans horganization)
    rcases hactions with ⟨hpending, hown, rfl⟩ | ⟨-, -, rfl⟩
    · rw [execute, hread]
      refine ⟨r, hrow, hown, hallowed.routed.imp_right fun hmatched => ?_⟩
      rw [(triage_of_legacyMatchedReview hmatched).1] at hpending
      cases hpending
    · exact ⟨_, execute_of_read hread hrow, heldBy_accepted hallowed⟩

/-- An organization keeps what it has accepted, in every run. -/
theorem keepsAccepted (cfg : Config) (events : List Event) : KeepsAccepted cfg events := by
  intro before event after _ id note organizationId hrequest horganization herror hroutes r hrow
  have haccepted : HeldAt organizationId id (run (step cfg) Store.empty (before ++ [event])) := by
    rw [run_append]
    exact heldAt_of_accepted hrequest horganization herror
  have hheld : HeldAt organizationId id
      (run (step cfg) (run (step cfg) Store.empty (before ++ [event])) after) :=
    Along.run_inv (I := HeldAt organizationId id) (fun _ _ => step_heldAt) haccepted hroutes
  rw [← run_append, List.append_assoc, List.singleton_append] at hheld
  obtain ⟨r', hrow', hr⟩ := hheld
  rw [Option.some.inj (hrow.symm.trans hrow')]
  exact hr.organization

/-! ### Updates that go past the review -/

/-- A status update that puts a report under review that was never proposed to an organization, or
that ends the review of another in place of the organization it is proposed to. -/
structure BypassesReview (user : JwtUser) (r : Report) (next : ReportStatus) : Prop where
  allowed : TransitionAllowed user r next
  bypasses : r.status = .triage ∧ r.assignedOrganizationId = none ∨
    r.status = .orgReview ∧ next = .pending ∧ user.role ≠ .superAdmin

/-- The step is no status update that goes past the review. -/
def RespectsReview (s : Store) (event : Event) : Prop :=
  ∀ r dto, s.report? r.id = some r → event.request = .call (.updateStatus r.id dto) →
    ¬ BypassesReview event.user r dto.status

/-- A report that is proposed to no organization is neither under review nor waits for dispatch,
and it is free. -/
def Unproposed (r : Report) : Prop :=
  r.assignedOrganizationId = none → r.status ≠ .orgReview ∧ r.status ≠ .pending ∧ Free r

theorem unproposed_of_proposed {r : Report} (h : r.assignedOrganizationId ≠ none) :
    Unproposed r :=
  fun hnone => absurd hnone h

theorem Unproposed.congr {r r' : Report} (h : Unproposed r)
    (hassigned : r'.assignedOrganizationId = r.assignedOrganizationId)
    (hprovider : r'.assignedProviderId = r.assignedProviderId)
    (hdeadline : r'.assignmentDeadlineAt = r.assignmentDeadlineAt)
    (hstatus : r'.status = r.status ∨ r'.status ≠ .orgReview ∧ r'.status ≠ .pending) :
    Unproposed r' := by
  intro hnone
  rw [hassigned] at hnone
  obtain ⟨hreview, hpending, hfree⟩ := h hnone
  have hfree' : Free r' := ⟨hprovider.trans hfree.1, hdeadline.trans hfree.2⟩
  rcases hstatus with hstatus | ⟨hreview', hpending'⟩
  · rw [hstatus]
    exact ⟨hreview, hpending, hfree'⟩
  · exact ⟨hreview', hpending', hfree'⟩

/-- A status update that does not go past the review brings a report that is proposed to no
organization neither under review nor to dispatch. -/
theorem Unproposed.of_transition {r : Report} {next : ReportStatus} (hr : Unproposed r)
    (hallowed : TransitionAllowed user r next) (hrespects : ¬ BypassesReview user r next)
    (hnone : r.assignedOrganizationId = none) : next ≠ .orgReview ∧ next ≠ .pending := by
  obtain ⟨hreview, hpending, -⟩ := hr hnone
  have htriage : r.status ≠ .triage := fun h => hrespects ⟨hallowed, .inl ⟨h, hnone⟩⟩
  have htransition := hallowed.transition
  cases hbefore : r.status <;> cases next <;>
    simp_all [canTransitionReportStatus, allowedReportTransitions]

/-- A call that does not go past the review leaves a report without a proposal so. -/
theorem change_unproposed {call : Call} {r r' : Report} (h : Change cfg env s user call r r')
    (hr : Unproposed r)
    (hrespects : ∀ dto, call = .updateStatus r.id dto → ¬ BypassesReview user r dto.status) :
    Unproposed r' := by
  cases h with
  | assignOrganization | acceptOrganizationReport => exact unproposed_of_proposed (by simp)
  | rejectOrganizationReport => exact fun _ => ⟨by simp, by simp, rfl, rfl⟩
  | updateStatus _ _ hallowed _ | submitCompletion _ hallowed _ _ =>
    intro hnone
    obtain ⟨hreview, hpending⟩ := hr.of_transition hallowed (hrespects _ rfl) hnone
    exact ⟨hreview, hpending, (hr hnone).2.2⟩
  -- without a proposal a report has no provider to lose, and is not to be given one
  | expire _ hswept =>
    intro hnone
    simp [sweptBy, isOverdue, (hr hnone).2.2.2] at hswept
  | cancelAssignment hallowed =>
    intro hnone
    exact absurd (hr hnone).2.2 hallowed.not_free
  | assignProviderById _ hallowed =>
    intro hnone
    exact absurd hallowed.pending (hr hnone).2.1
  | rejectAssignment hcalled _ _ =>
    intro hnone
    have hown := hcalled.own
    rw [(hr hnone).2.2.1] at hown
    cases hown
  | uploadCompletionEvidence | adminPlaceCompletionHold | adminRemoveCompletionHold
  | adminOverrideCompletionPolicy => exact hr.congr rfl rfl rfl (.inl rfl)
  | @uploadReportEvidence _ _ saved => cases saved <;> exact hr.congr rfl rfl rfl (.inl rfl)
  | confirmCitizenCompletion | verifyOrganizationCompletion =>
    refine hr.congr rfl rfl rfl (.inr ?_)
    dsimp only [confirmData, verifyData]
    split <;> simp
  | _ => exact hr.congr rfl rfl rfl (.inr (by simp))

/-- A step that respects the review leaves a report without a proposal so. -/
theorem stepChange_unproposed {r r' : Report} (hrow : s.report? r.id = some r)
    (hr : Unproposed r) (hrespects : RespectsReview s event) (h : StepChange cfg event s r r') :
    Unproposed r' := by
  cases h with
  | @call call hrequest hchange =>
    refine change_unproposed hchange hr fun dto hcall => ?_
    subst hcall
    exact hrespects r dto hrow hrequest
  | reassign _ hreassigned =>
    intro hnone
    cases hreassigned with
    | cancelled hallowed | moved hallowed => exact absurd (hr hnone).2.2 hallowed.not_free
    | assigned _ hallowed => exact absurd hallowed.pending (hr hnone).2.1

/-- A report that is proposed to no organization when it is created is in triage. -/
theorem createdReport_unproposed (env : Env) (user : JwtUser) (dto : RoutedReport)
    (organizationId locationSource : String) (intakeRoute : ResponsibilityResolution) :
    Unproposed (createdReport env user dto organizationId locationSource intakeRoute) := by
  intro hnone
  simp only [createdReport] at hnone ⊢
  refine ⟨?_, ?_, rfl, rfl⟩ <;> simp [hnone, truthy]

/-! ### Runs -/

/-- What holds of the reports in a run that respects the review. -/
def ReviewInv (s : Store) : Prop :=
  ∀ id r, s.report? id = some r → UnroutedFree r ∧ Unproposed r

theorem ReviewInv.allProposed (h : ReviewInv s) : AllProposed s :=
  fun id r hrow hreview hnone => ((h id r hrow).2 hnone).1 hreview

theorem step_reviewInv (hs : ReviewInv s) (hrespects : RespectsReview s event) :
    ReviewInv (step cfg event s) :=
  step_forall (P := fun r => UnroutedFree r ∧ Unproposed r)
    (fun dto organizationId locationSource intakeRoute => ⟨fun _ => ⟨rfl, rfl⟩,
      createdReport_unproposed event.env event.user dto organizationId locationSource intakeRoute⟩)
    (fun _ _ hrow hr h => ⟨stepChange_unroutedFree h hr.1,
      stepChange_unproposed hrow hr.2 hrespects h⟩) hs

/-- A call that takes a report past its review may do so, when it does not bypass it. -/
theorem change_mayRelease {call : Call} {r r' : Report} (hrequest : event.request = .call call)
    (hrow : s.report? r.id = some r) (h : Change cfg event.env s event.user call r r')
    (hrespects : RespectsReview s event) (hfree : Free r) (hreview : r.status = .orgReview)
    (hleft : r'.status ≠ .orgReview) (htriage : r'.status ≠ .triage) :
    MayRelease cfg s event r := by
  cases h with
  | assignOrganization _ hallowed =>
    have hroutable := hallowed.routable
    simp [hreview] at hroutable
  | @acceptOrganizationReport _ note organizationId hallowed hopen hawaiting =>
    refine .inr ⟨organizationId, note, hrequest, ?_,
      ⟨hallowed.organization, hallowed.operator⟩, ?_⟩
    · rw [outcome_of_call hrequest]
      exact execute_error_of_read (acceptOrganizationReport_eq_ok.mpr
        ⟨r, organizationId, hrow, hallowed, .inr ⟨hopen, hawaiting, rfl⟩⟩) hrow
    · refine hallowed.routed.resolve_right fun hmatched => ?_
      have hlegacy := (triage_of_legacyMatchedReview hmatched).1
      rw [hreview] at hlegacy
      cases hlegacy
  | rejectOrganizationReport => exact absurd rfl htriage
  | expire _ hswept => simp [sweptBy, isOverdue, hreview] at hswept
  | cancelAssignment hallowed => exact absurd hfree hallowed.not_free
  | assignProviderById _ hallowed =>
    have hpending := hallowed.pending
    rw [hreview] at hpending
    cases hpending
  | rejectAssignment _ _ hassigned =>
    rw [hreview] at hassigned
    cases hassigned
  | @updateStatus _ dto _ _ hallowed _ | @submitCompletion _ dto _ _ hallowed _ _ =>
    refine .inl ?_
    by_contra hrole
    refine hrespects r dto hrow hrequest ⟨hallowed, .inr ⟨hreview, ?_, hrole⟩⟩
    have htransition := hallowed.transition
    cases hnext : dto.status <;>
      simp_all [canTransitionReportStatus, allowedReportTransitions]
  | uploadCompletionEvidence | adminPlaceCompletionHold | adminRemoveCompletionHold
  | adminOverrideCompletionPolicy => exact absurd hreview hleft
  | @uploadReportEvidence _ _ saved => cases saved <;> exact absurd hreview hleft
  | confirmCitizenCompletion hreviews | rejectCitizenCompletion hreviews
  | verifyOrganizationCompletion hreviews | requestOrganizationCompletionRework hreviews =>
    have hcompleted := hreviews.completed
    simp [hreview] at hcompleted
  | adminResolveAndClose hallowed | adminReturnForCompletionRework hallowed
  | adminReopenCompletion hallowed => exact .inl hallowed.superAdmin
  | processCompletionReviewDeadlines _ _ _ _ heligible =>
    simp [deadlineEligible, hreview] at heligible

theorem step_releasesLawfully (hs : ReviewInv s) (hrespects : RespectsReview s event) :
    ReleasesLawfully cfg s event := by
  intro id r r' hrow hrow' hreview hleft htriage
  obtain rfl := id_of_report? hrow
  have hunrouted : isUnrouted r.status := by
    rw [hreview]
    rfl
  have hfree : Free r := (hs r.id r hrow).1 hunrouted
  obtain ⟨r₁, hrow₁, hchange⟩ := step_report? cfg event hrow
  obtain rfl : r₁ = r' := Option.some.inj (hrow₁.symm.trans hrow')
  rcases hchange with rfl | hchange
  · exact absurd hreview hleft
  cases hchange with
  | call hrequest hchange =>
    exact change_mayRelease hrequest hrow hchange hrespects hfree hreview hleft htriage
  | reassign _ hreassigned =>
    cases hreassigned with
    | cancelled hallowed | moved hallowed => exact absurd hfree hallowed.not_free
    | assigned _ hallowed =>
      have hpending := hallowed.pending
      rw [hreview] at hpending
      cases hpending

/-- The next status of an update that goes past the review. -/
theorem BypassesReview.next {r : Report} {next : ReportStatus} (h : BypassesReview user r next) :
    r.status = .triage ∧ r.assignedOrganizationId = none ∧ next = .orgReview ∨
      r.status = .orgReview ∧ next = .pending ∧ user.role ≠ .superAdmin := by
  have htransition := h.allowed.transition
  refine h.bypasses.imp_left fun ⟨htriage, hnone⟩ => ⟨htriage, hnone, ?_⟩
  cases hnext : next <;>
    simp_all [canTransitionReportStatus, allowedReportTransitions]

/-- A status update that goes past the review is carried out. -/
theorem BypassesReview.takes_place {r : Report} {dto : UpdateReportStatusDto}
    (h : BypassesReview event.user r dto.status) (hrow : s.report? r.id = some r)
    (hrequest : event.request = .call (.updateStatus r.id dto)) :
    (step cfg event s).report? r.id = some { r with status := dto.status } := by
  have hnext : dto.status ≠ .inProgress ∧ dto.status ≠ .completedByProvider := by
    rcases h.next with ⟨-, -, hnext⟩ | ⟨-, hnext, -⟩ <;> simp [hnext]
  have hprovider : event.user.isProvider = false := by
    rcases h.allowed.authority with ⟨-, -, hwork⟩ | ⟨hrole | hrole, -⟩ | hrole
    · exact absurd hwork (not_or.mpr hnext)
    all_goals simp [JwtUser.isProvider, hrole]
  have hready : ProviderReady event.env event.user dto.status := by simp [ProviderReady, hprovider]
  have hlate : startsLate event.env event.user r dto.status = false := by
    simp [startsLate, hprovider]
  exact (Change.updateStatus hlate hready h.allowed hnext.2).takes_place hrequest hrow rfl

/-- A step keeps the reviews exactly when it is no status update that goes past one. -/
theorem respectsReview_iff (hs : ReviewInv s) :
    AllProposed (step cfg event s) ∧ ReleasesLawfully cfg s event ↔ RespectsReview s event := by
  constructor
  · rintro ⟨hproposed, hreleases⟩ r dto hrow hrequest hbypasses
    have hrow' : (step cfg event s).report? r.id = some { r with status := dto.status } :=
      hbypasses.takes_place hrow hrequest
    rcases hbypasses.next with ⟨-, hnone, hnext⟩ | ⟨hreview, hnext, hrole⟩
    · exact hproposed r.id _ hrow' hnext hnone
    · rcases hreleases r.id r _ hrow hrow' hreview (by simp [hnext]) (by simp [hnext]) with
        hsuper | ⟨_, _, haccepts, -⟩
      · exact hrole hsuper
      · rw [hrequest] at haccepts
        cases haccepts
  · intro hrespects
    exact ⟨(step_reviewInv hs hrespects).allProposed, step_releasesLawfully hs hrespects⟩

/-- **Accepted work.** In a run from the empty store an organization only gets work it accepted
exactly when no step updates the status of a report past its review. -/
theorem only_accepted_work_iff (cfg : Config) (events : List Event) :
    OnlyAcceptedWork cfg events ↔ Along (step cfg) RespectsReview Store.empty events := by
  have hempty : ReviewInv Store.empty := fun _ _ hrow => by cases hrow
  have hsteps : Along (step cfg)
      (fun s event => AllProposed (step cfg event s) ∧ ReleasesLawfully cfg s event)
      Store.empty events ↔ Along (step cfg) RespectsReview Store.empty events :=
    along_congr_of_inv (I := ReviewInv)
      (fun _ _ hs hkept => step_reviewInv hs ((respectsReview_iff hs).mp hkept))
      (fun _ _ hs => respectsReview_iff hs) hempty events
  rw [along_and] at hsteps
  rw [← hsteps]
  constructor
  · intro h
    exact ⟨(throughout_iff_steps.mp h.proposed).2, h.released⟩
  · rintro ⟨hproposed, hreleased⟩
    exact ⟨throughout_iff_steps.mpr ⟨hempty.allProposed, hproposed⟩, hreleased,
      keepsAccepted cfg events⟩

namespace Example

/-- The platform proposes the citizen's report to another organization than the citizen's. -/
def proposedElsewhere : List Event :=
  [created, ⟨{ surroundings 1 with organizations := [{ id := "other" }] }, superAdmin,
    .call (.assignOrganization "report"
      { organizationId := "other", reason := some "Their street", overrideReadiness := true })⟩]

/-- The administrator of the citizen's organization takes it out of that review. -/
def tookOver : Event := at_ 2 orgAdmin (.updateStatus "report" { status := .pending })

end Example

/-- An organization ends the review of a report that is proposed to another. -/
theorem review_taken_over :
    ¬ ∀ (cfg : Config) (events : List Event), OnlyAcceptedWork cfg events := by
  intro h
  have hproposed : ((run (step {}) Store.empty Example.proposedElsewhere).report? "report").any
      (fun r => r.status = .orgReview ∧ r.organizationId = "org") := by
    decide +kernel
  obtain ⟨r, hrow, hr⟩ := (Option.any_eq_true _ _).mp hproposed
  obtain ⟨hreview, hown⟩ := of_decide_eq_true hr
  have hreleases := along_iff.mp (h {} (Example.proposedElsewhere ++ [Example.tookOver])).released
    Example.proposedElsewhere Example.tookOver [] rfl
  have hallowed : TransitionAllowed Example.orgAdmin r .pending :=
    ⟨by simp, by rw [hreview]; rfl, .inr (.inl ⟨.inl rfl, by rw [hown]; rfl⟩)⟩
  have hbypasses : BypassesReview Example.orgAdmin r .pending :=
    ⟨hallowed, .inr ⟨hreview, rfl, by simp [Example.orgAdmin]⟩⟩
  have hid := id_of_report? hrow
  have hrequest : Example.tookOver.request =
      .call (.updateStatus r.id { status := .pending }) := by
    rw [hid]
    rfl
  rw [← hid] at hrow
  have htaken : (step {} Example.tookOver _).report? r.id = some { r with status := .pending } :=
    hbypasses.takes_place hrow hrequest
  rcases hreleases r.id r _ hrow htaken hreview (by simp) (by simp) with
    hsuper | ⟨_, _, haccepts, -⟩
  · cases hsuper
  · rw [hrequest] at haccepts
    cases haccepts

end FixZone.ReportService
