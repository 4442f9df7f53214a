import FixZone.Report.Closure

/-!
# Governance holds

A hold is to freeze a completion: while it lies on a report, the report's status, the
decisions on its completion and the review state `GOVERNANCE_HOLD` stay as they are,
until `adminRemoveCompletionHold` takes it away. The hold is enforced by
`assertNoActiveCompletionBlockers` and a check of `adminResolveAndClose`, and no other
method looks at it. `IgnoresHold` lists what the others may do to a report on hold, and
`hold_freezes_iff` says that along a run holds freeze what they are to exactly when no
step does one of these things.
-/

namespace FixZone.ReportService

open Library Organization

variable {cfg : Config} {env : Env} {s : Store} {user : JwtUser} {event : Event}

/-- The columns a hold freezes, and the hold itself. -/
structure FrozenAs (r r' : Report) : Prop where
  hold : r'.completionGovernanceHoldReason = r.completionGovernanceHoldReason
  status : r'.status = r.status
  citizen : r'.citizenCompletionDecision = r.citizenCompletionDecision
  organization : r'.organizationCompletionDecision = r.organizationCompletionDecision
  reviewState : r.completionReviewState = some .governanceHold →
    r'.completionReviewState = some .governanceHold

/-- A successful `adminRemoveCompletionHold` of the report. -/
def RemovesHold (cfg : Config) (s : Store) (event : Event) (id : String) : Prop :=
  (∃ reason, event.request = .call (.adminRemoveCompletionHold id reason)) ∧
    (outcome cfg event s).error = none

/-- The step leaves the reports on hold frozen, but for one whose hold it removes. -/
def KeepsHeld (cfg : Config) (s : Store) (event : Event) : Prop :=
  ∀ id r, s.report? id = some r → onHold r →
    RemovesHold cfg s event id ∨ ∃ r', (step cfg event s).report? id = some r' ∧ FrozenAs r r'

/-- What a request may do to the report `r` without looking at its hold. -/
inductive IgnoresHold (cfg : Config) (s : Store) (event : Event) (r : Report) : Prop where
  | assignOrganization {dto : AssignOrganizationDto}
      {organization : ResponsibilityOrganizationProfile} :
      event.request = .call (.assignOrganization r.id dto) →
      event.env.organization? dto.organizationId = some organization →
      RouteAllowed cfg event.user r dto organization →
      ¬(r.status = .pending ∧ dto.establishAuthoritativeOwnership) → IgnoresHold cfg s event r
  | acceptOrganizationReport {note : Option String} {organizationId : String} :
      event.request = .call (.acceptOrganizationReport r.id note) →
      IntakeAllowed s event.user organizationId r →
      r.status = .orgReview ∨ legacyMatchedReview s r organizationId → IgnoresHold cfg s event r
  | rejectOrganizationReport {reason : String} {suggested : Option String}
      {organizationId : String} :
      event.request = .call (.rejectOrganizationReport r.id reason suggested) →
      IntakeAllowed s event.user organizationId r → trim reason ≠ "" → r.status = .orgReview →
      trimmed suggested = "" ∨ event.env.organization? (trimmed suggested) ≠ none →
        IgnoresHold cfg s event r
  | expire {call : Call} {filter : ExpiryFilter} : event.request = .call call →
      Sweeps event.env s event.user call filter → sweptBy event.env filter r →
        IgnoresHold cfg s event r
  | cancelAssignment {reason : Option String} :
      event.request = .call (.cancelAssignment r.id reason) →
      CancelAllowed event.user r → IgnoresHold cfg s event r
  | assignProviderById {provider : User} {providerId : String} {options : AssignOptions} :
      event.request = .call (.assignProviderById r.id providerId options) →
      event.env.user? providerId = some provider → AssignAllowed event.user r provider options →
      IgnoresHold cfg s event r
  | rejectAssignment {reason : String} : event.request = .call (.rejectAssignment r.id reason) →
      RejectCalled event.env event.user r → assignmentLapsed event.env r event.user.id = false →
      r.status = .assigned → IgnoresHold cfg s event r
  | updateStatus {dto : UpdateReportStatusDto} : event.request = .call (.updateStatus r.id dto) →
      startsLate event.env event.user r dto.status = false →
        ProviderReady event.env event.user dto.status →
      TransitionAllowed event.user r dto.status →
      (dto.status = .completedByProvider → ∃ policy, CompletionReady cfg event.env s r dto policy) →
      IgnoresHold cfg s event r
  | rejectCitizenCompletion {reason : String} :
      event.request = .call (.rejectCitizenCompletion r.id reason) →
      CitizenReviews event.user r → r.citizenCompletionDecision ≠ some .confirmed →
      r.citizenCompletionDecision ≠ some .reworkRequested → trim reason ≠ "" →
        IgnoresHold cfg s event r
  | requestOrganizationCompletionRework {reason : String} :
      event.request = .call (.requestOrganizationCompletionRework r.id reason) →
      OrganizationReviews event.user r → r.organizationCompletionDecision ≠ some .verified →
      r.organizationCompletionDecision ≠ some .reworkRequested → trim reason ≠ "" →
        IgnoresHold cfg s event r
  | adminReturnForCompletionRework {reason : String} :
      event.request = .call (.adminReturnForCompletionRework r.id reason) →
      GovernanceAllowed event.user reason → r.status ≠ .closed →
      r.completionReviewState ≠ some .reworkRequested →
      r.status ≠ .assigned ∨ r.organizationCompletionDecision ≠ some .escalated ∨
        r.completionReviewState = some .governanceHold → IgnoresHold cfg s event r
  | adminReopenCompletion {reason : String} :
      event.request = .call (.adminReopenCompletion r.id reason) →
      GovernanceAllowed event.user reason → r.status = .closed → IgnoresHold cfg s event r
  | adminOverrideCompletionPolicy {policy : CompletionPolicy} {reason : String} :
      event.request = .call (.adminOverrideCompletionPolicy r.id policy reason) →
      GovernanceAllowed event.user reason → r.status ≠ .closed → policyForReport cfg r ≠ policy →
      r.completionReviewState = some .governanceHold → IgnoresHold cfg s event r
  | reassignCancels {providerId : String} {reason : Option String} :
      event.request = .reassignProvider r.id providerId reason → CancelAllowed event.user r →
      (r.status = .assigned → ∀ provider, event.env.user? providerId = some provider →
        ¬ AssignAllowed event.user ((reassignCancelData event.env reason r).apply r) provider {}) →
      IgnoresHold cfg s event r
  | reassignAssigns {provider : User} {providerId : String} {reason : Option String} :
      event.request = .reassignProvider r.id providerId reason →
        event.env.user? providerId = some provider →
      AssignAllowed event.user r provider {} → IgnoresHold cfg s event r

/-- The review state under a policy is never the one of a hold. -/
theorem reviewStateFor_ne_governanceHold (policy : CompletionPolicy)
    (c o : Option CompletionDecision) :
    reviewStateFor policy c o ≠ .governanceHold := by
  unfold reviewStateFor
  split_ifs <;> simp

/-- A call that changes a report on hold removes the hold, ignores it or leaves the report frozen. -/
theorem change_of_held {call : Call} {r r' : Report} (hrequest : event.request = .call call)
    (h : Change cfg event.env s event.user call r r') (hheld : onHold r) :
    (∃ reason, call = .adminRemoveCompletionHold r.id reason ∧
      GovernanceAllowed event.user reason) ∨
      IgnoresHold cfg s event r ∨ FrozenAs r r' := by
  cases h with
  | @assignOrganization _ dto _ ho hallowed =>
    by_cases hpending : r.status = .pending ∧ dto.establishAuthoritativeOwnership
    · exact .inr (.inr ⟨rfl, by simp [hpending], rfl, rfl, id⟩)
    · exact .inr (.inl (.assignOrganization hrequest ho hallowed hpending))
  | acceptOrganizationReport hallowed _ hreview =>
    exact .inr (.inl (.acceptOrganizationReport hrequest hallowed hreview))
  | rejectOrganizationReport hallowed hreason hreview hsuggested =>
    rcases hreview with hreview | hlegacy
    · exact .inr (.inl (.rejectOrganizationReport hrequest hallowed hreason hreview hsuggested))
    · exact .inr (.inr ⟨rfl, (triage_of_legacyMatchedReview hlegacy).1.symm, rfl, rfl, id⟩)
  | expire hsweeps hswept => exact .inr (.inl (.expire hrequest hsweeps hswept))
  | cancelAssignment hallowed => exact .inr (.inl (.cancelAssignment hrequest hallowed))
  | assignProviderById hp hallowed => exact .inr (.inl (.assignProviderById hrequest hp hallowed))
  | rejectAssignment hcalled hlapsed hassigned =>
    exact .inr (.inl (.rejectAssignment hrequest hcalled hlapsed hassigned))
  | updateStatus hlate hready hallowed hc =>
    exact .inr (.inl (.updateStatus hrequest hlate hready hallowed fun h => absurd h hc))
  | submitCompletion hready hallowed hc hpolicy =>
    exact .inr (.inl (.updateStatus hrequest (by simp [startsLate, hc]) hready hallowed fun _ =>
      ⟨_, hpolicy⟩))
  | uploadCompletionEvidence => exact .inr (.inr ⟨rfl, rfl, rfl, rfl, id⟩)
  | @uploadReportEvidence _ _ saved => cases saved <;> exact .inr (.inr ⟨rfl, rfl, rfl, rfl, id⟩)
  | confirmCitizenCompletion _ _ hunblocked | verifyOrganizationCompletion _ _ hunblocked _ =>
    have := hunblocked.unheld
    simp [hheld] at this
  | rejectCitizenCompletion hreviews hconfirmed hrework hreason =>
    exact .inr (.inl (.rejectCitizenCompletion hrequest hreviews hconfirmed hrework hreason))
  | requestOrganizationCompletionRework hreviews hverified hrework hreason =>
    exact .inr (.inl
      (.requestOrganizationCompletionRework hrequest hreviews hverified hrework hreason))
  | adminResolveAndClose _ _ hunheld | adminPlaceCompletionHold _ _ hunheld =>
      simp [hheld] at hunheld
  | adminReturnForCompletionRework hallowed hopen hstate =>
    by_cases hthaws : r.status ≠ .assigned ∨ r.organizationCompletionDecision ≠ some .escalated ∨
        r.completionReviewState = some .governanceHold
    · exact .inr (.inl (.adminReturnForCompletionRework hrequest hallowed hopen hstate hthaws))
    · simp only [not_or, not_not] at hthaws
      obtain ⟨hstatus, horganization, hreview⟩ := hthaws
      exact .inr (.inr ⟨rfl, hstatus.symm, rfl, horganization.symm, fun h => absurd h hreview⟩)
  | adminRemoveCompletionHold hallowed _ => exact .inl ⟨_, rfl, hallowed⟩
  | adminReopenCompletion hallowed hclosed =>
      exact .inr (.inl (.adminReopenCompletion hrequest hallowed hclosed))
  | adminOverrideCompletionPolicy hallowed hopen hpolicy =>
    by_cases hreview : r.completionReviewState = some .governanceHold
    · exact .inr (.inl (.adminOverrideCompletionPolicy hrequest hallowed hopen hpolicy hreview))
    · exact .inr (.inr ⟨rfl, rfl, rfl, rfl, fun h => absurd h hreview⟩)
  | processCompletionReviewDeadlines _ _ _ _ heligible =>
    have := (deadlineEligible_iff.mp heligible).2.1.unheld
    simp [hheld] at this

/-- So does a reassignment, which removes no hold. -/
theorem reassigned_of_held {providerId : String} {reason : Option String} {r r' : Report}
    (hrequest : event.request = .reassignProvider r.id providerId reason)
    (h : Reassigned cfg event.env event.user providerId reason r r') :
    IgnoresHold cfg s event r ∨ FrozenAs r r' := by
  cases h with
  | cancelled hallowed hrefused => exact .inl (.reassignCancels hrequest hallowed fun _ => hrefused)
  | assigned hp hallowed => exact .inl (.reassignAssigns hrequest hp hallowed)
  | moved hallowed hp hassign =>
    by_cases hassigned : r.status = .assigned
    · exact .inr ⟨rfl, hassigned.symm, rfl, rfl, id⟩
    · exact .inl (.reassignCancels hrequest hallowed fun h => absurd h hassigned)

/-- A report whose status a step changes is not frozen by it. -/
theorem not_frozenAs_of_status {r r' : Report} (h : r'.status ≠ r.status) : ¬ FrozenAs r r' :=
  fun hfrozen => h hfrozen.status

/-- A request that ignores the hold of a report thaws it. -/
theorem IgnoresHold.thaws {r : Report} (h : IgnoresHold cfg s event r)
    (hrow : s.report? r.id = some r) :
    ∃ r', (step cfg event s).report? r.id = some r' ∧ ¬ FrozenAs r r' := by
  cases h with
  | @assignOrganization dto _ hrequest ho hallowed hpending =>
    refine ⟨_, (Change.assignOrganization ho hallowed).takes_place hrequest hrow rfl,
      not_frozenAs_of_status ?_⟩
    have hroutable := hallowed.routable
    cases howned : dto.establishAuthoritativeOwnership <;> grind [assignOrganizationData]
  | acceptOrganizationReport hrequest hallowed hreview =>
    have hpending : r.status ≠ .pending := by
      intro hpending
      rcases hreview with hreview | hlegacy
      · simp [hpending] at hreview
      · have htriage := (triage_of_legacyMatchedReview hlegacy).1
        simp [hpending] at htriage
    refine ⟨_, (Change.acceptOrganizationReport hallowed
      (fun h => hpending h.1) hreview).takes_place hrequest hrow rfl,
      not_frozenAs_of_status ?_⟩
    simpa using hpending.symm
  | rejectOrganizationReport hrequest hallowed hreason hreview hsuggested =>
    refine ⟨_, (Change.rejectOrganizationReport hallowed hreason
      (.inl hreview) hsuggested).takes_place hrequest hrow
      rfl, not_frozenAs_of_status ?_⟩
    simp [hreview]
  | expire hrequest hsweeps hswept =>
    refine ⟨_, (Change.expire hsweeps hswept).takes_place hrequest hrow ?_,
      not_frozenAs_of_status ?_⟩
    · cases hsweeps <;> rfl
    · simp only [sweptBy, isOverdue, Bool.and_eq_true, decide_eq_true_eq] at hswept
      simp [hswept.1.1]
  | cancelAssignment hrequest hallowed =>
    exact ⟨_, (Change.cancelAssignment hallowed).takes_place hrequest hrow rfl,
      not_frozenAs_of_status hallowed.active.symm⟩
  | assignProviderById hrequest hp hallowed =>
    refine ⟨_, (Change.assignProviderById hp hallowed).takes_place hrequest hrow rfl,
      not_frozenAs_of_status ?_⟩
    simp [hallowed.pending]
  | rejectAssignment hrequest hcalled hlapsed hassigned =>
    refine ⟨_, (Change.rejectAssignment hcalled hlapsed hassigned).takes_place hrequest hrow rfl,
      not_frozenAs_of_status ?_⟩
    simp [hassigned]
  | @updateStatus dto hrequest hlate hready hallowed hpolicy =>
    have hnext := ne_of_canTransitionReportStatus hallowed.transition
    by_cases hc : dto.status = .completedByProvider
    · obtain ⟨policy, hpolicy⟩ := hpolicy hc
      exact ⟨_, (Change.submitCompletion hready hallowed hc hpolicy).takes_place hrequest hrow rfl,
        not_frozenAs_of_status hnext.symm⟩
    · exact ⟨_, (Change.updateStatus hlate hready hallowed hc).takes_place hrequest hrow rfl,
        not_frozenAs_of_status hnext.symm⟩
  | rejectCitizenCompletion hrequest hreviews hconfirmed hrework hreason =>
    refine ⟨_, (Change.rejectCitizenCompletion hreviews hconfirmed hrework hreason).takes_place
      hrequest hrow rfl, ?_⟩
    intro hfrozen
    exact hrework hfrozen.citizen.symm
  | requestOrganizationCompletionRework hrequest hreviews hverified hrework hreason =>
    refine ⟨_, (Change.requestOrganizationCompletionRework hreviews hverified hrework
      hreason).takes_place hrequest hrow rfl, ?_⟩
    intro hfrozen
    exact hrework hfrozen.organization.symm
  | adminReturnForCompletionRework hrequest hallowed hopen hstate hthaws =>
    refine ⟨_, (Change.adminReturnForCompletionRework hallowed hopen hstate).takes_place hrequest
      hrow rfl, ?_⟩
    intro hfrozen
    rcases hthaws with hstatus | horganization | hreview
    · exact hstatus hfrozen.status.symm
    · exact horganization hfrozen.organization.symm
    · have := hfrozen.reviewState hreview
      simp at this
  | adminReopenCompletion hrequest hallowed hclosed =>
    refine ⟨_, (Change.adminReopenCompletion hallowed hclosed).takes_place hrequest hrow rfl,
      not_frozenAs_of_status ?_⟩
    simp [hclosed]
  | adminOverrideCompletionPolicy hrequest hallowed hopen hpolicy hreview =>
    refine ⟨_, (Change.adminOverrideCompletionPolicy hallowed hopen hpolicy).takes_place hrequest
      hrow rfl, ?_⟩
    intro hfrozen
    exact reviewStateFor_ne_governanceHold _ _ _ (Option.some.inj (hfrozen.reviewState hreview))
  | @reassignCancels providerId reason hrequest hallowed hrefused =>
    by_cases hassign : ∃ provider, event.env.user? providerId = some provider ∧
        AssignAllowed event.user ((reassignCancelData event.env reason r).apply r) provider {}
    · obtain ⟨provider, hp, hassign⟩ := hassign
      refine ⟨_, (Reassigned.moved hallowed hp hassign).takes_place hrequest hrow, not_frozenAs_of_status ?_⟩
      intro hstatus
      exact hrefused hstatus.symm provider hp hassign
    · have hrefused : ∀ provider, event.env.user? providerId = some provider →
          ¬ AssignAllowed event.user ((reassignCancelData event.env reason r).apply r) provider {} :=
        fun provider hp hallowed => hassign ⟨provider, hp, hallowed⟩
      exact ⟨_, (Reassigned.cancelled hallowed hrefused).takes_place hrequest hrow,
        not_frozenAs_of_status hallowed.active.symm⟩
  | reassignAssigns hrequest hp hallowed =>
    refine ⟨_, (Reassigned.assigned hp hallowed).takes_place hrequest hrow, not_frozenAs_of_status ?_⟩
    simp [hallowed.pending]

/-- A request that ignores a hold does not remove it. -/
theorem IgnoresHold.not_removesHold {r : Report} {id : String} (h : IgnoresHold cfg s event r) :
    ¬ RemovesHold cfg s event id := by
  rintro ⟨⟨reason, hremove⟩, -⟩
  cases h with
  | expire hrequest hsweeps _ =>
    rw [hremove] at hrequest
    cases hrequest
    cases hsweeps
  | assignOrganization hrequest _ _ _ | acceptOrganizationReport hrequest _ _
  | rejectOrganizationReport hrequest _ _ _ _ | cancelAssignment hrequest _ | assignProviderById hrequest _ _
  | rejectAssignment hrequest _ _ _ | updateStatus hrequest _ _ _ _ | rejectCitizenCompletion hrequest _ _ _ _
  | requestOrganizationCompletionRework hrequest _ _ _ _ | adminReturnForCompletionRework hrequest _ _ _ _
  | adminReopenCompletion hrequest _ _ | adminOverrideCompletionPolicy hrequest _ _ _ _
  | reassignCancels hrequest _ _ | reassignAssigns hrequest _ _ =>
    rw [hremove] at hrequest
    cases hrequest

/-- A step leaves the reports on hold frozen exactly when it ignores no hold. -/
theorem step_keepsHeld_iff :
    KeepsHeld cfg s event ↔ ¬ ∃ r, s.report? r.id = some r ∧ onHold r ∧
      IgnoresHold cfg s event r := by
  constructor
  · rintro hkeeps ⟨r, hrow, hheld, hignores⟩
    rcases hkeeps r.id r hrow hheld with hremoves | ⟨r', hrow', hfrozen⟩
    · exact hignores.not_removesHold hremoves
    · obtain ⟨r'', hrow'', hthawed⟩ := hignores.thaws hrow
      obtain rfl : r'' = r' := Option.some.inj (hrow''.symm.trans hrow')
      exact hthawed hfrozen
  · intro hno id r hrow hheld
    have hid := id_of_report? hrow
    subst hid
    obtain ⟨r', hrow', hchange⟩ := step_report? cfg event hrow
    rcases hchange with rfl | ⟨hrequest, hchange⟩ | ⟨hrequest, hreassigned⟩
    · exact .inr ⟨_, hrow', rfl, rfl, rfl, rfl, fun h => h⟩
    · rcases change_of_held hrequest hchange hheld with ⟨reason, rfl, hallowed⟩ | hignores | hfrozen
      · refine .inl ⟨⟨reason, hrequest⟩, ?_⟩
        have hread : readCall cfg event.env s event.user
            (.adminRemoveCompletionHold r.id reason) = .ok _ :=
          adminRemoveCompletionHold_eq_ok.mpr ⟨r, hrow, hallowed, hheld, rfl⟩
        rw [outcome, hrequest]
        exact execute_error_of_read hread hrow
      · exact absurd ⟨r, hrow, hheld, hignores⟩ hno
      · exact .inr ⟨r', hrow', hfrozen⟩
    · rcases reassigned_of_held (s := s) hrequest hreassigned with hignores | hfrozen
      · exact absurd ⟨r, hrow, hheld, hignores⟩ hno
      · exact .inr ⟨r', hrow', hfrozen⟩

/-- **A hold freezes the completion.** Along a run the reports on hold stay frozen until their
hold is removed exactly when no step ignores the hold of a report. -/
theorem hold_freezes_iff (cfg : Config) (s : Store) (events : List Event) :
    Along (step cfg) (KeepsHeld cfg) s events ↔
      Along (step cfg)
        (fun s event => ¬ ∃ r, s.report? r.id = some r ∧ onHold r ∧
          IgnoresHold cfg s event r) s events :=
  along_congr (fun _ _ => step_keepsHeld_iff) s events

/-- The citizen sends back the completion of a report on hold. -/
theorem held_report_sent_back :
    ¬ ∀ (cfg : Config) (s : Store) (events : List Event),
      Along (step cfg) (KeepsHeld cfg) s events := by
  intro h
  let sentBack := Example.at_ 4 Example.citizen (.rejectCitizenCompletion "report" "Still dark")
  have hstep := along_iff.mp (h {} Store.empty (heldRun ++ [sentBack])) heldRun _ [] rfl
  have hheld : ((run (step {}) Store.empty heldRun).report? "report").map (fun r =>
      (r.status, onHold r, r.citizenId, r.citizenCompletionDecision)) =
        some (.completedByProvider, true, "citizen", none) := by
    decide +kernel
  obtain ⟨r, hr, hcolumns⟩ := Option.map_eq_some_iff.mp hheld
  simp only [Prod.mk.injEq] at hcolumns
  obtain ⟨hcompleted, hheld, hcitizen, hdecision⟩ := hcolumns
  have hid := id_of_report? hr
  have hrequest : sentBack.request = .call (.rejectCitizenCompletion r.id "Still dark") := by
    rw [hid]
    rfl
  have hreviews : CitizenReviews Example.citizen r := ⟨rfl, hcitizen, .inl hcompleted⟩
  exact step_keepsHeld_iff.mp hstep ⟨r, hid ▸ hr, hheld,
    .rejectCitizenCompletion hrequest hreviews (by simp [hdecision]) (by simp [hdecision])
      (by decide)⟩

end FixZone.ReportService
