import FixZone.Library.Run
import FixZone.Report.Change

/-!
# Time limits of assignments

An assignment carries a deadline by which its provider is to start work, and
`expireOverdueAssignments` takes a report whose deadline has passed away from a provider
who has not. The deadline is not cleared when work starts. So when the work is sent back,
by the citizen, the organization or the platform, the report is `ASSIGNED` again under a
deadline that may be long over, and the next sweep takes it away from a provider who did
start in time. `started_work_not_timed_out_iff` says exactly when this does not happen.
-/

namespace FixZone.ReportService

open Library Organization

variable {cfg : Config} {env : Env} {s : Store} {user : JwtUser} {event : Event} {id : String}

/-! ### Assigning, starting and sending back -/

/-- A successful assignment of the report, direct or by reassignment. -/
def Assigns (cfg : Config) (s : Store) (event : Event) (id : String) : Prop :=
  ((∃ providerId options, event.request = .call (.assignProviderById id providerId options)) ∨
    ∃ providerId reason, event.request = .reassignProvider id providerId reason) ∧
  (outcome cfg event s).error = none

/-- A provider moves the report to `IN_PROGRESS`. -/
def Starts (cfg : Config) (s : Store) (event : Event) (id : String) : Prop :=
  event.user.isProvider ∧
    (∃ dto, dto.status = .inProgress ∧ event.request = .call (.updateStatus id dto)) ∧
    (outcome cfg event s).error = none

/-- Someone asks for rework on the report. -/
inductive SendsBack (event : Event) (id : String) : Prop where
  | citizen {reason : String} : event.request = .call (.rejectCitizenCompletion id reason) →
      SendsBack event id
  | organization {reason : String} :
      event.request = .call (.requestOrganizationCompletionRework id reason) →
      SendsBack event id
  | platform {reason : String} : event.request = .call (.adminReturnForCompletionRework id reason) →
      SendsBack event id

/-- After `hist` the latest assignment of the report is `assign`, its provider has started work
since, and `since` is what happened after that. -/
def StartedUnder (cfg : Config) (s : Store) (id : String) (assign : Event)
    (hist since : List Event) : Prop :=
  ∃ pre mid start, hist = pre ++ assign :: (mid ++ start :: since) ∧
    Assigns cfg (run (step cfg) s pre) assign id ∧
    Along (step cfg) (fun s event => ¬ Assigns cfg s event id)
      (step cfg assign (run (step cfg) s pre)) (mid ++ start :: since) ∧
    Starts cfg (run (step cfg) (step cfg assign (run (step cfg) s pre)) mid) start id

/-- The step takes the assigned report away from its provider because its time is over, or
refuses the provider's start for that. -/
inductive TimesOut (cfg : Config) (s : Store) (event : Event) (id : String) : Prop where
  | expired {r r' : Report} : s.report? id = some r → r.status = .assigned →
      (step cfg event s).report? id = some r' → r'.status = .pending →
        r'.assignedProviderId = none →
      r'.lastAssignmentOutcome = some .timedOut → TimesOut cfg s event id
  | refused {dto : UpdateReportStatusDto} : event.request = .call (.updateStatus id dto) →
      readCall cfg event.env s event.user (.updateStatus id dto) =
        .ok (expireAndRefuse event.env s event.user) →
      TimesOut cfg s event id

/-- The deadline an assignment sets. -/
def acceptanceDeadline (cfg : Config) (assign : Event) : Millis :=
  assign.env.now + cfg.assignmentTimeoutMinutes * 60 * 1000

/-! ### Steps -/

/-- A change from an assignment to `PENDING` that records a time-out is an expiry. -/
theorem change_timedOut {call : Call} {r r' : Report} (h : Change cfg env s user call r r')
    (hassigned : r.status = .assigned) (hpending : r'.status = .pending)
    (houtcome : r'.lastAssignmentOutcome = some .timedOut) :
    ∃ filter, Sweeps env s user call filter ∧ sweptBy env filter r := by
  cases h with
  | expire hsweeps hswept => exact ⟨_, hsweeps, hswept⟩
  | assignOrganization | acceptOrganizationReport | cancelAssignment | rejectAssignment =>
      simp at houtcome
  | updateStatus _ _ hallowed _ | submitCompletion _ hallowed _ _ =>
    have htransition := hallowed.transition
    simp only [statusData, completionData] at hpending
    rw [hassigned, hpending] at htransition
    cases htransition
  | uploadCompletionEvidence | adminPlaceCompletionHold | adminRemoveCompletionHold
  | adminOverrideCompletionPolicy => simp [hassigned] at hpending
  | @uploadReportEvidence _ _ saved => cases saved <;> simp [hassigned] at hpending
  | confirmCitizenCompletion | verifyOrganizationCompletion =>
    simp only [confirmData, verifyData] at hpending
    split at hpending <;> cases hpending
  | _ => simp at hpending

/-- A step times a report out exactly when it sweeps the report. -/
theorem timesOut_iff : TimesOut cfg s event id ↔
    ∃ call filter r, event.request = .call call ∧ Sweeps event.env s event.user call filter ∧
      s.report? id = some r ∧ sweptBy event.env filter r := by
  constructor
  · intro h
    cases h with
    | @expired r r' hrow hassigned hrow' hpending _ houtcome =>
      obtain ⟨r'', hrow'', hchange⟩ := step_report? cfg event hrow
      obtain rfl : r'' = r' := Option.some.inj (hrow''.symm.trans hrow')
      rcases hchange with rfl | ⟨hrequest, hchange⟩ | ⟨-, hreassigned⟩
      · simp [hassigned] at hpending
      · obtain ⟨filter, hsweeps, hswept⟩ := change_timedOut hchange hassigned hpending houtcome
        exact ⟨_, filter, r, hrequest, hsweeps, hrow, hswept⟩
      · cases hreassigned <;> simp [reassignCancelData] at hpending houtcome
    | @refused dto hrequest hread =>
      obtain ⟨r, hrow, ⟨hprovider, hactive, hlate, -⟩ | ⟨-, -, -, hactions⟩⟩ :=
        updateStatus_eq_ok.mp hread
      · have hid := id_of_report? hrow
        subst hid
        refine ⟨_, _, r, hrequest, .startLapsed hrow hprovider hactive hlate, hrow, ?_⟩
        simp only [startsLate, assignmentLapsed, Bool.and_eq_true, decide_eq_true_eq] at hlate
        obtain ⟨-, ⟨hassigned, hown⟩, hover⟩ := hlate
        simp [sweptBy, isOverdue, ExpiryFilter.covers, hassigned, hown, hover]
      · have hthrows : Action.throw (conflict "Assignment acceptance window expired") ∈
            expireAndRefuse event.env s event.user := by simp [expireAndRefuse]
        rcases (statusUpdate_eq_ok (id_of_report? hrow)).mp hactions with ⟨-, h⟩ | ⟨-, _, -, h⟩ <;>
          simp [← h] at hthrows
  · rintro ⟨call, filter, r, hrequest, hsweeps, hrow, hswept⟩
    have hid := id_of_report? hrow
    subst hid
    have hassigned : r.status = .assigned := by
      simp only [sweptBy, isOverdue, Bool.and_eq_true, decide_eq_true_eq] at hswept
      exact hswept.1.1
    have hcall : call.isUpload = false := by cases hsweeps <;> rfl
    exact .expired hrow hassigned
      ((Change.expire hsweeps hswept).takes_place hrequest hrow hcall) rfl rfl rfl

/-! ### Successful requests -/

/-- A call that throws nothing was read. -/
theorem readCall_of_execute_error {call : Call} (h : (execute cfg env s user call).error = none) :
    ∃ actions, readCall cfg env s user call = .ok actions ∧
      execute cfg env s user call = performAll env actions s := by
  unfold execute at h ⊢
  cases hread : readCall cfg env s user call with
  | error e => simp [hread, commit] at h
  | ok actions => exact ⟨actions, rfl, rfl⟩

/-- An assignment that is allowed succeeds. -/
theorem execute_assign_error {provider : User} {providerId : String} {options : AssignOptions}
    {r : Report} (hrow : s.report? id = some r) (hp : env.user? providerId = some provider)
    (hallowed : AssignAllowed user r provider options) :
    (execute cfg env s user (.assignProviderById id providerId options)).error = none := by
  have hread : readCall cfg env s user (.assignProviderById id providerId options) = .ok _ :=
    assignProviderById_eq_ok.mpr ⟨r, provider, hrow, hp, hallowed, rfl⟩
  exact execute_error_of_read hread hrow

/-- An assignment that succeeds is written. -/
theorem execute_assign_row {providerId : String} {options : AssignOptions}
    (h : (execute cfg env s user (.assignProviderById id providerId options)).error = none) :
    ∃ r, (execute cfg env s user (.assignProviderById id providerId options)).store.report? id =
      some ((assignProviderData cfg env providerId).apply r) := by
  obtain ⟨actions, hread, -⟩ := readCall_of_execute_error h
  obtain ⟨r, provider, hrow, -, -, rfl⟩ := assignProviderById_eq_ok.mp hread
  exact ⟨r, execute_of_read hread hrow⟩

/-- The reassignment of a report succeeds when its assignment does. -/
theorem reassignProvider_error {providerId : String} {reason : Option String} {r r' : Report}
    (h : Reassigned cfg env user providerId reason r r') (hrow : s.report? r.id = some r)
    (hassigned : r'.status = .assigned) :
    (reassignProvider cfg env s user r.id providerId reason).error = none := by
  have hnotices : ∀ t : Store, (performFor env r.id
      (reassignEffects user r.id providerId reason r.assignedProviderId) t).error = none := by
    intro t
    unfold performFor
    split
    · exact performEffects_error env _ _
    · rfl
  unfold reassignProvider
  simp only [hrow, andThen_error_eq_none, hnotices, and_true]
  cases h with
  | cancelled => simp [reassignCancelData] at hassigned
  | assigned hp hallowed =>
    simp only [hallowed.free]
    exact ⟨rfl, execute_assign_error hrow hp hallowed⟩
  | moved hallowed hp hassign =>
    obtain ⟨herror, hcancelled⟩ := execute_reassignCancel cfg env reason hrow hallowed
    simp only [hallowed.assigned, if_true]
    exact ⟨herror, execute_assign_error hcancelled hp hassign⟩

/-- An assignment leaves the report with its provider and its deadline. -/
theorem Assigns.row (h : Assigns cfg s event id) :
    ∃ r, (step cfg event s).report? id = some r ∧ r.assignedProviderId ≠ none ∧
      r.assignmentDeadlineAt = some (acceptanceDeadline cfg event) := by
  obtain ⟨⟨providerId, options, hrequest⟩ | ⟨providerId, reason, hrequest⟩, herror⟩ := h
  · rw [outcome_of_call hrequest] at herror
    obtain ⟨r, hrow⟩ := execute_assign_row herror
    rw [step, outcome_of_call hrequest]
    exact ⟨_, hrow, by simp, rfl⟩
  · rw [outcome_of_reassign hrequest, reassignProvider] at herror
    rw [step, outcome_of_reassign hrequest, reassignProvider]
    cases hreport : s.report? id with
    | none => simp [hreport] at herror
    | some report =>
      simp only [hreport, andThen_error_eq_none] at herror
      obtain ⟨⟨hcancelled, hassign⟩, -⟩ := herror
      obtain ⟨r, hrow⟩ := execute_assign_row hassign
      refine ⟨(assignProviderData cfg event.env providerId).apply r, ?_, by simp, rfl⟩
      simp only [reassign_tail_report?]
      rw [Outcome.andThen, hcancelled]
      exact hrow

/-- A step that starts work leaves the report `IN_PROGRESS`. -/
theorem Starts.row (h : Starts cfg s event id) :
    ∃ r, (step cfg event s).report? id = some r ∧ r.status = .inProgress := by
  obtain ⟨-, ⟨dto, hnext, hrequest⟩, herror⟩ := h
  rw [outcome_of_call hrequest] at herror
  rw [step, outcome_of_call hrequest]
  obtain ⟨actions, hread, hperform⟩ := readCall_of_execute_error herror
  obtain ⟨r, hrow, ⟨-, -, -, rfl⟩ | ⟨-, -, -, hactions⟩⟩ := updateStatus_eq_ok.mp hread
  · rw [hperform] at herror
    exact absurd herror (performAll_append_throw_error _ _ _ _)
  · rcases (statusUpdate_eq_ok (id_of_report? hrow)).mp hactions with ⟨-, rfl⟩ | ⟨hc, -⟩
    · exact ⟨_, execute_of_read hread hrow, hnext⟩
    · simp [hnext] at hc

/-! ### What stays while nobody assigns the report anew -/

/-- The report is under the deadline of its assignment, or has neither a provider nor a deadline. -/
structure UnderDeadline (deadline : Millis) (r : Report) : Prop where
  unassigned : r.assignedProviderId = none → r.assignmentDeadlineAt = none
  assigned : r.assignedProviderId ≠ none → r.assignmentDeadlineAt = some deadline

theorem UnderDeadline.of_eq {deadline : Millis} {r r' : Report} (h : UnderDeadline deadline r)
    (hprovider : r'.assignedProviderId = r.assignedProviderId)
    (hdeadline : r'.assignmentDeadlineAt = r.assignmentDeadlineAt) : UnderDeadline deadline r' := by
  constructor
  · intro hnone
    rw [hdeadline]
    exact h.unassigned (hprovider ▸ hnone)
  · intro hsome
    rw [hdeadline]
    exact h.assigned (hprovider ▸ hsome)

/-- A report that lost its provider lost its deadline with it. -/
theorem UnderDeadline.of_none {deadline : Millis} {r : Report}
    (hprovider : r.assignedProviderId = none)
    (hdeadline : r.assignmentDeadlineAt = none) : UnderDeadline deadline r :=
  ⟨fun _ => hdeadline, fun h => absurd hprovider h⟩

/-- A change that is not a new assignment keeps the report under its deadline. -/
theorem change_underDeadline {deadline : Millis} {call : Call} {r r' : Report}
    (h : Change cfg env s user call r r') (hr : UnderDeadline deadline r)
    (hcall : ∀ providerId options, call ≠ .assignProviderById r.id providerId options) :
    UnderDeadline deadline r' := by
  cases h with
  | expire | cancelAssignment | rejectAssignment | rejectOrganizationReport =>
      exact .of_none rfl rfl
  | assignProviderById => exact absurd rfl (hcall _ _)
  | @uploadReportEvidence _ _ saved => cases saved <;> exact hr.of_eq rfl rfl
  | _ => exact hr.of_eq rfl rfl

/-- What a step does to a report that it does not assign. -/
theorem step_report?_of_not_assigns {r : Report} (hrow : s.report? id = some r)
    (hno : ¬ Assigns cfg s event id) :
    ∃ r', (step cfg event s).report? id = some r' ∧ (r' = r ∨
      (∃ call, event.request = .call call ∧ Change cfg event.env s event.user call r r' ∧
        ∀ providerId options, call ≠ .assignProviderById r.id providerId options) ∨
      ∃ reason, CancelAllowed event.user r ∧
        r' = (reassignCancelData event.env reason r).apply r) := by
  have hid := id_of_report? hrow
  subst hid
  obtain ⟨r', hrow', hchange⟩ := step_report? cfg event hrow
  refine ⟨r', hrow', hchange.imp_right fun hchange => ?_⟩
  cases hchange with
  | @call call hrequest hchange =>
    refine .inl ⟨call, hrequest, hchange, ?_⟩
    rintro providerId options rfl
    obtain ⟨-, provider, hp, hallowed, -⟩ := change_assignProviderById hchange
    refine hno ⟨.inl ⟨providerId, options, hrequest⟩, ?_⟩
    rw [outcome_of_call hrequest]
    exact execute_assign_error hrow hp hallowed
  | @reassign providerId reason hrequest hreassigned =>
    by_cases hassigned : r'.status = .assigned
    · refine absurd ⟨.inr ⟨providerId, reason, hrequest⟩, ?_⟩ hno
      rw [outcome_of_reassign hrequest]
      exact reassignProvider_error hreassigned hrow hassigned
    · cases hreassigned with
      | cancelled hallowed _ => exact .inr ⟨reason, hallowed, rfl⟩
      | assigned | moved => simp at hassigned

/-- A step that does not assign the report anew keeps it under its deadline. -/
theorem step_underDeadline {deadline : Millis}
    (h : ∃ r, s.report? id = some r ∧ UnderDeadline deadline r) (hno : ¬ Assigns cfg s event id) :
    ∃ r, (step cfg event s).report? id = some r ∧ UnderDeadline deadline r := by
  obtain ⟨r, hrow, hr⟩ := h
  obtain ⟨r', hrow', rfl | ⟨call, -, hchange, hcall⟩ | ⟨reason, -, rfl⟩⟩ :=
    step_report?_of_not_assigns hrow hno
  · exact ⟨_, hrow', hr⟩
  · exact ⟨_, hrow', change_underDeadline hchange hr hcall⟩
  · exact ⟨_, hrow', .of_none rfl rfl⟩

/-- A change makes a report `ASSIGNED` again only when it assigns it or sends it back. -/
theorem change_not_assigned {call : Call} {r r' : Report} (hrequest : event.request = .call call)
    (h : Change cfg env s user call r r') (hr : r.status ≠ .assigned)
    (hcall : ∀ providerId options, call ≠ .assignProviderById r.id providerId options)
    (hback : ¬ SendsBack event r.id) : r'.status ≠ .assigned := by
  cases h with
  | assignProviderById => exact absurd rfl (hcall _ _)
  | rejectCitizenCompletion => exact absurd (.citizen hrequest) hback
  | requestOrganizationCompletionRework => exact absurd (.organization hrequest) hback
  | adminReturnForCompletionRework => exact absurd (.platform hrequest) hback
  | updateStatus _ _ hallowed _ | submitCompletion _ hallowed _ _ => exact hallowed.direct
  | uploadCompletionEvidence | adminPlaceCompletionHold | adminRemoveCompletionHold
  | adminOverrideCompletionPolicy => exact hr
  | @uploadReportEvidence _ _ saved => cases saved <;> exact hr
  | assignOrganization =>
    simp only [assignOrganizationData]
    split <;> simp
  | confirmCitizenCompletion | verifyOrganizationCompletion =>
    simp only [confirmData, verifyData]
    split <;> simp
  | _ => simp

/-- A step that neither assigns the report nor sends it back does not make it `ASSIGNED`. -/
theorem step_not_assigned (h : ∃ r, s.report? id = some r ∧ r.status ≠ .assigned)
    (hno : ¬ Assigns cfg s event id) (hback : ¬ SendsBack event id) :
    ∃ r, (step cfg event s).report? id = some r ∧ r.status ≠ .assigned := by
  obtain ⟨r, hrow, hr⟩ := h
  have hid := id_of_report? hrow
  subst hid
  obtain ⟨r', hrow', rfl | ⟨call, hrequest, hchange, hcall⟩ | ⟨reason, -, rfl⟩⟩ :=
    step_report?_of_not_assigns hrow hno
  · exact ⟨_, hrow', hr⟩
  · exact ⟨_, hrow', change_not_assigned hrequest hchange hr hcall hback⟩
  · exact ⟨_, hrow', by simp [reassignCancelData]⟩

/-! ### Runs -/

/-- A report stays under the deadline of its latest assignment. -/
theorem StartedUnder.underDeadline {assign : Event} {hist since : List Event}
    (h : StartedUnder cfg s id assign hist since) :
    ∃ r, (run (step cfg) s hist).report? id = some r ∧
      UnderDeadline (acceptanceDeadline cfg assign) r := by
  obtain ⟨pre, mid, start, rfl, hassigns, halong, -⟩ := h
  rw [run_append, run_cons]
  obtain ⟨r, hrow, hprovider, hdeadline⟩ := hassigns.row
  exact Along.run_inv
    (I := fun t => ∃ r, t.report? id = some r ∧ UnderDeadline (acceptanceDeadline cfg assign) r)
    (fun _ _ => step_underDeadline)
      ⟨r, hrow, fun hnone => absurd hnone hprovider, fun _ => hdeadline⟩ halong

/-- A report whose provider started work is `ASSIGNED` again only when it was sent back. -/
theorem StartedUnder.sentBack {assign : Event} {hist since : List Event}
    (h : StartedUnder cfg s id assign hist since) {r : Report}
    (hrow : (run (step cfg) s hist).report? id = some r) (hassigned : r.status = .assigned) :
    ∃ event ∈ since, SendsBack event id := by
  obtain ⟨pre, mid, start, rfl, -, halong, hstarts⟩ := h
  by_contra hback
  push Not at hback
  have halong := (along_append.mp halong).2
  obtain ⟨r₀, hrow₀, hstatus⟩ := hstarts.row
  obtain ⟨r', hrow', hr'⟩ :=
    Along.run_inv (I := fun t => ∃ r, t.report? id = some r ∧ r.status ≠ .assigned)
    (fun _ _ h hq => step_not_assigned h hq.1 hq.2) ⟨r₀, hrow₀, by simp [hstatus]⟩
    (halong.2.and_forall hback)
  rw [run_append, run_cons, run_append, run_cons, hrow', Option.some.injEq] at hrow
  exact hr' (hrow ▸ hassigned)

/-- A sweep over a report that was started and sent back again comes in time. -/
def SweptInTime (cfg : Config) (s : Store) (event : Event) (id : String) (assign : Event) : Prop :=
  ∀ call filter r, event.request = .call call → Sweeps event.env s event.user call filter →
    s.report? id = some r → r.status = .assigned → r.assignedProviderId ≠ none → filter.covers r →
    event.env.now ≤ acceptanceDeadline cfg assign

/-- A report that stayed under a deadline is timed out exactly by the sweeps that come after it. -/
theorem not_timesOut_iff {assign : Event} {r : Report} (hrow : s.report? id = some r)
    (hr : UnderDeadline (acceptanceDeadline cfg assign) r) :
    ¬ TimesOut cfg s event id ↔ SweptInTime cfg s event id assign := by
  rw [timesOut_iff]
  constructor
  · intro hno call filter r' hrequest hsweeps hrow' hassigned hprovider hcovers
    obtain rfl : r = r' := Option.some.inj (hrow.symm.trans hrow')
    by_contra hlate
    refine hno ⟨call, filter, r, hrequest, hsweeps, hrow, ?_⟩
    simp only [sweptBy, isOverdue, hassigned, hr.assigned hprovider, hcovers]
    simpa using hlate
  · rintro hin ⟨call, filter, r', hrequest, hsweeps, hrow', hswept⟩
    obtain rfl : r = r' := Option.some.inj (hrow.symm.trans hrow')
    simp only [sweptBy, isOverdue, Bool.and_eq_true, decide_eq_true_eq,
      Option.any_eq_true] at hswept
    obtain ⟨⟨hassigned, deadline, hdeadline, hover⟩, hcovers⟩ := hswept
    have hprovider : r.assignedProviderId ≠ none := by
      intro hnone
      simp [hr.unassigned hnone] at hdeadline
    have hnow := hin call filter r hrequest hsweeps hrow hassigned hprovider hcovers
    rw [hr.assigned hprovider, Option.some.injEq] at hdeadline
    rw [hdeadline] at hnow
    exact absurd hover (not_lt.mpr hnow)

/-- **Started work is not timed out.** Along a run no report is timed out whose provider started
work after its latest assignment exactly when the sweeps over the reports among these
that were sent back since all come before the deadline of that assignment. -/
theorem started_work_not_timed_out_iff (cfg : Config) (s : Store) (events : List Event) :
    (∀ hist event post id assign since, events = hist ++ event :: post →
        StartedUnder cfg s id assign hist since → ¬ TimesOut cfg (run (step cfg) s hist) event id) ↔
      ∀ hist event post id assign since, events = hist ++ event :: post →
        StartedUnder cfg s id assign hist since → (∃ back ∈ since, SendsBack back id) →
        SweptInTime cfg (run (step cfg) s hist) event id assign := by
  constructor
  · intro h hist event post id assign since hevents hstarted _
    obtain ⟨r, hrow, hr⟩ := hstarted.underDeadline
    exact (not_timesOut_iff hrow hr).mp (h hist event post id assign since hevents hstarted)
  · intro h hist event post id assign since hevents hstarted
    obtain ⟨r, hrow, hr⟩ := hstarted.underDeadline
    refine (not_timesOut_iff hrow hr).mpr fun call filter r' hrequest hsweeps hrow' hassigned => ?_
    exact h hist event post id assign since hevents hstarted
      (hstarted.sentBack hrow' hassigned) call filter r'
      hrequest hsweeps hrow' hassigned

/-- What happens to the report after its assignment: its provider starts and completes in time, and
the citizen sends the work back. -/
def reworkRun : List Event :=
  [Example.at_ 4 Example.provider (.updateStatus "report" { status := .inProgress }),
    Example.at_ 5 Example.provider (.updateStatus "report"
      { status := .completedByProvider, completionImageUrl := some "https://images/after.jpg" }),
    Example.at_ 6 Example.citizen (.rejectCitizenCompletion "report" "Still dark")]

theorem not_assigns_reworkRun {event : Event} (h : event ∈ reworkRun) (s : Store) (id : String) :
    ¬ Assigns cfg s event id := by
  rintro ⟨hrequest, -⟩
  simp only [reworkRun, List.mem_cons, List.not_mem_nil, or_false] at h
  rcases h with rfl | rfl | rfl <;> simp [Example.at_] at hrequest

/-- Work that was started in time and sent back for rework is timed out by the next sweep after
the deadline. -/
theorem sent_back_report_timed_out :
    ¬ ∀ (cfg : Config) (s : Store) (events : List Event) hist event post id assign since,
      events = hist ++ event :: post → StartedUnder cfg s id assign hist since →
      ¬ TimesOut cfg (run (step cfg) s hist) event id := by
  intro h
  let assign := Example.at_ 3 Example.orgAdmin (.assignProviderById "report" "provider" {})
  let sweep := Example.at_ 2000000 Example.orgAdmin .processOverdueAssignments
  have hstarted : StartedUnder {} Store.empty "report" assign
      (Example.dispatched ++ reworkRun) reworkRun.tail := by
    refine ⟨Example.dispatched.take 3, [], reworkRun.head (by simp [reworkRun]), rfl, ?_, ?_, ?_⟩
    · exact ⟨.inl ⟨_, _, rfl⟩, by decide +kernel⟩
    · refine along_iff.mpr fun pre event post hsplit => not_assigns_reworkRun ?_ _ _
      have hevents : reworkRun = pre ++ event :: post := hsplit
      simp [hevents]
    · exact ⟨rfl, ⟨_, rfl, rfl⟩, by decide +kernel⟩
  refine h {} Store.empty _ _ sweep [] "report" assign _ rfl hstarted (timesOut_iff.mpr ?_)
  have hswept : ((run (step {}) Store.empty (Example.dispatched ++ reworkRun)).report? "report").map
      (sweptBy sweep.env { organizationId := some "org" }) = some true := by
    decide +kernel
  obtain ⟨r, hrow, hswept⟩ := Option.map_eq_some_iff.mp hswept
  exact ⟨_, _, r, rfl, .processOverdue rfl, hrow, hswept⟩

end FixZone.ReportService
