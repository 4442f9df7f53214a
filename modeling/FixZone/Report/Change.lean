import FixZone.Report.Service

/-!
# What a call does to a report

Said once, by the relation `Change`: a constructor for each place of the source that
writes reports, with everything the code has checked when it gets there and the columns
it writes. `execute_report?` says that a call leaves a report as it is or changes it
so, and `execute_report?_none` that only `createReport` brings a report into being. The
invariants of runs are case analyses of `Change`.

For the opposite direction, that a call does what its guards allow, the sweep is exact
(`execute_sweeps`), and a call that writes one report is `execute_of_read`.
-/

namespace FixZone.ReportService

open Library Organization

variable {cfg : Config} {env : Env} {s : Store} {user : JwtUser}

/-! ### Sweeps -/

/-- The calls that sweep overdue assignments, with the filter they sweep by. -/
inductive Sweeps (env : Env) (s : Store) (user : JwtUser) : Call → ExpiryFilter → Prop where
  | processOverdue : user.isOperator →
      Sweeps env s user .processOverdueAssignments (organizationFilter user)
  | assignedReports : user.isProvider →
      Sweeps env s user .getAssignedReports { providerId := some user.id }
  | organizationReports : user.isSuperAdmin ∨ truthy user.organizationId →
      Sweeps env s user .getOrganizationReports (organizationFilter user)
  | dashboardSummary : user.isSuperAdmin ∨ truthy user.organizationId →
      Sweeps env s user .getDashboardSummary (organizationFilter user)
  | recentReports : user.isSuperAdmin ∨ truthy user.organizationId →
      Sweeps env s user .getRecentReports (organizationFilter user)
  | rejectLapsed {report : Report} {reason : String} : s.report? report.id = some report →
      RejectCalled env user report → assignmentLapsed env report user.id →
      Sweeps env s user (.rejectAssignment report.id reason) { providerId := some user.id }
  | startLapsed {report : Report} {dto : UpdateReportStatusDto} :
      s.report? report.id = some report →
      user.isProvider → ActiveProvider env user.id → startsLate env user report dto.status →
      Sweeps env s user (.updateStatus report.id dto) { providerId := some user.id }

/-- The reports a sweep writes. -/
def sweptBy (env : Env) (filter : ExpiryFilter) (report : Report) : Bool :=
  isOverdue env report && filter.covers report

theorem nodup_ids_filter (s : Store) (p : Report → Bool) :
    ((s.reports.rows.filter p).map (·.id)).Nodup :=
  (s.reports.nodup).sublist (List.filter_sublist.map _)

theorem report?_of_mem {s : Store} {r : Report} (h : r ∈ s.reports.rows) :
    s.report? r.id = some r :=
  Table.mem_rows_iff.mp h

theorem mem_of_report? {s : Store} {id : String} {r : Report} (h : s.report? id = some r) :
    r ∈ s.reports.rows := Table.mem_of_find? h

theorem id_of_report? {s : Store} {id : String} {r : Report} (h : s.report? id = some r) :
    r.id = id :=
  Table.key_of_find? h

/-- Whether a report is among the rows that satisfy `p` is whether it satisfies `p`. -/
theorem mem_ids_filter {id : String} {r : Report} (h : s.report? id = some r) (p : Report → Bool) :
    id ∈ (s.reports.rows.filter p).map (·.id) ↔ p r := by
  simp only [List.mem_map, List.mem_filter]
  constructor
  · rintro ⟨x, ⟨hx, hp⟩, rfl⟩
    have := (report?_of_mem hx).symm.trans h
    rwa [← Option.some.inj this]
  · intro hp
    exact ⟨r, ⟨mem_of_report? h, hp⟩, id_of_report? h⟩

/-- A sweep writes exactly the overdue reports its filter covers. -/
theorem performAll_expire {filter : ExpiryFilter} {actor : Option JwtUser} {id : String}
    {r : Report} (h : s.report? id = some r) :
    (performAll env (expireOverdueAssignments env s filter actor) s).store.report? id =
      some (if sweptBy env filter r then (expireData env r).apply r else r) := by
  rw [← if_congr (mem_ids_filter h (sweptBy env filter)) rfl rfl]
  exact performAll_updates env none (expireData env) (nodup_ids_filter s (sweptBy env filter))
    (fun x hx => ⟨report?_of_mem (List.mem_filter.mp hx).1, rfl⟩) h

/-! ### The writes -/

/-- `Change cfg env s user call r r'`: in the store `s` the call writes `r'` over the report `r`. -/
inductive Change (cfg : Config) (env : Env) (s : Store) (user : JwtUser) : Call → Report →
    Report → Prop where
  | assignOrganization {r : Report} {dto : AssignOrganizationDto}
      {organization : ResponsibilityOrganizationProfile} :
      env.organization? dto.organizationId = some organization →
        RouteAllowed cfg user r dto organization →
      Change cfg env s user (.assignOrganization r.id dto) r
        ((assignOrganizationData env user dto r organization).apply r)
  | acceptOrganizationReport {r : Report} {note : Option String} {organizationId : String} :
      IntakeAllowed s user organizationId r →
        ¬(r.status = .pending ∧ r.organizationId = organizationId) →
      r.status = .orgReview ∨ legacyMatchedReview s r organizationId →
      Change cfg env s user (.acceptOrganizationReport r.id note) r
        ((acceptOrganizationReportData env organizationId r).apply r)
  | rejectOrganizationReport {r : Report} {reason : String} {suggested : Option String}
      {organizationId : String} :
      IntakeAllowed s user organizationId r → trim reason ≠ "" →
      r.status = .orgReview ∨ legacyMatchedReview s r organizationId →
      trimmed suggested = "" ∨ env.organization? (trimmed suggested) ≠ none →
      Change cfg env s user (.rejectOrganizationReport r.id reason suggested) r
        ((rejectOrganizationReportData env (trim reason) r).apply r)
  | expire {call : Call} {filter : ExpiryFilter} {r : Report} :
      Sweeps env s user call filter → sweptBy env filter r →
      Change cfg env s user call r ((expireData env r).apply r)
  | cancelAssignment {r : Report} {reason : Option String} : CancelAllowed user r →
      Change cfg env s user (.cancelAssignment r.id reason) r
        ((unassignData env (cancelReason reason) (r.assignedProviderId.getD "")).apply r)
  | assignProviderById {r : Report} {provider : User} {providerId : String}
      {options : AssignOptions} :
      env.user? providerId = some provider → AssignAllowed user r provider options →
      Change cfg env s user (.assignProviderById r.id providerId options) r
        ((assignProviderData cfg env providerId).apply r)
  | rejectAssignment {r : Report} {reason : String} : RejectCalled env user r →
      assignmentLapsed env r user.id = false → r.status = .assigned →
      Change cfg env s user (.rejectAssignment r.id reason) r
        ((unassignData env (trim reason) user.id).apply r)
  | updateStatus {r : Report} {dto : UpdateReportStatusDto} :
      startsLate env user r dto.status = false →
      ProviderReady env user dto.status → TransitionAllowed user r dto.status →
      dto.status ≠ .completedByProvider →
      Change cfg env s user (.updateStatus r.id dto) r ((statusData dto.status).apply r)
  | submitCompletion {r : Report} {dto : UpdateReportStatusDto}
      {policy : CompletionPolicyResolution} :
      ProviderReady env user dto.status → TransitionAllowed user r dto.status →
      dto.status = .completedByProvider → CompletionReady cfg env s r dto policy →
      Change cfg env s user (.updateStatus r.id dto) r
        ((completionData cfg env dto
          (normalizeCompletionEvidenceFields cfg dto.completionImageUrl dto.completionImagePath)
            policy).apply r)
  | uploadCompletionEvidence {r : Report} {dto : UploadEvidenceDto} {saved : SavedEvidenceFile} :
      Change cfg env s user (.uploadCompletionEvidence r.id dto) r
        ((completionImageData saved).apply r)
  | uploadReportEvidence {r : Report} {dto : UploadEvidenceDto} {saved : Option SavedEvidenceFile} :
      Change cfg env s user (.uploadReportEvidence r.id dto) r ((evidenceImageData saved).apply r)
  | confirmCitizenCompletion {r : Report} {dto : CitizenConfirmCompletionDto} :
      CitizenReviews user r →
      r.citizenCompletionDecision ≠ some .confirmed → Unblocked r →
      Change cfg env s user (.confirmCitizenCompletion r.id dto) r
        ((confirmData cfg env user dto r).apply r)
  | rejectCitizenCompletion {r : Report} {reason : String} : CitizenReviews user r →
      r.citizenCompletionDecision ≠ some .confirmed →
        r.citizenCompletionDecision ≠ some .reworkRequested →
      trim reason ≠ "" →
      Change cfg env s user (.rejectCitizenCompletion r.id reason) r
        ((rejectCompletionData env (trim reason)).apply r)
  | verifyOrganizationCompletion {r : Report} {reason : Option String} :
      OrganizationReviews user r →
      r.organizationCompletionDecision ≠ some .verified → Unblocked r →
      policyForReport cfg r ≠ .adminResolutionRequired →
      Change cfg env s user (.verifyOrganizationCompletion r.id reason) r
        ((verifyData cfg env user reason r).apply r)
  | requestOrganizationCompletionRework {r : Report} {reason : String} :
      OrganizationReviews user r →
      r.organizationCompletionDecision ≠ some .verified →
      r.organizationCompletionDecision ≠ some .reworkRequested → trim reason ≠ "" →
      Change cfg env s user (.requestOrganizationCompletionRework r.id reason) r
        ((requestReworkData env user (trim reason)).apply r)
  | adminResolveAndClose {r : Report} {reason : String} : GovernanceAllowed user reason →
      r.status ≠ .closed → onHold r = false →
      Change cfg env s user (.adminResolveAndClose r.id reason) r
        ((resolveAndCloseData env user (trim reason)).apply r)
  | adminReturnForCompletionRework {r : Report} {reason : String} : GovernanceAllowed user reason →
      r.status ≠ .closed → r.completionReviewState ≠ some .reworkRequested →
      Change cfg env s user (.adminReturnForCompletionRework r.id reason) r
        ((returnForReworkData (trim reason)).apply r)
  | adminPlaceCompletionHold {r : Report} {reason : String} : GovernanceAllowed user reason →
      r.status ≠ .closed → onHold r = false →
      Change cfg env s user (.adminPlaceCompletionHold r.id reason) r
        ((placeHoldData (trim reason)).apply r)
  | adminRemoveCompletionHold {r : Report} {reason : String} :
      GovernanceAllowed user reason → onHold r →
      Change cfg env s user (.adminRemoveCompletionHold r.id reason) r
        ((removeHoldData cfg r).apply r)
  | adminReopenCompletion {r : Report} {reason : String} : GovernanceAllowed user reason →
      r.status = .closed →
      Change cfg env s user (.adminReopenCompletion r.id reason) r ((reopenData cfg r).apply r)
  | adminOverrideCompletionPolicy {r : Report} {policy : CompletionPolicy} {reason : String} :
      GovernanceAllowed user reason → r.status ≠ .closed → policyForReport cfg r ≠ policy →
      Change cfg env s user (.adminOverrideCompletionPolicy r.id policy reason) r
        ((overridePolicyData policy r).apply r)
  | processCompletionReviewDeadlines {r : Report} {dto : ProcessDeadlinesDto} :
      user.role = .superAdmin ∨ user.role = .complianceAdmin ∨ user.role = .regulatoryAdmin →
      dto.dryRun = false → trim dto.reason ≠ "" → r ∈ deadlineCandidates s dto.limit →
        deadlineEligible env r →
      Change cfg env s user (.processCompletionReviewDeadlines dto) r
        ((deadlineCloseData env user).apply r)

/-- A read that writes one report, at most, leaves the others alone. -/
theorem commit_of_patches {actions : List Action} {id : String} {r : Report}
    (h : s.report? id = some r) {P : Report → Prop}
    (hp : actions.flatMap (Action.patchesOn id) = [] ∨
      ∃ data, actions.flatMap (Action.patchesOn id) = [data] ∧ P (data.apply r)) :
    ∃ r', (commit env s (.ok actions)).store.report? id = some r' ∧ (r' = r ∨ P r') := by
  obtain ⟨pre, hpre, hrow⟩ := performAll_report? env h actions
  refine ⟨_, hrow, ?_⟩
  rcases hp with hp | ⟨data, hp, hP⟩
  · rw [hp, List.sublist_nil] at hpre
    exact .inl (by rw [hpre]; rfl)
  · rw [hp, List.sublist_singleton] at hpre
    rcases hpre with rfl | rfl
    · exact .inl rfl
    · exact .inr hP

/-- A read that updates one report leaves the report `id` alone or writes it, when it is that one. -/
theorem commit_update {reportId id : String} {data : Patch Report.id}
    {effects : Report → List Effect}
    {report r : Report} (h : s.report? id = some r) (hreport : s.report? reportId = some report)
    {P : Report → Prop} (hP : reportId = r.id → report = r → P (data.apply r)) :
    ∃ r', (commit env s (.ok [.update reportId none data effects])).store.report? id = some r' ∧
      (r' = r ∨ P r') := by
  refine ⟨_, commit_update_report? h, ?_⟩
  by_cases hid : reportId = id
  · subst hid
    rw [if_pos rfl]
    exact .inr (hP (id_of_report? h).symm (Option.some.inj (hreport.symm.trans h)))
  · rw [if_neg hid]
    exact .inl rfl

/-- A sweep leaves a report alone or expires its assignment. -/
theorem commit_expire {filter : ExpiryFilter} {actor : Option JwtUser} {id : String} {r : Report}
    (h : s.report? id = some r) {P : Report → Prop}
    (hP : sweptBy env filter r → P ((expireData env r).apply r)) :
    ∃ r', (commit env s (.ok (expireOverdueAssignments env s filter actor))).store.report? id =
      some r' ∧
      (r' = r ∨ P r') := by
  refine ⟨_, performAll_expire h, ?_⟩
  by_cases hswept : sweptBy env filter r
  · rw [if_pos hswept]
    exact .inr (hP hswept)
  · rw [if_neg hswept]
    exact .inl rfl

/-- The same of a sweep that ends in an exception. -/
theorem commit_expireAndRefuse {id : String} {r : Report} (h : s.report? id = some r)
    {P : Report → Prop}
    (hP : sweptBy env { providerId := some user.id } r → P ((expireData env r).apply r)) :
    ∃ r', (commit env s (.ok (expireAndRefuse env s user))).store.report? id = some r' ∧
      (r' = r ∨ P r') := by
  have hstore : (commit env s (.ok (expireAndRefuse env s user))).store =
      (commit env s
      (.ok (expireOverdueAssignments env s { providerId := some user.id } (some user)))).store :=
    performAll_append_throw env _ _ s
  rw [hstore]
  exact commit_expire h hP

/-- The candidates of the deadline sweep are rows of the store. -/
theorem mem_rows_of_mem_deadlineCandidates {limit : ℕ} {r : Report}
    (h : r ∈ deadlineCandidates s limit) :
    r ∈ s.reports.rows ∧ r.completionPolicy = some .autoCloseAfterReviewWindow := by
  have hsorted := List.mem_of_mem_take h
  rw [List.mem_insertionSort, List.mem_filter] at hsorted
  exact ⟨hsorted.1, by simpa using hsorted.2⟩

theorem nodup_deadlineCandidates (s : Store) (limit : ℕ) :
    ((deadlineCandidates s limit).map (·.id)).Nodup := by
  unfold deadlineCandidates
  rw [List.map_take]
  refine List.Nodup.sublist (List.take_sublist _ _) ?_
  rw [((List.perm_insertionSort _ _).map _).nodup_iff]
  exact nodup_ids_filter s _

/-- The reports the deadline sweep closes, as it reads them. -/
def deadlineClosures (env : Env) (s : Store) (limit : ℕ) : List Report :=
  (deadlineCandidates s limit).filter (deadlineEligible env)

theorem mem_deadlineClosures_iff {limit : ℕ} {id : String} {r : Report}
    (h : s.report? id = some r) :
    id ∈ (deadlineClosures env s limit).map (·.id) ↔
      r ∈ deadlineCandidates s limit ∧ deadlineEligible env r := by
  rw [deadlineClosures, List.mem_map, ← id_of_report? h]
  constructor
  · rintro ⟨x, hx, hid⟩
    rw [List.mem_filter] at hx
    have hrow := report?_of_mem (mem_rows_of_mem_deadlineCandidates hx.1).1
    rw [hid, id_of_report? h] at hrow
    rwa [← Option.some.inj (hrow.symm.trans h)]
  · intro hr
    exact ⟨r, List.mem_filter.mpr hr, rfl⟩

theorem nodup_deadlineClosures (env : Env) (s : Store) (limit : ℕ) :
    ((deadlineClosures env s limit).map (·.id)).Nodup :=
  (nodup_deadlineCandidates s limit).sublist (List.filter_sublist.map _)

/-- The reports the deadline sweep closes are rows of the store that await their review. -/
theorem awaiting_of_mem_deadlineClosures {limit : ℕ} {r : Report}
    (h : r ∈ deadlineClosures env s limit) :
    s.report? r.id = some r ∧ (some ReportStatus.completedByProvider).all (· = r.status) := by
  obtain ⟨hcandidate, heligible⟩ := List.mem_filter.mp h
  refine ⟨report?_of_mem (mem_rows_of_mem_deadlineCandidates hcandidate).1, ?_⟩
  have hstatus : r.status = .completedByProvider := by
    simp only [deadlineEligible, Bool.and_eq_true, decide_eq_true_eq] at heligible
    exact heligible.2
  simp [hstatus]

/-- The deadline sweep, run on its own, closes exactly the eligible candidates. -/
theorem performAll_deadline {limit : ℕ} {id : String} {r : Report} (h : s.report? id = some r) :
    (performAll env ((deadlineClosures env s limit).map fun report =>
        .update report.id (some .completedByProvider) (deadlineCloseData env user)
          (deadlineCloseEffects user)) s).store.report? id =
      some (if id ∈ (deadlineClosures env s limit).map (·.id) then
        (deadlineCloseData env user).apply r
        else r) :=
  performAll_updates env _ (fun _ => deadlineCloseData env user)
    (nodup_deadlineClosures env s limit) (fun _ => awaiting_of_mem_deadlineClosures) h

/-- A call leaves a report as it is or changes it in one of the ways of `Change`. -/
theorem execute_report? (cfg : Config) (env : Env) (user : JwtUser) (call : Call) {id : String}
    {r : Report} (h : s.report? id = some r) :
    ∃ r', (execute cfg env s user call).store.report? id = some r' ∧
      (r' = r ∨ Change cfg env s user call r r') := by
  unfold execute
  cases hread : readCall cfg env s user call with
  | error e => exact ⟨r, h, .inl rfl⟩
  | ok actions =>
    cases call with
    | createReport dto =>
      obtain ⟨_, _, _, -, -, rfl⟩ := createReport_eq_ok hread
      exact commit_of_patches h (.inl rfl)
    | assignOrganization reportId dto =>
      obtain ⟨report, organization, hr, ho, hallowed, rfl⟩ := assignOrganization_eq_ok.mp hread
      refine commit_update h hr ?_
      rintro rfl rfl
      exact .assignOrganization ho hallowed
    | acceptOrganizationReport reportId note =>
      obtain ⟨report, organizationId, hr, hallowed, ⟨-, -, rfl⟩ | ⟨hopen, hreview, rfl⟩⟩ :=
        acceptOrganizationReport_eq_ok.mp hread
      · exact ⟨r, h, .inl rfl⟩
      · refine commit_update h hr ?_
        rintro rfl rfl
        exact .acceptOrganizationReport hallowed hopen hreview
    | rejectOrganizationReport reportId reason suggested =>
      obtain ⟨report, organizationId, hr, hallowed, hreason,
        ⟨-, -, rfl⟩ | ⟨hreview, hsuggested, rfl⟩⟩ :=
        rejectOrganizationReport_eq_ok.mp hread
      · exact ⟨r, h, .inl rfl⟩
      · refine commit_update h hr ?_
        rintro rfl rfl
        exact .rejectOrganizationReport hallowed hreason hreview hsuggested
    | processOverdueAssignments =>
      obtain ⟨hoperator, hactions⟩ := throwIf_bind_eq_ok.mp hread
      rw [← pure_eq_ok.mp hactions]
      exact commit_expire h fun hswept =>
        .expire (.processOverdue (by simpa using hoperator)) hswept
    | getAssignedReports =>
      obtain ⟨hprovider, hactions⟩ := throwIf_bind_eq_ok.mp hread
      rw [← pure_eq_ok.mp hactions]
      exact commit_expire h fun hswept =>
        .expire (.assignedReports (by simpa using hprovider)) hswept
    | getOrganizationReports =>
      obtain ⟨hscope, hactions⟩ := throwIf_bind_eq_ok.mp hread
      rw [← pure_eq_ok.mp hactions]
      exact commit_expire h fun hswept => .expire (.organizationReports (by grind)) hswept
    | getDashboardSummary =>
      obtain ⟨hscope, hactions⟩ := throwIf_bind_eq_ok.mp hread
      rw [← pure_eq_ok.mp hactions]
      exact commit_expire h fun hswept => .expire (.dashboardSummary (by grind)) hswept
    | getRecentReports =>
      obtain ⟨hscope, hactions⟩ := throwIf_bind_eq_ok.mp hread
      rw [← pure_eq_ok.mp hactions]
      exact commit_expire h fun hswept => .expire (.recentReports (by grind)) hswept
    | cancelAssignment reportId reason =>
      obtain ⟨report, hr, hallowed, rfl⟩ := cancelAssignment_eq_ok.mp hread
      refine commit_update h hr ?_
      rintro rfl rfl
      exact .cancelAssignment hallowed
    | assignProviderById reportId providerId options =>
      obtain ⟨report, provider, hr, hp, hallowed, rfl⟩ := assignProviderById_eq_ok.mp hread
      refine commit_update h hr ?_
      rintro rfl rfl
      exact .assignProviderById hp hallowed
    | rejectAssignment reportId reason =>
      obtain ⟨report, hr, hcalled, ⟨hlapsed, rfl⟩ | ⟨hlapsed, hassigned, rfl⟩⟩ :=
        rejectAssignment_eq_ok.mp hread
      · have hid := id_of_report? hr
        subst hid
        exact commit_expireAndRefuse h fun hswept =>
          .expire (.rejectLapsed hr hcalled hlapsed) hswept
      · refine commit_update h hr ?_
        rintro rfl rfl
        exact .rejectAssignment hcalled hlapsed hassigned
    | updateStatus reportId dto =>
      obtain ⟨report, hr, ⟨hprovider, hactive, hlate, rfl⟩ | ⟨hlate, hready, hallowed, hactions⟩⟩ :=
        updateStatus_eq_ok.mp hread
      · have hid := id_of_report? hr
        subst hid
        exact commit_expireAndRefuse h fun hswept =>
          .expire (.startLapsed hr hprovider hactive hlate) hswept
      · rcases (statusUpdate_eq_ok (id_of_report? hr)).mp hactions with
          ⟨hc, rfl⟩ | ⟨hc, policy, hpolicy, rfl⟩
        · refine commit_update h hr ?_
          rintro rfl rfl
          exact .updateStatus hlate hready hallowed hc
        · refine commit_update h hr ?_
          rintro rfl rfl
          exact .submitCompletion hready hallowed hc hpolicy
    | uploadCompletionEvidence reportId dto =>
      refine commit_of_patches h ((uploadCompletionEvidence_patchesOn hread id).imp_right ?_)
      rintro ⟨saved, rfl, hpatches⟩
      refine ⟨_, hpatches, ?_⟩
      rw [← id_of_report? h]
      exact .uploadCompletionEvidence
    | uploadReportEvidence reportId dto =>
      refine commit_of_patches h ((uploadReportEvidence_patchesOn hread id).imp_right ?_)
      rintro ⟨saved, rfl, hpatches⟩
      refine ⟨_, hpatches, ?_⟩
      rw [← id_of_report? h]
      exact .uploadReportEvidence
    | confirmCitizenCompletion reportId dto =>
      obtain ⟨report, hr, hreviews, ⟨-, rfl⟩ | ⟨hdecision, hunblocked, rfl⟩⟩ :=
        confirmCitizenCompletion_eq_ok.mp hread
      · exact ⟨r, h, .inl rfl⟩
      · refine commit_update h (id_of_report? hr ▸ hr) ?_
        rintro - rfl
        rw [← id_of_report? hr]
        exact .confirmCitizenCompletion hreviews hdecision hunblocked
    | rejectCitizenCompletion reportId reason =>
      obtain ⟨report, hr, hreviews, hconfirmed, hrework, hreason, rfl⟩ :=
        rejectCitizenCompletion_eq_ok.mp hread
      refine commit_update h (id_of_report? hr ▸ hr) ?_
      rintro - rfl
      rw [← id_of_report? hr]
      exact .rejectCitizenCompletion hreviews hconfirmed hrework hreason
    | verifyOrganizationCompletion reportId reason =>
      obtain ⟨report, hr, hreviews, ⟨-, rfl⟩ | ⟨hdecision, hunblocked, hpolicy, rfl⟩⟩ :=
        verifyOrganizationCompletion_eq_ok.mp hread
      · exact ⟨r, h, .inl rfl⟩
      · refine commit_update h (id_of_report? hr ▸ hr) ?_
        rintro - rfl
        rw [← id_of_report? hr]
        exact .verifyOrganizationCompletion hreviews hdecision hunblocked hpolicy
    | requestOrganizationCompletionRework reportId reason =>
      obtain ⟨report, hr, hreviews, hverified, hrework, hreason, rfl⟩ :=
        requestOrganizationCompletionRework_eq_ok.mp hread
      refine commit_update h (id_of_report? hr ▸ hr) ?_
      rintro - rfl
      rw [← id_of_report? hr]
      exact .requestOrganizationCompletionRework hreviews hverified hrework hreason
    | adminResolveAndClose reportId reason =>
      obtain ⟨report, hr, hallowed, hopen, hheld, rfl⟩ := adminResolveAndClose_eq_ok.mp hread
      refine commit_update h (id_of_report? hr ▸ hr) ?_
      rintro - rfl
      rw [← id_of_report? hr]
      exact .adminResolveAndClose hallowed hopen hheld
    | adminReturnForCompletionRework reportId reason =>
      obtain ⟨report, hr, hallowed, hopen, hstate, rfl⟩ :=
        adminReturnForCompletionRework_eq_ok.mp hread
      refine commit_update h (id_of_report? hr ▸ hr) ?_
      rintro - rfl
      rw [← id_of_report? hr]
      exact .adminReturnForCompletionRework hallowed hopen hstate
    | adminPlaceCompletionHold reportId reason =>
      obtain ⟨report, hr, hallowed, hopen, hheld, rfl⟩ := adminPlaceCompletionHold_eq_ok.mp hread
      refine commit_update h (id_of_report? hr ▸ hr) ?_
      rintro - rfl
      rw [← id_of_report? hr]
      exact .adminPlaceCompletionHold hallowed hopen hheld
    | adminRemoveCompletionHold reportId reason =>
      obtain ⟨report, hr, hallowed, hheld, rfl⟩ := adminRemoveCompletionHold_eq_ok.mp hread
      refine commit_update h (id_of_report? hr ▸ hr) ?_
      rintro - rfl
      rw [← id_of_report? hr]
      exact .adminRemoveCompletionHold hallowed hheld
    | adminReopenCompletion reportId reason =>
      obtain ⟨report, hr, hallowed, hclosed, rfl⟩ := adminReopenCompletion_eq_ok.mp hread
      refine commit_update h (id_of_report? hr ▸ hr) ?_
      rintro - rfl
      rw [← id_of_report? hr]
      exact .adminReopenCompletion hallowed hclosed
    | adminOverrideCompletionPolicy reportId policy reason =>
      obtain ⟨report, hr, hallowed, hopen, hpolicy, rfl⟩ :=
        adminOverrideCompletionPolicy_eq_ok.mp hread
      refine commit_update h (id_of_report? hr ▸ hr) ?_
      rintro - rfl
      rw [← id_of_report? hr]
      exact .adminOverrideCompletionPolicy hallowed hopen hpolicy
    | processCompletionReviewDeadlines dto =>
      obtain ⟨hrole, ⟨-, rfl⟩ | ⟨hdry, hreason, rfl⟩⟩ :=
        processCompletionReviewDeadlines_eq_ok.mp hread
      · exact ⟨r, h, .inl rfl⟩
      · refine ⟨_, performAll_deadline h, ?_⟩
        by_cases hmem : id ∈ (deadlineClosures env s dto.limit).map (·.id)
        · rw [if_pos hmem]
          obtain ⟨hcandidate, heligible⟩ := (mem_deadlineClosures_iff h).mp hmem
          exact .inr (.processCompletionReviewDeadlines hrole hdry hreason hcandidate heligible)
        · rw [if_neg hmem]
          exact .inl rfl

/-! ### Creation -/

theorem not_creates_of_update {reportId : String} {status : Option ReportStatus}
    {data : Patch Report.id} {effects : Report → List Effect} (id : String) :
    ∀ action ∈ [Action.update reportId status data effects], ∀ r, ¬ action.Creates id r := by
  simp [Action.Creates]

theorem not_creates_of_expire {filter : ExpiryFilter} {actor : Option JwtUser} (id : String) :
    ∀ action ∈ expireOverdueAssignments env s filter actor, ∀ r, ¬ action.Creates id r := by
  simp only [expireOverdueAssignments, List.forall_mem_map]
  exact fun _ _ _ => False.elim

theorem not_creates_of_expireAndRefuse (id : String) :
    ∀ action ∈ expireAndRefuse env s user, ∀ r, ¬ action.Creates id r := by
  intro action haction
  rcases List.mem_append.mp haction with haction | haction
  · exact not_creates_of_expire id action haction
  · rw [List.mem_singleton.mp haction]
    exact fun _ => False.elim

theorem readCall_not_creates {call : Call} {actions : List Action}
    (hcall : ∀ dto, call ≠ .createReport dto)
    (hread : readCall cfg env s user call = .ok actions) (id : String) :
    ∀ action ∈ actions, ∀ r, ¬ action.Creates id r := by
  cases call with
  | createReport dto => exact absurd rfl (hcall dto)
  | assignOrganization reportId dto =>
    obtain ⟨_, _, -, -, -, rfl⟩ := assignOrganization_eq_ok.mp hread
    exact not_creates_of_update id
  | acceptOrganizationReport reportId note =>
    obtain ⟨_, _, -, -, ⟨-, -, rfl⟩ | ⟨-, -, rfl⟩⟩ := acceptOrganizationReport_eq_ok.mp hread
    · simp
    · exact not_creates_of_update id
  | rejectOrganizationReport reportId reason suggested =>
    obtain ⟨_, _, -, -, -, ⟨-, -, rfl⟩ | ⟨-, -, rfl⟩⟩ := rejectOrganizationReport_eq_ok.mp hread
    · simp
    · exact not_creates_of_update id
  | processOverdueAssignments | getAssignedReports | getOrganizationReports | getDashboardSummary
  | getRecentReports =>
    rw [← pure_eq_ok.mp (throwIf_bind_eq_ok.mp hread).2]
    exact not_creates_of_expire id
  | cancelAssignment reportId reason =>
    obtain ⟨_, -, -, rfl⟩ := cancelAssignment_eq_ok.mp hread
    exact not_creates_of_update id
  | assignProviderById reportId providerId options =>
    obtain ⟨_, _, -, -, -, rfl⟩ := assignProviderById_eq_ok.mp hread
    exact not_creates_of_update id
  | rejectAssignment reportId reason =>
    obtain ⟨_, -, -, ⟨-, rfl⟩ | ⟨-, -, rfl⟩⟩ := rejectAssignment_eq_ok.mp hread
    · exact not_creates_of_expireAndRefuse id
    · exact not_creates_of_update id
  | updateStatus reportId dto =>
    obtain ⟨report, hr, ⟨-, -, -, rfl⟩ | ⟨-, -, -, hactions⟩⟩ := updateStatus_eq_ok.mp hread
    · exact not_creates_of_expireAndRefuse id
    · rcases (statusUpdate_eq_ok (id_of_report? hr)).mp hactions with ⟨-, rfl⟩ | ⟨-, _, -, rfl⟩ <;>
        exact not_creates_of_update id
  | uploadCompletionEvidence reportId dto => exact uploadCompletionEvidence_not_creates hread id
  | uploadReportEvidence reportId dto => exact uploadReportEvidence_not_creates hread id
  | confirmCitizenCompletion reportId dto =>
    obtain ⟨_, -, -, ⟨-, rfl⟩ | ⟨-, -, rfl⟩⟩ := confirmCitizenCompletion_eq_ok.mp hread
    · simp
    · exact not_creates_of_update id
  | rejectCitizenCompletion reportId reason =>
    obtain ⟨_, -, -, -, -, -, rfl⟩ := rejectCitizenCompletion_eq_ok.mp hread
    exact not_creates_of_update id
  | verifyOrganizationCompletion reportId reason =>
    obtain ⟨_, -, -, ⟨-, rfl⟩ | ⟨-, -, -, rfl⟩⟩ := verifyOrganizationCompletion_eq_ok.mp hread
    · simp
    · exact not_creates_of_update id
  | requestOrganizationCompletionRework reportId reason =>
    obtain ⟨_, -, -, -, -, -, rfl⟩ := requestOrganizationCompletionRework_eq_ok.mp hread
    exact not_creates_of_update id
  | adminResolveAndClose reportId reason =>
    obtain ⟨_, -, -, -, -, rfl⟩ := adminResolveAndClose_eq_ok.mp hread
    exact not_creates_of_update id
  | adminReturnForCompletionRework reportId reason =>
    obtain ⟨_, -, -, -, -, rfl⟩ := adminReturnForCompletionRework_eq_ok.mp hread
    exact not_creates_of_update id
  | adminPlaceCompletionHold reportId reason =>
    obtain ⟨_, -, -, -, -, rfl⟩ := adminPlaceCompletionHold_eq_ok.mp hread
    exact not_creates_of_update id
  | adminRemoveCompletionHold reportId reason =>
    obtain ⟨_, -, -, -, rfl⟩ := adminRemoveCompletionHold_eq_ok.mp hread
    exact not_creates_of_update id
  | adminReopenCompletion reportId reason =>
    obtain ⟨_, -, -, -, rfl⟩ := adminReopenCompletion_eq_ok.mp hread
    exact not_creates_of_update id
  | adminOverrideCompletionPolicy reportId policy reason =>
    obtain ⟨_, -, -, -, -, rfl⟩ := adminOverrideCompletionPolicy_eq_ok.mp hread
    exact not_creates_of_update id
  | processCompletionReviewDeadlines dto =>
    obtain ⟨-, ⟨-, rfl⟩ | ⟨-, -, rfl⟩⟩ := processCompletionReviewDeadlines_eq_ok.mp hread
    · simp
    · simp only [List.forall_mem_map]
      exact fun _ _ _ => False.elim

/-- Only `createReport` brings a report into being, as it creates it. -/
theorem execute_report?_none {call : Call} {id : String} {r : Report} (h : s.report? id = none)
    (hr : (execute cfg env s user call).store.report? id = some r) :
    ∃ dto organizationId locationSource intakeRoute, call = .createReport dto ∧
      user.role = .citizen ∧
      user.organizationId = some organizationId ∧
      r = createdReport env user dto organizationId locationSource intakeRoute := by
  unfold execute at hr
  cases hread : readCall cfg env s user call with
  | error e =>
    rw [hread] at hr
    exact absurd (h.symm.trans hr) (by simp)
  | ok actions =>
    rw [hread] at hr
    by_cases hcall : ∃ dto, call = .createReport dto
    · obtain ⟨dto, rfl⟩ := hcall
      obtain ⟨organizationId, locationSource, intakeRoute, hrole, horg, rfl⟩ :=
        createReport_eq_ok hread
      refine ⟨dto, organizationId, locationSource, intakeRoute, rfl, hrole, horg, ?_⟩
      have hcreates : Action.Creates id r (.create
          (createdReport env user dto organizationId locationSource intakeRoute)
          (createReportEffects user intakeRoute
            (createdReport env user dto organizationId locationSource intakeRoute))) := by
        refine perform_report?_none env h ?_
        rw [← hr, commit, performAll, Outcome.andThen]
        split <;> rfl
      exact hcreates.1.symm
    · have hnone := performAll_report?_none env h
        (readCall_not_creates (fun dto he => hcall ⟨dto, he⟩) hread id)
      exact absurd (hnone.symm.trans hr) (by simp)

/-! ### Calls that do what they are allowed to -/

/-- A call that reads its way to one update writes the report it names. -/
theorem execute_of_read {call : Call} {reportId : String} {data : Patch Report.id}
    {effects : Report → List Effect} {r : Report}
    (hread : readCall cfg env s user call = .ok [.update reportId none data effects])
    (h : s.report? reportId = some r) :
    (execute cfg env s user call).store.report? reportId = some (data.apply r) := by
  rw [execute, hread, commit_update_report? h, if_pos rfl]

/-- An update that finds its report does not throw. -/
theorem execute_error_of_read {call : Call} {reportId : String} {data : Patch Report.id}
    {effects : Report → List Effect} {r : Report}
    (hread : readCall cfg env s user call = .ok [.update reportId none data effects])
    (h : s.report? reportId = some r) :
    (execute cfg env s user call).error = none := by
  rw [execute, hread, commit, performAll, Outcome.andThen, perform_update_error h rfl]
  rfl

/-- A call that sweeps expires exactly the overdue reports its filter covers. -/
theorem execute_sweeps {call : Call} {filter : ExpiryFilter}
    (hsweeps : Sweeps env s user call filter)
    {id : String} {r : Report} (h : s.report? id = some r) :
    (execute cfg env s user call).store.report? id =
      some (if sweptBy env filter r then (expireData env r).apply r else r) := by
  unfold execute
  cases hsweeps with
  | processOverdue hoperator =>
    rw [readCall, processOverdueAssignments, throwIf_of_not (by simpa using hoperator)]
    exact performAll_expire h
  | assignedReports hprovider =>
    rw [readCall, getAssignedReports, throwIf_of_not (by simpa using hprovider)]
    exact performAll_expire h
  | organizationReports hscope =>
    rw [readCall, getOrganizationReports, expireInScope, throwIf_of_not (by grind)]
    exact performAll_expire h
  | dashboardSummary hscope =>
    rw [readCall, getDashboardSummary, expireInScope, throwIf_of_not (by grind)]
    exact performAll_expire h
  | recentReports hscope =>
    rw [readCall, getRecentReports, expireInScope, throwIf_of_not (by grind)]
    exact performAll_expire h
  | rejectLapsed hr hcalled hlapsed =>
    rw [readCall, rejectAssignment_eq_ok.mpr ⟨_, hr, hcalled, .inl ⟨hlapsed, rfl⟩⟩]
    rw [commit, expireAndRefuse, performAll_append_throw]
    exact performAll_expire h
  | startLapsed hr hprovider hactive hlate =>
    rw [readCall, updateStatus_eq_ok.mpr ⟨_, hr, .inl ⟨hprovider, hactive, hlate, rfl⟩⟩]
    rw [commit, expireAndRefuse, performAll_append_throw]
    exact performAll_expire h

/-- The uploads, of which `Change` does not say when they write. -/
def Call.isUpload : Call → Bool
  | .uploadCompletionEvidence .. | .uploadReportEvidence .. => true
  | _ => false

/-- What a call may do to a report, it does. -/
theorem Change.executes {call : Call} {r r' : Report} (h : Change cfg env s user call r r')
    (hrow : s.report? r.id = some r) (hcall : call.isUpload = false) :
    (execute cfg env s user call).store.report? r.id = some r' := by
  cases h with
  | assignOrganization ho hallowed =>
    exact execute_of_read (assignOrganization_eq_ok.mpr ⟨r, _, hrow, ho, hallowed, rfl⟩) hrow
  | acceptOrganizationReport hallowed hopen hreview =>
    exact execute_of_read
      (acceptOrganizationReport_eq_ok.mpr ⟨r, _, hrow, hallowed, .inr ⟨hopen, hreview, rfl⟩⟩) hrow
  | rejectOrganizationReport hallowed hreason hreview hsuggested =>
    exact execute_of_read (rejectOrganizationReport_eq_ok.mpr
      ⟨r, _, hrow, hallowed, hreason, .inr ⟨hreview, hsuggested, rfl⟩⟩) hrow
  | expire hsweeps hswept => rw [execute_sweeps hsweeps hrow, if_pos hswept]
  | cancelAssignment hallowed =>
    exact execute_of_read (cancelAssignment_eq_ok.mpr ⟨r, hrow, hallowed, rfl⟩) hrow
  | assignProviderById hp hallowed =>
    exact execute_of_read (assignProviderById_eq_ok.mpr ⟨r, _, hrow, hp, hallowed, rfl⟩) hrow
  | rejectAssignment hcalled hlapsed hassigned =>
    exact execute_of_read
      (rejectAssignment_eq_ok.mpr ⟨r, hrow, hcalled, .inr ⟨hlapsed, hassigned, rfl⟩⟩) hrow
  | updateStatus hlate hready hallowed hc =>
    exact execute_of_read (updateStatus_eq_ok.mpr ⟨r, hrow, .inr ⟨hlate, hready, hallowed,
      (statusUpdate_eq_ok rfl).mpr (.inl ⟨hc, rfl⟩)⟩⟩) hrow
  | @submitCompletion _ dto _ hready hallowed hc hpolicy =>
    have hlate : startsLate env user r dto.status = false := by simp [startsLate, hc]
    exact execute_of_read (updateStatus_eq_ok.mpr ⟨r, hrow, .inr ⟨hlate, hready, hallowed,
      (statusUpdate_eq_ok rfl).mpr (.inr ⟨hc, _, hpolicy, rfl⟩)⟩⟩) hrow
  | uploadCompletionEvidence | uploadReportEvidence => cases hcall
  | confirmCitizenCompletion hreviews hdecision hunblocked =>
    exact execute_of_read
      (confirmCitizenCompletion_eq_ok.mpr
        ⟨r, hrow, hreviews, .inr ⟨hdecision, hunblocked, rfl⟩⟩) hrow
  | rejectCitizenCompletion hreviews hconfirmed hrework hreason =>
    exact execute_of_read
      (rejectCitizenCompletion_eq_ok.mpr
        ⟨r, hrow, hreviews, hconfirmed, hrework, hreason, rfl⟩) hrow
  | verifyOrganizationCompletion hreviews hdecision hunblocked hpolicy =>
    exact execute_of_read (verifyOrganizationCompletion_eq_ok.mpr
      ⟨r, hrow, hreviews, .inr ⟨hdecision, hunblocked, hpolicy, rfl⟩⟩) hrow
  | requestOrganizationCompletionRework hreviews hverified hrework hreason =>
    exact execute_of_read (requestOrganizationCompletionRework_eq_ok.mpr
      ⟨r, hrow, hreviews, hverified, hrework, hreason, rfl⟩) hrow
  | adminResolveAndClose hallowed hopen hheld =>
    exact execute_of_read
      (adminResolveAndClose_eq_ok.mpr ⟨r, hrow, hallowed, hopen, hheld, rfl⟩) hrow
  | adminReturnForCompletionRework hallowed hopen hstate =>
    exact execute_of_read
      (adminReturnForCompletionRework_eq_ok.mpr ⟨r, hrow, hallowed, hopen, hstate, rfl⟩) hrow
  | adminPlaceCompletionHold hallowed hopen hheld =>
    exact execute_of_read
      (adminPlaceCompletionHold_eq_ok.mpr ⟨r, hrow, hallowed, hopen, hheld, rfl⟩) hrow
  | adminRemoveCompletionHold hallowed hheld =>
    exact execute_of_read (adminRemoveCompletionHold_eq_ok.mpr ⟨r, hrow, hallowed, hheld, rfl⟩) hrow
  | adminReopenCompletion hallowed hclosed =>
    exact execute_of_read (adminReopenCompletion_eq_ok.mpr ⟨r, hrow, hallowed, hclosed, rfl⟩) hrow
  | adminOverrideCompletionPolicy hallowed hopen hpolicy =>
    exact execute_of_read
      (adminOverrideCompletionPolicy_eq_ok.mpr ⟨r, hrow, hallowed, hopen, hpolicy, rfl⟩) hrow
  | processCompletionReviewDeadlines hrole hdry hreason hcandidate heligible =>
    rw [execute, readCall, processCompletionReviewDeadlines_eq_ok.mpr
      ⟨hrole, .inr ⟨hdry, hreason, rfl⟩⟩]
    exact (performAll_deadline hrow).trans
      (by rw [if_pos ((mem_deadlineClosures_iff hrow).mpr ⟨hcandidate, heligible⟩)])

/-! ### Requests -/

/-- The columns of the cancellation `reassignProvider` starts with. -/
def reassignCancelData (env : Env) (reason : Option String) (r : Report) : Patch Report.id :=
  unassignData env (cancelReason (some ((trimmedOrNull reason).getD "Reassigned by administrator")))
    (r.assignedProviderId.getD "")

/-- What `reassignProvider` does to the report it names: the cancellation, when it is
allowed, and after it the assignment, when that is. -/
inductive Reassigned (cfg : Config) (env : Env) (user : JwtUser) (providerId : String)
    (reason : Option String) :
    Report → Report → Prop where
  | cancelled {r : Report} : CancelAllowed user r →
      (∀ provider, env.user? providerId = some provider →
        ¬ AssignAllowed user ((reassignCancelData env reason r).apply r) provider {}) →
      Reassigned cfg env user providerId reason r ((reassignCancelData env reason r).apply r)
  | assigned {r : Report} {provider : User} : env.user? providerId = some provider →
      AssignAllowed user r provider {} →
      Reassigned cfg env user providerId reason r ((assignProviderData cfg env providerId).apply r)
  | moved {r : Report} {provider : User} : CancelAllowed user r →
      env.user? providerId = some provider →
      AssignAllowed user ((reassignCancelData env reason r).apply r) provider {} →
      Reassigned cfg env user providerId reason r
        ((assignProviderData cfg env providerId).apply ((reassignCancelData env reason r).apply r))

/-- `StepChange cfg event s r r'`: the step writes `r'` over the report `r`. -/
inductive StepChange (cfg : Config) (event : Event) (s : Store) (r r' : Report) : Prop where
  | call {call : Call} : event.request = .call call → Change cfg event.env s event.user call r r' →
      StepChange cfg event s r r'
  | reassign {providerId : String} {reason : Option String} :
      event.request = .reassignProvider r.id providerId reason →
      Reassigned cfg event.env event.user providerId reason r r' → StepChange cfg event s r r'

theorem change_cancelAssignment {reportId : String} {reason : Option String} {r r' : Report}
    (h : Change cfg env s user (.cancelAssignment reportId reason) r r') :
    r.id = reportId ∧ CancelAllowed user r ∧
      r' = (unassignData env (cancelReason reason) (r.assignedProviderId.getD "")).apply r := by
  cases h with
  | expire hsweeps => cases hsweeps
  | cancelAssignment hallowed => exact ⟨rfl, hallowed, rfl⟩

theorem change_assignProviderById {reportId providerId : String} {options : AssignOptions}
    {r r' : Report}
    (h : Change cfg env s user (.assignProviderById reportId providerId options) r r') :
    r.id = reportId ∧ ∃ provider, env.user? providerId = some provider ∧
      AssignAllowed user r provider options ∧
        r' = (assignProviderData cfg env providerId).apply r := by
  cases h with
  | expire hsweeps => cases hsweeps
  | assignProviderById hp hallowed => exact ⟨rfl, _, hp, hallowed, rfl⟩

theorem performFor_reports (reportId : String) (effects : Report → List Effect) (s : Store) :
    (performFor env reportId effects s).store.reports = s.reports := by
  unfold performFor
  split
  · exact performEffects_reports env _ s
  · rfl

/-- The assignment and the notices of `reassignProvider`, after its cancellation. -/
theorem reassign_tail_report? (cfg : Config) (env : Env) (user : JwtUser) {o : Outcome}
    (reportId providerId : String) (effects : Report → List Effect) (id : String) :
    ((o.andThen fun s =>
      execute cfg env s user (.assignProviderById reportId providerId {})).andThen
        (performFor env reportId effects)).store.report? id =
      (o.andThen fun s =>
        execute cfg env s user (.assignProviderById reportId providerId {})).store.report? id := by
  refine andThen_store (P := fun t => t.report? id = _) rfl ?_
  rw [Store.report?, performFor_reports]
  rfl

/-- The cancellation `reassignProvider` starts with, when it is allowed. -/
theorem execute_reassignCancel (cfg : Config) (env : Env) {reportId : String}
    (reason : Option String) {r : Report}
    (h : s.report? reportId = some r) (hallowed : CancelAllowed user r) :
    (execute cfg env s user (reassignCancel reportId reason)).error = none ∧
      (execute cfg env s user (reassignCancel reportId reason)).store.report? reportId =
        some ((reassignCancelData env reason r).apply r) := by
  have hread : readCall cfg env s user (reassignCancel reportId reason) = .ok _ :=
    cancelAssignment_eq_ok.mpr ⟨r, h, hallowed, rfl⟩
  exact ⟨execute_error_of_read hread h, execute_of_read hread h⟩

/-- The assignment `reassignProvider` ends with: what it does, and that it does what it may. -/
theorem execute_assignProviderById (cfg : Config) (env : Env) (user : JwtUser) (providerId : String)
    {id : String} {r : Report} (h : s.report? id = some r) (reportId : String) :
    ∃ r', (execute cfg env s user (.assignProviderById reportId providerId {})).store.report? id =
      some r' ∧
      (r' = r ∧ (r.id = reportId → ∀ provider, env.user? providerId = some provider →
          ¬ AssignAllowed user r provider {}) ∨
        r.id = reportId ∧ ∃ provider, env.user? providerId = some provider ∧
          AssignAllowed user r provider {} ∧
          r' = (assignProviderData cfg env providerId).apply r) := by
  obtain ⟨r', hr', hchange⟩ :=
    execute_report? cfg env user (.assignProviderById reportId providerId {}) h
  refine ⟨r', hr', ?_⟩
  rcases hchange with hsame | hchange
  · refine .inl ⟨hsame, fun hid provider hp hallowed => ?_⟩
    subst hid hsame
    have hid := id_of_report? h
    subst hid
    have hstatus := congrArg Report.status
      (Option.some.inj (hr'.symm.trans ((Change.assignProviderById hp hallowed).executes h rfl)))
    rw [hallowed.pending] at hstatus
    cases hstatus
  · exact .inr (change_assignProviderById hchange)

theorem reassignProvider_report? (cfg : Config) (env : Env) (user : JwtUser)
    (reportId providerId : String)
    (reason : Option String) {id : String} {r : Report} (h : s.report? id = some r) :
    ∃ r', (reassignProvider cfg env s user reportId providerId reason).store.report? id = some r' ∧
      (r' = r ∨ r.id = reportId ∧ Reassigned cfg env user providerId reason r r') := by
  unfold reassignProvider
  cases hreport : s.report? reportId with
  | none => exact ⟨r, h, .inl rfl⟩
  | some report =>
    have hsame : r.id = reportId → report = r := by
      intro hid
      rw [← hid, id_of_report? h] at hreport
      exact Option.some.inj (hreport.symm.trans h)
    simp only [reassign_tail_report?]
    by_cases hassigned : truthy report.assignedProviderId
    · simp only [hassigned, if_true]
      obtain ⟨r₁, hr₁, hcancel⟩ := execute_report? cfg env user (reassignCancel reportId reason) h
      cases herror : (execute cfg env s user (reassignCancel reportId reason)).error with
      | some e =>
        rw [Outcome.andThen, herror]
        refine ⟨r₁, hr₁, hcancel.imp_right fun hcancel => ?_⟩
        obtain ⟨hid, hallowed, -⟩ := change_cancelAssignment hcancel
        subst hid
        rw [id_of_report? h] at hreport herror
        rw [(execute_reassignCancel cfg env reason h hallowed).1] at herror
        cases herror
      | none =>
        rw [Outcome.andThen, herror]
        obtain ⟨r', hr', hassign⟩ := execute_assignProviderById cfg env user providerId hr₁ reportId
        refine ⟨r', hr', ?_⟩
        rcases hcancel with rfl | hcancel
        · rcases hassign with ⟨hr, -⟩ | ⟨hid, provider, hp, hallowed, -⟩
          · exact .inl hr
          · rw [hsame hid, hallowed.free] at hassigned
            cases hassigned
        · obtain ⟨hid, hallowed, rfl⟩ := change_cancelAssignment hcancel
          refine .inr ⟨hid, ?_⟩
          rcases hassign with ⟨rfl, hrefused⟩ | ⟨-, provider, hp, hassign, rfl⟩
          · exact .cancelled hallowed (hrefused hid)
          · exact .moved hallowed hp hassign
    · simp only [hassigned]
      obtain ⟨r', hr', hassign⟩ := execute_assignProviderById cfg env user providerId h reportId
      refine ⟨r', hr', ?_⟩
      rcases hassign with ⟨hr, -⟩ | ⟨hid, provider, hp, hallowed, rfl⟩
      · exact .inl hr
      · exact .inr ⟨hid, .assigned hp hallowed⟩

/-- What `reassignProvider` may do to the report it names, it does. -/
theorem Reassigned.executes {providerId : String} {reason : Option String} {r r' : Report}
    (h : Reassigned cfg env user providerId reason r r') (hrow : s.report? r.id = some r) :
    (reassignProvider cfg env s user r.id providerId reason).store.report? r.id = some r' := by
  unfold reassignProvider
  simp only [hrow, reassign_tail_report?]
  cases h with
  | cancelled hallowed hrefused =>
    obtain ⟨herror, hcancelled⟩ := execute_reassignCancel cfg env reason hrow hallowed
    rw [if_pos hallowed.assigned, Outcome.andThen, herror]
    obtain ⟨r', hr', ⟨rfl, -⟩ | ⟨-, provider, hp, hassign, -⟩⟩ :=
      execute_assignProviderById cfg env user providerId hcancelled r.id
    · exact hr'
    · exact absurd hassign (hrefused provider hp)
  | assigned hp hallowed =>
    rw [if_neg (by simp [hallowed.free])]
    exact (Change.assignProviderById hp hallowed).executes hrow rfl
  | moved hallowed hp hassign =>
    obtain ⟨herror, hcancelled⟩ := execute_reassignCancel cfg env reason hrow hallowed
    rw [if_pos hallowed.assigned, Outcome.andThen, herror]
    exact (Change.assignProviderById hp hassign
      (r := (reassignCancelData env reason r).apply r)).executes
      hcancelled rfl

/-- A step leaves a report as it is or changes it in one of the ways of `StepChange`. -/
theorem step_report? (cfg : Config) (event : Event) {s : Store} {id : String} {r : Report}
    (h : s.report? id = some r) :
    ∃ r', (step cfg event s).report? id = some r' ∧ (r' = r ∨ StepChange cfg event s r r') := by
  unfold step outcome
  cases hrequest : event.request with
  | call call =>
    obtain ⟨r', hr', hchange⟩ := execute_report? cfg event.env event.user call h
    exact ⟨r', hr', hchange.imp_right (.call hrequest)⟩
  | reassignProvider reportId providerId reason =>
    obtain ⟨r', hr', hchange⟩ :=
      reassignProvider_report? cfg event.env event.user reportId providerId reason h
    refine ⟨r', hr', hchange.imp_right fun ⟨hid, hreassigned⟩ => ?_⟩
    subst hid
    exact .reassign hrequest hreassigned

theorem execute_report?_none_of_ne {call : Call} (hcall : ∀ dto, call ≠ .createReport dto)
    {id : String}
    (h : s.report? id = none) : (execute cfg env s user call).store.report? id = none := by
  cases hr : (execute cfg env s user call).store.report? id with
  | none => rfl
  | some r =>
    obtain ⟨dto, _, _, _, hdto, -⟩ := execute_report?_none h hr
    exact absurd hdto (hcall dto)

theorem reassignProvider_report?_none {reportId providerId id : String} {reason : Option String}
    (h : s.report? id = none) :
    (reassignProvider cfg env s user reportId providerId reason).store.report? id = none := by
  unfold reassignProvider
  split
  · exact h
  · have hcancel : ∀ report : Report, (if truthy report.assignedProviderId then
        execute cfg env s user (reassignCancel reportId reason) else
          ⟨s, none⟩ : Outcome).store.report? id = none := by
      intro report
      split
      · exact execute_report?_none_of_ne (fun _ => Call.noConfusion) h
      · exact h
    refine andThen_store (P := fun t => t.report? id = none)
      (andThen_store (P := fun t => t.report? id = none)
      (hcancel _) (execute_report?_none_of_ne (fun _ => Call.noConfusion) (hcancel _))) ?_
    rw [Store.report?, performFor_reports]
    exact andThen_store (P := fun t => t.report? id = none) (hcancel _)
      (execute_report?_none_of_ne (fun _ => Call.noConfusion) (hcancel _))

/-- Only a step that creates a report brings it into being, as it creates it. -/
theorem step_report?_none {event : Event} {id : String} {r : Report} (h : s.report? id = none)
    (hr : (step cfg event s).report? id = some r) :
    ∃ dto organizationId locationSource intakeRoute, event.request = .call (.createReport dto) ∧
      event.user.role = .citizen ∧ event.user.organizationId = some organizationId ∧
      r = createdReport event.env event.user dto organizationId locationSource intakeRoute := by
  unfold step outcome at hr
  cases hrequest : event.request with
  | call call =>
    rw [hrequest] at hr
    obtain ⟨dto, organizationId, locationSource, intakeRoute, rfl, hrest⟩ :=
      execute_report?_none h hr
    exact ⟨dto, organizationId, locationSource, intakeRoute, rfl, hrest⟩
  | reassignProvider reportId providerId reason =>
    rw [hrequest] at hr
    exact absurd ((reassignProvider_report?_none h).symm.trans hr) (by simp)

/-- What holds of a report when it is created, and is kept by every change, holds of all
reports after a step. -/
theorem step_forall {event : Event} {P : Report → Prop}
    (hcreated : ∀ dto organizationId locationSource intakeRoute,
      P (createdReport event.env event.user dto organizationId locationSource intakeRoute))
    (hchange : ∀ r r', s.report? r.id = some r → P r → StepChange cfg event s r r' → P r')
    (hs : ∀ id r, s.report? id = some r → P r) (id : String) (r : Report)
    (hrow : (step cfg event s).report? id = some r) : P r := by
  cases hold : s.report? id with
  | none =>
    obtain ⟨dto, organizationId, locationSource, intakeRoute, -, -, -, rfl⟩ :=
      step_report?_none hold hrow
    exact hcreated dto organizationId locationSource intakeRoute
  | some r₀ =>
    obtain ⟨r', hrow', hstep⟩ := step_report? cfg event hold
    obtain rfl : r' = r := Option.some.inj (hrow'.symm.trans hrow)
    rcases hstep with rfl | hstep
    · exact hs id _ hold
    · exact hchange r₀ _ (id_of_report? hold ▸ hold) (hs id _ hold) hstep

/-- What the call of a step may do to a report, the step does. -/
theorem Change.takes_place {event : Event} {call : Call} {r r' : Report}
    (h : Change cfg event.env s event.user call r r') (hrequest : event.request = .call call)
    (hrow : s.report? r.id = some r) (hcall : call.isUpload = false) :
    (step cfg event s).report? r.id = some r' := by
  unfold step outcome
  rw [hrequest]
  exact h.executes hrow hcall

/-- What the reassignment of a step may do to a report, the step does. -/
theorem Reassigned.takes_place {event : Event} {providerId : String} {reason : Option String}
    {r r' : Report} (h : Reassigned cfg event.env event.user providerId reason r r')
    (hrequest : event.request = .reassignProvider r.id providerId reason)
    (hrow : s.report? r.id = some r) :
    (step cfg event s).report? r.id = some r' := by
  unfold step outcome
  rw [hrequest]
  exact h.executes hrow

end FixZone.ReportService
