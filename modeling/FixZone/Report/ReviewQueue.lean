import FixZone.Report.Change

/-!
# The responsibility review queue

`getResponsibilityReviewReports` shows the operators of an organization the reports that
`responsibilityQueueState` finds eligible for it. An operator who is shown a report can
accept it and reject it, and either answer takes the report out of every queue: it
`IsDecided` then, and stays so until a request `Routes` it again (`review_queue_sound`).
-/

namespace FixZone.ReportService

open Library Organization

variable (s : Store)

/-! ### The state of a report in the queue -/

/-- `ResponsibilityEligibilityReason`. -/
inductive ResponsibilityEligibilityReason where
  | closedReport | acceptedAlready | manuallyOverridden | rejectedAlready
  | legacyMatchedRoutingState | statusNotOrgReview | noProposedOrganization | staleAssignment
  | matchedProposedOrganization
  deriving DecidableEq

/-- What `queueState` returns. -/
structure QueueState where
  eligibleForResponsibilityReview : Bool
  eligibilityReason : ResponsibilityEligibilityReason
  queueOrganizationId : Option String
  dispatchAllowed : Bool
  manualOverrideOccurred : Bool
  deriving DecidableEq

/-- `manualOverrideOccurred`, as `responsibilityQueueState` reads it off the source. -/
def manualOverrideOccurred (report : Report) : Bool :=
  let source := toLowerCase (report.organizationAssignmentSource.getD "")
  includes source "super admin override" || includes source "manual"

/-- `queueState`, with the two flags `responsibilityQueueState` always passes. -/
def queueState (report : Report) (eligibleForResponsibilityReview : Bool)
    (eligibilityReason : ResponsibilityEligibilityReason) (queueOrganizationId : Option String) :
    QueueState where
  eligibleForResponsibilityReview
  eligibilityReason
  queueOrganizationId
  dispatchAllowed := report.status = .pending && !truthy report.assignedProviderId
  manualOverrideOccurred := manualOverrideOccurred report

/-- `responsibilityQueueState`. -/
def responsibilityQueueState (report : Report)
    (responsibilityResolution : Option ResponsibilityResolutionDiagnostics) : QueueState :=
  if report.status = .closed then
    queueState report false .closedReport none
  else if report.status = .pending ∧ report.organizationId ≠ "" ∧
      report.assignedOrganizationId = some report.organizationId then
    queueState report false .acceptedAlready none
  else if manualOverrideOccurred report ∧ report.status ≠ .orgReview then
    queueState report false .manuallyOverridden none
  else if report.lastAssignmentOutcome = some .rejected ∨
      report.organizationAssignmentSource = some "Organization rejected report" then
    queueState report false .rejectedAlready none
  else if isLegacyMatchedResponsibilityReview report report.organizationId
      responsibilityResolution then
    queueState report true .legacyMatchedRoutingState (some report.organizationId)
  else if report.status ≠ .orgReview then
    queueState report false .statusNotOrgReview none
  else if !truthy report.assignedOrganizationId then
    queueState report false .noProposedOrganization none
  else if report.organizationAssignedAt = none then
    queueState report false .staleAssignment report.assignedOrganizationId
  else
    queueState report true .matchedProposedOrganization report.assignedOrganizationId

/-- The state of a report in the queue, by the activities of the store. -/
def queueStateOf (report : Report) : QueueState :=
  responsibilityQueueState report (responsibilityResolutionFromActivity s report.id)

/-- A report is shown as actionable in the review queue of an organization. -/
def InReviewQueue (organizationId : String) (report : Report) : Prop :=
  (queueStateOf s report).eligibleForResponsibilityReview ∧
    (queueStateOf s report).queueOrganizationId = some organizationId

instance (organizationId : String) (report : Report) :
    Decidable (InReviewQueue s organizationId report) :=
  inferInstanceAs (Decidable (_ ∧ _))

/-- A report is offered to an organization, which has not answered. -/
structure Offered (organizationId : String) (report : Report) : Prop where
  orgReview : report.status = .orgReview
  assigned : report.assignedOrganizationId = some organizationId
  organization_ne : organizationId ≠ ""
  dated : report.organizationAssignedAt ≠ none
  unrejected : report.lastAssignmentOutcome ≠ some .rejected ∧
    report.organizationAssignmentSource ≠ some "Organization rejected report"

variable {s}

/-- What a legacy matched review is besides a report in triage. -/
theorem organization_of_legacyMatchedReview {report : Report} {organizationId : String}
    (h : legacyMatchedReview s report organizationId) :
    organizationId ≠ "" ∧ report.organizationId = organizationId ∧
      report.lastAssignmentOutcome ≠ some .rejected ∧
      report.organizationAssignmentSource ≠ some "Organization rejected report" := by
  simp only [legacyMatchedReview, isLegacyMatchedResponsibilityReview, Bool.and_eq_true,
    decide_eq_true_eq] at h
  obtain ⟨⟨⟨⟨⟨⟨⟨hne, -⟩, horganization⟩, -⟩, -⟩, houtcome⟩, hsource⟩, -⟩ := h
  exact ⟨by simpa using hne, horganization, by simpa using houtcome, by simpa using hsource⟩

/-- The queue holds the legacy matched reviews nobody overrode, and the reports on offer. -/
theorem inReviewQueue_iff {organizationId : String} {report : Report} :
    InReviewQueue s organizationId report ↔
      legacyMatchedReview s report organizationId ∧ manualOverrideOccurred report = false ∨
        Offered organizationId report := by
  have hlegacy : isLegacyMatchedResponsibilityReview report report.organizationId
      (responsibilityResolutionFromActivity s report.id) =
        legacyMatchedReview s report report.organizationId := rfl
  constructor
  · rintro ⟨heligible, hqueue⟩
    unfold queueStateOf responsibilityQueueState at heligible hqueue
    rw [hlegacy] at heligible hqueue
    split_ifs at heligible hqueue with hclosed haccepted hmanual hrejected hmatched hstatus
      hassigned hdated
    all_goals try cases heligible
    · obtain rfl : report.organizationId = organizationId := Option.some.inj hqueue
      have htriage := (triage_of_legacyMatchedReview hmatched).1
      exact .inl ⟨hmatched, by simpa [htriage] using hmanual⟩
    · have hassigned' : report.assignedOrganizationId = some organizationId := hqueue
      refine .inr ⟨by simpa using hstatus, hassigned', ?_, hdated, by simpa using hrejected⟩
      simpa [hassigned', truthy] using hassigned
  · rintro (⟨hmatched, hmanual⟩ | ⟨hreview, hassigned, hne, hdated, houtcome, hsource⟩)
    · obtain ⟨-, rfl, houtcome, hsource⟩ := organization_of_legacyMatchedReview hmatched
      have htriage := (triage_of_legacyMatchedReview hmatched).1
      unfold InReviewQueue queueStateOf responsibilityQueueState
      simp [hlegacy, hmatched, htriage, hmanual, houtcome, hsource, queueState]
    · have hunmatched : legacyMatchedReview s report report.organizationId = false := by
        by_contra h
        have htriage := (triage_of_legacyMatchedReview (by simpa using h)).1
        rw [hreview] at htriage
        cases htriage
      unfold InReviewQueue queueStateOf responsibilityQueueState
      simp [hlegacy, hunmatched, hreview, hassigned, hne, hdated, houtcome, hsource, queueState,
        truthy]

/-! ### The page an operator is shown -/

/-- `safePageLimit`, of what `Number.parseInt` makes of the query. -/
def safePageLimit (parsed : Option ℤ) (fallback : ℕ) : ℕ :=
  match parsed with
  | some n => if n ≤ 0 then fallback else min n.toNat 100
  | none => fallback

/-- `safePageOffset`, of what `Number.parseInt` makes of the query. -/
def safePageOffset (parsed : Option ℤ) : ℕ :=
  match parsed with
  | some n => if n < 0 then 0 else n.toNat
  | none => 0

/-- The `where` of `getResponsibilityReviewReports`. -/
def awaitsReview (organizationId : String) (report : Report) : Bool :=
  report.assignedOrganizationId = some organizationId && report.status = .orgReview ||
    report.organizationId = organizationId && report.assignedOrganizationId = none &&
      report.assignedProviderId = none && report.status = .triage &&
      report.lastAssignmentOutcome ≠ some .rejected &&
      report.organizationAssignmentSource ≠ some "Organization rejected report"

/-- The `orderBy` of `getResponsibilityReviewReports`: what comes last, the undated first. -/
def newestFirst (a b : Report) : Bool :=
  let tie := b.createdAt < a.createdAt || (b.createdAt = a.createdAt && b.id ≤ a.id)
  match a.organizationAssignedAt, b.organizationAssignedAt with
  | some m, some n => n < m || (n = m && tie)
  | none, some _ => true
  | some _, none => false
  | none, none => tie

variable (s) in
/-- `getResponsibilityReviewReports`. -/
def getResponsibilityReviewReports (user : JwtUser) (limit offset : Option ℤ) :
    Except HttpError (List Report) := do
  let organizationId ← user.requireUserOrganizationId
  throwIf (!user.isAdmin && !user.isDispatch) (forbidden "Organization review access required")
  let take := safePageLimit limit 50
  let skip := safePageOffset offset
  let reports := ((s.reports.rows.filter (awaitsReview organizationId)).insertionSort
    fun a b => newestFirst a b).take (min (skip + take + 50) 200)
  return (((reports.filter fun report =>
      (queueStateOf s report).queueOrganizationId = some organizationId).filter fun report =>
        (queueStateOf s report).eligibleForResponsibilityReview).drop skip).take take

/-- An operator of an organization. -/
structure OperatesFor (user : JwtUser) (organizationId : String) : Prop where
  organization : user.organizationId = some organizationId
  operator : user.isAdmin ∨ user.isDispatch

/-- A report an operator is shown is a row in the queue of the operator's organization. -/
theorem shown_inReviewQueue {user : JwtUser} {limit offset : Option ℤ} {shown : List Report}
    (h : getResponsibilityReviewReports s user limit offset = .ok shown) {report : Report}
    (hreport : report ∈ shown) :
    ∃ organizationId, OperatesFor user organizationId ∧ s.report? report.id = some report ∧
      InReviewQueue s organizationId report := by
  obtain ⟨organizationId, horganization, h⟩ := bind_eq_ok.mp h
  rw [throwIf_bind_eq_ok, pure_eq_ok] at h
  obtain ⟨hoperator, rfl⟩ := h
  have hfiltered := List.mem_of_mem_drop (List.mem_of_mem_take hreport)
  simp only [List.mem_filter] at hfiltered
  obtain ⟨⟨hpage, hqueue⟩, heligible⟩ := hfiltered
  have hrow := List.mem_of_mem_take hpage
  rw [List.mem_insertionSort, List.mem_filter] at hrow
  exact ⟨organizationId,
    ⟨(JwtUser.requireUserOrganizationId_eq_ok.mp horganization).1, by grind⟩,
    report?_of_mem hrow.1, heligible, by simpa using hqueue⟩

/-! ### Answers -/

variable {cfg : Config} {env : Env} {user : JwtUser}

/-- A call by which an organization answers a report on its queue, with what it writes: an
acceptance, or a rejection that gives a reason and suggests no organization that does not exist. -/
inductive Answers (env : Env) (organizationId : String) (report : Report) :
    Call → Patch Report.id → Prop where
  | accept {note : Option String} :
      Answers env organizationId report (.acceptOrganizationReport report.id note)
        (acceptOrganizationReportData env organizationId report)
  | reject {reason : String} {suggested : Option String} : trim reason ≠ "" →
      trimmed suggested = "" ∨ env.organization? (trimmed suggested) ≠ none →
      Answers env organizationId report (.rejectOrganizationReport report.id reason suggested)
        (rejectOrganizationReportData env (trim reason) report)

/-- What the queue and the guards of the two answers agree on. -/
theorem intake_of_inReviewQueue {organizationId : String} {report : Report}
    (hqueue : InReviewQueue s organizationId report) (huser : OperatesFor user organizationId) :
    IntakeAllowed s user organizationId report ∧
      (report.status = .orgReview ∨ legacyMatchedReview s report organizationId) := by
  rcases inReviewQueue_iff.mp hqueue with ⟨hmatched, -⟩ | hoffered
  · have hne := (organization_of_legacyMatchedReview hmatched).1
    exact ⟨⟨huser.organization, hne, huser.operator, .inr hmatched⟩, .inr hmatched⟩
  · exact ⟨⟨huser.organization, hoffered.organization_ne, huser.operator, .inl hoffered.assigned⟩,
      .inl hoffered.orgReview⟩

variable (cfg) in
/-- An answer to a report on the queue does not throw, and writes what it says. -/
theorem Answers.executes {organizationId : String} {report : Report} {call : Call}
    {data : Patch Report.id} (h : Answers env organizationId report call data)
    (hrow : s.report? report.id = some report) (hqueue : InReviewQueue s organizationId report)
    (huser : OperatesFor user organizationId) :
    (execute cfg env s user call).error = none ∧
      (execute cfg env s user call).store.report? report.id = some (data.apply report) := by
  obtain ⟨hallowed, hreview⟩ := intake_of_inReviewQueue hqueue huser
  cases h with
  | @accept note =>
    have hopen : ¬(report.status = .pending ∧ report.organizationId = organizationId) := by
      rintro ⟨hpending, -⟩
      rcases hreview with hreview | hmatched
      · simp [hpending] at hreview
      · have htriage := (triage_of_legacyMatchedReview hmatched).1
        simp [hpending] at htriage
    have hread : readCall cfg env s user (.acceptOrganizationReport report.id note) = .ok _ :=
      acceptOrganizationReport_eq_ok.mpr
        ⟨report, organizationId, hrow, hallowed, .inr ⟨hopen, hreview, rfl⟩⟩
    exact ⟨execute_error_of_read hread hrow, execute_of_read hread hrow⟩
  | @reject reason suggested hreason hsuggested =>
    have hread : readCall cfg env s user (.rejectOrganizationReport report.id reason suggested) =
        .ok _ :=
      rejectOrganizationReport_eq_ok.mpr
        ⟨report, organizationId, hrow, hallowed, hreason, .inr ⟨hreview, hsuggested, rfl⟩⟩
    exact ⟨execute_error_of_read hread hrow, execute_of_read hread hrow⟩

/-! ### Reports off the queues -/

/-- A report that is off every queue because an organization has answered it: it is not offered
to one, and if it is in triage, then as a report that was rejected. -/
structure IsDecided (report : Report) : Prop where
  closed_offer : report.status ≠ .orgReview
  rejected : report.status = .triage →
    report.organizationAssignmentSource = some "Organization rejected report"

theorem IsDecided.not_legacyMatchedReview {report : Report} (h : IsDecided report)
    (organizationId : String) : ¬ legacyMatchedReview s report organizationId := by
  intro hmatched
  have htriage := (triage_of_legacyMatchedReview hmatched).1
  exact (organization_of_legacyMatchedReview hmatched).2.2.2 (h.rejected htriage)

theorem IsDecided.not_inReviewQueue {report : Report} (h : IsDecided report)
    (organizationId : String) : ¬ InReviewQueue s organizationId report := by
  intro hqueue
  rcases inReviewQueue_iff.mp hqueue with ⟨hmatched, -⟩ | hoffered
  · exact h.not_legacyMatchedReview organizationId hmatched
  · exact h.closed_offer hoffered.orgReview

theorem IsDecided.of_status {report : Report} (h : report.status ≠ .orgReview)
    (htriage : report.status ≠ .triage) : IsDecided report :=
  ⟨h, fun h => absurd h htriage⟩

/-- What an answer writes is decided. -/
theorem Answers.isDecided {organizationId : String} {report : Report} {call : Call}
    {data : Patch Report.id} (h : Answers env organizationId report call data) :
    IsDecided (data.apply report) := by
  cases h with
  | accept => exact .of_status (by simp) (by simp)
  | reject _ _ => exact ⟨by simp, fun _ => rfl⟩

/-- A request that routes the report `id`: `assignOrganization`, or a status update by one of
the users that `routers` picks. -/
def Routes (routers : JwtUser → Bool) (event : Event) (id : String) : Prop :=
  (∃ dto, event.request = .call (.assignOrganization id dto)) ∨
    ∃ dto, event.request = .call (.updateStatus id dto) ∧ routers event.user

/-- A report that keeps its status and its source stays decided. -/
theorem IsDecided.congr {r r' : Report} (h : IsDecided r) (hstatus : r'.status = r.status)
    (hsource : r'.organizationAssignmentSource = r.organizationAssignmentSource) : IsDecided r' :=
  ⟨hstatus ▸ h.closed_offer, fun htriage => hsource ▸ h.rejected (hstatus ▸ htriage)⟩

/-- The status a provider moves a report to takes it out of every queue. -/
theorem status_of_provider {user : JwtUser} {report : Report} {next : ReportStatus}
    (h : TransitionAllowed user report next) (hrouter : user.isOperator = false) :
    next ≠ .orgReview ∧ next ≠ .triage := by
  have hroles : user.role ≠ .superAdmin ∧ user.role ≠ .orgAdmin ∧
      user.role ≠ .dispatchOfficer := by
    grind [JwtUser.isOperator, JwtUser.isAdmin, JwtUser.isDispatch, JwtUser.isSuperAdmin]
  rcases h.authority with ⟨-, -, rfl | rfl⟩ | ⟨hrole, -⟩ | hrole
  · simp
  · simp
  · exact absurd hrole (by simp [hroles])
  · exact absurd hrole hroles.1

/-- A call that does not route a decided report leaves it decided. -/
theorem change_isDecided {event : Event} {call : Call} {r r' : Report}
    (hrequest : event.request = .call call) (hr : IsDecided r)
    (hroutes : ¬ Routes JwtUser.isOperator event r.id)
    (h : Change cfg event.env s event.user call r r') : IsDecided r' := by
  have hrouter : ∀ dto, call = .updateStatus r.id dto → event.user.isOperator = false := by
    rintro dto rfl
    by_contra hoperator
    exact hroutes (.inr ⟨dto, hrequest, by simpa using hoperator⟩)
  cases h with
  | @assignOrganization _ dto => exact absurd (.inl ⟨dto, hrequest⟩) hroutes
  -- an answer needs a report that is on a queue
  | acceptOrganizationReport _ _ hreview | rejectOrganizationReport _ _ hreview _ =>
    exact (hreview.elim hr.closed_offer (hr.not_legacyMatchedReview _)).elim
  | updateStatus _ _ hallowed _ =>
    obtain ⟨hreview, htriage⟩ := status_of_provider hallowed (hrouter _ rfl)
    exact .of_status hreview htriage
  | submitCompletion _ _ hc _ => exact .of_status (by simp [hc]) (by simp [hc])
  | expire _ _ | cancelAssignment _ | assignProviderById _ _ | rejectAssignment _ _ _
  | rejectCitizenCompletion _ _ _ _ | requestOrganizationCompletionRework _ _ _ _
  | adminResolveAndClose _ _ _ | adminReturnForCompletionRework _ _ _
  | adminReopenCompletion _ _ | processCompletionReviewDeadlines _ _ _ _ _ =>
    exact .of_status (by simp) (by simp)
  | confirmCitizenCompletion _ _ _ | verifyOrganizationCompletion _ _ _ _ =>
    refine .of_status ?_ ?_ <;> dsimp only [confirmData, verifyData] <;> split_ifs <;> simp
  | uploadCompletionEvidence | adminPlaceCompletionHold _ _ _ | adminRemoveCompletionHold _ _
  | adminOverrideCompletionPolicy _ _ _ =>
    exact hr.congr rfl rfl
  | @uploadReportEvidence _ _ saved => cases saved <;> exact hr.congr rfl rfl

/-- A step that does not route a decided report leaves it decided. -/
theorem stepChange_isDecided {event : Event} {r r' : Report} (hr : IsDecided r)
    (hroutes : ¬ Routes JwtUser.isOperator event r.id) (h : StepChange cfg event s r r') :
    IsDecided r' := by
  cases h with
  | call hrequest hchange => exact change_isDecided hrequest hr hroutes hchange
  | reassign _ hreassigned =>
    cases hreassigned <;>
      exact .of_status (by simp [reassignCancelData]) (by simp [reassignCancelData])

/-- The report `id`, if there is one, is decided. -/
def DecidedAt (id : String) (s : Store) : Prop := ∃ r, s.report? id = some r ∧ IsDecided r

theorem step_decidedAt {event : Event} {id : String} (hs : DecidedAt id s)
    (hroutes : ¬ Routes JwtUser.isOperator event id) : DecidedAt id (step cfg event s) := by
  obtain ⟨r, hrow, hr⟩ := hs
  obtain rfl := id_of_report? hrow
  obtain ⟨r', hrow', rfl | hchange⟩ := step_report? cfg event hrow
  · exact ⟨_, hrow', hr⟩
  · exact ⟨r', hrow', stepChange_isDecided hr hroutes hchange⟩

/-! ### Soundness of the queue -/

/-- The report `id` is in no queue, and comes back to none in a run of requests that do not
route it. -/
def StaysOff (routers : JwtUser → Bool) (cfg : Config) (id : String) (s : Store) : Prop :=
  ∀ events : List Event, (∀ event ∈ events, ¬ Routes routers event id) →
    ∀ organizationId r, (run (step cfg) s events).report? id = some r →
      ¬ InReviewQueue (run (step cfg) s events) organizationId r

/-- The operators of an organization can give each answer to each report on its queue, and their
answer takes the report off the queues until it is routed again. -/
def ReviewQueueSound (routers : JwtUser → Bool) (cfg : Config) (s : Store) : Prop :=
  ∀ (organizationId : String) (report : Report), s.report? report.id = some report →
    InReviewQueue s organizationId report →
    ∀ (env : Env) (user : JwtUser), OperatesFor user organizationId →
    ∀ (call : Call) (data : Patch Report.id), Answers env organizationId report call data →
      (execute cfg env s user call).error = none ∧
      (execute cfg env s user call).store.report? report.id = some (data.apply report) ∧
      StaysOff routers cfg report.id (execute cfg env s user call).store

theorem staysOff_of_decidedAt {id : String} (hs : DecidedAt id s) :
    StaysOff JwtUser.isOperator cfg id s := by
  intro events hevents organizationId r hrow
  have hdecided : DecidedAt id (run (step cfg) s events) :=
    run_inv (I := DecidedAt id) (fun _ _ => step_decidedAt) hs hevents
  obtain ⟨r', hrow', hr⟩ := hdecided
  obtain rfl : r' = r := Option.some.inj (hrow'.symm.trans hrow)
  exact hr.not_inReviewQueue organizationId

/-- **The review queue is sound.** In every state of a run from the empty store, an operator can
give each answer to each report on the queue, and the report is then off the queues until the
platform assigns it or an operator updates its status. -/
theorem review_queue_sound (cfg : Config) (events : List Event) :
    ReviewQueueSound JwtUser.isOperator cfg (run (step cfg) Store.empty events) := by
  intro organizationId report hrow hqueue env user huser call data hanswers
  obtain ⟨herror, hwritten⟩ := hanswers.executes cfg hrow hqueue huser
  exact ⟨herror, hwritten, staysOff_of_decidedAt ⟨_, hwritten, hanswers.isDecided⟩⟩

namespace Example

/-- The platform offers a report to an organization. -/
def offered : List Event :=
  [created, ⟨{ surroundings 1 with organizations := [{ id := "org" }] }, superAdmin,
    .call (.assignOrganization "report"
      { organizationId := "org", reason := some "Their street", overrideReadiness := true })⟩]

/-- The store after the organization has accepted it. -/
def acceptedStore : Store :=
  (execute {} (surroundings 2) (run (step {}) Store.empty offered) orgAdmin
    (.acceptOrganizationReport "report" none)).store

/-- A dispatch officer moves the report back to review. -/
def reviewedAgain : Event :=
  at_ 3 { id := "officer", role := .dispatchOfficer, organizationId := some "org" }
    (.updateStatus "report" { status := .orgReview })

end Example

/-- A dispatch officer, who is no administrator, puts an accepted report back on the queue. -/
theorem accepted_report_requeued :
    ¬ ∀ (cfg : Config) (events : List Event),
      ReviewQueueSound (fun user => user.isAdmin || user.isSuperAdmin) cfg
        (run (step cfg) Store.empty events) := by
  intro h
  have hoffered : ((run (step {}) Store.empty Example.offered).report? "report").any
      (fun r => InReviewQueue (run (step {}) Store.empty Example.offered) "org" r) := by
    decide +kernel
  have hrequeued : ((run (step {}) Example.acceptedStore [Example.reviewedAgain]).report?
      "report").any (fun r => InReviewQueue
        (run (step {}) Example.acceptedStore [Example.reviewedAgain]) "org" r) := by
    decide +kernel
  obtain ⟨r, hrow, hqueue⟩ := (Option.any_eq_true _ _).mp hoffered
  obtain ⟨r', hrow', hqueue'⟩ := (Option.any_eq_true _ _).mp hrequeued
  have hid := id_of_report? hrow
  have huser : OperatesFor Example.orgAdmin "org" := ⟨rfl, .inl rfl⟩
  have haccepts : Answers (Example.surroundings 2) "org" r
      (.acceptOrganizationReport r.id none) _ :=
    .accept
  obtain ⟨-, -, hoff⟩ := h {} Example.offered "org" r (hid ▸ hrow) (of_decide_eq_true hqueue)
    (Example.surroundings 2) Example.orgAdmin huser _ _ haccepts
  rw [hid] at hoff
  refine hoff [Example.reviewedAgain] ?_ "org" r' hrow' (of_decide_eq_true hqueue')
  rintro event hevent (⟨dto, hrequest⟩ | ⟨dto, -, hrouter⟩)
  all_goals obtain rfl := List.mem_singleton.mp hevent
  · cases hrequest
  · cases hrouter

end FixZone.ReportService
