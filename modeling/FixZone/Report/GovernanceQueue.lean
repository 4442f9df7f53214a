import FixZone.Library.QueryObject
import FixZone.Report.Hold

/-!
# The governance queue

`getAdminCompletionGovernanceQueue` shows a super administrator the reports that meet one of eight
conditions, and with each the actions to offer for it. The conditions speak of the columns that the
methods write, not of what is still to be done, so it takes an invariant of the service to see that
no completion is missed: a completed report always has a review state, which is a hold only while
the reason of a hold is there (`Watched`). Every report whose completion waits is then on some page
of the queue, whatever the size of a page.

An action is offered by the columns as well, and more is offered than goes through. But nothing that
would go through is withheld, and for each report one of the offered actions does; and a report
stays in the queue when it has been acted upon, unless it was closed and only its hold is gone
(`governance_queue_covers`).
-/

namespace FixZone.ReportService

open Library Organization

variable {cfg : Config} {env : Env} {s : Store} {user : JwtUser} {event : Event}

/-! ### The conditions -/

/-- The names of the review states in the database. -/
def reviewStateText : CompletionReviewState → String
  | .awaitingCitizenReview => "AWAITING_CITIZEN_REVIEW"
  | .awaitingOrganizationVerification => "AWAITING_ORGANIZATION_VERIFICATION"
  | .awaitingBoth => "AWAITING_BOTH"
  | .awaitingAdminResolution => "AWAITING_ADMIN_RESOLUTION"
  | .awaitingReviewWindow => "AWAITING_REVIEW_WINDOW"
  | .disputed => "DISPUTED"
  | .reworkRequested => "REWORK_REQUESTED"
  | .governanceHold => "GOVERNANCE_HOLD"
  | .closed => "CLOSED"

/-- The keys of the conditions of `adminGovernanceQueueConditions`, in their order. -/
inductive GovernanceFilter where
  | adminResolutionRequired | disputed | reworkEscalated | onHold | reviewWindowExpired
  | approvalConflict | reopened | governanceClosed
  deriving DecidableEq

/-- All of them. -/
def GovernanceFilter.all : List GovernanceFilter :=
  [.adminResolutionRequired, .disputed, .reworkEscalated, .onHold, .reviewWindowExpired,
    .approvalConflict, .reopened, .governanceClosed]

/-- A key as the query has it. -/
def GovernanceFilter.text : GovernanceFilter → String
  | .adminResolutionRequired => "ADMIN_RESOLUTION_REQUIRED"
  | .disputed => "DISPUTED"
  | .reworkEscalated => "REWORK_ESCALATED"
  | .onHold => "ON_HOLD"
  | .reviewWindowExpired => "REVIEW_WINDOW_EXPIRED"
  | .approvalConflict => "APPROVAL_CONFLICT"
  | .reopened => "REOPENED"
  | .governanceClosed => "GOVERNANCE_CLOSED"

/-- The condition of a key, at the instant `now`. -/
def GovernanceFilter.meets (now : Millis) (r : Report) : GovernanceFilter → Bool
  | .adminResolutionRequired => r.completionPolicy = some .adminResolutionRequired &&
      r.status = .completedByProvider
  | .disputed => r.completionReviewState = some .disputed
  | .reworkEscalated => r.completionReviewState = some .reworkRequested ||
      r.organizationCompletionDecision = some .escalated
  | .onHold => r.completionGovernanceHoldReason ≠ none
  | .reviewWindowExpired => r.status = .completedByProvider &&
      r.completionPolicy = some .autoCloseAfterReviewWindow &&
      r.completionReviewDeadlineAt.any (· ≤ now)
  | .approvalConflict =>
      (r.citizenCompletionDecision = some .confirmed &&
        r.organizationCompletionDecision = some .reworkRequested) ||
      (r.citizenCompletionDecision = some .reworkRequested &&
        r.organizationCompletionDecision = some .verified)
  | .reopened => r.completionReviewState.any fun state =>
      "AWAITING_".toList.isPrefixOf (reviewStateText state).toList
  | .governanceClosed => r.status = .closed &&
      r.completionFinalActorType = some "SUPER_ADMIN_GOVERNANCE"

/-- `adminGovernanceQueueConditions`: the condition whose key is asked for, or all of them. -/
def adminGovernanceQueueConditions (stateFilter : Option String) : List GovernanceFilter :=
  match GovernanceFilter.all.find? fun filter =>
    filter.text = toUpperCase (trim (stateFilter.getD "")) with
  | some filter => [filter]
  | none => GovernanceFilter.all

/-! ### The items -/

/-- What `adminGovernanceActionsFor` returns. -/
structure GovernanceActions where
  resolveAndClose : Bool
  returnForRework : Bool
  placeHold : Bool
  removeHold : Bool
  reopen : Bool
  overridePolicy : Bool

/-- `adminGovernanceActionsFor`. -/
def adminGovernanceActionsFor (report : Report) : GovernanceActions where
  resolveAndClose := report.status ≠ .closed
  returnForRework := report.status ≠ .closed
  placeHold := !truthy report.completionGovernanceHoldReason
  removeHold := truthy report.completionGovernanceHoldReason
  reopen := report.status = .closed
  overridePolicy := true

/-- What `adminGovernanceQueueItem` says of a report, without its texts and names. -/
structure GovernanceItem where
  id : String
  policyCode : CompletionPolicy
  reviewStateCode : CompletionReviewState
  hold : Bool
  actions : GovernanceActions

/-- `adminGovernanceQueueItem`. -/
def adminGovernanceQueueItem (report : Report) : GovernanceItem where
  id := report.id
  policyCode := report.completionPolicy.getD .citizenConfirmationRequired
  reviewStateCode := report.completionReviewState.getD
    (if report.completionFinalizedAt.isSome then .closed else .awaitingCitizenReview)
  hold := truthy report.completionGovernanceHoldReason
  actions := adminGovernanceActionsFor report

/-! ### The queue -/

/-- `CompletionReviewQueueQueryDto`. -/
structure CompletionReviewQueueQueryDto where
  state : Option String := none
  category : Option String := none
  limit : Option ℕ := none
  offset : Option ℕ := none

/-- The `where` of the queue. -/
def inGovernanceQueue (now : Millis) (query : CompletionReviewQueueQueryDto) (r : Report) : Bool :=
  query.category.all (fun category => category = "" || r.category = category) &&
    (adminGovernanceQueueConditions (query.state.map trim)).any (·.meets now r)

/-- `orderBy` of the queue: the deadline, which sorts last where it is missing, the newest update,
and the id. When a report was updated is a column of its own. -/
def governanceOrder (updatedAt : String → Millis) (a b : Report) : Bool :=
  let later := updatedAt b.id < updatedAt a.id || (updatedAt a.id = updatedAt b.id && a.id ≤ b.id)
  match a.completionReviewDeadlineAt, b.completionReviewDeadlineAt with
  | some m, some n => m < n || (m = n && later)
  | some _, none => true
  | none, some _ => false
  | none, none => later

/-- A page of the queue. -/
structure GovernancePage where
  total : ℕ
  limit : ℕ
  offset : ℕ
  items : List GovernanceItem

/-- `getAdminCompletionGovernanceQueue`. -/
def getAdminCompletionGovernanceQueue (env : Env) (updatedAt : String → Millis) (s : Store)
    (user : JwtUser) (query : CompletionReviewQueueQueryDto) : Except HttpError GovernancePage := do
  user.assertSuperAdmin
  let limit := query.limit.getD 50
  let offset := query.offset.getD 0
  let matching := s.reports.rows.filter (inGovernanceQueue env.now query)
  let reports := ((matching.insertionSort fun a b => governanceOrder updatedAt a b).drop
    offset).take limit
  return {
    total := matching.length
    limit
    offset
    items := reports.map adminGovernanceQueueItem }

/-! ### The actions -/

/-- What a super administrator can be offered. -/
inductive GovernanceAction where
  | resolveAndClose | returnForRework | placeHold | removeHold | reopen
  | overridePolicy (policy : CompletionPolicy)

/-- Whether an action is offered. -/
def GovernanceActions.offers (actions : GovernanceActions) : GovernanceAction → Bool
  | .resolveAndClose => actions.resolveAndClose
  | .returnForRework => actions.returnForRework
  | .placeHold => actions.placeHold
  | .removeHold => actions.removeHold
  | .reopen => actions.reopen
  | .overridePolicy _ => actions.overridePolicy

/-- The call that makes an action. -/
def GovernanceAction.call (reportId reason : String) : GovernanceAction → Call
  | .resolveAndClose => .adminResolveAndClose reportId reason
  | .returnForRework => .adminReturnForCompletionRework reportId reason
  | .placeHold => .adminPlaceCompletionHold reportId reason
  | .removeHold => .adminRemoveCompletionHold reportId reason
  | .reopen => .adminReopenCompletion reportId reason
  | .overridePolicy policy => .adminOverrideCompletionPolicy reportId policy reason

/-- The columns an action writes. -/
def GovernanceAction.data (cfg : Config) (env : Env) (user : JwtUser) (reason : String)
    (r : Report) : GovernanceAction → Patch Report.id
  | .resolveAndClose => resolveAndCloseData env user reason
  | .returnForRework => returnForReworkData reason
  | .placeHold => placeHoldData reason
  | .removeHold => removeHoldData cfg r
  | .reopen => reopenData cfg r
  | .overridePolicy policy => overridePolicyData policy r

/-- When an action goes through, for a super administrator who gives a reason. -/
def GovernanceAction.GoesThrough (cfg : Config) (r : Report) : GovernanceAction → Prop
  | .resolveAndClose => r.status ≠ .closed ∧ onHold r = false
  | .returnForRework => r.status ≠ .closed ∧ r.completionReviewState ≠ some .reworkRequested
  | .placeHold => r.status ≠ .closed ∧ onHold r = false
  | .removeHold => onHold r = true
  | .reopen => r.status = .closed
  | .overridePolicy policy => r.status ≠ .closed ∧ policyForReport cfg r ≠ policy

/-! ### What goes through -/

variable {id reason : String} {r : Report}

/-- An action that goes through writes its columns over the report. -/
theorem readCall_of_goesThrough (env : Env) (hrow : s.report? id = some r)
    (hallowed : GovernanceAllowed user reason) {action : GovernanceAction}
    (h : action.GoesThrough cfg r) :
    ∃ effects, readCall cfg env s user (action.call id reason) =
        .ok [.update id none (action.data cfg env user (trim reason) r) effects] := by
  obtain rfl := id_of_report? hrow
  cases action with
  | resolveAndClose =>
    exact ⟨_, adminResolveAndClose_eq_ok.mpr ⟨r, hrow, hallowed, h.1, h.2, rfl⟩⟩
  | returnForRework =>
    exact ⟨_, adminReturnForCompletionRework_eq_ok.mpr ⟨r, hrow, hallowed, h.1, h.2, rfl⟩⟩
  | placeHold =>
    exact ⟨_, adminPlaceCompletionHold_eq_ok.mpr ⟨r, hrow, hallowed, h.1, h.2, rfl⟩⟩
  | removeHold =>
    exact ⟨_, adminRemoveCompletionHold_eq_ok.mpr ⟨r, hrow, hallowed, h, rfl⟩⟩
  | reopen =>
    exact ⟨_, adminReopenCompletion_eq_ok.mpr ⟨r, hrow, hallowed, h, rfl⟩⟩
  | overridePolicy policy =>
    exact ⟨_, adminOverrideCompletionPolicy_eq_ok.mpr ⟨r, hrow, hallowed, h.1, h.2, rfl⟩⟩

/-- An action whose call is not turned down goes through. -/
theorem goesThrough_of_readCall (hrow : s.report? id = some r) {action : GovernanceAction}
    {actions : List Action}
    (hread : readCall cfg env s user (action.call id reason) = .ok actions) :
    action.GoesThrough cfg r := by
  have hsame {report : Report} (hreport : s.report? id = some report) : report = r :=
    Option.some.inj (hreport.symm.trans hrow)
  cases action with
  | resolveAndClose =>
    obtain ⟨report, hreport, -, hopen, hheld, -⟩ := adminResolveAndClose_eq_ok.mp hread
    exact hsame hreport ▸ ⟨hopen, hheld⟩
  | returnForRework =>
    obtain ⟨report, hreport, -, hopen, hstate, -⟩ := adminReturnForCompletionRework_eq_ok.mp hread
    exact hsame hreport ▸ ⟨hopen, hstate⟩
  | placeHold =>
    obtain ⟨report, hreport, -, hopen, hheld, -⟩ := adminPlaceCompletionHold_eq_ok.mp hread
    exact hsame hreport ▸ ⟨hopen, hheld⟩
  | removeHold =>
    obtain ⟨report, hreport, -, hheld, -⟩ := adminRemoveCompletionHold_eq_ok.mp hread
    exact hsame hreport ▸ hheld
  | reopen =>
    obtain ⟨report, hreport, -, hclosed, -⟩ := adminReopenCompletion_eq_ok.mp hread
    exact hsame hreport ▸ hclosed
  | overridePolicy policy =>
    obtain ⟨report, hreport, -, hopen, hpolicy, -⟩ := adminOverrideCompletionPolicy_eq_ok.mp hread
    exact hsame hreport ▸ ⟨hopen, hpolicy⟩

/-- An action is not turned down exactly when it goes through. -/
theorem execute_action_iff (hrow : s.report? id = some r)
    (hallowed : GovernanceAllowed user reason) (action : GovernanceAction) :
    (execute cfg env s user (action.call id reason)).error = none ↔ action.GoesThrough cfg r := by
  constructor
  · intro herror
    cases hread : readCall cfg env s user (action.call id reason) with
    | error e =>
      rw [execute, hread] at herror
      cases herror
    | ok actions => exact goesThrough_of_readCall hrow hread
  · intro h
    obtain ⟨effects, hread⟩ := readCall_of_goesThrough env hrow hallowed h
    exact execute_error_of_read hread hrow

/-- What goes through is offered. -/
theorem offers_of_goesThrough {action : GovernanceAction} (h : action.GoesThrough cfg r) :
    (adminGovernanceActionsFor r).offers action = true := by
  cases action with
  | resolveAndClose => exact decide_eq_true h.1
  | returnForRework => exact decide_eq_true h.1
  | placeHold =>
    obtain ⟨-, hheld⟩ := h
    rw [GovernanceActions.offers, adminGovernanceActionsFor]
    exact congrArg not hheld
  | removeHold => exact h
  | reopen => exact decide_eq_true h
  | overridePolicy policy => rfl

/-- For every report something goes through. -/
theorem exists_goesThrough (cfg : Config) (r : Report) :
    ∃ action : GovernanceAction, action.GoesThrough cfg r := by
  by_cases hclosed : r.status = .closed
  · exact ⟨.reopen, hclosed⟩
  · cases hheld : onHold r with
    | false => exact ⟨.resolveAndClose, hclosed, hheld⟩
    | true => exact ⟨.removeHold, hheld⟩

/-! ### What is listed -/

/-- A report is in the queue that no filter narrows. -/
def Listed (r : Report) : Prop := ∀ now, inGovernanceQueue now {} r = true

theorem listed_of_meets (filter : GovernanceFilter)
    (h : ∀ now, filter.meets now r = true) : Listed r := by
  have hall : filter ∈ GovernanceFilter.all := by cases filter <;> decide
  intro now
  have hconditions : adminGovernanceQueueConditions none = GovernanceFilter.all := by decide +kernel
  rw [inGovernanceQueue, Option.map_none, hconditions]
  exact List.any_eq_true.mpr ⟨filter, hall, h now⟩

/-- Every review state but `CLOSED` and that of a hold is one that the queue asks for. -/
theorem listed_of_state {state : CompletionReviewState}
    (hstate : r.completionReviewState = some state) (hclosed : state ≠ .closed)
    (hhold : state ≠ .governanceHold) : Listed r := by
  cases state with
  | closed => exact absurd rfl hclosed
  | governanceHold => exact absurd rfl hhold
  | disputed => exact listed_of_meets .disputed fun _ => decide_eq_true hstate
  | reworkRequested =>
    refine listed_of_meets .reworkEscalated fun _ => ?_
    rw [GovernanceFilter.meets, hstate]
    rfl
  | _ =>
    refine listed_of_meets .reopened fun _ => ?_
    rw [GovernanceFilter.meets, hstate]
    decide +kernel

theorem listed_of_hold (h : r.completionGovernanceHoldReason ≠ none) : Listed r :=
  listed_of_meets .onHold fun _ => decide_eq_true h

theorem reviewStateFor_ne_closed (policy : CompletionPolicy) (c o : Option CompletionDecision) :
    reviewStateFor policy c o ≠ .closed := by
  unfold reviewStateFor
  split_ifs <;> simp

/-- What `reviewStateFor` gives is listed. -/
theorem listed_of_reviewStateFor {policy : CompletionPolicy} {c o : Option CompletionDecision}
    (hstate : r.completionReviewState = some (reviewStateFor policy c o)) : Listed r :=
  listed_of_state hstate (reviewStateFor_ne_closed policy c o)
    (reviewStateFor_ne_governanceHold policy c o)

/-- A report that has been acted upon is listed, unless it was closed and on hold. -/
theorem listed_of_action {action : GovernanceAction}
    (h : r.status = .closed → action ≠ .removeHold) :
    Listed ((action.data cfg env user reason r).apply r) := by
  cases action with
  | resolveAndClose =>
    refine listed_of_meets .governanceClosed fun _ => ?_
    rw [GovernanceFilter.meets, Bool.and_eq_true]
    exact ⟨decide_eq_true rfl, decide_eq_true rfl⟩
  | returnForRework => exact listed_of_state rfl nofun nofun
  | placeHold => exact listed_of_hold nofun
  | removeHold =>
    have hopen : r.status ≠ .closed := fun hclosed => h hclosed rfl
    have hstate : ((GovernanceAction.removeHold.data cfg env user reason r).apply
        r).completionReviewState = some (reviewStateFor (policyForReport cfg r)
          r.citizenCompletionDecision r.organizationCompletionDecision) := by
      simp [GovernanceAction.data, hopen]
    exact listed_of_reviewStateFor hstate
  | reopen => exact listed_of_reviewStateFor rfl
  | overridePolicy policy => exact listed_of_reviewStateFor rfl

/-! ### What a run keeps -/

/-- A report on hold by its review state has the reason of a hold, and a completed report has a
review state, which is not that of a closed one. -/
structure Watched (r : Report) : Prop where
  held : r.completionReviewState = some .governanceHold → r.completionGovernanceHoldReason ≠ none
  reviewed : r.status = .completedByProvider →
    ∃ state, r.completionReviewState = some state ∧ state ≠ .closed

theorem Watched.listed (h : Watched r) (hcompleted : r.status = .completedByProvider) :
    Listed r := by
  obtain ⟨state, hstate, hclosed⟩ := h.reviewed hcompleted
  by_cases hhold : state = .governanceHold
  · exact listed_of_hold (h.held (hhold ▸ hstate))
  · exact listed_of_state hstate hclosed hhold

/-- What moves a report to another stage than completion, and leaves the columns of the review. -/
theorem Watched.of_status {r' : Report} (h : Watched r)
    (hstatus : r'.status ≠ .completedByProvider)
    (hstate : r'.completionReviewState = r.completionReviewState)
    (hreason : r'.completionGovernanceHoldReason = r.completionGovernanceHoldReason) :
    Watched r' where
  held hhold := hreason ▸ h.held (hstate ▸ hhold)
  reviewed hcompleted := absurd hcompleted hstatus

/-- What writes a review state that is no hold, and that of a closed report only if it closes it. -/
theorem watched_of_state {r' : Report} {state : CompletionReviewState}
    (hstate : r'.completionReviewState = some state) (hhold : state ≠ .governanceHold)
    (hclosed : r'.status = .completedByProvider → state ≠ .closed) : Watched r' where
  held h := absurd (Option.some.inj (hstate.symm.trans h)) hhold
  reviewed hcompleted := ⟨state, hstate, hclosed hcompleted⟩

/-- What puts a completion under review. -/
theorem watched_of_review {r' : Report} {policy : CompletionPolicy}
    {c o : Option CompletionDecision}
    (hstate : r'.completionReviewState = some (reviewStateFor policy c o)) : Watched r' :=
  watched_of_state hstate (reviewStateFor_ne_governanceHold policy c o)
    fun _ => reviewStateFor_ne_closed policy c o

/-- What sends a completion back. -/
theorem watched_of_rework {r' : Report}
    (hstate : r'.completionReviewState = some .reworkRequested) : Watched r' :=
  watched_of_state hstate nofun fun _ => nofun

/-- What closes a report. -/
theorem watched_of_closed {r' : Report} (hstatus : r'.status = .closed)
    (hstate : r'.completionReviewState = some .closed) : Watched r' := by
  refine watched_of_state hstate nofun fun hcompleted => ?_
  rw [hstatus] at hcompleted
  cases hcompleted

/-- What puts a report on hold. -/
theorem watched_of_hold {r' : Report} {reason : String}
    (hstate : r'.completionReviewState = some .governanceHold)
    (hreason : r'.completionGovernanceHoldReason = some reason) : Watched r' where
  held _ := hreason ▸ Option.some_ne_none reason
  reviewed _ := ⟨.governanceHold, hstate, nofun⟩

/-- What closes a completion or puts it under review. -/
theorem watched_of_closes {r' : Report} {closes : Prop} [Decidable closes]
    {policy : CompletionPolicy} {c o : Option CompletionDecision}
    (hstate : r'.completionReviewState =
      some (if closes then .closed else reviewStateFor policy c o))
    (hopen : r'.status = .completedByProvider → ¬ closes) : Watched r' := by
  by_cases hcloses : closes
  · rw [if_pos hcloses] at hstate
    exact watched_of_state hstate nofun fun hcompleted => absurd hcloses (hopen hcompleted)
  · rw [if_neg hcloses] at hstate
    exact watched_of_review hstate

/-- What a call does to a watched report leaves it watched. -/
theorem change_watched {call : Call} {r r' : Report} (h : Watched r)
    (hchange : Change cfg env s user call r r') : Watched r' := by
  cases hchange with
  | assignOrganization =>
    refine h.of_status ?_ rfl rfl
    simp only [assignOrganizationData]
    split <;> simp
  | acceptOrganizationReport | rejectOrganizationReport | expire | cancelAssignment
  | assignProviderById | rejectAssignment => exact h.of_status (by simp) rfl rfl
  | updateStatus _ _ _ hnext => exact h.of_status hnext rfl rfl
  | submitCompletion | adminReopenCompletion | adminOverrideCompletionPolicy =>
    exact watched_of_review rfl
  | uploadCompletionEvidence => exact ⟨h.held, h.reviewed⟩
  | @uploadReportEvidence _ _ saved => cases saved <;> exact ⟨h.held, h.reviewed⟩
  | confirmCitizenCompletion | verifyOrganizationCompletion =>
    refine watched_of_closes rfl fun hcompleted hcloses => ?_
    simp [hcloses] at hcompleted
  | rejectCitizenCompletion | requestOrganizationCompletionRework
  | adminReturnForCompletionRework => exact watched_of_rework rfl
  | adminResolveAndClose | processCompletionReviewDeadlines => exact watched_of_closed rfl rfl
  | adminPlaceCompletionHold => exact watched_of_hold rfl rfl
  | adminRemoveCompletionHold =>
    refine watched_of_closes rfl fun hcompleted hclosed => ?_
    simp [hclosed] at hcompleted

/-- A new report is watched. -/
theorem watched_created {dto : RoutedReport} {organizationId locationSource : String}
    {intakeRoute : ResponsibilityResolution} :
    Watched (createdReport env user dto organizationId locationSource intakeRoute) := by
  refine ⟨nofun, fun hcompleted => ?_⟩
  simp only [createdReport] at hcompleted
  split_ifs at hcompleted

/-- Every report is watched. -/
def AllWatched (s : Store) : Prop := ∀ id r, s.report? id = some r → Watched r

theorem step_allWatched (hs : AllWatched s) : AllWatched (step cfg event s) := by
  refine step_forall (fun _ _ _ _ => watched_created) (fun r r' _ hr hchange => ?_) hs
  cases hchange with
  | call _ hchange => exact change_watched hr hchange
  | reassign _ hreassigned =>
    cases hreassigned <;> exact hr.of_status (by simp [reassignCancelData]) rfl rfl

theorem run_allWatched (cfg : Config) (events : List Event) :
    AllWatched (run (step cfg) Store.empty events) :=
  run_inv (Q := fun _ => True) (fun _ _ hs _ => step_allWatched hs) (fun _ _ h => by cases h)
    fun _ _ => trivial

/-! ### What the queue covers -/

/-- Page after page of the queue, whatever the size of a page, `user` comes upon the report. -/
def ShownInQueue (env : Env) (updatedAt : String → Millis) (s : Store) (user : JwtUser)
    (r : Report) : Prop :=
  ∀ limit, 0 < limit → ∃ pageNumber result,
    getAdminCompletionGovernanceQueue env updatedAt s user
      { limit := some limit, offset := some ((pageNumber - 1) * limit) } = .ok result ∧
      adminGovernanceQueueItem r ∈ result.items

/-- The order of the queue. -/
def governanceRowOrder (updatedAt : String → Millis) : RowOrder Report where
  list rows := rows.insertionSort fun a b => governanceOrder updatedAt a b
  perm rows := List.perm_insertionSort _ rows

/-- What a super administrator is shown. -/
theorem governanceQueue_of_superAdmin (env : Env) (updatedAt : String → Millis) (s : Store)
    (hadmin : user.role = .superAdmin) (limit pageNumber : ℕ) :
    ∃ result, getAdminCompletionGovernanceQueue env updatedAt s user
        { limit := some limit, offset := some ((pageNumber - 1) * limit) } = .ok result ∧
      result.items = ((governanceRowOrder updatedAt).page
        (s.reports.rows.filter (inGovernanceQueue env.now {})) pageNumber limit).map
          adminGovernanceQueueItem := by
  have hpasses : user.assertSuperAdmin = .ok ⟨⟩ := JwtUser.assertSuperAdmin_eq_ok.mpr hadmin
  rw [getAdminCompletionGovernanceQueue, hpasses]
  exact ⟨_, rfl, rfl⟩

theorem Listed.shownInQueue (updatedAt : String → Millis) (h : Listed r)
    (hadmin : user.role = .superAdmin) (hrow : s.report? id = some r) :
    ShownInQueue env updatedAt s user r := by
  intro limit hlimit
  have hmatching : r ∈ s.reports.rows.filter (inGovernanceQueue env.now {}) :=
    List.mem_filter.mpr ⟨mem_of_report? hrow, h env.now⟩
  obtain ⟨pageNumber, -, hpage⟩ :=
    ((governanceRowOrder updatedAt).exists_mem_page_iff hlimit).mpr hmatching
  obtain ⟨result, hresult, hitems⟩ :=
    governanceQueue_of_superAdmin env updatedAt s hadmin limit pageNumber
  exact ⟨pageNumber, result, hresult, hitems ▸ List.mem_map_of_mem hpage⟩

/-- What the queue is to do for those who work through it. -/
structure QueueCovers (cfg : Config) (env : Env) (updatedAt : String → Millis) (s : Store)
    (user : JwtUser) (reason : String) (r : Report) : Prop where
  /-- No completion that waits is missed. -/
  shown : r.status = .completedByProvider → ShownInQueue env updatedAt s user r
  /-- Nothing that would go through is withheld. -/
  offered : ∀ action : GovernanceAction,
    (execute cfg env s user (action.call r.id reason)).error = none →
      (adminGovernanceQueueItem r).actions.offers action = true
  /-- Something that is offered goes through. -/
  workable : ∃ action : GovernanceAction,
    (adminGovernanceQueueItem r).actions.offers action = true ∧
      (execute cfg env s user (action.call r.id reason)).error = none
  /-- What has been acted upon stays, unless it was closed and only its hold is gone. -/
  kept : ∀ action : GovernanceAction,
    (execute cfg env s user (action.call r.id reason)).error = none →
    (r.status = .closed → action ≠ .removeHold) →
      ∃ r', (execute cfg env s user (action.call r.id reason)).store.report? r.id = some r' ∧
        ShownInQueue env updatedAt (execute cfg env s user (action.call r.id reason)).store user r'

/-- **What the governance queue covers.** -/
theorem governance_queue_covers (cfg : Config) (env : Env) (updatedAt : String → Millis)
    (events : List Event) (hallowed : GovernanceAllowed user reason)
    (hrow : (run (step cfg) Store.empty events).report? r.id = some r) :
    QueueCovers cfg env updatedAt (run (step cfg) Store.empty events) user reason r where
  shown hcompleted :=
    ((run_allWatched cfg events r.id r hrow).listed hcompleted).shownInQueue updatedAt
      hallowed.superAdmin hrow
  offered action herror :=
    offers_of_goesThrough ((execute_action_iff hrow hallowed action).mp herror)
  workable := by
    obtain ⟨action, haction⟩ := exists_goesThrough cfg r
    exact ⟨action, offers_of_goesThrough haction,
      (execute_action_iff hrow hallowed action).mpr haction⟩
  kept action herror hunheld := by
    have haction := (execute_action_iff hrow hallowed action).mp herror
    obtain ⟨effects, hread⟩ := readCall_of_goesThrough env hrow hallowed haction
    have hwritten := execute_of_read hread hrow
    exact ⟨_, hwritten, (listed_of_action hunheld).shownInQueue updatedAt hallowed.superAdmin
      hwritten⟩

end FixZone.ReportService
