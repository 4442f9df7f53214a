import FixZone.Report.Jobs
import FixZone.Report.Stuck

/-!
# Two approvals at once

Under `BOTH_REQUIRED` a completion is closed by the second of two decisions, the citizen's
confirmation and the organization's verification. Each call decides from the report it
has read whether it is the second. When both read before either writes, neither is: the
report then has both decisions and is not closed, and a repetition of either call is
answered with the report as it is. `both_approvals_close_iff` says, for all
interleavings of the two, exactly when the report ends up closed.
-/

namespace FixZone.ReportService

open Library Organization

/-- The two who approve a completion. -/
inductive Approver where
  | citizen | organization
  deriving DecidableEq

def Approver.other : Approver → Approver
  | .citizen => .organization
  | .organization => .citizen

@[simp] theorem Approver.other_other (a : Approver) : a.other.other = a := by
  cases a <;> rfl

theorem Approver.eq_or_eq_other (a b : Approver) : a = b ∨ b = a.other := by
  cases a <;> cases b <;> decide

/-- A confirmation by the citizen, and a verification by an operator of the organization. -/
structure Approvals where
  citizenEnv : Env
  citizen : JwtUser
  dto : CitizenConfirmCompletionDto
  operatorEnv : Env
  operator : JwtUser
  reason : Option String

/-- The report has the decision of the approver. -/
def Recorded : Approver → Report → Prop
  | .citizen, r => r.citizenCompletionDecision = some .confirmed
  | .organization, r => r.organizationCompletionDecision = some .verified

instance : ∀ (a : Approver) (r : Report), Decidable (Recorded a r)
  | .citizen, r => inferInstanceAs (Decidable (r.citizenCompletionDecision = some .confirmed))
  | .organization, r =>
    inferInstanceAs (Decidable (r.organizationCompletionDecision = some .verified))

namespace Approvals

variable (cfg : Config) (p : Approvals)

/-- The call of each of the two for the report `reportId`. -/
def job (reportId : String) : Approver → CallJob
  | .citizen => ⟨p.citizenEnv, p.citizen, .confirmCitizenCompletion reportId p.dto⟩
  | .organization => ⟨p.operatorEnv, p.operator, .verifyOrganizationCompletion reportId p.reason⟩

/-- The data a call writes that has read `seen`. -/
def data (seen : Report) : Approver → Patch Report.id
  | .citizen => confirmData cfg p.citizenEnv p.citizen p.dto seen
  | .organization => verifyData cfg p.operatorEnv p.operator p.reason seen

/-- What follows that write. -/
def effects (seen : Report) : Approver → Report → List Effect
  | .citizen => confirmEffects cfg p.citizen p.dto seen
  | .organization => verifyEffects cfg p.operator p.reason seen

/-- What a call is going to write that has read `seen`: nothing, if its decision is recorded
already. -/
def actions (seen : Report) (a : Approver) : List Action :=
  if Recorded a seen then [] else [.update seen.id none (p.data cfg seen a) (p.effects cfg seen a)]

/-- The two moves of a call: it reads, and writes. -/
def moves (reportId : String) (a : Approver) : List (Move Approver CallJob Event) :=
  [.read a (p.job reportId a), .write a]

/-- One of the two calls is over before the other begins. -/
def Serial (reportId : String) (moves : List (Move Approver CallJob Event)) : Prop :=
  ∃ a, moves = p.moves reportId a ++ p.moves reportId a.other

/-- What a call that has read `seen` makes of the report. -/
def answered (a : Approver) (seen r : Report) : Report :=
  if Recorded a seen then r else (p.data cfg seen a).apply r

end Approvals

/-- A completed report that both have to approve, and nothing blocks. -/
structure AwaitsBoth (cfg : Config) (r : Report) : Prop where
  completed : r.status = .completedByProvider
  policy : policyForReport cfg r = .bothRequired
  unblocked : Unblocked r

/-- The citizen is that of the report, and the operator one of its organization. -/
structure MayApprove (p : Approvals) (r : Report) : Prop where
  citizenRole : p.citizen.role = .citizen
  own : r.citizenId = p.citizen.id
  operatorRole : p.operator.isAdmin ∨ p.operator.isDispatch
  organization : p.operator.organizationId = some r.organizationId
  organization_ne : r.organizationId ≠ ""

/-- The report is open for the decisions it does not have. -/
structure OpenToBoth (cfg : Config) (r : Report) : Prop where
  policy : policyForReport cfg r = .bothRequired
  undecided : ∀ a, ¬Recorded a r → r.status = .completedByProvider ∧ Unblocked r
  completed : r.status = .completedByProvider ∨ r.status = .closed

variable {cfg : Config} {s : Store} {p : Approvals} {a : Approver} {r seen : Report}

theorem AwaitsBoth.openToBoth (h : AwaitsBoth cfg r) : OpenToBoth cfg r :=
  ⟨h.policy, fun _ _ => ⟨h.completed, h.unblocked⟩, .inl h.completed⟩

/-! ### What the two calls read -/

/-- Both calls are accepted, and say what they are going to write. -/
theorem OpenToBoth.readCall (hopen : OpenToBoth cfg r) (hmay : MayApprove p r)
    (hrow : s.report? r.id = some r) (a : Approver) :
    ReportService.readCall cfg (p.job r.id a).env s (p.job r.id a).user (p.job r.id a).call =
      .ok (p.actions cfg r a) := by
  cases a with
  | citizen =>
    have hreviews : CitizenReviews p.citizen r := by
      refine ⟨hmay.citizenRole, hmay.own, ?_⟩
      by_cases hc : r.citizenCompletionDecision = some .confirmed
      · exact hopen.completed.imp_right fun hclosed => ⟨hclosed, hc⟩
      · exact .inl (hopen.undecided .citizen hc).1
    refine confirmCitizenCompletion_eq_ok.mpr ⟨r, hrow, hreviews, ?_⟩
    by_cases hc : r.citizenCompletionDecision = some .confirmed
    · exact .inl ⟨hc, (if_pos hc).symm⟩
    · exact .inr ⟨hc, (hopen.undecided .citizen hc).2, (if_neg hc).symm⟩
  | organization =>
    have hreviews : OrganizationReviews p.operator r := by
      refine ⟨hmay.operatorRole, hmay.organization, hmay.organization_ne, ?_⟩
      by_cases ho : r.organizationCompletionDecision = some .verified
      · exact hopen.completed.imp_right fun hclosed => ⟨hclosed, ho⟩
      · exact .inl (hopen.undecided .organization ho).1
    have hpolicy : policyForReport cfg r ≠ .adminResolutionRequired := by simp [hopen.policy]
    refine verifyOrganizationCompletion_eq_ok.mpr ⟨r, hrow, hreviews, ?_⟩
    by_cases ho : r.organizationCompletionDecision = some .verified
    · exact .inl ⟨ho, (if_pos ho).symm⟩
    · exact .inr ⟨ho, (hopen.undecided .organization ho).2, hpolicy, (if_neg ho).symm⟩

/-- A call whose decision is recorded changes nothing. -/
theorem OpenToBoth.execute_recorded (hopen : OpenToBoth cfg r) (hmay : MayApprove p r)
    (hrow : s.report? r.id = some r) (hrecorded : Recorded a r) :
    (execute cfg (p.job r.id a).env s (p.job r.id a).user (p.job r.id a).call).store = s := by
  rw [execute, hopen.readCall hmay hrow, Approvals.actions, if_pos hrecorded]
  rfl

/-! ### What the two calls make of the report -/

@[simp] theorem policyForReport_answered : policyForReport cfg (p.answered cfg a seen r) =
    policyForReport cfg r := by
  unfold Approvals.answered
  split
  · rfl
  · cases a <;> rfl

theorem MayApprove.answered (h : MayApprove p r) : MayApprove p (p.answered cfg a seen r) := by
  unfold Approvals.answered
  split
  · exact h
  · cases a <;> exact ⟨h.citizenRole, h.own, h.operatorRole, h.organization, h.organization_ne⟩

theorem recorded_answered_self (h : Recorded a seen → Recorded a r) :
    Recorded a (p.answered cfg a seen r) := by
  unfold Approvals.answered
  split
  · next hseen => exact h hseen
  · cases a <;> rfl

@[simp] theorem recorded_answered_other : Recorded a.other (p.answered cfg a seen r) ↔
    Recorded a.other r := by
  unfold Approvals.answered
  split
  · rfl
  · cases a <;> rfl

/-- A decision closes the report when the other is recorded in what its call has read. -/
theorem answered_status (h : policyForReport cfg seen = .bothRequired) :
    (p.answered cfg a seen r).status =
      if Recorded a seen then r.status else if Recorded a.other seen then .closed else
        .completedByProvider := by
  unfold Approvals.answered
  by_cases hseen : Recorded a seen
  · simp only [if_pos hseen]
  · simp only [if_neg hseen]
    cases a with
    | citizen =>
      have hcloses : confirmCloses cfg seen ↔ Recorded .organization seen := by
        simp [confirmCloses_eq, h, isCompletionSatisfied, Recorded]
      exact if_congr hcloses rfl rfl
    | organization =>
      have hcloses : verifyCloses cfg seen ↔ Recorded .citizen seen := by
        simp [verifyCloses_eq, h, isCompletionSatisfied, Recorded]
      exact if_congr hcloses rfl rfl

/-- A first decision blocks nothing. -/
theorem Unblocked.answered (h : Unblocked r) (hpolicy : policyForReport cfg r = .bothRequired)
    (ha : ¬Recorded a r) (hother : ¬Recorded a.other r) : Unblocked (p.answered cfg a r r) := by
  obtain ⟨-, hundisputed, hunheld, hsettled⟩ := h
  simp only [underDispute, underRework, Bool.or_eq_false_iff,
    decide_eq_false_iff_not] at hundisputed hsettled
  rw [Approvals.answered, if_neg ha]
  cases a with
  | citizen =>
    have ho : r.organizationCompletionDecision ≠ some .verified := hother
    have hcloses : confirmCloses cfg r = false := by
      simp [confirmCloses_eq, hpolicy, isCompletionSatisfied, ho]
    have hstate : reviewStateFor .bothRequired (some .confirmed) r.organizationCompletionDecision =
        .awaitingOrganizationVerification := by
      simp [reviewStateFor, hundisputed.2, hsettled.2]
    refine ⟨by simp [Approvals.data, hcloses], ?_, hunheld, ?_⟩ <;>
      simp [underDispute, underRework, Approvals.data, hcloses, hpolicy,
      countedOrganizationDecision,
        reviewStateFor_organization_getD, hstate, hundisputed.2, hsettled.2]
  | organization =>
    have hc : r.citizenCompletionDecision ≠ some .confirmed := hother
    have hcloses : verifyCloses cfg r = false := by
      simp [verifyCloses_eq, hpolicy, isCompletionSatisfied, hc]
    have hstate : reviewStateFor .bothRequired r.citizenCompletionDecision (some .verified) =
        .awaitingCitizenReview := by
      simp [reviewStateFor, hundisputed.1.2, hsettled.1.2, hc]
    refine ⟨by simp [Approvals.data, hcloses], ?_, hunheld, ?_⟩ <;>
      simp [underDispute, underRework, Approvals.data, hcloses, hpolicy, countedCitizenDecision,
        reviewStateFor_citizen_getD, hstate, hundisputed.1.2, hsettled.1.2]

/-- After one of the two the report is open for the other. -/
theorem OpenToBoth.answered (h : OpenToBoth cfg r) : OpenToBoth cfg (p.answered cfg a r r) := by
  by_cases ha : Recorded a r
  · simpa only [Approvals.answered, if_pos ha] using h
  obtain ⟨hcompleted, hunblocked⟩ := h.undecided a ha
  have hstatus := answered_status (p := p) (a := a) (r := r) h.policy
  rw [if_neg ha] at hstatus
  refine ⟨policyForReport_answered.trans h.policy, fun b hb => ?_, ?_⟩
  · have hb : ¬Recorded a.other (p.answered cfg a r r) := by
      rcases a.eq_or_eq_other b with rfl | rfl
      · exact absurd (recorded_answered_self id) hb
      · exact hb
    rw [recorded_answered_other] at hb
    exact ⟨hstatus.trans (if_neg hb), hunblocked.answered h.policy ha hb⟩
  · rw [hstatus]
    split
    · exact .inr rfl
    · exact .inl rfl

/-! ### The two at once -/

/-- Between two moves: the row of the report, and what the two have yet to write. -/
structure Stage (cfg : Config) (p : Approvals) (reportId : String) (r : Report)
    (writes : Approver → List Action) (st : Workers Store Approver PendingAction) : Prop where
  id : r.id = reportId
  row : st.state.report? reportId = some r
  pending : ∀ a, st.pending a = (writes a).map (PendingAction.mk (p.job reportId a))

variable {reportId : String} {writes : Approver → List Action}
  {st : Workers Store Approver PendingAction}

/-- One of the two reads. -/
theorem Stage.read (h : Stage cfg p reportId r writes st) (hopen : OpenToBoth cfg r)
    (hmay : MayApprove p r) (hidle : writes a = []) :
    Stage cfg p reportId r (Function.update writes a (p.actions cfg r a))
      ((callJobs cfg).step (.read a (p.job reportId a)) st) := by
  obtain ⟨rfl, hrow, hpending⟩ := h
  have hread : (p.job r.id a).read cfg st.state = _ :=
    CallJob.read_ok _ (hopen.readCall hmay hrow a)
  rw [Jobs.step_read _ _ (by simp [hpending, hidle])]
  refine ⟨rfl, hrow, fun b => ?_⟩
  by_cases hb : b = a
  · subst hb
    simpa [callJobs] using hread
  · simpa [Function.update_of_ne hb] using hpending b

/-- One of the two writes what it decided when it had read `seen`. -/
theorem Stage.write (h : Stage cfg p reportId r writes st) (hseen : seen.id = reportId)
    (hwrites : writes a = p.actions cfg seen a) :
    Stage cfg p reportId (p.answered cfg a seen r) (Function.update writes a [])
      ((callJobs cfg).step (.write a : Move Approver CallJob Event) st) := by
  obtain ⟨hid, hrow, hpending⟩ := h
  have hown := hpending a
  rw [hwrites, Approvals.actions] at hown
  unfold Approvals.answered
  split
  · next hrecorded =>
    rw [if_pos hrecorded] at hown
    rw [Jobs.step_write_nil _ hown]
    refine ⟨hid, hrow, fun b => ?_⟩
    by_cases hb : b = a
    · subst hb
      simpa using hown
    · simpa [Function.update_of_ne hb] using hpending b
  · next hrecorded =>
    rw [if_neg hrecorded, hseen] at hown
    obtain ⟨hrow', hpending'⟩ := step_update hown hrow
    refine ⟨((p.data cfg seen a).key_apply r).trans hid, hrow', fun b => ?_⟩
    rw [hpending']
    by_cases hb : b = a
    · subst hb
      simp
    · simpa [Function.update_of_ne hb] using hpending b

/-- The calls follow each other, or both read before either writes. -/
theorem schedule_cases {moves : List (Move Approver CallJob Event)}
    (h : Shuffle (p.moves reportId .citizen) (p.moves reportId .organization) moves) :
    p.Serial reportId moves ∨
      ∃ a b, moves = [.read a (p.job reportId a), .read a.other (p.job reportId a.other), .write b,
      .write b.other] := by
  rcases h.pair_cases with (hmoves | hmoves) | hmoves | hmoves | hmoves | hmoves
  · exact .inl ⟨.citizen, hmoves⟩
  · exact .inl ⟨.organization, hmoves⟩
  · exact .inr ⟨.citizen, .citizen, hmoves⟩
  · exact .inr ⟨.citizen, .organization, hmoves⟩
  · exact .inr ⟨.organization, .citizen, hmoves⟩
  · exact .inr ⟨.organization, .organization, hmoves⟩

/-- Calls that overlap do not follow each other. -/
theorem not_serial_of_overlapping (a b : Approver) :
    ¬p.Serial reportId
      [.read a (p.job reportId a), .read a.other (p.job reportId a.other), .write b,
      .write b.other] := by
  rintro ⟨c, hmoves⟩
  simp [Approvals.moves] at hmoves

/-- Calls that follow each other: the second has read what the first has written. -/
theorem Stage.run_serial (h : Stage cfg p reportId r (fun _ => []) st) (hopen : OpenToBoth cfg r)
    (hmay : MayApprove p r) (a : Approver) :
    ∃ writes, Stage cfg p reportId
    (p.answered cfg a.other (p.answered cfg a r r) (p.answered cfg a r r)) writes
      (run (callJobs cfg).step st (p.moves reportId a ++ p.moves reportId a.other)) := by
  have h1 := (h.read hopen hmay rfl).write h.id (Function.update_self a _ _)
  have hidle : Function.update (Function.update (fun _ => []) a (p.actions cfg r a)) a
      [] a.other = [] := by
    cases a <;> rfl
  exact ⟨_, (h1.read hopen.answered hmay.answered hidle).write h1.id (Function.update_self _ _ _)⟩

/-- Calls that both read before they write: neither has read what the other has written. -/
theorem Stage.run_overlapping (h : Stage cfg p reportId r (fun _ => []) st)
    (hopen : OpenToBoth cfg r) (hmay : MayApprove p r) (a b : Approver) :
    ∃ writes, Stage cfg p reportId (p.answered cfg b.other r (p.answered cfg b r r)) writes
      (run (callJobs cfg).step st
        [.read a (p.job reportId a), .read a.other (p.job reportId a.other), .write b,
        .write b.other]) := by
  have hidle : Function.update (fun _ => []) a (p.actions cfg r a) a.other = [] := by
    cases a <;> rfl
  have hread := (h.read hopen hmay rfl).read hopen hmay hidle
  have hb : Function.update (Function.update (fun _ => []) a (p.actions cfg r a)) a.other
      (p.actions cfg r a.other) b =
      p.actions cfg r b := by
    cases a <;> cases b <;> rfl
  have hother :
    Function.update (Function.update (Function.update (fun _ => []) a (p.actions cfg r a)) a.other
      (p.actions cfg r a.other)) b [] b.other = p.actions cfg r b.other := by
    cases a <;> cases b <;> rfl
  exact ⟨_, (hread.write h.id hb).write h.id hother⟩

/-- The report is closed. -/
def ClosedIn (reportId : String) (s : Store) : Prop :=
  ∃ r, s.report? reportId = some r ∧ r.status = .closed

/-- When both have decided, the calls come too late to change anything. -/
theorem closedIn_repeated_iff (hopen : OpenToBoth cfg r) (hmay : MayApprove p r)
    (hrow : s.report? r.id = some r) (hrecorded : ∀ a, Recorded a r) (a : Approver) :
    ClosedIn r.id (execute cfg (p.job r.id a).env s (p.job r.id a).user (p.job r.id a).call).store ↔
      r.status = .closed := by
  rw [hopen.execute_recorded hmay hrow (hrecorded a)]
  constructor
  · rintro ⟨r', hrow', hclosed⟩
    cases hrow.symm.trans hrow'
    exact hclosed
  · intro hclosed
    exact ⟨r, hrow, hclosed⟩

/-- What a second call that has read the first makes of the report. -/
theorem serial_closed_iff (h : AwaitsBoth cfg r) (a : Approver) :
    (p.answered cfg a.other (p.answered cfg a r r) (p.answered cfg a r r)).status = .closed ↔
      ¬(Recorded a r ∧ Recorded a.other r) := by
  have hrecorded : Recorded a.other.other (p.answered cfg a r r) := by
    rw [Approver.other_other]
    exact recorded_answered_self id
  rw [answered_status (policyForReport_answered.trans h.policy), answered_status h.policy,
    if_pos hrecorded, h.completed]
  simp only [recorded_answered_other]
  split_ifs <;> simp [*]

/-- What two calls make of the report that have read the same. -/
theorem overlapping_closed_iff (h : AwaitsBoth cfg r) (b : Approver) :
    (p.answered cfg b.other r (p.answered cfg b r r)).status = .closed ↔
      ¬(Recorded b r ∧ Recorded b.other r) ∧ (Recorded b r ∨ Recorded b.other r) := by
  rw [answered_status h.policy, answered_status h.policy, Approver.other_other, h.completed]
  split_ifs <;> simp [*]

/-- Which decisions are recorded does not depend on who is asked first. -/
theorem forall_recorded_iff (a : Approver) : (∀ b, Recorded b r) ↔
    Recorded a r ∧ Recorded a.other r := by
  constructor
  · intro h
    exact ⟨h a, h a.other⟩
  · rintro ⟨ha, hother⟩ b
    rcases a.eq_or_eq_other b with rfl | rfl
    · exact ha
    · exact hother

/-- When neither decision is recorded, the calls have to follow each other. -/
def ApprovalsCloseIt (p : Approvals) (r : Report)
    (moves : List (Move Approver CallJob Event)) : Prop :=
  ¬(∀ a, Recorded a r) ∧ ((∀ a, ¬Recorded a r) → p.Serial r.id moves)

/-- Both calls leave a report that has both decisions, and is closed when one has read the other. -/
theorem run_approvals {moves : List (Move Approver CallJob Event)} (hrow : s.report? r.id = some r)
    (hawaits : AwaitsBoth cfg r) (hmay : MayApprove p r)
    (hmoves : Shuffle (p.moves r.id .citizen) (p.moves r.id .organization) moves) :
    ∃ r' writes, Stage cfg p r.id r' writes (run (callJobs cfg).step (Workers.idle s) moves) ∧
      (∀ a, Recorded a r') ∧ OpenToBoth cfg r' ∧ MayApprove p r' ∧
        (r'.status = .closed ↔ ApprovalsCloseIt p r moves) := by
  have hstage : Stage cfg p r.id r (fun _ => []) (Workers.idle s) := ⟨rfl, hrow, fun _ => rfl⟩
  rcases schedule_cases hmoves with hserial | ⟨a, b, rfl⟩
  · obtain ⟨a, rfl⟩ := hserial
    obtain ⟨writes, hfinal⟩ := hstage.run_serial hawaits.openToBoth hmay a
    refine ⟨_, writes, hfinal, ?_, hawaits.openToBoth.answered.answered, hmay.answered.answered, ?_⟩
    · rw [forall_recorded_iff a.other, recorded_answered_other, Approver.other_other]
      exact ⟨recorded_answered_self id, recorded_answered_self id⟩
    · rw [serial_closed_iff hawaits, ApprovalsCloseIt, forall_recorded_iff a]
      exact ⟨fun h => ⟨h, fun _ => ⟨a, rfl⟩⟩, fun h => h.1⟩
  · obtain ⟨writes, hfinal⟩ := hstage.run_overlapping hawaits.openToBoth hmay a b
    have hrecorded : ∀ c, Recorded c (p.answered cfg b.other r (p.answered cfg b r r)) := by
      rw [forall_recorded_iff b.other, recorded_answered_other, Approver.other_other]
      exact ⟨recorded_answered_self recorded_answered_other.mpr, recorded_answered_self id⟩
    refine ⟨_, writes, hfinal, hrecorded, ⟨?_, fun c hc => absurd (hrecorded c) hc, ?_⟩,
      hmay.answered.answered, ?_⟩
    · rw [policyForReport_answered, policyForReport_answered, hawaits.policy]
    · rw [answered_status hawaits.policy, answered_status hawaits.policy, hawaits.completed]
      split_ifs <;> simp
    · rw [overlapping_closed_iff hawaits, ApprovalsCloseIt, forall_recorded_iff b]
      refine and_congr_right fun _ => ⟨fun h hno => ?_, fun h => ?_⟩
      · exact absurd h (not_or.mpr ⟨hno b, hno b.other⟩)
      · by_contra hno
        rw [not_or] at hno
        refine not_serial_of_overlapping a b (h fun c => ?_)
        rcases b.eq_or_eq_other c with rfl | rfl
        · exact hno.1
        · exact hno.2

/-- One confirmation and one verification close a report that awaits both, and a call that is made
once more finds it closed, if and only if they follow each other or one of them is recorded
beforehand. -/
theorem both_approvals_close_iff {moves : List (Move Approver CallJob Event)}
    (hrow : s.report? r.id = some r) (hawaits : AwaitsBoth cfg r) (hmay : MayApprove p r)
    (hmoves : Shuffle (p.moves r.id .citizen) (p.moves r.id .organization) moves) :
    (ClosedIn r.id (run (callJobs cfg).step (Workers.idle s) moves).state ∧
      ∀ again : Approvals, again.citizen = p.citizen → again.operator = p.operator → ∀ a,
        ClosedIn r.id
        (execute cfg (again.job r.id a).env (run (callJobs cfg).step (Workers.idle s) moves).state
          (again.job r.id a).user (again.job r.id a).call).store) ↔
      ApprovalsCloseIt p r moves := by
  obtain ⟨r', writes, ⟨hid, hrow', -⟩, hrecorded, hopen, hmay', hclosed⟩ :=
    run_approvals hrow hawaits hmay hmoves
  rw [← hid] at hrow'
  rw [← hclosed, ← hid]
  constructor
  · rintro ⟨-, hagain⟩
    exact (closedIn_repeated_iff hopen hmay' hrow' hrecorded .citizen).mp
      (hagain p rfl rfl .citizen)
  · intro hstatus
    refine ⟨⟨r', hrow', hstatus⟩, fun again hcitizen hoperator a => ?_⟩
    have hagain : MayApprove again r' :=
      ⟨hcitizen ▸ hmay'.citizenRole, hcitizen ▸ hmay'.own, hoperator ▸ hmay'.operatorRole,
        hoperator ▸ hmay'.organization, hmay'.organization_ne⟩
    exact (closedIn_repeated_iff hopen hagain hrow' hrecorded a).mpr hstatus

namespace Example

/-- Both the citizen and the organization have to approve. -/
def bothRequired : Config := { completionPolicy := some "BOTH_REQUIRED" }

/-- A report that was resolved and reopened. -/
def reopenedStore : Store :=
  run (step bothRequired) Store.empty
    [created, at_ 1 superAdmin (.adminResolveAndClose "report" "Repaired"),
      at_ 2 superAdmin (.adminReopenCompletion "report" "Complaint")]

/-- The citizen and the administrator of the organization approve at once. -/
def approvals : Approvals :=
  ⟨surroundings 3, citizen, { rating := 5 }, surroundings 3, orgAdmin, none⟩

end Example

theorem reopened_awaits_both :
    ∃ r, r.id = "report" ∧ Example.reopenedStore.report? "report" = some r ∧
      AwaitsBoth Example.bothRequired r ∧
      MayApprove Example.approvals r ∧ ∀ a, ¬Recorded a r := by
  have hdecisions : (Example.reopenedStore.report? "report").map (fun r =>
      (r.citizenId, r.organizationId, r.citizenCompletionDecision,
      r.organizationCompletionDecision)) =
      some ("citizen", "org", none, none) := by
    decide +kernel
  have hcompletion : (Example.reopenedStore.report? "report").map (fun r =>
      (r.status, policyForReport Example.bothRequired r, underDispute r, onHold r, underRework r)) =
      some (.completedByProvider, .bothRequired, false, false, false) := by
    decide +kernel
  obtain ⟨r, hrow, hdecisions⟩ := Option.map_eq_some_iff.mp hdecisions
  rw [hrow, Option.map_some, Option.some.injEq] at hcompletion
  simp only [Prod.mk.injEq] at hdecisions hcompletion
  obtain ⟨hcitizen, horganization, hc, ho⟩ := hdecisions
  obtain ⟨hcompleted, hpolicy, hundisputed, hunheld, hsettled⟩ := hcompletion
  refine ⟨r, id_of_report? hrow, hrow, ⟨hcompleted, hpolicy, ?_, hundisputed, hunheld, hsettled⟩,
    ⟨rfl, hcitizen, .inl rfl, ?_, ?_⟩, ?_⟩
  · simp [hcompleted]
  · rw [horganization]
    rfl
  · simp [horganization]
  · rintro (_ | _)
    · simp [Recorded, hc]
    · simp [Recorded, ho]

/-- Calls that follow each other close the report. -/
theorem approvals_in_turn_close :
    ClosedIn "report" (run (callJobs Example.bothRequired).step (Workers.idle Example.reopenedStore)
      (Example.approvals.moves "report" .citizen ++
        Example.approvals.moves "report" .organization)).state := by
  obtain ⟨r, hid, hrow, hawaits, hmay, hno⟩ := reopened_awaits_both
  rw [← hid] at hrow ⊢
  have hmoves : Shuffle (Example.approvals.moves r.id .citizen)
    (Example.approvals.moves r.id .organization)
      (Example.approvals.moves r.id .citizen ++ Example.approvals.moves r.id .organization) :=
    .left (.left (.right (.right .nil)))
  exact ((both_approvals_close_iff hrow hawaits hmay hmoves).mpr
    ⟨fun hboth => hno .citizen (hboth .citizen), fun _ => ⟨.citizen, rfl⟩⟩).1

/-- A report that both approve at once has both decisions and stays open. -/
theorem approvals_at_once_lost :
    ¬ ∀ (cfg : Config) (s : Store) (p : Approvals) (r : Report)
    (moves : List (Move Approver CallJob Event)),
      s.report? r.id = some r → AwaitsBoth cfg r → MayApprove p r →
      Shuffle (p.moves r.id .citizen) (p.moves r.id .organization) moves →
      ClosedIn r.id (run (callJobs cfg).step (Workers.idle s) moves).state ∧
        ∀ again : Approvals, again.citizen = p.citizen → again.operator = p.operator → ∀ a,
          ClosedIn r.id
          (execute cfg (again.job r.id a).env (run (callJobs cfg).step (Workers.idle s) moves).state
            (again.job r.id a).user (again.job r.id a).call).store := by
  intro h
  obtain ⟨r, hid, hrow, hawaits, hmay, hno⟩ := reopened_awaits_both
  rw [← hid] at hrow
  have hmoves : Shuffle (Example.approvals.moves r.id .citizen)
    (Example.approvals.moves r.id .organization)
      [.read .citizen (Example.approvals.job r.id .citizen),
        .read .organization (Example.approvals.job r.id .organization), .write .citizen,
        .write .organization] :=
    .left (.right (.left (.right .nil)))
  obtain ⟨r', -, ⟨-, hrow', -⟩, -, -, -, hclosed⟩ := run_approvals hrow hawaits hmay hmoves
  obtain ⟨⟨r'', hrow'', hstatus⟩, -⟩ := h _ _ _ r _ hrow hawaits hmay hmoves
  cases hrow'.symm.trans hrow''
  exact not_serial_of_overlapping .citizen .citizen ((hclosed.mp hstatus).2 hno)

end FixZone.ReportService
