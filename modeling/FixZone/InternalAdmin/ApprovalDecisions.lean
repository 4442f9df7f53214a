import FixZone.InternalAdmin.QueueFilters
import FixZone.Library.Run

/-!
# Decisions on approval requests

A run of `createApprovalRequest` and `decideApprovalRequest`, each by some user with the rights
the accounts give at that time. A decision is made where the request is of another user and the
permission is there; whether it is still open, and whether the queue of the user shows it, is not
asked. In a run that only decides what is open and shown, a decision is final, and only there
does what is decided agree with the queue (`decisions_final_iff`).
-/

namespace FixZone.InternalAdminService

open Library Accounts
open ReportService (HttpError forbidden notFound badRequest)

/-- The operations on approval requests. -/
inductive ApprovalOperation where
  | create (dto : CreatePrivilegedApprovalDto) (blockedReason : String)
  | decide (requestId : String) (dto : DecidePrivilegedApprovalDto)

/-- A call: the row of the user, and what it finds around the requests. -/
structure ApprovalCall where
  user : User
  operation : ApprovalOperation
  accounts : Store
  now : Millis
  newId : String

/-- The permissions and scopes of the user at the time of the call. -/
def ApprovalCall.effective (env : ProcessEnv) (call : ApprovalCall) : EffectivePermissionResult :=
  effectivePermissionsForUser env call.now call.accounts call.user

/-- What a call answers: the table after it. -/
def ApprovalCall.answer (env : ProcessEnv) (call : ApprovalCall)
    (requests : Table ApprovalRequest.id) : Except HttpError (Table ApprovalRequest.id) :=
  match call.operation with
  | .create dto blockedReason =>
    storeApprovalRequest env call.now call.accounts call.user requests call.newId dto blockedReason
  | .decide requestId dto =>
    decideApprovalRequest env call.now call.accounts call.user requests requestId dto

/-- The requests after a call. -/
def performApproval (env : ProcessEnv) (call : ApprovalCall) (requests : Table ApprovalRequest.id) :
    Table ApprovalRequest.id :=
  match call.answer env requests with
  | .ok requests' => requests'
  | .error _ => requests

section Law

variable (env : ProcessEnv) (db : QueueDatabase ApprovalRequest)

/-- The queue shows the user of a call a request as one to decide. -/
def ShownDecidable (requests : Table ApprovalRequest.id) (call : ApprovalCall)
    (requestId : String) : Prop :=
  ∃ n envelope, listPrivilegedApprovals env call.now call.accounts call.user requests db
    { page := some n } = .ok envelope ∧
      ∃ item ∈ envelope.items, item.stored.id = requestId ∧ item.canDecide = true

/-- A decision that is made is one the queue offers, by another user than the requester. -/
def DecisionAgrees (requests : Table ApprovalRequest.id) (call : ApprovalCall) : Prop :=
  ∀ requestId dto, call.operation = .decide requestId dto →
    ∀ requests', call.answer env requests = .ok requests' →
      ShownDecidable env db requests call requestId ∧
        ∃ request, requests'.find? requestId = some request ∧
          request.approverId = some call.user.id ∧ request.requesterId ≠ call.user.id

/-- A request has the status, the approver and the time of decision it had. -/
structure SameDecision (request request' : ApprovalRequest) : Prop where
  status : request'.status = request.status
  approver : request'.approverId = request.approverId
  decidedAt : request'.decidedAt = request.decidedAt

/-- What was decided is as it was. -/
def DecisionsKept (requests requests' : Table ApprovalRequest.id) : Prop :=
  ∀ requestId request, requests.find? requestId = some request → request.status ≠ .pending →
    ∃ request', requests'.find? requestId = some request' ∧ SameDecision request request'

/-- The law of a run: its decisions agree with the queue and are final. -/
structure DecisionsFinal (requests : Table ApprovalRequest.id) (calls : List ApprovalCall) :
    Prop where
  agrees : Along (performApproval env) (DecisionAgrees env db) requests calls
  final : ∀ before between after, calls = before ++ between ++ after →
    DecisionsKept (run (performApproval env) requests before)
      (run (performApproval env) requests (before ++ between))

/-- A decision that will be made finds its request open, and of an organization the queue of the
user lists. -/
def DecidesOpenListed (requests : Table ApprovalRequest.id) (call : ApprovalCall) : Prop :=
  ∀ requestId dto, call.operation = .decide requestId dto →
    ∀ request, requests.find? requestId = some request → request.requesterId ≠ call.user.id →
      highRiskOperationPermissions request.operationType ∈ (call.effective env).permissions →
      request.status = .pending ∧ InApprovalScope request (call.effective env) call.user

end Law

variable {env : ProcessEnv} {db : QueueDatabase ApprovalRequest}
  {requests requests' : Table ApprovalRequest.id} {call : ApprovalCall} {requestId : String}

theorem SameDecision.refl (request : ApprovalRequest) : SameDecision request request :=
  ⟨rfl, rfl, rfl⟩

theorem SameDecision.trans {request request' request'' : ApprovalRequest}
    (h : SameDecision request request') (h' : SameDecision request' request'') :
    SameDecision request request'' :=
  ⟨h'.status.trans h.status, h'.approver.trans h.approver, h'.decidedAt.trans h.decidedAt⟩

theorem DecisionsKept.refl (requests : Table ApprovalRequest.id) :
    DecisionsKept requests requests :=
  fun _ request hfind _ => ⟨request, hfind, .refl request⟩

theorem DecisionsKept.trans {requests'' : Table ApprovalRequest.id}
    (h : DecisionsKept requests requests') (h' : DecisionsKept requests' requests'') :
    DecisionsKept requests requests'' := by
  intro requestId request hfind hdecided
  obtain ⟨request', hfind', hsame⟩ := h requestId request hfind hdecided
  obtain ⟨request'', hfind'', hsame'⟩ := h' requestId request' hfind'
    (hsame.status ▸ hdecided)
  exact ⟨request'', hfind'', hsame.trans hsame'⟩

/-- What a decision does. -/
theorem decideApprovalRequest_eq_ok {now : Millis} {s : Store} {user : User}
    {dto : DecidePrivilegedApprovalDto} :
    decideApprovalRequest env now s user requests requestId dto = .ok requests' ↔
      ∃ request, requests.find? requestId = some request ∧ request.requesterId ≠ user.id ∧
        highRiskOperationPermissions request.operationType ∈
          (effectivePermissionsForUser env now s user).permissions ∧
        requests' = requests.modify requestId (decidedData now user dto) := by
  unfold decideApprovalRequest
  simp only [bind_eq_ok, decidableRequest_eq_ok, pure_eq_ok, and_assoc]
  refine exists_congr fun request => and_congr_right fun hfind => ?_
  rw [show request.id = requestId from Table.key_of_find? hfind, eq_comm (a := requests')]

/-- A request that is stored changes no other. -/
theorem decisionsKept_storeApprovalRequest {now : Millis} {s : Store} {user : User}
    {newId blockedReason : String} {dto : CreatePrivilegedApprovalDto}
    (h : storeApprovalRequest env now s user requests newId dto blockedReason = .ok requests') :
    DecisionsKept requests requests' := by
  unfold storeApprovalRequest at h
  obtain ⟨row, -, h⟩ := bind_eq_ok.mp h
  obtain ⟨-, h⟩ := throwIf_bind_eq_ok.mp h
  rw [← pure_eq_ok.mp h]
  exact fun _ request hfind _ => ⟨request, Table.find?_insert_of_some hfind, .refl request⟩

/-- A decision on an open request changes no decided one. -/
theorem decisionsKept_performApproval (h : DecidesOpenListed env requests call) :
    DecisionsKept requests (performApproval env call requests) := by
  unfold performApproval
  cases hanswer : call.answer env requests with
  | error error => exact .refl requests
  | ok requests' =>
    unfold ApprovalCall.answer at hanswer
    cases hoperation : call.operation with
    | create dto blockedReason =>
      rw [hoperation] at hanswer
      exact decisionsKept_storeApprovalRequest hanswer
    | decide decidedId dto =>
      rw [hoperation] at hanswer
      obtain ⟨decided, hdecided, hother, hpermitted, rfl⟩ := decideApprovalRequest_eq_ok.mp hanswer
      obtain ⟨hpending, -⟩ := h decidedId dto hoperation decided hdecided hother hpermitted
      intro requestId request hfind hstatus
      by_cases hid : requestId = decidedId
      · subst hid
        rw [hfind, Option.some.injEq] at hdecided
        exact absurd (hdecided ▸ hpending) hstatus
      · exact ⟨request, (Table.find?_modify_of_ne _ hid).trans hfind, .refl request⟩

/-- A run that decides what is open keeps what was decided. -/
theorem decisionsKept_run {calls : List ApprovalCall}
    (h : Along (performApproval env) (DecidesOpenListed env) requests calls) :
    DecisionsKept requests (run (performApproval env) requests calls) := by
  induction calls generalizing requests with
  | nil => exact .refl requests
  | cons call calls ih => exact (decisionsKept_performApproval h.1).trans (ih h.2)

/-- What the queue shows as decidable. -/
theorem shownDecidable_iff : ShownDecidable env db requests call requestId ↔
    ∃ request, requests.find? requestId = some request ∧ request.status = .pending ∧
      request.requesterId ≠ call.user.id ∧
      highRiskOperationPermissions request.operationType ∈ (call.effective env).permissions ∧
      InApprovalScope request (call.effective env) call.user := by
  simp only [ShownDecidable, listPrivilegedApprovals_eq_ok]
  constructor
  · rintro ⟨n, -, ⟨-, rfl⟩, item, hitem, rfl, hdecide⟩
    obtain ⟨request, hmem, hmeets, rfl⟩ := (exists_mem_readPage_iff _ _ _ {} _).mp ⟨n, hitem⟩
    obtain ⟨hpending, hother, hpermitted⟩ := canDecide_iff.mp hdecide
    exact ⟨request, Table.mem_rows_iff.mp hmem, hpending, hother, hpermitted,
      (meets_approvalWhere_unfiltered.mp hmeets).2⟩
  · rintro ⟨request, hfind, hpending, hother, hpermitted, hscope⟩
    have hreadable : request.operationType ∈
        readableApprovalOperations (call.effective env) call.user :=
      mem_readableApprovalOperations.mpr (.inr hpermitted)
    have hmeets : (approvalWhere db {} (call.effective env) call.user).meets request = true :=
      meets_approvalWhere_unfiltered.mpr ⟨hreadable, hscope⟩
    have hid : request.id = requestId := Table.key_of_find? hfind
    obtain ⟨n, hitem⟩ := (exists_mem_readPage_iff db.order _ _ {} _).mpr
      ⟨request, Table.mem_of_find? hfind, hmeets, rfl⟩
    exact ⟨n, _, ⟨List.ne_nil_of_mem hreadable, rfl⟩, _, hitem, hid,
      canDecide_iff.mpr ⟨hpending, hother, hpermitted⟩⟩

/-- A decision agrees with the queue exactly when it is on an open and listed request. -/
theorem decisionAgrees_iff :
    DecisionAgrees env db requests call ↔ DecidesOpenListed env requests call := by
  have hanswer : ∀ requestId dto, call.operation = .decide requestId dto →
      call.answer env requests =
        decideApprovalRequest env call.now call.accounts call.user requests requestId dto := by
    intro requestId dto hoperation
    rw [ApprovalCall.answer, hoperation]
  constructor
  · intro h requestId dto hoperation request hfind hother hpermitted
    have hok : decideApprovalRequest env call.now call.accounts call.user requests requestId dto =
        .ok (requests.modify requestId (decidedData call.now call.user dto)) :=
      decideApprovalRequest_eq_ok.mpr ⟨request, hfind, hother, hpermitted, rfl⟩
    obtain ⟨hshown, -⟩ := h requestId dto hoperation _ ((hanswer _ _ hoperation).trans hok)
    obtain ⟨shown, hfind', hpending, -, -, hscope⟩ := shownDecidable_iff.mp hshown
    obtain rfl := Option.some.inj (hfind.symm.trans hfind')
    exact ⟨hpending, hscope⟩
  · intro h requestId dto hoperation requests' hok
    rw [hanswer _ _ hoperation] at hok
    obtain ⟨request, hfind, hother, hpermitted, rfl⟩ := decideApprovalRequest_eq_ok.mp hok
    obtain ⟨hpending, hscope⟩ := h requestId dto hoperation request hfind hother hpermitted
    exact ⟨shownDecidable_iff.mpr ⟨request, hfind, hpending, hother, hpermitted, hscope⟩,
      _, Table.find?_modify_self _ hfind, rfl, hother⟩

/-- **Decisions.** The decisions of a run agree with the queue and are final exactly when the run
decides only what is open and listed. -/
theorem decisions_final_iff (env : ProcessEnv) (db : QueueDatabase ApprovalRequest)
    (requests : Table ApprovalRequest.id) (calls : List ApprovalCall) :
    DecisionsFinal env db requests calls ↔
      Along (performApproval env) (DecidesOpenListed env) requests calls := by
  have hagrees : Along (performApproval env) (DecisionAgrees env db) requests calls ↔
      Along (performApproval env) (DecidesOpenListed env) requests calls :=
    along_congr (fun _ _ => decisionAgrees_iff) requests calls
  constructor
  · exact fun h => hagrees.mp h.agrees
  · intro h
    refine ⟨hagrees.mpr h, ?_⟩
    rintro before between after rfl
    obtain ⟨h, -⟩ := along_append.mp h
    obtain ⟨-, hbetween⟩ := along_append.mp h
    rw [run_append]
    exact decisionsKept_run hbetween

namespace Example

/-- A second platform super administrator. -/
def secondOwner : User := { id := "second", role := .platformSuperAdmin }

/-- A request of the first one, which the second one has approved. -/
def approvedRequest : ApprovalRequest :=
  { operationType := .roleDefinitionChange, requesterId := "owner", blockedReason := ""
    id := "request", status := .executionBlocked, approverId := some "second", requestedAt := 0
    decidedAt := some 1 }

/-- The table with that request. -/
def oneApproved : Table ApprovalRequest.id := ⟨[approvedRequest], by simp⟩

/-- The rejection of that request. -/
def rejection : ApprovalCall :=
  { user := secondOwner, operation := .decide "request" { decision := "REJECT" }
    accounts := noAssignments, now := 2, newId := "" }

end Example

open Example in
/-- A request that was approved can be rejected afterwards. -/
theorem approved_request_rejected :
    ¬ ∀ (env : ProcessEnv) (db : QueueDatabase ApprovalRequest)
      (requests : Table ApprovalRequest.id) (calls : List ApprovalCall),
      DecisionsFinal env db requests calls := by
  intro h
  have hstart : oneApproved.find? approvedRequest.id = some approvedRequest :=
    Table.mem_rows_iff.mp (List.mem_singleton_self _)
  obtain ⟨request', hfind, hsame⟩ := (h (fun _ => none) (exampleDatabase _) oneApproved
    [rejection]).final [] [rejection] [] rfl _ approvedRequest hstart (by decide)
  have hstatus : ∀ row ∈ (run (performApproval fun _ => none) oneApproved [rejection]).find?
      "request", row.status = .rejected := by
    decide +kernel
  have hrejected := hstatus request' hfind
  rw [hsame.status] at hrejected
  cases hrejected

end FixZone.InternalAdminService
