import FixZone.InternalAdmin.InvitationQueue

/-!
# The queue of privileged approvals

An operation of high risk is asked for with `createApprovalRequest` and decided with
`decideApprovalRequest`; `listPrivilegedApprovals` and `privilegedApprovalDetail` show the
requests, and of each whether the reader may decide it. Whatever is decided, the execution stays
blocked. The requests are a table of their own beside the accounts.
-/

namespace FixZone.InternalAdminService

open Library Accounts
open ReportService (HttpError forbidden notFound badRequest)

/-- `PrivilegedApprovalStatus`. -/
inductive PrivilegedApprovalStatus where
  | pending | approved | rejected | cancelled | executionBlocked
  deriving DecidableEq, Repr

/-- A row of the queue. -/
structure ApprovalRequest extends PrivilegedApprovalRequest where
  id : String
  status : PrivilegedApprovalStatus := .pending
  approverId : Option String := none
  organizationId : Option String := none
  decisionReason : Option String := none
  requestedAt : Millis
  decidedAt : Option Millis := none
  executionBlocked : Bool := true

/-- The operation as the database and the requests spell it. -/
def PrivilegedOperationType.text : PrivilegedOperationType → String
  | .platformSuperAdminGrant => "PLATFORM_SUPER_ADMIN_GRANT"
  | .roleDefinitionChange => "ROLE_DEFINITION_CHANGE"
  | .productionRestoreAuthorization => "PRODUCTION_RESTORE_AUTHORIZATION"
  | .enterpriseFeatureEnablement => "ENTERPRISE_FEATURE_ENABLEMENT"
  | .paymentConfigurationChange => "PAYMENT_CONFIGURATION_CHANGE"
  | .highValueRefundApproval => "HIGH_VALUE_REFUND_APPROVAL"

/-- `Object.values(PrivilegedOperationType)`. -/
def privilegedOperationTypes : List PrivilegedOperationType :=
  [.platformSuperAdminGrant, .roleDefinitionChange, .productionRestoreAuthorization,
    .enterpriseFeatureEnablement, .paymentConfigurationChange, .highValueRefundApproval]

/-- `highRiskOperationPermissions`. -/
def highRiskOperationPermissions : PrivilegedOperationType → InternalPermissionKey
  | .platformSuperAdminGrant => .internalAdminAssignRole
  | .roleDefinitionChange => .internalAdminAssignRole
  | .productionRestoreAuthorization => .backupRestoreRequest
  | .enterpriseFeatureEnablement => .releaseReadinessManage
  | .paymentConfigurationChange => .paymentConfigurationManage
  | .highValueRefundApproval => .paymentRefundApprove

theorem mem_privilegedOperationTypes (operation : PrivilegedOperationType) :
    operation ∈ privilegedOperationTypes := by
  cases operation <;> decide

/-! ### Who may see and decide -/

section Reading

variable (effective : EffectivePermissionResult) (user : User)

/-- `readableApprovalOperations`. -/
def readableApprovalOperations : List PrivilegedOperationType :=
  if user.role = .superAdmin || user.role = .platformSuperAdmin ||
      effective.permissions.contains .internalAdminViewAudit then privilegedOperationTypes
  else privilegedOperationTypes.filter fun operation =>
    effective.permissions.contains (highRiskOperationPermissions operation)

/-- What `approvalDecisionEligibility` answers. -/
structure Eligibility where
  canDecide : Bool
  reasonCode : Option String
  deriving DecidableEq

/-- `approvalDecisionEligibility`. -/
def approvalDecisionEligibility (request : ApprovalRequest) : Eligibility :=
  if request.status ≠ .pending then ⟨false, some "not_pending"⟩
  else if request.requesterId = user.id then ⟨false, some "self_approval_denied"⟩
  else if !effective.permissions.contains (highRiskOperationPermissions request.operationType) then
    ⟨false, some "permission_denied"⟩
  else ⟨true, none⟩

/-- `executionState`. -/
def executionState (request : ApprovalRequest) : String :=
  match request.status with
  | .pending => "PENDING"
  | .rejected | .cancelled => "NOT_APPLICABLE"
  | .approved | .executionBlocked => "BLOCKED"

/-- `safeApprovalQueueItem`: the row, and what is derived from it. -/
structure ApprovalQueueItem extends Eligibility where
  stored : ApprovalRequest
  selfApprovalConflict : Bool
  requiredApprovalCount : ℕ := 1
  currentApprovalCount : ℕ
  executionState : String

/-- `safeApprovalQueueItem`. -/
def safeApprovalQueueItem (request : ApprovalRequest) : ApprovalQueueItem where
  toEligibility := approvalDecisionEligibility effective user request
  stored := request
  selfApprovalConflict := request.requesterId = user.id
  currentApprovalCount := if truthy request.approverId then 1 else 0
  executionState := executionState request

end Reading

/-! ### The condition of the query -/

/-- `PrivilegedApprovalQueueQueryDto`; `canDecide` and `attention` are `'true'` or `'false'`. -/
structure PrivilegedApprovalQueueQueryDto extends InternalAdminPaginationQueryDto where
  status : Option PrivilegedApprovalStatus := none
  operationType : Option PrivilegedOperationType := none
  requesterId : Option String := none
  targetUserId : Option String := none
  organizationId : Option String := none
  canDecide : Option Bool := none
  attention : Option Bool := none

/-- The fields of a condition on approval requests. -/
inductive ApprovalField where
  | operationType | status | requesterId | targetUserId | or | requestedAt | and | organizationId
  | reason
  deriving DecidableEq

/-- `Prisma.PrivilegedApprovalRequestWhereInput`. -/
abbrev ApprovalWhereInput := Where ApprovalField ApprovalRequest

/-- The organization no request is for, with which a reader without any is kept out. -/
def noAuthorizedScope : String := "__no_authorized_scope__"

/-- `approvalScopeWhere`. -/
def approvalScopeWhere (effective : EffectivePermissionResult) (user : User) : ApprovalWhereInput :=
  if canUsePlatformQueueScope effective user then []
  else if (organizationScopeIds effective user).isEmpty then
    [(.organizationId, fun row => row.organizationId = some noAuthorizedScope)]
  else [(.organizationId, fun row =>
    row.organizationId.any (organizationScopeIds effective user).contains)]

/-- `approvalDateWhere`. -/
def approvalDateWhere (query : InternalAdminPaginationQueryDto) : ApprovalWhereInput :=
  .optional .requestedAt (dateWhere query (·.requestedAt))

/-- `approvalExpiryWhere`. -/
def approvalExpiryWhere : ApprovalWhereInput := []

/-- The search in the reason and the ids of a request. -/
def approvalSearch (db : QueueDatabase ApprovalRequest) (search : String) :
    ApprovalRequest → Bool :=
  Where.anyOf [[(ApprovalField.reason, fun row => row.reason.any (db.contains · search))],
    [(.requesterId, fun row => db.contains row.requesterId search)],
    [(.targetUserId, fun row => row.targetUserId.any (db.contains · search))]]

/-- What the condition of `listPrivilegedApprovals` is put together of. -/
def approvalParts (db : QueueDatabase ApprovalRequest) (query : PrivilegedApprovalQueueQueryDto)
    (effective : EffectivePermissionResult) (user : User) : List ApprovalWhereInput :=
  [[(.operationType, fun row =>
      (readableApprovalOperations effective user).contains row.operationType)],
    .optional .status (query.status.map fun status row => row.status = status),
    .optional .operationType (query.operationType.map fun operation row =>
      row.operationType = operation),
    .optional .requesterId ((supplied query.requesterId).map fun id row => row.requesterId = id),
    .optional .targetUserId ((supplied query.targetUserId).map fun id row =>
      row.targetUserId = some id),
    .optional .or ((supplied query.search).map (approvalSearch db)),
    approvalDateWhere query.toInternalAdminPaginationQueryDto,
    approvalExpiryWhere,
    andWhere .and [approvalScopeWhere effective user,
      .optional .organizationId ((supplied query.organizationId).map fun id row =>
        row.organizationId = some id)]]

/-- The condition of `listPrivilegedApprovals` before it looks at `canDecide`. -/
def approvalBaseWhere (db : QueueDatabase ApprovalRequest) (query : PrivilegedApprovalQueueQueryDto)
    (effective : EffectivePermissionResult) (user : User) : ApprovalWhereInput :=
  Where.spreads (approvalParts db query effective user)

/-- The condition of `listPrivilegedApprovals`. -/
def approvalWhere (db : QueueDatabase ApprovalRequest) (query : PrivilegedApprovalQueueQueryDto)
    (effective : EffectivePermissionResult) (user : User) : ApprovalWhereInput :=
  let condition := approvalBaseWhere db query effective user
  if query.canDecide = some true || query.attention = some true then
    (condition.set .status fun row => row.status = .pending).set .requesterId fun row =>
      row.requesterId ≠ user.id
  else if query.canDecide = some false then
    condition.set .or fun row => (condition.get? .or).any (· row) || row.requesterId = user.id ||
      row.status ≠ .pending
  else condition

/-! ### The operations -/

section Operations

variable (env : ProcessEnv) (now : Millis) (s : Store) (user : User)

/-- The operations a user may see requests for, or the refusal of the queue. -/
def assertQueueVisible (message : String) : Except HttpError Unit :=
  throwIf ((readableApprovalOperations (effectivePermissionsForUser env now s user) user).isEmpty)
    (forbidden message)

/-- `listPrivilegedApprovals`. -/
def listPrivilegedApprovals (requests : Table ApprovalRequest.id)
    (db : QueueDatabase ApprovalRequest) (query : PrivilegedApprovalQueueQueryDto) :
    Except HttpError (PageEnvelope ApprovalQueueItem) := do
  assertQueueVisible env now s user "Approval queue visibility denied."
  let effective := effectivePermissionsForUser env now s user
  return readPage db.order requests.rows (approvalWhere db query effective user)
    query.toInternalAdminPaginationQueryDto (safeApprovalQueueItem effective user)

/-- `privilegedApprovalDetail`. -/
def privilegedApprovalDetail (requests : Table ApprovalRequest.id) (approvalId : String) :
    Except HttpError ApprovalQueueItem := do
  assertQueueVisible env now s user "Approval detail visibility denied."
  let effective := effectivePermissionsForUser env now s user
  let request ← orThrow (requests.find? approvalId) (notFound "Approval request not found")
  throwIf ((readableApprovalOperations effective user).contains request.operationType = false ∨
      canViewOrganizationScope effective user request.organizationId = false)
    (notFound "Approval request not found")
  return safeApprovalQueueItem effective user request

/-- `CreatePrivilegedApprovalDto`. -/
structure CreatePrivilegedApprovalDto where
  operationType : String
  targetUserId : Option String := none
  requestedRole : Option String := none
  organizationId : Option String := none
  reason : Option String := none

/-- `parseOperationType`. -/
def parseOperationType (raw : String) : Except HttpError PrivilegedOperationType := do
  let text ← requiredText (some raw) "operationType"
  orThrow (privilegedOperationTypes.find? fun operation =>
      PrivilegedOperationType.text operation = toUpperCase text)
    (badRequest "Invalid privileged operation type.")

/-- `createApprovalRequest`: the row it stores under the id the database gives to it. -/
def requestedApproval (newId : String) (dto : CreatePrivilegedApprovalDto)
    (blockedReason : String) : Except HttpError ApprovalRequest := do
  let operationType ← parseOperationType dto.operationType
  assertPermission env now s user (highRiskOperationPermissions operationType)
  let requestedRole ←
    if truthy dto.requestedRole then (parseInternalRole (dto.requestedRole.getD "")).map some
    else .ok none
  return {
    operationType
    requesterId := user.id
    targetUserId := trimmedOrNull dto.targetUserId
    requestedRole
    reason := trimmedOrNull dto.reason
    blockedReason
    id := newId
    organizationId := trimmedOrNull dto.organizationId
    requestedAt := now }

/-- `createApprovalRequest`. -/
def storeApprovalRequest (requests : Table ApprovalRequest.id) (newId : String)
    (dto : CreatePrivilegedApprovalDto) (blockedReason : String) :
    Except HttpError (Table ApprovalRequest.id) := do
  let row ← requestedApproval env now s user newId dto blockedReason
  throwIf (requests.find? newId).isSome uniqueError
  return requests.insert row

/-- `DecidePrivilegedApprovalDto`. -/
structure DecidePrivilegedApprovalDto where
  decision : String
  reason : Option String := none

/-- The status a decision gives. -/
def DecidePrivilegedApprovalDto.status (dto : DecidePrivilegedApprovalDto) :
    PrivilegedApprovalStatus :=
  if toUpperCase dto.decision = "APPROVE" then .executionBlocked else .rejected

/-- The columns a decision writes. -/
@[simp] def decidedData (dto : DecidePrivilegedApprovalDto) : Patch ApprovalRequest.id where
  apply row := { row with
    status := dto.status
    approverId := some user.id
    decidedAt := some now
    decisionReason := trimmedOrNull dto.reason
    executionBlocked := true }

/-- The checks of `decideApprovalRequest`: the request it decides. -/
def decidableRequest (requests : Table ApprovalRequest.id) (requestId : String) :
    Except HttpError ApprovalRequest := do
  let request ← orThrow (requests.find? requestId) (notFound "Approval request not found")
  throwIf (request.requesterId = user.id) (forbidden "Requester cannot approve their own request.")
  assertPermission env now s user (highRiskOperationPermissions request.operationType)
  return request

/-- `decideApprovalRequest`. -/
def decideApprovalRequest (requests : Table ApprovalRequest.id) (requestId : String)
    (dto : DecidePrivilegedApprovalDto) : Except HttpError (Table ApprovalRequest.id) := do
  let request ← decidableRequest env now s user requests requestId
  return requests.modify request.id (decidedData now user dto)

end Operations

/-! ### What is asked of a reader and of a decision -/

variable {env : ProcessEnv} {now : Millis} {s : Store} {user : User}
  {effective : EffectivePermissionResult} {requests : Table ApprovalRequest.id}

/-- Who may decide a request. -/
theorem canDecide_iff {request : ApprovalRequest} :
    (approvalDecisionEligibility effective user request).canDecide = true ↔
      request.status = .pending ∧ request.requesterId ≠ user.id ∧
        highRiskOperationPermissions request.operationType ∈ effective.permissions := by
  unfold approvalDecisionEligibility
  split_ifs with hstatus hown hpermission
  · simp [hstatus]
  · simp [hown]
  · simpa using fun _ _ => hpermission
  · simp only [Bool.not_eq_true', Bool.not_eq_false, List.contains_iff_mem] at hpermission
    simp only [not_not] at hstatus
    simp [hstatus, hown, hpermission]

/-- The operations a reader sees requests for. -/
theorem mem_readableApprovalOperations {operation : PrivilegedOperationType} :
    operation ∈ readableApprovalOperations effective user ↔
      (user.role = .superAdmin ∨ user.role = .platformSuperAdmin ∨
        .internalAdminViewAudit ∈ effective.permissions) ∨
        highRiskOperationPermissions operation ∈ effective.permissions := by
  unfold readableApprovalOperations
  split_ifs with hall
  · simp only [Bool.or_eq_true, decide_eq_true_eq, List.contains_iff_mem, or_assoc] at hall
    exact iff_of_true (mem_privilegedOperationTypes operation) (.inl hall)
  · simp only [Bool.or_eq_true, decide_eq_true_eq, List.contains_iff_mem, or_assoc] at hall
    simp [mem_privilegedOperationTypes, hall]

theorem decidableRequest_eq_ok {requestId : String} {request : ApprovalRequest} :
    decidableRequest env now s user requests requestId = .ok request ↔
      requests.find? requestId = some request ∧ request.requesterId ≠ user.id ∧
        highRiskOperationPermissions request.operationType ∈
          (effectivePermissionsForUser env now s user).permissions := by
  have hpermission : ∀ p, hasPermission env now s user p none = true ↔
      p ∈ (effectivePermissionsForUser env now s user).permissions := by
    simp [hasPermission]
  unfold decidableRequest
  constructor
  · intro h
    obtain ⟨row, hfind, h⟩ := orThrow_bind_eq_ok.mp h
    obtain ⟨hother, h⟩ := throwIf_bind_eq_ok.mp h
    obtain ⟨hpermitted, h⟩ := check_bind_eq_ok.mp h
    obtain rfl := pure_eq_ok.mp h
    exact ⟨hfind, hother, (hpermission _).mp (assertPermission_eq_ok.mp hpermitted)⟩
  · rintro ⟨hfind, hother, hpermitted⟩
    rw [hfind, orThrow_some, ok_bind, throwIf_of_not hother, ok_bind,
      assertPermission_eq_ok.mpr ((hpermission _).mpr hpermitted)]
    rfl

theorem assertQueueVisible_eq_ok {message : String} :
    assertQueueVisible env now s user message = .ok ⟨⟩ ↔
      readableApprovalOperations (effectivePermissionsForUser env now s user) user ≠ [] := by
  rw [assertQueueVisible, throwIf_eq_ok]
  simp

/-! ### What the condition asks -/

section Filters

variable (db : QueueDatabase ApprovalRequest) (query : PrivilegedApprovalQueueQueryDto)
  (row : ApprovalRequest)

/-- The status of a request is the one a query asks for. -/
def HasStatus : Prop := ∀ status ∈ query.status, row.status = status

/-- The requester of a request is the one a query asks for. -/
def HasRequester : Prop := ∀ id ∈ supplied query.requesterId, row.requesterId = id

/-- A request matches the search of a query. -/
def MatchesApprovalSearch : Prop :=
  ∀ text ∈ supplied query.search, approvalSearch db text row = true

variable (effective : EffectivePermissionResult) (user : User)

/-- The organization of a request is one whose requests a reader lists. -/
def InApprovalScope : Prop := (approvalScopeWhere effective user).meets row = true

/-- What a query asks of a request by its filters, the status, the requester, the search and
whether it can be decided apart. -/
structure ApprovalFilters : Prop where
  operationType : ∀ operation ∈ query.operationType, row.operationType = operation
  target : ∀ id ∈ supplied query.targetUserId, row.targetUserId = some id
  requested : BetweenDates query.toInternalAdminPaginationQueryDto row.requestedAt
  scope : InApprovalScope row effective user
  organization : ∀ id ∈ supplied query.organizationId, row.organizationId = some id

/-- The fields of the condition before `canDecide` is looked at that no later step touches. -/
structure ApprovalBase : Prop where
  readable : query.operationType = none →
    row.operationType ∈ readableApprovalOperations effective user
  filters : ApprovalFilters query row effective user

end Filters

variable {db : QueueDatabase ApprovalRequest} {query : PrivilegedApprovalQueueQueryDto}
  {row : ApprovalRequest}

/-- The `OR` that `canDecide` finds is that of the search. -/
theorem get?_or_approvalBaseWhere : (approvalBaseWhere db query effective user).get? .or =
    (supplied query.search).map (approvalSearch db) := by
  have hand : (andWhere .and [approvalScopeWhere effective user,
      .optional .organizationId ((supplied query.organizationId).map fun id row =>
        row.organizationId = some id)]).get? ApprovalField.or = none :=
    Where.get?_eq_none_iff.mpr (has_andWhere_of_ne (by decide) _)
  simp [approvalBaseWhere, approvalParts, approvalDateWhere, approvalExpiryWhere, Where.spreads,
    Where.get?_spread, Where.get?_optional, Where.get?_singleton, Where.get?_nil, hand]

variable (query effective user) in
theorem has_scopePart (k : ApprovalField) (hne : .and ≠ k) :
    (andWhere .and [approvalScopeWhere effective user,
      .optional .organizationId ((supplied query.organizationId).map fun id row =>
        row.organizationId = some id)]).has k = false :=
  has_andWhere_of_ne hne _

theorem requestedBetween_iff : (∀ p, dateWhere query.toInternalAdminPaginationQueryDto
      ApprovalRequest.requestedAt = some p → p row = true) ↔
    BetweenDates query.toInternalAdminPaginationQueryDto row.requestedAt :=
  dateWhere_iff

/-- What is left of the condition when a status, a requester or an `OR` is set afterwards. -/
theorem meets_approvalParts_append {extra : List ApprovalWhereInput}
    (hextra : ∀ k, k ≠ .status → k ≠ .requesterId → k ≠ .or → extra.any (·.has k) = false) :
    (Where.spreads (approvalParts db query effective user ++ extra)).meets row = true ↔
      ApprovalBase query row effective user ∧
      (extra.any (·.has .status) = false → HasStatus query row) ∧
      (extra.any (·.has .requesterId) = false → HasRequester query row) ∧
      (extra.any (·.has .or) = false → MatchesApprovalSearch db query row) ∧
      (Where.spreads extra).meets row = true := by
  unfold approvalParts approvalDateWhere approvalExpiryWhere
  simp only [List.contains_eq_mem, List.cons_append, List.nil_append, Where.meets_spreads_field,
    List.any_cons, Where.has_optional, reduceCtorEq, decide_false, Option.isSome_map,
    Bool.false_and, decide_true, Bool.true_and, Where.has_nil, ne_eq, not_false_eq_true,
    has_scopePart, hextra, Bool.or_self, Bool.or_false, Bool.false_or, Option.isSome_eq_false_iff,
    Option.isNone_iff_eq_none, decide_eq_true_eq, Where.meets_spreads_optional,
    Where.meets_optional, Option.mem_def, Option.map_eq_some_iff, forall_exists_index, and_imp,
    forall_apply_eq_imp_iff₂, forall_const, requestedBetween_iff, Where.meets_spreads_nil,
    meets_spreads_andWhere, List.mem_cons, List.not_mem_nil, or_false, forall_eq_or_imp, forall_eq]
  constructor
  · rintro ⟨hreadable, hstatus, hoperation, hrequester, htarget, hsearch, hdate,
      ⟨hscope, horganization⟩, hrest⟩
    exact ⟨⟨hreadable, ⟨hoperation, htarget, hdate, hscope, horganization⟩⟩, hstatus, hrequester,
      hsearch, hrest⟩
  · rintro ⟨hbase, hstatus, hrequester, hsearch, hrest⟩
    exact ⟨hbase.readable, hstatus, hbase.filters.operationType, hrequester, hbase.filters.target,
      hsearch, hbase.filters.requested, ⟨hbase.filters.scope, hbase.filters.organization⟩, hrest⟩

/-- **What `listPrivilegedApprovals` selects.** -/
theorem meets_approvalWhere : (approvalWhere db query effective user).meets row = true ↔
    ApprovalBase query row effective user ∧
      if query.canDecide = some true ∨ query.attention = some true then
        row.status = .pending ∧ row.requesterId ≠ user.id ∧ MatchesApprovalSearch db query row
      else HasStatus query row ∧ HasRequester query row ∧
        if query.canDecide = some false then
          (∃ text ∈ supplied query.search, approvalSearch db text row = true) ∨
            row.requesterId = user.id ∨ row.status ≠ .pending
        else MatchesApprovalSearch db query row := by
  unfold approvalWhere
  dsimp only
  rw [get?_or_approvalBaseWhere]
  simp only [Bool.or_eq_true, decide_eq_true_eq]
  split_ifs with hdecide hdecline
  · rw [approvalBaseWhere, Where.set_spreads, Where.set_spreads, List.append_assoc,
      meets_approvalParts_append fun k hstatus hrequester _ => by
        simp [hstatus.symm, hrequester.symm]]
    simp [Where.meets_spreads_field, and_comm, and_assoc]
  · rw [approvalBaseWhere, Where.set_spreads, meets_approvalParts_append fun k _ _ hor => by
      simp [hor.symm]]
    simp [Where.meets_spreads_field, Option.any_eq_true, or_assoc]
  · rw [approvalBaseWhere, ← List.append_nil (approvalParts db query effective user),
      meets_approvalParts_append fun _ _ _ _ => rfl]
    simp

/-- What `listPrivilegedApprovals` answers. -/
theorem listPrivilegedApprovals_eq_ok {envelope : PageEnvelope ApprovalQueueItem} :
    listPrivilegedApprovals env now s user requests db query = .ok envelope ↔
      readableApprovalOperations (effectivePermissionsForUser env now s user) user ≠ [] ∧
        readPage db.order requests.rows (approvalWhere db query
          (effectivePermissionsForUser env now s user) user)
          query.toInternalAdminPaginationQueryDto
          (safeApprovalQueueItem (effectivePermissionsForUser env now s user) user) =
            envelope := by
  unfold listPrivilegedApprovals
  rw [check_bind_eq_ok, assertQueueVisible_eq_ok]
  exact and_congr_right fun _ => pure_eq_ok

end FixZone.InternalAdminService
