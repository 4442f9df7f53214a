import FixZone.InternalAdmin.ApprovalQueue

/-!
# What the queues list and what they open

A queue lists the rows of the organizations in `organizationScopeIds`: the own one of the reader,
and of each scope its organization or else its reference. A row opens when
`canViewOrganizationScope` finds a scope that names its organization, as its organization or as its
reference. Both agree on every row exactly when the scopes of the reader name what the list
is made of and nothing more (`listed_iff_opens_iff`).
-/

namespace FixZone.InternalAdminService

open Library Accounts
open ReportService (HttpError forbidden notFound badRequest)

section Scope

variable (effective : EffectivePermissionResult) (user : User)

/-- A scope names an organization. -/
def NamedByScope (organizationId : String) : Prop :=
  ∃ scope ∈ effective.scopes,
    scope.organizationId = some organizationId ∨ scope.ref = some organizationId

/-- The own organization, if there is one, is named by a scope, and a scope with both an
organization and a reference has a reference that is listed for another reason. -/
structure ScopesListed : Prop where
  own : ∀ own, supplied user.organizationId = some own → NamedByScope effective own
  references : ∀ scope ∈ effective.scopes, scope.organizationId.isSome →
    ∀ reference, supplied scope.ref = some reference →
      user.organizationId = some reference ∨
        ∃ other ∈ effective.scopes, (other.organizationId <|> other.ref) = some reference

/-- No scope names an organization but the one that is never authorized, and some scope does. -/
def NamesUnauthorizedOnly : Prop :=
  NamedByScope effective noAuthorizedScope ∧
    ∀ organizationId, organizationId ≠ "" → NamedByScope effective organizationId →
      organizationId = noAuthorizedScope

/-- The organizations whose approval requests are listed. -/
def approvalScopeIds : List String :=
  if organizationScopeIds effective user = [] then [noAuthorizedScope]
  else organizationScopeIds effective user

end Scope

variable {effective : EffectivePermissionResult} {user : User} {organizationId : String}

theorem supplied_eq_some_iff {text : Option String} {value : String} :
    supplied text = some value ↔ text = some value ∧ value ≠ "" := by
  rw [supplied, Option.filter_eq_some_iff, decide_eq_true_eq]

theorem mem_organizationScopeIds : organizationId ∈ organizationScopeIds effective user ↔
    organizationId ≠ "" ∧ (user.organizationId = some organizationId ∨
      ∃ scope ∈ effective.scopes, (scope.organizationId <|> scope.ref) = some organizationId) := by
  have hids : organizationScopeIds effective user =
      ((user.organizationId :: effective.scopes.map fun scope =>
        scope.organizationId <|> scope.ref).filterMap supplied).eraseDups := rfl
  simp only [hids, List.mem_eraseDups, List.mem_filterMap, supplied_eq_some_iff, List.mem_cons,
    List.mem_map]
  constructor
  · rintro ⟨text, rfl | ⟨scope, hscope, rfl⟩, htext, hne⟩
    · exact ⟨hne, .inl htext⟩
    · exact ⟨hne, .inr ⟨scope, hscope, htext⟩⟩
  · rintro ⟨hne, hown | ⟨scope, hscope, htext⟩⟩
    · exact ⟨_, .inl rfl, hown, hne⟩
    · exact ⟨_, .inr ⟨scope, hscope, rfl⟩, htext, hne⟩

/-- Which organizations a reader without the platform scope may view. -/
theorem canViewOrganizationScope_iff (hscoped : canUsePlatformQueueScope effective user = false)
    {organizationId : Option String} :
    canViewOrganizationScope effective user organizationId = true ↔
      ∃ id, organizationId = some id ∧ id ≠ "" ∧ NamedByScope effective id := by
  unfold canViewOrganizationScope
  rw [hscoped, if_neg Bool.false_ne_true]
  cases organizationId with
  | none => simp [truthy]
  | some id =>
    by_cases hne : id = ""
    · simp [truthy, hne]
    · simp [truthy, hne, NamedByScope]

/-- A list of organizations and the view agree on every row when the list has what the scopes
name. -/
theorem selects_iff_canView_iff (hscoped : canUsePlatformQueueScope effective user = false)
    {ids : List String} (hids : "" ∉ ids) :
    (∀ organizationId : Option String, organizationId.any ids.contains = true ↔
      canViewOrganizationScope effective user organizationId = true) ↔
      ∀ id, id ≠ "" → (id ∈ ids ↔ NamedByScope effective id) := by
  simp only [canViewOrganizationScope_iff hscoped]
  constructor
  · intro h id hne
    simpa [hne] using h (some id)
  · intro h organizationId
    cases organizationId with
    | none => simp
    | some id =>
      by_cases hne : id = ""
      · simp [hne, hids]
      · simpa [hne] using h id hne

/-- The list has what the scopes name. -/
theorem scopesListed_iff : ScopesListed effective user ↔
    ∀ id, id ≠ "" → (id ∈ organizationScopeIds effective user ↔ NamedByScope effective id) := by
  constructor
  · intro h id hne
    rw [mem_organizationScopeIds]
    constructor
    · rintro ⟨-, hown | ⟨scope, hscope, htext⟩⟩
      · exact h.own id (supplied_eq_some_iff.mpr ⟨hown, hne⟩)
      · refine ⟨scope, hscope, ?_⟩
        cases hid : scope.organizationId with
        | none => exact .inr (by simpa [hid] using htext)
        | some other => exact .inl (by simpa [hid] using htext)
    · rintro ⟨scope, hscope, hid | href⟩
      · exact ⟨hne, .inr ⟨scope, hscope, by simp [hid]⟩⟩
      · cases hid : scope.organizationId with
        | none => exact ⟨hne, .inr ⟨scope, hscope, by simp [hid, href]⟩⟩
        | some other =>
          exact ⟨hne, h.references scope hscope (by simp [hid]) id
            (supplied_eq_some_iff.mpr ⟨href, hne⟩)⟩
  · intro h
    refine ⟨fun own hown => ?_, fun scope hscope _ reference hreference => ?_⟩
    · obtain ⟨hown, hne⟩ := supplied_eq_some_iff.mp hown
      exact (h own hne).mp (mem_organizationScopeIds.mpr ⟨hne, .inl hown⟩)
    · obtain ⟨href, hne⟩ := supplied_eq_some_iff.mp hreference
      exact (mem_organizationScopeIds.mp ((h reference hne).mpr ⟨scope, hscope, .inr href⟩)).2

theorem empty_notMem_organizationScopeIds : "" ∉ organizationScopeIds effective user :=
  fun h => (mem_organizationScopeIds.mp h).1 rfl

theorem empty_notMem_approvalScopeIds : "" ∉ approvalScopeIds effective user := by
  unfold approvalScopeIds
  split_ifs
  · decide
  · exact empty_notMem_organizationScopeIds

theorem inQueueScope_iff_any {organizationId : Option String}
    (hscoped : canUsePlatformQueueScope effective user = false) :
    InQueueScope effective user organizationId ↔
      organizationId.any (organizationScopeIds effective user).contains = true := by
  simp [InQueueScope, hscoped, Option.any_eq_true, and_comm]

theorem inApprovalScope_iff_any {request : ApprovalRequest}
    (hscoped : canUsePlatformQueueScope effective user = false) :
    InApprovalScope request effective user ↔
      request.organizationId.any (approvalScopeIds effective user).contains = true := by
  unfold InApprovalScope approvalScopeWhere approvalScopeIds
  rw [hscoped, if_neg Bool.false_ne_true]
  by_cases hnone : organizationScopeIds effective user = []
  · simp [hnone, Option.any_eq_true]
  · simp [hnone]

theorem inApprovalScope_congr (request request' : ApprovalRequest)
    (h : request.organizationId = request'.organizationId) :
    InApprovalScope request effective user ↔ InApprovalScope request' effective user := by
  unfold InApprovalScope approvalScopeWhere
  split_ifs <;> simp [h]

/-! ### The queues -/

section Queues

variable (env : ProcessEnv) (now : Millis) (s : Store) (user : User)

/-- An invitation is on a page of the queue that is asked for without filters. -/
def InvitationListed (db : QueueDatabase StoredInvitation)
    (invitations : Table StoredInvitation.key) (invitationId : String) : Prop :=
  ∃ n envelope, listInvitations env now s invitations user db { page := some n } = .ok envelope ∧
    ∃ item ∈ envelope.items, item.stored.id = invitationId

/-- `invitationDetail` opens an invitation. -/
def InvitationOpens (invitations : Table StoredInvitation.key) (invitationId : String) : Prop :=
  ∃ item, invitationDetail env now s invitations user invitationId = .ok item

/-- A request is on a page of the queue that is asked for without filters. -/
def ApprovalListed (db : QueueDatabase ApprovalRequest) (requests : Table ApprovalRequest.id)
    (approvalId : String) : Prop :=
  ∃ n envelope, listPrivilegedApprovals env now s user requests db { page := some n } =
    .ok envelope ∧ ∃ item ∈ envelope.items, item.stored.id = approvalId

/-- `privilegedApprovalDetail` opens a request. -/
def ApprovalOpens (requests : Table ApprovalRequest.id) (approvalId : String) : Prop :=
  ∃ item, privilegedApprovalDetail env now s user requests approvalId = .ok item

end Queues

variable {env : ProcessEnv} {now : Millis} {s : Store}

/-- Without filters the queue selects the internal invitations in scope. -/
theorem meets_invitationWhere_unfiltered {db : QueueDatabase StoredInvitation} {n : Option ℕ}
    {scopeWhere : InvitationWhereInput} {row : StoredInvitation} :
    (invitationWhere db now { page := n } scopeWhere).meets row = true ↔
      isInternalInvitation row.role = true ∧ scopeWhere.meets row = true := by
  rw [meets_invitationWhere]
  constructor
  · rintro ⟨hrole, -, hscope, -⟩
    exact ⟨hrole rfl, hscope⟩
  · rintro ⟨hrole, hscope⟩
    refine ⟨fun _ => hrole, fun _ => by simp [MatchesSearch, supplied], hscope, ?_⟩
    constructor <;> simp [supplied, BetweenDates, InExpiryState]

/-- Without filters the queue selects the readable requests in scope. -/
theorem meets_approvalWhere_unfiltered {db : QueueDatabase ApprovalRequest} {n : Option ℕ}
    {row : ApprovalRequest} :
    (approvalWhere db { page := n } effective user).meets row = true ↔
      row.operationType ∈ readableApprovalOperations effective user ∧
        InApprovalScope row effective user := by
  rw [meets_approvalWhere, if_neg (by simp), if_neg (by simp)]
  constructor
  · rintro ⟨hbase, -⟩
    exact ⟨hbase.readable rfl, hbase.filters.scope⟩
  · rintro ⟨hreadable, hscope⟩
    refine ⟨⟨fun _ => hreadable, ?_⟩, ?_⟩
    · constructor <;> simp [supplied, BetweenDates, hscope]
    · simp [HasStatus, HasRequester, MatchesApprovalSearch, supplied]

theorem invitationListed_iff {db : QueueDatabase StoredInvitation}
    {invitations : Table StoredInvitation.key} {invitationId : String} :
    InvitationListed env now s user db invitations invitationId ↔
      hasPermission env now s user .internalAdminRead none = true ∧
        ∃ row, invitations.find? invitationId = some row ∧
          isInternalInvitation row.role = true ∧
          InQueueScope (effectivePermissionsForUser env now s user) user row.organizationId := by
  simp only [InvitationListed, listInvitations_eq_ok]
  constructor
  · rintro ⟨n, -, ⟨hread, scopeWhere, hscope, rfl⟩, item, hitem, rfl⟩
    obtain ⟨row, hmem, hmeets, rfl⟩ := (exists_mem_readPage_iff _ _ _ {} _).mp ⟨n, hitem⟩
    obtain ⟨hrole, hin⟩ := meets_invitationWhere_unfiltered.mp hmeets
    exact ⟨hread, row, Table.mem_rows_iff.mp hmem, hrole,
      (invitationScopeWhere_eq_ok hscope).mp hin⟩
  · rintro ⟨hread, row, hfind, hrole, hin⟩
    cases hscope : invitationScopeWhere (effectivePermissionsForUser env now s user) user with
    | error error => exact absurd hin (invitationScopeWhere_eq_error hscope _)
    | ok scopeWhere =>
      have hmeets : (invitationWhere db now {} scopeWhere).meets row = true :=
        meets_invitationWhere_unfiltered.mpr ⟨hrole, (invitationScopeWhere_eq_ok hscope).mpr hin⟩
      have hid : row.key = invitationId := Table.key_of_find? hfind
      obtain ⟨n, hitem⟩ := (exists_mem_readPage_iff db.order _ _ {} _).mpr
        ⟨row, Table.mem_of_find? hfind, hmeets, rfl⟩
      exact ⟨n, _, ⟨hread, scopeWhere, rfl, rfl⟩, _, hitem, hid⟩

theorem invitationOpens_iff {invitations : Table StoredInvitation.key} {invitationId : String} :
    InvitationOpens env now s user invitations invitationId ↔
      hasPermission env now s user .internalAdminRead none = true ∧
        ∃ row, invitations.find? invitationId = some row ∧
          isInternalInvitation row.role = true ∧
          canViewOrganizationScope (effectivePermissionsForUser env now s user) user
            row.organizationId = true := by
  simp only [InvitationOpens, invitationDetail_eq_ok]
  constructor
  · rintro ⟨item, hread, row, hfind, hrole, hview, -⟩
    exact ⟨hread, row, hfind, hrole, hview⟩
  · rintro ⟨hread, row, hfind, hrole, hview⟩
    exact ⟨_, hread, row, hfind, hrole, hview, rfl⟩

theorem approvalListed_iff {db : QueueDatabase ApprovalRequest}
    {requests : Table ApprovalRequest.id} {approvalId : String} :
    ApprovalListed env now s user db requests approvalId ↔
      ∃ request, requests.find? approvalId = some request ∧
        request.operationType ∈
          readableApprovalOperations (effectivePermissionsForUser env now s user) user ∧
        InApprovalScope request (effectivePermissionsForUser env now s user) user := by
  simp only [ApprovalListed, listPrivilegedApprovals_eq_ok]
  constructor
  · rintro ⟨n, -, ⟨-, rfl⟩, item, hitem, rfl⟩
    obtain ⟨row, hmem, hmeets, rfl⟩ := (exists_mem_readPage_iff _ _ _ {} _).mp ⟨n, hitem⟩
    exact ⟨row, Table.mem_rows_iff.mp hmem, meets_approvalWhere_unfiltered.mp hmeets⟩
  · rintro ⟨request, hfind, hreadable, hscope⟩
    have hmeets : (approvalWhere db {} (effectivePermissionsForUser env now s user) user).meets
        request = true := meets_approvalWhere_unfiltered.mpr ⟨hreadable, hscope⟩
    have hid : request.id = approvalId := Table.key_of_find? hfind
    obtain ⟨n, hitem⟩ := (exists_mem_readPage_iff db.order _ _ {} _).mpr
      ⟨request, Table.mem_of_find? hfind, hmeets, rfl⟩
    exact ⟨n, _, ⟨List.ne_nil_of_mem hreadable, rfl⟩, _, hitem, hid⟩

theorem approvalOpens_iff {requests : Table ApprovalRequest.id} {approvalId : String} :
    ApprovalOpens env now s user requests approvalId ↔
      ∃ request, requests.find? approvalId = some request ∧
        request.operationType ∈
          readableApprovalOperations (effectivePermissionsForUser env now s user) user ∧
        canViewOrganizationScope (effectivePermissionsForUser env now s user) user
          request.organizationId = true := by
  unfold ApprovalOpens privilegedApprovalDetail
  simp only [check_bind_eq_ok, assertQueueVisible_eq_ok, orThrow_bind_eq_ok, throwIf_eq_ok,
    not_or, Bool.not_eq_false, List.contains_iff_mem, pure_eq_ok]
  constructor
  · rintro ⟨item, -, request, hfind, ⟨hreadable, hview⟩, -⟩
    exact ⟨request, hfind, hreadable, hview⟩
  · rintro ⟨request, hfind, hreadable, hview⟩
    exact ⟨_, List.ne_nil_of_mem hreadable, request, hfind, ⟨hreadable, hview⟩, rfl⟩

/-! ### Where both agree -/

section Agreement

variable (env : ProcessEnv) (now : Millis) (s : Store) (user : User)

/-- What is listed is what opens, whatever invitations and requests there are. -/
structure ListedIsOpenable (db : QueueDatabase StoredInvitation)
    (db' : QueueDatabase ApprovalRequest) : Prop where
  invitations : ∀ invitations invitationId,
    InvitationListed env now s user db invitations invitationId ↔
      InvitationOpens env now s user invitations invitationId
  approvals : ∀ requests approvalId,
    ApprovalListed env now s user db' requests approvalId ↔
      ApprovalOpens env now s user requests approvalId

/-- An administrator whose scopes are what the queues list: one who may not read them, one whose
queues are not limited to organizations, or one whose scopes name what is listed. -/
structure QueueScopesAgree : Prop where
  invitations : hasPermission env now s user .internalAdminRead none = false ∨
    canUsePlatformQueueScope (effectivePermissionsForUser env now s user) user = true ∨
    ScopesListed (effectivePermissionsForUser env now s user) user
  approvals : readableApprovalOperations (effectivePermissionsForUser env now s user) user = [] ∨
    canUsePlatformQueueScope (effectivePermissionsForUser env now s user) user = true ∨
    if organizationScopeIds (effectivePermissionsForUser env now s user) user = [] then
      NamesUnauthorizedOnly (effectivePermissionsForUser env now s user)
    else ScopesListed (effectivePermissionsForUser env now s user) user

end Agreement

theorem inQueueScope_iff_canView_iff :
    (∀ organizationId, InQueueScope effective user organizationId ↔
      canViewOrganizationScope effective user organizationId = true) ↔
      canUsePlatformQueueScope effective user = true ∨ ScopesListed effective user := by
  cases hscoped : canUsePlatformQueueScope effective user with
  | true => simp [InQueueScope, canViewOrganizationScope, hscoped]
  | false =>
    simp only [inQueueScope_iff_any hscoped, Bool.false_eq_true, false_or, scopesListed_iff]
    exact selects_iff_canView_iff hscoped empty_notMem_organizationScopeIds

theorem inApprovalScope_iff_canView_iff :
    (∀ request : ApprovalRequest, InApprovalScope request effective user ↔
      canViewOrganizationScope effective user request.organizationId = true) ↔
      canUsePlatformQueueScope effective user = true ∨
        if organizationScopeIds effective user = [] then NamesUnauthorizedOnly effective
        else ScopesListed effective user := by
  cases hscoped : canUsePlatformQueueScope effective user with
  | true => simp [InApprovalScope, approvalScopeWhere, canViewOrganizationScope, hscoped]
  | false =>
    have hrequests : (∀ request : ApprovalRequest, InApprovalScope request effective user ↔
        canViewOrganizationScope effective user request.organizationId = true) ↔
        ∀ organizationId : Option String,
          organizationId.any (approvalScopeIds effective user).contains = true ↔
            canViewOrganizationScope effective user organizationId = true := by
      simp only [inApprovalScope_iff_any hscoped]
      refine ⟨fun h organizationId => ?_, fun h request => h _⟩
      exact h { operationType := .roleDefinitionChange, requesterId := "", blockedReason := ""
                id := "", organizationId, requestedAt := 0 }
    rw [hrequests, selects_iff_canView_iff hscoped empty_notMem_approvalScopeIds]
    simp only [Bool.false_eq_true, false_or, approvalScopeIds]
    split_ifs with hnone
    · simp only [List.mem_singleton, NamesUnauthorizedOnly]
      constructor
      · intro h
        exact ⟨(h _ (by decide)).mp rfl, fun id hne hnamed => (h id hne).mpr hnamed⟩
      · rintro ⟨hnamed, honly⟩ id hne
        exact ⟨fun heq => heq ▸ hnamed, honly id hne⟩
    · exact scopesListed_iff.symm

theorem invitations_agree_iff {db : QueueDatabase StoredInvitation} :
    (∀ invitations invitationId, InvitationListed env now s user db invitations invitationId ↔
      InvitationOpens env now s user invitations invitationId) ↔
      hasPermission env now s user .internalAdminRead none = false ∨
        canUsePlatformQueueScope (effectivePermissionsForUser env now s user) user = true ∨
        ScopesListed (effectivePermissionsForUser env now s user) user := by
  simp only [invitationListed_iff, invitationOpens_iff]
  cases hread : hasPermission env now s user .internalAdminRead none with
  | false => simp
  | true =>
    simp only [true_and, Bool.true_eq_false, false_or]
    rw [Table.find?_and_congr_iff, ← inQueueScope_iff_canView_iff]
    constructor
    · intro h organizationId
      have hrow := h { id := "", role := .superAdmin, invitedById := ""
                       organizationId, createdAt := 0 }
      simpa [isInternalInvitation, internalRoleValues] using hrow
    · exact fun h row => and_congr_right fun _ => h row.organizationId

theorem approvals_agree_iff {db : QueueDatabase ApprovalRequest} :
    (∀ requests approvalId, ApprovalListed env now s user db requests approvalId ↔
      ApprovalOpens env now s user requests approvalId) ↔
      readableApprovalOperations (effectivePermissionsForUser env now s user) user = [] ∨
        canUsePlatformQueueScope (effectivePermissionsForUser env now s user) user = true ∨
        if organizationScopeIds (effectivePermissionsForUser env now s user) user = [] then
          NamesUnauthorizedOnly (effectivePermissionsForUser env now s user)
        else ScopesListed (effectivePermissionsForUser env now s user) user := by
  simp only [approvalListed_iff, approvalOpens_iff]
  rw [Table.find?_and_congr_iff, ← inApprovalScope_iff_canView_iff]
  cases hreadable : readableApprovalOperations
    (effectivePermissionsForUser env now s user) user with
  | nil => simp
  | cons operation rest =>
    simp only [reduceCtorEq, false_or]
    constructor
    · intro h request
      have hrow := h { request with operationType := operation }
      rw [inApprovalScope_congr { request with operationType := operation } request rfl] at hrow
      simpa using hrow
    · exact fun h request => and_congr_right fun _ => h request

/-- **Listed is openable.** The queues list what opens for an administrator exactly when the scopes
name the organizations that are listed and no others. -/
theorem listed_iff_opens_iff (env : ProcessEnv) (now : Millis) (s : Store) (user : User)
    (db : QueueDatabase StoredInvitation) (db' : QueueDatabase ApprovalRequest) :
    ListedIsOpenable env now s user db db' ↔ QueueScopesAgree env now s user := by
  constructor
  · exact fun h => ⟨invitations_agree_iff.mp h.invitations, approvals_agree_iff.mp h.approvals⟩
  · exact fun h => ⟨invitations_agree_iff.mpr h.invitations, approvals_agree_iff.mpr h.approvals⟩

namespace Example

/-- A legal administrator of `lagos` who supports accounts of one module. -/
def legalAdministrator : User :=
  { id := "administrator", role := .legalAdmin, organizationId := some "lagos" }

/-- The store with the assignment that makes that administrator support accounts. -/
def oneModule : Store :=
  { Store.ofUsers (Table.empty _) (Table.empty _) with
    assignments := ⟨[{
      id := "support"
      userId := "administrator"
      role := .supportAdmin
      scopeType := .module
      moduleKey := some "billing"
      permissionsSnapshot := permissionsSnapshot [.supportAccountAssistance, .internalAdminRead]
      assignedById := "owner"
      startsAt := 0 }], by simp⟩ }

/-- Rows as they are stored. -/
def storedOrder (ρ : Type) : RowOrder ρ := ⟨fun rows => rows, fun _ => .refl _⟩

/-- A search that tells lower from upper case letters no more than `ILIKE` does. -/
def exampleDatabase (ρ : Type) : QueueDatabase ρ :=
  ⟨fun text search => includes (toLowerCase text) (toLowerCase search), storedOrder ρ⟩

end Example

open Example in
/-- The invitations of the own organization are listed and do not open where no scope names it. -/
theorem own_organization_listed_only :
    ¬ ∀ (env : ProcessEnv) (now : Millis) (s : Store) (user : User)
      (db : QueueDatabase StoredInvitation) (db' : QueueDatabase ApprovalRequest),
      ListedIsOpenable env now s user db db' := by
  intro h
  have hagree := invitations_agree_iff.mp
    (h (fun _ => none) 1 oneModule legalAdministrator (exampleDatabase _)
      (exampleDatabase _)).invitations
  have hread :
      hasPermission (fun _ => none) 1 oneModule legalAdministrator .internalAdminRead none =
      true := by decide +kernel
  have hscoped : canUsePlatformQueueScope
      (effectivePermissionsForUser (fun _ => none) 1 oneModule legalAdministrator)
        legalAdministrator = false := by decide +kernel
  have hlisted : ScopesListed
      (effectivePermissionsForUser (fun _ => none) 1 oneModule legalAdministrator)
        legalAdministrator := by
    simpa [hread, hscoped] using hagree
  obtain ⟨scope, hscope, hnames⟩ := hlisted.own "lagos" rfl
  have hnone : ∀ scope ∈ (effectivePermissionsForUser (fun _ => none) 1 oneModule
      legalAdministrator).scopes, scope.organizationId = none ∧ scope.ref = none := by
    decide +kernel
  simp [hnone scope hscope] at hnames

end FixZone.InternalAdminService
