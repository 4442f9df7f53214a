import FixZone.InternalAdmin.QueueScope

/-!
# Filters of the queues

A filter of a queue asks something of a row on its own. The conditions of the queries are
spread together, and there one filter can take the place of another: the expiry state `active`
that of the search, the role or the operation asked for that of the ones a reader may see, and
`canDecide` that of the status and the requester, while `canDecide=false` is one more way to
meet the search. The rows listed and counted are those that meet every filter exactly when no
stored row makes a difference (`filters_conjunctive_iff`).
-/

namespace FixZone.InternalAdminService

open Library Accounts
open ReportService (HttpError forbidden notFound badRequest)

/-! ### Invitations -/

section Invitations

variable (env : ProcessEnv) (now : Millis) (s : Store) (user : User)
  (invitations : Table StoredInvitation.key) (db : QueueDatabase StoredInvitation)
  (query : InternalInvitationQueueQueryDto)

/-- An invitation meets each filter of the query, and the reader may see it. -/
structure MeetsInvitationQuery (row : StoredInvitation) : Prop where
  internal : isInternalInvitation row.role = true
  search : MatchesSearch db query.toInternalAdminPaginationQueryDto row
  scope : InQueueScope (effectivePermissionsForUser env now s user) user row.organizationId
  filters : InvitationFilters now query row

/-- An invitation is on a page of the query. -/
def OnInvitationPages (row : StoredInvitation) : Prop :=
  ∃ n envelope, listInvitations env now s invitations user db { query with page := some n } =
    .ok envelope ∧ ∃ item ∈ envelope.items, item.stored = row

/-- The filters of a query for invitations combine conjunctively: what is on its pages meets each,
and the total counts what is on the pages, every stored invitation that meets all among them. -/
structure InvitationsConjunctive : Prop where
  items : ∀ row, OnInvitationPages env now s user invitations db query row →
    MeetsInvitationQuery env now s user db query row
  counted : ∀ envelope, listInvitations env now s invitations user db query = .ok envelope →
    ∃ counted : List StoredInvitation, counted.Nodup ∧ envelope.total = counted.length ∧
      (∀ row, row ∈ counted ↔ OnInvitationPages env now s user invitations db query row) ∧
      ∀ row ∈ invitations.rows, MeetsInvitationQuery env now s user db query row → row ∈ counted

/-- A user who gets an answer from the queue. -/
def MayListInvitations : Prop :=
  hasPermission env now s user .internalAdminRead none = true ∧
    (canUsePlatformQueueScope (effectivePermissionsForUser env now s user) user = true ∨
      organizationScopeIds (effectivePermissionsForUser env now s user) user ≠ [])

/-- No stored invitation in scope slips through where one filter takes the place of another. -/
structure NoInvitationSlips : Prop where
  role : ∀ row ∈ invitations.rows,
    InQueueScope (effectivePermissionsForUser env now s user) user row.organizationId →
    InvitationFilters now query row → ∀ role ∈ query.role,
    (query.expiryState = some .active ∨
      MatchesSearch db query.toInternalAdminPaginationQueryDto row) →
    isInternalInvitation role = true
  search : query.expiryState = some .active → ∀ row ∈ invitations.rows,
    InQueueScope (effectivePermissionsForUser env now s user) user row.organizationId →
    InvitationFilters now query row → (query.role = none → isInternalInvitation row.role = true) →
    MatchesSearch db query.toInternalAdminPaginationQueryDto row

end Invitations

variable {env : ProcessEnv} {now : Millis} {s : Store} {user : User}
  {invitations : Table StoredInvitation.key} {db : QueueDatabase StoredInvitation}
  {query : InternalInvitationQueueQueryDto}

/-- The answer to a reader who gets one. -/
theorem listInvitations_of_scope {scopeWhere : InvitationWhereInput}
    (hread : hasPermission env now s user .internalAdminRead none = true)
    (hscope : invitationScopeWhere (effectivePermissionsForUser env now s user) user =
      .ok scopeWhere) (query : InternalInvitationQueueQueryDto) :
    listInvitations env now s invitations user db query = .ok
      (readPage db.order invitations.rows (invitationWhere db now query scopeWhere)
        query.toInternalAdminPaginationQueryDto (safeInvitationQueueItem now)) :=
  listInvitations_eq_ok.mpr ⟨hread, scopeWhere, hscope, rfl⟩

theorem onInvitationPages_iff {scopeWhere : InvitationWhereInput}
    (hread : hasPermission env now s user .internalAdminRead none = true)
    (hscope : invitationScopeWhere (effectivePermissionsForUser env now s user) user =
      .ok scopeWhere) {row : StoredInvitation} :
    OnInvitationPages env now s user invitations db query row ↔
      row ∈ invitations.rows ∧ (invitationWhere db now query scopeWhere).meets row = true := by
  have hpages := fun item => exists_mem_readPage_iff db.order invitations.rows
    (invitationWhere db now query scopeWhere) query.toInternalAdminPaginationQueryDto
    (safeInvitationQueueItem now) (a := item)
  constructor
  · rintro ⟨n, envelope, hlist, item, hitem, rfl⟩
    rw [listInvitations_of_scope hread hscope] at hlist
    obtain rfl := Except.ok.inj hlist
    obtain ⟨row, hmem, hmeets, rfl⟩ := (hpages item).mp ⟨n, hitem⟩
    exact ⟨hmem, hmeets⟩
  · rintro ⟨hmem, hmeets⟩
    obtain ⟨n, hitem⟩ := (hpages _).mpr ⟨row, hmem, hmeets, rfl⟩
    exact ⟨n, _, listInvitations_of_scope hread hscope _, _, hitem, rfl⟩

/-- Who gets an answer. -/
theorem mayListInvitations_iff : MayListInvitations env now s user ↔
    hasPermission env now s user .internalAdminRead none = true ∧
      ∃ scopeWhere, invitationScopeWhere (effectivePermissionsForUser env now s user) user =
        .ok scopeWhere := by
  unfold MayListInvitations invitationScopeWhere
  refine and_congr_right fun _ => ?_
  split_ifs with hplatform hnone
  · simp [hplatform]
  · simp [hplatform, List.isEmpty_iff.mp hnone]
  · simpa [hplatform] using hnone

theorem mayListInvitations_of_ok {envelope : PageEnvelope InvitationQueueItem}
    (h : listInvitations env now s invitations user db query = .ok envelope) :
    MayListInvitations env now s user := by
  obtain ⟨hread, scopeWhere, hscope, -⟩ := listInvitations_eq_ok.mp h
  exact mayListInvitations_iff.mpr ⟨hread, scopeWhere, hscope⟩

/-- What the condition selects meets every filter where no row slips through. -/
theorem NoInvitationSlips.meets (h : NoInvitationSlips env now s user invitations db query)
    {scopeWhere : InvitationWhereInput}
    (hscope : invitationScopeWhere (effectivePermissionsForUser env now s user) user =
      .ok scopeWhere) {row : StoredInvitation} (hmem : row ∈ invitations.rows)
    (hmeets : (invitationWhere db now query scopeWhere).meets row = true) :
    MeetsInvitationQuery env now s user db query row := by
  obtain ⟨hbase, hsearch, hin, hfilters⟩ := meets_invitationWhere.mp hmeets
  have hin := (invitationScopeWhere_eq_ok hscope).mp hin
  refine ⟨?_, ?_, hin, hfilters⟩
  · cases hrole : query.role with
    | none => exact hbase hrole
    | some role =>
      rw [hfilters.role role hrole]
      refine h.role row hmem hin hfilters role hrole ?_
      by_cases hactive : query.expiryState = some .active
      · exact .inl hactive
      · exact .inr (hsearch hactive)
  · by_cases hactive : query.expiryState = some .active
    · exact h.search hactive row hmem hin hfilters hbase
    · exact hsearch hactive

/-- Every row that meets all filters is selected. -/
theorem MeetsInvitationQuery.meets_where {scopeWhere : InvitationWhereInput}
    (hscope : invitationScopeWhere (effectivePermissionsForUser env now s user) user =
      .ok scopeWhere) {row : StoredInvitation}
    (h : MeetsInvitationQuery env now s user db query row) :
    (invitationWhere db now query scopeWhere).meets row = true :=
  meets_invitationWhere.mpr ⟨fun _ => h.internal, fun _ => h.search,
    (invitationScopeWhere_eq_ok hscope).mpr h.scope, h.filters⟩

/-- **The filters for invitations.** -/
theorem invitationsConjunctive_iff :
    InvitationsConjunctive env now s user invitations db query ↔
      (MayListInvitations env now s user →
        NoInvitationSlips env now s user invitations db query) := by
  constructor
  · intro h hmay
    obtain ⟨hread, scopeWhere, hscope⟩ := mayListInvitations_iff.mp hmay
    have hselected : ∀ row ∈ invitations.rows,
        (query.role = none → isInternalInvitation row.role = true) →
        (query.expiryState ≠ some .active →
          MatchesSearch db query.toInternalAdminPaginationQueryDto row) →
        InQueueScope (effectivePermissionsForUser env now s user) user row.organizationId →
        InvitationFilters now query row → MeetsInvitationQuery env now s user db query row := by
      intro row hmem hbase hsearch hin hfilters
      refine h.items row ((onInvitationPages_iff hread hscope).mpr ⟨hmem, ?_⟩)
      exact meets_invitationWhere.mpr
        ⟨hbase, hsearch, (invitationScopeWhere_eq_ok hscope).mpr hin, hfilters⟩
    refine ⟨fun row hmem hin hfilters role hrole hfound => ?_,
      fun hactive row hmem hin hfilters hbase => ?_⟩
    · have hmeets := hselected row hmem (fun hnone => by rw [hnone] at hrole; cases hrole)
        (fun hnot => hfound.resolve_left hnot) hin hfilters
      rw [← hfilters.role role hrole]
      exact hmeets.internal
    · exact (hselected row hmem hbase (fun hnot => absurd hactive hnot) hin hfilters).search
  · intro h
    refine ⟨?_, fun envelope hlist => ?_⟩
    · rintro row ⟨n, envelope, hlist, hitem⟩
      have hmay := mayListInvitations_of_ok hlist
      obtain ⟨hread, scopeWhere, hscope⟩ := mayListInvitations_iff.mp hmay
      obtain ⟨hmem, hmeets⟩ := (onInvitationPages_iff hread hscope).mp ⟨n, envelope, hlist, hitem⟩
      exact (h hmay).meets hscope hmem hmeets
    · obtain ⟨hread, scopeWhere, hscope, rfl⟩ := listInvitations_eq_ok.mp hlist
      obtain ⟨counted, hnodup, htotal, hcounted⟩ := exists_counted invitations.nodup.of_map
        (invitationWhere db now query scopeWhere)
      refine ⟨counted, hnodup, htotal, fun row => ?_, fun row hmem hmeets => ?_⟩
      · rw [hcounted, onInvitationPages_iff hread hscope]
      · exact (hcounted row).mpr ⟨hmem, hmeets.meets_where hscope⟩

/-! ### Approval requests -/

section Approvals

variable (env : ProcessEnv) (now : Millis) (s : Store) (user : User)
  (requests : Table ApprovalRequest.id) (db : QueueDatabase ApprovalRequest)
  (query : PrivilegedApprovalQueueQueryDto)

/-- A request meets each filter of the query, and the reader may see it. An approval request does
not expire, so the expiry state asks nothing. -/
structure MeetsApprovalQuery (row : ApprovalRequest) : Prop where
  readable : row.operationType ∈
    readableApprovalOperations (effectivePermissionsForUser env now s user) user
  status : HasStatus query row
  requester : HasRequester query row
  search : MatchesApprovalSearch db query row
  filters : ApprovalFilters query row (effectivePermissionsForUser env now s user) user
  canDecide : ∀ canDecide ∈ query.canDecide, (approvalDecisionEligibility
    (effectivePermissionsForUser env now s user) user row).canDecide = canDecide
  attention : query.attention = some true → row.status = .pending ∧ row.requesterId ≠ user.id

/-- A request is on a page of the query. -/
def OnApprovalPages (row : ApprovalRequest) : Prop :=
  ∃ n envelope, listPrivilegedApprovals env now s user requests db { query with page := some n } =
    .ok envelope ∧ ∃ item ∈ envelope.items, item.stored = row

/-- The filters of a query for requests combine conjunctively. -/
structure ApprovalsConjunctive : Prop where
  items : ∀ row, OnApprovalPages env now s user requests db query row →
    MeetsApprovalQuery env now s user db query row
  counted : ∀ envelope, listPrivilegedApprovals env now s user requests db query = .ok envelope →
    ∃ counted : List ApprovalRequest, counted.Nodup ∧ envelope.total = counted.length ∧
      (∀ row, row ∈ counted ↔ OnApprovalPages env now s user requests db query row) ∧
      ∀ row ∈ requests.rows, MeetsApprovalQuery env now s user db query row → row ∈ counted

/-- The operation a query asks for is one the reader sees requests for. -/
def AsksReadable : Prop := ∀ operation ∈ query.operationType,
  operation ∈ readableApprovalOperations (effectivePermissionsForUser env now s user) user

/-- The reader has the permission a request is decided with. -/
def HasOperationPermission (row : ApprovalRequest) : Prop :=
  highRiskOperationPermissions row.operationType ∈
    (effectivePermissionsForUser env now s user).permissions

/-- A stored request makes no difference where one filter takes the place of another. -/
@[mk_iff]
structure ApprovalNotSlipping (row : ApprovalRequest) : Prop where
  /-- What can be decided is listed without regard to the status, the requester and the
  permission. -/
  decidable : query.canDecide = some true ∨ query.attention = some true →
    row.status = .pending → row.requesterId ≠ user.id → MatchesApprovalSearch db query row →
    AsksReadable env now s user query ∧ HasStatus query row ∧ HasRequester query row ∧
      ∀ canDecide ∈ query.canDecide, HasOperationPermission env now s user row ↔ canDecide = true
  /-- What cannot be decided is listed without regard to the search, what matches the search
  without regard to the decision, and what lacks the permission alone is not listed. -/
  declined : query.canDecide = some false → query.attention ≠ some true →
    HasStatus query row → HasRequester query row →
    (row.requesterId = user.id ∨ row.status ≠ .pending →
      AsksReadable env now s user query ∧ MatchesApprovalSearch db query row) ∧
    ((∃ text ∈ supplied query.search, approvalSearch db text row = true) →
      AsksReadable env now s user query ∧ (row.requesterId = user.id ∨ row.status ≠ .pending ∨
        ¬ HasOperationPermission env now s user row)) ∧
    (supplied query.search = none → AsksReadable env now s user query → row.status = .pending →
      row.requesterId ≠ user.id → HasOperationPermission env now s user row)
  unasked : query.canDecide = none → query.attention ≠ some true →
    HasStatus query row → HasRequester query row → MatchesApprovalSearch db query row →
    AsksReadable env now s user query

/-- No stored request slips through, of those that meet the filters nothing takes the place of. -/
def NoApprovalSlips : Prop := ∀ row ∈ requests.rows,
  ApprovalBase query row (effectivePermissionsForUser env now s user) user →
    ApprovalNotSlipping env now s user db query row

end Approvals

variable {requests : Table ApprovalRequest.id} {approvalDb : QueueDatabase ApprovalRequest}
  {approvalQuery : PrivilegedApprovalQueueQueryDto} {request : ApprovalRequest}

theorem onApprovalPages_iff : OnApprovalPages env now s user requests approvalDb approvalQuery
      request ↔
    readableApprovalOperations (effectivePermissionsForUser env now s user) user ≠ [] ∧
      request ∈ requests.rows ∧ (approvalWhere approvalDb approvalQuery
        (effectivePermissionsForUser env now s user) user).meets request = true := by
  have hpages := fun item => exists_mem_readPage_iff approvalDb.order requests.rows
    (approvalWhere approvalDb approvalQuery (effectivePermissionsForUser env now s user) user)
    approvalQuery.toInternalAdminPaginationQueryDto
    (safeApprovalQueueItem (effectivePermissionsForUser env now s user) user) (a := item)
  constructor
  · rintro ⟨n, envelope, hlist, item, hitem, rfl⟩
    obtain ⟨hreadable, rfl⟩ := listPrivilegedApprovals_eq_ok.mp hlist
    obtain ⟨row, hmem, hmeets, rfl⟩ := (hpages item).mp ⟨n, hitem⟩
    exact ⟨hreadable, hmem, hmeets⟩
  · rintro ⟨hreadable, hmem, hmeets⟩
    obtain ⟨n, hitem⟩ := (hpages _).mpr ⟨request, hmem, hmeets, rfl⟩
    exact ⟨n, _, listPrivilegedApprovals_eq_ok.mpr ⟨hreadable, rfl⟩, _, hitem, rfl⟩

/-- The filters combine exactly when each stored request is selected as they ask. -/
theorem approvalsConjunctive_iff_selected :
    ApprovalsConjunctive env now s user requests approvalDb approvalQuery ↔
      (readableApprovalOperations (effectivePermissionsForUser env now s user) user ≠ [] →
        ∀ row ∈ requests.rows, (approvalWhere approvalDb approvalQuery
          (effectivePermissionsForUser env now s user) user).meets row = true ↔
            MeetsApprovalQuery env now s user approvalDb approvalQuery row) := by
  constructor
  · intro h hreadable row hmem
    constructor
    · exact fun hmeets => h.items row (onApprovalPages_iff.mpr ⟨hreadable, hmem, hmeets⟩)
    · intro hmeets
      obtain ⟨counted, -, -, hpages, hcounted⟩ := h.counted _
        (listPrivilegedApprovals_eq_ok.mpr ⟨hreadable, rfl⟩)
      exact (onApprovalPages_iff.mp ((hpages row).mp (hcounted row hmem hmeets))).2.2
  · intro h
    refine ⟨fun row hpages => ?_, fun envelope hlist => ?_⟩
    · obtain ⟨hreadable, hmem, hmeets⟩ := onApprovalPages_iff.mp hpages
      exact (h hreadable row hmem).mp hmeets
    · obtain ⟨hreadable, rfl⟩ := listPrivilegedApprovals_eq_ok.mp hlist
      obtain ⟨counted, hnodup, htotal, hcounted⟩ := exists_counted requests.nodup.of_map
        (approvalWhere approvalDb approvalQuery (effectivePermissionsForUser env now s user) user)
      refine ⟨counted, hnodup, htotal, fun row => ?_, fun row hmem hmeets => ?_⟩
      · rw [hcounted, onApprovalPages_iff]
        exact (and_iff_right hreadable).symm
      · exact (hcounted row).mpr ⟨hmem, (h hreadable row hmem).mpr hmeets⟩

theorem approvalBase_and_asksReadable :
    (ApprovalBase approvalQuery request (effectivePermissionsForUser env now s user) user ∧
      AsksReadable env now s user approvalQuery) ↔
      request.operationType ∈
        readableApprovalOperations (effectivePermissionsForUser env now s user) user ∧
      ApprovalFilters approvalQuery request (effectivePermissionsForUser env now s user) user := by
  constructor
  · rintro ⟨hbase, hasks⟩
    refine ⟨?_, hbase.filters⟩
    cases hoperation : approvalQuery.operationType with
    | none => exact hbase.readable hoperation
    | some operation =>
      rw [hbase.filters.operationType operation hoperation]
      exact hasks operation hoperation
  · rintro ⟨hreadable, hfilters⟩
    exact ⟨⟨fun _ => hreadable, hfilters⟩, fun operation hoperation =>
      hfilters.operationType operation hoperation ▸ hreadable⟩

theorem meetsApprovalQuery_iff :
    MeetsApprovalQuery env now s user approvalDb approvalQuery request ↔
      ApprovalBase approvalQuery request (effectivePermissionsForUser env now s user) user ∧
      AsksReadable env now s user approvalQuery ∧ HasStatus approvalQuery request ∧
      HasRequester approvalQuery request ∧
      MatchesApprovalSearch approvalDb approvalQuery request ∧
      (∀ canDecide ∈ approvalQuery.canDecide, (request.status = .pending ∧
        request.requesterId ≠ user.id ∧ HasOperationPermission env now s user request) ↔
          canDecide = true) ∧
      (approvalQuery.attention = some true →
        request.status = .pending ∧ request.requesterId ≠ user.id) := by
  have hdecide : ∀ canDecide : Bool, (approvalDecisionEligibility
      (effectivePermissionsForUser env now s user) user request).canDecide = canDecide ↔
      ((request.status = .pending ∧ request.requesterId ≠ user.id ∧
        HasOperationPermission env now s user request) ↔ canDecide = true) := by
    intro canDecide
    rw [Bool.eq_iff_iff, canDecide_iff]
    rfl
  constructor
  · intro h
    obtain ⟨hbase, hasks⟩ := approvalBase_and_asksReadable.mpr ⟨h.readable, h.filters⟩
    exact ⟨hbase, hasks, h.status, h.requester, h.search,
      fun canDecide hmem => (hdecide canDecide).mp (h.canDecide canDecide hmem), h.attention⟩
  · rintro ⟨hbase, hasks, hstatus, hrequester, hsearch, hcan, hattention⟩
    obtain ⟨hreadable, hfilters⟩ := approvalBase_and_asksReadable.mp ⟨hbase, hasks⟩
    exact ⟨hreadable, hstatus, hrequester, hsearch, hfilters,
      fun canDecide hmem => (hdecide canDecide).mpr (hcan canDecide hmem), hattention⟩

/-- A request is selected as the filters ask exactly when it does not slip through. -/
theorem selected_iff_meets_iff :
    ((approvalWhere approvalDb approvalQuery (effectivePermissionsForUser env now s user)
      user).meets request = true ↔
        MeetsApprovalQuery env now s user approvalDb approvalQuery request) ↔
      (ApprovalBase approvalQuery request (effectivePermissionsForUser env now s user) user →
        ApprovalNotSlipping env now s user approvalDb approvalQuery request) := by
  rw [meets_approvalWhere, meetsApprovalQuery_iff, and_congr_right_iff, approvalNotSlipping_iff]
  refine forall_congr' fun _ => ?_
  -- a search that is asked for matches where one of its texts does
  have hsearch : MatchesApprovalSearch approvalDb approvalQuery request ↔
      supplied approvalQuery.search = none ∨
        ∃ text, supplied approvalQuery.search = some text ∧
          approvalSearch approvalDb text request = true := by
    unfold MatchesApprovalSearch
    cases supplied approvalQuery.search <;> simp
  simp only [Option.mem_def]
  -- what is left in each branch is propositional
  rcases hcan : approvalQuery.canDecide with _ | _ | _
  all_goals
    by_cases hattention : approvalQuery.attention = some true
    all_goals
      simp only [hattention, reduceCtorEq, Option.some.injEq, Bool.true_eq_false,
        Bool.false_eq_true, or_true, or_false, if_true, if_false, ne_eq]
      grind

/-- **The filters for approval requests.** -/
theorem approvalsConjunctive_iff :
    ApprovalsConjunctive env now s user requests approvalDb approvalQuery ↔
      (readableApprovalOperations (effectivePermissionsForUser env now s user) user ≠ [] →
        NoApprovalSlips env now s user requests approvalDb approvalQuery) := by
  rw [approvalsConjunctive_iff_selected]
  exact forall_congr' fun _ => forall₂_congr fun _ _ => selected_iff_meets_iff

/-- **Filters.** The queues list and count what meets every filter exactly when no stored row slips
through where one filter takes the place of another. -/
theorem filters_conjunctive_iff (env : ProcessEnv) (now : Millis) (s : Store) (user : User) :
    (∀ (invitations : Table StoredInvitation.key) (db : QueueDatabase StoredInvitation)
      (query : InternalInvitationQueueQueryDto),
      InvitationsConjunctive env now s user invitations db query ↔
        (MayListInvitations env now s user →
          NoInvitationSlips env now s user invitations db query)) ∧
    ∀ (requests : Table ApprovalRequest.id) (db : QueueDatabase ApprovalRequest)
      (query : PrivilegedApprovalQueueQueryDto),
      ApprovalsConjunctive env now s user requests db query ↔
        (readableApprovalOperations (effectivePermissionsForUser env now s user) user ≠ [] →
          NoApprovalSlips env now s user requests db query) :=
  ⟨fun _ _ _ => invitationsConjunctive_iff, fun _ _ _ => approvalsConjunctive_iff⟩

namespace Example

/-- A platform super administrator. -/
def queueReader : User := { id := "owner", role := .platformSuperAdmin }

/-- The store with no assignments. -/
def noAssignments : Store := Store.ofUsers (Table.empty _) (Table.empty _)

/-- An invitation without an end. -/
def openInvitation : StoredInvitation :=
  { id := "bola", fullName := "Bola", role := .supportAdmin, invitedById := "owner"
    createdAt := 0 }

/-- The open invitations that match `ada`. -/
def activeSearch : InternalInvitationQueueQueryDto :=
  { search := some "ada", expiryState := some .active }

end Example

open Example in
/-- The search is lost where the active invitations are asked for. -/
theorem active_invitations_lose_search :
    ¬ ∀ (env : ProcessEnv) (now : Millis) (s : Store) (user : User),
      (∀ (invitations : Table StoredInvitation.key) (db : QueueDatabase StoredInvitation)
        (query : InternalInvitationQueueQueryDto),
        InvitationsConjunctive env now s user invitations db query) ∧
      ∀ (requests : Table ApprovalRequest.id) (db : QueueDatabase ApprovalRequest)
        (query : PrivilegedApprovalQueueQueryDto),
        ApprovalsConjunctive env now s user requests db query := by
  intro h
  have hconjunctive := (h (fun _ => none) 1 noAssignments queueReader).1
    ⟨[openInvitation], by simp⟩ (exampleDatabase _) activeSearch
  have hmay : MayListInvitations (fun _ => none) 1 noAssignments queueReader :=
    ⟨by decide +kernel, .inl (by decide +kernel)⟩
  have hfilters : InvitationFilters 1 activeSearch openInvitation := by
    constructor <;> simp [activeSearch, openInvitation, supplied, BetweenDates, InExpiryState,
      Invitation.lapsed]
  have hfound := (invitationsConjunctive_iff.mp hconjunctive hmay).search rfl openInvitation
    (by simp) (.inl (by decide +kernel)) hfilters fun _ => by decide
  have hmatch := hfound "ada" rfl
  revert hmatch
  decide +kernel

end FixZone.InternalAdminService
