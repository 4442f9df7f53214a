import FixZone.InternalAdmin.ScopeCeiling
import FixZone.Library.QueryObject

/-!
# The queue of invitations

`listInvitations` and `invitationDetail`: an administrator who may read sees the invitations
to internal roles, all of them or those of the own organizations. The condition of the query is an
object that one part after the other is spread into (`Library.Where`); a page of it is read in
the order the query asks for, which nothing here depends on.

Left out of an item are the names and addresses it shows, with the addresses masked; the record of
a refusal in the audit log is left out as before.
-/

namespace FixZone.InternalAdminService

open Library Accounts
open ReportService (HttpError forbidden notFound badRequest)

/-- A row of the queue: an invitation, and when it was created. -/
structure StoredInvitation extends Invitation where
  createdAt : Millis

/-- The primary key. -/
def StoredInvitation.key (row : StoredInvitation) : String := row.id

/-- What the database answers for the queries of a queue: whether a text contains another one
without regard to case, and the order in which rows are listed. -/
structure QueueDatabase (ρ : Type) where
  contains : String → String → Bool
  order : RowOrder ρ

/-- `expiryState`. -/
inductive ExpiryState where
  | active | expired | all
  deriving DecidableEq, Repr

/-- `InternalAdminPaginationQueryDto`. The dates are what `new Date` reads in the ISO texts. -/
structure InternalAdminPaginationQueryDto where
  page : Option ℕ := none
  pageSize : Option ℕ := none
  createdFrom : Option Millis := none
  createdTo : Option Millis := none
  expiryState : Option ExpiryState := none
  search : Option String := none

/-- `InternalInvitationQueueQueryDto`. -/
structure InternalInvitationQueueQueryDto extends InternalAdminPaginationQueryDto where
  status : Option InvitationStatus := none
  role : Option UserRole := none
  scopeType : Option InternalScopeType := none
  organizationId : Option String := none
  moduleKey : Option String := none
  inviterId : Option String := none

/-- A text of a query counts when it is there and not empty. -/
def supplied (text : Option String) : Option String := text.filter (· ≠ "")

/-! ### Pages -/

/-- `pagination`: the number of the page. -/
def pageNumber (query : InternalAdminPaginationQueryDto) : ℕ := max 1 (query.page.getD 1)

/-- `pagination`: the size of the page. -/
def pageSize (query : InternalAdminPaginationQueryDto) : ℕ :=
  min 100 (max 1 (query.pageSize.getD 25))

/-- `pageEnvelope`. -/
structure PageEnvelope (α : Type) where
  items : List α
  page : ℕ
  pageSize : ℕ
  total : ℕ
  totalPages : ℕ

/-- The `count` and the `findMany` of a queue, and the envelope of their answers. -/
def readPage {κ ρ α : Type} (order : RowOrder ρ) (rows : List ρ) (condition : Where κ ρ)
    (query : InternalAdminPaginationQueryDto) (item : ρ → α) : PageEnvelope α :=
  let total := rows.countP condition.meets
  { items := (order.page (rows.filter condition.meets) (pageNumber query) (pageSize query)).map item
    page := pageNumber query
    pageSize := pageSize query
    total
    totalPages := max 1 ((total + pageSize query - 1) / pageSize query) }

/-! ### What an administrator may see -/

section Scope

variable (effective : EffectivePermissionResult) (user : User)

/-- `canViewOrganizationScope`. -/
def canViewOrganizationScope (organizationId : Option String) : Bool :=
  if canUsePlatformQueueScope effective user then true
  else if !truthy organizationId then false
  else effective.scopes.any fun scope =>
    scope.organizationId = organizationId || scope.ref = organizationId

end Scope

/-! ### The condition of the query -/

/-- The fields of a condition on invitations. -/
inductive InvitationField where
  | role | status | invitedById | or | createdAt | expiresAt | and | organizationId | metadata
  | fullName | email
  deriving DecidableEq

/-- `Prisma.InvitationWhereInput`. -/
abbrev InvitationWhereInput := Where InvitationField StoredInvitation

/-- A condition that holds between two dates, if one of them is given. -/
def dateWhere {ρ : Type} (query : InternalAdminPaginationQueryDto) (date : ρ → Millis) :
    Option (ρ → Bool) :=
  if query.createdFrom.isNone && query.createdTo.isNone then none
  else some fun row => query.createdFrom.all (· ≤ date row) && query.createdTo.all (date row ≤ ·)

/-- `createdAtWhere`. -/
def createdAtWhere (query : InternalAdminPaginationQueryDto) : InvitationWhereInput :=
  .optional .createdAt (dateWhere query (·.createdAt))

/-- `invitationExpiryWhere`. -/
def invitationExpiryWhere (now : Millis) (query : InternalAdminPaginationQueryDto) :
    InvitationWhereInput :=
  match query.expiryState with
  | some .expired => [(.expiresAt, fun row => row.expiresAt.any (· ≤ now))]
  | some .active =>
    [(.or, Where.anyOf [[(InvitationField.expiresAt, fun row => row.expiresAt = none)],
      [(.expiresAt, fun row => row.expiresAt.any (now < ·))]])]
  | _ => []

/-- `metadata: { path: ['scope', name], equals: text }`. -/
def scopeMetadataIs (name text : String) (row : StoredInvitation) : Bool :=
  match (row.metadata.bind (Json.field? "scope")).bind (Json.field? name) with
  | some (.str found) => found = text
  | _ => false

/-- `andWhere`. A part that is an `AND` itself stays as it is, which asks the same. -/
def andWhere {κ ρ : Type} (and : κ) (clauses : List (Where κ ρ)) : Where κ ρ :=
  let present := clauses.filter fun clause => !clause.isEmpty
  if present.isEmpty then [] else [(and, Where.allOf present)]

/-- `invitationMetadataScopeWhere`. -/
def invitationMetadataScopeWhere (query : InternalInvitationQueueQueryDto) : InvitationWhereInput :=
  andWhere .and
    [.optional .metadata (query.scopeType.map fun type => scopeMetadataIs "type" type.text),
      .optional .metadata ((supplied query.moduleKey).map fun key =>
        scopeMetadataIs "moduleKey" key)]

/-- `invitationScopeWhere`. -/
def invitationScopeWhere (effective : EffectivePermissionResult) (user : User) :
    Except HttpError InvitationWhereInput :=
  if canUsePlatformQueueScope effective user then .ok []
  else if (organizationScopeIds effective user).isEmpty then
    .error (forbidden "Invitation visibility denied.")
  else .ok [(.organizationId, fun row =>
    row.organizationId.any (organizationScopeIds effective user).contains)]

/-- `internalRoleValues`. -/
def internalRoleValues : List UserRole :=
  .superAdmin :: internalRoleCatalog.map InternalRoleDefinition.role

/-- `isInternalInvitation`. -/
def isInternalInvitation (role : UserRole) : Bool := internalRoleValues.contains role

/-- The search in the name and the address of an invitation. -/
def invitationSearch (db : QueueDatabase StoredInvitation) (search : String) :
    StoredInvitation → Bool :=
  Where.anyOf [[(InvitationField.fullName, fun row => db.contains row.fullName search)],
    [(.email, fun row => row.email.any (db.contains · search))]]

/-- The condition of `listInvitations`. -/
def invitationWhere (db : QueueDatabase StoredInvitation) (now : Millis)
    (query : InternalInvitationQueueQueryDto) (scopeWhere : InvitationWhereInput) :
    InvitationWhereInput :=
  Where.spreads [
    [(.role, fun row => internalRoleValues.contains row.role)],
    .optional .status (query.status.map fun status row => row.status = status),
    .optional .role (query.role.map fun role row => row.role = role),
    .optional .invitedById ((supplied query.inviterId).map fun id row => row.invitedById = id),
    .optional .or ((supplied query.search).map (invitationSearch db)),
    createdAtWhere query.toInternalAdminPaginationQueryDto,
    invitationExpiryWhere now query.toInternalAdminPaginationQueryDto,
    andWhere .and [scopeWhere,
      .optional .organizationId ((supplied query.organizationId).map fun id row =>
        row.organizationId = some id),
      invitationMetadataScopeWhere query]]

/-! ### Reading the queue -/

/-- `deriveInvitationState`. -/
structure InvitationState where
  status : InvitationStatus
  availability : String
  reasonCode : String

/-- The status as the answers spell it in lower case. -/
def InvitationStatus.reasonCode : InvitationStatus → String
  | .pending => "pending"
  | .accepted => "accepted"
  | .declined => "declined"
  | .cancelled => "cancelled"
  | .revoked => "revoked"
  | .expired => "expired"

/-- `deriveInvitationState`. -/
def deriveInvitationState (now : Millis) (invitation : Invitation) : InvitationState :=
  if invitation.status = .pending && invitation.lapsed now then
    ⟨.expired, "unavailable", "expired"⟩
  else if invitation.status ≠ .pending then
    ⟨invitation.status, "unavailable", InvitationStatus.reasonCode invitation.status⟩
  else ⟨invitation.status, "available", "pending"⟩

/-- `safeInvitationQueueItem`: the row, and what is derived from it. -/
structure InvitationQueueItem extends InvitationState where
  stored : StoredInvitation
  scope : InternalScope

/-- `safeInvitationQueueItem`. -/
def safeInvitationQueueItem (now : Millis) (row : StoredInvitation) : InvitationQueueItem where
  toInvitationState := deriveInvitationState now row.toInvitation
  stored := row
  scope := invitationScope row.toInvitation

section Queue

variable (env : ProcessEnv) (now : Millis) (s : Store)
  (invitations : Table StoredInvitation.key) (user : User)

/-- `listInvitations`. -/
def listInvitations (db : QueueDatabase StoredInvitation)
    (query : InternalInvitationQueueQueryDto) :
    Except HttpError (PageEnvelope InvitationQueueItem) := do
  assertPermission env now s user .internalAdminRead
  let effective := effectivePermissionsForUser env now s user
  let scopeWhere ← invitationScopeWhere effective user
  return readPage db.order invitations.rows (invitationWhere db now query scopeWhere)
    query.toInternalAdminPaginationQueryDto (safeInvitationQueueItem now)

/-- `invitationDetail`. -/
def invitationDetail (invitationId : String) : Except HttpError InvitationQueueItem := do
  assertPermission env now s user .internalAdminRead
  let row ← orThrow (invitations.find? invitationId) (notFound "Invitation not found")
  throwIf (isInternalInvitation row.role = false) (notFound "Invitation not found")
  let effective := effectivePermissionsForUser env now s user
  throwIf (canViewOrganizationScope effective user row.organizationId = false)
    (notFound "Invitation not found")
  return safeInvitationQueueItem now row

end Queue

/-! ### What the condition asks -/

/-- A date lies between those of a query. -/
def BetweenDates (query : InternalAdminPaginationQueryDto) (date : Millis) : Prop :=
  (∀ start ∈ query.createdFrom, start ≤ date) ∧ ∀ stop ∈ query.createdTo, date ≤ stop

/-- An invitation is in the expiry state of a query. -/
def InExpiryState (now : Millis) (query : InternalAdminPaginationQueryDto)
    (invitation : Invitation) : Prop :=
  match query.expiryState with
  | some .expired => invitation.lapsed now = true
  | some .active => invitation.lapsed now = false
  | _ => True

/-- An organization is one whose rows the queue of a reader lists. -/
def InQueueScope (effective : EffectivePermissionResult) (user : User)
    (organizationId : Option String) : Prop :=
  canUsePlatformQueueScope effective user = true ∨
    ∃ id ∈ organizationScopeIds effective user, organizationId = some id

/-- An invitation matches the search of a query. -/
def MatchesSearch (db : QueueDatabase StoredInvitation) (query : InternalAdminPaginationQueryDto)
    (row : StoredInvitation) : Prop :=
  ∀ text ∈ supplied query.search, db.contains row.fullName text = true ∨
    ∃ email ∈ row.email, db.contains email text = true

/-- What a query asks of an invitation by its filters, the search apart. -/
structure InvitationFilters (now : Millis) (query : InternalInvitationQueueQueryDto)
    (row : StoredInvitation) : Prop where
  status : ∀ status ∈ query.status, row.status = status
  role : ∀ role ∈ query.role, row.role = role
  inviter : ∀ id ∈ supplied query.inviterId, row.invitedById = id
  created : BetweenDates query.toInternalAdminPaginationQueryDto row.createdAt
  expiry : InExpiryState now query.toInternalAdminPaginationQueryDto row.toInvitation
  organization : ∀ id ∈ supplied query.organizationId, row.organizationId = some id
  scopeType : ∀ type ∈ query.scopeType, scopeMetadataIs "type" type.text row = true
  moduleKey : ∀ key ∈ supplied query.moduleKey, scopeMetadataIs "moduleKey" key row = true

variable {env : ProcessEnv} {now : Millis} {s : Store} {user : User}
  {effective : EffectivePermissionResult} {db : QueueDatabase StoredInvitation}
  {query : InternalInvitationQueueQueryDto} {scopeWhere : InvitationWhereInput}
  {row : StoredInvitation}

theorem pageSize_pos (query : InternalAdminPaginationQueryDto) : 0 < pageSize query := by
  unfold pageSize
  omega

/-- The items of all pages are those of the selected rows. -/
theorem exists_mem_readPage_iff {κ ρ α : Type} (order : RowOrder ρ) (rows : List ρ)
    (condition : Where κ ρ) (query : InternalAdminPaginationQueryDto) (item : ρ → α) {a : α} :
    (∃ n, a ∈ (readPage order rows condition { query with page := some n } item).items) ↔
      ∃ row ∈ rows, condition.meets row = true ∧ item row = a := by
  have hpages := fun row => @RowOrder.exists_mem_page_iff _ order (rows.filter condition.meets) _
    (pageSize_pos query) row
  simp only [List.mem_filter] at hpages
  constructor
  · rintro ⟨n, ha⟩
    obtain ⟨row, hrow, rfl⟩ := List.mem_map.mp ha
    obtain ⟨hmem, hmeets⟩ := (hpages row).mp ⟨max 1 n, by omega, hrow⟩
    exact ⟨row, hmem, hmeets, rfl⟩
  · rintro ⟨row, hmem, hmeets, rfl⟩
    obtain ⟨n, hn, hrow⟩ := (hpages row).mpr ⟨hmem, hmeets⟩
    refine ⟨n, List.mem_map_of_mem ?_⟩
    have hpage : pageNumber { query with page := some n } = n := by
      unfold pageNumber
      exact Nat.max_eq_right hn
    rw [hpage]
    exact hrow

/-- What the total counts is what the pages show. -/
theorem exists_counted {κ ρ : Type} {rows : List ρ} (hnodup : rows.Nodup)
    (condition : Where κ ρ) :
    ∃ counted : List ρ, counted.Nodup ∧ rows.countP condition.meets = counted.length ∧
      ∀ row, row ∈ counted ↔ row ∈ rows ∧ condition.meets row = true :=
  ⟨rows.filter condition.meets, hnodup.filter _, List.countP_eq_length_filter,
    fun _ => List.mem_filter⟩

/-- The parts of an `AND`, those that ask for nothing left out. -/
theorem meets_andWhere {κ ρ : Type} [DecidableEq κ] {and : κ} {clauses : List (Where κ ρ)}
    {row : ρ} : (andWhere and clauses).meets row = true ↔
      ∀ clause ∈ clauses, clause.meets row = true := by
  have hempty : ∀ clause : Where κ ρ, clause.isEmpty = true → clause.meets row = true := by
    intro clause hclause
    rw [List.isEmpty_iff.mp hclause, Where.meets_nil]
  unfold andWhere
  dsimp only
  split_ifs with hnone
  · simp only [List.isEmpty_iff, List.filter_eq_nil_iff, Bool.not_eq_true', Bool.not_eq_false]
      at hnone
    exact iff_of_true rfl fun clause hclause =>
      hempty clause (List.isEmpty_iff.mpr (hnone clause hclause))
  · simp only [Where.meets_singleton, Where.allOf, List.all_eq_true, List.mem_filter,
      Bool.not_eq_true', and_imp]
    refine forall₂_congr fun clause _ => ⟨fun h => ?_, fun h _ => h⟩
    cases hclause : clause.isEmpty with
    | true => exact hempty clause hclause
    | false => exact h hclause

theorem dateWhere_iff {ρ : Type} {query : InternalAdminPaginationQueryDto} {date : ρ → Millis}
    {row : ρ} : (∀ p ∈ dateWhere query date, p row = true) ↔ BetweenDates query (date row) := by
  unfold dateWhere BetweenDates
  split_ifs with hnone
  · simp only [Bool.and_eq_true, Option.isNone_iff_eq_none] at hnone
    simp [hnone]
  · simp [Option.all_eq_true]

theorem has_andWhere_of_ne {κ ρ : Type} [DecidableEq κ] {and k : κ} (hne : and ≠ k)
    (clauses : List (Where κ ρ)) : (andWhere and clauses).has k = false := by
  unfold andWhere
  dsimp only
  split_ifs
  · rfl
  · simp [hne]

/-- The `AND` beside parts that name none. -/
theorem meets_spreads_andWhere {κ ρ : Type} [DecidableEq κ] {and : κ} {clauses : List (Where κ ρ)}
    {ws : List (Where κ ρ)} {row : ρ} (hnone : ws.any (·.has and) = false) :
    (Where.spreads (andWhere and clauses :: ws)).meets row = true ↔
      (∀ clause ∈ clauses, clause.meets row = true) ∧ (Where.spreads ws).meets row = true := by
  have hname : ∀ field ∈ andWhere and clauses, ws.any (·.has field.1) = false := by
    intro field hfield
    unfold andWhere at hfield
    dsimp only at hfield
    split_ifs at hfield
    · cases hfield
    · rw [List.mem_singleton.mp hfield]
      exact hnone
  rw [Where.meets_spreads_cons, ← meets_andWhere,
    Where.meets_iff (w := andWhere and clauses)]
  exact and_congr_left fun _ => forall₂_congr fun field hfield => by simp [hname field hfield]

theorem meets_invitationMetadataScopeWhere :
    (invitationMetadataScopeWhere query).meets row = true ↔
      (∀ type ∈ query.scopeType, scopeMetadataIs "type" type.text row = true) ∧
        ∀ key ∈ supplied query.moduleKey, scopeMetadataIs "moduleKey" key row = true := by
  rw [invitationMetadataScopeWhere, meets_andWhere]
  simp

/-- The name of the field the expiry state asks by. -/
theorem has_invitationExpiryWhere {query : InternalAdminPaginationQueryDto} (k : InvitationField) :
    (invitationExpiryWhere now query).has k = true ↔
      k = .expiresAt ∧ query.expiryState = some .expired ∨
        k = .or ∧ query.expiryState = some .active := by
  unfold invitationExpiryWhere
  rcases query.expiryState with _ | _ | _ | _ <;> simp [eq_comm]

theorem meets_invitationExpiryWhere {query : InternalAdminPaginationQueryDto} :
    (invitationExpiryWhere now query).meets row = true ↔
      InExpiryState now query row.toInvitation := by
  unfold invitationExpiryWhere InExpiryState Invitation.lapsed
  rcases query.expiryState with _ | _ | _ | _
  · simp
  · cases hexpires : row.expiresAt <;> simp [Where.anyOf, Where.meets, hexpires]
  · simp
  · simp

/-- What the expiry state asks is asked beside the parts of the `AND`. -/
theorem meets_expiry_andWhere {query : InternalAdminPaginationQueryDto}
    {clauses : List InvitationWhereInput} :
    (Where.spreads [invitationExpiryWhere now query, andWhere .and clauses]).meets row = true ↔
      InExpiryState now query row.toInvitation ∧ ∀ clause ∈ clauses, clause.meets row = true := by
  rw [Where.meets_spreads_of_disjoint]
  · simp [meets_invitationExpiryWhere, meets_andWhere]
  · refine List.pairwise_pair.mpr fun field hfield => has_andWhere_of_ne ?_ _
    rintro hand
    have hhas : (invitationExpiryWhere now query).has .and = true :=
      List.any_eq_true.mpr ⟨field, hfield, by simp [hand]⟩
    simp [has_invitationExpiryWhere] at hhas

theorem matchesSearch_iff {query : InternalAdminPaginationQueryDto} :
    (∀ text, supplied query.search = some text → invitationSearch db text row = true) ↔
      MatchesSearch db query row := by
  refine forall₂_congr fun text _ => ?_
  simp [invitationSearch, Where.anyOf, Where.meets, Option.any_eq_true]

/-- **What `listInvitations` selects.** The role of the query takes the place of the internal
roles, and the expiry state `active` the place of the search. -/
theorem meets_invitationWhere : (invitationWhere db now query scopeWhere).meets row = true ↔
    (query.role = none → isInternalInvitation row.role = true) ∧
      (query.expiryState ≠ some .active →
        MatchesSearch db query.toInternalAdminPaginationQueryDto row) ∧
      scopeWhere.meets row = true ∧ InvitationFilters now query row := by
  have hand : ∀ k, InvitationField.and ≠ k → (andWhere .and [scopeWhere,
      .optional .organizationId ((supplied query.organizationId).map fun id row =>
        row.organizationId = some id), invitationMetadataScopeWhere query]).has k = false :=
    fun k hne => has_andWhere_of_ne hne _
  unfold invitationWhere createdAtWhere
  rw [Where.meets_spreads_field, Where.meets_spreads_optional, Where.meets_spreads_optional,
    Where.meets_spreads_optional, Where.meets_spreads_optional, Where.meets_spreads_optional]
  have hexpiry : ∀ k, k ≠ .expiresAt → k ≠ .or →
      (invitationExpiryWhere now query.toInternalAdminPaginationQueryDto).has k = false := by
    intro k hne hne'
    rw [Bool.eq_false_iff, ne_eq, has_invitationExpiryWhere]
    simp [hne, hne']
  have hor : (invitationExpiryWhere now query.toInternalAdminPaginationQueryDto).has .or = false ↔
      query.expiryState ≠ some .active := by
    rw [Bool.eq_false_iff, ne_eq, has_invitationExpiryWhere]
    simp
  have hdates := @dateWhere_iff _ query.toInternalAdminPaginationQueryDto
    StoredInvitation.createdAt row
  simp only [Option.mem_def] at hdates
  simp only [List.any_cons, Where.has_optional, reduceCtorEq, decide_false, Option.isSome_map,
    Bool.false_and, decide_true, Bool.true_and, ne_eq, not_false_eq_true, hexpiry, hand,
    List.any_nil, Bool.or_self, Bool.or_false, Bool.false_or, Option.isSome_eq_false_iff,
    Option.isNone_iff_eq_none, List.contains_eq_mem, decide_eq_true_eq, Where.meets_optional,
    Option.mem_def, Option.map_eq_some_iff, forall_exists_index, and_imp,
    forall_apply_eq_imp_iff₂, forall_const, hor, matchesSearch_iff, hdates, meets_expiry_andWhere,
    List.mem_cons, List.not_mem_nil, or_false, forall_eq_or_imp, forall_eq,
    meets_invitationMetadataScopeWhere]
  constructor
  · rintro ⟨hbase, hstatus, hrole, hinviter, hsearch, hdate, hstate, hscope, horg, htype, hkey⟩
    exact ⟨fun hnone => List.contains_iff_mem.mpr (hbase hnone), hsearch, hscope,
      hstatus, hrole, hinviter, hdate, hstate, horg, htype, hkey⟩
  · rintro ⟨hbase, hsearch, hscope, h⟩
    exact ⟨fun hnone => List.contains_iff_mem.mp (hbase hnone), h.status, h.role, h.inviter,
      hsearch, h.created, h.expiry, hscope, h.organization, h.scopeType, h.moduleKey⟩

/-- The rows a reader lists, or the refusal of one without any. -/
theorem invitationScopeWhere_eq_ok (h : invitationScopeWhere effective user = .ok scopeWhere) :
    scopeWhere.meets row = true ↔ InQueueScope effective user row.organizationId := by
  unfold invitationScopeWhere at h
  unfold InQueueScope
  split_ifs at h with hplatform hnone
  · obtain rfl := Except.ok.inj h
    simp [hplatform]
  · obtain rfl := Except.ok.inj h
    simp [hplatform, Option.any_eq_true, and_comm]

theorem invitationScopeWhere_eq_error {error : HttpError}
    (h : invitationScopeWhere effective user = .error error) (organizationId : Option String) :
    ¬ InQueueScope effective user organizationId := by
  unfold invitationScopeWhere at h
  split_ifs at h with hplatform hnone
  rw [List.isEmpty_iff] at hnone
  simp [InQueueScope, hplatform, hnone]

/-- What `listInvitations` answers. -/
theorem listInvitations_eq_ok {invitations : Table StoredInvitation.key}
    {envelope : PageEnvelope InvitationQueueItem} :
    listInvitations env now s invitations user db query = .ok envelope ↔
      hasPermission env now s user .internalAdminRead none = true ∧
        ∃ scopeWhere, invitationScopeWhere (effectivePermissionsForUser env now s user) user =
            .ok scopeWhere ∧
          readPage db.order invitations.rows (invitationWhere db now query scopeWhere)
            query.toInternalAdminPaginationQueryDto (safeInvitationQueueItem now) = envelope := by
  unfold listInvitations
  rw [check_bind_eq_ok, assertPermission_eq_ok]
  simp only [bind_eq_ok, pure_eq_ok]

/-- What `invitationDetail` answers. -/
theorem invitationDetail_eq_ok {invitations : Table StoredInvitation.key} {invitationId : String}
    {item : InvitationQueueItem} :
    invitationDetail env now s invitations user invitationId = .ok item ↔
      hasPermission env now s user .internalAdminRead none = true ∧
        ∃ row, invitations.find? invitationId = some row ∧
          isInternalInvitation row.role = true ∧
          canViewOrganizationScope (effectivePermissionsForUser env now s user) user
            row.organizationId = true ∧ safeInvitationQueueItem now row = item := by
  unfold invitationDetail
  simp only [check_bind_eq_ok, orThrow_bind_eq_ok, pure_eq_ok, assertPermission_eq_ok,
    throwIf_eq_ok, Bool.not_eq_false]

end FixZone.InternalAdminService
