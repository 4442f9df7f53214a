import FixZone.Library.Protocol
import FixZone.Users.Service
import FixZone.InternalAdmin.Service

/-!
# Resolving an invitation, step by step

Accepting, declining, cancelling and expiring, in both services, as calls whose database
steps interleave. Every one of them reads the status of the invitation first, and refuses
where it is not pending; every one of them writes the status later, whatever it is by then.
`UsersService.acceptInvitation` reads it again inside its transaction, which narrows the
gap and leaves one. So an invitation is resolved once exactly as long as every write finds
it pending, or resolved in the same way already (`resolved_once_iff`).

Beside the store there is a history that no step reads: which status was written, and for
whom an acceptance was. An acceptance is what gives a user the role, the membership or the
assignment of an invitation.
-/

namespace FixZone.UsersService

open Library Accounts
open ReportService (HttpError badRequest forbidden notFound)
open InternalAdminService (ProcessEnv Server InternalRoleDefinition)

/-! ### Calls -/

/-- How an invitation is withdrawn: by `cancelInvitation` or by `revokeInvitation`. -/
inductive Withdrawal where
  | cancelled | revoked
  deriving DecidableEq

/-- The status `cancelInvitation` writes. -/
def Withdrawal.status : Withdrawal → InvitationStatus
  | .cancelled => .cancelled
  | .revoked => .revoked

/-- The requests, with their actor as `JwtStrategy` has found them. -/
inductive InvitationRequest where
  | acceptInvitation (actor : User) (id : String)
  | declineInvitation (actor : User) (id : String)
  | cancelInvitation (actor : User) (id : String) (withdrawal : Withdrawal)
  | getMyInvitations (actor : User)
  | acceptInternalInvitation (actor : User) (id : String)

/-- The writes to invitations, with what they keep of what was read. -/
inductive InvitationWrite where
  | acceptance (current : User) (invitation : Invitation)
  | internalAcceptance (actor : User) (invitation : Invitation)
      (definition : InternalRoleDefinition)
  | declined (id : String)
  | withdrawn (id : String) (withdrawal : Withdrawal)
  | expired (id : String)
  | allExpired (ids : List String)

/-- A call: a request none of whose steps is made, or what is kept between two steps. -/
inductive InvitationCall where
  | request (request : InvitationRequest)
  | acceptFresh (actor : User) (invitation : Invitation)
  | acceptUser (actor : User) (invitation : Invitation)
  | write (write : InvitationWrite) (answer : Except HttpError Unit)

/-- What happens to an invitation: a status is written, or a user accepts it. -/
inductive InvitationHappening where
  | resolved (id : String) (status : InvitationStatus)
  | obtained (id userId : String)
  deriving DecidableEq

namespace InvitationWrite

/-- The invitations that are written. -/
def ids : InvitationWrite → List String
  | acceptance _ invitation | internalAcceptance _ invitation _ => [invitation.id]
  | declined id | withdrawn id _ | expired id => [id]
  | allExpired ids => ids

/-- The status they get. -/
def status : InvitationWrite → InvitationStatus
  | acceptance .. | internalAcceptance .. => .accepted
  | declined _ => .declined
  | withdrawn _ withdrawal => withdrawal.status
  | expired _ | allExpired _ => .expired

/-- The user who accepts. -/
def userId? : InvitationWrite → Option String
  | acceptance user _ | internalAcceptance user _ _ => some user.id
  | _ => none

/-- What happens with it. -/
def happenings (write : InvitationWrite) : List InvitationHappening :=
  write.ids.map (.resolved · write.status) ++
    write.userId?.toList.flatMap fun userId => write.ids.map (.obtained · userId)

theorem status_ne_pending (write : InvitationWrite) : write.status ≠ .pending := by
  cases write with
  | withdrawn id withdrawal => cases withdrawal <;> simp [status, Withdrawal.status]
  | _ => simp [status]

theorem status_eq_accepted_iff (write : InvitationWrite) :
    write.status = .accepted ↔ ∃ userId, write.userId? = some userId := by
  cases write with
  | withdrawn id withdrawal => cases withdrawal <;> simp [status, Withdrawal.status, userId?]
  | _ => simp [status, userId?]

end InvitationWrite

/-- What is stored, and what has happened. -/
structure InvitationWorld where
  store : Store
  history : List InvitationHappening

/-- What a step finds: the clock and the id of a new row. -/
structure InvitationInput where
  now : Millis
  newId : String := ""

/-! ### What is written -/

/-- The columns of the user, from what the transaction has read of them. -/
@[simp] def readInviteeData (current : User) (invitation : Invitation) : Patch User.id where
  apply row := { row with
    accountStatus := if current.accountStatus = .suspended then .suspended else .active
    organizationId :=
      if truthy invitation.organizationId ∧ providerMembershipOnly current invitation = false then
        invitation.organizationId
      else row.organizationId
    role :=
      if current.role ≠ .superAdmin ∧ providerMembershipOnly current invitation = false then
        invitation.role else row.role }

/-- The columns of the invitation, from what `acceptInvitation` has read of it. -/
@[simp] def readAcceptedData (now : Millis) (user : User) (invitation : Invitation) :
    Patch Invitation.id where
  apply row := { row with
    status := .accepted
    acceptedAt := some now
    acceptedUserId := some user.id
    metadata := some (withField invitation.metadata "acceptedUserRole" (.str user.role.text)) }

/-- The writes of the transaction of `acceptInvitation`. -/
def commitAcceptance (now : Millis) (s : Store) (current : User) (invitation : Invitation) :
    Except HttpError Store := do
  let row ← orThrow (s.user? current.id) missingRowError
  throwIf (truthy invitation.organizationId ∧
    (invitation.organizationId.bind s.organization?).isNone) missingRowError
  throwIf (s.invitation? invitation.id).isNone missingRowError
  let data := readInviteeData current invitation
  return (upsertMembership (s.updateUser current.id data) current invitation).updateInvitation
    invitation.id (readAcceptedData now (data.apply row) invitation)

/-- The transaction of `InternalAdminService.acceptInvitation`. -/
def commitInternal (server : Server) (s : Store) (actor : User) (invitation : Invitation)
    (definition : InternalRoleDefinition) : Except HttpError Store := do
  throwIf (s.user? actor.id).isNone missingRowError
  checkOrganization s (InternalAdminService.invitationScope invitation).organizationId
  throwIf (s.assignments.find? server.newId).isSome uniqueError
  throwIf (s.invitation? invitation.id).isNone missingRowError
  return InternalAdminService.acceptedStore server s actor invitation definition

/-- `invitation.update`. -/
def writeInvitation (s : Store) (id : String) (data : Patch Invitation.id) :
    Except HttpError Store := do
  throwIf (s.invitation? id).isNone missingRowError
  return s.updateInvitation id data

/-- `invitation.updateMany` of `getMyInvitations`. -/
def expireAll (s : Store) (ids : List String) : Store :=
  { s with invitations := s.invitations.modifyWhere (fun row => ids.contains row.id) expiredData }

/-- The write to the database. -/
def InvitationWrite.perform (env : ProcessEnv) (input : InvitationInput) (s : Store) :
    InvitationWrite → Except HttpError Store
  | acceptance current invitation => commitAcceptance input.now s current invitation
  | internalAcceptance actor invitation definition =>
      commitInternal { env, now := input.now, newId := input.newId } s actor invitation definition
  | declined id => writeInvitation s id (declinedData input.now)
  | withdrawn id withdrawal => writeInvitation s id (cancelledData input.now withdrawal.status)
  | expired id => writeInvitation s id expiredData
  | allExpired ids => .ok (expireAll s ids)

/-! ### Steps -/

/-- What a step makes of the world, and of its call. -/
abbrev InvitationStep := InvitationWorld × Next InvitationCall (Except HttpError Unit)

section Steps

variable (env : ProcessEnv) (input : InvitationInput) (w : InvitationWorld)

/-- A step that throws. -/
def refuse (error : HttpError) : InvitationStep := (w, .returns (.error error))

/-- A step after which the call writes, and answers. -/
def goWrite (write : InvitationWrite) (answer : Except HttpError Unit) : InvitationStep :=
  (w, .goesOn (.write write answer))

/-- What `acceptInvitation` and `declineInvitation` read and check first. An invitation that is
`settled` is answered at once; from one that is open they go on. -/
def inviteeStep (actor : User) (id : String) (settled : Invitation → Bool)
    (go : Invitation → InvitationStep) : InvitationStep :=
  match w.store.invitation? id with
  | none => refuse w (invitationNotFound .notFound)
  | some invitation =>
    if inviteeMatches invitation actor = false then refuse w invitationNotOwned
    else if invitation.status ≠ .pending then
      if settled invitation then (w, .returns (.ok ⟨⟩))
      else refuse w (resolvedError invitation.status)
    else if invitation.lapsed input.now then goWrite w (.expired id) (.error invitationExpired)
    else go invitation

/-- What `cancelInvitation` reads and checks. -/
def cancelStep (actor : User) (id : String) (withdrawal : Withdrawal) : InvitationStep :=
  orThrows w (scopedInvitation w.store actor id) fun invitation =>
    if invitation.status ≠ .pending then refuse w alreadyResolved
    else goWrite w (.withdrawn id withdrawal) (.ok ⟨⟩)

/-- The rows `getMyInvitations` reads, by `inviteeFilters`. -/
def myInvitations (s : Store) (actor : User) : List Invitation :=
  let email := trimmedOrNull (actor.email.map toLowerCase)
  let phone := trimmedOrNull actor.phone
  s.invitations.rows.filter fun row => row.status = .pending &&
    (email.isSome && row.email = email || phone.isSome && row.phone = phone)

/-- What `getMyInvitations` reads, and whether it finds some that have run out. -/
def myInvitationsStep (actor : User) : InvitationStep :=
  let expiredIds := ((myInvitations w.store actor).filter (·.lapsed input.now)).map (·.id)
  if expiredIds = [] then (w, .returns (.ok ⟨⟩)) else goWrite w (.allExpired expiredIds) (.ok ⟨⟩)

/-- What `InternalAdminService.acceptInvitation` reads and checks. -/
def internalStep (actor : User) (id : String) : InvitationStep :=
  match w.store.invitation? id with
  | none => refuse w (notFound "Invitation not found")
  | some invitation =>
    if invitation.status ≠ .pending then refuse w (badRequest "Invitation is no longer pending.")
    else if invitation.lapsed input.now then
      goWrite w (.expired id) (.error (badRequest "Invitation has expired."))
    else if truthy invitation.email ∧ truthy actor.email ∧
        invitation.email.map toLowerCase ≠ actor.email.map toLowerCase then
      refuse w (forbidden "Invitation is not assigned to this user.")
    else
      orThrows w (InternalAdminService.requireEnabledRole env invitation.role) fun definition =>
        goWrite w (.internalAcceptance actor invitation definition) (.ok ⟨⟩)

/-- The first step of a request. -/
def invitationRequestStep : InvitationRequest → InvitationStep
  | .acceptInvitation actor id =>
      inviteeStep input w actor id
        (fun invitation => invitation.status = .accepted &&
          invitation.acceptedUserId = some actor.id)
        fun invitation => (w, .goesOn (.acceptFresh actor invitation))
  | .declineInvitation actor id =>
      inviteeStep input w actor id (fun invitation => invitation.status = .declined)
        fun _ => goWrite w (.declined id) (.ok ⟨⟩)
  | .cancelInvitation actor id withdrawal => cancelStep w actor id withdrawal
  | .getMyInvitations actor => myInvitationsStep input w actor
  | .acceptInternalInvitation actor id => internalStep env input w actor id

/-- The first step of the transaction of `acceptInvitation`. What it writes to an invitation that
has run out is rolled back by what it throws. -/
def acceptFreshStep (actor : User) (invitation : Invitation) : InvitationStep :=
  match w.store.invitation? invitation.id with
  | none => refuse w missingRowError
  | some fresh =>
    if fresh.status ≠ .pending then refuse w alreadyResolved
    else if fresh.lapsed input.now then refuse w invitationExpired
    else (w, .goesOn (.acceptUser actor invitation))

/-- The next step of a call. -/
def invitationAdvance : InvitationCall → InvitationStep
  | .request request => invitationRequestStep env input w request
  | .acceptFresh actor invitation => acceptFreshStep input w actor invitation
  | .acceptUser actor invitation =>
      orThrows w (orThrow (w.store.user? actor.id) missingRowError) fun current =>
        goWrite w (.acceptance current invitation) (.ok ⟨⟩)
  | .write write answer =>
      orThrows w (write.perform env input w.store) fun s =>
        (⟨s, write.happenings ++ w.history⟩, .returns answer)

end Steps

/-- The interleavings of these calls. -/
def invitationProtocol (env : ProcessEnv) : Protocol InvitationWorld InvitationRequest
    InvitationCall InvitationInput (Except HttpError Unit) where
  init := .request
  advance input call w := invitationAdvance env input w call

/-- What is known of an invitation that was resolved before. -/
def pastOf (row : Invitation) : List InvitationHappening :=
  if row.status = .pending then []
  else .resolved row.id row.status :: (if row.status = .accepted then
    row.acceptedUserId.toList.map (.obtained row.id) else [])

/-- A store before the run: what its invitations have been through has happened. -/
def InvitationWorld.start (s : Store) : InvitationWorld :=
  ⟨s, s.invitations.rows.flatMap pastOf⟩

/-! ### Resolved once -/

/-- Every invitation has kept the status it was resolved to, and a user has obtained it if and only
if it is accepted by that user. -/
structure ResolvedOnce (w : InvitationWorld) : Prop where
  status : ∀ id row, w.store.invitation? id = some row →
    ∀ status, .resolved id status ∈ w.history → row.status = status
  obtained : ∀ id row, w.store.invitation? id = some row →
    ∀ userId, .obtained id userId ∈ w.history ↔
      row.status = .accepted ∧ row.acceptedUserId = some userId

/-- Every write that goes through finds its invitations pending, or with the status it writes, and
accepted by nobody else. -/
def FindsOpen (env : ProcessEnv) (input : InvitationInput) (call : InvitationCall)
    (w : InvitationWorld) : Prop :=
  match call with
  | .write write _ => (∃ s, write.perform env input w.store = .ok s) →
      ∀ id ∈ write.ids, ∀ row, w.store.invitation? id = some row →
        row.status = .pending ∨ row.status = write.status ∧
          ∀ userId, write.userId? = some userId →
            ∀ other, row.acceptedUserId = some other → other = userId
  | _ => True

/-- What is recorded: the status of every invitation that is resolved, and never that one is open
again. -/
structure StatusRecorded (w : InvitationWorld) : Prop where
  resolved : ∀ id row, w.store.invitation? id = some row → row.status ≠ .pending →
    .resolved id row.status ∈ w.history
  closed : ∀ id status, .resolved id status ∈ w.history → status ≠ .pending

variable {env : ProcessEnv} {input : InvitationInput} {w : InvitationWorld} {s s' : Store}

/-! ### What the steps do -/

/-- What a write makes of the invitations: those it is about get its status and its user, the
others stay as they are. -/
structure Writes (write : InvitationWrite) (f : Invitation → Invitation) (s s' : Store) : Prop where
  status : ∀ row, (f row).status = write.status
  userId : ∀ row, (f row).acceptedUserId = (write.userId? <|> row.acceptedUserId)
  rows : ∀ id, s'.invitation? id =
    if id ∈ write.ids then (s.invitation? id).map f else s.invitation? id

/-- The rows after an update of one of them. -/
theorem invitation?_updateInvitation (s : Store) (own : String) (data : Patch Invitation.id)
    (id : String) : (s.updateInvitation own data).invitation? id =
      if id ∈ [own] then (s.invitation? id).map data.apply else s.invitation? id := by
  unfold Store.invitation? Store.updateInvitation
  rw [Table.find?_modify]
  simp only [List.mem_singleton]

theorem writeInvitation_writes {write : InvitationWrite} {id : String} {data : Patch Invitation.id}
    (hids : write.ids = [id]) (hstatus : ∀ row, (data.apply row).status = write.status)
    (huser : ∀ row, (data.apply row).acceptedUserId = (write.userId? <|> row.acceptedUserId))
    (h : writeInvitation s id data = .ok s') : Writes write data.apply s s' := by
  unfold writeInvitation at h
  obtain ⟨-, h⟩ := throwIf_bind_eq_ok.mp h
  rw [← pure_eq_ok.mp h]
  exact ⟨hstatus, huser, fun other => by rw [hids, invitation?_updateInvitation]⟩

theorem commitAcceptance_writes {current : User} {invitation : Invitation}
    (h : commitAcceptance input.now s current invitation = .ok s') :
    ∃ f, Writes (.acceptance current invitation) f s s' := by
  unfold commitAcceptance at h
  obtain ⟨row, hrow, h⟩ := orThrow_bind_eq_ok.mp h
  obtain ⟨-, h⟩ := throwIf_bind_eq_ok.mp h
  obtain ⟨-, h⟩ := throwIf_bind_eq_ok.mp h
  rw [← pure_eq_ok.mp h]
  obtain ⟨memberships, hstore⟩ := upsertMembership_eq
    (s.updateUser current.id (readInviteeData current invitation)) current invitation
  refine ⟨(readAcceptedData input.now ((readInviteeData current invitation).apply row)
    invitation).apply, fun _ => rfl, fun _ => ?_, fun id => ?_⟩
  · have hid : row.id = current.id := Table.key_of_find? hrow
    simp [InvitationWrite.userId?, hid]
  · rw [invitation?_updateInvitation, hstore]
    rfl

theorem commitInternal_writes {server : Server} {actor : User} {invitation : Invitation}
    {definition : InternalRoleDefinition}
    (h : commitInternal server s actor invitation definition = .ok s') :
    ∃ f, Writes (.internalAcceptance actor invitation definition) f s s' := by
  unfold commitInternal at h
  obtain ⟨-, h⟩ := throwIf_bind_eq_ok.mp h
  obtain ⟨-, h⟩ := check_bind_eq_ok.mp h
  obtain ⟨-, h⟩ := throwIf_bind_eq_ok.mp h
  obtain ⟨-, h⟩ := throwIf_bind_eq_ok.mp h
  rw [← pure_eq_ok.mp h]
  refine ⟨(InternalAdminService.acceptedData server.now actor.id).apply, fun _ => rfl,
    fun _ => rfl, fun id => ?_⟩
  rw [InternalAdminService.acceptedStore, invitation?_updateInvitation]
  rfl

theorem expireAll_writes (s : Store) (ids : List String) :
    Writes (.allExpired ids) expiredData.apply s (expireAll s ids) where
  status _ := rfl
  userId _ := rfl
  rows id := by
    unfold expireAll Store.invitation?
    rw [Table.find?_modifyWhere]
    cases hrow : s.invitations.find? id with
    | none => simp
    | some row =>
      have hid : row.id = id := Table.key_of_find? hrow
      by_cases hmem : id ∈ ids
      · simp [hid, hmem, InvitationWrite.ids]
      · simp [hid, hmem, InvitationWrite.ids]

theorem perform_writes {write : InvitationWrite} (h : write.perform env input s = .ok s') :
    ∃ f, Writes write f s s' := by
  cases write with
  | acceptance current invitation => exact commitAcceptance_writes h
  | internalAcceptance actor invitation definition => exact commitInternal_writes h
  | declined id => exact ⟨_, writeInvitation_writes rfl (fun _ => rfl) (fun _ => rfl) h⟩
  | withdrawn id withdrawal =>
    exact ⟨_, writeInvitation_writes rfl (fun _ => rfl) (fun _ => rfl) h⟩
  | expired id => exact ⟨_, writeInvitation_writes rfl (fun _ => rfl) (fun _ => rfl) h⟩
  | allExpired ids =>
    rw [← Except.ok.inj h]
    exact ⟨_, expireAll_writes s ids⟩

theorem inviteeStep_reads (actor : User) (id : String) (settled : Invitation → Bool)
    {go : Invitation → InvitationStep} (hgo : ∀ invitation, (go invitation).1 = w) :
    (inviteeStep input w actor id settled go).1 = w := by
  unfold inviteeStep
  split
  · rfl
  · next invitation _ =>
    split
    · rfl
    · split
      · split <;> rfl
      · split
        · rfl
        · exact hgo invitation

theorem internalStep_reads (actor : User) (id : String) :
    (internalStep env input w actor id).1 = w := by
  unfold internalStep
  split
  · rfl
  · split
    · rfl
    · split
      · rfl
      · split
        · rfl
        · exact orThrows_state (P := (· = w)) rfl fun _ _ => rfl

theorem invitationRequestStep_reads (request : InvitationRequest) :
    (invitationRequestStep env input w request).1 = w := by
  cases request with
  | acceptInvitation actor id => exact inviteeStep_reads actor id _ fun _ => rfl
  | declineInvitation actor id => exact inviteeStep_reads actor id _ fun _ => rfl
  | cancelInvitation actor id withdrawal =>
    refine orThrows_state (P := (· = w)) rfl fun invitation _ => ?_
    split <;> rfl
  | getMyInvitations actor =>
    unfold invitationRequestStep myInvitationsStep
    dsimp only
    split <;> rfl
  | acceptInternalInvitation actor id => exact internalStep_reads actor id

/-- Where a call does not write, the world stays as it is. -/
theorem invitationAdvance_reads {call : InvitationCall}
    (hcall : ∀ write answer, call ≠ .write write answer) :
    (invitationAdvance env input w call).1 = w := by
  cases call with
  | request request => exact invitationRequestStep_reads request
  | acceptFresh actor invitation =>
    unfold invitationAdvance acceptFreshStep
    dsimp only
    split
    · rfl
    · split
      · rfl
      · split <;> rfl
  | acceptUser actor invitation => exact orThrows_state (P := (· = w)) rfl fun _ _ => rfl
  | write write answer => exact absurd rfl (hcall write answer)

/-! ### Resolving once -/

theorem mem_happenings_resolved {write : InvitationWrite} {id : String}
    {status : InvitationStatus} :
    .resolved id status ∈ write.happenings ↔ id ∈ write.ids ∧ status = write.status := by
  simp [InvitationWrite.happenings, eq_comm]

theorem mem_happenings_obtained {write : InvitationWrite} {id userId : String} :
    .obtained id userId ∈ write.happenings ↔ id ∈ write.ids ∧ write.userId? = some userId := by
  simp [InvitationWrite.happenings]
  tauto

theorem StatusRecorded.write {write : InvitationWrite} {f : Invitation → Invitation}
    (h : StatusRecorded w) (hwrites : Writes write f w.store s') :
    StatusRecorded ⟨s', write.happenings ++ w.history⟩ := by
  constructor
  · intro id row' hrow hstatus
    dsimp only at hrow
    rw [hwrites.rows] at hrow
    split at hrow
    · next hmem =>
      obtain ⟨row, hbefore, rfl⟩ := Option.map_eq_some_iff.mp hrow
      exact List.mem_append_left _ (mem_happenings_resolved.mpr ⟨hmem, hwrites.status row⟩)
    · exact List.mem_append_right _ (h.resolved id row' hrow hstatus)
  · intro id status hmem
    rcases List.mem_append.mp hmem with hnew | hold
    · rw [(mem_happenings_resolved.mp hnew).2]
      exact write.status_ne_pending
    · exact h.closed id status hold

/-- Who has obtained an invitation after a write that finds it open, or accepted by the same
user. -/
theorem obtained_iff {write : InvitationWrite} {row : Invitation} {id userId : String}
    (hid : id ∈ write.ids)
    (hopen : row.status = .pending ∨ row.status = write.status ∧
      ∀ userId, write.userId? = some userId →
        ∀ other, row.acceptedUserId = some other → other = userId) :
    (id ∈ write.ids ∧ write.userId? = some userId ∨
        row.status = .accepted ∧ row.acceptedUserId = some userId) ↔
      write.status = .accepted ∧ (write.userId? <|> row.acceptedUserId) = some userId := by
  cases huser : write.userId? with
  | some accepting =>
    have haccepted : write.status = .accepted := write.status_eq_accepted_iff.mpr ⟨_, huser⟩
    rw [and_iff_right hid, and_iff_right haccepted]
    refine or_iff_left_of_imp fun ⟨hrow, hrowUser⟩ => ?_
    rcases hopen with hpending | ⟨-, hsame⟩
    · rw [hrow] at hpending
      cases hpending
    · rw [hsame accepting huser userId hrowUser]
  | none =>
    have hnot : write.status ≠ .accepted := by
      intro haccepted
      obtain ⟨accepting, hsome⟩ := write.status_eq_accepted_iff.mp haccepted
      rw [huser] at hsome
      cases hsome
    refine iff_of_false ?_ fun h => hnot h.1
    rintro (⟨-, hsome⟩ | ⟨hrow, -⟩)
    · cases hsome
    · rcases hopen with hpending | ⟨hsame, -⟩
      · rw [hrow] at hpending
        cases hpending
      · exact hnot (hsame.symm.trans hrow)

/-- A write keeps every invitation resolved once if and only if it finds those it is about open, or
resolved in the same way. -/
theorem resolvedOnce_write {write : InvitationWrite} {f : Invitation → Invitation}
    (h : StatusRecorded w) (honce : ResolvedOnce w) (hwrites : Writes write f w.store s') :
    ResolvedOnce ⟨s', write.happenings ++ w.history⟩ ↔
      ∀ id ∈ write.ids, ∀ row, w.store.invitation? id = some row →
        row.status = .pending ∨ row.status = write.status ∧
          ∀ userId, write.userId? = some userId →
            ∀ other, row.acceptedUserId = some other → other = userId := by
  constructor
  · intro hafter id hmem row hrow
    have hrow' : s'.invitation? id = some (f row) := by
      rw [hwrites.rows, if_pos hmem, hrow, Option.map_some]
    refine or_iff_not_imp_left.mpr fun hresolved => ?_
    have hsame := hafter.status id (f row) hrow' row.status
      (List.mem_append_right _ (h.resolved id row hrow hresolved))
    rw [hwrites.status] at hsame
    refine ⟨hsame.symm, fun userId huser other hother => ?_⟩
    have haccepted : row.status = .accepted := by
      rw [← hsame]
      exact write.status_eq_accepted_iff.mpr ⟨userId, huser⟩
    have hobtained := (hafter.obtained id (f row) hrow' other).mp
      (List.mem_append_right _ ((honce.obtained id row hrow other).mpr ⟨haccepted, hother⟩))
    rw [hwrites.userId, huser] at hobtained
    exact (Option.some.inj hobtained.2).symm
  · intro hopen
    constructor
    · intro id row' hrow status hmem
      dsimp only at hrow
      rw [hwrites.rows] at hrow
      split at hrow
      · next hid =>
        obtain ⟨row, hbefore, rfl⟩ := Option.map_eq_some_iff.mp hrow
        rw [hwrites.status]
        rcases List.mem_append.mp hmem with hnew | hold
        · exact (mem_happenings_resolved.mp hnew).2.symm
        · have hstatus := honce.status id row hbefore status hold
          rcases hopen id hid row hbefore with hpending | ⟨hsame, -⟩
          · exact absurd (hstatus.symm.trans hpending) (h.closed id status hold)
          · exact hsame.symm.trans hstatus
      · next hid =>
        rcases List.mem_append.mp hmem with hnew | hold
        · exact absurd (mem_happenings_resolved.mp hnew).1 hid
        · exact honce.status id row' hrow status hold
    · intro id row' hrow userId
      dsimp only at hrow ⊢
      rw [hwrites.rows] at hrow
      rw [List.mem_append, mem_happenings_obtained]
      split at hrow
      · next hid =>
        obtain ⟨row, hbefore, rfl⟩ := Option.map_eq_some_iff.mp hrow
        rw [honce.obtained id row hbefore, hwrites.status, hwrites.userId]
        exact obtained_iff hid (hopen id hid row hbefore)
      · next hid =>
        rw [or_iff_right fun h => hid h.1]
        exact honce.obtained id row' hrow userId

theorem resolvedOnce_advance (call : InvitationCall) (h : StatusRecorded w)
    (honce : ResolvedOnce w) :
    ResolvedOnce (invitationAdvance env input w call).1 ↔ FindsOpen env input call w := by
  cases call with
  | write write answer =>
    unfold invitationAdvance FindsOpen
    dsimp only
    cases hperform : write.perform env input w.store with
    | error e =>
      refine iff_of_true honce fun hok => ?_
      obtain ⟨s, hok⟩ := hok
      cases hok
    | ok s =>
      obtain ⟨f, hwrites⟩ := perform_writes hperform
      refine (resolvedOnce_write h honce hwrites).trans ?_
      exact ⟨fun hopen _ => hopen, fun hopen => hopen ⟨s, rfl⟩⟩
  | _ =>
    rw [invitationAdvance_reads (by simp)]
    exact iff_of_true honce trivial

theorem StatusRecorded.advance (call : InvitationCall) (h : StatusRecorded w) :
    StatusRecorded (invitationAdvance env input w call).1 := by
  cases call with
  | write write answer =>
    refine orThrows_state (P := StatusRecorded) h fun s hperform => ?_
    obtain ⟨f, hwrites⟩ := perform_writes hperform
    exact h.write hwrites
  | _ => rwa [invitationAdvance_reads (by simp)]

theorem mem_start_resolved {id : String} {status : InvitationStatus} :
    .resolved id status ∈ (InvitationWorld.start s).history ↔
      ∃ row, s.invitation? id = some row ∧ row.status ≠ .pending ∧ status = row.status := by
  unfold InvitationWorld.start pastOf
  rw [List.mem_flatMap]
  constructor
  · rintro ⟨row, hmem, hpast⟩
    split at hpast
    · cases hpast
    · next hresolved =>
      rcases List.mem_cons.mp hpast with heq | hpast
      · cases heq
        exact ⟨row, Table.mem_rows_iff.mp hmem, hresolved, rfl⟩
      · split at hpast
        · simp at hpast
        · cases hpast
  · rintro ⟨row, hrow, hresolved, rfl⟩
    obtain rfl : row.id = id := Table.key_of_find? hrow
    exact ⟨row, Table.mem_of_find? hrow, by rw [if_neg hresolved]; exact List.mem_cons_self⟩

theorem mem_start_obtained {id userId : String} :
    .obtained id userId ∈ (InvitationWorld.start s).history ↔
      ∃ row, s.invitation? id = some row ∧ row.status = .accepted ∧
        row.acceptedUserId = some userId := by
  unfold InvitationWorld.start pastOf
  rw [List.mem_flatMap]
  constructor
  · rintro ⟨row, hmem, hpast⟩
    split at hpast
    · cases hpast
    · rcases List.mem_cons.mp hpast with heq | hpast
      · cases heq
      · split at hpast
        · next haccepted =>
          obtain ⟨user, huser, heq⟩ := List.mem_map.mp hpast
          cases heq
          exact ⟨row, Table.mem_rows_iff.mp hmem, haccepted, Option.mem_toList.mp huser⟩
        · cases hpast
  · rintro ⟨row, hrow, haccepted, huser⟩
    obtain rfl : row.id = id := Table.key_of_find? hrow
    refine ⟨row, Table.mem_of_find? hrow, ?_⟩
    simp [haccepted, huser]

theorem start_statusRecorded (s : Store) : StatusRecorded (.start s) := by
  constructor
  · intro id row hrow hresolved
    exact mem_start_resolved.mpr ⟨row, hrow, hresolved, rfl⟩
  · intro id status hmem
    obtain ⟨row, -, hresolved, rfl⟩ := mem_start_resolved.mp hmem
    exact hresolved

theorem start_resolvedOnce (s : Store) : ResolvedOnce (.start s) := by
  constructor
  · intro id row hrow status hmem
    obtain ⟨found, hfound, -, rfl⟩ := mem_start_resolved.mp hmem
    obtain rfl := Option.some.inj (hrow.symm.trans hfound)
    rfl
  · intro id row hrow userId
    rw [mem_start_obtained]
    constructor
    · rintro ⟨found, hfound, haccepted⟩
      obtain rfl := Option.some.inj (hrow.symm.trans hfound)
      exact haccepted
    · exact fun haccepted => ⟨row, hrow, haccepted⟩

/-- **An invitation is resolved once.** Over all interleavings of the requests, every invitation
keeps the status it was resolved to, and a user obtains it if and only if it is accepted by that
user, exactly as long as every write finds it pending, or resolved in the same way. -/
theorem resolved_once_iff (env : ProcessEnv) (s : Store) {ι : Type} [DecidableEq ι]
    (turns : List (Turn ι InvitationRequest InvitationInput)) :
    Throughout (invitationProtocol env).step (fun st => ResolvedOnce st.state)
        (.quiet (.start s)) turns ↔
      Along (invitationProtocol env).step (Calls.StepMeets (FindsOpen env))
        (.quiet (.start s)) turns :=
  (invitationProtocol env).throughout_iff (G := StatusRecorded) (L := fun _ _ => True)
    (I := ResolvedOnce) (Q := FindsOpen env) (fun _ _ _ => trivial)
    (fun _ call _ hG _ _ _ => hG.advance call) (fun _ _ _ _ _ _ _ => trivial)
    (fun _ _ _ _ _ _ _ => trivial) (fun _ call _ hG _ hI => resolvedOnce_advance call hG hI)
    (start_statusRecorded s) (start_resolvedOnce s) turns

/-! ### Accepted and cancelled -/

namespace Example

/-- Someone of the legal department. -/
def accepting : User := { id := "helper", email := some "helper@fixzone.ng", role := .legalAdmin }

def cancelling : User := { id := "super", role := .superAdmin }

def offered : Invitation where
  id := "offered"
  email := some "helper@fixzone.ng"
  role := .supportAdmin
  invitedById := "super"

def offeringStore : Store :=
  { Store.ofUsers ⟨[accepting, cancelling], by decide⟩ (Table.empty _) with
    invitations := ⟨[offered], List.nodup_singleton _⟩ }

/-- The invitation is accepted between the two steps of `cancelInvitation`. -/
def cancelsAccepted : List (Turn ℕ InvitationRequest InvitationInput) :=
  [.start 0 (.acceptInternalInvitation accepting "offered"), .advance 0 { now := 0 },
    .start 1 (.cancelInvitation cancelling "offered" .cancelled), .advance 1 { now := 0 },
    .advance 0 { now := 0, newId := "assignment" }, .advance 1 { now := 0 }]

end Example

open Example in
/-- An invitation that was accepted is cancelled, and its user keeps the role. -/
theorem accepted_invitation_cancelled : ¬ ∀ (env : ProcessEnv) (s : Store)
    (turns : List (Turn ℕ InvitationRequest InvitationInput)),
    Throughout (invitationProtocol env).step (fun st => ResolvedOnce st.state)
      (.quiet (.start s)) turns := by
  intro h
  have hlast := throughout_iff.mp (h (fun _ => none) offeringStore cancelsAccepted)
    cancelsAccepted [] (List.append_nil _).symm
  have hstatus : ((run (invitationProtocol fun _ => none).step (.quiet (.start offeringStore))
      cancelsAccepted).state.store.invitation? "offered").map (·.status) = some .cancelled := by
    decide +kernel
  have haccepted : .resolved "offered" .accepted ∈ (run (invitationProtocol fun _ => none).step
      (.quiet (.start offeringStore)) cancelsAccepted).state.history := by
    decide +kernel
  obtain ⟨row, hrow, hcancelled⟩ := Option.map_eq_some_iff.mp hstatus
  have hkept := hlast.status "offered" row hrow .accepted haccepted
  rw [hcancelled] at hkept
  cases hkept

end FixZone.UsersService
