import FixZone.Users.Administration

/-!
# The quotas of an organization

An organization is allowed so many users and so many providers. `inviteUser` asks whether
there is room, and nobody is counted for an invitation: the users come with the
acceptances, and with the approvals and edits of administrators, none of which asks. So
the quotas are kept in exactly the runs in which nobody is brought into a full
organization (`quotas_kept_iff`).
-/

namespace FixZone.UsersService

open Library Accounts
open ReportService (HttpError forbidden)

/-! ### The operations -/

/-- The columns of a provider whose request is approved. -/
@[simp] def approvedData (providerId : String) : Patch User.id where
  apply row := { row with
    role := .provider
    accountStatus := .active
    providerId := some providerId }

/-- A membership is made active, and made if there is none. -/
def activateMembership (s : Store) (providerId organizationId : String) (isPrimary : Bool) :
    Store :=
  { s with
    memberships := s.memberships.upsert ⟨providerId, organizationId, true, isPrimary⟩
      (membershipData isPrimary) }

/-- That of a provider in an organization, if there is one to join. -/
def joinOrganization (s : Store) (providerId : String) (joined : Option String)
    (isPrimary : Bool) : Store :=
  match joined with
  | some organizationId => activateMembership s providerId organizationId isPrimary
  | none => s

/-- `approveProviderRequest`, with the id for a provider who has none. -/
def approveProviderRequest (newProviderId : String) (s : Store) (user : User) (id : String) :
    Except HttpError (Store × PUnit) := do
  let existing ← getUser s user id
  throwIf (existing.role ≠ .pendingProvider) (forbidden "User is not a pending provider request")
  let providerId := existing.providerId.getD newProviderId
  throwIf (uniqueFor s id User.providerId (some (some providerId)) = false) uniqueError
  return (joinOrganization (s.updateUser id (approvedData providerId)) id
    (existing.organizationId.filter (· ≠ "")) true, ⟨⟩)

/-- `updateUser`. -/
def updateUser (s : Store) (user : User) (id : String) (dto : UpdateUserDto) :
    Except HttpError (Store × PUnit) := do
  let data ← updateUserInput s user id dto
  let updated ← writeUserUpdate s id data
  return (updated, ⟨⟩)

/-- What is asked of the service. -/
inductive AccountRequest where
  | inviteUser (dto : InviteUserDto)
  | acceptInvitation (invitationId : String)
  | approveProviderRequest (id : String)
  | updateUser (id : String) (dto : UpdateUserDto)

/-- A request, the user whose token it comes with, the clock, and the id of what is new. -/
structure AccountCall where
  actorId : String
  request : AccountRequest
  now : Millis
  newId : String

/-- The store after a call. -/
def handle (call : AccountCall) (s : Store) : Store :=
  match validate s call.actorId with
  | none => s
  | some user =>
    match call.request with
    | .inviteUser dto => (commit s (inviteUser call.now call.newId s user dto)).store
    | .acceptInvitation invitationId => (acceptInvitation call.now s user invitationId).store
    | .approveProviderRequest id => (commit s (approveProviderRequest call.newId s user id)).store
    | .updateUser id dto => (commit s (updateUser s user id dto)).store

/-! ### What is counted -/

/-- The provider is an active member of the organization. -/
def isActiveMember (s : Store) (providerId organizationId : String) : Bool :=
  s.memberships.rows.any fun membership => membership.providerId = providerId &&
    membership.active && membership.organizationId = organizationId

/-- `enforceUserQuota` counts the user. -/
def countsAsUser (organizationId : String) (row : User) : Bool :=
  row.organizationId = some organizationId

/-- `enforceProviderQuota` counts the user. -/
def countsAsProvider (organizationId : String) (s : Store) (row : User) : Bool :=
  row.role = .provider &&
    (row.organizationId = some organizationId || isActiveMember s row.id organizationId)

/-- The users of an organization. -/
def userCount (organizationId : String) (s : Store) : ℕ :=
  s.users.rows.countP (countsAsUser organizationId)

/-- The providers of an organization. -/
def providerCount (organizationId : String) (s : Store) : ℕ :=
  s.users.rows.countP (countsAsProvider organizationId s)

/-- The organization has no more users and providers than it is allowed. -/
structure WithinQuotas (organizationId : String) (s : Store) : Prop where
  users : ∀ organization allowed, s.organization? organizationId = some organization →
    organization.allowedUsers = some allowed → userCount organizationId s ≤ allowed
  providers : ∀ organization allowed, s.organization? organizationId = some organization →
    organization.allowedProviders = some allowed → providerCount organizationId s ≤ allowed

/-! ### Who is brought in -/

/-- An update of an account that passes its checks, with the row it finds and the columns it
writes. -/
structure Edits (s : Store) (user : User) (id : String) (dto : UpdateUserDto) (existing : User)
    (data : UserUpdateInput) : Prop where
  found : s.user? id = some existing
  checked : updateUserInput s user id dto = .ok data
  written : (writeUserUpdate s id data).isOk

/-- An approval of a provider that passes its checks. -/
structure Approves (newProviderId : String) (s : Store) (user : User) (id : String)
    (existing : User) : Prop where
  found : getUser s user id = .ok existing
  pending : existing.role = .pendingProvider
  unique : uniqueFor s id User.providerId (some (some (existing.providerId.getD newProviderId)))

/-- The call brings a user into the organization. -/
inductive BringsUser (organizationId : String) (s : Store) (call : AccountCall) : Prop where
  | accepted {user : User} {invitationId : String} {invitation : Invitation} :
      validate s call.actorId = some user → call.request = .acceptInvitation invitationId →
      s.invitation? invitationId = some invitation → TakenUp call.now s user invitation →
      invitation.organizationId = some organizationId → organizationId ≠ "" →
      providerMembershipOnly user invitation = false →
      user.organizationId ≠ some organizationId → BringsUser organizationId s call
  | edited {user existing : User} {id : String} {dto : UpdateUserDto} {data : UserUpdateInput} :
      validate s call.actorId = some user → call.request = .updateUser id dto →
      Edits s user id dto existing data → data.organizationId = some (some organizationId) →
      existing.organizationId ≠ some organizationId → BringsUser organizationId s call

/-- The call brings a provider into the count of the organization. -/
inductive BringsProvider (organizationId : String) (s : Store) (call : AccountCall) : Prop where
  | accepted {user : User} {invitationId : String} {invitation : Invitation} :
      validate s call.actorId = some user → call.request = .acceptInvitation invitationId →
      s.invitation? invitationId = some invitation → TakenUp call.now s user invitation →
      countsAsProvider organizationId s user = false → invitation.role = .provider →
      user.role ≠ .superAdmin →
      (invitation.organizationId = some organizationId ∧ organizationId ≠ "" ∨
        user.role ≠ .provider ∧ (isActiveMember s user.id organizationId ∨
          user.organizationId = some organizationId ∧
            truthy invitation.organizationId = false)) →
      BringsProvider organizationId s call
  | approved {user existing : User} {id : String} :
      validate s call.actorId = some user → call.request = .approveProviderRequest id →
      Approves call.newId s user id existing →
      existing.organizationId = some organizationId ∨
        isActiveMember s existing.id organizationId →
      BringsProvider organizationId s call
  | edited {user existing : User} {id : String} {dto : UpdateUserDto} {data : UserUpdateInput} :
      validate s call.actorId = some user → call.request = .updateUser id dto →
      Edits s user id dto existing data → countsAsProvider organizationId s existing = false →
      data.role.getD existing.role = .provider →
      data.organizationId.getD existing.organizationId = some organizationId ∨
        isActiveMember s existing.id organizationId →
      BringsProvider organizationId s call

/-- The call brings somebody into the organization where it is full. -/
inductive Overfills (organizationId : String) (s : Store) (call : AccountCall) : Prop where
  | users {organization : Organization} {allowed : ℕ} :
      s.organization? organizationId = some organization →
      organization.allowedUsers = some allowed → allowed ≤ userCount organizationId s →
      BringsUser organizationId s call → Overfills organizationId s call
  | providers {organization : Organization} {allowed : ℕ} :
      s.organization? organizationId = some organization →
      organization.allowedProviders = some allowed → allowed ≤ providerCount organizationId s →
      BringsProvider organizationId s call → Overfills organizationId s call

variable {organizationId : String} {s s' : Store} {call : AccountCall}

/-! ### What a call writes -/

theorem isActiveMember_iff {providerId : String} :
    isActiveMember s providerId organizationId ↔
      ∃ membership, s.memberships.find? (providerId, organizationId) = some membership ∧
        membership.active := by
  simp only [isActiveMember, List.any_eq_true, Bool.and_eq_true, decide_eq_true_eq]
  constructor
  · rintro ⟨membership, hmem, ⟨rfl, hactive⟩, rfl⟩
    exact ⟨membership, Table.mem_rows_iff.mp hmem, hactive⟩
  · rintro ⟨membership, hfound, hactive⟩
    have hkey : ProviderOrganization.key membership = (providerId, organizationId) :=
      Table.key_of_find? hfound
    obtain ⟨hprovider, horganization⟩ := Prod.mk.inj hkey
    exact ⟨membership, Table.mem_of_find? hfound, ⟨hprovider, hactive⟩, horganization⟩

theorem isActiveMember_activateMembership {providerId joined : String} {isPrimary : Bool}
    (id : String) :
    isActiveMember (activateMembership s providerId joined isPrimary) id organizationId ↔
      isActiveMember s id organizationId ∨ id = providerId ∧ joined = organizationId := by
  rw [isActiveMember_iff, isActiveMember_iff, activateMembership, Table.find?_upsert]
  by_cases hkey : (id, organizationId) = (providerId, joined)
  · obtain ⟨rfl, rfl⟩ := Prod.mk.inj hkey
    have hactive : (((s.memberships.find? (id, organizationId)).elim
        (⟨id, organizationId, true, isPrimary⟩ : ProviderOrganization)
        (membershipData isPrimary).apply)).active = true := by
      cases s.memberships.find? (id, organizationId) <;> rfl
    exact iff_of_true ⟨_, if_pos rfl, hactive⟩ (.inr ⟨rfl, rfl⟩)
  · have hother : ¬(id = providerId ∧ joined = organizationId) := by
      rintro ⟨rfl, rfl⟩
      exact hkey rfl
    have hne : (id, organizationId) ≠ ProviderOrganization.key
        ⟨providerId, joined, true, isPrimary⟩ := hkey
    rw [if_neg hne, or_iff_left hother]

/-- The organization that an acceptance makes a provider a member of. -/
def joinedBy (invitation : Invitation) : Option String :=
  if invitation.role = .provider then invitation.organizationId.filter (· ≠ "") else none

/-- The row of the user that a call writes, how, and the membership that it activates. -/
inductive Wrote (call : AccountCall) (s : Store) : User → Patch User.id → Option String → Prop where
  | accepted {user : User} {invitationId : String} {invitation : Invitation} :
      validate s call.actorId = some user → call.request = .acceptInvitation invitationId →
      s.invitation? invitationId = some invitation → TakenUp call.now s user invitation →
      Wrote call s user (inviteeData invitation) (joinedBy invitation)
  | approved {user existing : User} {id : String} :
      validate s call.actorId = some user → call.request = .approveProviderRequest id →
      Approves call.newId s user id existing →
      Wrote call s existing (approvedData (existing.providerId.getD call.newId))
        (existing.organizationId.filter (· ≠ ""))
  | edited {user existing : User} {id : String} {dto : UpdateUserDto} {data : UserUpdateInput} :
      validate s call.actorId = some user → call.request = .updateUser id dto →
      Edits s user id dto existing data → Wrote call s existing data.patch none

/-- From one store to the other, the row of one user is written and a membership of theirs is made
active. -/
structure Rewrites (s s' : Store) (row : User) (data : Patch User.id) (joined : Option String) :
    Prop where
  found : s.user? row.id = some row
  users : s'.users = s.users.modify row.id data
  organizations : s'.organizations = s.organizations
  members : ∀ id organizationId, isActiveMember s' id organizationId ↔
    isActiveMember s id organizationId ∨ id = row.id ∧ joined = some organizationId

theorem joinOrganization_rewrites {row : User} {data : Patch User.id} {joined : Option String}
    {isPrimary : Bool} (hfound : s.user? row.id = some row) :
    Rewrites s (joinOrganization (s.updateUser row.id data) row.id joined isPrimary) row data
      joined := by
  cases joined with
  | none => exact ⟨hfound, rfl, rfl, fun id organizationId => by simp [joinOrganization]; rfl⟩
  | some joined =>
    refine ⟨hfound, rfl, rfl, fun id organizationId => ?_⟩
    rw [joinOrganization, isActiveMember_activateMembership, Option.some.injEq]
    rfl

theorem upsertMembership_eq_join (user : User) (invitation : Invitation) :
    upsertMembership s user invitation = joinOrganization s user.id (joinedBy invitation)
      (user.organizationId = joinedBy invitation) := by
  unfold upsertMembership joinedBy
  by_cases hrole : invitation.role = .provider
  · rw [if_pos hrole]
    cases invitation.organizationId.filter (· ≠ "") with
    | none => rfl
    | some organizationId =>
      simp only [if_pos hrole]
      rfl
  · rw [if_neg hrole]
    cases invitation.organizationId.filter (· ≠ "") with
    | none => rfl
    | some organizationId =>
      simp only [if_neg hrole]
      rfl

theorem acceptedStore_rewrites {now : Millis} {user : User} {invitation : Invitation}
    (hfound : s.user? user.id = some user) :
    Rewrites s (acceptedStore now s user invitation) user (inviteeData invitation)
      (joinedBy invitation) := by
  rw [acceptedStore, upsertMembership_eq_join]
  have hjoined : Rewrites s (joinOrganization (s.updateUser user.id (inviteeData invitation))
      user.id (joinedBy invitation) (user.organizationId = joinedBy invitation)) user
      (inviteeData invitation) (joinedBy invitation) :=
    joinOrganization_rewrites hfound
  exact ⟨hfound, hjoined.users, hjoined.organizations, hjoined.members⟩

theorem user?_of_getUser {user existing : User} {id : String}
    (h : getUser s user id = .ok existing) :
    s.user? existing.id = some existing ∧ existing.id = id := by
  obtain ⟨scope, -, h⟩ := bind_eq_ok.mp h
  obtain ⟨hfound, -⟩ := Option.filter_eq_some_iff.mp (orThrow_eq_ok.mp h)
  have hid : existing.id = id := Table.key_of_find? hfound
  exact ⟨hid ▸ hfound, hid⟩

theorem approveProviderRequest_eq_ok {newProviderId id : String} {user : User} :
    approveProviderRequest newProviderId s user id = .ok (s', ⟨⟩) ↔
      ∃ existing, Approves newProviderId s user id existing ∧
        joinOrganization (s.updateUser id (approvedData (existing.providerId.getD newProviderId)))
          id (existing.organizationId.filter (· ≠ "")) true = s' := by
  unfold approveProviderRequest
  simp only [bind_eq_ok (x := getUser s user id), throwIf_bind_eq_ok, pure_eq_ok, not_not,
    Prod.mk.injEq, and_true, Bool.not_eq_false]
  constructor
  · rintro ⟨existing, hfound, hpending, hunique, hstore⟩
    exact ⟨existing, ⟨hfound, hpending, hunique⟩, hstore⟩
  · rintro ⟨existing, ⟨hfound, hpending, hunique⟩, hstore⟩
    exact ⟨existing, hfound, hpending, hunique, hstore⟩

theorem updateUser_eq_ok {user : User} {id : String} {dto : UpdateUserDto} :
    updateUser s user id dto = .ok (s', ⟨⟩) ↔
      ∃ existing data, Edits s user id dto existing data ∧ s.updateUser id data.patch = s' := by
  rw [updateUser, bind_eq_ok]
  constructor
  · rintro ⟨data, hchecked, h⟩
    obtain ⟨updated, hwritten, h⟩ := bind_eq_ok.mp h
    obtain ⟨hfound, rfl⟩ := writeUserUpdate_eq_ok hwritten
    obtain ⟨existing, hfound⟩ := Option.isSome_iff_exists.mp hfound
    have hstore := (Prod.mk.inj (pure_eq_ok.mp h)).1
    exact ⟨existing, data, ⟨hfound, hchecked, by rw [hwritten]; rfl⟩, hstore⟩
  · rintro ⟨existing, data, hedits, hstore⟩
    refine ⟨data, hedits.checked, ?_⟩
    cases hwritten : writeUserUpdate s id data with
    | error e =>
      have hok := hedits.written
      rw [hwritten] at hok
      cases hok
    | ok updated =>
      rw [← hstore, (writeUserUpdate_eq_ok hwritten).2]
      rfl

/-- A call that writes a user does nothing else to what is counted. -/
theorem handle_rewrites {row : User} {data : Patch User.id} {joined : Option String}
    (h : Wrote call s row data joined) : Rewrites s (handle call s) row data joined := by
  unfold handle
  cases h with
  | accepted hactor hrequest hfound htaken =>
    rw [hactor, hrequest]
    dsimp only
    rw [acceptInvitation_of_takenUp hfound htaken]
    exact acceptedStore_rewrites htaken.user_found
  | @approved user _ id hactor hrequest happroves =>
    obtain ⟨hfound, rfl⟩ := user?_of_getUser happroves.found
    have hok : approveProviderRequest call.newId s user row.id = .ok (_, ⟨⟩) :=
      approveProviderRequest_eq_ok.mpr ⟨row, happroves, rfl⟩
    rw [hactor, hrequest]
    dsimp only
    rw [hok]
    exact joinOrganization_rewrites hfound
  | @edited user _ id dto data hactor hrequest hedits =>
    obtain rfl : row.id = id := Table.key_of_find? hedits.found
    have hok : updateUser s user row.id dto = .ok (s.updateUser row.id data.patch, ⟨⟩) :=
      updateUser_eq_ok.mpr ⟨row, data, hedits, rfl⟩
    rw [hactor, hrequest]
    dsimp only
    rw [hok]
    have hjoined : Rewrites s (joinOrganization (s.updateUser row.id data.patch) row.id none false)
        row data.patch none :=
      joinOrganization_rewrites hedits.found
    exact hjoined

/-- A call that writes no user changes nothing of what is counted. -/
theorem handle_of_not_wrote (h : ∀ row data joined, ¬ Wrote call s row data joined) :
    (handle call s).users = s.users ∧ (handle call s).memberships = s.memberships ∧
      (handle call s).organizations = s.organizations := by
  have hcommit : ∀ {α : Type} {result : Except HttpError (Store × α)},
      (∀ s' a, result = .ok (s', a) → s'.users = s.users ∧ s'.memberships = s.memberships ∧
        s'.organizations = s.organizations) →
      (commit s result).store.users = s.users ∧
        (commit s result).store.memberships = s.memberships ∧
        (commit s result).store.organizations = s.organizations := fun hwritten =>
    commit_induction (p := fun s' => s'.users = s.users ∧ s'.memberships = s.memberships ∧
      s'.organizations = s.organizations) ⟨rfl, rfl, rfl⟩ hwritten
  unfold handle
  cases hactor : validate s call.actorId with
  | none => exact ⟨rfl, rfl, rfl⟩
  | some user =>
    dsimp only
    cases hrequest : call.request with
    | inviteUser dto =>
      refine hcommit fun s' answer hok => ?_
      rcases inviteUser_eq_ok hok with ⟨rfl, -⟩ | ⟨row, rfl, -, -⟩
      · exact ⟨rfl, rfl, rfl⟩
      · exact ⟨rfl, rfl, rfl⟩
    | acceptInvitation invitationId =>
      dsimp only
      rcases acceptInvitation_cases call.now invitationId (user?_of_validate hactor).1 with
        ⟨invitation, hfound, htaken⟩ | ⟨hsame, -⟩ | ⟨-, hsame | hexpired⟩
      · exact absurd (.accepted hactor hrequest hfound htaken) (h _ _ _)
      · rw [hsame]
        exact ⟨rfl, rfl, rfl⟩
      · rw [hsame]
        exact ⟨rfl, rfl, rfl⟩
      · rw [hexpired]
        exact ⟨rfl, rfl, rfl⟩
    | approveProviderRequest id =>
      refine hcommit fun s' answer hok => ?_
      obtain ⟨existing, happroves, -⟩ := approveProviderRequest_eq_ok.mp hok
      exact absurd (.approved hactor hrequest happroves) (h _ _ _)
    | updateUser id dto =>
      refine hcommit fun s' answer hok => ?_
      obtain ⟨existing, data, hedits, -⟩ := updateUser_eq_ok.mp hok
      exact absurd (.edited hactor hrequest hedits) (h _ _ _)

/-! ### Who is counted then -/

/-- A call writes one user, in one way. -/
theorem Wrote.unique {row row' : User} {data data' : Patch User.id} {joined joined' : Option String}
    (h : Wrote call s row data joined) (h' : Wrote call s row' data' joined') :
    row = row' ∧ data = data' ∧ joined = joined' := by
  cases h with
  | accepted hactor hrequest hfound _ =>
    cases h' with
    | accepted hactor' hrequest' hfound' _ =>
      obtain rfl := Option.some.inj (hactor.symm.trans hactor')
      obtain rfl := AccountRequest.acceptInvitation.inj (hrequest.symm.trans hrequest')
      obtain rfl := Option.some.inj (hfound.symm.trans hfound')
      exact ⟨rfl, rfl, rfl⟩
    | approved _ hrequest' _ | edited _ hrequest' _ => cases hrequest.symm.trans hrequest'
  | approved hactor hrequest happroves =>
    cases h' with
    | approved hactor' hrequest' happroves' =>
      obtain rfl := Option.some.inj (hactor.symm.trans hactor')
      obtain rfl := AccountRequest.approveProviderRequest.inj (hrequest.symm.trans hrequest')
      obtain rfl := Except.ok.inj (happroves.found.symm.trans happroves'.found)
      exact ⟨rfl, rfl, rfl⟩
    | accepted _ hrequest' _ _ | edited _ hrequest' _ => cases hrequest.symm.trans hrequest'
  | edited hactor hrequest hedits =>
    cases h' with
    | edited hactor' hrequest' hedits' =>
      obtain rfl := Option.some.inj (hactor.symm.trans hactor')
      obtain ⟨rfl, rfl⟩ := AccountRequest.updateUser.inj (hrequest.symm.trans hrequest')
      obtain rfl := Option.some.inj (hedits.found.symm.trans hedits'.found)
      obtain rfl := Except.ok.inj (hedits.checked.symm.trans hedits'.checked)
      exact ⟨rfl, rfl, rfl⟩
    | accepted _ hrequest' _ _ | approved _ hrequest' _ => cases hrequest.symm.trans hrequest'

theorem countsAsUser_iff {row : User} :
    countsAsUser organizationId row ↔ row.organizationId = some organizationId := decide_eq_true_iff

theorem countsAsProvider_iff {row : User} :
    countsAsProvider organizationId s row ↔ row.role = .provider ∧
      (row.organizationId = some organizationId ∨ isActiveMember s row.id organizationId) := by
  simp [countsAsProvider]

/-- Where a call brings a user in, the row that it writes is counted from then on. -/
theorem bringsUser_iff {row : User} {data : Patch User.id} {joined : Option String}
    (h : Wrote call s row data joined) :
    BringsUser organizationId s call ↔
      countsAsUser organizationId (data.apply row) ∧ ¬ countsAsUser organizationId row := by
  constructor
  · intro hbrings
    cases hbrings with
    | accepted hactor hrequest hfound htaken horganization hne hjoins hother =>
      obtain ⟨rfl, rfl, -⟩ := h.unique (.accepted hactor hrequest hfound htaken)
      rw [countsAsUser_iff, countsAsUser_iff]
      have htruthy : truthy (some organizationId) := truthy_some_iff.mpr hne
      exact ⟨by simp [horganization, htruthy, hjoins], hother⟩
    | edited hactor hrequest hedits horganization hother =>
      obtain ⟨rfl, rfl, -⟩ := h.unique (.edited hactor hrequest hedits)
      rw [countsAsUser_iff, countsAsUser_iff]
      exact ⟨by simp [horganization], hother⟩
  · rw [countsAsUser_iff, countsAsUser_iff]
    rintro ⟨hcounts, hother⟩
    cases h with
    | @accepted _ _ invitation hactor hrequest hfound htaken =>
      by_cases hjoins : truthy invitation.organizationId ∧
          providerMembershipOnly row invitation = false
      · have horganization : invitation.organizationId = some organizationId := by
          simpa [hjoins] using hcounts
        rw [horganization, truthy_some_iff] at hjoins
        exact .accepted hactor hrequest hfound htaken horganization hjoins.1 hjoins.2 hother
      · exact absurd (by simpa [hjoins] using hcounts) hother
    | approved hactor hrequest happroves => exact absurd hcounts hother
    | @edited _ _ _ _ data hactor hrequest hedits =>
      cases horganization : data.organizationId with
      | none => exact absurd (by simpa [horganization] using hcounts) hother
      | some moved =>
        have hmoved : moved = some organizationId := by simpa [horganization] using hcounts
        exact .edited hactor hrequest hedits (by rw [horganization, hmoved]) hother

theorem joinedBy_eq_some_iff {invitation : Invitation} :
    joinedBy invitation = some organizationId ↔ invitation.role = .provider ∧
      invitation.organizationId = some organizationId ∧ organizationId ≠ "" := by
  unfold joinedBy
  split
  · next hrole => simp [Option.filter_eq_some_iff, hrole]
  · next hrole => simp [hrole]

/-- The role of an invitation reaches all but super administrators. -/
theorem inviteeData_role_iff {user : User} {invitation : Invitation} :
    ((inviteeData invitation).apply user).role = .provider ↔
      invitation.role = .provider ∧ user.role ≠ .superAdmin := by
  cases honly : providerMembershipOnly user invitation with
  | true =>
    have hroles : user.role = .provider ∧ invitation.role = .provider := by
      simp only [providerMembershipOnly, Bool.and_eq_true, decide_eq_true_eq] at honly
      exact honly.1.1
    simp [honly, hroles]
  | false =>
    by_cases hsuper : user.role = .superAdmin <;> simp [honly, hsuper]

/-- The row that a call writes is counted as a provider from then on, perhaps for the membership
that the call activates. -/
structure ProviderThen (organizationId : String) (s : Store) (row : User) (data : Patch User.id)
    (joined : Option String) : Prop where
  role : (data.apply row).role = .provider
  belongs : (data.apply row).organizationId = some organizationId ∨
    isActiveMember s row.id organizationId ∨ joined = some organizationId

/-- Where a call brings a provider in, the row that it writes is counted from then on. -/
theorem bringsProvider_iff {row : User} {data : Patch User.id} {joined : Option String}
    (h : Wrote call s row data joined) :
    BringsProvider organizationId s call ↔
      ProviderThen organizationId s row data joined ∧ ¬ countsAsProvider organizationId s row := by
  constructor
  · intro hbrings
    cases hbrings with
    | accepted hactor hrequest hfound htaken hother hrole hsuper hbelongs =>
      obtain ⟨rfl, rfl, rfl⟩ := h.unique (.accepted hactor hrequest hfound htaken)
      refine ⟨⟨inviteeData_role_iff.mpr ⟨hrole, hsuper⟩, ?_⟩, by simp [hother]⟩
      rcases hbelongs with ⟨horganization, hne⟩ | ⟨-, hactive | ⟨hown, huntruthy⟩⟩
      · exact .inr (.inr (joinedBy_eq_some_iff.mpr ⟨hrole, horganization, hne⟩))
      · exact .inr (.inl hactive)
      · exact .inl (by simp [huntruthy, hown])
    | approved hactor hrequest happroves hbelongs =>
      obtain ⟨rfl, rfl, rfl⟩ := h.unique (.approved hactor hrequest happroves)
      refine ⟨⟨rfl, hbelongs.imp_right .inl⟩, ?_⟩
      rw [countsAsProvider_iff, happroves.pending]
      simp
    | edited hactor hrequest hedits hother hrole hbelongs =>
      obtain ⟨rfl, rfl, rfl⟩ := h.unique (.edited hactor hrequest hedits)
      exact ⟨⟨hrole, hbelongs.imp_right .inl⟩, by simp [hother]⟩
  · rintro ⟨⟨hrole, hbelongs⟩, hother⟩
    rw [Bool.not_eq_true] at hother
    cases h with
    | @accepted _ _ invitation hactor hrequest hfound htaken =>
      obtain ⟨hinvited, hsuper⟩ := inviteeData_role_iff.mp hrole
      refine .accepted hactor hrequest hfound htaken hother hinvited hsuper ?_
      have hnew : row.organizationId = some organizationId ∨
          isActiveMember s row.id organizationId → row.role ≠ .provider := by
        intro hmember hprovider
        rw [countsAsProvider_iff.mpr ⟨hprovider, hmember⟩] at hother
        cases hother
      rcases hbelongs with horganization | hactive | hjoined
      · by_cases hjoins : truthy invitation.organizationId ∧
            providerMembershipOnly row invitation = false
        · have hoffered : invitation.organizationId = some organizationId := by
            simpa [hjoins] using horganization
          rw [hoffered, truthy_some_iff] at hjoins
          exact .inl ⟨hoffered, hjoins.1⟩
        · have hown : row.organizationId = some organizationId := by
            simpa [hjoins] using horganization
          have honly : providerMembershipOnly row invitation = false := by
            simp [providerMembershipOnly, hnew (.inl hown)]
          exact .inr ⟨hnew (.inl hown), .inr ⟨hown, by simpa [honly] using hjoins⟩⟩
      · exact .inr ⟨hnew (.inr hactive), .inl hactive⟩
      · exact .inl (joinedBy_eq_some_iff.mp hjoined).2
    | approved hactor hrequest happroves =>
      refine .approved hactor hrequest happroves ?_
      rcases hbelongs with horganization | hactive | hjoined
      · exact .inl horganization
      · exact .inr hactive
      · exact .inl (Option.filter_eq_some_iff.mp hjoined).1
    | edited hactor hrequest hedits =>
      refine .edited hactor hrequest hedits hother hrole ?_
      rcases hbelongs with horganization | hactive | hjoined
      · exact .inl horganization
      · exact .inr hactive
      · cases hjoined

/-! ### The quotas -/

/-- A bound on what is counted is kept unless the row that is written is new and the bound was
reached. -/
theorem Rewrites.countP_le_iff {row : User} {data : Patch User.id} {joined : Option String}
    (h : Rewrites s s' row data joined) {p p' : User → Bool} {bound : ℕ}
    (hothers : ∀ r : User, r.id ≠ row.id → p' r = p r) (hbound : s.users.rows.countP p ≤ bound) :
    s'.users.rows.countP p' ≤ bound ↔
      ¬ (bound ≤ s.users.rows.countP p ∧ p' (data.apply row) ∧ ¬ p row) := by
  have hfound : s.users.find? row.id = some row := h.found
  have hnow : row.id ∈ s.users.keysWhere p ↔ p row := by
    rw [Table.mem_keysWhere, hfound]
    simp
  have hthen : row.id ∈ s'.users.keysWhere p' ↔ p' (data.apply row) := by
    rw [Table.mem_keysWhere, h.users, Table.find?_modify_self data hfound]
    simp
  rw [← hnow, ← hthen]
  refine Table.countP_le_iff (fun id hne => ?_) hbound
  rw [Table.mem_keysWhere, Table.mem_keysWhere, h.users, Table.find?_modify_of_ne data hne]
  refine exists_congr fun r => and_congr_right fun hr => ?_
  have hid : r.id = id := Table.key_of_find? hr
  rw [hothers r (by rwa [hid])]

theorem Rewrites.providerThen_iff {row : User} {data : Patch User.id} {joined : Option String}
    (h : Rewrites s s' row data joined) :
    countsAsProvider organizationId s' (data.apply row) ↔
      ProviderThen organizationId s row data joined := by
  rw [countsAsProvider_iff, data.key_apply, h.members]
  constructor
  · rintro ⟨hrole, hbelongs⟩
    exact ⟨hrole, hbelongs.imp_right (Or.imp_right And.right)⟩
  · rintro ⟨hrole, hbelongs⟩
    exact ⟨hrole, hbelongs.imp_right (Or.imp_right fun hjoined => ⟨rfl, hjoined⟩)⟩

/-- Nobody else comes to be counted. -/
theorem Rewrites.others {row : User} {data : Patch User.id} {joined : Option String}
    (h : Rewrites s s' row data joined) {r : User} (hne : r.id ≠ row.id) :
    countsAsProvider organizationId s' r = countsAsProvider organizationId s r := by
  rw [Bool.eq_iff_iff, countsAsProvider_iff, countsAsProvider_iff, h.members]
  simp [hne]

/-- The two counts after a call that writes a user. -/
theorem handle_withinQuotas_of_wrote {row : User} {data : Patch User.id} {joined : Option String}
    (h : Wrote call s row data joined) (hs : WithinQuotas organizationId s) :
    WithinQuotas organizationId (handle call s) ↔ ¬ Overfills organizationId s call := by
  have hrewrites := handle_rewrites h
  have horganization : (handle call s).organization? organizationId =
      s.organization? organizationId := by
    rw [Store.organization?, hrewrites.organizations, Store.organization?]
  have husers : ∀ {allowed}, userCount organizationId s ≤ allowed →
      (userCount organizationId (handle call s) ≤ allowed ↔
        ¬ (allowed ≤ userCount organizationId s ∧ BringsUser organizationId s call)) := by
    intro allowed hbound
    rw [bringsUser_iff h]
    exact hrewrites.countP_le_iff (fun _ _ => rfl) hbound
  have hproviders : ∀ {allowed}, providerCount organizationId s ≤ allowed →
      (providerCount organizationId (handle call s) ≤ allowed ↔
        ¬ (allowed ≤ providerCount organizationId s ∧ BringsProvider organizationId s call)) := by
    intro allowed hbound
    rw [bringsProvider_iff h, ← hrewrites.providerThen_iff]
    exact hrewrites.countP_le_iff (fun _ hne => hrewrites.others hne) hbound
  constructor
  · rintro hthen (⟨ho, ha, hfull, hbrings⟩ | ⟨ho, ha, hfull, hbrings⟩)
    · exact (husers (hs.users _ _ ho ha)).mp (hthen.users _ _ (horganization.trans ho) ha)
        ⟨hfull, hbrings⟩
    · exact (hproviders (hs.providers _ _ ho ha)).mp
        (hthen.providers _ _ (horganization.trans ho) ha) ⟨hfull, hbrings⟩
  · intro hno
    refine ⟨fun organization allowed ho ha => ?_, fun organization allowed ho ha => ?_⟩
    · rw [horganization] at ho
      exact (husers (hs.users _ _ ho ha)).mpr fun ⟨hfull, hbrings⟩ =>
        hno (.users ho ha hfull hbrings)
    · rw [horganization] at ho
      exact (hproviders (hs.providers _ _ ho ha)).mpr fun ⟨hfull, hbrings⟩ =>
        hno (.providers ho ha hfull hbrings)

theorem BringsUser.wrote (h : BringsUser organizationId s call) :
    ∃ row data joined, Wrote call s row data joined := by
  cases h with
  | accepted hactor hrequest hfound htaken =>
    exact ⟨_, _, _, .accepted hactor hrequest hfound htaken⟩
  | edited hactor hrequest hedits => exact ⟨_, _, _, .edited hactor hrequest hedits⟩

theorem BringsProvider.wrote (h : BringsProvider organizationId s call) :
    ∃ row data joined, Wrote call s row data joined := by
  cases h with
  | accepted hactor hrequest hfound htaken =>
    exact ⟨_, _, _, .accepted hactor hrequest hfound htaken⟩
  | approved hactor hrequest happroves => exact ⟨_, _, _, .approved hactor hrequest happroves⟩
  | edited hactor hrequest hedits => exact ⟨_, _, _, .edited hactor hrequest hedits⟩

/-- A call leaves an organization within its quotas exactly when it brings nobody into it where it
is full. -/
theorem handle_withinQuotas_iff (hs : WithinQuotas organizationId s) :
    WithinQuotas organizationId (handle call s) ↔ ¬ Overfills organizationId s call := by
  by_cases hwrote : ∃ row data joined, Wrote call s row data joined
  · obtain ⟨row, data, joined, hwrote⟩ := hwrote
    exact handle_withinQuotas_of_wrote hwrote hs
  · have hnone : ∀ row data joined, ¬ Wrote call s row data joined := fun row data joined h =>
      hwrote ⟨row, data, joined, h⟩
    obtain ⟨husers, hmemberships, horganizations⟩ := handle_of_not_wrote hnone
    refine iff_of_true ⟨?_, ?_⟩ ?_
    · rw [userCount, husers, Store.organization?, horganizations]
      exact hs.users
    · have hcounts : countsAsProvider organizationId (handle call s) =
          countsAsProvider organizationId s := by
        unfold countsAsProvider isActiveMember
        rw [hmemberships]
      rw [providerCount, husers, hcounts, Store.organization?, horganizations]
      exact hs.providers
    · rintro (⟨-, -, -, hbrings⟩ | ⟨-, -, -, hbrings⟩)
      · exact hwrote hbrings.wrote
      · exact hwrote hbrings.wrote

/-- **The quotas.** A run keeps an organization within its quotas exactly when no step brings a
user or a provider into it where it is full. -/
theorem quotas_kept_iff (organizationId : String) (s : Store) (calls : List AccountCall)
    (hs : WithinQuotas organizationId s) :
    Throughout handle (WithinQuotas organizationId) s calls ↔
      Along handle (fun s call => ¬ Overfills organizationId s call) s calls :=
  throughout_iff_along (fun _ _ hs => handle_withinQuotas_iff hs) hs calls

namespace Example

/-- An organization of an administrator that is allowed one more user, and two citizens. -/
def oneSeatLeft : Store :=
  Store.ofUsers
    ⟨[{ id := "admin", role := .orgAdmin, organizationId := some "org" },
      { id := "ann", email := some "ann@mail.example" },
      { id := "ben", email := some "ben@mail.example" }], by decide⟩
    ⟨[{ id := "org", allowedUsers := some 2 }], by decide⟩

/-- The administrator invites a citizen. -/
def invitesByMail (invitationId email : String) : AccountCall where
  actorId := "admin"
  request := .inviteUser { role := some (.str "CITIZEN"), email := some (.str email) }
  now := 0
  newId := invitationId

/-- A citizen accepts an invitation. -/
def takesUp (actorId invitationId : String) : AccountCall where
  actorId := actorId
  request := .acceptInvitation invitationId
  now := 1
  newId := ""

theorem oneSeatLeft_withinQuotas : WithinQuotas "org" oneSeatLeft := by
  have hfound : oneSeatLeft.organization? "org" = some { id := "org", allowedUsers := some 2 } :=
    rfl
  constructor
  · intro organization allowed ho ha
    obtain rfl := Option.some.inj (hfound.symm.trans ho)
    obtain rfl := Option.some.inj ha
    decide +kernel
  · intro organization allowed ho ha
    obtain rfl := Option.some.inj (hfound.symm.trans ho)
    cases ha

end Example

/-- Two invitations for one seat, one of which is accepted, fill the organization. -/
theorem quotas_kept_to_last_seat :
    userCount "org" (run handle Example.oneSeatLeft
      [Example.invitesByMail "first" "ann@mail.example",
        Example.invitesByMail "second" "ben@mail.example", Example.takesUp "ann" "first"]) = 2 ∧
    Throughout handle (WithinQuotas "org") Example.oneSeatLeft
      [Example.invitesByMail "first" "ann@mail.example",
        Example.invitesByMail "second" "ben@mail.example", Example.takesUp "ann" "first"] := by
  refine ⟨by decide +kernel,
    (quotas_kept_iff "org" _ _ Example.oneSeatLeft_withinQuotas).mpr ⟨?_, ?_, ?_, trivial⟩⟩
  case refine_3 =>
    -- the organization is allowed two users, has one, and no number of providers is set
    have hfound : ((run handle Example.oneSeatLeft
        [Example.invitesByMail "first" "ann@mail.example",
          Example.invitesByMail "second" "ben@mail.example"]).organization? "org").map
          (fun organization => (organization.allowedUsers, organization.allowedProviders)) =
        some (some 2, none) := by
      decide +kernel
    have hcount : userCount "org" (run handle Example.oneSeatLeft
        [Example.invitesByMail "first" "ann@mail.example",
          Example.invitesByMail "second" "ben@mail.example"]) = 1 := by
      decide +kernel
    simp only [run_cons, run_nil] at hfound hcount
    rintro (⟨ho, ha, hfull, -⟩ | ⟨ho, ha, -, -⟩)
    · rw [ho, Option.map_some, ha] at hfound
      simp only [Option.some.injEq, Prod.mk.injEq] at hfound
      omega
    · rw [ho, Option.map_some, ha] at hfound
      simp at hfound
  all_goals
    rintro (⟨-, -, -, ⟨-, hrequest⟩ | ⟨-, hrequest⟩⟩ |
      ⟨-, -, -, ⟨-, hrequest⟩ | ⟨-, hrequest⟩ | ⟨-, hrequest⟩⟩) <;> cases hrequest

/-- Two invitations for one seat are both accepted. -/
theorem seat_taken_twice :
    ¬ ∀ (organizationId : String) (s : Store) (calls : List AccountCall),
      WithinQuotas organizationId s →
      Throughout handle (WithinQuotas organizationId) s calls := by
  intro h
  have hthroughout := h "org" Example.oneSeatLeft
    [Example.invitesByMail "first" "ann@mail.example",
      Example.invitesByMail "second" "ben@mail.example",
      Example.takesUp "ann" "first", Example.takesUp "ben" "second"]
    Example.oneSeatLeft_withinQuotas
  have hwithin := throughout_iff.mp hthroughout _ [] (List.append_nil _).symm
  have hfull : ((run handle Example.oneSeatLeft
      [Example.invitesByMail "first" "ann@mail.example",
      Example.invitesByMail "second" "ben@mail.example",
        Example.takesUp "ann" "first", Example.takesUp "ben" "second"]).organization? "org").any
      fun organization => organization.allowedUsers = some 2 := by
    decide +kernel
  have hcount : userCount "org" (run handle Example.oneSeatLeft
      [Example.invitesByMail "first" "ann@mail.example",
      Example.invitesByMail "second" "ben@mail.example",
        Example.takesUp "ann" "first", Example.takesUp "ben" "second"]) = 3 := by
    decide +kernel
  obtain ⟨organization, ho, hallowed⟩ := (Option.any_eq_true _ _).mp hfull
  have hbound := hwithin.users organization 2 ho (of_decide_eq_true hallowed)
  omega

end FixZone.UsersService
