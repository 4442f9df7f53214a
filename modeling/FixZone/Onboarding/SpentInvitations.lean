import FixZone.InternalAdmin.Service
import FixZone.Onboarding.Service
import FixZone.Users.DiscoveryInvitation
import FixZone.Users.InvitationRace

/-!
# Spent invitations

Three services honour the rows of one table of invitations. `UsersService` and
`InternalAdminService` take an invitation up by its id, and look at its status and at its
`expiresAt` before they give anything; `OnboardingService` takes the organization of the invitation
whose code an applicant names, and looks at the status alone. So an invitation that is spent gives
nothing in exactly the runs in which no application is admitted with the code of a pending one that
has run out or that invites as something else than a provider (`spent_gives_nothing_iff`). No
operation makes an invitation pending again.
-/

namespace FixZone.OnboardingService

open Library Accounts
open UsersService (InviteUserDto Withdrawal)
open InternalAdminService (ProcessEnv InviteInternalAdminDto Server)

/-! ### Requests -/

/-- The operations on invitations. The lists that only read are left out. -/
inductive InvitationOperation where
  | inviteUser (dto : InviteUserDto)
  | inviteDiscoveredProvider (providerId : String) (organizationId : Option Json)
  | resendInvitation (id : String)
  | cancelInvitation (id : String) (withdrawal : Withdrawal)
  | declineInvitation (id : String)
  | getMyInvitations
  | acceptInvitation (id : String)
  | inviteAdministrator (dto : InviteInternalAdminDto)
  | acceptInternalInvitation (id : String)

/-- An operation of a user, or the application of somebody without an account. -/
inductive OfferRequest where
  | operation (actorId : String) (operation : InvitationOperation)
  | requestProviderAccess (dto : ProviderAccessRequestDto)

/-- A request, and what it finds around the accounts. -/
structure OfferCall where
  request : OfferRequest
  now : Millis
  newId : String
  date : String → Option Millis := fun _ => none
  hash : String → String := fun password => password
  activeOrganizationId : Option String := none

/-- The environment of the process, and the codes of the invitations. -/
structure Platform where
  env : ProcessEnv
  inviteCode : String → String

variable (platform : Platform)

def OfferCall.surroundings (call : OfferCall) : Surroundings :=
  ⟨platform.inviteCode, call.now, call.newId, call.hash, call.activeOrganizationId⟩

def OfferCall.server (call : OfferCall) : Server :=
  ⟨platform.env, call.now, call.date, call.newId⟩

/-- What an operation makes of the accounts. -/
def operate (call : OfferCall) (s : Store) (user : User) : InvitationOperation → Store
  | .inviteUser dto => (commit s (UsersService.inviteUser call.now call.newId s user dto)).store
  | .inviteDiscoveredProvider providerId organizationId =>
    (commit s (UsersService.inviteDiscoveredProvider call.now call.newId s user providerId
      organizationId)).store
  | .resendInvitation id => (UsersService.resendInvitation call.now s user id).store
  | .cancelInvitation id withdrawal =>
    (commit s (UsersService.cancelInvitation call.now s user id withdrawal.status)).store
  | .declineInvitation id => (UsersService.declineInvitation call.now s user id).store
  | .getMyInvitations =>
    UsersService.expireAll s
      (((UsersService.myInvitations s user).filter (·.lapsed call.now)).map (·.id))
  | .acceptInvitation id => (UsersService.acceptInvitation call.now s user id).store
  | .inviteAdministrator dto =>
    (commit s (InternalAdminService.inviteAdministrator (call.server platform) s user dto)).store
  | .acceptInternalInvitation id =>
    (InternalAdminService.acceptInvitation (call.server platform) s user id).store

/-- One step. -/
def offerStep (call : OfferCall) (s : Store) : Store :=
  match call.request with
  | .operation actorId operation =>
    match validate s actorId with
    | none => s
    | some user => operate platform call s user operation
  | .requestProviderAccess dto =>
    (commit s (requestProviderAccess (call.surroundings platform) s dto)).store

/-! ### What is asked of a step -/

/-- The invitation that a request is made on the strength of. -/
def invitationNamed (call : OfferCall) (s : Store) : Option Invitation :=
  match call.request with
  | .operation _ (.acceptInvitation id) | .operation _ (.acceptInternalInvitation id) =>
    s.invitation? id
  | .requestProviderAccess dto => dto.code?.bind (invitationWithCode (call.surroundings platform) s)
  | _ => none

/-- The role that is applied for, where it is not the one that the invitation itself gives. -/
def roleApplied : OfferRequest → Option UserRole
  | .requestProviderAccess _ => some .provider
  | .operation .. => none

/-- The invitation is good for the request. -/
structure Honourable (call : OfferCall) (row : Invitation) : Prop where
  pending : row.status = .pending
  unexpired : row.lapsed call.now = false
  role : ∀ role, roleApplied call.request = some role → row.role = role

/-- Nobody gets a role, an organization, a membership or an assignment. -/
structure GivesNothing (s s' : Store) : Prop where
  users : ∀ id, (s'.user? id).map (fun row => (row.role, row.organizationId)) =
    (s.user? id).map fun row => (row.role, row.organizationId)
  memberships : s'.memberships = s.memberships
  assignments : s'.assignments = s.assignments

/-- Invitations that were resolved stay as they were. -/
def ResolvedKept (s s' : Store) : Prop :=
  ∀ id row, s.invitation? id = some row → row.status ≠ .pending →
    ∃ row', s'.invitation? id = some row' ∧ row'.status = row.status

/-- A step gives nothing on the strength of an invitation that is not good for it, and makes none
pending again. -/
structure SpentGivesNothing (s : Store) (call : OfferCall) : Prop where
  spent : ∀ row, invitationNamed platform call s = some row → ¬Honourable call row →
    GivesNothing s (offerStep platform call s)
  resolved : ResolvedKept s (offerStep platform call s)

/-- An application is admitted with the code of an invitation that is pending, but has run out or
does not invite a provider. -/
def AdmitsSpent (s : Store) (call : OfferCall) : Prop :=
  ∃ dto code row, call.request = .requestProviderAccess dto ∧ dto.code? = some code ∧
    Applies (call.surroundings platform) s dto ∧
    invitationWithCode (call.surroundings platform) s code = some row ∧ row.status = .pending ∧
    (row.lapsed call.now = true ∨ row.role ≠ .provider)

variable {platform} {call : OfferCall} {s s' : Store} {user : User}

/-! ### Resolved invitations -/

namespace ResolvedKept

theorem of_eq (h : s'.invitations = s.invitations) : ResolvedKept s s' := by
  intro id row hfound _
  rw [Store.invitation?, ← h] at hfound
  exact ⟨row, hfound, rfl⟩

theorem insert (s : Store) (row : Invitation) : ResolvedKept s (s.insertInvitation row) :=
  fun _ found hfound _ => ⟨found, Table.find?_insert_of_some hfound, rfl⟩

/-- An update keeps what was resolved where it is one of a pending invitation. -/
theorem update {id : String} {data : Patch Invitation.id}
    (hpending : ∀ row, s.invitation? id = some row → row.status = .pending) :
    ResolvedKept s (s.updateInvitation id data) := by
  intro other row hfound hresolved
  have hne : other ≠ id := fun heq => hresolved (hpending row (heq ▸ hfound))
  exact ⟨row, (Table.find?_modify_of_ne data hne).trans hfound, rfl⟩

end ResolvedKept

theorem updateInvitation_resolvedKept {id : String} {row : Invitation} {data : Patch Invitation.id}
    (hfound : s.invitation? id = some row) (hpending : row.status = .pending) :
    ResolvedKept s (s.updateInvitation id data) :=
  ResolvedKept.update fun row' hfound' => by
    obtain rfl := Option.some.inj (hfound.symm.trans hfound')
    exact hpending

/-- An invitation is added and marked. -/
theorem insert_update_resolvedKept {row : Invitation} {data : Patch Invitation.id}
    (hfree : s.invitation? row.id = none) :
    ResolvedKept s ((s.insertInvitation row).updateInvitation row.id data) := by
  intro id found hfound _
  have hne : id ≠ row.id := fun heq => by
    rw [heq, hfree] at hfound
    cases hfound
  exact ⟨found, (Table.find?_modify_of_ne data hne).trans (Table.find?_insert_of_some hfound), rfl⟩

theorem resendInvitation_resolvedKept (now : Millis) (s : Store) (user : User) (id : String) :
    ResolvedKept s (UsersService.resendInvitation now s user id).store := by
  unfold UsersService.resendInvitation
  cases hscoped : UsersService.scopedInvitation s user id with
  | error e => exact .of_eq rfl
  | ok row =>
    have hfound := UsersService.scopedInvitation_found hscoped
    dsimp only
    split
    · exact .of_eq rfl
    · next hpending =>
      split
      · exact updateInvitation_resolvedKept hfound (not_not.mp hpending)
      · exact updateInvitation_resolvedKept hfound (not_not.mp hpending)

theorem cancelInvitation_resolvedKept (now : Millis) (s : Store) (user : User) (id : String)
    (status : InvitationStatus) :
    ResolvedKept s (commit s (UsersService.cancelInvitation now s user id status)).store := by
  refine commit_induction (p := ResolvedKept s) (.of_eq rfl) fun s' _ hok => ?_
  obtain ⟨row, hscoped, h⟩ := bind_eq_ok.mp hok
  obtain ⟨hpending, h⟩ := throwIf_bind_eq_ok.mp h
  rw [← (Prod.mk.inj (pure_eq_ok.mp h)).1]
  exact updateInvitation_resolvedKept (UsersService.scopedInvitation_found hscoped)
    (not_not.mp hpending)

theorem declineInvitation_resolvedKept (now : Millis) (s : Store) (user : User) (id : String) :
    ResolvedKept s (UsersService.declineInvitation now s user id).store := by
  unfold UsersService.declineInvitation
  cases hfound : s.invitation? id with
  | none => exact .of_eq rfl
  | some row =>
    dsimp only
    split
    · exact .of_eq rfl
    · split
      · split <;> exact .of_eq rfl
      · next hpending =>
        split
        · exact updateInvitation_resolvedKept hfound (not_not.mp hpending)
        · exact updateInvitation_resolvedKept hfound (not_not.mp hpending)

/-- `getMyInvitations` marks pending invitations alone. -/
theorem getMyInvitations_resolvedKept (now : Millis) (s : Store) (user : User) :
    ResolvedKept s (UsersService.expireAll s
      (((UsersService.myInvitations s user).filter (·.lapsed now)).map (·.id))) := by
  intro id row hfound hresolved
  refine ⟨row, ?_, rfl⟩
  have hkey : row.id = id := Table.key_of_find? hfound
  rw [(UsersService.expireAll_writes s _).rows, if_neg, hfound]
  intro hmem
  obtain ⟨other, hlisted, hid⟩ := List.mem_map.mp hmem
  have hmine := List.mem_of_mem_filter hlisted
  obtain ⟨hother, hpending⟩ := List.mem_filter.mp hmine
  have hsame := Table.mem_rows_iff.mp hother
  rw [hid] at hsame
  obtain rfl := Option.some.inj (hfound.symm.trans hsame)
  simp only [Bool.and_eq_true, decide_eq_true_eq] at hpending
  exact hresolved hpending.1

/-! ### Taking up -/

/-- What the two services make of an invitation that somebody takes up: nothing, or a mark that it
has run out, or, where it is pending and has not, whatever else. -/
inductive TakesUp (now : Millis) (s : Store) (id : String) : Store → Prop where
  | unchanged : TakesUp now s id s
  | expired {row : Invitation} {data : Patch Invitation.id} : s.invitation? id = some row →
      row.status = .pending → TakesUp now s id (s.updateInvitation id data)
  | taken {row : Invitation} {s' : Store} (data : Patch Invitation.id) :
      s.invitation? id = some row → row.status = .pending → row.lapsed now = false →
      (∀ other, s'.invitation? other = (s.updateInvitation id data).invitation? other) →
      TakesUp now s id s'

theorem acceptInvitation_takesUp (now : Millis) (s : Store) (user : User) (id : String) :
    TakesUp now s id (UsersService.acceptInvitation now s user id).store := by
  unfold UsersService.acceptInvitation
  cases hfound : s.invitation? id with
  | none => exact .unchanged
  | some row =>
    have hid : row.id = id := Table.key_of_find? hfound
    dsimp only
    split
    · exact .unchanged
    · split
      · split <;> exact .unchanged
      · next hpending =>
        split
        · exact .expired hfound (not_not.mp hpending)
        · next hunexpired =>
          refine commit_induction (p := TakesUp now s id) .unchanged fun s' _ hok => ?_
          obtain ⟨current, -, h⟩ := orThrow_bind_eq_ok.mp hok
          obtain ⟨-, h⟩ := throwIf_bind_eq_ok.mp h
          rw [← (Prod.mk.inj (pure_eq_ok.mp h)).1]
          refine .taken
            (UsersService.acceptedData now ((UsersService.inviteeData row).apply current)) hfound
            (not_not.mp hpending) (by simpa using hunexpired) fun other => ?_
          rw [UsersService.invitation?_acceptedStore, hid]

theorem acceptInternalInvitation_takesUp (server : Server) (s : Store) (user : User) (id : String) :
    TakesUp server.now s id (InternalAdminService.acceptInvitation server s user id).store := by
  unfold InternalAdminService.acceptInvitation
  cases hfound : s.invitation? id with
  | none => exact .unchanged
  | some row =>
    have hid : row.id = id := Table.key_of_find? hfound
    dsimp only
    split
    · exact .unchanged
    · next hpending =>
      split
      · exact .expired hfound (not_not.mp hpending)
      · next hunexpired =>
        rw [Bool.not_eq_true] at hunexpired
        refine commit_induction (p := TakesUp server.now s id) .unchanged fun s' _ hok => ?_
        obtain ⟨-, rfl⟩ := (InternalAdminService.acceptOpenInvitation_eq_ok
          (not_not.mp hpending) hunexpired).mp hok
        refine .taken (InternalAdminService.acceptedData server.now user.id) hfound
          (not_not.mp hpending) hunexpired fun other => ?_
        rw [InternalAdminService.acceptedStore, hid]
        rfl

theorem TakesUp.resolvedKept {now : Millis} {id : String} (h : TakesUp now s id s') :
    ResolvedKept s s' := by
  cases h with
  | unchanged => exact .of_eq rfl
  | expired hfound hpending => exact updateInvitation_resolvedKept hfound hpending
  | taken data hfound hpending _ hrows =>
    intro other row hother hresolved
    rw [hrows]
    exact updateInvitation_resolvedKept hfound hpending other row hother hresolved

/-- What is not pending, or has run out, gives nothing. -/
theorem TakesUp.givesNothing {now : Millis} {id : String} {row : Invitation}
    (h : TakesUp now s id s') (hfound : s.invitation? id = some row)
    (hspent : ¬(row.status = .pending ∧ row.lapsed now = false)) : GivesNothing s s' := by
  cases h with
  | unchanged => exact ⟨fun _ => rfl, rfl, rfl⟩
  | expired => exact ⟨fun _ => rfl, rfl, rfl⟩
  | taken data hfound' hpending hunexpired =>
    obtain rfl := Option.some.inj (hfound.symm.trans hfound')
    exact absurd ⟨hpending, hunexpired⟩ hspent

/-! ### Steps -/

theorem operate_resolvedKept (operation : InvitationOperation) :
    ResolvedKept s (operate platform call s user operation) := by
  cases operation with
  | inviteUser dto =>
    refine commit_induction (p := ResolvedKept s) (.of_eq rfl) fun s' _ hok => ?_
    rcases UsersService.inviteUser_eq_ok hok with ⟨rfl, -⟩ | ⟨row, rfl, -, -⟩
    · exact .of_eq rfl
    · exact .insert s row
  | inviteDiscoveredProvider providerId organizationId =>
    refine commit_induction (p := ResolvedKept s) (.of_eq rfl) fun s' _ hok => ?_
    rcases UsersService.inviteDiscoveredProvider_eq_ok hok with
      ⟨rfl, -⟩ | ⟨_, _, row, -, -, hrow, rfl⟩
    · exact .of_eq rfl
    · exact insert_update_resolvedKept (hrow.id ▸ hrow.free)
  | resendInvitation id => exact resendInvitation_resolvedKept call.now s user id
  | cancelInvitation id withdrawal => exact cancelInvitation_resolvedKept call.now s user id _
  | declineInvitation id => exact declineInvitation_resolvedKept call.now s user id
  | getMyInvitations => exact getMyInvitations_resolvedKept call.now s user
  | acceptInvitation id => exact (acceptInvitation_takesUp call.now s user id).resolvedKept
  | inviteAdministrator dto =>
    refine commit_induction (p := ResolvedKept s) (.of_eq rfl) fun s' _ hok => ?_
    obtain ⟨definition, -, heffect⟩ := InternalAdminService.inviteAdministrator_eq_ok hok
    cases heffect with
    | approval => exact .of_eq rfl
    | existing => exact .of_eq rfl
    | created row => exact .insert s row
  | acceptInternalInvitation id =>
    exact (acceptInternalInvitation_takesUp (call.server platform) s user id).resolvedKept

/-- An application makes a user, and nothing else. -/
theorem requestProviderAccess_resolvedKept (env : Surroundings) (s : Store)
    (dto : ProviderAccessRequestDto) :
    ResolvedKept s (commit s (requestProviderAccess env s dto)).store := by
  refine commit_induction (p := ResolvedKept s) (.of_eq rfl) fun s' _ hok => ?_
  obtain ⟨-, organizationId, -, rfl, -⟩ := requestProviderAccess_eq_ok.mp hok
  exact .of_eq rfl

/-- No step makes an invitation pending again. -/
theorem offerStep_resolvedKept (platform : Platform) (call : OfferCall) (s : Store) :
    ResolvedKept s (offerStep platform call s) := by
  unfold offerStep
  cases call.request with
  | operation actorId operation =>
    dsimp only
    cases validate s actorId with
    | none => exact .of_eq rfl
    | some user => exact operate_resolvedKept operation
  | requestProviderAccess dto =>
    exact requestProviderAccess_resolvedKept (call.surroundings platform) s dto

/-- An application whose code names an invitation gives something exactly where it is admitted:
where the applicant may apply and the invitation is pending. -/
theorem requestProviderAccess_givesNothing_iff {env : Surroundings} {dto : ProviderAccessRequestDto}
    {code : String} {row : Invitation} (hcode : dto.code? = some code)
    (hrow : invitationWithCode env s code = some row) :
    GivesNothing s (commit s (requestProviderAccess env s dto)).store ↔
      ¬(Applies env s dto ∧ row.status = .pending) := by
  constructor
  · rintro hnothing ⟨happlies, hpending⟩
    have hresolved : resolveProviderOrganization env s dto = .ok row.organizationId :=
      (resolveProviderOrganization_code hcode).mpr ⟨row, hrow, hpending, rfl⟩
    have hok := requestProviderAccess_eq_ok.mpr ⟨happlies, _, hresolved, rfl, rfl⟩
    have hnew := hnothing.users env.newId
    rw [hok, happlies.free] at hnew
    have hfree : s.users.find? (applicant env dto row.organizationId).id = none := happlies.free
    have hfound : (s.insertUser (applicant env dto row.organizationId)).user? env.newId =
        some (applicant env dto row.organizationId) :=
      Table.find?_insert_self hfree
    rw [commit, hfound] at hnew
    cases hnew
  · intro hrefused
    refine commit_induction (p := GivesNothing s) ⟨fun _ => rfl, rfl, rfl⟩ fun s' _ hok => ?_
    obtain ⟨happlies, organizationId, hresolved, -⟩ := requestProviderAccess_eq_ok.mp hok
    obtain ⟨row', hrow', hpending, -⟩ := (resolveProviderOrganization_code hcode).mp hresolved
    obtain rfl := Option.some.inj (hrow.symm.trans hrow')
    exact absurd ⟨happlies, hpending⟩ hrefused

theorem honourable_operation_iff {actorId : String} {operation : InvitationOperation}
    (hrequest : call.request = .operation actorId operation) (row : Invitation) :
    Honourable call row ↔ row.status = .pending ∧ row.lapsed call.now = false := by
  constructor
  · rintro ⟨hpending, hunexpired, -⟩
    exact ⟨hpending, hunexpired⟩
  · rintro ⟨hpending, hunexpired⟩
    refine ⟨hpending, hunexpired, fun role hrole => ?_⟩
    rw [hrequest] at hrole
    cases hrole

theorem honourable_application_iff {dto : ProviderAccessRequestDto}
    (hrequest : call.request = .requestProviderAccess dto) (row : Invitation) :
    Honourable call row ↔
      row.status = .pending ∧ row.lapsed call.now = false ∧ row.role = .provider := by
  constructor
  · rintro ⟨hpending, hunexpired, hrole⟩
    exact ⟨hpending, hunexpired, hrole .provider (by rw [hrequest]; rfl)⟩
  · rintro ⟨hpending, hunexpired, hrole⟩
    refine ⟨hpending, hunexpired, fun role happlied => ?_⟩
    rw [hrequest] at happlied
    exact hrole.trans (Option.some.inj happlied)

/-- An operation gives nothing on the strength of an invitation that is not good for it. -/
theorem operation_givesNothing {actorId : String} {operation : InvitationOperation}
    (hrequest : call.request = .operation actorId operation) {row : Invitation}
    (hnamed : invitationNamed platform call s = some row) (hspent : ¬Honourable call row) :
    GivesNothing s (offerStep platform call s) := by
  rw [honourable_operation_iff hrequest] at hspent
  rw [invitationNamed, hrequest] at hnamed
  rw [offerStep, hrequest]
  dsimp only
  cases validate s actorId with
  | none => exact ⟨fun _ => rfl, rfl, rfl⟩
  | some user =>
    cases operation with
    | acceptInvitation id =>
      exact (acceptInvitation_takesUp call.now s user id).givesNothing hnamed hspent
    | acceptInternalInvitation id =>
      exact (acceptInternalInvitation_takesUp (call.server platform) s user id).givesNothing
        hnamed hspent
    | _ => cases hnamed

/-- An application does so exactly where it is admitted with such an invitation. -/
theorem application_spentGivesNothing_iff {dto : ProviderAccessRequestDto}
    (hrequest : call.request = .requestProviderAccess dto) :
    SpentGivesNothing platform s call ↔ ¬AdmitsSpent platform s call := by
  have hstep : offerStep platform call s =
      (commit s (requestProviderAccess (call.surroundings platform) s dto)).store := by
    rw [offerStep, hrequest]
  have hnamed : ∀ row, invitationNamed platform call s = some row ↔ ∃ code,
      dto.code? = some code ∧
        invitationWithCode (call.surroundings platform) s code = some row := by
    intro row
    rw [invitationNamed, hrequest]
    exact Option.bind_eq_some_iff
  constructor
  · rintro hlawful ⟨dto', code, row, hrequest', hcode, happlies, hrow, hpending, hspent⟩
    obtain rfl := OfferRequest.requestProviderAccess.inj (hrequest.symm.trans hrequest')
    have hnot : ¬Honourable call row := by
      rw [honourable_application_iff hrequest]
      rintro ⟨-, hunexpired, hrole⟩
      rcases hspent with hlapsed | hother
      · rw [hunexpired] at hlapsed
        cases hlapsed
      · exact hother hrole
    have hnothing := hlawful.spent row ((hnamed row).mpr ⟨code, hcode, hrow⟩) hnot
    rw [hstep, requestProviderAccess_givesNothing_iff hcode hrow] at hnothing
    exact hnothing ⟨happlies, hpending⟩
  · intro hadmits
    refine ⟨fun row hrow hspent => ?_, offerStep_resolvedKept platform call s⟩
    obtain ⟨code, hcode, hrow⟩ := (hnamed row).mp hrow
    rw [hstep, requestProviderAccess_givesNothing_iff hcode hrow]
    rintro ⟨happlies, hpending⟩
    refine hadmits ⟨dto, code, row, hrequest, hcode, happlies, hrow, hpending, ?_⟩
    by_contra hgood
    rw [not_or, Bool.not_eq_true, not_not] at hgood
    exact hspent ((honourable_application_iff hrequest row).mpr ⟨hpending, hgood.1, hgood.2⟩)

/-- A step honours no spent invitation exactly where it admits no application with one. -/
theorem spentGivesNothing_iff (platform : Platform) (s : Store) (call : OfferCall) :
    SpentGivesNothing platform s call ↔ ¬AdmitsSpent platform s call := by
  cases hrequest : call.request with
  | operation actorId operation =>
    refine iff_of_true ⟨fun row hnamed hspent => operation_givesNothing hrequest hnamed hspent,
      offerStep_resolvedKept platform call s⟩ ?_
    rintro ⟨dto, -, -, hrequest', -⟩
    cases hrequest.symm.trans hrequest'
  | requestProviderAccess dto => exact application_spentGivesNothing_iff hrequest

/-- **Spent invitations.** In a run no step gives anything on the strength of an invitation that is
not good for it, and none makes an invitation pending again, exactly where no application is
admitted with the code of a pending invitation that has run out or invites as something else. -/
theorem spent_gives_nothing_iff (platform : Platform) (s : Store) (calls : List OfferCall) :
    Along (offerStep platform) (SpentGivesNothing platform) s calls ↔
      Along (offerStep platform) (fun s call => ¬AdmitsSpent platform s call) s calls :=
  along_congr (spentGivesNothing_iff platform) s calls

namespace Example

/-- Nothing is configured, and the code of an invitation is its id. -/
def plain : Platform := ⟨fun _ => none, fun id => id⟩

/-- An organization, and an invitation to it that ran out at time 5. -/
def lateOffer : Store :=
  { Store.ofUsers ⟨[{ id := "admin", role := .orgAdmin, organizationId := some "depot" }],
      List.nodup_singleton _⟩ ⟨[{ id := "depot" }], List.nodup_singleton _⟩ with
    invitations := ⟨[{ id := "INV-LATE", email := some "sade@mail.example", role := .provider
                       organizationId := some "depot", invitedById := "admin"
                       expiresAt := some 5 }], List.nodup_singleton _⟩ }

/-- Somebody applies with its code at time 9. -/
def appliesLate : OfferCall where
  request := .requestProviderAccess
    { applicantType := "INDIVIDUAL", fullName := "Tunde", email := "tunde@mail.example"
      phone := "+2348030000004", password := "secret-9", confirmPassword := "secret-9"
      address := "1 Marina", yearsOfExperience := 3
      organizationInviteCode := some "INV-LATE" }
  now := 9
  newId := "tunde"

end Example

open Example in
/-- The applicant belongs to the organization of an invitation that has run out. -/
theorem late_code_admitted : ¬∀ (platform : Platform) (s : Store) (calls : List OfferCall),
    Along (offerStep platform) (SpentGivesNothing platform) s calls := by
  intro h
  obtain ⟨hstep, -⟩ := h plain lateOffer [appliesLate]
  have hgiven : ((offerStep plain appliesLate lateOffer).user? "tunde").map
      (fun row => (row.role, row.organizationId)) = some (.pendingProvider, some "depot") := by
    decide +kernel
  have hrow : ((invitationNamed plain appliesLate lateOffer).map (·.lapsed 9)) = some true := by
    decide +kernel
  obtain ⟨row, hnamed, hlapsed⟩ := Option.map_eq_some_iff.mp hrow
  have hspent : ¬Honourable appliesLate row := fun hgood => by
    have hunexpired := hgood.unexpired
    rw [show appliesLate.now = 9 from rfl, hlapsed] at hunexpired
    cases hunexpired
  have hnothing := (hstep.spent row hnamed hspent).users "tunde"
  rw [hgiven] at hnothing
  cases hnothing

end FixZone.OnboardingService
