import FixZone.InternalAdmin.Operations
import FixZone.Users.Service

/-!
# Organizations and the staff of the platform

`inviteUser` refuses the roles that are not for an organization to give by a list: the
governance roles, `SUPER_ADMIN`, and `ORG_ADMIN` unless a super administrator invites. The
roles of the internal administration came later, and but for the one that both
lists have they are not on it. So an organization can mint staff of the platform,
with the permissions the internal catalogue gives them, and a run of invitations mints
none exactly where nobody takes up an invitation for one of these roles
(`organization_staff_iff`).
-/

namespace FixZone.UsersService

open Library Accounts
open InternalAdminService (ProcessEnv permissionsForRole Holds)

/-- The operations on invitations. -/
inductive Operation where
  | invite (dto : InviteUserDto)
  | cancel (invitationId : String)
  | revoke (invitationId : String)
  | resend (invitationId : String)
  | accept (invitationId : String)
  | decline (invitationId : String)

/-- A call: an operation, the user whose token it comes with, the clock, and the id of a new row. -/
structure Call where
  actorId : String
  operation : Operation
  now : Millis
  newId : String

/-- The store after a call. -/
def perform (call : Call) (s : Store) : Store :=
  match validate s call.actorId with
  | none => s
  | some user =>
    match call.operation with
    | .invite dto => (commit s (inviteUser call.now call.newId s user dto)).store
    | .cancel invitationId =>
        (commit s (cancelInvitation call.now s user invitationId .cancelled)).store
    | .revoke invitationId =>
        (commit s (cancelInvitation call.now s user invitationId .revoked)).store
    | .resend invitationId => (resendInvitation call.now s user invitationId).store
    | .accept invitationId => (acceptInvitation call.now s user invitationId).store
    | .decline invitationId => (declineInvitation call.now s user invitationId).store

/-- Everything a call can do. -/
inductive Performed (call : Call) (s : Store) : Store → Prop where
  | unchanged : Performed call s s
  | invited (user : User) (dto : InviteUserDto) (row : Invitation)
      (operation : call.operation = .invite dto)
      (actor : validate s call.actorId = some user) (invited : Invited call.newId s user row) :
      Performed call s (s.insertInvitation row)
  | updated (invitationId : String) (data : Patch Invitation.id)
      (keeps : ∀ row, SameOffer row (data.apply row)) :
      Performed call s (s.updateInvitation invitationId data)
  | accepted (user : User) (invitationId : String) (invitation : Invitation)
      (operation : call.operation = .accept invitationId)
      (actor : validate s call.actorId = some user)
      (found : s.invitation? invitationId = some invitation)
      (takenUp : TakenUp call.now s user invitation) :
      Performed call s (acceptedStore call.now s user invitation)

variable {env : ProcessEnv} {s₀ s s' : Store} {user : User} {call : Call}

theorem cancelled_performed (user : User) (invitationId : String) (status : InvitationStatus) :
    Performed call s (commit s (cancelInvitation call.now s user invitationId status)).store := by
  refine commit_induction (p := Performed call s) .unchanged fun s' _ hok => ?_
  unfold cancelInvitation at hok
  obtain ⟨invitation, -, hok⟩ := bind_eq_ok.mp hok
  obtain ⟨-, hok⟩ := throwIf_bind_eq_ok.mp hok
  rw [← (Prod.mk.inj (Except.ok.inj hok)).1]
  exact .updated invitationId _ fun _ => ⟨rfl, rfl, rfl, rfl⟩

theorem resent_performed (user : User) (invitationId : String) :
    Performed call s (resendInvitation call.now s user invitationId).store := by
  unfold resendInvitation
  split
  · exact .unchanged
  · split
    · exact .unchanged
    · split
      · exact .updated invitationId _ fun _ => ⟨rfl, rfl, rfl, rfl⟩
      · exact .updated invitationId _ fun row =>
          ⟨rfl, rfl, rfl, field?_withField_of_ne _ _ (by decide)⟩

theorem declined_performed (user : User) (invitationId : String) :
    Performed call s (declineInvitation call.now s user invitationId).store := by
  unfold declineInvitation
  split
  · exact .unchanged
  · split
    · exact .unchanged
    · split
      · split <;> exact .unchanged
      · split
        · exact .updated invitationId _ fun _ => ⟨rfl, rfl, rfl, rfl⟩
        · exact .updated invitationId _ fun _ => ⟨rfl, rfl, rfl, rfl⟩

theorem perform_cases (call : Call) (s : Store) : Performed call s (perform call s) := by
  unfold perform
  cases hactor : validate s call.actorId with
  | none => exact .unchanged
  | some user =>
    dsimp only
    cases hoperation : call.operation with
    | invite dto =>
      dsimp only
      refine commit_induction (p := Performed call s) .unchanged fun s' answer hok => ?_
      rcases inviteUser_eq_ok hok with ⟨rfl, -⟩ | ⟨row, rfl, -, hinvited⟩
      · exact .unchanged
      · exact .invited user dto row hoperation hactor hinvited
    | cancel invitationId => exact cancelled_performed user invitationId .cancelled
    | revoke invitationId => exact cancelled_performed user invitationId .revoked
    | resend invitationId => exact resent_performed user invitationId
    | accept invitationId =>
      dsimp only
      rcases acceptInvitation_cases call.now invitationId (user?_of_validate hactor).1 with
        ⟨invitation, hfound, htaken⟩ | ⟨hsame, -⟩ | ⟨-, hsame | hexpired⟩
      · rw [acceptInvitation_of_takenUp hfound htaken]
        exact .accepted user invitationId invitation hoperation hactor hfound htaken
      · rw [hsame]
        exact .unchanged
      · rw [hsame]
        exact .unchanged
      · rw [hexpired]
        exact .updated invitationId _ fun _ => ⟨rfl, rfl, rfl, rfl⟩
    | decline invitationId => exact declined_performed user invitationId

theorem perform_of_takenUp {invitationId : String} {invitation : Invitation}
    (hactor : validate s call.actorId = some user)
    (hoperation : call.operation = .accept invitationId)
    (hfound : s.invitation? invitationId = some invitation)
    (h : TakenUp call.now s user invitation) :
    perform call s = acceptedStore call.now s user invitation := by
  unfold perform
  rw [hactor, hoperation]
  dsimp only
  rw [acceptInvitation_of_takenUp hfound h]

/-- A call keeps what every invitation offers. -/
theorem offersKept_perform (call : Call) (s : Store) : OffersKept s (perform call s) := by
  have hperformed := perform_cases call s
  generalize perform call s = s' at hperformed
  cases hperformed with
  | unchanged => exact .of_eq rfl
  | invited => exact offersKept_insertInvitation s _
  | updated invitationId data hkeeps => exact offersKept_updateInvitation s invitationId hkeeps
  | accepted user invitationId invitation =>
    intro id row hrow
    rw [invitation?_acceptedStore]
    exact offersKept_updateInvitation s invitation.id
      (fun _ => ⟨rfl, rfl, rfl, field?_withField_of_ne _ _ (by decide)⟩) id row hrow

/-! ### Roles -/

/-- The roles an organization may give. -/
def organizationRoles : List UserRole := [.citizen, .provider, .pendingProvider, .dispatchOfficer]

/-- The roles of the internal administration that `isGovernanceAdminRole` does not name. -/
def unlistedRoles : List UserRole :=
  [.platformSuperAdmin, .operationsAdmin, .organizationOnboardingAdmin, .providerAdmin,
    .financeBillingAdmin,
    .complianceAuditAdmin, .securityAdmin, .investigationAdmin, .assetIntelligenceAdmin,
    .releaseOperationsAdmin, .backupRecoveryAdmin]

/-- What the checks of `inviteUser` let through for an organization. -/
theorem invitable_cases {role : UserRole} (hlisted : isGovernanceAdminRole role = false)
    (hsuper : role ≠ .superAdmin)
    (horg : role ≠ .orgAdmin) : role ∈ organizationRoles ∨ role ∈ unlistedRoles := by
  cases role <;> first | contradiction | decide

theorem not_organizationRole_of_unlisted {role : UserRole} (h : role ∈ unlistedRoles) :
    role ∉ organizationRoles := by
  revert h
  cases role <;> decide

theorem permissionsForRole_of_organizationRole {role : UserRole} (h : role ∈ organizationRoles) :
    permissionsForRole env role = [] := by
  simp only [organizationRoles, List.mem_cons, List.not_mem_nil, or_false] at h
  rcases h with rfl | rfl | rfl | rfl <;> rfl

/-! ### What an acceptance does to a user -/

/-- Whoever takes an invitation up has its role afterwards, or the role from before. -/
theorem role_inviteeData (invitation : Invitation) (row : User) :
    ((inviteeData invitation).apply row).role = invitation.role ∨
      ((inviteeData invitation).apply row).role = row.role := by
  unfold inviteeData
  dsimp only
  split
  · exact .inl rfl
  · exact .inr rfl

/-- Nobody but a super administrator keeps another role. -/
theorem role_inviteeData_of_unlisted {invitation : Invitation} {row : User}
    (hunlisted : invitation.role ∈ unlistedRoles)
    (hrow : row.role ≠ .superAdmin) : ((inviteeData invitation).apply row).role =
      invitation.role := by
  have hnot : providerMembershipOnly row invitation = false := by
    have hprovider : invitation.role ≠ .provider := by
      rintro hrole
      rw [hrole] at hunlisted
      revert hunlisted
      decide
    simp [providerMembershipOnly, hprovider]
  exact if_pos ⟨hrow, hnot⟩

/-! ### Staff -/

/-- Between two stores nobody has got a role but those of an organization, and nobody has got a
permission of the internal administration. -/
structure NoStaffBetween (env : ProcessEnv) (s s' : Store) : Prop where
  roles : ∀ userId after, s'.user? userId = some after →
    after.role ∈ organizationRoles ∨ ∃ before, s.user? userId = some before ∧
      before.role = after.role
  permissions : ∀ t userId p, Holds env t s' userId p → Holds env t s userId p

/-- The call mints no staff. -/
def MintsNoStaff (env : ProcessEnv) (s : Store) (call : Call) : Prop :=
  NoStaffBetween env s (perform call s)

/-- Who takes up an invitation for an unlisted role is a super administrator or has the role
already. -/
def TakesUpNoStaffRole (s : Store) (call : Call) : Prop :=
  ∀ user invitationId invitation, validate s call.actorId = some user →
    call.operation = .accept invitationId →
    s.invitation? invitationId = some invitation → TakenUp call.now s user invitation →
    invitation.role ∈ unlistedRoles → user.role = .superAdmin ∨ user.role = invitation.role

/-- The one who invites is not a super administrator. -/
def InvitedByOrganization (s : Store) (call : Call) : Prop :=
  ∀ user dto, validate s call.actorId = some user → call.operation = .invite dto →
    user.role ≠ .superAdmin

/-- The call takes up no invitation that is in `s`. -/
def TakesUpNew (s : Store) (call : Call) : Prop :=
  ∀ invitationId, call.operation = .accept invitationId → s.invitation? invitationId = none

/-- The invitations that are not in `s₀` are of roles that the checks let through for an
organization. -/
def OrganizationInvitations (s₀ s : Store) : Prop :=
  ∀ invitationId invitation, s.invitation? invitationId = some invitation →
    s₀.invitation? invitationId = none →
    invitation.role ∈ organizationRoles ∨ invitation.role ∈ unlistedRoles

theorem NoStaffBetween.refl (env : ProcessEnv) (s : Store) : NoStaffBetween env s s where
  roles _ after hafter := .inr ⟨after, hafter, rfl⟩
  permissions _ _ _ h := h

theorem NoStaffBetween.trans {s'' : Store} (h : NoStaffBetween env s s')
    (h' : NoStaffBetween env s' s'') :
    NoStaffBetween env s s'' where
  roles userId after hafter := by
    rcases h'.roles userId after hafter with hrole | ⟨between, hbetween, hrole⟩
    · exact .inl hrole
    · rcases h.roles userId between hbetween with hrole' | ⟨before, hbefore, hrole'⟩
      · exact .inl (hrole ▸ hrole')
      · exact .inr ⟨before, hbefore, hrole'.trans hrole⟩
  permissions t userId p hholds := h.permissions t userId p (h'.permissions t userId p hholds)

theorem NoStaffBetween.of_eq (husers : s'.users = s.users)
    (hassignments : s'.assignments = s.assignments) :
    NoStaffBetween env s s' where
  roles userId after hafter := .inr ⟨after, by rwa [Store.user?, husers] at hafter, rfl⟩
  permissions t userId p hholds := by
    obtain ⟨row, hrow, hp⟩ := hholds
    refine ⟨row, by rwa [Store.user?, husers] at hrow, ?_⟩
    rw [InternalAdminService.mem_effectivePermissions_iff] at hp ⊢
    rwa [InternalAdminService.activeAssignments, hassignments] at hp

/-- An invitation that changes keeps its role. -/
theorem OrganizationInvitations.updateInvitation (h : OrganizationInvitations s₀ s) (id : String)
    {data : Patch Invitation.id} (hdata : ∀ row, (data.apply row).role = row.role) :
    OrganizationInvitations s₀ (s.updateInvitation id data) := by
  intro invitationId invitation hfound hnew
  rw [Store.invitation?, Store.updateInvitation, Table.find?_modify] at hfound
  split at hfound
  · obtain ⟨before, hbefore, rfl⟩ := Option.map_eq_some_iff.mp hfound
    rw [hdata before]
    exact h invitationId before hbefore hnew
  · exact h invitationId invitation hfound hnew

theorem OrganizationInvitations.step (h : OrganizationInvitations s₀ s)
    (hinvites : InvitedByOrganization s call) :
    OrganizationInvitations s₀ (perform call s) := by
  have hperformed := perform_cases call s
  generalize perform call s = s' at hperformed
  cases hperformed with
  | unchanged => exact h
  | invited user dto row hoperation hactor hinvited =>
    intro invitationId invitation hfound hnew
    rw [Store.invitation?, Store.insertInvitation,
      Table.find?_insert_of_free (hinvited.id ▸ hinvited.free)] at hfound
    split at hfound
    · obtain rfl := Option.some.inj hfound
      refine invitable_cases hinvited.listed hinvited.not_superAdmin fun horg => ?_
      exact hinvites user dto hactor hoperation (hinvited.orgAdmin horg)
    · exact h invitationId invitation hfound hnew
  | updated id data hkeeps => exact h.updateInvitation id fun row => (hkeeps row).role
  | accepted user id accepted hoperation hactor hfound htaken =>
    intro invitationId invitation hafter hnew
    rw [invitation?_acceptedStore] at hafter
    exact h.updateInvitation accepted.id (fun _ => rfl) invitationId invitation hafter hnew

/-- Taking up an invitation mints no staff exactly where its role is for an organization to give, or
changes nothing. -/
theorem takenUp_noStaff_iff {invitation : Invitation} (h : TakenUp call.now s user invitation)
    (hactive : user.accountStatus = .active)
    (hrole : invitation.role ∈ organizationRoles ∨ invitation.role ∈ unlistedRoles) :
    NoStaffBetween env s (acceptedStore call.now s user invitation) ↔
      (invitation.role ∈ unlistedRoles → user.role = .superAdmin ∨
        user.role = invitation.role) := by
  have hafter : (acceptedStore call.now s user invitation).user? user.id =
      some ((inviteeData invitation).apply user) := by
    rw [user?_acceptedStore]
    exact Table.find?_modify_self _ h.user_found
  constructor
  · intro hnone hunlisted
    by_contra hnot
    rw [not_or] at hnot
    have hnew := role_inviteeData_of_unlisted hunlisted hnot.1
    rcases hnone.roles user.id _ hafter with horg | ⟨before, hbefore, hsame⟩
    · exact not_organizationRole_of_unlisted hunlisted (hnew ▸ horg)
    · obtain rfl := Option.some.inj (hbefore.symm.trans h.user_found)
      exact hnot.2 (hsame.trans hnew)
  · intro hstaff
    have hnewRole : ((inviteeData invitation).apply user).role ∈ organizationRoles ∨
        ((inviteeData invitation).apply user).role = user.role := by
      rcases role_inviteeData invitation user with hnew | hold
      · rcases hrole with horg | hunlisted
        · exact .inl (hnew ▸ horg)
        · rcases hstaff hunlisted with hsuper | hsame
          · right
            exact if_neg fun hnot => hnot.1 hsuper
          · exact .inr (hnew.trans hsame.symm)
      · exact .inr hold
    refine ⟨fun userId after hfound => ?_, fun t userId p hholds => ?_⟩
    · by_cases huser : userId = user.id
      · subst huser
        obtain rfl := Option.some.inj (hafter.symm.trans hfound)
        rcases hnewRole with horg | hsame
        · exact .inl horg
        · exact .inr ⟨user, h.user_found, hsame.symm⟩
      · rw [user?_acceptedStore, Store.user?, Store.updateUser,
          Table.find?_modify_of_ne _ huser] at hfound
        exact .inr ⟨after, hfound, rfl⟩
    · obtain ⟨row, hrow, hp⟩ := hholds
      rw [InternalAdminService.mem_effectivePermissions_iff, InternalAdminService.activeAssignments,
        assignments_acceptedStore] at hp
      by_cases huser : userId = user.id
      · subst huser
        obtain rfl := Option.some.inj (hafter.symm.trans hrow)
        refine ⟨user, h.user_found, InternalAdminService.mem_effectivePermissions_iff.mpr
          ⟨by rw [hactive]; decide, ?_⟩⟩
        refine hp.2.imp_left fun hp => ?_
        rcases hnewRole with horg | hsame
        · rw [permissionsForRole_of_organizationRole horg] at hp
          exact absurd hp List.not_mem_nil
        · rwa [hsame] at hp
      · rw [user?_acceptedStore, Store.user?, Store.updateUser,
          Table.find?_modify_of_ne _ huser] at hrow
        exact ⟨row, hrow, InternalAdminService.mem_effectivePermissions_iff.mpr hp⟩

/-- **A call mints no staff exactly when it takes up no invitation for an unlisted role.** -/
theorem mintsNoStaff_iff (h : OrganizationInvitations s₀ s) (hnew : TakesUpNew s₀ call) :
    MintsNoStaff env s call ↔ TakesUpNoStaffRole s call := by
  constructor
  · intro hmints user invitationId invitation hactor hoperation hfound htaken
    have hrole := h invitationId invitation hfound (hnew invitationId hoperation)
    rw [MintsNoStaff, perform_of_takenUp hactor hoperation hfound htaken] at hmints
    exact (takenUp_noStaff_iff htaken (validate_eq_some_iff.mp hactor).2 hrole).mp hmints
  · intro hstaff
    have hperformed := perform_cases call s
    unfold MintsNoStaff
    generalize perform call s = s' at hperformed
    cases hperformed with
    | unchanged => exact .refl env s
    | invited => exact .of_eq rfl rfl
    | updated => exact .of_eq rfl rfl
    | accepted user invitationId invitation hoperation hactor hfound htaken =>
      have hrole := h invitationId invitation hfound (hnew invitationId hoperation)
      exact (takenUp_noStaff_iff htaken (validate_eq_some_iff.mp hactor).2 hrole).mpr
        (hstaff user invitationId invitation hactor hoperation hfound htaken)

theorem noStaffBetween_run (s : Store) (calls : List Call)
    (h : Along perform (MintsNoStaff env) s calls) :
    NoStaffBetween env s (run perform s calls) := by
  induction calls generalizing s with
  | nil => exact .refl env s
  | cons call calls ih => exact h.1.trans (ih (perform call s) h.2)

/-- **Organizations and staff.** In a run in which no super administrator invites and the
invitations taken up were made in the run, every call mints no staff exactly when nobody takes up
an invitation for a role of the internal administration that the list of `inviteUser` misses; and
then nobody has a permission in the end that they did not have at the start. -/
theorem organization_staff_iff (env : ProcessEnv) (s : Store) (calls : List Call)
    (hinvites : Along perform InvitedByOrganization s calls)
    (hnew : ∀ call ∈ calls, TakesUpNew s call) :
    (Along perform (MintsNoStaff env) s calls ↔ Along perform TakesUpNoStaffRole s calls) ∧
      (Along perform TakesUpNoStaffRole s calls → NoStaffBetween env s (run perform s calls)) := by
  have hdomain := along_and.mp (hinvites.and_forall hnew)
  have hinitial : OrganizationInvitations s s := fun _ invitation hfound hnone => by
    rw [hfound] at hnone
    cases hnone
  have hiff := along_congr_of_inv (I := OrganizationInvitations s)
    (P := fun s' call => MintsNoStaff env s' call ∧ InvitedByOrganization s' call ∧
      TakesUpNew s call)
    (Q := fun s' call => TakesUpNoStaffRole s' call ∧ InvitedByOrganization s' call ∧
      TakesUpNew s call)
    (fun s' call h hcall => h.step hcall.2.1)
    (fun s' call h => and_congr_left fun hcall => mintsNoStaff_iff h hcall.2) hinitial calls
  simp only [along_and] at hiff
  rw [and_iff_left hdomain, and_iff_left hdomain] at hiff
  exact ⟨hiff, fun h => noStaffBetween_run s calls (hiff.mpr h)⟩

namespace Example

def orgAdmin : User := { id := "admin", role := .orgAdmin, organizationId := some "lagos" }

def citizen : User := { id := "citizen", phone := some "+2348000000000" }

def organizationStore : Store :=
  Store.ofUsers ⟨[orgAdmin, citizen], by simp [orgAdmin, citizen]⟩ ⟨[{ id := "lagos" }], by simp⟩

/-- The administrator of an organization invites somebody under a role. -/
def invites (role : String) : Call where
  actorId := "admin"
  operation := .invite { role := some (.str role), phone := some (.str "+2348000000000") }
  now := 0
  newId := "invitation"

/-- The invited citizen accepts. -/
def accepts : Call where
  actorId := "citizen"
  operation := .accept "invitation"
  now := 1
  newId := ""

theorem invitedByOrganization (role : String) :
    Along perform InvitedByOrganization organizationStore [invites role, accepts] := by
  refine ⟨fun user dto hactor _ => ?_, fun user dto _ hoperation => ?_, trivial⟩
  · obtain rfl : orgAdmin = user := Option.some.inj hactor
    decide
  · cases hoperation

theorem takesUpNew (role : String) : ∀ call ∈ [invites role, accepts],
    TakesUpNew organizationStore call :=
  fun _ _ _ _ => rfl

/-- The role of the invitation that was made. -/
theorem dispatchOfficer_invited :
    ((perform (invites "DISPATCH_OFFICER") organizationStore).invitation? "invitation").map
    (·.role) =
      some .dispatchOfficer := by
  decide +kernel

end Example

open Example in
/-- A citizen who becomes a dispatch officer gets no permission of the internal administration. -/
theorem dispatchOfficer_no_staff : NoStaffBetween (fun _ => none) organizationStore
    (run perform organizationStore [invites "DISPATCH_OFFICER", accepts]) := by
  refine (organization_staff_iff _ _ _ (invitedByOrganization _) (takesUpNew _)).2 ⟨?_, ?_, trivial⟩
  · intro user invitationId invitation _ hoperation
    cases hoperation
  · intro user invitationId invitation _ hoperation hfound _ hunlisted
    obtain rfl : "invitation" = invitationId := by simpa [accepts] using hoperation
    have hrole := dispatchOfficer_invited
    rw [hfound, Option.map_some, Option.some.injEq] at hrole
    rw [hrole] at hunlisted
    exact absurd hunlisted (by decide)

open Example in
/-- An organization makes a citizen an administrator of the platform's finances. -/
theorem organization_mints_finance_administrator :
    ¬ ∀ (env : ProcessEnv) (s : Store) (calls : List Call),
      Along perform InvitedByOrganization s calls →
      (∀ call ∈ calls, TakesUpNew s call) → NoStaffBetween env s (run perform s calls) := by
  intro h
  have hnone := h (fun _ => none) organizationStore _
    (invitedByOrganization "FINANCE_BILLING_ADMIN") (takesUpNew _)
  have hafter : Holds (fun _ => none) 1
    (run perform organizationStore [invites "FINANCE_BILLING_ADMIN", accepts]) "citizen"
      .paymentRefundRequest := by
    rw [InternalAdminService.holds_iff]
    decide +kernel
  have hbefore := hnone.permissions 1 "citizen" .paymentRefundRequest hafter
  rw [InternalAdminService.holds_iff] at hbefore
  revert hbefore
  decide +kernel

end FixZone.UsersService
