import FixZone.Auth.PasswordReset
import FixZone.Users.Quotas

/-!
# Privileged accounts and the operators of an organization

Five operations of `UsersService` change the account of another user, and an organization's
administrators and dispatch officers may call them for the users of their organization. Those
include internal administrators of the platform, who get an organization with a scope of theirs.

The operations differ in whom they keep from the operators. `resetPassword` lets them at providers
and citizens only, and the two on provider requests at pending providers. But `updateUser` and
`setUserStatus` ask only that the user is no `SUPER_ADMIN`, so for every other privileged role an
operator can write the phone and the status. These are the only ways, and the accounts stay as they
are exactly when neither is taken (`privileged_untouched_iff`).
-/

namespace FixZone.PasswordReset

open Library Accounts PrivilegedMfaService
open ReportService (HttpError)

/-! ### A request made to its end -/

/-- The steps of a call, one after the other, as far as there are inputs for them. -/
def proceed (d : Deployment) : Call → List Input → World → World
  | _, [], w => w
  | call, input :: inputs, w =>
    match advance d input w call with
    | (w', .goesOn call') => proceed d call' inputs w'
    | (w', .returns _) => w'

/-- The call is about the reset tokens of one user. -/
def Concerns (targetUserId : String) (w : World) : Call → Prop
  | .request (.issueAdministrativePasswordReset id) => id = targetUserId
  | .createPasswordResetToken id => id = targetUserId
  | .checkRate id => id = targetUserId
  | .storeToken id => id = targetUserId
  | .deliver resetTokenId => ∀ row, w.store.resetTokens.find? resetTokenId = some row →
      row.userId = targetUserId
  | _ => False

/-- The reset tokens of a user. -/
def tokensOf (s : AuthStore) (userId : String) : List PasswordResetToken :=
  s.resetTokens.rows.filter (·.userId = userId)

/-- From one store to the other nothing changes but the reset tokens of one user. -/
structure OnlyTokensOf (targetUserId : String) (s s' : AuthStore) : Prop where
  accounts : s'.accounts = s.accounts
  enrollments : s'.enrollments = s.enrollments
  backupCodes : s'.backupCodes = s.backupCodes
  tokens : ∀ userId ≠ targetUserId, tokensOf s' userId = tokensOf s userId

variable {d : Deployment} {input : Input} {w : World} {call : Call} {targetUserId : String}

theorem OnlyTokensOf.refl (targetUserId : String) (s : AuthStore) :
    OnlyTokensOf targetUserId s s := ⟨rfl, rfl, rfl, fun _ _ => rfl⟩

theorem OnlyTokensOf.trans {s s' s'' : AuthStore} (h : OnlyTokensOf targetUserId s s')
    (h' : OnlyTokensOf targetUserId s' s'') : OnlyTokensOf targetUserId s s'' where
  accounts := h'.accounts.trans h.accounts
  enrollments := h'.enrollments.trans h.enrollments
  backupCodes := h'.backupCodes.trans h.backupCodes
  tokens userId hne := (h'.tokens userId hne).trans (h.tokens userId hne)

/-- A change that leaves every row to its user and the rows of this user alone. -/
theorem tokensOf_map {s s' : AuthStore} {f : PasswordResetToken → PasswordResetToken}
    {userId : String} (hrows : s'.resetTokens.rows = s.resetTokens.rows.map f)
    (huser : ∀ row, (f row).userId = row.userId)
    (hsame : ∀ row ∈ s.resetTokens.rows, row.userId = userId → f row = row) :
    tokensOf s' userId = tokensOf s userId := by
  rw [tokensOf, hrows, List.filter_map]
  simp only [Function.comp_def, huser]
  refine (List.map_congr_left fun row hrow => ?_).trans (List.map_id _)
  obtain ⟨hmem, hown⟩ := List.mem_filter.mp hrow
  exact hsame row hmem (decide_eq_true_eq.mp hown)

theorem userId_patched (tokenId : String) (now : Millis) (row : PasswordResetToken) :
    (Table.patchAt tokenId (supersededData now) row).userId = row.userId := by
  unfold Table.patchAt
  split <;> rfl

/-- The transaction that issues a token is about the tokens of its user. -/
theorem issuedStore_onlyTokensOf {now : Millis} {s : AuthStore} {row : PasswordResetToken}
    (hfree : s.resetTokens.find? row.id = none) :
    OnlyTokensOf row.userId s (issuedStore now s row) := by
  refine ⟨rfl, rfl, rfl, fun userId hne => ?_⟩
  let superseded : AuthStore := { s with
    resetTokens := s.resetTokens.modifyWhere (isOpen row.userId now) (supersededData now) }
  have hrows : (issuedStore now s row).resetTokens.rows = superseded.resetTokens.rows ++ [row] :=
    Table.rows_insert_of_free (Table.find?_modifyWhere_eq_none hfree _ _)
  have hothers : tokensOf superseded userId = tokensOf s userId := by
    refine tokensOf_map rfl (fun other => by split <;> rfl) fun other _ hother => if_neg ?_
    intro hopen
    simp only [isOpen, Bool.and_eq_true, decide_eq_true_eq] at hopen
    exact hne (hother.symm.trans hopen.1.1.1)
  rw [tokensOf, hrows, List.filter_append, List.filter_singleton, decide_eq_false (Ne.symm hne),
    cond_false, List.append_nil, ← tokensOf, hothers]

theorem recordDelivery_onlyTokensOf {s : AuthStore} {tokenId : String}
    (hconcerns : ∀ row, s.resetTokens.find? tokenId = some row → row.userId = targetUserId) :
    OnlyTokensOf targetUserId s (recordDelivery input s tokenId) := by
  unfold recordDelivery
  split
  · exact .refl _ _
  · refine ⟨rfl, rfl, rfl, fun userId hne => ?_⟩
    refine tokensOf_map rfl (userId_patched tokenId input.now) fun row hmem hown => if_neg ?_
    rintro rfl
    exact hne (hown.symm.trans (hconcerns row (Table.mem_rows_iff.mp hmem)))

/-- A step changes only the tokens of a user, and the next step is about them too. -/
def StaysWith (targetUserId : String) (w : World) (step : Step) : Prop :=
  OnlyTokensOf targetUserId w.store step.1.store ∧
    ∀ call, step.2 = .goesOn call → Concerns targetUserId step.1 call

theorem staysWith_returns (targetUserId : String) (w : World) (answer : Except HttpError Answer) :
    StaysWith targetUserId w (w, .returns answer) := ⟨.refl _ _, nofun⟩

theorem staysWith_goesOn (h : Concerns targetUserId w call) :
    StaysWith targetUserId w (w, .goesOn call) :=
  ⟨.refl _ _, fun _ hnext => Next.goesOn.inj hnext ▸ h⟩

theorem staysWith_acceptUnless (stops : Bool) (h : Concerns targetUserId w call) :
    StaysWith targetUserId w (acceptUnless w stops call) := by
  cases stops with
  | false => exact staysWith_goesOn h
  | true => exact staysWith_returns _ _ _

/-- A step that is about the tokens of a user stays with them. -/
theorem Concerns.advance (h : Concerns targetUserId w call) :
    StaysWith targetUserId w (advance d input w call) := by
  cases call with
  | request request =>
    cases request with
    | issueAdministrativePasswordReset id => exact staysWith_goesOn h
    | _ => exact h.elim
  | createPasswordResetToken id =>
    rw [PasswordReset.advance, createPasswordResetTokenStep]
    split
    · exact staysWith_returns _ _ _
    · exact staysWith_acceptUnless _ h
  | checkRate id =>
    rw [PasswordReset.advance]
    exact staysWith_acceptUnless _ h
  | storeToken id =>
    obtain rfl : id = targetUserId := h
    rw [PasswordReset.advance]
    cases hissued : issueToken input.now w.store (resetToken d input id) with
    | error e => exact staysWith_returns _ _ _
    | ok s =>
      obtain ⟨-, hissued⟩ := throwIf_bind_eq_ok.mp hissued
      obtain ⟨hfree, hissued⟩ := throwIf_bind_eq_ok.mp hissued
      obtain rfl := pure_eq_ok.mp hissued
      rw [not_or, Bool.not_eq_true, Option.isSome_eq_false_iff, Option.isNone_iff_eq_none] at hfree
      refine ⟨issuedStore_onlyTokensOf hfree.1, fun call hnext => ?_⟩
      obtain rfl := Next.goesOn.inj hnext
      intro row hrow
      have hfound := Table.find?_insert_self
        (Table.find?_modifyWhere_eq_none hfree.1 (isOpen id input.now) (supersededData input.now))
      obtain rfl := Option.some.inj (hfound.symm.trans hrow)
      rfl
  | deliver resetTokenId =>
    refine ⟨recordDelivery_onlyTokensOf h, fun call hnext => ?_⟩
    cases hnext
  | storePassword record now passwordHash => exact h.elim

/-- A request for a reset of a user, made to its end or broken off, is about their tokens. -/
theorem Concerns.proceed (inputs : List Input) (h : Concerns targetUserId w call) :
    OnlyTokensOf targetUserId w.store (proceed d call inputs w).store := by
  induction inputs generalizing call w with
  | nil => exact .refl _ _
  | cons input inputs ih =>
    obtain ⟨honly, hnext⟩ : StaysWith targetUserId w (PasswordReset.advance d input w call) :=
      h.advance
    rw [PasswordReset.proceed]
    split
    · next w' call' hstep =>
      rw [hstep] at honly hnext
      exact honly.trans (ih (hnext call' rfl))
    · next w' answer hstep =>
      rw [hstep] at honly
      exact honly

end FixZone.PasswordReset

namespace FixZone.UsersService

open Library Accounts PrivilegedMfaService
open ReportService (HttpError forbidden)
open PasswordReset (tokensOf)

/-! ### The operations -/

/-- `setUserStatus`. -/
def setUserStatus (s : Store) (user : User) (id : String) (status : AccountStatus) :
    Except HttpError (Store × PUnit) := do
  let counts ← setUserStatusTarget s user id status
  checkWhen counts (assertNotFinalSuperAdmin s id)
  let updated ← writeUserStatus s id status
  return (updated, ⟨⟩)

/-- `rejectProviderRequest`. -/
def rejectProviderRequest (s : Store) (user : User) (id : String) :
    Except HttpError (Store × PUnit) := do
  let existing ← getUser s user id
  throwIf (existing.role ≠ .pendingProvider) (forbidden "User is not a pending provider request")
  let updated ← writeUserStatus s id .deactivated
  return (updated, ⟨⟩)

/-- `resetPassword`. The service for reset tokens may be missing; a request to it is made as far as
there are inputs for its steps. -/
def resetPassword (authService : Option PasswordReset.Deployment)
    (inputs : List PasswordReset.Input) (s : AuthStore) (user : User) (id : String) :
    Except HttpError AuthStore := do
  let existing ← getUser s.accounts user id
  throwIf (user.role ≠ .superAdmin ∧ existing.role ≠ .provider ∧ existing.role ≠ .citizen)
    (forbidden "Only Super Admin can reset administrator passwords")
  let d ← orThrow authService (forbidden "Password recovery delivery is not configured.")
  throwIf (user.id = "") (forbidden "Actor missing")
  return (PasswordReset.proceed d (.request (.issueAdministrativePasswordReset id)) inputs
    (.start s)).store

/-- What is asked of the service, with what comes from outside: the inputs of the steps of a reset,
and the id for a provider who has none. -/
inductive AdministrativeCall where
  | updateUser (id : String) (dto : UpdateUserDto)
  | setUserStatus (id : String) (status : AccountStatus)
  | resetPassword (id : String) (inputs : List PasswordReset.Input)
  | approveProviderRequest (id newProviderId : String)
  | rejectProviderRequest (id : String)

/-- The store after a call. -/
def administer (authService : Option PasswordReset.Deployment) (s : AuthStore) (user : User) :
    AdministrativeCall → AuthStore
  | .updateUser id dto =>
      s.setAccounts (commit s.accounts (updateUser s.accounts user id dto)).store
  | .setUserStatus id status =>
      s.setAccounts (commit s.accounts (setUserStatus s.accounts user id status)).store
  | .resetPassword id inputs => (resetPassword authService inputs s user id).toOption.getD s
  | .approveProviderRequest id newProviderId =>
      s.setAccounts
        (commit s.accounts (approveProviderRequest newProviderId s.accounts user id)).store
  | .rejectProviderRequest id =>
      s.setAccounts (commit s.accounts (rejectProviderRequest s.accounts user id)).store

/-! ### What is asked of a call -/

/-- What an operator is not to change of a privileged account: its status, role, contact data, and
the columns a login is checked against. -/
structure ProtectedColumns where
  accountStatus : AccountStatus
  role : UserRole
  email : Option String
  phone : Option String
  emailVerifiedAt : Option Millis
  phoneVerifiedAt : Option Millis
  passwordHash : Option String
  tokenVersion : ℕ
  firebaseUid : Option String
  deriving DecidableEq

/-- Those columns of a row. -/
def protectedColumns (row : User) : ProtectedColumns where
  accountStatus := row.accountStatus
  role := row.role
  email := row.email
  phone := row.phone
  emailVerifiedAt := row.emailVerifiedAt
  phoneVerifiedAt := row.phoneVerifiedAt
  passwordHash := row.passwordHash
  tokenVersion := row.tokenVersion
  firebaseUid := row.firebaseUid

/-- Privileged accounts are there as they were, with their second factors and reset tokens. -/
structure PrivilegedUntouched (s s' : AuthStore) : Prop where
  columns : ∀ id row, s.accounts.user? id = some row → requiresPrivilegedMfa row.role = true →
    (s'.accounts.user? id).map protectedColumns = some (protectedColumns row)
  enrollments : s'.enrollments = s.enrollments
  backupCodes : s'.backupCodes = s.backupCodes
  tokens : ∀ id row, s.accounts.user? id = some row → requiresPrivilegedMfa row.role = true →
    tokensOf s' id = tokensOf s id

/-- An operator of an organization. -/
def IsOperator (user : User) : Prop := user.role = .orgAdmin ∨ user.role = .dispatchOfficer

/-- The user is a privileged one of the operator's organization, and no `SUPER_ADMIN`. -/
structure Exposed (s : Store) (user : User) (id : String) (row : User) : Prop where
  found : s.user? id = some row
  privileged : requiresPrivilegedMfa row.role = true
  notSuper : row.role ≠ .superAdmin
  assigned : truthy user.organizationId = true
  organization : row.organizationId = user.organizationId

/-- The call gives such a user another phone, that no one else has, or another status, where the
user is not the operator. -/
inductive Exposes (s : Store) (user : User) : AdministrativeCall → Prop where
  | phone {id : String} {dto : UpdateUserDto} {row : User} {text : String}
      (exposed : Exposed s user id row) (sent : stringOf dto.phone = some text)
      (other : trimmedOrNull (some text) ≠ row.phone)
      (free : uniqueFor s id User.phone (some (trimmedOrNull (some text))) = true) :
      Exposes s user (.updateUser id dto)
  | status {id : String} {status : AccountStatus} {row : User}
      (exposed : Exposed s user id row) (notOwn : user.id ≠ id)
      (other : status ≠ row.accountStatus) :
      Exposes s user (.setUserStatus id status)

variable {authService : Option PasswordReset.Deployment} {s s' : AuthStore} {user row : User}
  {id : String}

/-! ### What the operations read -/

theorem unprivileged {role : UserRole}
    (h : role = .provider ∨ role = .pendingProvider ∨ role = .citizen) :
    requiresPrivilegedMfa role = false := by
  rcases h with rfl | rfl | rfl <;> rfl

theorem ne_provider_of_privileged (h : requiresPrivilegedMfa row.role = true) :
    row.role ≠ .provider := by
  intro hrole
  rw [unprivileged (.inl hrole)] at h
  cases h

theorem IsOperator.ne_superAdmin (huser : IsOperator user) : user.role ≠ .superAdmin := by
  rcases huser with h | h <;> rw [h] <;> decide

/-- The scope of an operator is the organization, as far as privileged users go. -/
theorem getUser_privileged {accounts : Store} (huser : IsOperator user)
    (hprivileged : requiresPrivilegedMfa row.role = true) :
    getUser accounts user id = .ok row ↔ accounts.user? id = some row ∧
      truthy user.organizationId = true ∧ row.organizationId = user.organizationId := by
  have hsuper := huser.ne_superAdmin
  have hprovider := ne_provider_of_privileged hprivileged
  have hallowed : ¬ (user.role ≠ .superAdmin ∧ user.role ≠ .orgAdmin ∧
      user.role ≠ .dispatchOfficer) := fun h => huser.elim h.2.1 h.2.2
  constructor
  · intro h
    obtain ⟨scope, hscope, h⟩ := bind_eq_ok.mp h
    obtain ⟨-, hscope⟩ := throwIf_bind_eq_ok.mp hscope
    obtain ⟨hassigned, hscope⟩ := throwIf_bind_eq_ok.mp hscope
    obtain rfl := pure_eq_ok.mp hscope
    obtain ⟨hfound, hin⟩ := Option.filter_eq_some_iff.mp (orThrow_eq_ok.mp h)
    rw [not_and, Bool.not_eq_false] at hassigned
    refine ⟨hfound, hassigned hsuper, ?_⟩
    simpa [hsuper, hprovider] using hin
  · rintro ⟨hfound, hassigned, horganization⟩
    refine bind_eq_ok.mpr ⟨_, throwIf_bind_eq_ok.mpr ⟨hallowed, throwIf_bind_eq_ok.mpr
      ⟨fun h => ?_, rfl⟩⟩, orThrow_eq_ok.mpr (Option.filter_eq_some_iff.mpr ⟨hfound, ?_⟩)⟩
    · rw [hassigned] at h
      cases h.2
    · simp [horganization]

/-! ### What the operations write -/

theorem PrivilegedUntouched.refl (s : AuthStore) : PrivilegedUntouched s s :=
  ⟨fun _ _ hrow _ => by rw [hrow, Option.map_some], rfl, rfl, fun _ _ _ _ => rfl⟩

/-- A write to one user leaves the privileged accounts exactly when it leaves that one, if it is
privileged. -/
theorem untouched_modify_iff {accounts : Store} {data : Patch User.id}
    (husers : accounts.users = s.accounts.users.modify id data) :
    PrivilegedUntouched s (s.setAccounts accounts) ↔
      ∀ row, s.accounts.user? id = some row → requiresPrivilegedMfa row.role = true →
        protectedColumns (data.apply row) = protectedColumns row := by
  have hwritten : ∀ userId, accounts.user? userId =
      if userId = id then (s.accounts.user? userId).map data.apply else s.accounts.user? userId :=
    fun userId => (congrArg (·.find? userId) husers).trans (Table.find?_modify _ _ _ _)
  constructor
  · intro h row hrow hprivileged
    have hcolumns := h.columns id row hrow hprivileged
    rw [AuthStore.setAccounts, hwritten, if_pos rfl, hrow] at hcolumns
    exact Option.some.inj hcolumns
  · intro h
    refine ⟨fun userId row hrow hprivileged => ?_, rfl, rfl, fun _ _ _ _ => rfl⟩
    rw [AuthStore.setAccounts, hwritten]
    split
    · next hid =>
      subst hid
      rw [hrow, Option.map_some, Option.map_some, h row hrow hprivileged]
    · rw [hrow, Option.map_some]

/-- What an operation on a provider writes is no privileged account. -/
theorem untouched_of_unprivileged {accounts : Store} {data : Patch User.id}
    (husers : accounts.users = s.accounts.users.modify id data)
    (hrow : s.accounts.user? id = some row) (hrole : requiresPrivilegedMfa row.role = false) :
    PrivilegedUntouched s (s.setAccounts accounts) := by
  refine (untouched_modify_iff husers).mpr fun row' hrow' hprivileged => ?_
  obtain rfl := Option.some.inj (hrow.symm.trans hrow')
  rw [hrole] at hprivileged
  cases hprivileged

theorem users_joinOrganization (accounts : Store) (providerId : String) (joined : Option String)
    (isPrimary : Bool) :
    (joinOrganization accounts providerId joined isPrimary).users = accounts.users := by
  cases joined <;> rfl

theorem approveProviderRequest_untouched (user : User) (id newProviderId : String) :
    PrivilegedUntouched s (administer authService s user
      (.approveProviderRequest id newProviderId)) := by
  refine commit_induction (p := fun accounts => PrivilegedUntouched s (s.setAccounts accounts))
    (.refl s) fun accounts _ hok => ?_
  obtain ⟨existing, happroves, rfl⟩ := approveProviderRequest_eq_ok.mp hok
  obtain ⟨hfound, hid⟩ := user?_of_getUser happroves.found
  exact untouched_of_unprivileged (users_joinOrganization _ _ _ _) (hid ▸ hfound)
    (unprivileged (.inr (.inl happroves.pending)))

theorem rejectProviderRequest_untouched (user : User) (id : String) :
    PrivilegedUntouched s (administer authService s user (.rejectProviderRequest id)) := by
  refine commit_induction (p := fun accounts => PrivilegedUntouched s (s.setAccounts accounts))
    (.refl s) fun accounts _ hok => ?_
  unfold rejectProviderRequest at hok
  obtain ⟨existing, hexisting, hok⟩ := bind_eq_ok.mp hok
  obtain ⟨hpending, hok⟩ := throwIf_bind_eq_ok.mp hok
  obtain ⟨updated, hupdated, hok⟩ := bind_eq_ok.mp hok
  obtain ⟨-, hupdated⟩ := throwIf_bind_eq_ok.mp hupdated
  obtain rfl := pure_eq_ok.mp hupdated
  cases pure_eq_ok.mp hok
  obtain ⟨hfound, hid⟩ := user?_of_getUser hexisting
  exact untouched_of_unprivileged rfl (hid ▸ hfound)
    (unprivileged (.inr (.inl (not_not.mp hpending))))

theorem resetPassword_untouched (huser : IsOperator user) (id : String)
    (inputs : List PasswordReset.Input) :
    PrivilegedUntouched s (administer authService s user (.resetPassword id inputs)) := by
  rw [administer]
  cases hok : resetPassword authService inputs s user id with
  | error e => exact .refl s
  | ok s' =>
    unfold resetPassword at hok
    obtain ⟨existing, hexisting, hok⟩ := bind_eq_ok.mp hok
    obtain ⟨hrole, hok⟩ := throwIf_bind_eq_ok.mp hok
    obtain ⟨d, -, hok⟩ := orThrow_bind_eq_ok.mp hok
    obtain ⟨-, hok⟩ := throwIf_bind_eq_ok.mp hok
    obtain rfl := pure_eq_ok.mp hok
    obtain ⟨hfound, hid⟩ := user?_of_getUser hexisting
    have hplain : requiresPrivilegedMfa existing.role = false := by
      by_contra h
      refine hrole ⟨huser.ne_superAdmin, fun hprovider => ?_, fun hcitizen => ?_⟩
      · exact h (unprivileged (.inl hprovider))
      · exact h (unprivileged (.inr (.inr hcitizen)))
    have honly := PasswordReset.Concerns.proceed (d := d) (w := .start s) inputs
      (show PasswordReset.Concerns id _ (.request (.issueAdministrativePasswordReset id)) from rfl)
    refine ⟨fun userId row hrow _ => ?_, honly.enrollments, honly.backupCodes,
      fun userId row hrow hprivileged => honly.tokens userId ?_⟩
    · rw [Except.toOption, Option.getD_some, honly.accounts]
      exact congrArg _ hrow
    · rintro rfl
      obtain rfl := Option.some.inj ((hid ▸ hfound).symm.trans hrow)
      rw [hplain] at hprivileged
      cases hprivileged

/-! ### The two operations that ask for `SUPER_ADMIN` only -/

/-- What an operator finds of a privileged user, where the operation goes on. -/
theorem exposed_iff {accounts : Store} (huser : IsOperator user)
    (hprivileged : requiresPrivilegedMfa row.role = true) :
    getUser accounts user id = .ok row ∧ ¬ (user.role ≠ .superAdmin ∧ row.role = .superAdmin) ↔
      Exposed accounts user id row := by
  rw [getUser_privileged huser hprivileged, not_and]
  constructor
  · rintro ⟨⟨hfound, hassigned, horganization⟩, hnotSuper⟩
    exact ⟨hfound, hprivileged, hnotSuper huser.ne_superAdmin, hassigned, horganization⟩
  · intro h
    exact ⟨⟨h.found, h.assigned, h.organization⟩, fun _ => h.notSuper⟩

/-- `setUserStatus` of a user whom the operator finds. -/
theorem setUserStatus_eq_ok {accounts accounts' : Store} {status : AccountStatus}
    (h : setUserStatus accounts user id status = .ok (accounts', ⟨⟩)) :
    ∃ existing, getUser accounts user id = .ok existing ∧
      ¬ (user.role ≠ .superAdmin ∧ existing.role = .superAdmin) ∧ user.id ≠ id ∧
        accounts' = accounts.updateUser id (statusData status) := by
  unfold setUserStatus at h
  obtain ⟨counts, htarget, h⟩ := bind_eq_ok.mp h
  obtain ⟨hown, htarget⟩ := throwIf_bind_eq_ok.mp htarget
  obtain ⟨existing, hexisting, htarget⟩ := bind_eq_ok.mp htarget
  obtain ⟨hnotSuper, -⟩ := throwIf_bind_eq_ok.mp htarget
  obtain ⟨-, h⟩ := check_bind_eq_ok.mp h
  obtain ⟨updated, hupdated, h⟩ := bind_eq_ok.mp h
  obtain ⟨-, hupdated⟩ := throwIf_bind_eq_ok.mp hupdated
  obtain rfl := pure_eq_ok.mp hupdated
  cases pure_eq_ok.mp h
  exact ⟨existing, hexisting, hnotSuper, hown, rfl⟩

theorem setUserStatus_of_exposed {accounts : Store} {status : AccountStatus}
    (huser : IsOperator user) (h : Exposed accounts user id row) (hown : user.id ≠ id) :
    setUserStatus accounts user id status =
      .ok (accounts.updateUser id (statusData status), ⟨⟩) := by
  obtain ⟨hexisting, hnotSuper⟩ := (exposed_iff huser h.privileged).mpr h
  have hcounts : (decide (row.role = .superAdmin) && decide (status ≠ .active)) = false := by
    rw [decide_eq_false h.notSuper, Bool.false_and]
  refine bind_eq_ok.mpr ⟨false, throwIf_bind_eq_ok.mpr ⟨hown, bind_eq_ok.mpr ⟨row, hexisting,
    throwIf_bind_eq_ok.mpr ⟨hnotSuper, pure_eq_ok.mpr hcounts⟩⟩⟩, check_bind_eq_ok.mpr ⟨rfl,
    bind_eq_ok.mpr ⟨_, throwIf_bind_eq_ok.mpr ⟨?_, rfl⟩, rfl⟩⟩⟩
  rw [h.found]
  exact Bool.false_ne_true

theorem setUserStatus_untouched_iff (huser : IsOperator user) (id : String)
    (status : AccountStatus) :
    PrivilegedUntouched s (administer authService s user (.setUserStatus id status)) ↔
      ¬ Exposes s.accounts user (.setUserStatus id status) := by
  constructor
  · intro h hexposes
    cases hexposes with | @status _ _ row hexposed hown hother => ?_
    rw [administer, setUserStatus_of_exposed huser hexposed hown] at h
    have hcolumns := (untouched_modify_iff rfl).mp h row hexposed.found hexposed.privileged
    exact hother (congrArg ProtectedColumns.accountStatus hcolumns)
  · intro hnot
    refine commit_induction (p := fun accounts => PrivilegedUntouched s (s.setAccounts accounts))
      (.refl s) fun accounts _ hok => ?_
    obtain ⟨existing, hexisting, hnotSuper, hown, rfl⟩ := setUserStatus_eq_ok hok
    obtain ⟨hfound, rfl⟩ := user?_of_getUser hexisting
    refine (untouched_modify_iff rfl).mpr fun row hrow hprivileged => ?_
    obtain rfl := Option.some.inj (hfound.symm.trans hrow)
    by_contra hdiffers
    have hexposed := (exposed_iff huser hprivileged).mp ⟨hexisting, hnotSuper⟩
    refine hnot (.status hexposed hown ?_)
    rintro rfl
    exact hdiffers rfl

/-- The columns an operator writes of a privileged user. -/
def operatorUpdate (dto : UpdateUserDto) : UserUpdateInput where
  phone := (stringOf dto.phone).map fun text => trimmedOrNull (some text)
  fullName := (stringOf dto.fullName).bind fun text => trimmedOrNull (some text)

theorem updateUserInput_of_exposed {accounts : Store} (huser : IsOperator user)
    (h : Exposed accounts user id row) (dto : UpdateUserDto) :
    updateUserInput accounts user id dto = .ok (operatorUpdate dto) := by
  obtain ⟨hexisting, hnotSuper⟩ := (exposed_iff huser h.privileged).mpr h
  have hprovider := ne_provider_of_privileged h.privileged
  have hemail : emailUpdate accounts row dto.email = .ok none := by
    unfold emailUpdate
    split
    · rw [if_neg hprovider]
    · rfl
  have hrole : roleUpdate user dto.role = .ok none := by
    unfold roleUpdate
    split
    · rw [if_neg huser.ne_superAdmin]
    · rfl
  refine bind_eq_ok.mpr ⟨row, hexisting, throwIf_bind_eq_ok.mpr ⟨hnotSuper, bind_eq_ok.mpr ⟨none,
    hemail, bind_eq_ok.mpr ⟨none, hrole, pure_eq_ok.mpr ?_⟩⟩⟩⟩
  rw [if_neg huser.ne_superAdmin, if_neg hprovider, operatorUpdate]

theorem writeUserUpdate_exposed {accounts accounts' : Store} (h : Exposed accounts user id row)
    (dto : UpdateUserDto) : writeUserUpdate accounts id (operatorUpdate dto) = .ok accounts' ↔
      uniqueFor accounts id User.phone (operatorUpdate dto).phone = true ∧
        accounts' = accounts.updateUser id (operatorUpdate dto).patch := by
  have hunwritten : ∀ column : User → Option String, uniqueFor accounts id column none = true :=
    fun column => List.all_eq_true.mpr fun _ _ => Bool.or_true _
  have hfound : ¬ (accounts.user? id).isNone = true := by
    rw [h.found]
    exact Bool.false_ne_true
  unfold writeUserUpdate
  rw [throwIf_bind_eq_ok, check_bind_eq_ok, throwIf_bind_eq_ok, pure_eq_ok]
  constructor
  · rintro ⟨-, -, hunique, rfl⟩
    exact ⟨by simpa using fun hphone => hunique (.inl hphone), rfl⟩
  · rintro ⟨hunique, rfl⟩
    refine ⟨hfound, checkOrganization_eq_ok.mpr nofun, ?_, rfl⟩
    rintro (hphone | hemail | hprovider)
    · rw [hunique] at hphone
      cases hphone
    · rw [operatorUpdate, hunwritten] at hemail
      cases hemail
    · rw [operatorUpdate, hunwritten] at hprovider
      cases hprovider

theorem protectedColumns_operatorUpdate (dto : UpdateUserDto) (row : User) :
    protectedColumns ((operatorUpdate dto).patch.apply row) = protectedColumns row ↔
      (operatorUpdate dto).phone.getD row.phone = row.phone := by
  constructor
  · exact congrArg ProtectedColumns.phone
  · intro hphone
    simp [protectedColumns, operatorUpdate] at hphone ⊢
    exact hphone

theorem operatorUpdate_phone {dto : UpdateUserDto} {text : String}
    (hsent : stringOf dto.phone = some text) :
    (operatorUpdate dto).phone = some (trimmedOrNull (some text)) := by
  rw [operatorUpdate, hsent, Option.map_some]

theorem updateUser_untouched_iff (huser : IsOperator user) (id : String) (dto : UpdateUserDto) :
    PrivilegedUntouched s (administer authService s user (.updateUser id dto)) ↔
      ¬ Exposes s.accounts user (.updateUser id dto) := by
  constructor
  · intro h hexposes
    cases hexposes with | @phone _ _ row text hexposed hsent hother hfree => ?_
    have hphone := operatorUpdate_phone hsent
    have hwritten := (writeUserUpdate_exposed hexposed dto).mpr ⟨hphone ▸ hfree, rfl⟩
    have hok : updateUser s.accounts user id dto =
        .ok (s.accounts.updateUser id (operatorUpdate dto).patch, ⟨⟩) :=
      bind_eq_ok.mpr ⟨_, updateUserInput_of_exposed huser hexposed dto,
        bind_eq_ok.mpr ⟨_, hwritten, rfl⟩⟩
    rw [administer, hok] at h
    have hcolumns := (untouched_modify_iff rfl).mp h row hexposed.found hexposed.privileged
    rw [protectedColumns_operatorUpdate, hphone, Option.getD_some] at hcolumns
    exact hother hcolumns
  · intro hnot
    refine commit_induction (p := fun accounts => PrivilegedUntouched s (s.setAccounts accounts))
      (.refl s) fun accounts _ hok => ?_
    obtain ⟨data, hchecked, hok⟩ := bind_eq_ok.mp hok
    obtain ⟨updated, hwritten, hok⟩ := bind_eq_ok.mp hok
    cases pure_eq_ok.mp hok
    refine (untouched_modify_iff (congrArg Store.users (writeUserUpdate_eq_ok hwritten).2)).mpr
      fun row hrow hprivileged => ?_
    obtain ⟨existing, hexisting, hrest⟩ := bind_eq_ok.mp hchecked
    obtain ⟨hnotSuper, -⟩ := throwIf_bind_eq_ok.mp hrest
    obtain ⟨hfound, rfl⟩ := user?_of_getUser hexisting
    obtain rfl := Option.some.inj (hfound.symm.trans hrow)
    have hexposed := (exposed_iff huser hprivileged).mp ⟨hexisting, hnotSuper⟩
    have hinput := updateUserInput_of_exposed huser hexposed dto
    obtain rfl := Except.ok.inj (hinput.symm.trans hchecked)
    have hfree := ((writeUserUpdate_exposed hexposed dto).mp hwritten).1
    rw [protectedColumns_operatorUpdate]
    by_contra hdiffers
    cases hsent : stringOf dto.phone with
    | none =>
      rw [operatorUpdate, hsent] at hdiffers
      exact hdiffers rfl
    | some text =>
      rw [operatorUpdate_phone hsent] at hdiffers hfree
      rw [Option.getD_some] at hdiffers
      exact hnot (.phone hexposed hsent hdiffers hfree)

/-- **Privileged accounts and operators.** A call of an operator leaves the privileged accounts as
they are exactly when it does not give a privileged user of the organization, who is no
`SUPER_ADMIN`, another phone or another status. -/
theorem privileged_untouched_iff (authService : Option PasswordReset.Deployment) (s : AuthStore)
    (user : User) (huser : user.role = .orgAdmin ∨ user.role = .dispatchOfficer)
    (call : AdministrativeCall) :
    PrivilegedUntouched s (administer authService s user call) ↔
      ¬ Exposes s.accounts user call := by
  cases call with
  | updateUser id dto => exact updateUser_untouched_iff huser id dto
  | setUserStatus id status => exact setUserStatus_untouched_iff huser id status
  | resetPassword id inputs => exact iff_of_true (resetPassword_untouched huser id inputs) nofun
  | approveProviderRequest id newProviderId =>
    exact iff_of_true (approveProviderRequest_untouched user id newProviderId) nofun
  | rejectProviderRequest id => exact iff_of_true (rejectProviderRequest_untouched user id) nofun

namespace Example

/-- The administrator of an organization. -/
def director : User := { id := "director", role := .orgAdmin, organizationId := some "ikeja" }

/-- An internal administrator whose scope is that organization. -/
def bisi : User where
  id := "bisi"
  phone := some "+2348012345678"
  role := .financeBillingAdmin
  organizationId := some "ikeja"

def officeAccounts : Store :=
  .ofUsers ⟨[director, bisi], by decide⟩ ⟨[{ id := "ikeja" }], by decide⟩

def office : AuthStore :=
  ⟨officeAccounts, Table.empty _, Table.empty _, Table.empty _, Table.empty _⟩

end Example

open Example in
/-- The director may write a name. -/
theorem bisi_untouched_by_name : PrivilegedUntouched office (administer none office director
    (.updateUser "bisi" { fullName := some (.str "Bisi A.") })) :=
  (privileged_untouched_iff none office director (.inl rfl) _).mpr fun
    | .phone _ hsent _ _ => by cases hsent

open Example in
/-- The director suspends an administrator of the platform's finances. -/
theorem director_suspends_administrator :
    ¬ ∀ (authService : Option PasswordReset.Deployment) (s : AuthStore) (user : User),
      user.role = .orgAdmin ∨ user.role = .dispatchOfficer → ∀ call,
        PrivilegedUntouched s (administer authService s user call) := by
  intro h
  have huntouched := h none office director (.inl rfl) (.setUserStatus "bisi" .suspended)
  have hcolumns := huntouched.columns "bisi" bisi rfl rfl
  revert hcolumns
  decide +kernel

end FixZone.UsersService
