import FixZone.Auth.Effects

/-!
# What becomes of the accounts

The requests that write accounts, seen from the tokens: none of them touches the status or
the token version of a user who is there. A login through Firebase writes a citizen, old or
new (`firebaseLogin_change`); accepting an invitation and `updateUser` can give a user a
role (`GivesRole`), and they leave every other role as it is (`performAccount_change`).
-/

namespace FixZone.AuthService

open Library Accounts PrivilegedMfaService
open ReportService (HttpError)
open InternalAdminService (Server)

/-- Of the columns `JwtStrategy` compares, status and token version, both are the same. -/
structure SameAccess (row row' : User) : Prop where
  status : row'.accountStatus = row.accountStatus
  version : row'.tokenVersion = row.tokenVersion

/-! ### Firebase -/

/-- What a login through Firebase makes of the users, and the citizen it logs in. -/
inductive CitizenChange (s : Store) : Store → Option User → Prop where
  | unchanged (s' : Store) (users : s'.users = s.users) : CitizenChange s s' none
  | updated (s' : Store) (user : User) (data : Patch User.id)
      (found : s.user? user.id = some user) (users : s'.users = s.users.modify user.id data)
      (access : SameAccess user (data.apply user)) (role : (data.apply user).role = user.role) :
      CitizenChange s s' (some (data.apply user))
  | created (s' : Store) (row : User) (free : s.user? row.id = none)
      (users : s'.users = s.users.insert row) (role : row.role = .citizen) :
      CitizenChange s s' (some row)

/-- A lookup in a unique column finds a user who is there. -/
theorem user?_of_findBy {s : Store} {column : User → Option String} {value : Option String}
    {user : User} (h : findBy s column value = some user) : s.user? user.id = some user := by
  obtain ⟨text, -, hfind⟩ := Option.bind_eq_some_iff.mp h
  exact Table.mem_rows_iff.mp (List.mem_of_find?_eq_some hfind)

/-- The citizen an identity is of is there, and is a citizen. -/
theorem firebaseCitizen_eq_ok {s : Store} {identity : VerifiedFirebaseIdentity}
    {dto : FirebaseLoginDto} {existing : Option User} {recovery : Bool}
    (h : firebaseCitizen s identity dto = .ok (existing, recovery)) :
    ∀ user, existing = some user → s.user? user.id = some user ∧ user.role = .citizen := by
  unfold firebaseCitizen at h
  obtain ⟨-, h⟩ := throwIf_bind_eq_ok.mp h
  obtain ⟨hrole, h⟩ := throwIf_bind_eq_ok.mp h
  obtain ⟨-, h⟩ := throwIf_bind_eq_ok.mp h
  obtain ⟨-, h⟩ := throwIf_bind_eq_ok.mp h
  obtain ⟨-, h⟩ := check_bind_eq_ok.mp h
  obtain ⟨-, h⟩ := check_bind_eq_ok.mp h
  obtain ⟨rfl, -⟩ := Prod.mk.inj (pure_eq_ok.mp h)
  intro user huser
  constructor
  · rcases (Option.orElse_eq_some _ _ _).mp huser with hfound | ⟨-, hfound⟩
    · exact user?_of_findBy hfound
    · rcases (Option.orElse_eq_some _ _ _).mp hfound with hfound | ⟨-, hfound⟩
      · exact user?_of_findBy hfound
      · exact user?_of_findBy hfound
  · by_contra hne
    exact hrole ⟨user, huser, hne⟩

/-- The default organization is none of the users. -/
theorem getDefaultCitizenOrganizationId_users {s s' : Store} {name newId organizationId : String}
    (h : getDefaultCitizenOrganizationId s name newId = .ok (s', organizationId)) :
    s'.users = s.users := by
  unfold getDefaultCitizenOrganizationId at h
  split at h
  · obtain ⟨rfl, -⟩ := Prod.mk.inj (Except.ok.inj h)
    rfl
  · obtain ⟨-, h⟩ := throwIf_bind_eq_ok.mp h
    obtain ⟨rfl, -⟩ := Prod.mk.inj (pure_eq_ok.mp h)
    rfl

/-- What a login through Firebase comes to: it writes no user and answers with none, or it has found
the citizen the identity is of, or nobody, and has written them. -/
inductive LoginReply (now : Millis) (organizationName newOrganizationId newId : String) (s : Store)
    (dto : FirebaseLoginDto) : Reply (Option User) → Prop where
  | unwritten {reply : Reply (Option User)} (users : reply.store.users = s.users)
      (nobody : ∀ user, reply.answer ≠ .ok (some user)) :
      LoginReply now organizationName newOrganizationId newId s dto reply
  | written {identity : VerifiedFirebaseIdentity} {t s' : Store} {organizationId : String}
      {existing : Option User} {user : User} (verified : verifiedIdentity dto = .ok identity)
      (organization : getDefaultCitizenOrganizationId s organizationName newOrganizationId =
        .ok (t, organizationId))
      (citizen : firebaseCitizen t identity dto = .ok (existing, false))
      (writes : writeCitizen now newId t identity dto existing organizationId = .ok (s', user)) :
      LoginReply now organizationName newOrganizationId newId s dto ⟨s', .ok (some user)⟩

/-- A citizen who is found is written. -/
theorem firebaseAccount_of_written {now : Millis} {newId : String} {t s' : Store}
    {identity : VerifiedFirebaseIdentity} {dto : FirebaseLoginDto} {organizationId : String}
    {existing : Option User} {user : User}
    (hcitizen : firebaseCitizen t identity dto = .ok (existing, false))
    (hwrite : writeCitizen now newId t identity dto existing organizationId = .ok (s', user)) :
    firebaseAccount now newId t identity dto organizationId = .ok (s', some user) := by
  rw [firebaseAccount, hcitizen, ok_bind]
  dsimp only
  rw [if_neg Bool.false_ne_true, hwrite]
  rfl

theorem firebaseLogin_of_written {now : Millis}
    {organizationName newOrganizationId newId organizationId : String} {s t s' : Store}
    {dto : FirebaseLoginDto} {identity : VerifiedFirebaseIdentity} {existing : Option User}
    {user : User} (hverified : verifiedIdentity dto = .ok identity)
    (horganization : getDefaultCitizenOrganizationId s organizationName newOrganizationId =
      .ok (t, organizationId))
    (hcitizen : firebaseCitizen t identity dto = .ok (existing, false))
    (hwrite : writeCitizen now newId t identity dto existing organizationId = .ok (s', user)) :
    firebaseLogin now organizationName newOrganizationId newId s dto = ⟨s', .ok (some user)⟩ := by
  rw [firebaseLogin, hverified]
  dsimp only
  rw [horganization]
  dsimp only
  rw [firebaseAccount_of_written hcitizen hwrite]
  rfl

theorem firebaseLogin_reply (now : Millis) (organizationName newOrganizationId newId : String)
    (s : Store) (dto : FirebaseLoginDto) :
    LoginReply now organizationName newOrganizationId newId s dto
      (firebaseLogin now organizationName newOrganizationId newId s dto) := by
  unfold firebaseLogin
  split
  · exact .unwritten rfl fun _ h => by cases h
  · next identity hverified =>
    split
    · exact .unwritten rfl fun _ h => by cases h
    · next t organizationId horganization =>
      have husers := getDefaultCitizenOrganizationId_users horganization
      cases haccount : firebaseAccount now newId t identity dto organizationId with
      | error e => exact .unwritten husers fun _ h => by cases h
      | ok result =>
        unfold firebaseAccount at haccount
        obtain ⟨⟨existing, recovery⟩, hcitizen, haccount⟩ := bind_eq_ok.mp haccount
        cases recovery with
        | true =>
          obtain rfl := pure_eq_ok.mp haccount
          exact .unwritten husers fun _ h => by cases h
        | false =>
          obtain ⟨⟨s', user⟩, hwrite, haccount⟩ := bind_eq_ok.mp haccount
          obtain rfl := pure_eq_ok.mp haccount
          exact .written hverified horganization hcitizen hwrite

/-- A citizen is written over the row that was found, or into a free one. -/
theorem writeCitizen_change {now : Millis} {newId : String} {s s' t : Store}
    {identity : VerifiedFirebaseIdentity} {dto : FirebaseLoginDto} {organizationId : String}
    {existing : Option User} {user : User} (husers : t.users = s.users)
    (hcitizen : firebaseCitizen t identity dto = .ok (existing, false))
    (hwrite : writeCitizen now newId t identity dto existing organizationId = .ok (s', user)) :
    CitizenChange s s' (some user) := by
  cases existing with
  | some existing =>
    obtain ⟨hfound, hrole⟩ := firebaseCitizen_eq_ok hcitizen existing rfl
    obtain ⟨rfl, rfl⟩ := Prod.mk.inj (Except.ok.inj hwrite)
    rw [Store.user?, husers] at hfound
    exact .updated _ existing (citizenData now identity dto organizationId) hfound
      (congrArg (Table.modify · existing.id _) husers) ⟨rfl, rfl⟩ hrole.symm
  | none =>
    unfold writeCitizen at hwrite
    obtain ⟨hfree, hwrite⟩ := throwIf_bind_eq_ok.mp hwrite
    obtain ⟨rfl, rfl⟩ := Prod.mk.inj (pure_eq_ok.mp hwrite)
    rw [Bool.not_eq_true, Option.isSome_eq_false_iff, Option.isNone_iff_eq_none, Store.user?,
      husers] at hfree
    exact .created _ _ hfree (congrArg (Table.insert · _) husers) rfl

/-- Whatever `firebaseLogin` answers, it has changed the users in one of these ways. -/
theorem firebaseLogin_change (now : Millis) (organizationName newOrganizationId newId : String)
    (s : Store) (dto : FirebaseLoginDto) :
    ∃ citizen, CitizenChange s
        (firebaseLogin now organizationName newOrganizationId newId s dto).store citizen ∧
      ∀ user, (firebaseLogin now organizationName newOrganizationId newId s dto).answer =
        .ok (some user) → citizen = some user := by
  have hreply := firebaseLogin_reply now organizationName newOrganizationId newId s dto
  generalize firebaseLogin now organizationName newOrganizationId newId s dto = reply at hreply ⊢
  cases hreply with
  | unwritten husers hnobody =>
    exact ⟨none, .unchanged _ husers, fun user hanswer => absurd hanswer (hnobody user)⟩
  | written hverified horganization hcitizen hwrite =>
    have husers := getDefaultCitizenOrganizationId_users horganization
    exact ⟨_, writeCitizen_change husers hcitizen hwrite, fun _ hanswer => Except.ok.inj hanswer⟩

/-! ### Roles -/

/-- The operation gives a user a role. -/
inductive GivesRole (d : Deployment) (input : Input) (w : World) (actor : User) :
    AccountOperation → String → UserRole → Prop where
  | acceptInvitation (invitationId : String) (invitation : Invitation)
      (found : w.store.accounts.invitation? invitationId = some invitation)
      (takenUp : UsersService.TakenUp input.now w.store.accounts actor invitation)
      (other : actor.role ≠ .superAdmin)
      (member : UsersService.providerMembershipOnly actor invitation = false) :
      GivesRole d input w actor (.acceptInvitation invitationId) actor.id invitation.role
  | acceptInternalInvitation (invitationId : String) (invitation : Invitation)
      (definition : InternalAdminService.InternalRoleDefinition)
      (found : w.store.accounts.invitation? invitationId = some invitation)
      (acceptable : InternalAdminService.Acceptable
        { env := d.env, now := input.now, newId := input.newId } w.store.accounts actor invitation
        definition) :
      GivesRole d input w actor (.acceptInternalInvitation invitationId) actor.id invitation.role
  | updateUser (id : String) (dto : UsersService.UpdateUserDto)
      (data : UsersService.UserUpdateInput) (role : UserRole) (accounts : Store)
      (checked : UsersService.updateUserInput w.store.accounts actor id dto = .ok data)
      (written : UsersService.writeUserUpdate w.store.accounts id data = .ok accounts)
      (gives : data.role = some role) :
      GivesRole d input w actor (.updateUser id dto) id role

variable {d : Deployment} {input : Input} {w : World}

/-- What an operation on accounts makes of the users: each is there with the access it had, and the
role it had or was given. -/
structure AccountChange (d : Deployment) (input : Input) (w : World) (actor : User)
    (operation : AccountOperation) (accounts : Store) : Prop where
  /-- Every user was there. -/
  before : ∀ id row', accounts.user? id = some row' → ∃ row, w.store.accounts.user? id = some row ∧
    SameAccess row row' ∧
      (row'.role = row.role ∨ GivesRole d input w actor operation id row'.role)
  /-- Every user stays. -/
  after : ∀ id row, w.store.accounts.user? id = some row → ∃ row', accounts.user? id = some row' ∧
    SameAccess row row'
  /-- A role that is given is held. -/
  given : ∀ id role, GivesRole d input w actor operation id role →
    ∃ row', accounts.user? id = some row' ∧ row'.role = role

theorem AccountChange.of_users {actor : User} {operation : AccountOperation} {accounts : Store}
    (husers : ∀ id, accounts.user? id = w.store.accounts.user? id)
    (hnone : ∀ id role, ¬ GivesRole d input w actor operation id role) :
    AccountChange d input w actor operation accounts where
  before id row' hrow := ⟨row', by rwa [← husers], ⟨rfl, rfl⟩, .inl rfl⟩
  after id row hrow := ⟨row, by rwa [husers], ⟨rfl, rfl⟩⟩
  given id role hgives := absurd hgives (hnone id role)

/-- One user is changed. -/
theorem AccountChange.of_modify {actor : User} {operation : AccountOperation} {accounts : Store}
    {own : String} {user : User} (data : Patch User.id)
    (hfound : w.store.accounts.user? own = some user)
    (husers : ∀ id, accounts.user? id = (w.store.accounts.updateUser own data).user? id)
    (haccess : SameAccess user (data.apply user))
    (hrole : (data.apply user).role = user.role ∨
      GivesRole d input w actor operation own (data.apply user).role)
    (hgiven : ∀ id role, GivesRole d input w actor operation id role →
      id = own ∧ role = (data.apply user).role) :
    AccountChange d input w actor operation accounts := by
  have hown : accounts.user? own = some (data.apply user) := by
    rw [husers, Store.user?, Store.updateUser, Table.find?_modify_self _ hfound]
  have hother : ∀ id, id ≠ own → accounts.user? id = w.store.accounts.user? id := by
    intro id hne
    rw [husers, Store.user?, Store.updateUser, Table.find?_modify_of_ne _ hne, Store.user?]
  constructor
  · intro id row' hrow
    by_cases hid : id = own
    · subst hid
      obtain rfl := Option.some.inj (hown.symm.trans hrow)
      exact ⟨user, hfound, haccess, hrole⟩
    · exact ⟨row', by rwa [← hother id hid], ⟨rfl, rfl⟩, .inl rfl⟩
  · intro id row hrow
    by_cases hid : id = own
    · subst hid
      obtain rfl := Option.some.inj (hfound.symm.trans hrow)
      exact ⟨_, hown, haccess⟩
    · exact ⟨row, by rwa [hother id hid], ⟨rfl, rfl⟩⟩
  · intro id role hgives
    obtain ⟨rfl, rfl⟩ := hgiven id role hgives
    exact ⟨_, hown, rfl⟩

theorem acceptInvitation_change {actor : User} (invitationId : String)
    (hactor : w.store.accounts.user? actor.id = some actor)
    (hactive : actor.accountStatus = .active) :
    AccountChange d input w actor (.acceptInvitation invitationId)
      (performAccount d input w actor (.acceptInvitation invitationId)).store := by
  rcases UsersService.acceptInvitation_cases input.now invitationId hactor with
    ⟨invitation, hfound, htaken⟩ | ⟨hsame, row, hfound, -, haccepted, -⟩ | ⟨⟨e, herror⟩, hstore⟩
  · refine .of_modify (UsersService.inviteeData invitation) hactor (fun id => ?_)
      ⟨by simp [hactive], rfl⟩ ?_ ?_
    · rw [performAccount, UsersService.acceptInvitation_of_takenUp hfound htaken,
        UsersService.user?_acceptedStore]
    · dsimp only [UsersService.inviteeData]
      split
      · next hgives =>
          exact .inr (.acceptInvitation invitationId invitation hfound htaken hgives.1 hgives.2)
      · exact .inl rfl
    · rintro id role (⟨_, found, hfound', -, hother, hmember⟩)
      obtain rfl := Option.some.inj (hfound.symm.trans hfound')
      exact ⟨rfl, by simp [hother, hmember]⟩
  · refine .of_users (fun id => by rw [performAccount, hsame]) ?_
    rintro id role (⟨_, found, hfound', htaken, -⟩)
    obtain rfl := Option.some.inj (hfound.symm.trans hfound')
    rw [htaken.pending] at haccepted
    cases haccepted
  · refine .of_users (fun id => ?_) ?_
    · rw [performAccount]
      rcases hstore with hsame | hexpired
      · rw [hsame]
      · rw [hexpired, Store.user?_updateInvitation]
    · rintro id role (⟨_, found, hfound', htaken, -⟩)
      rw [UsersService.acceptInvitation_of_takenUp hfound' htaken] at herror
      cases herror

theorem acceptInternalInvitation_change {actor : User} (invitationId : String)
    (hactor : w.store.accounts.user? actor.id = some actor)
    (hactive : actor.accountStatus = .active) :
    AccountChange d input w actor (.acceptInternalInvitation invitationId)
      (performAccount d input w actor (.acceptInternalInvitation invitationId)).store := by
  rw [performAccount]
  dsimp only
  by_cases hacceptable : ∃ invitation definition,
      w.store.accounts.invitation? invitationId = some invitation ∧
        InternalAdminService.Acceptable { env := d.env, now := input.now, newId := input.newId }
          w.store.accounts actor invitation definition
  · obtain ⟨invitation, definition, hfound, hacceptable⟩ := hacceptable
    rw [InternalAdminService.acceptInvitation_of_acceptable hfound hacceptable]
    refine .of_modify (InternalAdminService.administratorData invitation.role
      (InternalAdminService.invitationScope invitation)) hactor (fun id => rfl) ⟨hactive.symm, rfl⟩
      (.inr (.acceptInternalInvitation invitationId invitation definition hfound hacceptable)) ?_
    rintro id role (_ | ⟨_, found, _, hfound', -⟩)
    obtain rfl := Option.some.inj (hfound.symm.trans hfound')
    exact ⟨rfl, rfl⟩
  · refine .of_users (fun id => ?_) ?_
    · rcases InternalAdminService.acceptInvitation_store
        { env := d.env, now := input.now, newId := input.newId } w.store.accounts actor
        invitationId with hsame | hexpired | ⟨invitation, definition, hfound, hchecks, -⟩
      · rw [hsame]
      · rw [hexpired, Store.user?_updateInvitation]
      · exact absurd ⟨invitation, definition, hfound, hchecks⟩ hacceptable
    · rintro id role (_ | ⟨_, invitation, definition, hfound, hchecks⟩)
      exact hacceptable ⟨invitation, definition, hfound, hchecks⟩

theorem updateUser_change {actor : User} (id : String) (dto : UsersService.UpdateUserDto) :
    AccountChange d input w actor (.updateUser id dto)
      (performAccount d input w actor (.updateUser id dto)).store := by
  rw [performAccount]
  cases hchecked : UsersService.updateUserInput w.store.accounts actor id dto with
  | error e =>
    refine .of_users (fun _ => rfl) ?_
    rintro own role (_ | _ | ⟨_, _, data, _, accounts, hchecked', -⟩)
    rw [hchecked] at hchecked'
    cases hchecked'
  | ok data =>
    cases hwritten : UsersService.writeUserUpdate w.store.accounts id data with
    | error e =>
      refine .of_users (fun own => ?_) ?_
      · rw [ok_bind, hwritten]
        rfl
      · rintro own role (_ | _ | ⟨_, _, data', _, accounts, hchecked', hwritten', -⟩)
        obtain rfl := Except.ok.inj (hchecked.symm.trans hchecked')
        rw [hwritten] at hwritten'
        cases hwritten'
    | ok accounts =>
      obtain ⟨hfound, rfl⟩ := UsersService.writeUserUpdate_eq_ok hwritten
      obtain ⟨user, huser⟩ := Option.isSome_iff_exists.mp hfound
      refine .of_modify data.patch huser (fun own => ?_) ⟨rfl, rfl⟩ ?_ ?_
      · rw [ok_bind, hwritten]
        rfl
      · cases hrole : data.role with
        | none => exact .inl (by simp [hrole])
        | some role =>
          have hgives : GivesRole d input w actor (.updateUser id dto) id role :=
            .updateUser id dto data role _ hchecked hwritten hrole
          exact .inr (by simpa [hrole] using hgives)
      · rintro own role (_ | _ | ⟨_, _, data', _, accounts, hchecked', -, hgives⟩)
        obtain rfl := Except.ok.inj (hchecked.symm.trans hchecked')
        exact ⟨rfl, by simp [hgives]⟩

/-- Every operation on accounts changes them so. -/
theorem performAccount_change {actor : User} (operation : AccountOperation)
    (hactor : w.store.accounts.user? actor.id = some actor)
    (hactive : actor.accountStatus = .active) :
    AccountChange d input w actor operation (performAccount d input w actor operation).store := by
  cases operation with
  | acceptInvitation invitationId => exact acceptInvitation_change invitationId hactor hactive
  | acceptInternalInvitation invitationId =>
    exact acceptInternalInvitation_change invitationId hactor hactive
  | updateUser id dto => exact updateUser_change id dto

/-! ### Every request -/

/-- A user whom a login through Firebase finds keeps access and role; anybody else is a citizen. -/
theorem CitizenChange.before {s s' : Store} {citizen : Option User} (h : CitizenChange s s' citizen)
    {id : String} {row' : User} (hrow : s'.user? id = some row') :
    (∃ row, s.user? id = some row ∧ SameAccess row row' ∧ row'.role = row.role) ∨
      row'.role = .citizen := by
  cases h with
  | unchanged husers =>
    rw [Store.user?, husers] at hrow
    exact .inl ⟨row', hrow, ⟨rfl, rfl⟩, rfl⟩
  | updated user data hfound husers haccess hrole =>
    rw [Store.user?, husers, Table.find?_modify] at hrow
    split at hrow
    · next hid =>
      obtain ⟨row, hbefore, rfl⟩ := Option.map_eq_some_iff.mp hrow
      subst hid
      obtain rfl := Option.some.inj (hfound.symm.trans hbefore)
      exact .inl ⟨_, hfound, haccess, hrole⟩
    · exact .inl ⟨row', hrow, ⟨rfl, rfl⟩, rfl⟩
  | created row hfree husers hrole =>
    rw [Store.user?, husers, Table.find?_insert_of_free hfree] at hrow
    split at hrow
    · obtain rfl := Option.some.inj hrow
      exact .inr hrole
    · exact .inl ⟨row', hrow, ⟨rfl, rfl⟩, rfl⟩

theorem CitizenChange.after {s s' : Store} {citizen : Option User} (h : CitizenChange s s' citizen)
    {id : String} {row : User} (hrow : s.user? id = some row) :
    ∃ row', s'.user? id = some row' ∧ SameAccess row row' := by
  cases h with
  | unchanged husers => exact ⟨row, by rwa [Store.user?, husers], ⟨rfl, rfl⟩⟩
  | updated user data hfound husers haccess hrole =>
    rw [Store.user?, husers, Table.find?_modify]
    split
    · next hid =>
      subst hid
      obtain rfl := Option.some.inj (hfound.symm.trans hrow)
      exact ⟨_, by rw [show s.users.find? _ = some _ from hfound]; rfl, haccess⟩
    · exact ⟨row, hrow, ⟨rfl, rfl⟩⟩
  | created new hfree husers hrole =>
    rw [Store.user?, husers]
    exact ⟨row, Table.find?_insert_of_some hrow, ⟨rfl, rfl⟩⟩

/-- The citizen who is logged in is there afterwards. -/
theorem CitizenChange.found {s s' : Store} {user : User} (h : CitizenChange s s' (some user)) :
    s'.user? user.id = some user := by
  cases h with
  | updated before data hfound husers haccess hrole =>
    rw [Store.user?, husers, data.key_apply]
    exact Table.find?_modify_self data hfound
  | created _ hfree husers hrole =>
    rw [Store.user?, husers, Table.find?_insert_self hfree]

/-- No request that writes accounts touches the access of a user. -/
theorem AccountsEffect.after {request : Request} {accounts : Store}
    (h : AccountsEffect d input w request accounts) {id : String} {row : User}
    (hrow : w.store.accounts.user? id = some row) :
    ∃ row', accounts.user? id = some row' ∧ SameAccess row row' := by
  cases h with
  | citizen dto =>
    obtain ⟨citizen, hchange, -⟩ := firebaseLogin_change input.now
      (defaultOrganizationName d.organizationName) input.newOrganizationId input.newId
      w.store.accounts dto
    exact hchange.after hrow
  | account actorId operation actor hfound =>
    obtain ⟨hactor, hactive⟩ := user?_of_validate hfound
    exact (performAccount_change operation hactor hactive).after id row hrow

end FixZone.AuthService
