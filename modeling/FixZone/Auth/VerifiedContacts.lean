import FixZone.Auth.AccountChanges
import FixZone.Auth.FirebaseAccounts
import FixZone.Auth.Profile
import FixZone.Users.Quotas

/-!
# Verified contacts

A login through Firebase proves a phone or an email, writes it into the row of the citizen and
stamps it as verified. `updateMe` refuses to change either; `updateUser` of an administrator
clears the stamp of an email it writes, but not that of a phone. So the contacts with a stamp are
those that were proved in exactly the runs in which no step writes another phone under a stamp,
and no login without a phone is accepted for a user whose phone has one
(`verified_contacts_iff`).
-/

namespace FixZone.AuthService

open Library Accounts
open ReportService (HttpError)
open UsersService (AccountCall AccountRequest Edits Wrote UpdateUserDto UserUpdateInput handle)

/-! ### Runs -/

/-- The accounts, and the identities that were accepted, each with the user it was accepted for,
which are recorded here only. -/
structure ContactWorld where
  store : Store
  accepted : List (String × VerifiedFirebaseIdentity) := []

/-- A login, a change of one's own profile, or a request about accounts. -/
inductive ContactRequest where
  | firebaseLogin (now : Millis) (organizationName newOrganizationId newId : String)
      (dto : FirebaseLoginDto)
  | updateMe (actorId : String) (dto : Json)
  | account (call : AccountCall)

/-- The identity that a login is accepted with, and the user it is accepted for. -/
def acceptedBy (dto : FirebaseLoginDto) (reply : Reply (Option User)) :
    Option (String × VerifiedFirebaseIdentity) :=
  match verifiedIdentity dto, reply.answer with
  | .ok identity, .ok (some user) => some (user.id, identity)
  | _, _ => none

/-- One step. -/
def contactStep (request : ContactRequest) (w : ContactWorld) : ContactWorld :=
  match request with
  | .firebaseLogin now organizationName newOrganizationId newId dto =>
    let reply := firebaseLogin now organizationName newOrganizationId newId w.store dto
    { store := reply.store
      accepted := w.accepted ++ (acceptedBy dto reply).toList }
  | .updateMe actorId dto =>
    match validate w.store actorId with
    | none => w
    | some user => { w with store := (commit w.store (updateMe w.store user.id dto)).store }
  | .account call => { w with store := handle call w.store }

/-- The identities that were accepted for a user, the latest last. -/
def ContactWorld.identitiesOf (w : ContactWorld) (id : String) : List VerifiedFirebaseIdentity :=
  (w.accepted.filter (·.1 = id)).map Prod.snd

/-- The phone of the user is that which the latest of the identities proved. -/
def PhoneProved (identities : List VerifiedFirebaseIdentity) (user : User) : Prop :=
  ∃ identity ∈ identities.getLast?, user.phone = firebasePhone identity ∧ user.phone ≠ none

/-- The email of the user is one that one of the identities proved. -/
def EmailProved (identities : List VerifiedFirebaseIdentity) (user : User) : Prop :=
  ∃ identity ∈ identities, user.email = firebaseEmail identity ∧ user.email ≠ none

/-- What is stamped was proved. -/
structure StampsProved (identities : List VerifiedFirebaseIdentity) (user : User) : Prop where
  phone : user.phoneVerifiedAt ≠ none → PhoneProved identities user
  email : user.emailVerifiedAt ≠ none → EmailProved identities user

/-- Every contact that is stamped was proved for its user. -/
def ContactsProved (w : ContactWorld) : Prop :=
  ∀ id user, w.store.user? id = some user → StampsProved (w.identitiesOf id) user

/-- A login is accepted for a user who is there: its identity is verified and names the user. -/
structure LogsIn (s : Store) (organizationName newOrganizationId : String)
    (dto : FirebaseLoginDto) (identity : VerifiedFirebaseIdentity) (existing : Option User) :
    Prop where
  verified : verifiedIdentity dto = .ok identity
  citizen : ∃ s' organizationId,
    getDefaultCitizenOrganizationId s organizationName newOrganizationId =
      .ok (s', organizationId) ∧
      firebaseCitizen s' identity dto = .ok (existing, false)

/-- The step writes another phone over one that is stamped, or accepts a login without a phone for
a user whose phone is stamped. -/
inductive Unproves (w : ContactWorld) : ContactRequest → Prop where
  | edited {call : AccountCall} {user existing : User} {id : String} {dto : UpdateUserDto}
      {data : UserUpdateInput} {phone : Option String} :
      validate w.store call.actorId = some user → call.request = .updateUser id dto →
      Edits w.store user id dto existing data → data.phone = some phone →
      existing.phoneVerifiedAt ≠ none → phone ≠ existing.phone → Unproves w (.account call)
  | withoutPhone {now : Millis} {organizationName newOrganizationId newId : String}
      {dto : FirebaseLoginDto} {identity : VerifiedFirebaseIdentity} {existing : User} :
      LogsIn w.store organizationName newOrganizationId dto identity (some existing) →
      firebasePhone identity = none → existing.phoneVerifiedAt ≠ none →
      Unproves w (.firebaseLogin now organizationName newOrganizationId newId dto)

variable {w : ContactWorld} {s s' : Store} {organizationName newOrganizationId : String}
  {dto : FirebaseLoginDto} {identity : VerifiedFirebaseIdentity} {existing : User}

/-! ### Identities -/

/-- An identity that is accepted is one more of its user, and of nobody else. -/
theorem identitiesOf_accept (w : ContactWorld) (s : Store) (id other : String)
    (identity : VerifiedFirebaseIdentity) :
    ContactWorld.identitiesOf ⟨s, w.accepted ++ [(id, identity)]⟩ other =
      w.identitiesOf other ++ if other = id then [identity] else [] := by
  by_cases hid : other = id
  · simp [ContactWorld.identitiesOf, hid]
  · simp [ContactWorld.identitiesOf, hid, Ne.symm hid]

/-- Stamps depend on the contacts and the stamps alone. -/
theorem StampsProved.congr {identities : List VerifiedFirebaseIdentity} {user user' : User}
    (h : StampsProved identities user) (hphone : user'.phone = user.phone)
    (hemail : user'.email = user.email)
    (hphoneVerifiedAt : user'.phoneVerifiedAt = user.phoneVerifiedAt)
    (hemailVerifiedAt : user'.emailVerifiedAt = user.emailVerifiedAt) :
    StampsProved identities user' := by
  constructor
  · rw [hphoneVerifiedAt, PhoneProved, hphone]
    exact h.phone
  · rw [hemailVerifiedAt, EmailProved, hemail]
    exact h.email

/-! ### Logins -/

/-- What a login does to the accounts. -/
inductive LoginOutcome (now : Millis) (organizationName newOrganizationId newId : String)
    (s s' : Store) (dto : FirebaseLoginDto) :
    Option (String × VerifiedFirebaseIdentity) → Prop where
  | unchanged : s'.users = s.users →
      LoginOutcome now organizationName newOrganizationId newId s s' dto none
  | updated {identity : VerifiedFirebaseIdentity} {user : User} {organizationId : String} :
      LogsIn s organizationName newOrganizationId dto identity (some user) →
      s.user? user.id = some user →
      s'.users = s.users.modify user.id (citizenData now identity dto organizationId) →
      LoginOutcome now organizationName newOrganizationId newId s s' dto (some (user.id, identity))
  | created {identity : VerifiedFirebaseIdentity} {organizationId : String} :
      s.user? newId = none →
      s'.users = s.users.insert (newCitizen now newId identity dto organizationId) →
      LoginOutcome now organizationName newOrganizationId newId s s' dto (some (newId, identity))

theorem acceptedBy_eq_none {reply : Reply (Option User)}
    (hnobody : ∀ user, reply.answer ≠ .ok (some user)) : acceptedBy dto reply = none := by
  unfold acceptedBy
  split
  · next user _ hanswer => exact absurd hanswer (hnobody user)
  · rfl

theorem firebaseLogin_outcome (now : Millis) (organizationName newOrganizationId newId : String)
    (s : Store) (dto : FirebaseLoginDto) :
    LoginOutcome now organizationName newOrganizationId newId s
      (firebaseLogin now organizationName newOrganizationId newId s dto).store dto
      (acceptedBy dto (firebaseLogin now organizationName newOrganizationId newId s dto)) := by
  have hreply := firebaseLogin_reply now organizationName newOrganizationId newId s dto
  generalize firebaseLogin now organizationName newOrganizationId newId s dto = reply at hreply ⊢
  cases hreply with
  | unwritten husers hnobody =>
    rw [acceptedBy_eq_none hnobody]
    exact .unchanged husers
  | @written identity t s' organizationId existing user hverified horganization hcitizen hwrite =>
    have husers := getDefaultCitizenOrganizationId_users horganization
    rw [acceptedBy, hverified]
    cases existing with
    | some existing =>
      have hlogs : LogsIn s organizationName newOrganizationId dto identity (some existing) :=
        ⟨hverified, t, organizationId, horganization, hcitizen⟩
      have hfound := (firebaseCitizen_eq_ok hcitizen existing rfl).1
      rw [Store.user?, husers] at hfound
      obtain ⟨rfl, rfl⟩ := Prod.mk.inj (Except.ok.inj hwrite)
      have houtcome : LoginOutcome now organizationName newOrganizationId newId s
          (t.updateUser existing.id (citizenData now identity dto organizationId)) dto
          (some (existing.id, identity)) :=
        .updated hlogs hfound (congrArg (Table.modify · existing.id _) husers)
      exact houtcome
    | none =>
      unfold writeCitizen at hwrite
      obtain ⟨hfree, hwrite⟩ := throwIf_bind_eq_ok.mp hwrite
      obtain ⟨rfl, rfl⟩ := Prod.mk.inj (pure_eq_ok.mp hwrite)
      rw [Bool.not_eq_true, Option.isSome_eq_false_iff, Option.isNone_iff_eq_none, Store.user?,
        husers] at hfree
      exact .created hfree (congrArg (Table.insert · _) husers)

/-- The login of a user who is there is accepted for them. -/
theorem LogsIn.accepted (now : Millis) (newId : String)
    (h : LogsIn s organizationName newOrganizationId dto identity (some existing)) :
    acceptedBy dto (firebaseLogin now organizationName newOrganizationId newId s dto) =
      some (existing.id, identity) := by
  obtain ⟨s', organizationId, horganization, hcitizen⟩ := h.citizen
  rw [firebaseLogin_of_written h.verified horganization hcitizen rfl, acceptedBy, h.verified]
  rfl

theorem LogsIn.found
    (h : LogsIn s organizationName newOrganizationId dto identity (some existing)) :
    s.user? existing.id = some existing := by
  obtain ⟨s', organizationId, horganization, hcitizen⟩ := h.citizen
  have hfound := (firebaseCitizen_eq_ok hcitizen existing rfl).1
  rwa [Store.user?, getDefaultCitizenOrganizationId_users horganization] at hfound

theorem LogsIn.unique {identity' : VerifiedFirebaseIdentity} {existing' : User}
    (h : LogsIn s organizationName newOrganizationId dto identity (some existing))
    (h' : LogsIn s organizationName newOrganizationId dto identity' (some existing')) :
    identity' = identity ∧ existing' = existing := by
  obtain ⟨s', organizationId, horganization, hcitizen⟩ := h.citizen
  obtain ⟨t, organizationId', horganization', hcitizen'⟩ := h'.citizen
  obtain rfl := Except.ok.inj (h.verified.symm.trans h'.verified)
  obtain ⟨rfl, rfl⟩ := Prod.mk.inj (Except.ok.inj (horganization.symm.trans horganization'))
  obtain ⟨hexisting, -⟩ := Prod.mk.inj (Except.ok.inj (hcitizen.symm.trans hcitizen'))
  exact ⟨rfl, (Option.some.inj hexisting).symm⟩

/-- The stamps of a citizen who logs in are right exactly where the identity has a phone or theirs
has no stamp. -/
theorem stampsProved_citizenData_iff {identities : List VerifiedFirebaseIdentity}
    (now : Millis) (organizationId : String) (hs : StampsProved identities existing) :
    StampsProved (identities ++ [identity])
        ((citizenData now identity dto organizationId).apply existing) ↔
      ¬(firebasePhone identity = none ∧ existing.phoneVerifiedAt ≠ none) := by
  constructor
  · rintro hafter ⟨hnone, hstamp⟩
    have hstamped : ((citizenData now identity dto organizationId).apply existing).phoneVerifiedAt
        ≠ none := by simpa [hnone, verifiedAt] using hstamp
    obtain ⟨latest, hlatest, hphone, hne⟩ := hafter.phone hstamped
    rw [List.getLast?_concat, Option.mem_some_iff] at hlatest
    subst hlatest
    exact hne (hphone.trans hnone)
  · intro hproved
    constructor
    · intro hstamp
      have hsome : firebasePhone identity ≠ none := fun hnone =>
        hproved ⟨hnone, by simpa [hnone, verifiedAt] using hstamp⟩
      obtain ⟨phone, hphone⟩ := Option.ne_none_iff_exists'.mp hsome
      refine ⟨identity, by rw [List.getLast?_concat, Option.mem_some_iff], ?_⟩
      simp [hphone]
    · intro hstamp
      cases hemail : firebaseEmail identity with
      | some email => exact ⟨identity, by simp, by simp [hemail]⟩
      | none =>
        obtain ⟨proof, hmem, hproof⟩ := hs.email (by simpa [hemail, verifiedAt] using hstamp)
        exact ⟨proof, List.mem_append_left _ hmem, by simpa [hemail] using hproof⟩

/-- So are those of a citizen who is new. -/
theorem stampsProved_newCitizen (now : Millis) (newId organizationId : String)
    (identities : List VerifiedFirebaseIdentity) :
    StampsProved (identities ++ [identity]) (newCitizen now newId identity dto organizationId) := by
  constructor
  · intro hstamp
    have hphone : (newCitizen now newId identity dto organizationId).phone =
        firebasePhone identity := by rw [newCitizen]
    refine ⟨identity, by rw [List.getLast?_concat, Option.mem_some_iff], hphone, fun hnone => ?_⟩
    rw [newCitizen, ← hphone, hnone] at hstamp
    exact hstamp rfl
  · intro hstamp
    have hemail : (newCitizen now newId identity dto organizationId).email =
        firebaseEmail identity := by rw [newCitizen]
    refine ⟨identity, by simp, hemail, fun hnone => ?_⟩
    rw [newCitizen, ← hemail, hnone] at hstamp
    exact hstamp rfl

/-- Where one row is written and its stamps are right afterwards, all are; the identities of the
others are the same. -/
theorem contactsProved_written_iff {w' : ContactWorld} {row : User} {data : Patch User.id}
    (hs : ContactsProved w) (hfound : w.store.user? row.id = some row)
    (husers : w'.store.users = w.store.users.modify row.id data)
    (hothers : ∀ id, id ≠ row.id → w'.identitiesOf id = w.identitiesOf id) :
    ContactsProved w' ↔ StampsProved (w'.identitiesOf row.id) (data.apply row) := by
  have hrow : w'.store.user? row.id = some (data.apply row) := by
    rw [Store.user?, husers]
    exact Table.find?_modify_self data hfound
  constructor
  · intro hafter
    exact hafter row.id _ hrow
  · intro hproved id user hafter
    by_cases hid : id = row.id
    · subst hid
      obtain rfl := Option.some.inj (hrow.symm.trans hafter)
      exact hproved
    · have hbefore : w.store.user? id = some user := by
        rwa [Store.user?, husers, Table.find?_modify_of_ne data hid] at hafter
      rw [hothers id hid]
      exact hs id user hbefore

/-- A login keeps the stamps right exactly where it is not one without a phone for a user whose
phone has a stamp. -/
theorem firebaseLogin_contactsProved_iff (now : Millis)
    (organizationName newOrganizationId newId : String) (dto : FirebaseLoginDto)
    (hs : ContactsProved w) :
    ContactsProved
        (contactStep (.firebaseLogin now organizationName newOrganizationId newId dto) w) ↔
      ¬Unproves w (.firebaseLogin now organizationName newOrganizationId newId dto) := by
  have houtcome := firebaseLogin_outcome now organizationName newOrganizationId newId w.store dto
  have haccepted : ∀ identity existing,
      LogsIn w.store organizationName newOrganizationId dto identity (some existing) →
        acceptedBy dto (firebaseLogin now organizationName newOrganizationId newId w.store dto) =
          some (existing.id, identity) := fun _ _ hlogs => hlogs.accepted now newId
  rw [contactStep]
  generalize acceptedBy dto
    (firebaseLogin now organizationName newOrganizationId newId w.store dto) = accepted
    at houtcome haccepted ⊢
  generalize (firebaseLogin now organizationName newOrganizationId newId w.store dto).store =
    s' at houtcome ⊢
  cases houtcome with
  | unchanged husers =>
    refine iff_of_true (fun id user hfound => ?_) fun hunproves => ?_
    · rw [Store.user?, husers] at hfound
      simpa [ContactWorld.identitiesOf] using hs id user hfound
    · cases hunproves with
      | withoutPhone hlogs => cases haccepted _ _ hlogs
  | @updated identity user organizationId hlogs hfound husers =>
    rw [Option.toList_some, contactsProved_written_iff hs hfound husers fun id hid => by
      rw [identitiesOf_accept, if_neg hid, List.append_nil], identitiesOf_accept, if_pos rfl,
      stampsProved_citizenData_iff now organizationId (hs user.id user hfound), not_iff_not]
    constructor
    · rintro ⟨hnone, hstamp⟩
      exact .withoutPhone hlogs hnone hstamp
    · intro hunproves
      cases hunproves with
      | withoutPhone hlogs' hnone hstamp =>
        obtain ⟨rfl, rfl⟩ := hlogs.unique hlogs'
        exact ⟨hnone, hstamp⟩
  | @created identity organizationId hfree husers =>
    have hid : (newCitizen now newId identity dto organizationId).id = newId := rfl
    refine iff_of_true (fun id user hfound => ?_) fun hunproves => ?_
    · rw [Store.user?, husers, Table.find?_insert_of_free (hid ▸ hfree), hid] at hfound
      rw [Option.toList_some, identitiesOf_accept]
      split at hfound
      · next hnew =>
        obtain rfl := Option.some.inj hfound
        rw [if_pos hnew]
        exact stampsProved_newCitizen now newId organizationId _
      · next hold =>
        rw [if_neg hold, List.append_nil]
        exact hs id user hfound
    · cases hunproves with
      | withoutPhone hlogs =>
        obtain ⟨rfl, -⟩ := Prod.mk.inj (Option.some.inj (haccepted _ _ hlogs))
        cases hfree.symm.trans hlogs.found

/-! ### Changes of accounts -/

/-- Without a login. -/
theorem contactsProved_modify_iff {row : User} {data : Patch User.id} (hs : ContactsProved w)
    (hfound : w.store.user? row.id = some row)
    (husers : s'.users = w.store.users.modify row.id data) :
    ContactsProved { w with store := s' } ↔
      StampsProved (w.identitiesOf row.id) (data.apply row) :=
  contactsProved_written_iff hs hfound husers fun _ _ => rfl

/-- A change of one's own profile leaves the contacts and their stamps alone. -/
theorem updateMe_contactsProved (hs : ContactsProved w) (actorId : String) (dto : Json) :
    ContactsProved (contactStep (.updateMe actorId dto) w) := by
  rw [contactStep]
  cases hactor : validate w.store actorId with
  | none => exact hs
  | some user =>
    dsimp only
    refine commit_induction (p := fun s' => ContactsProved { w with store := s' }) hs
      fun s' _ hok => ?_
    obtain ⟨existing, data, hfound, -, rfl⟩ := updateMe_eq_ok hok
    have hid : existing.id = user.id := Table.key_of_find? hfound
    rw [← hid] at hfound ⊢
    exact (contactsProved_modify_iff hs hfound rfl).mpr ((hs _ _ hfound).congr rfl rfl rfl rfl)

/-- The stamps of a user whom an administrator edits are right exactly where no other phone is
written over one with a stamp. -/
theorem stampsProved_edited_iff {identities : List VerifiedFirebaseIdentity}
    (data : UserUpdateInput) (hs : StampsProved identities existing) :
    StampsProved identities (data.patch.apply existing) ↔
      ¬∃ phone, data.phone = some phone ∧ existing.phoneVerifiedAt ≠ none ∧
        phone ≠ existing.phone := by
  constructor
  · rintro hafter ⟨phone, hphone, hstamp, hne⟩
    obtain ⟨identity, hlatest, hproved, -⟩ := hs.phone hstamp
    obtain ⟨identity', hlatest', hproved', -⟩ := hafter.phone hstamp
    obtain rfl := Option.mem_unique hlatest hlatest'
    refine hne (Eq.trans ?_ hproved.symm)
    simpa [hphone] using hproved'
  · intro hkept
    constructor
    · intro hstamp
      have hsame : (data.patch.apply existing).phone = existing.phone := by
        cases hphone : data.phone with
        | none => simp [hphone]
        | some phone =>
          have heq : phone = existing.phone :=
            by_contra fun hne => hkept ⟨phone, hphone, hstamp, hne⟩
          simp [hphone, heq]
      rw [PhoneProved, hsame]
      exact hs.phone hstamp
    · intro hstamp
      cases hemail : data.email with
      | some email => exact absurd (by simp [hemail]) hstamp
      | none =>
        have hsame : (data.patch.apply existing).email = existing.email := by simp [hemail]
        rw [EmailProved, hsame]
        exact hs.email (by simpa [hemail] using hstamp)

/-- A request about accounts keeps the stamps right exactly where it is not one that writes another
phone over one with a stamp. -/
theorem account_contactsProved_iff (call : AccountCall) (hs : ContactsProved w) :
    ContactsProved (contactStep (.account call) w) ↔ ¬Unproves w (.account call) := by
  by_cases hwrote : ∃ row data joined, Wrote call w.store row data joined
  · obtain ⟨row, data, joined, hwrote⟩ := hwrote
    have hrewrites := UsersService.handle_rewrites hwrote
    rw [contactStep, contactsProved_modify_iff hs hrewrites.found hrewrites.users]
    have hrow := hs row.id row hrewrites.found
    cases hwrote with
    | accepted hactor hrequest =>
      refine iff_of_true (hrow.congr rfl rfl rfl rfl) fun hunproves => ?_
      cases hunproves with
      | edited _ hrequest' => cases hrequest.symm.trans hrequest'
    | approved hactor hrequest =>
      refine iff_of_true (hrow.congr rfl rfl rfl rfl) fun hunproves => ?_
      cases hunproves with
      | edited _ hrequest' => cases hrequest.symm.trans hrequest'
    | @edited user _ id dto data hactor hrequest hedits =>
      rw [stampsProved_edited_iff data hrow, not_iff_not]
      constructor
      · rintro ⟨phone, hphone, hstamp, hne⟩
        exact .edited hactor hrequest hedits hphone hstamp hne
      · intro hunproves
        cases hunproves with
        | edited hactor' hrequest' hedits' hphone hstamp hne =>
          obtain rfl := Option.some.inj (hactor.symm.trans hactor')
          obtain ⟨rfl, rfl⟩ := AccountRequest.updateUser.inj (hrequest.symm.trans hrequest')
          obtain rfl := Option.some.inj (hedits.found.symm.trans hedits'.found)
          obtain rfl := Except.ok.inj (hedits.checked.symm.trans hedits'.checked)
          exact ⟨_, hphone, hstamp, hne⟩
  · have hnone : ∀ row data joined, ¬Wrote call w.store row data joined :=
      fun row data joined h => hwrote ⟨row, data, joined, h⟩
    obtain ⟨husers, -, -⟩ := UsersService.handle_of_not_wrote hnone
    refine iff_of_true (fun id user hfound => ?_) fun hunproves => ?_
    · rw [contactStep, Store.user?, husers] at hfound
      exact hs id user hfound
    · cases hunproves with
      | edited hactor hrequest hedits => exact hnone _ _ _ (.edited hactor hrequest hedits)

/-- A step keeps the stamps right exactly where it unproves none. -/
theorem contactStep_contactsProved_iff (request : ContactRequest) (hs : ContactsProved w) :
    ContactsProved (contactStep request w) ↔ ¬Unproves w request := by
  cases request with
  | firebaseLogin now organizationName newOrganizationId newId dto =>
    exact firebaseLogin_contactsProved_iff now organizationName newOrganizationId newId dto hs
  | updateMe actorId dto =>
    refine iff_of_true (updateMe_contactsProved hs actorId dto) fun hunproves => ?_
    cases hunproves
  | account call => exact account_contactsProved_iff call hs

/-- **Verified contacts.** Along a run the contacts with a stamp are those that were proved for
their user exactly where no step writes another phone over one with a stamp, or accepts a login
without a phone for a user whose phone has one. -/
theorem verified_contacts_iff (w : ContactWorld) (requests : List ContactRequest)
    (hs : ContactsProved w) :
    Throughout contactStep ContactsProved w requests ↔
      Along contactStep (fun w request => ¬Unproves w request) w requests :=
  throughout_iff_along (fun _ request hs => contactStep_contactsProved_iff request hs) hs requests

namespace Example

/-- One super administrator, before anybody has logged in. -/
def beforeLogins : ContactWorld where
  store := .ofUsers ⟨[{ id := "root", role := .superAdmin }], List.nodup_singleton _⟩
    ⟨[{ id := "demo-organization", name := "FixZone Demo LGA" }], List.nodup_singleton _⟩

theorem beforeLogins_proved : ContactsProved beforeLogins := by
  intro id user hfound
  obtain rfl := List.mem_singleton.mp (Table.mem_of_find? hfound)
  exact ⟨fun hstamp => absurd rfl hstamp, fun hstamp => absurd rfl hstamp⟩

def ngoziLogin : FirebaseLoginDto where
  identity := .ok { uid := "firebase-8", phoneNumber := some "+2348030000002" }

/-- A citizen logs in for the first time. -/
def ngoziLogsIn : ContactRequest := .firebaseLogin 0 "FixZone Demo LGA" "" "ngozi" ngoziLogin

/-- The super administrator writes another phone for the citizen. -/
def ngoziRephoned : ContactRequest := .account
  { actorId := "root"
    request := .updateUser "ngozi" { phone := some (.str "+2348030000003") }
    now := 1
    newId := "" }

end Example

open Example in
/-- The phone of a first login is proved. -/
theorem first_login_proved : Throughout contactStep ContactsProved beforeLogins [ngoziLogsIn] := by
  refine (verified_contacts_iff beforeLogins [ngoziLogsIn] beforeLogins_proved).mpr
    ⟨fun hunproves => ?_, trivial⟩
  cases hunproves with
  | withoutPhone hlogs hnone =>
    obtain rfl := Except.ok.inj (verifiedIdentity_eq_ok.mp hlogs.verified).1
    exact absurd hnone (by decide +kernel)

open Example in
/-- A phone that an administrator wrote carries the stamp of the one that was proved. -/
theorem rephoned_unproved : ¬∀ (w : ContactWorld) (requests : List ContactRequest),
    ContactsProved w → Throughout contactStep ContactsProved w requests := by
  intro h
  have hthroughout := h beforeLogins [ngoziLogsIn, ngoziRephoned] beforeLogins_proved
  have hafter := throughout_iff.mp hthroughout _ [] (List.append_nil _).symm
  have hrow : ((run contactStep beforeLogins [ngoziLogsIn, ngoziRephoned]).store.user? "ngozi").map
      (fun user => (user.phone, user.phoneVerifiedAt)) = some (some "+2348030000003", some 0) := by
    decide +kernel
  have hphones : ((run contactStep beforeLogins [ngoziLogsIn, ngoziRephoned]).identitiesOf
      "ngozi").map firebasePhone = [some "+2348030000002"] := by
    decide +kernel
  obtain ⟨user, hfound, hcolumns⟩ := Option.map_eq_some_iff.mp hrow
  obtain ⟨hphone, hstamp⟩ := Prod.mk.inj hcolumns
  obtain ⟨identity, hlatest, hproved, -⟩ := (hafter "ngozi" user hfound).phone (by simp [hstamp])
  have hlast :=
    (List.getLast?_map (f := firebasePhone)).trans (congrArg _ (Option.mem_def.mp hlatest))
  rw [hphones, List.getLast?_singleton, Option.map_some, ← hproved, hphone] at hlast
  exact absurd hlast (by decide +kernel)

end FixZone.AuthService
