import FixZone.Auth.AccountChanges
import Mathlib.Data.List.ReduceOption

/-!
# Whose account a Firebase login reaches

An identity owns the user with its uid, its phone or its verified email, if there is one
(`Owns`). `firebaseLogin` refuses an identity that owns two users, or a user who is no active
citizen or is bound to another uid. It writes the user the identity owns, or a new one, so the
columns that are unique stay so, and no other row changes.

A user whose `firebaseUid` is the empty text counts as bound to nobody where that is checked, but
keeps the empty text where the uid is written. Such a user, reached by phone or email, is logged in
without being bound (`LogsInUnbound`), and that is the only way in which a login is not what it
should be (`firebase_login_safe_iff`).
-/

namespace FixZone.AuthService

open Library Accounts
open ReportService (HttpError)

/-- `firebaseLogin`: the tokens, or none for the answer that the citizen has to go through
recovery. -/
def firebaseTokens (now : Millis) (organizationName newOrganizationId newId : String) (s : Store)
    (dto : FirebaseLoginDto) : Reply (Option JwtPayload) :=
  let reply := firebaseLogin now organizationName newOrganizationId newId s dto
  ⟨reply.store, reply.answer.map fun citizen => citizen.map issueTokens⟩

/-- The unique columns of `User`. -/
structure UniqueAccounts (s : Store) : Prop where
  firebaseUid : s.users.UniqueIn User.firebaseUid
  phone : s.users.UniqueIn User.phone
  email : s.users.UniqueIn User.email

/-- What a login by the identity with this uid leaves. -/
structure SafeLogin (s : Store) (uid : String) (s' : Store) (payload : JwtPayload) : Prop where
  /-- The tokens are for an active citizen who is bound to the uid. -/
  holder : ∃ user, s'.user? payload.sub = some user ∧ payload = issueTokens user ∧
    user.accountStatus = .active ∧ user.role = .citizen ∧ user.firebaseUid = some uid
  /-- No other row is created or changed. -/
  others : ∀ id, id ≠ payload.sub → s'.user? id = s.user? id
  unique : UniqueAccounts s'
  level : ∀ row row', s.user? payload.sub = some row → s'.user? payload.sub = some row' →
    row.identityVerificationLevel ≤ row'.identityVerificationLevel
  /-- Nobody is bound to another uid than before. -/
  bound : ∀ id row row' bound, s.user? id = some row → s'.user? id = some row' →
    row.firebaseUid = some bound → bound ≠ uid → row'.firebaseUid = some bound

/-- The user is one the identity names: by its uid, its phone or its verified email. -/
def Owns (s : Store) (identity : VerifiedFirebaseIdentity) (user : User) : Prop :=
  user ∈ s.users.rows ∧ (user.firebaseUid = some (trim identity.uid) ∨
    user.phone = firebasePhone identity ∧ user.phone ≠ none ∨
    user.email = firebaseEmail identity ∧ user.email ≠ none)

/-- The default organization is there, or can be created. -/
def OrganizationReady (s : Store) (organizationName newOrganizationId : String) : Prop :=
  (∃ organization ∈ s.organizations.rows, organization.name = organizationName) ∨
    s.organization? newOrganizationId = none

/-- The request logs in an active citizen whose `firebaseUid` is the empty text: the only user the
identity names, by phone or email. -/
structure LogsInUnbound (s : Store) (organizationName newOrganizationId : String)
    (dto : FirebaseLoginDto) (identity : VerifiedFirebaseIdentity) (user : User) : Prop where
  verified : verifiedIdentity dto = .ok identity
  organization : OrganizationReady s organizationName newOrganizationId
  owned : Owns s identity user
  only : ∀ other, Owns s identity other → other = user
  unbound : user.firebaseUid = some ""
  active : user.accountStatus = .active
  citizen : user.role = .citizen
  /-- The request is not one that has to go through recovery. -/
  proceeds : ¬ (dto.intent = some "registration" ∧ user.email = firebaseEmail identity ∧
    user.email ≠ none)

variable {now : Millis} {organizationName newOrganizationId newId : String} {s s' : Store}
  {dto : FirebaseLoginDto} {identity : VerifiedFirebaseIdentity} {user : User}

/-! ### The user an identity owns -/

/-- A lookup in a unique column finds the row with the value. -/
theorem findBy_eq_some_iff {column : User → Option String} (h : s.users.UniqueIn column)
    {value : Option String} : findBy s column value = some user ↔
      user ∈ s.users.rows ∧ column user = value ∧ column user ≠ none := by
  cases value with
  | none =>
    refine iff_of_false (by simp [findBy]) ?_
    rintro ⟨-, hnone, hsome⟩
    exact hsome hnone
  | some text =>
    rw [findBy, Option.bind_some]
    constructor
    · intro hfind
      have hcolumn := List.find?_some hfind
      rw [decide_eq_true_eq] at hcolumn
      exact ⟨List.mem_of_find?_eq_some hfind, hcolumn, hcolumn ▸ Option.some_ne_none _⟩
    · rintro ⟨hmem, hcolumn, -⟩
      cases hfind : s.users.rows.find? fun row => column row = some text with
      | none => exact absurd hcolumn (by simpa using List.find?_eq_none.mp hfind user hmem)
      | some found =>
        have hfound := List.find?_some hfind
        rw [decide_eq_true_eq] at hfound
        exact congrArg some (h user hmem found (List.mem_of_find?_eq_some hfind)
          (hcolumn ▸ Option.some_ne_none _) (hfound.trans hcolumn.symm))

/-- What `firebaseLogin` finds by the uid, the phone and the email. -/
def foundBy (s : Store) (identity : VerifiedFirebaseIdentity) : List (Option User) :=
  [findBy s User.firebaseUid (some (trim identity.uid)),
    findBy s User.phone (firebasePhone identity), findBy s User.email (firebaseEmail identity)]

/-- It finds the users the identity owns. -/
theorem mem_foundBy_iff (h : UniqueAccounts s) :
    user ∈ (foundBy s identity).reduceOption ↔ Owns s identity user := by
  rw [foundBy, List.reduceOption_mem_iff, List.mem_cons, List.mem_cons, List.mem_singleton,
    eq_comm (a := some user), findBy_eq_some_iff h.firebaseUid, eq_comm (a := some user),
    findBy_eq_some_iff h.phone, eq_comm (a := some user), findBy_eq_some_iff h.email, Owns]
  constructor
  · rintro (⟨hmem, hcolumn, -⟩ | ⟨hmem, hcolumn⟩ | ⟨hmem, hcolumn⟩)
    · exact ⟨hmem, .inl hcolumn⟩
    · exact ⟨hmem, .inr (.inl hcolumn)⟩
    · exact ⟨hmem, .inr (.inr hcolumn)⟩
  · rintro ⟨hmem, hcolumn | hcolumn | hcolumn⟩
    · exact .inl ⟨hmem, hcolumn, hcolumn ▸ Option.some_ne_none _⟩
    · exact .inr (.inl ⟨hmem, hcolumn⟩)
    · exact .inr (.inr ⟨hmem, hcolumn⟩)

/-- The first of three that is there. -/
theorem orElse_eq_head? {α : Type} (a b c : Option α) :
    (a <|> b <|> c) = [a, b, c].reduceOption.head? := by
  cases a with
  | some a => rfl
  | none =>
    cases b with
    | some b => rfl
    | none => cases c <;> rfl

/-- What a list begins with, where all its members are the same. -/
theorem head?_eq_some_iff_of_all {α : Type} {l : List α} (h : ∀ a ∈ l, ∀ b ∈ l, a = b) {a : α} :
    l.head? = some a ↔ a ∈ l := by
  refine ⟨List.mem_of_mem_head?, fun hmem => ?_⟩
  cases l with
  | nil => cases hmem
  | cons b l => exact congrArg some (h b List.mem_cons_self a hmem)

/-- Rows with the same id are the same. -/
theorem eq_of_id_eq {row row' : User} (hrow : row ∈ s.users.rows) (hrow' : row' ∈ s.users.rows)
    (hid : row.id = row'.id) : row = row' := by
  have hfound := Table.mem_rows_iff.mp hrow
  rw [hid, Table.mem_rows_iff.mp hrow'] at hfound
  exact (Option.some.inj hfound).symm

/-- The citizen an identity is of: the only user it owns, active, and bound to no other uid. -/
structure CitizenOf (s : Store) (identity : VerifiedFirebaseIdentity) (existing : Option User) :
    Prop where
  owned : ∀ user, existing = some user ↔ Owns s identity user
  citizen : ∀ user, existing = some user → user.role = .citizen
  active : ∀ user, existing = some user → user.accountStatus = .active
  unbound : ∀ user, existing = some user → truthy user.firebaseUid = true →
    user.firebaseUid = some (trim identity.uid)

theorem firebaseCitizen_of (h : UniqueAccounts s) {existing : Option User} {recovery : Bool}
    (hcitizen : firebaseCitizen s identity dto = .ok (existing, recovery)) :
    CitizenOf s identity existing := by
  dsimp only [firebaseCitizen] at hcitizen
  rw [orElse_eq_head?, ← foundBy] at hcitizen
  obtain ⟨hsame, hcitizen⟩ := throwIf_bind_eq_ok.mp hcitizen
  obtain ⟨hrole, hcitizen⟩ := throwIf_bind_eq_ok.mp hcitizen
  obtain ⟨hactive, hcitizen⟩ := throwIf_bind_eq_ok.mp hcitizen
  obtain ⟨hbound, hcitizen⟩ := throwIf_bind_eq_ok.mp hcitizen
  obtain ⟨-, hcitizen⟩ := check_bind_eq_ok.mp hcitizen
  obtain ⟨-, hcitizen⟩ := check_bind_eq_ok.mp hcitizen
  obtain ⟨rfl, -⟩ := Prod.mk.inj (pure_eq_ok.mp hcitizen)
  refine ⟨fun user => ?_, fun user huser => ?_, fun user huser => ?_, fun user huser htruthy => ?_⟩
  · rw [← mem_foundBy_iff h]
    refine head?_eq_some_iff_of_all fun row hrow row' hrow' => ?_
    have hhead : ∀ other ∈ (foundBy s identity).reduceOption,
        ∀ first, (foundBy s identity).reduceOption.head? = some first → other.id = first.id := by
      intro other hother first hfirst
      by_contra hne
      exact hsame ⟨first, hfirst, other, hother, hne⟩
    obtain ⟨first, hfirst⟩ : ∃ first, (foundBy s identity).reduceOption.head? = some first :=
      Option.isSome_iff_exists.mp (List.isSome_head?.mpr (List.ne_nil_of_mem hrow))
    exact eq_of_id_eq ((mem_foundBy_iff h).mp hrow).1 ((mem_foundBy_iff h).mp hrow').1
      ((hhead row hrow first hfirst).trans (hhead row' hrow' first hfirst).symm)
  · by_contra hne
    exact hrole ⟨user, huser, hne⟩
  · by_contra hne
    exact hactive ⟨user, huser, hne⟩
  · by_contra hne
    exact hbound ⟨user, huser, htruthy, hne⟩

/-- The answer that the citizen has to go through recovery, for a user who is bound to nobody. -/
theorem recovery_iff (h : UniqueAccounts s) {recovery : Bool}
    (hcitizen : firebaseCitizen s identity dto = .ok (some user, recovery))
    (hunbound : truthy user.firebaseUid = false) :
    recovery = true ↔ dto.intent = some "registration" ∧ user.email = firebaseEmail identity ∧
      user.email ≠ none ∧ findBy s User.firebaseUid (some (trim identity.uid)) = none := by
  have hof := firebaseCitizen_of h hcitizen
  dsimp only [firebaseCitizen] at hcitizen
  obtain ⟨-, hcitizen⟩ := throwIf_bind_eq_ok.mp hcitizen
  obtain ⟨-, hcitizen⟩ := throwIf_bind_eq_ok.mp hcitizen
  obtain ⟨-, hcitizen⟩ := throwIf_bind_eq_ok.mp hcitizen
  obtain ⟨-, hcitizen⟩ := throwIf_bind_eq_ok.mp hcitizen
  obtain ⟨-, hcitizen⟩ := check_bind_eq_ok.mp hcitizen
  obtain ⟨-, hcitizen⟩ := check_bind_eq_ok.mp hcitizen
  obtain ⟨hexisting, hrecovery⟩ := Prod.mk.inj (pure_eq_ok.mp hcitizen)
  rw [← hrecovery, hexisting]
  simp only [Bool.and_eq_true, decide_eq_true_eq, Option.isNone_iff_eq_none, Option.any_eq_true,
    Option.some.injEq, exists_eq_left', Bool.not_eq_true', and_assoc, findBy_eq_some_iff h.email]
  constructor
  · rintro ⟨hintent, hsome, ⟨owner, hmem, hcolumn, hne, hid, -⟩, huid⟩
    obtain rfl := eq_of_id_eq ((hof.owned user).mp rfl).1 hmem hid
    exact ⟨hintent, hcolumn, hne, huid⟩
  · rintro ⟨hintent, hcolumn, hne, huid⟩
    refine ⟨hintent, ?_, ⟨user, ((hof.owned user).mp rfl).1, hcolumn, hne, rfl, hunbound⟩, huid⟩
    rw [← hcolumn]
    exact Option.isSome_iff_ne_none.mpr hne

/-! ### What a login writes -/

/-- Where no other user has the claim, none has the value that is written over `user`'s. -/
theorem free_of_claim {column : User → Option String} (hunique : s.users.UniqueIn column)
    {row : User} {claim : Option String} (huser : user ∈ s.users.rows) (hrow : row ∈ s.users.rows)
    (hne : row ≠ user) (hclaim : column row = claim → column row ≠ none → row = user)
    (hsome : (claim <|> column user) ≠ none) : column row ≠ (claim <|> column user) := by
  intro heq
  cases claim with
  | none => exact hne (hunique user huser row hrow hsome heq)
  | some text => exact hne (hclaim heq (heq ▸ hsome))

theorem citizenData_level (row : User) (organizationId : String) :
    row.identityVerificationLevel ≤
      ((citizenData now identity dto organizationId).apply row).identityVerificationLevel :=
  Nat.le_max_left _ _

/-- The login writes the citizen the identity is of: safely, if they are bound to its uid then. -/
theorem updated_safe (h : UniqueAccounts s) (hof : CitizenOf s identity (some user))
    (organizationId : String)
    (hbound : ((citizenData now identity dto organizationId).apply user).firebaseUid =
      some (trim identity.uid)) :
    SafeLogin s (trim identity.uid)
      (s.updateUser user.id (citizenData now identity dto organizationId))
      (issueTokens ((citizenData now identity dto organizationId).apply user)) := by
  have huser : user ∈ s.users.rows := ((hof.owned user).mp rfl).1
  have hfound : s.users.find? user.id = some user := Table.mem_rows_iff.mp huser
  have hstored : (s.updateUser user.id (citizenData now identity dto organizationId)).user?
      user.id = some ((citizenData now identity dto organizationId).apply user) :=
    Table.find?_modify_self _ hfound
  have hothers : ∀ id, id ≠ user.id →
      (s.updateUser user.id (citizenData now identity dto organizationId)).user? id = s.user? id :=
    fun id hne => Table.find?_modify_of_ne _ hne
  have howner : ∀ row, Owns s identity row → row = user := fun row howns =>
    (Option.some.inj ((hof.owned row).mpr howns)).symm
  have hneUser : ∀ row : User, row.id ≠ user.id → row ≠ user := fun row hne heq =>
    hne (congrArg User.id heq)
  refine ⟨⟨_, hstored, rfl, hof.active user rfl, rfl, hbound⟩, hothers, ⟨?_, ?_, ?_⟩, ?_, ?_⟩
  · refine h.firebaseUid.write (fun row => Table.rows_modify_cases hfound) ?_
    intro row hrow hne _ heq
    exact hneUser row hne (howner row ⟨hrow, .inl (heq.trans hbound)⟩)
  · refine h.phone.write (fun row => Table.rows_modify_cases hfound) ?_
    intro row hrow hne hsome
    exact free_of_claim h.phone huser hrow (hneUser row hne)
      (fun heq hsome => howner row ⟨hrow, .inr (.inl ⟨heq, hsome⟩)⟩) hsome
  · refine h.email.write (fun row => Table.rows_modify_cases hfound) ?_
    intro row hrow hne hsome
    exact free_of_claim h.email huser hrow (hneUser row hne)
      (fun heq hsome => howner row ⟨hrow, .inr (.inr ⟨heq, hsome⟩)⟩) hsome
  · intro row row' hrow hrow'
    rw [issueTokens] at hrow hrow'
    cases hfound.symm.trans hrow
    cases hstored.symm.trans hrow'
    exact citizenData_level user organizationId
  · intro id row row' bound hrow hrow' hrowBound hne
    by_cases hid : id = user.id
    · subst hid
      cases hfound.symm.trans hrow
      rw [show ((citizenData now identity dto organizationId).apply user).firebaseUid =
        some (user.firebaseUid.getD (trim identity.uid)) from rfl, hrowBound] at hbound
      exact absurd (Option.some.inj hbound) hne
    · rw [hothers id hid, hrow] at hrow'
      rw [← Option.some.inj hrow', hrowBound]

/-- The login creates a citizen where the identity owns nobody. -/
theorem created_safe (h : UniqueAccounts s) (hof : CitizenOf s identity none)
    (organizationId : String) (hfree : s.user? newId = none) :
    SafeLogin s (trim identity.uid)
      (s.insertUser (newCitizen now newId identity dto organizationId))
      (issueTokens (newCitizen now newId identity dto organizationId)) := by
  have hkey : s.users.find? (newCitizen now newId identity dto organizationId).id = none := hfree
  have hstored : (s.insertUser (newCitizen now newId identity dto organizationId)).user? newId =
      some (newCitizen now newId identity dto organizationId) := by
    exact Table.find?_insert_self hkey
  have hothers : ∀ id, id ≠ newId →
      (s.insertUser (newCitizen now newId identity dto organizationId)).user? id = s.user? id := by
    intro id hne
    rw [Store.user?, Store.insertUser, Table.find?_insert_of_free hkey]
    exact if_neg hne
  have hnone : ∀ row, ¬ Owns s identity row := fun row howns => by
    cases (hof.owned row).mpr howns
  refine ⟨⟨_, hstored, rfl, rfl, rfl, rfl⟩, hothers, ⟨?_, ?_, ?_⟩, ?_, ?_⟩
  · refine h.firebaseUid.write (fun row => Table.rows_insert_cases hkey) ?_
    exact fun row hrow _ _ heq => hnone row ⟨hrow, .inl heq⟩
  · refine h.phone.write (fun row => Table.rows_insert_cases hkey) ?_
    intro row hrow _ hsome heq
    dsimp only [newCitizen] at hsome heq
    exact hnone row ⟨hrow, .inr (.inl ⟨heq, heq ▸ hsome⟩)⟩
  · refine h.email.write (fun row => Table.rows_insert_cases hkey) ?_
    intro row hrow _ hsome heq
    dsimp only [newCitizen] at hsome heq
    exact hnone row ⟨hrow, .inr (.inr ⟨heq, heq ▸ hsome⟩)⟩
  · intro row row' hrow
    cases hfree.symm.trans hrow
  · intro id row row' bound hrow hrow' hrowBound hne
    by_cases hid : id = newId
    · rw [hid, hfree] at hrow
      cases hrow
    · rw [hothers id hid, hrow] at hrow'
      rw [← Option.some.inj hrow', hrowBound]

/-! ### Which logins are safe -/

theorem verifiedIdentity_eq_ok : verifiedIdentity dto = .ok identity ↔
    dto.identity = .ok identity ∧ trim identity.uid ≠ "" ∧
      ¬ (firebasePhone identity = none ∧ firebaseEmail identity = none) := by
  unfold verifiedIdentity
  cases hidentity : dto.identity with
  | error e => simp
  | ok verified =>
    dsimp only
    constructor
    · intro h
      obtain ⟨huid, h⟩ := throwIf_bind_eq_ok.mp h
      obtain ⟨hclaims, h⟩ := throwIf_bind_eq_ok.mp h
      obtain rfl := pure_eq_ok.mp h
      exact ⟨rfl, huid, hclaims⟩
    · rintro ⟨heq, huid, hclaims⟩
      cases heq
      exact throwIf_bind_eq_ok.mpr ⟨huid, throwIf_bind_eq_ok.mpr ⟨hclaims, rfl⟩⟩

/-- A login gives tokens exactly when it has found the citizen the identity is of, or nobody, and
has written them. -/
theorem firebaseTokens_eq_iff {payload : JwtPayload} :
    firebaseTokens now organizationName newOrganizationId newId s dto = ⟨s', .ok (some payload)⟩ ↔
      ∃ identity t organizationId existing user, verifiedIdentity dto = .ok identity ∧
        getDefaultCitizenOrganizationId s organizationName newOrganizationId =
          .ok (t, organizationId) ∧
        firebaseCitizen t identity dto = .ok (existing, false) ∧
        writeCitizen now newId t identity dto existing organizationId = .ok (s', user) ∧
        issueTokens user = payload := by
  constructor
  · intro h
    have hreply := firebaseLogin_reply now organizationName newOrganizationId newId s dto
    unfold firebaseTokens at h
    generalize firebaseLogin now organizationName newOrganizationId newId s dto = reply
      at h hreply
    cases hreply with
    | @unwritten reply husers hnobody =>
      obtain ⟨store, answer⟩ := reply
      rcases answer with e | _ | user
      · cases h
      · cases h
      · exact absurd rfl (hnobody user)
    | written hverified horganization hcitizen hwrite =>
      cases h
      exact ⟨_, _, _, _, _, hverified, horganization, hcitizen, hwrite, rfl⟩
  · rintro ⟨identity, t, organizationId, existing, user, hverified, horganization, hcitizen, hwrite,
      rfl⟩
    rw [firebaseTokens, firebaseLogin_of_written hverified horganization hcitizen hwrite]
    rfl

theorem organizationReady_iff : OrganizationReady s organizationName newOrganizationId ↔
    ∃ t organizationId, getDefaultCitizenOrganizationId s organizationName newOrganizationId =
      .ok (t, organizationId) := by
  unfold OrganizationReady getDefaultCitizenOrganizationId
  cases hfound : s.organizations.rows.find? fun row => row.name = organizationName with
  | some organization =>
    have hname := List.find?_some hfound
    rw [decide_eq_true_eq] at hname
    exact iff_of_true (.inl ⟨organization, List.mem_of_find?_eq_some hfound, hname⟩) ⟨_, _, rfl⟩
  | none =>
    have hnone : ¬ ∃ organization ∈ s.organizations.rows, organization.name = organizationName := by
      simpa using List.find?_eq_none.mp hfound
    rw [or_iff_right hnone]
    cases hfree : s.organization? newOrganizationId with
    | none => exact iff_of_true rfl ⟨_, _, rfl⟩
    | some organization =>
      refine iff_of_false (Option.some_ne_none _) ?_
      rintro ⟨t, organizationId, h⟩
      cases h

/-- Of the accounts, what is asked of a login is asked of the users alone. -/
theorem UniqueAccounts.of_users {t : Store} (husers : t.users = s.users) (h : UniqueAccounts s) :
    UniqueAccounts t := by
  obtain ⟨huid, hphone, hemail⟩ := h
  rw [← husers] at huid hphone hemail
  exact ⟨huid, hphone, hemail⟩

theorem SafeLogin.of_users {t : Store} {uid : String} {payload : JwtPayload}
    (husers : t.users = s.users) (h : SafeLogin t uid s' payload) : SafeLogin s uid s' payload := by
  have huser : ∀ id, s.user? id = t.user? id := fun id => by rw [Store.user?, Store.user?, husers]
  refine ⟨h.holder, fun id hne => ?_, h.unique, fun row row' hrow => ?_,
    fun id row row' bound hrow => ?_⟩
  · rw [huser]
    exact h.others id hne
  · rw [huser] at hrow
    exact h.level row row' hrow
  · rw [huser] at hrow
    exact h.bound id row row' bound hrow

theorem owns_of_users {t : Store} (husers : t.users = s.users) :
    Owns t identity user ↔ Owns s identity user := by
  rw [Owns, Owns, husers]

/-- A claim is free where its owner, if there is one, is the user. -/
theorem assertClaimFree_of_owner {column : User → Option String} {claim : Option String}
    (h : ∀ owner, findBy s column claim = some owner → owner = user) :
    assertClaimFree s (some user) column claim = .ok ⟨⟩ := by
  refine throwIf_eq_ok.mpr ?_
  rintro ⟨found, hfound, owner, howner, -, -, hne⟩
  cases hfound
  exact hne (congrArg User.id (h owner howner))

/-- An active citizen who is bound to nobody is found by an identity that owns nobody else. -/
theorem firebaseCitizen_of_owner (dto : FirebaseLoginDto) (h : UniqueAccounts s)
    (howns : Owns s identity user)
    (honly : ∀ other, Owns s identity other → other = user) (hcitizen : user.role = .citizen)
    (hactive : user.accountStatus = .active) (hunbound : truthy user.firebaseUid = false) :
    ∃ recovery, firebaseCitizen s identity dto = .ok (some user, recovery) := by
  have hfound : ∀ row ∈ (foundBy s identity).reduceOption, row = user := fun row hrow =>
    honly row ((mem_foundBy_iff h).mp hrow)
  have hhead : (foundBy s identity).reduceOption.head? = some user :=
    (head?_eq_some_iff_of_all fun row hrow row' hrow' =>
      (hfound row hrow).trans (hfound row' hrow').symm).mpr ((mem_foundBy_iff h).mpr howns)
  dsimp only [firebaseCitizen]
  rw [orElse_eq_head?, ← foundBy, hhead]
  refine ⟨_, throwIf_bind_eq_ok.mpr ⟨?_, throwIf_bind_eq_ok.mpr ⟨?_, throwIf_bind_eq_ok.mpr ⟨?_,
    throwIf_bind_eq_ok.mpr ⟨?_, check_bind_eq_ok.mpr ⟨checkWhen_eq_ok.mpr fun _ => ?_,
    check_bind_eq_ok.mpr ⟨checkWhen_eq_ok.mpr fun _ => ?_, rfl⟩⟩⟩⟩⟩⟩⟩
  · rintro ⟨first, hfirst, other, hother, hne⟩
    cases hfirst
    exact hne (congrArg User.id (hfound other hother))
  · rintro ⟨row, hrow, hne⟩
    cases hrow
    exact hne hcitizen
  · rintro ⟨row, hrow, hne⟩
    cases hrow
    exact hne hactive
  · rintro ⟨row, hrow, htruthy, -⟩
    cases hrow
    rw [hunbound] at htruthy
    cases htruthy
  · refine assertClaimFree_of_owner fun owner howner => ?_
    obtain ⟨hmem, hcolumn⟩ := (findBy_eq_some_iff h.phone).mp howner
    exact honly owner ⟨hmem, .inr (.inl hcolumn)⟩
  · refine assertClaimFree_of_owner fun owner howner => ?_
    obtain ⟨hmem, hcolumn⟩ := (findBy_eq_some_iff h.email).mp howner
    exact honly owner ⟨hmem, .inr (.inr hcolumn)⟩

/-- A login of a user whose `firebaseUid` is the empty text leaves it so. -/
theorem LogsInUnbound.tokens (now : Millis) (newId : String) (h : UniqueAccounts s)
    (hunbound : LogsInUnbound s organizationName newOrganizationId dto identity user) :
    ∃ s' row, firebaseTokens now organizationName newOrganizationId newId s dto =
        ⟨s', .ok (some (issueTokens row))⟩ ∧
      s'.user? row.id = some row ∧ row.firebaseUid = some "" := by
  obtain ⟨t, organizationId, horganization⟩ := organizationReady_iff.mp hunbound.organization
  have husers := getDefaultCitizenOrganizationId_users horganization
  have howns := (owns_of_users husers).mpr hunbound.owned
  obtain ⟨recovery, hcitizen⟩ := firebaseCitizen_of_owner dto (h.of_users husers) howns
    (fun other hother => hunbound.only other ((owns_of_users husers).mp hother)) hunbound.citizen
    hunbound.active (by rw [hunbound.unbound]; rfl)
  have hproceeds : recovery = false := by
    rw [Bool.eq_false_iff, ne_eq, recovery_iff (h.of_users husers) hcitizen
      (by rw [hunbound.unbound]; rfl)]
    exact fun ⟨hintent, hcolumn, hne, _⟩ => hunbound.proceeds ⟨hintent, hcolumn, hne⟩
  subst hproceeds
  refine ⟨t.updateUser user.id (citizenData now identity dto organizationId),
    (citizenData now identity dto organizationId).apply user, firebaseTokens_eq_iff.mpr
      ⟨identity, t, organizationId, some user, _, hunbound.verified, horganization, hcitizen, rfl,
        rfl⟩, ?_, ?_⟩
  · exact Table.find?_modify_self _ (Table.mem_rows_iff.mp howns.1)
  · show some (user.firebaseUid.getD (trim identity.uid)) = some ""
    rw [hunbound.unbound, Option.getD_some]

/-- Such a login is not safe. -/
theorem LogsInUnbound.not_safe (now : Millis) (newId : String) (h : UniqueAccounts s)
    (hunbound : LogsInUnbound s organizationName newOrganizationId dto identity user) :
    ∃ payload, (firebaseTokens now organizationName newOrganizationId newId s dto).answer =
        .ok (some payload) ∧
      ¬ SafeLogin s (trim identity.uid)
        (firebaseTokens now organizationName newOrganizationId newId s dto).store payload := by
  obtain ⟨s', row, htokens, hstored, hempty⟩ := hunbound.tokens now newId h
  rw [htokens]
  refine ⟨issueTokens row, rfl, fun hlogin => ?_⟩
  obtain ⟨holder, hholder, -, -, -, hbound⟩ := hlogin.holder
  obtain rfl := Option.some.inj (hstored.symm.trans hholder)
  rw [hempty] at hbound
  exact (verifiedIdentity_eq_ok.mp hunbound.verified).2.1 (Option.some.inj hbound).symm

/-- A login that gives tokens is safe, or is one of a user who stays unbound. -/
theorem safe_or_unbound (h : UniqueAccounts s) {payload : JwtPayload}
    (htokens : firebaseTokens now organizationName newOrganizationId newId s dto =
      ⟨s', .ok (some payload)⟩) (hidentity : dto.identity = .ok identity) :
    SafeLogin s (trim identity.uid) s' payload ∨
      ∃ user, LogsInUnbound s organizationName newOrganizationId dto identity user := by
  obtain ⟨verified, t, organizationId, existing, written, hverified, horganization,
    hcitizen, hwrite, rfl⟩ := firebaseTokens_eq_iff.mp htokens
  have hchecked := verifiedIdentity_eq_ok.mp hverified
  obtain rfl := Except.ok.inj (hchecked.1.symm.trans hidentity)
  have husers := getDefaultCitizenOrganizationId_users horganization
  have hof := firebaseCitizen_of (h.of_users husers) hcitizen
  cases existing with
  | none =>
    obtain ⟨hfree, hwrite⟩ := throwIf_bind_eq_ok.mp hwrite
    obtain ⟨rfl, rfl⟩ := Prod.mk.inj (pure_eq_ok.mp hwrite)
    rw [Bool.not_eq_true, Option.isSome_eq_false_iff, Option.isNone_iff_eq_none] at hfree
    exact .inl ((created_safe (h.of_users husers) hof organizationId hfree).of_users husers)
  | some user =>
    obtain ⟨rfl, rfl⟩ := Prod.mk.inj (Except.ok.inj hwrite)
    by_cases hunbound : user.firebaseUid = some ""
    · have hfalsy : truthy user.firebaseUid = false := by rw [hunbound]; rfl
      have howns := (hof.owned user).mp rfl
      have honly : ∀ other, Owns t verified other → other = user := fun other hother =>
        (Option.some.inj ((hof.owned other).mpr hother)).symm
      refine .inr ⟨user, hverified, organizationReady_iff.mpr ⟨t, organizationId, horganization⟩,
        (owns_of_users husers).mp howns,
        fun other hother => honly other ((owns_of_users husers).mpr hother), hunbound,
        hof.active user rfl, hof.citizen user rfl, ?_⟩
      rintro ⟨hintent, hcolumn, hne⟩
      -- Nobody has the uid, so the answer would have been that the user has to recover.
      have huid : findBy t User.firebaseUid (some (trim verified.uid)) = none := by
        rw [Option.eq_none_iff_forall_ne_some]
        intro owner howner
        obtain ⟨hmem, howned, -⟩ := (findBy_eq_some_iff (h.of_users husers).firebaseUid).mp howner
        rw [honly owner ⟨hmem, .inl howned⟩, hunbound] at howned
        exact hchecked.2.1 (Option.some.inj howned).symm
      cases (recovery_iff (h.of_users husers) hcitizen hfalsy).mpr ⟨hintent, hcolumn, hne, huid⟩
    · refine .inl ((updated_safe (h.of_users husers) hof organizationId ?_).of_users husers)
      show some (user.firebaseUid.getD (trim verified.uid)) = some (trim verified.uid)
      cases hbound : user.firebaseUid with
      | none => rfl
      | some bound =>
        have htruthy : truthy user.firebaseUid = true := by
          rw [hbound, truthy_some_iff]
          exact fun hempty => hunbound (hbound.trans (congrArg some hempty))
        rw [← hof.unbound user rfl htruthy, hbound, Option.getD_some]

/-- **Logins reach the own account.** A login through Firebase gives tokens for the active citizen
who is bound to the identity's uid, changes no other row and keeps what is unique, exactly where
the identity does not reach a citizen by phone or email whose `firebaseUid` is the empty text. -/
theorem firebase_login_safe_iff (now : Millis) (organizationName newOrganizationId newId : String)
    (s : Store) (dto : FirebaseLoginDto) (identity : VerifiedFirebaseIdentity)
    (hidentity : dto.identity = .ok identity) (hunique : UniqueAccounts s) :
    (∀ payload,
      (firebaseTokens now organizationName newOrganizationId newId s dto).answer =
          .ok (some payload) →
        SafeLogin s (trim identity.uid)
          (firebaseTokens now organizationName newOrganizationId newId s dto).store payload) ↔
      ¬ ∃ user, LogsInUnbound s organizationName newOrganizationId dto identity user := by
  constructor
  · rintro hsafe ⟨user, hunbound⟩
    obtain ⟨payload, hanswer, hnot⟩ := hunbound.not_safe now newId hunique
    exact hnot (hsafe payload hanswer)
  · intro hnone payload hanswer
    have htokens : firebaseTokens now organizationName newOrganizationId newId s dto =
        ⟨(firebaseTokens now organizationName newOrganizationId newId s dto).store,
          .ok (some payload)⟩ := by
      rw [← hanswer]
    exact (safe_or_unbound hunique htokens hidentity).resolve_right hnone

/-! ### An account that is never bound -/

namespace Example

/-- A citizen with a phone, and with this `firebaseUid`. -/
def citizenWith (firebaseUid : Option String) : User where
  id := "chidi"
  phone := some "+2348030000001"
  firebaseUid

def registry (firebaseUid : Option String) : Store :=
  .ofUsers ⟨[citizenWith firebaseUid], List.nodup_singleton _⟩
    ⟨[{ id := "demo-lga", name := "FixZone Demo LGA" }], List.nodup_singleton _⟩

theorem registry_unique (firebaseUid : Option String) : UniqueAccounts (registry firebaseUid) := by
  have hone : ∀ row ∈ (registry firebaseUid).users.rows, row = citizenWith firebaseUid :=
    fun row hrow => List.mem_singleton.mp hrow
  constructor <;> exact fun row hrow row' hrow' _ _ => (hone row' hrow').trans (hone row hrow).symm

def phoneIdentity : VerifiedFirebaseIdentity :=
  { uid := "firebase-7", phoneNumber := some "+2348030000001" }

def phoneLogin : FirebaseLoginDto := { identity := .ok phoneIdentity }

theorem logsInUnbound : LogsInUnbound (registry (some "")) "FixZone Demo LGA" "" phoneLogin
    phoneIdentity (citizenWith (some "")) where
  verified := verifiedIdentity_eq_ok.mpr ⟨rfl, by decide +kernel, by decide +kernel⟩
  organization := .inl ⟨_, List.mem_singleton_self _, rfl⟩
  owned := ⟨List.mem_singleton_self _, .inr (.inl (by decide +kernel))⟩
  only _ hother := List.mem_singleton.mp hother.1
  unbound := rfl
  active := rfl
  citizen := rfl
  proceeds := by decide +kernel

end Example

open Example in
theorem phone_login_safe :
    (firebaseTokens 0 "FixZone Demo LGA" "" "" (registry none) phoneLogin).answer.toOption.isSome ∧
      ∀ payload,
        (firebaseTokens 0 "FixZone Demo LGA" "" "" (registry none) phoneLogin).answer =
            .ok (some payload) →
          SafeLogin (registry none) (trim phoneIdentity.uid)
            (firebaseTokens 0 "FixZone Demo LGA" "" "" (registry none) phoneLogin).store payload :=
  ⟨by decide +kernel, (firebase_login_safe_iff 0 "FixZone Demo LGA" "" "" (registry none) phoneLogin
    phoneIdentity rfl (registry_unique none)).mpr fun ⟨_, h⟩ => by
      have hrow := List.mem_singleton.mp h.owned.1
      have hunbound := h.unbound
      rw [hrow] at hunbound
      cases hunbound⟩

open Example in
/-- A citizen whose `firebaseUid` is the empty text is logged in, and is not bound to the uid. -/
theorem login_leaves_unbound :
    ¬ ∀ (now : Millis) (organizationName newOrganizationId newId : String)
    (s : Store) (dto : FirebaseLoginDto) (identity : VerifiedFirebaseIdentity)
    (payload : JwtPayload),
    dto.identity = .ok identity → UniqueAccounts s →
      (firebaseTokens now organizationName newOrganizationId newId s dto).answer =
          .ok (some payload) →
        SafeLogin s (trim identity.uid)
          (firebaseTokens now organizationName newOrganizationId newId s dto).store payload := by
  intro h
  obtain ⟨payload, hanswer, hnot⟩ := logsInUnbound.not_safe 0 "" (registry_unique _)
  exact hnot (h 0 "FixZone Demo LGA" "" "" _ phoneLogin phoneIdentity payload rfl
    (registry_unique _) hanswer)

end FixZone.AuthService
