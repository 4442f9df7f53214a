import FixZone.InternalAdmin.Operations
import FixZone.Users.Staff

/-!
# Who takes up an invitation, and how

Two services take up the rows of one table. `UsersService.acceptInvitation` asks for the
email or the phone of the invitation, and writes the role; of an invitation that
`inviteAdministrator` made it drops the scope. `InternalAdminService.acceptInvitation`
creates the assignment that carries the scope, and compares the emails only where both
are there: an invitation by phone, or a user without an email, passes.

So an acceptance is lawful exactly where the users service does not take up an invitation of
the other one, and where the other one has two emails to compare or finds the same
phone (`acceptance_lawful_iff`).
-/

namespace FixZone.UsersService

open Library Accounts
open InternalAdminService
  (Server InternalScope resolveScope inviteAdministrator invitationMetadata invitationScope
  scopeFromMetadata scopeJson Acceptable resolveInternalRoleDefinition)
open ReportService (HttpError)

/-- An invitation as one of the services made it, with the scope that was resolved for it if it is
one of an administrator. -/
inductive CreatedBy : Invitation → Option InternalScope → Prop where
  | inviteUser {now : Millis} {newId : String} {s s' : Store} {user : User} {dto : InviteUserDto}
      {row : Invitation}
      (created : inviteUser now newId s user dto = .ok (s', .invited row)) : CreatedBy row none
  | inviteAdministrator {server : Server} {s s' : Store} {user : User}
      {dto : InternalAdminService.InviteInternalAdminDto} {row : Invitation} {scope : InternalScope}
      {definition : InternalAdminService.InternalRoleDefinition}
      (created : inviteAdministrator server s user dto = .ok (s', .created row))
      (role : resolveInternalRoleDefinition row.role = some definition)
      (resolved : resolveScope dto.toScopeDto definition.defaultScopeType user = .ok scope) :
        CreatedBy row (some scope)

/-- The two acceptances. -/
inductive AcceptingService where
  | users | internalAdmin
  deriving DecidableEq, Repr

section Acceptance

variable (service : AcceptingService) (server : Server) (s : Store) (user : User)
  (invitationId : String)

/-- The call succeeds. -/
def Succeeds : Prop :=
  match service with
  | .users => (acceptInvitation server.now s user invitationId).answer = .ok ⟨⟩
  | .internalAdmin => ∃ definition,
      (InternalAdminService.acceptInvitation server s user invitationId).answer = .ok definition

/-- The store after the call. -/
def storeAfter : Store :=
  match service with
  | .users => (acceptInvitation server.now s user invitationId).store
  | .internalAdmin => (InternalAdminService.acceptInvitation server s user invitationId).store

/-- The invitation has an email or a phone that is the user's own. -/
def OwnedBy (invitation : Invitation) (user : User) : Prop :=
  (truthy invitation.email = true ∧ truthy user.email = true ∧
      invitation.email.map toLowerCase = user.email.map toLowerCase) ∨
    (truthy invitation.phone = true ∧ truthy user.phone = true ∧ invitation.phone = user.phone)

/-- The assignment gives the user the role of the invitation within the scope. -/
structure Carries (assignment : InternalRoleAssignment) (invitation : Invitation)
    (scope : InternalScope) : Prop where
  user : assignment.userId = user.id
  role : assignment.role = invitation.role
  active : assignment.status = .active
  type : assignment.scopeType = scope.type
  ref : assignment.scopeRef = scope.ref
  organization : assignment.organizationId = trimmedOrNull scope.organizationId
  moduleKey : assignment.moduleKey = scope.moduleKey

/-- Only the invitee succeeds, and an administrator's invitation is taken up together with a new
assignment that carries its scope. -/
structure LawfulAcceptance (invitation : Invitation) (scope : Option InternalScope) : Prop where
  owner : Succeeds service server s user invitationId → OwnedBy invitation user
  inScope : ∀ resolved, scope = some resolved → invitation.status = .pending →
    Succeeds service server s user invitationId →
    ∃ assignment, s.assignments.find? assignment.id = none ∧
      (storeAfter service server s user invitationId).assignments.find? assignment.id =
        some assignment ∧
      Carries user assignment invitation resolved

/-- The users service does not take up an administrator's invitation; the internal one has two
emails to compare, or the phones are the same. -/
def AcceptedInOwnFlow (invitation : Invitation) (scope : Option InternalScope) : Prop :=
  match service with
  | .users => scope.isSome = true → ¬ TakenUp server.now s user invitation
  | .internalAdmin => ∀ definition, Acceptable server s user invitation definition →
      (truthy invitation.email = true ∧ truthy user.email = true) ∨
        (truthy invitation.phone = true ∧ truthy user.phone = true ∧ invitation.phone = user.phone)

end Acceptance

variable {service : AcceptingService} {server : Server} {s : Store} {user : User}
  {invitationId : String}
  {invitation created : Invitation} {scope : Option InternalScope} {resolved : InternalScope}

theorem inviteeMatches_iff : inviteeMatches invitation user = true ↔ OwnedBy invitation user := by
  simp [inviteeMatches, OwnedBy, and_assoc]

/-! ### The scope an invitation carries -/

/-- The texts of a resolved scope are in normal form, the organization apart, which may be the
actor's own. -/
structure InternalScope.Normal (scope : InternalScope) : Prop where
  ref : trimmedOrNull scope.ref = scope.ref
  moduleKey : trimmedOrNull scope.moduleKey = scope.moduleKey

theorem trimmedOrNull_trimmedOrNull (text : Option String) :
    trimmedOrNull (trimmedOrNull text) = trimmedOrNull text := by
  cases h : trimmedOrNull text with
  | none => rfl
  | some t => exact trimmedOrNull_of_eq h

theorem normal_of_resolveScope {dto : InternalAdminService.ScopeDto} {fallback : InternalScopeType}
    (h : resolveScope dto fallback user = .ok resolved) : InternalScope.Normal resolved := by
  obtain ⟨href, hmodule⟩ := InternalAdminService.resolveScope_eq_ok h
  exact ⟨by rw [href, trimmedOrNull_trimmedOrNull], by rw [hmodule, trimmedOrNull_trimmedOrNull]⟩

theorem normalizeText_optionalJson (text : Option String) :
    normalizeText (some (optionalJson text)) = trimmedOrNull text := by
  cases text <;> rfl

theorem ofText?_text (type : InternalScopeType) :
    InternalScopeType.ofText? type.text = some type := by
  cases type <;> decide

/-- Reading the scope back from the metadata it was stored in. -/
theorem scopeFromMetadata_scopeJson {metadata : List (String × Json)}
    (h : (Json.obj metadata).field? "scope" = some (scopeJson resolved))
    (hnormal : InternalScope.Normal resolved) :
    (scopeFromMetadata metadata).type = resolved.type ∧
      (scopeFromMetadata metadata).ref = resolved.ref ∧
      (scopeFromMetadata metadata).organizationId = trimmedOrNull resolved.organizationId ∧
      (scopeFromMetadata metadata).moduleKey = resolved.moduleKey := by
  unfold scopeFromMetadata
  rw [h]
  simp [scopeJson, objectRecord, Json.field?, normalizeText_optionalJson, ofText?_text, hnormal.ref,
    hnormal.moduleKey]

/-- An administrator's invitation stores the scope that was resolved. -/
theorem scope_of_createdBy (h : CreatedBy created (some resolved)) : InternalScope.Normal resolved ∧
    (Json.obj (objectRecord created.metadata)).field? "scope" = some (scopeJson resolved) := by
  cases h with
  | inviteAdministrator hcreated hrole hresolved =>
    refine ⟨normal_of_resolveScope hresolved, ?_⟩
    obtain ⟨definition', hgrantable, heffect⟩ :=
      InternalAdminService.inviteAdministrator_eq_ok hcreated
    cases heffect with
    | created _ resolved' _ hresolved' _ _ hrole' _ _ _ hmetadata =>
      rw [hrole', hgrantable.resolved] at hrole
      obtain rfl := Option.some.inj hrole
      rw [hresolved'] at hresolved
      obtain rfl := Except.ok.inj hresolved
      rw [hmetadata]
      simp [invitationMetadata, objectRecord, Json.field?]

/-- The scope an internal acceptance reads off the row is the one that was resolved. -/
theorem carries_acceptedAssignment {definition : InternalAdminService.InternalRoleDefinition}
    (hcreated : CreatedBy created (some resolved)) (hoffer : SameOffer created invitation) :
    Carries user (InternalAdminService.acceptedAssignment server user invitation definition
      (invitationScope invitation))
      invitation resolved := by
  obtain ⟨hnormal, hscope⟩ := scope_of_createdBy hcreated
  obtain ⟨htype, href, horganization, hmodule⟩ :=
    scopeFromMetadata_scopeJson (hoffer.scope.trans hscope) hnormal
  exact ⟨rfl, rfl, rfl, htype, href, horganization, hmodule⟩

/-! ### The two acceptances -/

theorem succeeds_internalAdmin_iff (hfound : s.invitation? invitationId = some invitation) :
    Succeeds .internalAdmin server s user invitationId ↔
      ∃ definition, Acceptable server s user invitation definition := by
  refine exists_congr fun definition => ?_
  rw [InternalAdminService.acceptInvitation_answer_eq_ok, hfound]
  simp

theorem lawful_internalAdmin_iff (hfound : s.invitation? invitationId = some invitation)
    (hcreated : CreatedBy created scope) (hoffer : SameOffer created invitation) :
    LawfulAcceptance .internalAdmin server s user invitationId invitation scope ↔
      AcceptedInOwnFlow .internalAdmin server s user invitation scope := by
  constructor
  · intro hlawful definition hacceptable
    rcases hlawful.owner
      ((succeeds_internalAdmin_iff hfound).mpr ⟨definition, hacceptable⟩) with hemail | hphone
    · exact .inl ⟨hemail.1, hemail.2.1⟩
    · exact .inr hphone
  · intro hflow
    refine ⟨fun hsucceeds => ?_, fun resolved hscope _ hsucceeds => ?_⟩
    · obtain ⟨definition, hacceptable⟩ := (succeeds_internalAdmin_iff hfound).mp hsucceeds
      rcases hflow definition hacceptable with ⟨hemail, huser⟩ | hphone
      · exact .inl ⟨hemail, huser, hacceptable.owner hemail huser⟩
      · exact .inr hphone
    · obtain ⟨definition, hacceptable⟩ := (succeeds_internalAdmin_iff hfound).mp hsucceeds
      subst hscope
      refine ⟨InternalAdminService.acceptedAssignment server user invitation definition
        (invitationScope invitation), hacceptable.free, ?_,
        carries_acceptedAssignment hcreated hoffer⟩
      rw [storeAfter, InternalAdminService.acceptInvitation_of_acceptable hfound hacceptable]
      exact Table.find?_insert_self hacceptable.free

theorem succeeds_users_of_takenUp (hfound : s.invitation? invitationId = some invitation)
    (h : TakenUp server.now s user invitation) : Succeeds .users server s user invitationId := by
  rw [Succeeds, acceptInvitation_of_takenUp hfound h]

/-- A success of the users service takes the invitation up, or comes after that. -/
theorem takenUp_of_succeeds_users (hfound : s.invitation? invitationId = some invitation)
    (huser : s.user? user.id = some user) (h : Succeeds .users server s user invitationId) :
    TakenUp server.now s user invitation ∨ inviteeMatches invitation user = true ∧
      invitation.status = .accepted := by
  rcases acceptInvitation_cases server.now invitationId huser with
    ⟨row, hrow, htaken⟩ | ⟨-, row, hrow, howner, hstatus, -⟩ | ⟨⟨e, herror⟩, -⟩
  · obtain rfl := Option.some.inj (hrow.symm.trans hfound)
    exact .inl htaken
  · obtain rfl := Option.some.inj (hrow.symm.trans hfound)
    exact .inr ⟨howner, hstatus⟩
  · rw [Succeeds, herror] at h
    cases h

theorem lawful_users_iff (hfound : s.invitation? invitationId = some invitation)
    (huser : s.user? user.id = some user) :
    LawfulAcceptance .users server s user invitationId invitation scope ↔
      AcceptedInOwnFlow .users server s user invitation scope := by
  constructor
  · intro hlawful hscope htaken
    obtain ⟨resolved, rfl⟩ := Option.isSome_iff_exists.mp hscope
    obtain ⟨assignment, hfree, hafter, -⟩ :=
      hlawful.inScope resolved rfl htaken.pending (succeeds_users_of_takenUp hfound htaken)
    rw [storeAfter, acceptInvitation_of_takenUp hfound htaken, assignments_acceptedStore,
      hfree] at hafter
    cases hafter
  · intro hflow
    refine ⟨fun hsucceeds => ?_, fun resolved hscope hpending hsucceeds => ?_⟩
    · rcases takenUp_of_succeeds_users hfound huser hsucceeds with htaken | ⟨howner, -⟩
      · exact inviteeMatches_iff.mp htaken.owner
      · exact inviteeMatches_iff.mp howner
    · rcases takenUp_of_succeeds_users hfound huser hsucceeds with htaken | ⟨-, haccepted⟩
      · exact absurd htaken (hflow (by rw [hscope]; rfl))
      · rw [hpending] at haccepted
        cases haccepted

/-- **Who takes up an invitation, and how.** For every store and every invitation in it that one
of the services made, an acceptance by an active user is lawful exactly when the users service
does not take up an administrator's invitation and the internal one has two emails to compare or
finds the same phone. -/
theorem acceptance_lawful_iff (service : AcceptingService) {actorId : String}
    (hactor : validate s actorId = some user)
    (hfound : s.invitation? invitationId = some invitation) (hcreated : CreatedBy created scope)
    (hoffer : SameOffer created invitation) :
    LawfulAcceptance service server s user invitationId invitation scope ↔
      AcceptedInOwnFlow service server s user invitation scope := by
  cases service with
  | users => exact lawful_users_iff hfound (user?_of_validate hactor).1
  | internalAdmin => exact lawful_internalAdmin_iff hfound hcreated hoffer

/-! ### Any run of both services -/

/-- A call of either service. -/
inductive AnyCall where
  | users (call : Call)
  | internalAdmin (call : InternalAdminService.Call)

/-- The store after a call of either service. -/
def performAny (env : InternalAdminService.ProcessEnv) (call : AnyCall) (s : Store) : Store :=
  match call with
  | .users call => perform call s
  | .internalAdmin call => InternalAdminService.perform env call s

/-- Whatever both services do to an invitation, it offers the same to the same person. -/
theorem offersKept_run (env : InternalAdminService.ProcessEnv) (s : Store) (calls : List AnyCall) :
    OffersKept s (run (performAny env) s calls) := by
  induction calls generalizing s with
  | nil => exact .of_eq rfl
  | cons call calls ih =>
    refine OffersKept.trans ?_ (ih (performAny env call s))
    cases call with
    | users call => exact offersKept_perform call s
    | internalAdmin call => exact InternalAdminService.offersKept_perform env call s

namespace Example

open InternalAdminService (Granting)

def owner : User := { id := "owner", role := .superAdmin }

/-- The owner invites a support administrator by email. -/
def inviteHelper : InternalAdminService.InviteInternalAdminDto :=
  { fullName := "Helper", email := "helper@fixzone.ng", role := "SUPPORT_ADMIN" }

def atSignUp : Server := { env := fun _ => none, now := 0, newId := "invitation" }

def ownerStore : Store := Store.ofUsers ⟨[owner], by simp⟩ (Table.empty _)

/-- Somebody with an email and nobody with a phone is invited, for a role without an organization. -/
def isHelperInvitation (row : Invitation) : Bool :=
  row.email = some "helper@fixzone.ng" && row.phone = none && row.status = .pending &&
    row.organizationId = none &&
    row.expiresAt = some 604800000 && row.id = "invitation" && row.role = .supportAdmin

/-- Such an invitation was created. -/
def createsHelper : Except HttpError (Store × Granting Invitation) → Bool
  | .ok (_, .created row) => isHelperInvitation row
  | _ => false

theorem exists_helper : ∃ row resolved, CreatedBy row (some resolved) ∧
    isHelperInvitation row = true := by
  have hinvited : createsHelper (inviteAdministrator atSignUp ownerStore owner inviteHelper) =
      true := by decide +kernel
  cases hok : inviteAdministrator atSignUp ownerStore owner inviteHelper with
  | error e =>
    rw [hok] at hinvited
    cases hinvited
  | ok result =>
    obtain ⟨s', answer⟩ := result
    rw [hok] at hinvited
    cases answer with
    | created row =>
      obtain ⟨definition, hgrantable, heffect⟩ := InternalAdminService.inviteAdministrator_eq_ok hok
      cases heffect with
      | created _ resolved _ hresolved _ _ hrole =>
        exact ⟨row, resolved, .inviteAdministrator hok
          (hrole ▸ hgrantable.resolved) hresolved, hinvited⟩
    | existing => cases hinvited
    | approvalRequested => cases hinvited

/-- Someone of the legal department with the email. -/
def helper : User := { id := "helper", email := some "helper@fixzone.ng", role := .legalAdmin }

/-- The store with the invitation and the new user. -/
def helperStore (row : Invitation) : Store :=
  { Store.ofUsers ⟨[owner, helper], by simp [owner, helper]⟩
  (Table.empty _) with invitations := ⟨[row], by simp⟩ }

/-- The owner sends the invitation again. -/
def ownerResends (invitationId : String) : Call :=
  { actorId := "owner", now := 1, newId := "", operation := .resend invitationId }

/-- The store after that. -/
def storeResent (row : Invitation) : Store :=
  run (performAny atSignUp.env) (helperStore row) [.users (ownerResends row.id)]

theorem validate_storeResent (row : Invitation) :
    validate (storeResent row) "helper" = some helper := by
  have hperformed : Performed (ownerResends row.id) (helperStore row) (storeResent row) :=
    perform_cases (ownerResends row.id) (helperStore row)
  generalize storeResent row = s at hperformed
  cases hperformed with
  | unchanged => rfl
  | updated => rfl
  | invited _ _ _ hoperation => cases hoperation
  | accepted _ _ _ hoperation => cases hoperation

end Example

open Example in
/-- The invited person takes up the invitation of an administrator, which was sent again, in the
internal flow. -/
theorem helper_accepts_in_own_flow : ∃ created row resolved,
    (storeResent created).invitation? created.id = some row ∧ SameOffer created row ∧
      LawfulAcceptance .internalAdmin atSignUp (storeResent created) helper created.id row
        (some resolved) := by
  obtain ⟨created, resolved, hcreated, hinvited⟩ := exists_helper
  have hfound : (helperStore created).invitation? created.id = some created := by
    simp [helperStore, Store.invitation?, Table.find?]
  obtain ⟨row, hrow, hoffer⟩ := offersKept_run atSignUp.env (helperStore created)
    [.users (ownerResends created.id)] created.id created hfound
  refine ⟨created, row, resolved, hrow, hoffer, (acceptance_lawful_iff .internalAdmin
    (validate_storeResent created) hrow hcreated hoffer).mpr fun definition _ => .inl ?_⟩
  simp only [isHelperInvitation, Bool.and_eq_true, decide_eq_true_eq] at hinvited
  rw [hoffer.email]
  simp [hinvited, helper, truthy]

open Example in
/-- The users service takes up the invitation of an administrator, and the scope is lost. -/
theorem administrator_invitation_without_scope :
    ¬ ∀ (service : AcceptingService) (server : Server) (s : Store) (user : User)
    (actorId invitationId : String)
      (invitation created : Invitation) (scope : Option InternalScope),
        validate s actorId = some user →
      s.invitation? invitationId = some invitation → CreatedBy created scope →
        SameOffer created invitation →
        LawfulAcceptance service server s user invitationId invitation scope := by
  intro h
  obtain ⟨row, resolved, hcreated, hrow⟩ := exists_helper
  have hfound : (helperStore row).invitation? row.id = some row := by
    simp [helperStore, Store.invitation?, Table.find?]
  have hlawful := h .users atSignUp (helperStore row) helper "helper" row.id row row
    (some resolved) rfl hfound hcreated
    (.refl row)
  have hhelper : (helperStore row).user? helper.id = some helper := rfl
  simp only [isHelperInvitation, Bool.and_eq_true, decide_eq_true_eq] at hrow
  refine (lawful_users_iff hfound hhelper).mp hlawful rfl ⟨?_, ?_, ?_, hhelper, ?_⟩
  · simp [inviteeMatches, hrow, helper, truthy]
  · simp [hrow]
  · simp [Invitation.lapsed, hrow, atSignUp]
  · simp [hrow]

end FixZone.UsersService
