import FixZone.Auth.Profile
import FixZone.InternalAdmin.RoleRevocation
import FixZone.Library.JsNumber
import FixZone.Library.Overlay
import FixZone.PlatformConfiguration.ProviderCapabilities
import FixZone.Users.DiscoveryInvitation
import FixZone.Users.InvitationRace

/-!
# JSON columns

The profile of a user and the metadata of an invitation are JSON, and several operations write
fields of theirs: each reads the object, lays its own fields over it and stores the result. Two do
not. `InternalAdminService.acceptInvitation` stores a profile of its own fields alone, and
`inviteDiscoveredProvider` lays its fields over the metadata of an invitation that it was answered,
which has none, and so stores them in the place of those that `inviteUser` has just written. The
columns are extended in exactly the runs in which the first finds nothing else in the profile and
the second makes no invitation; and along these a field holds what was written to it last
(`json_columns_extended_iff`).
-/

namespace FixZone.UsersService

open Library Accounts
open ReportService (HttpError providerCapabilitiesKey)
open AuthService (overlayProfile updateMe updateMeInput)
open InternalAdminService (ProcessEnv Server administratorProfile)
open PlatformConfigurationService (UpdateProviderCapabilitiesDto CapabilityAssignment
  assignProviderCapabilities removeProviderCapability deactivateProviderCapability)

/-! ### Fields -/

/-- A field of a column that holds an object. -/
def jsonField (column : Option Json) (key : String) : Option Json :=
  (Json.obj (objectRecord column)).field? key

theorem lookup_eq_find? (fields : List (String × Json)) (key : String) :
    fields.lookup key = (fields.find? fun field => field.1 = key).map Prod.snd := by
  induction fields with
  | nil => rfl
  | cons field fields ih =>
    obtain ⟨name, value⟩ := field
    rw [List.lookup_cons, List.find?_cons, ih]
    by_cases hname : name = key
    · simp [hname]
    · have hne : (key == name) = false := beq_eq_false_iff_ne.mpr (Ne.symm hname)
      simp [hname, hne]

theorem jsonField_obj (fields : List (String × Json)) (key : String) :
    jsonField (some (.obj fields)) key = fields.lookup key := (lookup_eq_find? fields key).symm

/-- The fields of a name are all hidden by those that are laid over them, or none is. -/
theorem lookup_unhidden (stored fields : List (String × Json)) (key : String) :
    (stored.filter fun field => !fields.any (·.1 = field.1)).lookup key =
      if fields.any (·.1 = key) then none else stored.lookup key := by
  induction stored with
  | nil => simp
  | cons field stored ih =>
    obtain ⟨name, value⟩ := field
    rw [List.filter_cons]
    by_cases hname : key = name
    · subst hname
      cases hhidden : fields.any (·.1 = key) with
      | true => simpa [hhidden] using ih
      | false => simp
    · have hne : (key == name) = false := by simpa using hname
      split
      · rw [List.lookup_cons, List.lookup_cons, hne, ih]
      · rw [List.lookup_cons, hne, ih]

/-- Fields that are laid over an object hide its fields of the same names, and no others. -/
theorem jsonField_overlay (column : Option Json) (fields : List (String × Json)) (key : String) :
    jsonField (some (overlayProfile column fields)) key =
      (fields.lookup key).or (jsonField column key) := by
  have hstored : jsonField column key = (objectRecord column).lookup key :=
    (lookup_eq_find? _ key).symm
  rw [overlayProfile, jsonField_obj, List.lookup_append, lookup_unhidden, hstored]
  cases hhidden : fields.any (·.1 = key) with
  | true =>
    obtain ⟨field, hfield⟩ := Option.isSome_iff_exists.mp
      (List.find?_isSome.mpr (List.any_eq_true.mp hhidden))
    have hsome : fields.lookup key = some field.2 := by
      rw [lookup_eq_find?, hfield]
      rfl
    rw [hsome]
    rfl
  | false =>
    have hnone : fields.lookup key = none := by
      rw [lookup_eq_find?, List.find?_eq_none.mpr (List.any_eq_false.mp hhidden)]
      rfl
    rw [hnone, if_neg Bool.false_ne_true, Option.or_none, Option.none_or]

/-- Setting a field lays it over the others. -/
theorem withField_eq_overlay (column : Option Json) (name : String) (value : Json) :
    withField column name value = overlayProfile column [(name, value)] := by
  rw [withField, overlayProfile]
  congr 2
  refine List.filter_congr fun field _ => ?_
  simp [eq_comm]

/-! ### Runs -/

/-- The operations that write such fields. -/
inductive ColumnOperation where
  | updateMe (dto : Json)
  | assignProviderCapabilities (providerId : String) (dto : UpdateProviderCapabilitiesDto)
  | removeProviderCapability (providerId capabilityId : String)
  | deactivateProviderCapability (providerId capabilityId : String)
  | revokeSessions (targetUserId : String) (reason : Option String)
  | acceptInternalInvitation (id : String)
  | resendInvitation (id : String)
  | acceptInvitation (id : String)
  | inviteDiscoveredProvider (providerId : String) (organizationId : Option Json)

/-- A call of one of them. -/
structure ColumnCall where
  actorId : String
  operation : ColumnOperation
  now : Millis
  date : String → Option Millis := fun _ => none
  newId : String := ""

/-- `Number(value ?? 0) + 1`, as a column stores it. `null` is zero either way. -/
def increment (value : Option Json) : Json :=
  numberJson ((finiteNumber? (value <|> some (.num "0"))).map (· + 1))

example : [none, some (.num "2"), some (.str " 7 "), some (.str "often")].map
    (fun value => (increment value).toText) = [some "1", some "3", some "8", some "null"] := by
  decide +kernel

variable (env : ProcessEnv)

def ColumnCall.server (call : ColumnCall) : Server :=
  ⟨env, call.now, call.date, call.newId⟩

/-- The count of an invitation that is sent again. -/
@[simp] def countedData : Patch Invitation.id where
  apply row := { row with
    metadata := some (withField row.metadata "resendCount"
      (increment (jsonField row.metadata "resendCount"))) }

/-- `resendInvitation` with the count of what it sends, which goes into the same object. -/
def countResend (id : String) (reply : Reply PUnit) : Store :=
  match reply.answer with
  | .ok _ => reply.store.updateInvitation id (countedData)
  | .error _ => reply.store

/-- What an operation makes of the accounts. -/
def operateColumns (call : ColumnCall) (s : Store) (user : User) : Store :=
  match call.operation with
  | .updateMe dto => (commit s (updateMe s user.id dto)).store
  | .assignProviderCapabilities providerId dto =>
    (commit s (assignProviderCapabilities call.now s user providerId dto)).store
  | .removeProviderCapability providerId capabilityId =>
    (commit s (removeProviderCapability s user providerId capabilityId)).store
  | .deactivateProviderCapability providerId capabilityId =>
    (commit s (deactivateProviderCapability call.now s user providerId capabilityId)).store
  | .revokeSessions targetUserId reason =>
    (InternalAdminService.revokeSessions env call.now s user targetUserId
      reason).toOption.getD s
  | .acceptInternalInvitation id =>
    (InternalAdminService.acceptInvitation (call.server env) s user id).store
  | .resendInvitation id => countResend id (resendInvitation call.now s user id)
  | .acceptInvitation id => (acceptInvitation call.now s user id).store
  | .inviteDiscoveredProvider providerId organizationId =>
    (commit s (inviteDiscoveredProvider call.now call.newId s user providerId organizationId)).store

/-- One step. -/
def columnStep (call : ColumnCall) (s : Store) : Store :=
  match validate s call.actorId with
  | none => s
  | some user => operateColumns env call s user

/-! ### What is written -/

/-- A field of a profile, or of the metadata of an invitation. -/
inductive Cell where
  | profileData (userId key : String)
  | metadata (invitationId key : String)
  deriving DecidableEq

/-- The value of a field. -/
def valueOf (s : Store) : Cell → Option Json
  | .profileData userId key => (s.user? userId).bind fun row => jsonField row.profileData key
  | .metadata invitationId key =>
    (s.invitation? invitationId).bind fun row => jsonField row.metadata key

def profileWrites (userId : String) (fields : List (String × Json)) : List (Cell × Json) :=
  fields.map fun field => (.profileData userId field.1, field.2)

def metadataWrites (invitationId : String) (fields : List (String × Json)) : List (Cell × Json) :=
  fields.map fun field => (.metadata invitationId field.1, field.2)

/-- The field of a profile that has its assignments. -/
def capabilityWrites (providerId : String)
    (result : Except HttpError (Store × List CapabilityAssignment)) : List (Cell × Json) :=
  match result with
  | .ok (_, assignments) => profileWrites providerId
      [(providerCapabilitiesKey, .arr (assignments.map (·.toJson)))]
  | .error _ => []

/-- What `revokeSessions` notes in a profile. -/
def sessionRevocation (now : Millis) (reason : Option String) : Json :=
  .obj [("requestedAt", .str (toISOString now)), ("reason", optionalJson reason),
    ("enforcement", .str "token_version_advanced")]

/-- The fields an operation writes, the latest first. `inviteDiscoveredProvider` writes its own
after those that `inviteUser` gives to the new invitation. -/
def operationWrites (call : ColumnCall) (s : Store) (user : User) : List (Cell × Json) :=
  match call.operation with
  | .updateMe dto => match updateMeInput user dto with
    | .ok data => profileWrites user.id data.fields
    | .error _ => []
  | .assignProviderCapabilities providerId dto =>
    capabilityWrites providerId (assignProviderCapabilities call.now s user providerId dto)
  | .removeProviderCapability providerId capabilityId =>
    capabilityWrites providerId (removeProviderCapability s user providerId capabilityId)
  | .deactivateProviderCapability providerId capabilityId =>
    capabilityWrites providerId
      (deactivateProviderCapability call.now s user providerId capabilityId)
  | .revokeSessions targetUserId reason =>
    match InternalAdminService.revokeSessions env call.now s user targetUserId reason with
    | .ok _ => profileWrites targetUserId
        [("sessionRevocation", sessionRevocation call.now reason)]
    | .error _ => []
  | .acceptInternalInvitation id =>
    match (InternalAdminService.acceptInvitation (call.server env) s user id).answer with
    | .ok _ => profileWrites user.id administratorProfile
    | .error _ => []
  | .resendInvitation id => match (resendInvitation call.now s user id).answer with
    | .ok _ => metadataWrites id
        [("resendCount", increment (valueOf s (.metadata id "resendCount"))),
          ("delivery", .str "EMAIL_NOT_CONFIGURED")]
    | .error _ => []
  | .acceptInvitation id =>
    match (s.invitation? id).filter (·.status = .pending),
      (acceptInvitation call.now s user id).answer with
    | some row, .ok _ => metadataWrites id
        [("acceptedUserRole", .str ((inviteeData row).apply user).role.text)]
    | _, _ => []
  | .inviteDiscoveredProvider providerId organizationId =>
    match inviteDiscoveredProvider call.now call.newId s user providerId organizationId with
    | .ok (_, .asked (.invited row) _) => metadataWrites row.id
        ([("discoveredProviderId", .str providerId),
          ("invitationSource", .str "SMART_PROVIDER_DISCOVERY")] ++ objectRecord row.metadata)
    | _ => []

/-- The fields a step writes. -/
def columnWrites (s : Store) (call : ColumnCall) : List (Cell × Json) :=
  match validate s call.actorId with
  | none => []
  | some user => operationWrites env call s user

/-- A step changes the fields that it writes, and keeps every other. -/
def ExtendsColumns (s : Store) (call : ColumnCall) : Prop :=
  Overlays (columnWrites env s call) (valueOf s) (valueOf (columnStep env call s))

/-- A user with something in the profile becomes an administrator by an invitation, or a provider
who was discovered is invited. -/
inductive Clobbers (s : Store) (call : ColumnCall) : Prop where
  | replacesProfile {user : User} {id key : String} {invitation : Invitation}
      {definition : InternalAdminService.InternalRoleDefinition} :
      validate s call.actorId = some user → call.operation = .acceptInternalInvitation id →
      s.invitation? id = some invitation →
      InternalAdminService.Acceptable (call.server env) s user invitation definition →
      key ∉ administratorProfile.map Prod.fst → jsonField user.profileData key ≠ none →
      Clobbers s call
  | forgetsMetadata {user provider : User} {providerId organizationId : String}
      {requested : Option Json} {invitation : Invitation} :
      validate s call.actorId = some user →
      call.operation = .inviteDiscoveredProvider providerId requested →
      Discovers call.now call.newId s user providerId requested organizationId provider
        invitation → Clobbers s call

variable {env} {call : ColumnCall} {s s' : Store} {user : User}

/-! ### Overlays of columns -/

theorem profileData_injective (userId : String) : Function.Injective (Cell.profileData userId) :=
  fun _ _ heq => (Cell.profileData.inj heq).2

theorem metadata_injective (invitationId : String) :
    Function.Injective (Cell.metadata invitationId) := fun _ _ heq => (Cell.metadata.inj heq).2

/-- A profile that fields are laid over. -/
theorem overlays_updateUser {row : User} (data : Patch User.id) {fields : List (String × Json)}
    (hfound : s.user? row.id = some row)
    (hdata : ∀ key, jsonField (data.apply row).profileData key =
      (fields.lookup key).or (jsonField row.profileData key)) :
    Overlays (profileWrites row.id fields) (valueOf s) (valueOf (s.updateUser row.id data)) := by
  intro cell
  cases cell with
  | metadata invitationId key =>
    rw [profileWrites, lookup_map_of_ne fields (fun _ => Cell.noConfusion)]
    rfl
  | profileData userId key =>
    by_cases hid : userId = row.id
    · subst hid
      have hafter : (s.updateUser row.id data).user? row.id = some (data.apply row) :=
        Table.find?_modify_self data hfound
      rw [profileWrites, lookup_map_rename fields (profileData_injective row.id), valueOf, hafter,
        valueOf, hfound]
      exact hdata key
    · have hafter : (s.updateUser row.id data).user? userId = s.user? userId :=
        Table.find?_modify_of_ne data hid
      have hnone : (profileWrites row.id fields).lookup (.profileData userId key) = none :=
        lookup_map_of_ne fields fun _ heq => hid (Cell.profileData.inj heq).1
      rw [hnone, valueOf, hafter]
      rfl

/-- Metadata that fields are laid over. -/
theorem overlays_updateInvitation (row : Invitation) (data : Patch Invitation.id)
    {fields : List (String × Json)} (hfound : s.invitation? row.id = some row)
    (hdata : ∀ key, jsonField (data.apply row).metadata key =
      (fields.lookup key).or (jsonField row.metadata key)) :
    Overlays (metadataWrites row.id fields) (valueOf s)
      (valueOf (s.updateInvitation row.id data)) := by
  intro cell
  cases cell with
  | profileData userId key =>
    rw [metadataWrites, lookup_map_of_ne fields (fun _ => Cell.noConfusion)]
    rfl
  | metadata invitationId key =>
    by_cases hid : invitationId = row.id
    · subst hid
      have hafter : (s.updateInvitation row.id data).invitation? row.id = some (data.apply row) :=
        Table.find?_modify_self data hfound
      rw [metadataWrites, lookup_map_rename fields (metadata_injective row.id), valueOf, hafter,
        valueOf, hfound]
      exact hdata key
    · have hafter : (s.updateInvitation row.id data).invitation? invitationId =
          s.invitation? invitationId := Table.find?_modify_of_ne data hid
      have hnone : (metadataWrites row.id fields).lookup (.metadata invitationId key) = none :=
        lookup_map_of_ne fields fun _ heq => hid (Cell.metadata.inj heq).1
      rw [hnone, valueOf, hafter]
      rfl

/-- The values are those of the users and of the invitations. -/
theorem valueOf_congr (husers : s'.users = s.users)
    (hinvitations : s'.invitations = s.invitations) :
    valueOf s' = valueOf s := by
  funext cell
  cases cell with
  | profileData userId key => rw [valueOf, Store.user?, husers]; rfl
  | metadata invitationId key => rw [valueOf, Store.invitation?, hinvitations]; rfl

/-- An update of an invitation that leaves its metadata alone changes no value. -/
theorem valueOf_updateInvitation (id : String) {data : Patch Invitation.id}
    (hdata : ∀ row, (data.apply row).metadata = row.metadata) :
    valueOf (s.updateInvitation id data) = valueOf s := by
  funext cell
  cases cell with
  | profileData userId key => rfl
  | metadata invitationId key =>
    rw [valueOf, invitation?_updateInvitation, valueOf]
    split
    · cases s.invitation? invitationId with
      | none => rfl
      | some row => exact congrArg (jsonField · key) (hdata row)
    · rfl

/-- Nor does one of a user that leaves the profile alone. -/
theorem valueOf_updateUser (id : String) (data : Patch User.id)
    (hdata : ∀ row, (data.apply row).profileData = row.profileData) :
    valueOf (s.updateUser id data) = valueOf s := by
  funext cell
  cases cell with
  | metadata invitationId key => rfl
  | profileData userId key =>
    rw [valueOf, Store.user?, Store.updateUser, Table.find?_modify, valueOf, Store.user?]
    split
    · next hid =>
      subst hid
      cases s.users.find? userId with
      | none => rfl
      | some row => exact congrArg (jsonField · key) (hdata row)
    · rfl

theorem jsonField_withField (column : Option Json) (name : String) (value : Json) (key : String) :
    jsonField (some (withField column name value)) key =
      ([(name, value)].lookup key).or (jsonField column key) := by
  rw [withField_eq_overlay, jsonField_overlay]

/-! ### Profiles -/

theorem updateMe_extends (dto : Json) (hfound : s.user? user.id = some user) :
    Overlays (match updateMeInput user dto with
      | .ok data => profileWrites user.id data.fields
      | .error _ => []) (valueOf s) (valueOf (commit s (updateMe s user.id dto)).store) := by
  rw [updateMe, hfound, orThrow_some, ok_bind]
  cases hinput : updateMeInput user dto with
  | error e => exact .refl _
  | ok data =>
    refine overlays_updateUser _ hfound fun key => ?_
    dsimp only [AuthService.ProfileUpdate.patch]
    split
    · next hempty =>
      rw [List.isEmpty_iff.mp hempty]
      rfl
    · exact jsonField_overlay user.profileData data.fields key

theorem changeCapabilities_extends
    (change : List CapabilityAssignment → List CapabilityAssignment) (s : Store) (user : User)
    (providerId : String) :
    Overlays (capabilityWrites providerId
        (PlatformConfigurationService.changeCapabilities change s user providerId)) (valueOf s)
      (valueOf (commit s
        (PlatformConfigurationService.changeCapabilities change s user providerId)).store) := by
  cases hresult : PlatformConfigurationService.changeCapabilities change s user providerId with
  | error e => exact .refl _
  | ok result =>
    obtain ⟨s', assignments⟩ := result
    obtain ⟨provider, hfound, rfl⟩ :=
      PlatformConfigurationService.changeCapabilities_eq_ok hresult
    obtain rfl : provider.id = providerId := Table.key_of_find? hfound
    exact overlays_updateUser _ hfound fun key => jsonField_withField _ _ _ key

theorem revokeSessions_extends (env : ProcessEnv) (now : Millis) (s : Store) (user : User)
    (targetUserId : String) (reason : Option String) :
    Overlays (match InternalAdminService.revokeSessions env now s user targetUserId reason with
      | .ok _ => profileWrites targetUserId
          [("sessionRevocation", sessionRevocation now reason)]
      | .error _ => []) (valueOf s)
      (valueOf ((InternalAdminService.revokeSessions env now s user targetUserId
        reason).toOption.getD s)) := by
  cases hresult : InternalAdminService.revokeSessions env now s user targetUserId reason with
  | error e => exact .refl _
  | ok s' =>
    obtain ⟨profileData, hchecked, hwritten⟩ := bind_eq_ok.mp hresult
    obtain ⟨-, hother⟩ := check_bind_eq_ok.mp hchecked
    obtain ⟨-, htarget⟩ := throwIf_bind_eq_ok.mp hother
    obtain ⟨target, hfound, hprofile⟩ := orThrow_bind_eq_ok.mp htarget
    obtain ⟨-, hstore⟩ := throwIf_bind_eq_ok.mp hwritten
    obtain rfl := pure_eq_ok.mp hprofile
    obtain rfl := pure_eq_ok.mp hstore
    obtain rfl : target.id = targetUserId := Table.key_of_find? hfound
    refine overlays_updateUser _ hfound fun key => ?_
    exact jsonField_withField target.profileData "sessionRevocation" _ key

/-! ### Metadata -/

theorem resendInvitation_extends (s : Store) (user : User) (id : String) :
    Overlays (match (resendInvitation call.now s user id).answer with
      | .ok _ => metadataWrites id
          [("resendCount", increment (valueOf s (.metadata id "resendCount"))),
            ("delivery", .str "EMAIL_NOT_CONFIGURED")]
      | .error _ => []) (valueOf s)
      (valueOf (countResend id (resendInvitation call.now s user id))) := by
  cases hscoped : scopedInvitation s user id with
  | error e =>
    have hreply : resendInvitation call.now s user id = ⟨s, .error e⟩ := by
      rw [resendInvitation, hscoped]
    rw [hreply]
    exact .refl _
  | ok row =>
    have hfound := scopedInvitation_found hscoped
    have hid : row.id = id := Table.key_of_find? hfound
    rw [← hid] at hfound hscoped ⊢
    by_cases hpending : row.status = .pending
    · cases hlapsed : row.lapsed call.now with
      | true =>
        have hreply : resendInvitation call.now s user row.id =
            ⟨s.updateInvitation row.id expiredData, .error invitationExpired⟩ := by
          rw [resendInvitation, hscoped]
          dsimp only
          rw [if_neg (not_not.mpr hpending), if_pos hlapsed]
        rw [hreply, countResend, valueOf_updateInvitation row.id fun _ => rfl]
        exact .refl _
      | false =>
        have hreply : resendInvitation call.now s user row.id =
            ⟨s.updateInvitation row.id (resentData call.now), .ok ⟨⟩⟩ := by
          rw [resendInvitation, hscoped]
          dsimp only
          rw [if_neg (not_not.mpr hpending), hlapsed, if_neg Bool.false_ne_true]
        have hsent := overlays_updateInvitation row (resentData call.now) hfound
          fun key => jsonField_withField row.metadata "delivery" (.str "EMAIL_NOT_CONFIGURED") key
        have hafter : (s.updateInvitation row.id (resentData call.now)).invitation? row.id =
            some ((resentData call.now).apply row) := Table.find?_modify_self _ hfound
        have hcount : jsonField ((resentData call.now).apply row).metadata "resendCount" =
            valueOf s (.metadata row.id "resendCount") := by
          rw [valueOf, hfound]
          exact jsonField_withField row.metadata "delivery" (.str "EMAIL_NOT_CONFIGURED") _
        have hcounted := overlays_updateInvitation ((resentData call.now).apply row)
          (countedData) hafter fun key => jsonField_withField _ "resendCount" _ key
        rw [hcount] at hcounted
        rw [hreply]
        exact hsent.trans hcounted
    · have hreply : resendInvitation call.now s user row.id = ⟨s, .error alreadyResolved⟩ := by
        rw [resendInvitation, hscoped]
        exact if_pos hpending
      rw [hreply]
      exact .refl _

theorem acceptInvitation_extends (id : String) (hfound : s.user? user.id = some user) :
    Overlays (match (s.invitation? id).filter (·.status = .pending),
        (acceptInvitation call.now s user id).answer with
      | some row, .ok _ => metadataWrites id
          [("acceptedUserRole", .str ((inviteeData row).apply user).role.text)]
      | _, _ => []) (valueOf s) (valueOf (acceptInvitation call.now s user id).store) := by
  rcases acceptInvitation_cases call.now id hfound with
    ⟨row, hrow, htaken⟩ | ⟨hreply, row, hrow, -, haccepted, -⟩ | ⟨⟨e, hanswer⟩, hsame | hexpired⟩
  · have hid : row.id = id := Table.key_of_find? hrow
    have hpending : (s.invitation? id).filter (·.status = .pending) = some row :=
      Option.filter_eq_some_iff.mpr ⟨hrow, decide_eq_true htaken.pending⟩
    rw [acceptInvitation_of_takenUp hrow htaken, hpending, ← hid]
    rw [← hid] at hrow
    have hwritten := overlays_updateInvitation row
      (acceptedData call.now ((inviteeData row).apply user)) hrow
      fun key => jsonField_withField row.metadata "acceptedUserRole"
        (.str ((inviteeData row).apply user).role.text) key
    obtain ⟨memberships, hmemberships⟩ :=
      upsertMembership_eq (s.updateUser user.id (inviteeData row)) user row
    have hvalues : valueOf (acceptedStore call.now s user row) = valueOf
        (s.updateInvitation row.id (acceptedData call.now ((inviteeData row).apply user))) := by
      have hinvited := valueOf_updateUser (s := s.updateInvitation row.id
        (acceptedData call.now ((inviteeData row).apply user))) user.id (inviteeData row)
        fun _ => rfl
      rw [acceptedStore, hmemberships, ← hinvited]
      exact valueOf_congr rfl rfl
    rw [hvalues]
    exact hwritten
  · have hresolved : (s.invitation? id).filter (·.status = .pending) = none := by
      rw [hrow, Option.filter_some, haccepted]
      rfl
    rw [hreply, hresolved]
    exact .refl _
  · rw [hanswer, hsame]
    cases (s.invitation? id).filter (·.status = .pending) <;> exact .refl _
  · rw [hanswer, hexpired, valueOf_updateInvitation id fun _ => rfl]
    cases (s.invitation? id).filter (·.status = .pending) <;> exact .refl _

/-! ### The two that clobber -/

/-- An invitation that is accepted as an administrator extends the profile exactly where this has
no other fields. -/
theorem acceptInternalInvitation_extends_iff (id : String) (huser : s.user? user.id = some user) :
    Overlays (match (InternalAdminService.acceptInvitation (call.server env) s user id).answer
      with
        | .ok _ => profileWrites user.id administratorProfile
        | .error _ => []) (valueOf s)
      (valueOf (InternalAdminService.acceptInvitation (call.server env) s user id).store) ↔
    ∀ invitation definition key, s.invitation? id = some invitation →
      InternalAdminService.Acceptable (call.server env) s user invitation definition →
      key ∉ administratorProfile.map Prod.fst → jsonField user.profileData key = none := by
  by_cases haccepts : ∃ invitation definition, s.invitation? id = some invitation ∧
      InternalAdminService.Acceptable (call.server env) s user invitation definition
  · obtain ⟨invitation, definition, hfound, hacceptable⟩ := haccepts
    have hvalues : valueOf (InternalAdminService.acceptedStore (call.server env) s user
        invitation definition) = valueOf (s.updateUser user.id
          (InternalAdminService.administratorData invitation.role
            (InternalAdminService.invitationScope invitation))) :=
      (valueOf_updateInvitation invitation.id fun _ => rfl).trans (valueOf_congr rfl rfl)
    rw [InternalAdminService.acceptInvitation_answer_eq_ok.mpr ⟨invitation, hfound, hacceptable⟩,
      InternalAdminService.acceptInvitation_of_acceptable hfound hacceptable, hvalues]
    constructor
    · intro hextends _ _ key _ _ hkey
      have hnone := lookup_eq_none_iff_not_mem.mpr hkey
      have hcell := hextends (.profileData user.id key)
      have hafter : (s.updateUser user.id (InternalAdminService.administratorData invitation.role
          (InternalAdminService.invitationScope invitation))).user? user.id = some _ :=
        Table.find?_modify_self _ huser
      rw [profileWrites, lookup_map_rename _ (profileData_injective user.id), hnone, Option.none_or,
        valueOf, hafter, valueOf, huser] at hcell
      exact hcell.symm.trans ((jsonField_obj administratorProfile key).trans hnone)
    · intro hempty
      refine overlays_updateUser _ huser fun key => ?_
      refine (jsonField_obj administratorProfile key).trans ?_
      cases hlookup : administratorProfile.lookup key with
      | some value => rfl
      | none =>
        rw [hempty invitation definition key hfound hacceptable
          (lookup_eq_none_iff_not_mem.mp hlookup)]
        rfl
  · refine iff_of_true ?_ fun invitation definition _ hfound hacceptable =>
      absurd ⟨invitation, definition, hfound, hacceptable⟩ haccepts
    cases hanswer :
      (InternalAdminService.acceptInvitation (call.server env) s user id).answer with
    | ok definition =>
      obtain ⟨invitation, hfound, hacceptable⟩ :=
        InternalAdminService.acceptInvitation_answer_eq_ok.mp hanswer
      exact absurd ⟨invitation, definition, hfound, hacceptable⟩ haccepts
    | error e =>
      rcases InternalAdminService.acceptInvitation_store (call.server env) s user id with
        hsame | hexpired | ⟨invitation, definition, hfound, hacceptable, -⟩
      · rw [hsame]
        exact .refl _
      · rw [hexpired, valueOf_updateInvitation id fun _ => rfl]
        exact .refl _
      · exact absurd ⟨invitation, definition, hfound, hacceptable⟩ haccepts

/-- The invitation of a provider who was discovered extends its metadata exactly where none is
made. -/
theorem inviteDiscoveredProvider_extends_iff (providerId : String) (requested : Option Json) :
    Overlays (match inviteDiscoveredProvider call.now call.newId s user providerId requested with
      | .ok (_, .asked (.invited row) _) => metadataWrites row.id
          ([("discoveredProviderId", .str providerId),
            ("invitationSource", .str "SMART_PROVIDER_DISCOVERY")] ++ objectRecord row.metadata)
      | _ => []) (valueOf s)
      (valueOf (commit s (inviteDiscoveredProvider call.now call.newId s user providerId
        requested)).store) ↔
    ¬∃ organizationId provider row,
      Discovers call.now call.newId s user providerId requested organizationId provider row := by
  cases hresult : inviteDiscoveredProvider call.now call.newId s user providerId requested with
  | error e =>
    refine iff_of_true (.refl _) ?_
    rintro ⟨organizationId, provider, row, hdiscovers⟩
    obtain ⟨s', hanswer⟩ := hdiscovers.answer
    cases hresult.symm.trans hanswer
  | ok result =>
    obtain ⟨s', answer⟩ := result
    rcases inviteDiscoveredProvider_eq_ok hresult with
      ⟨rfl, hnone⟩ | ⟨organizationId, provider, row, rfl, hdiscovers, hinvited, rfl⟩
    · refine iff_of_true ?_ ?_
      · cases answer with
        | membershipAlreadyActive => exact .refl _
        | asked invited provider =>
          cases invited with
          | invited row => exact absurd rfl (hnone row provider)
          | _ => exact .refl _
      · rintro ⟨organizationId, provider, row, hdiscovers⟩
        obtain ⟨s'', hanswer⟩ := hdiscovers.answer
        have heq := (Prod.mk.inj (Except.ok.inj (hresult.symm.trans hanswer))).2
        exact hnone row provider heq
    · refine iff_of_false (fun hextends => ?_)
        (not_not.mpr ⟨organizationId, provider, row, hdiscovers⟩)
      obtain ⟨existing, membershipInvite, hmetadata⟩ := hinvited.metadata
      have hfree : s.invitations.find? row.id = none := hinvited.id ▸ hinvited.free
      have hafter : ((s.insertInvitation row).updateInvitation row.id
          (discoveredData providerId)).invitation? row.id =
            some ((discoveredData providerId).apply row) :=
        Table.find?_modify_self _ (Table.find?_insert_self hfree)
      have hcell := hextends (.metadata row.id "delivery")
      dsimp only [commit] at hcell
      rw [metadataWrites, lookup_map_rename _ (metadata_injective row.id), valueOf, hafter,
        hmetadata] at hcell
      have hwritten : jsonField ((discoveredData providerId).apply row).metadata "delivery" =
          none := rfl
      rw [Option.bind_some, hwritten] at hcell
      cases hcell

/-! ### Runs that extend the columns -/

/-- Two operations clobber. -/
theorem not_clobbers {operation : ColumnOperation} (hoperation : call.operation = operation)
    (hinternal : ∀ id, operation ≠ .acceptInternalInvitation id)
    (hdiscovered : ∀ providerId requested,
      operation ≠ .inviteDiscoveredProvider providerId requested) :
    ¬Clobbers env s call := by
  rintro (⟨-, haccept, -⟩ | ⟨-, hinvite, -⟩)
  · exact hinternal _ (hoperation.symm.trans haccept)
  · exact hdiscovered _ _ (hoperation.symm.trans hinvite)

/-- A step extends the columns exactly where it clobbers none. -/
theorem extendsColumns_iff (env : ProcessEnv) (s : Store) (call : ColumnCall) :
    ExtendsColumns env s call ↔ ¬Clobbers env s call := by
  rw [ExtendsColumns, columnWrites, columnStep]
  cases hactor : validate s call.actorId with
  | none =>
    refine iff_of_true (.refl _) ?_
    rintro (⟨hactor', -⟩ | ⟨hactor', -⟩) <;> cases hactor.symm.trans hactor'
  | some user =>
    have huser := (user?_of_validate hactor).1
    dsimp only
    rw [operationWrites, operateColumns]
    cases hoperation : call.operation with
    | acceptInternalInvitation id =>
      dsimp only
      rw [acceptInternalInvitation_extends_iff id huser]
      constructor
      · rintro hempty (⟨hactor', hoperation', hfound, hacceptable, hkey, hne⟩ | ⟨-, hoperation', -⟩)
        · obtain rfl := Option.some.inj (hactor.symm.trans hactor')
          obtain rfl := ColumnOperation.acceptInternalInvitation.inj
            (hoperation.symm.trans hoperation')
          exact hne (hempty _ _ _ hfound hacceptable hkey)
        · cases hoperation.symm.trans hoperation'
      · intro hkept invitation definition key hfound hacceptable hkey
        by_contra hne
        exact hkept (.replacesProfile hactor hoperation hfound hacceptable hkey hne)
    | inviteDiscoveredProvider providerId requested =>
      dsimp only
      rw [inviteDiscoveredProvider_extends_iff, not_iff_not]
      constructor
      · rintro ⟨organizationId, provider, row, hdiscovers⟩
        exact .forgetsMetadata hactor hoperation hdiscovers
      · rintro (⟨-, hoperation', -⟩ | ⟨hactor', hoperation', hdiscovers⟩)
        · cases hoperation.symm.trans hoperation'
        · obtain rfl := Option.some.inj (hactor.symm.trans hactor')
          obtain ⟨rfl, rfl⟩ := ColumnOperation.inviteDiscoveredProvider.inj
            (hoperation.symm.trans hoperation')
          exact ⟨_, _, _, hdiscovers⟩
    | updateMe dto =>
      exact iff_of_true (updateMe_extends dto huser) (not_clobbers hoperation nofun nofun)
    | assignProviderCapabilities providerId dto =>
      exact iff_of_true (changeCapabilities_extends _ s user providerId)
        (not_clobbers hoperation nofun nofun)
    | removeProviderCapability providerId capabilityId =>
      exact iff_of_true (changeCapabilities_extends _ s user providerId)
        (not_clobbers hoperation nofun nofun)
    | deactivateProviderCapability providerId capabilityId =>
      exact iff_of_true (changeCapabilities_extends _ s user providerId)
        (not_clobbers hoperation nofun nofun)
    | revokeSessions targetUserId reason =>
      exact iff_of_true (revokeSessions_extends env call.now s user targetUserId reason)
        (not_clobbers hoperation nofun nofun)
    | resendInvitation id =>
      exact iff_of_true (resendInvitation_extends s user id) (not_clobbers hoperation nofun nofun)
    | acceptInvitation id =>
      exact iff_of_true (acceptInvitation_extends id huser) (not_clobbers hoperation nofun nofun)

/-- **JSON columns.** Along a run every step keeps the fields that it does not write exactly where
no step clobbers a profile or the metadata of an invitation; and then a field holds what was written
to it last. -/
theorem json_columns_extended_iff (env : ProcessEnv) (s : Store) (calls : List ColumnCall) :
    (Along (columnStep env) (ExtendsColumns env) s calls ↔
      Along (columnStep env) (fun s call => ¬Clobbers env s call) s calls) ∧
    (Along (columnStep env) (fun s call => ¬Clobbers env s call) s calls →
      ∀ cell, valueOf (run (columnStep env) s calls) cell =
        ((journal (columnStep env) (columnWrites env) s calls).lookup cell).or
          (valueOf s cell)) := by
  refine ⟨along_congr (extendsColumns_iff env) s calls, fun hkept => read_run ?_⟩
  exact (along_congr (extendsColumns_iff env) s calls).mpr hkept

namespace Example

/-- Someone of the legal department, with an address, is invited to the support. -/
def addressed : Store :=
  { Store.ofUsers ⟨[{ id := "amaka", role := .legalAdmin
                      profileData := some (.obj [("address", .str "4 Allen")]) }],
      List.nodup_singleton _⟩ (Table.empty _) with
    invitations := ⟨[{ id := "to-support", role := .supportAdmin, invitedById := "root" }],
      List.nodup_singleton _⟩ }

def amakaAccepts : ColumnCall where
  actorId := "amaka"
  operation := .acceptInternalInvitation "to-support"
  now := 3
  newId := "first-assignment"

end Example

open Example in
/-- Who becomes an administrator by an invitation loses the address. -/
theorem address_lost : ¬∀ (env : ProcessEnv) (s : Store) (calls : List ColumnCall),
    Along (columnStep env) (ExtendsColumns env) s calls := by
  intro h
  obtain ⟨hextends, -⟩ := h (fun _ => none) addressed [amakaAccepts]
  have hbefore : (valueOf addressed (.profileData "amaka" "address")).isSome := by decide +kernel
  have hafter : (valueOf (columnStep (fun _ => none) amakaAccepts addressed)
      (.profileData "amaka" "address")).isNone := by decide +kernel
  rw [hextends, Option.isNone_iff_eq_none, Option.or_eq_none_iff] at hafter
  rw [hafter.2] at hbefore
  cases hbefore

end FixZone.UsersService
