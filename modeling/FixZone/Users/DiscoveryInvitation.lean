import FixZone.Users.Service

/-!
# Inviting a provider who was discovered

`inviteDiscoveredProvider`: an organization invites a provider whom it found by the discovery of
providers. The invitation is made by `inviteUser` and marked afterwards; what `inviteUser` answers
with has no metadata, so the mark takes the place of what it had stored.
-/

namespace FixZone.UsersService

open Library Accounts
open ReportService (HttpError forbidden notFound)

/-- `resolveDiscoveryOrganization`. -/
def resolveDiscoveryOrganization (requested : Option Json) (user : User) :
    Except HttpError String :=
  if user.role = .superAdmin then
    orThrow (trimmedOrNull (stringOf requested) <|> trimmedOrNull user.organizationId)
      (forbidden "Organization is required for discovery")
  else
    orThrow (user.organizationId.filter fun id => id ≠ "" ∧ user.role = .orgAdmin)
      (forbidden "Provider discovery requires org admin")

/-- A field of the metadata of an invitation, where it is a text. -/
def metadataText (row : Invitation) (name : String) : Option String :=
  stringOf ((Json.obj (objectRecord row.metadata)).field? name)

/-- The provider has an invitation of the organization that is still open. -/
def hasOpenInvitation (now : Millis) (s : Store) (organizationId : String) (provider : User) :
    Bool :=
  s.invitations.rows.any fun row => row.organizationId = some organizationId &&
    row.role = .provider && row.status = .pending && row.expiresAt.any (now < ·) &&
      (sameIdentity provider.email provider.phone row.email row.phone ||
        metadataText row "discoveredProviderId" = some provider.id)

/-- What is asked of `inviteUser`. -/
def discoveryInvite (organizationId : String) (provider : User) : InviteUserDto where
  role := some (.str "PROVIDER")
  organizationId := some (.str organizationId)
  email := provider.email.map .str
  phone := provider.phone.map .str
  fullName := some (.str provider.fullName)
  confirmExistingUser := some (.bool true)
  existingUserAction := some (.str "ADD_MEMBERSHIP")

/-- `{ ...objectMetadata(metadata), discoveredProviderId, invitationSource }`. -/
def discoveryMetadata (metadata : Option Json) (providerId : String) : Json :=
  withField (some (withField metadata "discoveredProviderId" (.str providerId))) "invitationSource"
    (.str "SMART_PROVIDER_DISCOVERY")

/-- The column that marks the invitation. The one that was answered has no metadata. -/
@[simp] def discoveredData (providerId : String) : Patch Invitation.id where
  apply row := { row with metadata := some (discoveryMetadata none providerId) }

/-- What `inviteDiscoveredProvider` answers. -/
inductive DiscoveryAnswer where
  | membershipAlreadyActive (providerId organizationId : String)
  | asked (answer : InviteAnswer) (provider : User)

/-- The mark on the invitation that was made, if one was. -/
def markDiscovered (s : Store) (providerId : String) : InviteAnswer → Store
  | .invited invitation => s.updateInvitation invitation.id (discoveredData providerId)
  | _ => s

/-- The end of `inviteDiscoveredProvider`, for a provider who is no member. -/
def inviteProvider (now : Millis) (newId : String) (s : Store) (user : User)
    (organizationId : String) (provider : User) : Except HttpError (Store × DiscoveryAnswer) := do
  throwIf (hasOpenInvitation now s organizationId provider)
    (domainError .conflict "DUPLICATE_PENDING_INVITATION"
      "This provider already has a pending invitation from this organization.")
  throwIf (truthy provider.email = false ∧ truthy provider.phone = false)
    (domainError .forbidden "PROVIDER_CONTACT_UNAVAILABLE"
      "This provider cannot be invited until a private platform contact is available.")
  let (s', answer) ← inviteUser now newId s user (discoveryInvite organizationId provider)
  return (markDiscovered s' provider.id answer, .asked answer provider)

/-- `inviteDiscoveredProvider`. -/
def inviteDiscoveredProvider (now : Millis) (newId : String) (s : Store) (user : User)
    (providerId : String) (requested : Option Json) :
    Except HttpError (Store × DiscoveryAnswer) := do
  let organizationId ← resolveDiscoveryOrganization requested user
  let provider ← orThrow
    ((s.user? providerId).filter fun row => row.role = .provider ∧ row.accountStatus = .active)
    (notFound "Provider not found")
  if (s.memberships.find? (providerId, organizationId)).any (·.active) then
    return (s, .membershipAlreadyActive providerId organizationId)
  else inviteProvider now newId s user organizationId provider

variable {now : Millis} {newId : String} {s s' : Store} {user : User}

/-- What the invitation of a provider was checked for, and what `inviteUser` makes of it. -/
structure Discovers (now : Millis) (newId : String) (s : Store) (user : User) (providerId : String)
    (requested : Option Json) (organizationId : String) (provider : User) (row : Invitation) :
    Prop where
  organization : resolveDiscoveryOrganization requested user = .ok organizationId
  found : s.user? providerId = some provider
  active : provider.role = .provider ∧ provider.accountStatus = .active
  not_member : (s.memberships.find? (providerId, organizationId)).any (·.active) = false
  none_open : hasOpenInvitation now s organizationId provider = false
  reachable : truthy provider.email = false → truthy provider.phone = true
  invited : ∃ s', inviteUser now newId s user (discoveryInvite organizationId provider) =
    .ok (s', .invited row)

/-- It leaves the store as it is, or adds an invitation with the mark for its metadata. -/
theorem inviteDiscoveredProvider_eq_ok {providerId : String} {requested : Option Json}
    {answer : DiscoveryAnswer}
    (h : inviteDiscoveredProvider now newId s user providerId requested = .ok (s', answer)) :
    (s' = s ∧ ∀ row provider, answer ≠ .asked (.invited row) provider) ∨
      ∃ organizationId provider row, answer = .asked (.invited row) provider ∧
        Discovers now newId s user providerId requested organizationId provider row ∧
        Invited newId s user row ∧
        s' = (s.insertInvitation row).updateInvitation row.id (discoveredData providerId) := by
  unfold inviteDiscoveredProvider at h
  obtain ⟨organizationId, horganization, h⟩ := bind_eq_ok.mp h
  obtain ⟨provider, hprovider, h⟩ := orThrow_bind_eq_ok.mp h
  obtain ⟨hfound, hrole⟩ := Option.filter_eq_some_iff.mp hprovider
  have hid : provider.id = providerId := Table.key_of_find? hfound
  split at h
  · obtain ⟨rfl, rfl⟩ := Prod.mk.inj (pure_eq_ok.mp h)
    exact .inl ⟨rfl, by simp⟩
  · next hmember =>
    unfold inviteProvider at h
    obtain ⟨hopen, h⟩ := throwIf_bind_eq_ok.mp h
    obtain ⟨hcontact, h⟩ := throwIf_bind_eq_ok.mp h
    obtain ⟨⟨store, result⟩, hinvite, h⟩ := bind_eq_ok.mp h
    obtain ⟨rfl, rfl⟩ := Prod.mk.inj (pure_eq_ok.mp h)
    rcases inviteUser_eq_ok hinvite with ⟨rfl, hnone⟩ | ⟨row, rfl, rfl, hrow⟩
    · cases result with
      | invited row => exact absurd rfl (hnone row)
      | _ => exact .inl ⟨rfl, by simp⟩
    · exact .inr ⟨organizationId, provider, row, rfl,
        ⟨horganization, hfound, of_decide_eq_true hrole, by simpa using hmember,
          by simpa using hopen, by simpa using hcontact, _, hinvite⟩,
        hrow, by rw [markDiscovered, hid]⟩

/-- Where these checks are passed, an invitation is made and marked. -/
theorem Discovers.answer {providerId organizationId : String} {requested : Option Json}
    {provider : User} {row : Invitation}
    (h : Discovers now newId s user providerId requested organizationId provider row) :
    ∃ s', inviteDiscoveredProvider now newId s user providerId requested =
      .ok (s', .asked (.invited row) provider) := by
  obtain ⟨s', hinvite⟩ := h.invited
  have hprovider : (s.user? providerId).filter
      (fun row => row.role = .provider ∧ row.accountStatus = .active) = some provider :=
    Option.filter_eq_some_iff.mpr ⟨h.found, decide_eq_true h.active⟩
  refine ⟨markDiscovered s' provider.id (.invited row), ?_⟩
  rw [inviteDiscoveredProvider, h.organization, ok_bind, hprovider, orThrow_some, ok_bind, if_neg]
  · rw [inviteProvider, throwIf_bind_eq_ok, throwIf_bind_eq_ok]
    refine ⟨by simp [h.none_open], fun hnone => ?_, bind_eq_ok.mpr ⟨_, hinvite, rfl⟩⟩
    exact absurd (h.reachable hnone.1) (by simp [hnone.2])
  · simp [h.not_member]

end FixZone.UsersService
