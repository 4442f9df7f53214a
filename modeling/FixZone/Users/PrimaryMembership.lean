import FixZone.Users.Quotas

/-!
# Primary memberships

A provider may be a member of several organizations, and the membership in the organization that
the provider belongs to is the primary one. `acceptInvitation` asks for that organization before
it writes the user, and the same step may change it; `updateUser` moves a user to another
organization and leaves the memberships alone. So the primary memberships follow the users in
exactly the runs in which nobody is moved away from a membership or into one
(`primary_follows_iff`).
-/

namespace FixZone.UsersService

open Library Accounts

/-! ### What is asked of a store -/

/-- Each provider has one primary membership at most, and a membership is primary where its
organization is the user's. -/
structure PrimaryFollows (s : Store) : Prop where
  unique : ∀ user ∈ s.users.rows, ∀ membership ∈ s.memberships.rows,
    ∀ other ∈ s.memberships.rows, membership.providerId = user.id → other.providerId = user.id →
      membership.active → membership.isPrimary → other.active → other.isPrimary →
        membership = other
  own : ∀ id organizationId membership user,
    s.memberships.find? (id, organizationId) = some membership → s.user? id = some user →
      (membership.isPrimary ↔ user.organizationId = some organizationId)

/-- The user has a membership in the organization, active or not. -/
def HasMembership (s : Store) (id : String) (organizationId : Option String) : Prop :=
  ∃ joined membership, organizationId = some joined ∧
    s.memberships.find? (id, joined) = some membership

/-- The call moves a user to another organization, who has a membership in the one that is left or
in the other, or who gets one in the same step. -/
inductive Misplaces (s : Store) (call : AccountCall) : Prop where
  | accepted {user : User} {invitationId : String} {invitation : Invitation} :
      validate s call.actorId = some user → call.request = .acceptInvitation invitationId →
      s.invitation? invitationId = some invitation → TakenUp call.now s user invitation →
      truthy invitation.organizationId → providerMembershipOnly user invitation = false →
      user.organizationId ≠ invitation.organizationId →
      (invitation.role = .provider ∨ HasMembership s user.id user.organizationId ∨
        HasMembership s user.id invitation.organizationId) → Misplaces s call
  | edited {user existing : User} {id : String} {dto : UpdateUserDto} {data : UserUpdateInput}
      {organizationId : Option String} :
      validate s call.actorId = some user → call.request = .updateUser id dto →
      Edits s user id dto existing data → data.organizationId = some organizationId →
      organizationId ≠ existing.organizationId →
      (HasMembership s existing.id existing.organizationId ∨
        HasMembership s existing.id organizationId) → Misplaces s call

variable {s : Store} {call : AccountCall} {row : User} {data : Patch User.id}
  {joined : Option String}

/-- Where the primary memberships are those of the users' organizations, each user has one at
most. -/
theorem primaryFollows_of_own (h : ∀ id organizationId membership user,
    s.memberships.find? (id, organizationId) = some membership → s.user? id = some user →
      (membership.isPrimary ↔ user.organizationId = some organizationId)) : PrimaryFollows s := by
  refine ⟨fun user huser membership hmembership other hother hid hid' _ hprimary _ hprimary' => ?_,
    h⟩
  have hfound : s.user? user.id = some user := Table.mem_rows_iff.mp huser
  have hrow := Table.mem_rows_iff.mp hmembership
  have hrow' := Table.mem_rows_iff.mp hother
  have horganization := (h _ _ membership user hrow (hid ▸ hfound)).mp hprimary
  have horganization' := (h _ _ other user hrow' (hid' ▸ hfound)).mp hprimary'
  have hkey : membership.key = other.key :=
    Prod.ext (hid.trans hid'.symm) (Option.some.inj (horganization.symm.trans horganization'))
  rw [hkey, hrow'] at hrow
  exact (Option.some.inj hrow).symm

/-! ### What a call writes -/

/-- The memberships after a call that writes a user: the one it activates is primary where it is
that of the organization which the user had before. -/
theorem handle_memberships (h : Wrote call s row data joined) :
    (handle call s).memberships =
      (joinOrganization s row.id joined (row.organizationId = joined)).memberships := by
  unfold handle
  cases h with
  | @accepted _ _ invitation hactor hrequest hfound htaken =>
    rw [hactor, hrequest]
    dsimp only
    rw [acceptInvitation_of_takenUp hfound htaken, acceptedStore, upsertMembership_eq_join]
    cases joinedBy invitation <;> rfl
  | @approved user _ id hactor hrequest happroves =>
    obtain ⟨hfound, rfl⟩ := user?_of_getUser happroves.found
    have hok : approveProviderRequest call.newId s user row.id = .ok (_, ⟨⟩) :=
      approveProviderRequest_eq_ok.mpr ⟨row, happroves, rfl⟩
    rw [hactor, hrequest]
    dsimp only
    rw [hok]
    cases hjoined : row.organizationId.filter (· ≠ "") with
    | none => rfl
    | some organizationId =>
      rw [(Option.filter_eq_some_iff.mp hjoined).1, decide_eq_true rfl]
      rfl
  | @edited user _ id dto data hactor hrequest hedits =>
    obtain rfl : row.id = id := Table.key_of_find? hedits.found
    have hok : updateUser s user row.id dto = .ok (s.updateUser row.id data.patch, ⟨⟩) :=
      updateUser_eq_ok.mpr ⟨row, data, hedits, rfl⟩
    rw [hactor, hrequest]
    dsimp only
    rw [hok]
    rfl

/-- A user comes to the organization of the membership that is activated, or stays. -/
theorem Wrote.organizationId_cases (h : Wrote call s row data joined) {organizationId : String}
    (hjoined : joined = some organizationId) :
    (data.apply row).organizationId = row.organizationId ∨
      (data.apply row).organizationId = some organizationId := by
  cases h with
  | @accepted _ _ invitation =>
    obtain ⟨-, horganization, -⟩ := joinedBy_eq_some_iff.mp hjoined
    by_cases hmoves : truthy invitation.organizationId ∧
        providerMembershipOnly row invitation = false
    · exact .inr ((if_pos hmoves).trans horganization)
    · exact .inl (by simp [hmoves])
  | approved => exact .inl rfl
  | edited => cases hjoined

/-- The membership that is activated. -/
theorem find?_join_self (id organizationId : String) (isPrimary : Bool) :
    ∃ membership, (joinOrganization s id (some organizationId) isPrimary).memberships.find?
      (id, organizationId) = some membership ∧ membership.isPrimary = isPrimary := by
  rw [joinOrganization, activateMembership, Table.find?_upsert]
  refine ⟨_, if_pos rfl, ?_⟩
  cases s.memberships.find? (id, organizationId) <;> rfl

/-- The other memberships are left alone. -/
theorem find?_join_of_ne {id : String} {isPrimary : Bool} {key : String × String}
    (hne : ∀ organizationId, joined = some organizationId → key ≠ (id, organizationId)) :
    (joinOrganization s id joined isPrimary).memberships.find? key = s.memberships.find? key := by
  cases joined with
  | none => rfl
  | some organizationId =>
    rw [joinOrganization, activateMembership, Table.find?_upsert]
    exact if_neg (hne organizationId rfl)

/-! ### Who is moved -/

/-- What a call that writes a user has to meet for the primary memberships to follow. -/
def Follows (s : Store) (row : User) (data : Patch User.id) (joined : Option String) : Prop :=
  (data.apply row).organizationId ≠ row.organizationId →
    joined = none ∧ ¬HasMembership s row.id row.organizationId ∧
      ¬HasMembership s row.id (data.apply row).organizationId

theorem primaryFollows_handle_iff (h : Wrote call s row data joined) (hs : PrimaryFollows s) :
    PrimaryFollows (handle call s) ↔ Follows s row data joined := by
  have hrewrites := handle_rewrites h
  have hmemberships := handle_memberships h
  have hrow : (handle call s).user? row.id = some (data.apply row) := by
    rw [Store.user?, hrewrites.users]
    exact Table.find?_modify_self data hrewrites.found
  constructor
  · rintro hafter hmoved
    have hnone : joined = none := by
      cases hjoined : joined with
      | none => rfl
      | some organizationId =>
        exfalso
        have hnew := (h.organizationId_cases hjoined).resolve_left hmoved
        obtain ⟨membership, hfound, hflag⟩ := find?_join_self (s := s) row.id organizationId
          (row.organizationId = joined)
        rw [hjoined] at hmemberships hflag
        rw [← hjoined, hjoined, ← hmemberships] at hfound
        have hprimary := (hafter.own _ _ membership _ hfound hrow).mpr hnew
        rw [hflag, decide_eq_true_eq] at hprimary
        exact hmoved (hnew.trans hprimary.symm)
    subst hnone
    have hsame : ∀ organizationId membership,
        s.memberships.find? (row.id, organizationId) = some membership →
          (row.organizationId = some organizationId ↔
            (data.apply row).organizationId = some organizationId) := by
      intro organizationId membership hfound
      rw [← hs.own _ _ membership row hfound hrewrites.found]
      exact hafter.own _ _ membership _ (by rw [hmemberships]; exact hfound) hrow
    refine ⟨rfl, ?_, ?_⟩
    · rintro ⟨organizationId, membership, hown, hfound⟩
      exact hmoved (((hsame organizationId membership hfound).mp hown).trans hown.symm)
    · rintro ⟨organizationId, membership, hnew, hfound⟩
      exact hmoved (hnew.trans ((hsame organizationId membership hfound).mpr hnew).symm)
  · intro hfollows
    refine primaryFollows_of_own fun id organizationId membership user hfound huser => ?_
    rw [hmemberships] at hfound
    by_cases hid : id = row.id
    · subst hid
      obtain rfl := Option.some.inj (hrow.symm.trans huser)
      by_cases hmoved : (data.apply row).organizationId = row.organizationId
      · rw [hmoved]
        by_cases hjoined : joined = some organizationId
        · subst hjoined
          obtain ⟨activated, hactivated, hflag⟩ := find?_join_self (s := s) row.id organizationId
            (row.organizationId = some organizationId)
          obtain rfl := Option.some.inj (hactivated.symm.trans hfound)
          rw [hflag, decide_eq_true_eq]
        · rw [find?_join_of_ne (by rintro _ rfl hkey; exact hjoined (by cases hkey; rfl))] at hfound
          exact hs.own _ _ membership row hfound hrewrites.found
      · obtain ⟨rfl, hold, hnew⟩ := hfollows hmoved
        have hprimary := hs.own _ _ membership row hfound hrewrites.found
        refine iff_of_false (fun h => hold ⟨_, membership, hprimary.mp h, hfound⟩)
          (fun h => hnew ⟨_, membership, h, hfound⟩)
    · rw [Store.user?, hrewrites.users, Table.find?_modify_of_ne data hid] at huser
      rw [find?_join_of_ne (fun _ _ hkey => hid (Prod.mk.inj hkey).1)] at hfound
      exact hs.own _ _ membership user hfound huser

theorem not_follows_iff : ¬Follows s row data joined ↔
    (data.apply row).organizationId ≠ row.organizationId ∧
      (joined ≠ none ∨ HasMembership s row.id row.organizationId ∨
        HasMembership s row.id (data.apply row).organizationId) := by
  unfold Follows
  tauto

/-- A call misplaces a user exactly where the primary memberships do not follow what it writes. -/
theorem misplaces_iff (h : Wrote call s row data joined) :
    Misplaces s call ↔ ¬Follows s row data joined := by
  rw [not_follows_iff]
  constructor
  · intro hmisplaces
    cases hmisplaces with
    | @accepted user _ invitation hactor hrequest hfound htaken htruthy hjoins hother hlinked =>
      obtain ⟨rfl, rfl, rfl⟩ := h.unique (.accepted hactor hrequest hfound htaken)
      have hnew : ((inviteeData invitation).apply row).organizationId =
          invitation.organizationId := by simp [htruthy, hjoins]
      rw [hnew]
      refine ⟨hother.symm, hlinked.imp_left fun hrole hnone => ?_⟩
      cases horganization : invitation.organizationId with
      | none => simp [horganization] at htruthy
      | some organizationId =>
        rw [horganization, truthy_some_iff] at htruthy
        rw [joinedBy_eq_some_iff.mpr ⟨hrole, horganization, htruthy⟩] at hnone
        cases hnone
    | @edited user existing id dto data organizationId hactor hrequest hedits hdata hother
        hlinked =>
      obtain ⟨rfl, rfl, rfl⟩ := h.unique (.edited hactor hrequest hedits)
      have hnew : (data.patch.apply row).organizationId = organizationId := by simp [hdata]
      rw [hnew]
      exact ⟨hother, .inr hlinked⟩
  · rintro ⟨hmoved, hlinked⟩
    cases h with
    | @accepted _ _ invitation hactor hrequest hfound htaken =>
      by_cases hmoves : truthy invitation.organizationId ∧
          providerMembershipOnly row invitation = false
      · have hnew : ((inviteeData invitation).apply row).organizationId =
            invitation.organizationId := by simp [hmoves]
        rw [hnew] at hmoved hlinked
        refine .accepted hactor hrequest hfound htaken hmoves.1 hmoves.2 hmoved.symm
          (hlinked.imp_left fun hjoined => ?_)
        obtain ⟨organizationId, hjoined⟩ := Option.ne_none_iff_exists'.mp hjoined
        exact (joinedBy_eq_some_iff.mp hjoined).1
      · exact absurd (by simp [hmoves]) hmoved
    | approved => exact absurd rfl hmoved
    | @edited _ _ _ _ data hactor hrequest hedits =>
      cases hdata : data.organizationId with
      | none => exact absurd (by simp [hdata]) hmoved
      | some organizationId =>
        have hnew : (data.patch.apply row).organizationId = organizationId := by simp [hdata]
        rw [hnew] at hmoved hlinked
        exact .edited hactor hrequest hedits hdata hmoved
          (hlinked.resolve_left fun hjoined => hjoined rfl)

theorem Misplaces.wrote (h : Misplaces s call) : ∃ row data joined,
    Wrote call s row data joined := by
  cases h with
  | accepted hactor hrequest hfound htaken =>
    exact ⟨_, _, _, .accepted hactor hrequest hfound htaken⟩
  | edited hactor hrequest hedits => exact ⟨_, _, _, .edited hactor hrequest hedits⟩

/-- The primary memberships follow through a call exactly where it misplaces nobody. -/
theorem handle_primaryFollows_iff (hs : PrimaryFollows s) :
    PrimaryFollows (handle call s) ↔ ¬Misplaces s call := by
  by_cases hwrote : ∃ row data joined, Wrote call s row data joined
  · obtain ⟨row, data, joined, hwrote⟩ := hwrote
    rw [primaryFollows_handle_iff hwrote hs, misplaces_iff hwrote, not_not]
  · have hnone : ∀ row data joined, ¬ Wrote call s row data joined := fun row data joined h =>
      hwrote ⟨row, data, joined, h⟩
    obtain ⟨husers, hmemberships, -⟩ := handle_of_not_wrote hnone
    refine iff_of_true (primaryFollows_of_own ?_) fun h => hwrote h.wrote
    rw [hmemberships]
    intro id organizationId membership user hfound huser
    rw [Store.user?, husers] at huser
    exact hs.own id organizationId membership user hfound huser

/-- **Primary memberships.** Along a run the primary memberships are those of the users'
organizations, one for each user at most, exactly where no step misplaces anybody. -/
theorem primary_follows_iff (s : Store) (calls : List AccountCall) (hs : PrimaryFollows s) :
    Throughout handle PrimaryFollows s calls ↔
      Along handle (fun s call => ¬Misplaces s call) s calls :=
  throughout_iff_along (fun _ _ hs => handle_primaryFollows_iff hs) hs calls

namespace Example

theorem oneSeatLeft_primaryFollows : PrimaryFollows oneSeatLeft :=
  primaryFollows_of_own fun _ _ _ _ hfound _ => by cases hfound

/-- The administrator invites a citizen as a provider. -/
def invitesProvider : AccountCall where
  actorId := "admin"
  request := .inviteUser { role := some (.str "PROVIDER"), email := some (.str "ann@mail.example") }
  now := 0
  newId := "i-ann"

/-- Two organizations, an applicant of the one and a provider of the other. -/
def twoOrganizations : Store :=
  Store.ofUsers
    ⟨[{ id := "admin", role := .orgAdmin, organizationId := some "org" },
      { id := "cem", role := .pendingProvider, organizationId := some "org" },
      { id := "dana", role := .provider, organizationId := some "other",
        email := some "dana@mail.example" }], by decide⟩
    ⟨[{ id := "org" }, { id := "other" }], by decide⟩

theorem twoOrganizations_primaryFollows : PrimaryFollows twoOrganizations :=
  primaryFollows_of_own fun _ _ _ _ hfound _ => by cases hfound

/-- The administrator approves the applicant and invites the provider, who accepts. -/
def approvesAndInvites : List AccountCall :=
  [{ actorId := "admin", request := .approveProviderRequest "cem", now := 0, newId := "p-cem" },
    { actorId := "admin", now := 0, newId := "i-dana"
      request := .inviteUser
        { role := some (.str "PROVIDER"), email := some (.str "dana@mail.example"),
          confirmExistingUser := some (.bool true) } },
    takesUp "dana" "i-dana"]

end Example

open Example in
/-- The membership of the approved applicant is primary, and that of the other organization's
provider is not. -/
theorem memberships_follow_approval :
    (run handle twoOrganizations approvesAndInvites).memberships.rows.map
        (fun membership => (membership.providerId, membership.isPrimary)) =
      [("cem", true), ("dana", false)] ∧
    Throughout handle PrimaryFollows twoOrganizations approvesAndInvites := by
  refine ⟨by decide +kernel, (primary_follows_iff _ _ twoOrganizations_primaryFollows).mpr
    ⟨?_, ?_, ?_, trivial⟩⟩
  · rintro (⟨-, hrequest⟩ | ⟨-, hrequest⟩) <;> cases hrequest
  · rintro (⟨-, hrequest⟩ | ⟨-, hrequest⟩) <;> cases hrequest
  · -- the provider keeps the organization and gets a further membership
    have hfurther : ((run handle twoOrganizations (approvesAndInvites.take 2)).invitation?
        "i-dana").bind (fun invitation => (validate (run handle twoOrganizations
          (approvesAndInvites.take 2)) "dana").map (providerMembershipOnly · invitation)) =
        some true := by
      decide +kernel
    rintro (⟨hactor, hrequest, hfound, -, -, hmoves, -⟩ | ⟨-, hrequest⟩)
    · cases hrequest
      have hactor : validate (run handle twoOrganizations (approvesAndInvites.take 2)) "dana" =
          some _ := hactor
      rw [show (run handle twoOrganizations (approvesAndInvites.take 2)).invitation? "i-dana" =
        some _ from hfound, Option.bind_some, hactor, Option.map_some, hmoves] at hfurther
      cases hfurther
    · cases hrequest

open Example in
/-- The one membership of a citizen who becomes a provider of an organization is not primary. -/
theorem new_provider_not_primary :
    ¬∀ (s : Store) (calls : List AccountCall), PrimaryFollows s →
      Throughout handle PrimaryFollows s calls := by
  intro h
  have hthroughout := h oneSeatLeft [invitesProvider, takesUp "ann" "i-ann"]
    oneSeatLeft_primaryFollows
  have hafter := throughout_iff.mp hthroughout _ [] (List.append_nil _).symm
  have hmembership : ((run handle oneSeatLeft
      [invitesProvider, takesUp "ann" "i-ann"]).memberships.find? ("ann", "org")).map
        (·.isPrimary) = some false := by decide +kernel
  have hown : ((run handle oneSeatLeft [invitesProvider, takesUp "ann" "i-ann"]).user? "ann").map
      (·.organizationId) = some (some "org") := by decide +kernel
  obtain ⟨membership, hfound, hflag⟩ := Option.map_eq_some_iff.mp hmembership
  obtain ⟨user, huser, horganization⟩ := Option.map_eq_some_iff.mp hown
  have hprimary := (hafter.own _ _ membership user hfound huser).mpr horganization
  rw [hflag] at hprimary
  cases hprimary

end FixZone.UsersService
