import FixZone.InternalAdmin.Operations

/-!
# The ceiling of a grant

A role can be given away only by who has its permissions by the own role, whether the
role is assigned at once or offered in an invitation and taken up later. So over any run in
which the invitations taken up were made in the run, a permission that somebody has at the
end was somebody's at the start (`grants_within_authority`). The invariant `Below`
carries along, for every role, invitation and assignment there is, who had its
permissions at the start.
-/

namespace FixZone.InternalAdminService

open Library Accounts

/-- The role a successful call gives away or offers; a request for approvals does neither. -/
def grantedRole (env : ProcessEnv) (call : Call) (s : Store) (user : User) : Option UserRole :=
  match call.operation with
  | .invite dto =>
    match inviteAdministrator (call.server env) s user dto with
    | .ok (_, .created row) | .ok (_, .existing row) => some row.role
    | _ => none
  | .assign targetUserId dto =>
    match assignRole (call.server env) s user targetUserId dto with
    | .ok (_, .created row) | .ok (_, .existing row) => some row.role
    | _ => none
  | .accept _ => none

/-- The catalogue marks the role as one that needs two approvals. -/
def highRisk (role : UserRole) : Bool :=
  (resolveInternalRoleDefinition role).any fun definition => definition.highRiskGrant

/-- A successful call gives away a role whose permissions the actor has, and none that needs
approvals. -/
def WithinAuthority (env : ProcessEnv) (s : Store) (call : Call) : Prop :=
  ∀ user, validate s call.actorId = some user → ∀ role, grantedRole env call s user = some role →
    ∃ definition, resolveInternalRoleDefinition role = some definition ∧
      definition.highRiskGrant = false ∧
      ∀ p ∈ definition.permissions,
        p ∈ (effectivePermissionsForUser env call.now s user).permissions

/-- No role that needs approvals was given to a user or assigned between `s` and `s'`. -/
structure NoHighRiskGrant (s s' : Store) : Prop where
  roles : ∀ userId row, s'.user? userId = some row → highRisk row.role = true →
    ∃ before, s.user? userId = some before ∧ before.role = row.role
  assignments : ∀ assignment ∈ s'.assignments.rows, highRisk assignment.role = true →
    assignment ∈ s.assignments.rows

/-- The call takes up no invitation that is in `s`. -/
def TakesUpNew (s : Store) (call : Call) : Prop :=
  ∀ invitationId, call.operation = .accept invitationId → s.invitation? invitationId = none

variable {env : ProcessEnv} {A : Set String} {s₀ s s' : Store} {user : User} {call : Call}
  {p : InternalPermissionKey}

/-! ### One call -/

theorem Grantable.within {permission : InternalPermissionKey} {definition : InternalRoleDefinition}
    (h : Grantable (call.server env) s user permission definition)
    (hactor : validate s call.actorId = some user) (hp : p ∈ definition.permissions) :
    p ∈ (effectivePermissionsForUser env call.now s user).permissions := by
  have hactive := (validate_eq_some_iff.mp hactor).2
  refine mem_effectivePermissions_iff.mpr ⟨?_, .inl (h.ceiling p hp)⟩
  rw [hactive]
  decide

theorem withinAuthority (env : ProcessEnv) (s : Store) (call : Call) :
    WithinAuthority env s call := by
  intro user hactor role hgranted
  unfold grantedRole at hgranted
  cases hoperation : call.operation with
  | accept => simp [hoperation] at hgranted
  | invite dto =>
    rw [hoperation] at hgranted
    dsimp only at hgranted
    cases hinvite : inviteAdministrator (call.server env) s user dto with
    | error => simp [hinvite] at hgranted
    | ok result =>
      obtain ⟨s', answer⟩ := result
      obtain ⟨definition, hgrantable, heffect⟩ := inviteAdministrator_eq_ok hinvite
      rw [hinvite] at hgranted
      cases heffect with
      | approval => simp at hgranted
      | existing row _ hrole _ hlow =>
        obtain rfl : row.role = role := by simpa using hgranted
        exact ⟨definition, hrole ▸ hgrantable.resolved, hlow, fun p hp =>
          hgrantable.within hactor hp⟩
      | created row _ hlow _ _ _ hrole =>
        obtain rfl : row.role = role := by simpa using hgranted
        exact ⟨definition, hrole ▸ hgrantable.resolved, hlow, fun p hp =>
          hgrantable.within hactor hp⟩
  | assign targetUserId dto =>
    rw [hoperation] at hgranted
    dsimp only at hgranted
    cases hassign : assignRole (call.server env) s user targetUserId dto with
    | error => simp [hassign] at hgranted
    | ok result =>
      obtain ⟨s', answer⟩ := result
      have heffect := assignRole_eq_ok hassign
      rw [hassign] at hgranted
      cases heffect with
      | approval => simp at hgranted
      | created definition _ _ _ hassignable =>
        obtain rfl : definition.role = role := by simpa [assignedRow] using hgranted
        exact ⟨definition, hassignable.resolved, hassignable.low,
          fun p hp => hassignable.toGrantable.within hactor hp⟩

/-! ### The invariant -/

/-- The user has the permission by the own role. -/
def HoldsByRole (env : ProcessEnv) (s : Store) (userId : String)
    (p : InternalPermissionKey) : Prop :=
  ∃ row, s.user? userId = some row ∧ row.accountStatus ≠ .suspended ∧
    p ∈ permissionsForRole env row.role

/-- Every permission in the list was held by the role of somebody in `A`. -/
def FromRoles (env : ProcessEnv) (A : Set String) (s : Store)
    (permissions : List InternalPermissionKey) : Prop :=
  ∀ p ∈ permissions, ∃ holder ∈ A, HoldsByRole env s holder p

/-- What a run by the users in `A` from `s₀` has left: where each permission comes from. -/
structure Below (env : ProcessEnv) (A : Set String) (s₀ s : Store) : Prop where
  users : ∀ userId row, s.user? userId = some row → ∃ before, s₀.user? userId = some before ∧
    (row.accountStatus ≠ .suspended → before.accountStatus ≠ .suspended) ∧
    (highRisk row.role = true → before.role = row.role)
  roles : ∀ userId ∈ A, ∀ row, s.user? userId = some row → row.accountStatus ≠ .suspended →
    FromRoles env A s₀ (permissionsForRole env row.role)
  invitations : ∀ invitationId invitation, s.invitation? invitationId = some invitation →
    s₀.invitation? invitationId = none →
    highRisk invitation.role = false ∧ FromRoles env A s₀ (permissionsForRole env invitation.role)
  assignments : ∀ assignment ∈ s.assignments.rows, assignment ∈ s₀.assignments.rows ∨
    highRisk assignment.role = false ∧
      FromRoles env A s₀ (permissionArray assignment.permissionsSnapshot)

theorem Below.refl (env : ProcessEnv) (A : Set String) (s : Store) : Below env A s s where
  users _ row hrow := ⟨row, hrow, id, fun _ => rfl⟩
  roles userId hmem row hrow hnot p hp := ⟨userId, hmem, row, hrow, hnot, hp⟩
  invitations _ _ hfound hnone := by
    rw [hfound] at hnone
    cases hnone
  assignments _ hmem := .inl hmem

/-- Users, invitations and assignments are all the invariant reads. -/
theorem Below.of_eq (h : Below env A s₀ s) (husers : s'.users = s.users)
    (hinvitations : s'.invitations = s.invitations)
    (hassignments : s'.assignments = s.assignments) : Below env A s₀ s' where
  users userId row hrow := h.users userId row (by rwa [Store.user?, husers] at hrow)
  roles userId hmem row hrow := h.roles userId hmem row (by rwa [Store.user?, husers] at hrow)
  invitations id invitation hfound :=
    h.invitations id invitation (by rwa [Store.invitation?, hinvitations] at hfound)
  assignments assignment hmem := h.assignments assignment (by rwa [hassignments] at hmem)

theorem highRisk_eq_false {role : UserRole} {definition : InternalRoleDefinition}
    (hresolved : resolveInternalRoleDefinition role = some definition)
    (hlow : definition.highRiskGrant = false) :
    highRisk role = false := by
  rw [highRisk, hresolved, Option.any_some, hlow]

/-- What an actor in `A` may give away was held at the start. -/
theorem Below.fromRoles (h : Below env A s₀ s) (hmem : call.actorId ∈ A)
    (hactor : validate s call.actorId = some user) {permission : InternalPermissionKey}
    {definition : InternalRoleDefinition}
    (hgrantable : Grantable (call.server env) s user permission definition) :
    FromRoles env A s₀ definition.permissions := by
  obtain ⟨huser, hactive⟩ := validate_eq_some_iff.mp hactor
  intro p hp
  exact h.roles _ hmem user huser (by rw [hactive]; decide) p (hgrantable.ceiling p hp)

theorem Below.insertInvitation (h : Below env A s₀ s) {row : Invitation}
    (hfree : s.invitation? row.id = none) (hlow : highRisk row.role = false)
    (hfrom : FromRoles env A s₀ (permissionsForRole env row.role)) :
    Below env A s₀ (s.insertInvitation row) where
  users := h.users
  roles := h.roles
  invitations id invitation hfound hnone := by
    rw [Store.invitation?, Store.insertInvitation, Table.find?_insert_of_free hfree] at hfound
    split at hfound
    · obtain rfl := Option.some.inj hfound
      exact ⟨hlow, hfrom⟩
    · exact h.invitations id invitation hfound hnone
  assignments := h.assignments

/-- An invitation that changes keeps its role. -/
theorem Below.updateInvitation (h : Below env A s₀ s) (invitationId : String)
    {data : Patch Invitation.id} (hdata : ∀ row, (data.apply row).role = row.role) :
    Below env A s₀ (s.updateInvitation invitationId data) where
  users := h.users
  roles := h.roles
  invitations id invitation hfound hnone := by
    rw [Store.invitation?, Store.updateInvitation, Table.find?_modify] at hfound
    split at hfound
    · obtain ⟨before, hbefore, rfl⟩ := Option.map_eq_some_iff.mp hfound
      rw [hdata before]
      exact h.invitations id before hbefore hnone
    · exact h.invitations id invitation hfound hnone
  assignments := h.assignments

theorem Below.insertAssignment (h : Below env A s₀ s) {row : InternalRoleAssignment}
    (hlow : highRisk row.role = false)
    (hfrom : FromRoles env A s₀ (permissionArray row.permissionsSnapshot)) :
    Below env A s₀ (s.insertAssignment row) where
  users := h.users
  roles := h.roles
  invitations := h.invitations
  assignments assignment hmem := by
    by_cases hfree : row.id ∈ s.assignments.rows.map InternalRoleAssignment.id
    · rw [Store.insertAssignment, Table.insert, dif_pos hfree] at hmem
      exact h.assignments assignment hmem
    · rw [Store.insertAssignment, Table.insert, dif_neg hfree] at hmem
      rcases List.mem_append.mp hmem with hold | hnew
      · exact h.assignments assignment hold
      · obtain rfl := List.mem_singleton.mp hnew
        exact .inr ⟨hlow, hfrom⟩

/-- An active user who gets a role that was held at the start. -/
theorem Below.updateUser (h : Below env A s₀ s) (hactor : validate s call.actorId = some user)
    {role : UserRole} {scope : InternalScope} (hlow : highRisk role = false)
    (hfrom : FromRoles env A s₀ (permissionsForRole env role)) :
    Below env A s₀ (s.updateUser user.id (administratorData role scope)) := by
  obtain ⟨huser, hactive⟩ := validate_eq_some_iff.mp hactor
  have hid : user.id = call.actorId := Table.key_of_find? huser
  have hcases : ∀ userId row,
      (s.updateUser user.id (administratorData role scope)).user? userId = some row →
      s.user? userId = some row ∨
        s.user? userId = some user ∧ row = (administratorData role scope).apply user := by
    intro userId row hrow
    rw [Store.user?, Store.updateUser, Table.find?_modify] at hrow
    split at hrow
    · next heq =>
      obtain ⟨before, hbefore, rfl⟩ := Option.map_eq_some_iff.mp hrow
      obtain rfl : userId = call.actorId := heq.trans hid
      obtain rfl := Option.some.inj (hbefore.symm.trans huser)
      exact .inr ⟨huser, rfl⟩
    · exact .inl hrow
  refine ⟨fun userId row hrow => ?_, fun userId hmem row hrow hnot =>
    ?_, h.invitations, h.assignments⟩
  · rcases hcases userId row hrow with hold | ⟨hold, rfl⟩
    · exact h.users userId row hold
    · obtain ⟨before, hbefore, hstatus, -⟩ := h.users userId user hold
      refine ⟨before, hbefore, fun _ => hstatus (by rw [hactive]; decide), fun hhigh => ?_⟩
      exact absurd (hlow.symm.trans hhigh) Bool.false_ne_true
  · rcases hcases userId row hrow with hold | ⟨-, rfl⟩
    · exact h.roles userId hmem row hold hnot
    · exact hfrom

/-- **A call keeps the invariant.** -/
theorem Below.step (h : Below env A s₀ s) (hmem : call.actorId ∈ A) (hnew : TakesUpNew s₀ call) :
    Below env A s₀ (perform env call s) := by
  have hperformed := perform_cases env call s
  generalize perform env call s = s' at hperformed
  cases hperformed with
  | unchanged => exact h
  | approval => exact h.of_eq rfl rfl rfl
  | invited user dto definition row hactor hgrantable hrole hlow hfree =>
    refine h.insertInvitation hfree ?_ ?_ <;> rw [hrole]
    · exact highRisk_eq_false hgrantable.resolved hlow
    · have henabled : roleDefinitionEnabled env definition = true := hgrantable.enabled
      rw [permissionsForRole_of_enabled hgrantable.resolved henabled]
      exact h.fromRoles hmem hactor hgrantable
  | expired invitationId => exact h.updateInvitation invitationId fun _ => rfl
  | accepted user invitationId invitation definition hoperation hactor hfound hacceptable =>
    obtain ⟨hlow, hfrom⟩ :=
      h.invitations invitationId invitation hfound (hnew invitationId hoperation)
    refine ((h.updateUser hactor hlow hfrom).insertAssignment hlow ?_).updateInvitation _ fun _ =>
      rfl
    have henabled : roleDefinitionEnabled env definition = true := hacceptable.enabled
    rw [acceptedAssignment, permissionArray_permissionsSnapshot,
      ← permissionsForRole_of_enabled hacceptable.resolved henabled]
    exact hfrom
  | assigned user targetUserId dto definition scope startsAt expiresAt hoperation hactor
      hassignable =>
    refine h.insertAssignment (highRisk_eq_false hassignable.resolved hassignable.low) ?_
    rw [assignedRow, permissionArray_permissionsSnapshot]
    exact h.fromRoles hmem hactor hassignable.toGrantable

theorem HoldsByRole.holds {userId : String} (h : HoldsByRole env s userId p) (t : Millis) :
    Holds env t s userId p := by
  obtain ⟨row, hrow, hnot, hp⟩ := h
  exact ⟨row, hrow, mem_effectivePermissions_iff.mpr ⟨hnot, .inl hp⟩⟩

/-- What somebody in `A` has was had by somebody in `A` at the start. -/
theorem Below.holds (h : Below env A s₀ s) {userId : String} (hmem : userId ∈ A) {t : Millis}
    (hholds : Holds env t s userId p) : ∃ holder ∈ A, Holds env t s₀ holder p := by
  obtain ⟨row, hrow, hp⟩ := hholds
  obtain ⟨hnot, hrole | ⟨assignment, hactive, hp⟩⟩ := mem_effectivePermissions_iff.mp hp
  · obtain ⟨holder, hholder, hrole⟩ := h.roles userId hmem row hrow hnot p hrole
    exact ⟨holder, hholder, hrole.holds t⟩
  · obtain ⟨hassignment, hmatch⟩ := List.mem_filter.mp hactive
    rcases h.assignments assignment hassignment with hold | ⟨-, hfrom⟩
    · obtain ⟨before, hbefore, hstatus, -⟩ := h.users userId row hrow
      refine ⟨userId, hmem, before, hbefore,
        mem_effectivePermissions_iff.mpr ⟨hstatus hnot, .inr ⟨assignment, ?_, hp⟩⟩⟩
      rw [user_id_of_find hbefore, ← user_id_of_find hrow]
      exact List.mem_filter.mpr ⟨hold, hmatch⟩
    · obtain ⟨holder, hholder, hrole⟩ := hfrom p hp
      exact ⟨holder, hholder, hrole.holds t⟩

theorem Below.noHighRiskGrant (h : Below env A s₀ s) : NoHighRiskGrant s₀ s where
  roles userId row hrow hhigh := by
    obtain ⟨before, hbefore, -, hrole⟩ := h.users userId row hrow
    exact ⟨before, hbefore, hrole hhigh⟩
  assignments assignment hmem hhigh := by
    rcases h.assignments assignment hmem with hold | ⟨hlow, -⟩
    · exact hold
    · exact absurd (hlow.symm.trans hhigh) Bool.false_ne_true

/-- **The ceiling of a grant.** In any run of invitations, their acceptances and assignments by
users in `A`, every role given away has only permissions the actor has and needs no approvals; and
what somebody in `A` has in the end, at any time, somebody in `A` had at the start. -/
theorem grants_within_authority (env : ProcessEnv) (A : Set String) (s : Store) (calls : List Call)
    (hactors : ∀ call ∈ calls, call.actorId ∈ A) (hnew : ∀ call ∈ calls, TakesUpNew s call) :
    Along (perform env) (WithinAuthority env) s calls ∧
      NoHighRiskGrant s (run (perform env) s calls) ∧
      ∀ userId ∈ A, ∀ t p, Holds env t (run (perform env) s calls) userId p →
        ∃ holder ∈ A, Holds env t s holder p := by
  have hbelow : Below env A s (run (perform env) s calls) := by
    have halong :
        Along (perform env) (fun _ call => call.actorId ∈ A ∧ TakesUpNew s call) s calls :=
      along_iff.mpr fun pre call post hsplit =>
        have hmem : call ∈ calls := by simp [hsplit]
        ⟨hactors call hmem, hnew call hmem⟩
    exact halong.run_inv (fun s' call h hcall => h.step hcall.1 hcall.2) (Below.refl env A s)
  refine ⟨along_iff.mpr fun pre call post _ =>
    withinAuthority env _ call, hbelow.noHighRiskGrant, ?_⟩
  exact fun userId hmem t p hholds => hbelow.holds hmem hholds

namespace Example

def owner : User := { id := "owner", role := .superAdmin }

/-- Someone of the legal department, whose role has no permissions. -/
def newcomer : User := { id := "newcomer", phone := some "+2348000000000", role := .legalAdmin }

def ownerStore : Store :=
  Store.ofUsers ⟨[owner, newcomer], by simp [owner, newcomer]⟩ (Table.empty _)

/-- The owner invites a support administrator, who takes the invitation up. -/
def invitedSupport : List Call :=
  [{ actorId := "owner", now := 0, newId := "invitation"
     operation :=
     .invite { fullName := "New", email := "helper@fixzone.ng", role := "SUPPORT_ADMIN" } },
   { actorId := "newcomer", now := 1, newId := "assignment", operation := .accept "invitation" }]

end Example

open Example in
/-- What the newcomer has in the end somebody had at the start. -/
theorem support_within_owner :
    ∃ holder ∈ ({"owner", "newcomer"} : Set String),
      Holds (fun _ => none) 2 ownerStore holder .internalAdminRead := by
  refine (grants_within_authority (fun _ => none) {"owner", "newcomer"} ownerStore invitedSupport
    (by simp [invitedSupport]) ?_).2.2 "newcomer" (by simp) 2 .internalAdminRead ?_
  · intro call _ invitationId _
    rfl
  · rw [holds_iff]
    decide +kernel

end FixZone.InternalAdminService
