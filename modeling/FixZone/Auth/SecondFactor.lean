import FixZone.Auth.Revocation

/-!
# No privileged access without a second factor

The second factor is asked for when a token is issued, by the role the user has then; the
role of a request is the one the user has when the token is used. Accepting an invitation
and `updateUser` change the role in between, and neither advances the token version. So a
privileged role is used with a second factor only exactly as long as no operation gives
one to a user for whom a token without a second factor is still current, and no such token
is issued to a user who has been given one since the password was checked
(`factor_required_iff`).
-/

namespace FixZone.AuthService

open Library Accounts PrivilegedMfaService

/-- A token that is accepted for a privileged role was issued to its user after a second factor. -/
def FactorRequired (w : World) : Prop :=
  ∀ token ∈ w.tokens, ∀ user, jwtValidate w.store.accounts token.payload = .ok user →
    requiresPrivilegedMfa user.role = true →
      token.issuer.secondFactor = true ∧ token.payload.sub = user.id

/-- A step issues no token without a second factor to a user who has a privileged role by now, and
gives no privileged role to a user for whom such a token is current. -/
def RequiresFactor (d : Deployment) (input : Input) (call : Call) (w : World) : Prop :=
  match call with
  | .issue issuer user _ _ => issuer.secondFactor = false →
      ∀ row, w.store.accounts.user? user.id = some row → row.accountStatus = .active →
        row.tokenVersion = user.tokenVersion → requiresPrivilegedMfa row.role = false
  | .request (.account actorId operation) =>
      ∀ actor, validate w.store.accounts actorId = some actor →
        ∀ id role, GivesRole d input w actor operation id role → requiresPrivilegedMfa role = true →
          ∀ token ∈ w.tokens, token.payload.sub = id → token.issuer.secondFactor = false →
            ∀ row, jwtValidate w.store.accounts token.payload ≠ .ok row
  | _ => True

variable {d : Deployment} {input : Input} {w : World} {call : Call}

theorem role_of_updateUser {s : Store} {own : String} (data : Patch User.id)
    (hdata : ∀ row, (data.apply row).role = row.role) {id : String} {row' : User}
    (hrow : (s.updateUser own data).user? id = some row') :
    ∃ row, s.user? id = some row ∧ row'.role = row.role := by
  rw [Store.user?, Store.updateUser, Table.find?_modify] at hrow
  split at hrow
  · obtain ⟨row, hbefore, rfl⟩ := Option.map_eq_some_iff.mp hrow
    exact ⟨row, hbefore, hdata row⟩
  · exact ⟨row', hrow, rfl⟩

/-- Nobody but the operations on accounts gives a privileged role. -/
theorem role_advance (hcall : ∀ actorId operation, call ≠ .request (.account actorId operation))
    {id : String} {row' : User}
    (hrow : (advance d input w call).1.store.accounts.user? id = some row') :
    (∃ row, w.store.accounts.user? id = some row ∧ row'.role = row.role) ∨
      row'.role = .citizen := by
  cases hcompletes : completion d input w call with
  | some happening =>
    rw [advance_of_completion hcompletes, World.write, completedStore_accounts] at hrow
    exact .inl ⟨row', hrow, rfl⟩
  | none =>
    have heffect := advance_effect hcompletes
    generalize (advance d input w call).1 = w' at heffect hrow
    cases heffect with
    | accounts request accounts hchange =>
      cases hchange with
      | citizen dto =>
        obtain ⟨citizen, hchange, -⟩ := firebaseLogin_change input.now
          (defaultOrganizationName d.organizationName) input.newOrganizationId input.newId
          w.store.accounts dto
        rcases hchange.before hrow with ⟨row, hbefore, -, hrole⟩ | hcitizen
        · exact .inl ⟨row, hbefore, hrole⟩
        · exact .inr hcitizen
      | account actorId operation => exact absurd rfl (hcall actorId operation)
    | password record passwordHash =>
      exact .inl (role_of_updateUser (passwordData passwordHash) (fun _ => rfl) hrow)
    | revocation targetUserId profileData =>
      exact .inl (role_of_updateUser (InternalAdminService.sessionsRevokedData profileData)
        (fun _ => rfl) hrow)
    | _ => exact .inl ⟨row', hrow, rfl⟩

/-- A token that is accepted after a step was accepted before, if it was issued before. -/
theorem accepted_of_advance (h : VersionsBound w) {token : Token} (hmem : token ∈ w.tokens)
    {row' : User}
    (haccepted : jwtValidate (advance d input w call).1.store.accounts token.payload = .ok row') :
    ∃ row, jwtValidate w.store.accounts token.payload = .ok row := by
  obtain ⟨row, hrow, hle⟩ := h token hmem
  obtain ⟨after, hafter, hstatus, hversion, hmore⟩ := user_advance d input call hrow
  obtain ⟨hfound, hactive, hcurrent⟩ := jwtValidate_eq_ok.mp haccepted
  obtain rfl := Option.some.inj (hafter.symm.trans hfound)
  exact ⟨row, jwtValidate_eq_ok.mpr ⟨hrow, hstatus.symm.trans hactive, by omega⟩⟩

theorem factorRequired_issue {issuer : Issuer} {user : User} {epoch : ℕ} {codes : List String}
    (hrequired : FactorRequired w) :
    FactorRequired (advance d input w (.issue issuer user epoch codes)).1 ↔
      RequiresFactor d input (.issue issuer user epoch codes) w := by
  constructor
  · intro hafter hissuer row hrow hactive hversion
    by_contra hrole
    rw [Bool.not_eq_false] at hrole
    have htoken := hafter ⟨issueTokens user, issuer, epoch⟩ List.mem_cons_self row
      (jwtValidate_eq_ok.mpr ⟨hrow, hactive, hversion⟩) hrole
    rw [hissuer] at htoken
    cases htoken.1
  · intro hissue token hmem row haccepted hrole
    rcases List.mem_cons.mp hmem with rfl | hmem
    · obtain ⟨hrow, hactive, hversion⟩ := jwtValidate_eq_ok.mp haccepted
      refine ⟨?_, (Table.key_of_find? hrow).symm⟩
      by_contra hissuer
      rw [Bool.not_eq_true] at hissuer
      rw [hissue hissuer row hrow hactive hversion] at hrole
      cases hrole
    · exact hrequired token hmem row haccepted hrole

theorem factorRequired_account {actorId : String} {operation : AccountOperation}
    (hrequired : FactorRequired w) :
    FactorRequired (advance d input w (.request (.account actorId operation))).1 ↔
      RequiresFactor d input (.request (.account actorId operation)) w := by
  cases hactor : validate w.store.accounts actorId with
  | none =>
    have hsame : (advance d input w (.request (.account actorId operation))).1 = w := by
      simp only [advance, requestStep, withActor, hactor]
    rw [hsame]
    refine iff_of_true hrequired fun actor hfound => ?_
    rw [hactor] at hfound
    cases hfound
  | some actor =>
    have hw : (advance d input w (.request (.account actorId operation))).1 =
        w.setAccounts (performAccount d input w actor operation).store := by
      simp only [advance, requestStep, withActor, hactor]
    obtain ⟨hfound, hactive⟩ := user?_of_validate hactor
    have hchange : AccountChange d input w actor operation
        (performAccount d input w actor operation).store :=
      performAccount_change operation hfound hactive
    rw [hw]
    constructor
    · intro hafter actor' hactor' id role hgives hrole token hmem hsub hissuer row haccepted
      obtain rfl := Option.some.inj (hactor.symm.trans hactor')
      obtain ⟨hrow, hstatus, hversion⟩ := jwtValidate_eq_ok.mp haccepted
      obtain ⟨row', hrow', haccess⟩ := hchange.after _ row hrow
      obtain ⟨given, hgiven, rfl⟩ := hchange.given id role hgives
      obtain rfl := Option.some.inj (hrow'.symm.trans (hsub ▸ hgiven))
      have htoken := hafter token hmem row' (jwtValidate_eq_ok.mpr
        ⟨hrow', haccess.status.trans hstatus, haccess.version.trans hversion⟩) hrole
      rw [hissuer] at htoken
      cases htoken.1
    · intro hgives token hmem row' haccepted hrole
      obtain ⟨hrow', hstatus, hversion⟩ := jwtValidate_eq_ok.mp haccepted
      obtain ⟨row, hrow, haccess, hsame | hgiven⟩ := hchange.before _ row' hrow'
      · refine ⟨(hrequired token hmem row ?_ (hsame ▸ hrole)).1, (Table.key_of_find? hrow').symm⟩
        exact jwtValidate_eq_ok.mpr
          ⟨hrow, haccess.status.symm.trans hstatus, haccess.version.symm.trans hversion⟩
      · refine ⟨?_, (Table.key_of_find? hrow').symm⟩
        by_contra hissuer
        rw [Bool.not_eq_true] at hissuer
        exact hgives actor hactor _ _ hgiven hrole token hmem rfl hissuer row
          (jwtValidate_eq_ok.mpr
            ⟨hrow, haccess.status.symm.trans hstatus, haccess.version.symm.trans hversion⟩)

/-- No other step lets a token be used with a role it could not be used with before. -/
theorem factorRequired_other (hbound : VersionsBound w) (hrequired : FactorRequired w)
    (hissue : ∀ issuer user epoch codes, call ≠ .issue issuer user epoch codes)
    (haccount : ∀ actorId operation, call ≠ .request (.account actorId operation)) :
    FactorRequired (advance d input w call).1 := by
  intro token hmem row' haccepted hrole
  rw [tokens_advance hissue] at hmem
  obtain ⟨row, hbefore⟩ := accepted_of_advance hbound hmem haccepted
  obtain ⟨hrow', -, -⟩ := jwtValidate_eq_ok.mp haccepted
  rcases role_advance haccount hrow' with ⟨same, hsame, hroles⟩ | hcitizen
  · obtain rfl := Option.some.inj (hsame.symm.trans (jwtValidate_eq_ok.mp hbefore).1)
    exact ⟨(hrequired token hmem same hbefore (hroles ▸ hrole)).1,
      (Table.key_of_find? hrow').symm⟩
  · rw [hcitizen] at hrole
    exact absurd hrole (by decide)

theorem factorRequired_advance (hbound : VersionsBound w) (hrequired : FactorRequired w) :
    FactorRequired (advance d input w call).1 ↔ RequiresFactor d input call w := by
  cases call with
  | issue => exact factorRequired_issue hrequired
  | request request =>
    cases request with
    | account => exact factorRequired_account hrequired
    | _ => exact iff_of_true (factorRequired_other hbound hrequired (by simp) (by simp)) trivial
  | _ => exact iff_of_true (factorRequired_other hbound hrequired (by simp) (by simp)) trivial

/-- **A second factor for every privileged access.** Over all interleavings of the requests, every
token that is accepted for a privileged role was issued to its user after a second factor exactly
as long as no step issues a token without one to a user who has a privileged role by now, or gives
such a role to a user for whom a token without one is current. -/
theorem factor_required_iff (d : Deployment) (accounts : Store)
    (resetTokens : Table PasswordResetToken.id) {ι : Type} [DecidableEq ι]
    (turns : List (Turn ι Request Input)) :
    Throughout (protocol d).step (fun st => FactorRequired st.state)
        (.quiet (.start accounts resetTokens)) turns ↔
      Along (protocol d).step (Calls.StepMeets (RequiresFactor d))
        (.quiet (.start accounts resetTokens)) turns :=
  (protocol d).throughout_iff (fun _ _ _ => trivial)
    (fun _ _ _ hG hL _ _ => hG.advance hL)
    (fun _ _ _ _ hL _ hgoes => knowsUser_of_goes hL (advance_goes hgoes))
    (fun _ _ _ _ _ _ hL' => hL'.advance)
    (fun _ _ _ hG _ hI => factorRequired_advance hG hI)
    (fun _ hmem => by cases hmem) (fun _ hmem => by cases hmem) turns

/-! ### A token from before the role -/

namespace Example

def helper : User where
  id := "helper"
  email := some "helper@fixzone.ng"
  passwordHash := some "Password1"

def supportInvitation : Invitation where
  id := "invitation"
  email := some "helper@fixzone.ng"
  role := .supportAdmin
  invitedById := "admin"

def invitingStore : Store :=
  { Store.ofUsers ⟨[helper], List.nodup_singleton _⟩ (Table.empty _) with
    invitations := ⟨[supportInvitation], List.nodup_singleton _⟩ }

/-- A citizen logs in with a password and accepts an invitation to the support staff. -/
def acceptsRole : List (Turn ℕ Request Input) :=
  .start 0 (.login { email := some "helper@fixzone.ng", password := "Password1" }) ::
    goOn 0 2 "" ++ .start 0 (.account "helper" (.acceptInvitation "invitation")) ::
    goOn 0 1 ""

/-- A token without a second factor is accepted for a privileged role. -/
def acceptsWithoutFactor (w : World) : Bool :=
  w.tokens.any fun token => !token.issuer.secondFactor &&
    (jwtValidate w.store.accounts token.payload).toOption.any fun user =>
      requiresPrivilegedMfa user.role

end Example

open Example in
/-- The token of a citizen is accepted for the support staff. -/
theorem citizen_token_accepted_for_staff : ¬ ∀ (d : Deployment) (accounts : Store)
    (resetTokens : Table PasswordResetToken.id) (turns : List (Turn ℕ Request Input)),
    Throughout (protocol d).step (fun st => FactorRequired st.state)
      (.quiet (.start accounts resetTokens)) turns := by
  intro h
  have hlast := throughout_iff.mp (h deployment invitingStore (Table.empty _) acceptsRole)
    acceptsRole [] (List.append_nil _).symm
  have haccepts : acceptsWithoutFactor (run (protocol deployment).step
      (.quiet (.start invitingStore (Table.empty _))) acceptsRole).state = true := by
    decide +kernel
  obtain ⟨token, hmem, hboth⟩ := List.any_eq_true.mp haccepts
  rw [Bool.and_eq_true, Bool.not_eq_true', Option.any_eq_true] at hboth
  obtain ⟨hissuer, user, hvalid, hrole⟩ := hboth
  cases haccepted : jwtValidate _ token.payload with
  | error e =>
    rw [haccepted] at hvalid
    cases hvalid
  | ok accepted =>
    rw [haccepted] at hvalid
    obtain rfl := Option.some.inj hvalid
    have htoken := (hlast token hmem accepted haccepted hrole).1
    rw [hissuer] at htoken
    cases htoken

end FixZone.AuthService
