import FixZone.Auth.AccountChanges
import FixZone.Auth.SingleUse

/-!
# Revoked sessions

A password reset and `revokeSessions` advance the token version of a user, so that tokens
of an older version are refused. A login that needs a second factor reads the version when
the factor is given, not when the password was checked: a session that was opened before
the version advanced gives a token of the new one. So after a revocation nothing from
before it is accepted exactly as long as no second factor is taken in a session that is
older than a revocation, unless the version advances once more (`revocation_complete_iff`).
-/

namespace FixZone.AuthService

open Library Accounts PrivilegedMfaService

/-- After a revocation, no token is accepted whose password was checked before it. -/
def RevocationComplete (w : World) : Prop :=
  ∀ token ∈ w.tokens, token.epoch < w.revocations token.payload.sub →
    ∀ user, jwtValidate w.store.accounts token.payload ≠ .ok user

/-- A step issues no token after a second factor whose session is older than a revocation, unless
the version has advanced once more since the user was read. -/
def IssuesCurrent (_ : Input) (call : Call) (w : World) : Prop :=
  match call with
  | .issue issuer user epoch _ => issuer.secondFactor = true → epoch < w.revocations user.id →
      ∀ row, w.store.accounts.user? user.id = some row → row.accountStatus = .active →
        row.tokenVersion ≠ user.tokenVersion
  | _ => True

/-- Every token is of a user who is there, and of no later version than theirs. -/
def VersionsBound (w : World) : Prop :=
  ∀ token ∈ w.tokens, ∃ row, w.store.accounts.user? token.payload.sub = some row ∧
    token.payload.tokenVersion ≤ row.tokenVersion

/-- A user as they were read: they are there, and their version has not gone back. -/
def ReadBefore (user : User) (w : World) : Prop :=
  ∃ row, w.store.accounts.user? user.id = some row ∧ user.tokenVersion ≤ row.tokenVersion

/-- A user as they were read when there had been `epoch` revocations: their version has advanced
with every one since. -/
def ReadAt (user : User) (epoch : ℕ) (w : World) : Prop :=
  ∃ row, w.store.accounts.user? user.id = some row ∧
    row.tokenVersion + epoch = user.tokenVersion + w.revocations user.id ∧
      epoch ≤ w.revocations user.id

/-- What a call has found out about its user. -/
def KnowsUser : Call → World → Prop
  | .storeEnrollment validated, w | .confirmCode validated _, w | .activate validated _ _, w
  | .challenge validated _ _, w | .consumeTotp validated _ _, w
  | .findRecoveryCode validated _ _, w | .consumeCode validated _ _, w =>
      ReadBefore validated.user w
  | .issue issuer user epoch _, w => ReadBefore user w ∧
      (issuer.secondFactor = false → ReadAt user epoch w)
  | _, _ => True

variable {d : Deployment} {input : Input} {w : World} {call call' : Call}

/-! ### What a step does to versions -/

theorem completedStore_accounts (call : Call) :
    (completedStore d input w call).accounts = w.store.accounts := by
  cases call <;> rfl

/-- A revocation advances the version of its user, and is counted. -/
theorem user_revoke {s : AuthStore} {own : String} (data : Patch User.id)
    (haccounts : s.accounts = w.store.accounts.updateUser own data)
    (hstatus : ∀ row, (data.apply row).accountStatus = row.accountStatus)
    (hversion : ∀ row, (data.apply row).tokenVersion = row.tokenVersion + 1)
    {id : String} {row : User} (hrow : w.store.accounts.user? id = some row) :
    ∃ row', (w.write s (.revoked own)).store.accounts.user? id = some row' ∧
      row'.accountStatus = row.accountStatus ∧
      row'.tokenVersion + w.revocations id =
        row.tokenVersion + (w.write s (.revoked own)).revocations id ∧
      w.revocations id ≤ (w.write s (.revoked own)).revocations id := by
  have hcount : (w.write s (.revoked own)).revocations id =
      w.revocations id + if own = id then 1 else 0 := by
    simp [World.revocations, World.write, List.countP_cons]
  rw [hcount, World.write, haccounts, Store.user?, Store.updateUser, Table.find?_modify]
  by_cases hid : id = own
  · subst hid
    rw [if_pos rfl, if_pos rfl]
    refine ⟨data.apply row, ?_, hstatus row, ?_, by omega⟩
    · rw [show w.store.accounts.users.find? id = some row from hrow, Option.map_some]
    · rw [hversion]
      omega
  · rw [if_neg hid, if_neg (Ne.symm hid)]
    exact ⟨row, hrow, rfl, rfl, le_refl _⟩

/-- A user after a step: the status is the same, and the version has advanced with every
revocation. -/
theorem user_advance (d : Deployment) (input : Input) (call : Call) {id : String} {row : User}
    (hrow : w.store.accounts.user? id = some row) :
    ∃ row', (advance d input w call).1.store.accounts.user? id = some row' ∧
      row'.accountStatus = row.accountStatus ∧
      row'.tokenVersion + w.revocations id =
        row.tokenVersion + (advance d input w call).1.revocations id ∧
      w.revocations id ≤ (advance d input w call).1.revocations id := by
  cases hcompletes : completion d input w call with
  | some happening =>
    rw [advance_of_completion hcompletes]
    have hcount : (w.write (completedStore d input w call) happening).revocations id =
        w.revocations id := by
      cases completes_of_completion hcompletes <;> simp [World.revocations, World.write]
    rw [hcount, World.write, completedStore_accounts]
    exact ⟨row, hrow, rfl, rfl, le_refl _⟩
  | none =>
    have heffect := advance_effect hcompletes
    generalize (advance d input w call).1 = w' at heffect
    cases heffect with
    | accounts request accounts hchange =>
      obtain ⟨row', hrow', haccess⟩ := hchange.after hrow
      exact ⟨row', hrow', haccess.status, congrArg (· + w.revocations id) haccess.version,
        le_refl _⟩
    | password record passwordHash =>
      exact user_revoke (passwordData passwordHash) rfl (fun _ => rfl) (fun _ => rfl) hrow
    | revocation targetUserId profileData =>
      exact user_revoke (InternalAdminService.sessionsRevokedData profileData) rfl
        (fun _ => rfl) (fun _ => rfl) hrow
    | reads | failed => exact ⟨row, hrow, rfl, rfl, le_refl _⟩
    | opened | started | issued =>
      refine ⟨row, hrow, rfl, ?_, ?_⟩ <;> simp [World.revocations, World.write]

theorem ReadBefore.advance {user : User} (h : ReadBefore user w) :
    ReadBefore user (advance d input w call).1 := by
  obtain ⟨row, hrow, hle⟩ := h
  obtain ⟨row', hrow', -, hversion, hmore⟩ := user_advance d input call hrow
  exact ⟨row', hrow', by omega⟩

theorem ReadAt.advance {user : User} {epoch : ℕ} (h : ReadAt user epoch w) :
    ReadAt user epoch (advance d input w call).1 := by
  obtain ⟨row, hrow, hsince, hle⟩ := h
  obtain ⟨row', hrow', -, hversion, hmore⟩ := user_advance d input call hrow
  exact ⟨row', hrow', by omega, by omega⟩

theorem KnowsUser.advance (h : KnowsUser call' w) : KnowsUser call' (advance d input w call).1 := by
  cases call' with
  | issue issuer user epoch recoveryCodes =>
      exact ⟨h.1.advance, fun hissuer => (h.2 hissuer).advance⟩
  | storeEnrollment | confirmCode | activate | challenge | consumeTotp | findRecoveryCode
  | consumeCode => exact ReadBefore.advance h
  | _ => trivial

/-! ### What a call knows of its user -/

theorem ReadAt.of_found {user : User} (h : w.store.accounts.user? user.id = some user) :
    ReadAt user (w.revocations user.id) w :=
  ⟨user, h, rfl, le_refl _⟩

theorem ReadBefore.of_found {user : User} (h : w.store.accounts.user? user.id = some user) :
    ReadBefore user w :=
  ⟨user, h, le_refl _⟩

theorem readBefore_of_validatePreAuth {preAuthToken : String}
    {purpose : PrivilegedMfaPreAuthPurpose} {validated : PreAuthValidation}
    (h : validatePreAuth d.crypto input.now w.store preAuthToken purpose = .ok validated) :
    ReadBefore validated.user w := by
  obtain ⟨session, -, -, -, -, huser, -⟩ := validatePreAuth_eq_ok h
  exact .of_found huser

theorem user?_of_acceptPassword {crypto : Crypto} {s : Store} {dto : LoginDto} {user : User}
    (h : acceptPassword crypto s dto = .ok user) : s.user? user.id = some user := by
  unfold acceptPassword at h
  obtain ⟨-, h⟩ := throwIf_bind_eq_ok.mp h
  obtain ⟨row, hrow, h⟩ := orThrow_bind_eq_ok.mp h
  obtain ⟨passwordHash, -, h⟩ := orThrow_bind_eq_ok.mp h
  obtain ⟨-, h⟩ := throwIf_bind_eq_ok.mp h
  obtain ⟨-, h⟩ := throwIf_bind_eq_ok.mp h
  obtain ⟨-, h⟩ := throwIf_bind_eq_ok.mp h
  obtain rfl := pure_eq_ok.mp h
  exact Table.mem_rows_iff.mp (List.mem_of_find?_eq_some hrow)

/-- A login through Firebase goes on with the citizen it has just written. -/
theorem knowsUser_of_firebaseLogin {dto : FirebaseLoginDto} {user : User}
    (hanswer : (firebaseLogin input.now (defaultOrganizationName d.organizationName)
      input.newOrganizationId input.newId w.store.accounts dto).answer = .ok (some user)) :
    KnowsUser (.issue .firebaseLogin user (w.revocations user.id) [])
      (advance d input w (.request (.firebaseLogin dto))).1 := by
  obtain ⟨citizen, hchange, hcitizen⟩ := firebaseLogin_change input.now
    (defaultOrganizationName d.organizationName) input.newOrganizationId input.newId
    w.store.accounts dto
  obtain rfl := hcitizen user hanswer
  have hw : (advance d input w (.request (.firebaseLogin dto))).1 = w.setAccounts
      (firebaseLogin input.now (defaultOrganizationName d.organizationName)
        input.newOrganizationId input.newId w.store.accounts dto).store := by
    unfold advance requestStep orThrows
    dsimp only
    rw [hanswer]
  rw [hw]
  exact ⟨.of_found hchange.found, fun _ => .of_found hchange.found⟩

/-- What a call goes on with holds of the world after its step. -/
theorem knowsUser_of_goes (hknows : KnowsUser call w) (hgoes : Goes d input w call call') :
    KnowsUser call' (advance d input w call).1 := by
  cases hgoes with
  | login dto user haccepted =>
    have hfound := user?_of_acceptPassword haccepted
    exact KnowsUser.advance ⟨.of_found hfound, fun _ => .of_found hfound⟩
  | firebaseLogin dto user hanswer => exact knowsUser_of_firebaseLogin hanswer
  | startMfaEnrollment preAuthToken validated hvalid =>
    exact (readBefore_of_validatePreAuth hvalid).advance
  | confirmMfaEnrollment preAuthToken code validated hvalid =>
    exact (readBefore_of_validatePreAuth hvalid).advance
  | completeMfaChallenge preAuthToken method code validated hvalid =>
    exact (readBefore_of_validatePreAuth hvalid).advance
  | activate | consumeTotp | findRecoveryCode | consumeCode => exact ReadBefore.advance hknows
  | confirmed | challengedTotp | challengedCode =>
    exact ⟨ReadBefore.advance hknows, fun hissuer => by cases hissuer⟩
  | _ => trivial

/-! ### Completeness of revocation -/

/-- Only the last step of a call issues a token. -/
theorem tokens_advance (hcall : ∀ issuer user epoch codes, call ≠ .issue issuer user epoch codes) :
    (advance d input w call).1.tokens = w.tokens := by
  cases hcompletes : completion d input w call with
  | some happening =>
    rw [advance_of_completion hcompletes]
    cases completes_of_completion hcompletes <;> rfl
  | none =>
    have heffect := advance_effect hcompletes
    generalize (advance d input w call).1 = w' at heffect
    cases heffect with
    | issued issuer user epoch codes => exact absurd rfl (hcall issuer user epoch codes)
    | _ => rfl

theorem VersionsBound.advance (h : VersionsBound w) (hknows : KnowsUser call w) :
    VersionsBound (advance d input w call).1 := by
  intro token hmem
  have hbefore : ∃ row, w.store.accounts.user? token.payload.sub = some row ∧
      token.payload.tokenVersion ≤ row.tokenVersion := by
    cases call with
    | issue issuer user epoch codes =>
      rcases List.mem_cons.mp hmem with rfl | hmem
      · exact hknows.1
      · exact h token hmem
    | _ =>
      rw [tokens_advance (by simp)] at hmem
      exact h token hmem
  obtain ⟨row, hrow, hle⟩ := hbefore
  obtain ⟨row', hrow', -, hversion, hmore⟩ := user_advance d input call hrow
  exact ⟨row', hrow', by omega⟩

/-- A token from before the last revocation that was refused is refused after any step. -/
theorem refused_advance {token : Token} {row : User}
    (hrow : w.store.accounts.user? token.payload.sub = some row)
    (hle : token.payload.tokenVersion ≤ row.tokenVersion)
    (hrefused : token.epoch < w.revocations token.payload.sub →
      ∀ user, jwtValidate w.store.accounts token.payload ≠ .ok user)
    (hold : token.epoch < (advance d input w call).1.revocations token.payload.sub) (user : User) :
    jwtValidate (advance d input w call).1.store.accounts token.payload ≠ .ok user := by
  intro haccepted
  obtain ⟨row', hrow', hstatus, hversion, hmore⟩ := user_advance d input call hrow
  obtain ⟨hfound, hactive, hcurrent⟩ := jwtValidate_eq_ok.mp haccepted
  obtain rfl := Option.some.inj (hrow'.symm.trans hfound)
  have hsame : w.revocations token.payload.sub =
      (AuthService.advance d input w call).1.revocations token.payload.sub := by omega
  exact hrefused (hsame ▸ hold) row (jwtValidate_eq_ok.mpr
    ⟨hrow, hstatus.symm.trans hactive, by omega⟩)

/-- What a login without a second factor issues is of the version at its beginning. -/
theorem refused_of_readAt {user : User} {epoch : ℕ} (h : ReadAt user epoch w)
    (hold : epoch < w.revocations user.id) (accepted : User) :
    jwtValidate w.store.accounts (issueTokens user) ≠ .ok accepted := by
  intro haccepted
  obtain ⟨row, hrow, hsince, -⟩ := h
  obtain ⟨hfound, -, hcurrent⟩ := jwtValidate_eq_ok.mp haccepted
  obtain rfl := Option.some.inj (hrow.symm.trans hfound)
  have hversion : row.tokenVersion = user.tokenVersion := hcurrent
  omega

theorem revocationComplete_issue {issuer : Issuer} {user : User} {epoch : ℕ} {codes : List String}
    (hknows : KnowsUser (.issue issuer user epoch codes) w) (hcomplete : RevocationComplete w) :
    RevocationComplete (advance d input w (.issue issuer user epoch codes)).1 ↔
      IssuesCurrent input (.issue issuer user epoch codes) w := by
  have hcount : ∀ userId,
      (advance d input w (.issue issuer user epoch codes)).1.revocations userId =
      w.revocations userId := by
    intro userId
    simp [AuthService.advance, World.revocations, World.write]
  constructor
  · intro hafter hissuer hold row hrow hactive hversion
    have htoken := hafter ⟨issueTokens user, issuer, epoch⟩ List.mem_cons_self
    rw [hcount] at htoken
    exact htoken hold row (jwtValidate_eq_ok.mpr ⟨hrow, hactive, hversion⟩)
  · intro hcurrent token hmem
    rw [hcount]
    rcases List.mem_cons.mp hmem with rfl | hmem
    · intro hold
      cases hissuer : issuer.secondFactor with
      | true =>
        intro accepted haccepted
        obtain ⟨hrow, hactive, hversion⟩ := jwtValidate_eq_ok.mp haccepted
        exact hcurrent hissuer hold accepted hrow hactive hversion
      | false => exact refused_of_readAt (hknows.2 hissuer) hold
    · exact hcomplete token hmem

theorem revocationComplete_advance (h : VersionsBound w) (hknows : KnowsUser call w)
    (hcomplete : RevocationComplete w) :
    RevocationComplete (advance d input w call).1 ↔ IssuesCurrent input call w := by
  cases call with
  | issue issuer user epoch codes => exact revocationComplete_issue hknows hcomplete
  | _ =>
    refine iff_of_true (fun token hmem hold user => ?_) trivial
    rw [tokens_advance (by simp)] at hmem
    obtain ⟨row, hrow, hle⟩ := h token hmem
    exact refused_advance hrow hle (hcomplete token hmem) hold user

/-- **Revocation is complete.** Over all interleavings of the requests, no token is accepted whose
password was checked before a revocation exactly as long as no token is issued after a second
factor in a session older than a revocation, unless the version has advanced once more. -/
theorem revocation_complete_iff (d : Deployment) (accounts : Store)
    (resetTokens : Table PasswordResetToken.id) {ι : Type} [DecidableEq ι]
    (turns : List (Turn ι Request Input)) :
    Throughout (protocol d).step (fun st => RevocationComplete st.state)
        (.quiet (.start accounts resetTokens)) turns ↔
      Along (protocol d).step (Calls.StepMeets IssuesCurrent)
        (.quiet (.start accounts resetTokens)) turns :=
  (protocol d).throughout_iff (fun _ _ _ => trivial)
    (fun _ _ _ hG hL _ _ => hG.advance hL)
    (fun _ _ _ _ hL _ hgoes => knowsUser_of_goes hL (advance_goes hgoes))
    (fun _ _ _ _ _ _ hL' => hL'.advance)
    (fun _ _ _ hG hL hI => revocationComplete_advance hG hL hI)
    (fun _ hmem => by cases hmem) (fun _ hmem => by cases hmem) turns

/-! ### A session from before the reset -/

namespace Example

def resetTokens : Table PasswordResetToken.id :=
  ⟨[{ id := "reset", userId := "admin", tokenDigest := "reset-token", expiresAt := 3600000 }],
    List.nodup_singleton _⟩

/-- The password is reset after a session was opened with the old one, in which the enrollment is
confirmed afterwards. -/
def confirmsAfterReset : List (Turn ℕ Request Input) :=
  enrolls ++ .start 1 (.completePasswordReset "reset-token" "Password2") :: goOn 1 2 "" ++
    .start 0 (.confirmMfaEnrollment "session" "287082") :: goOn 0 4 "first"

/-- A token from before a revocation is accepted. -/
def acceptsRevoked (w : World) : Bool :=
  w.tokens.any fun token => token.epoch < w.revocations token.payload.sub &&
    (jwtValidate w.store.accounts token.payload).toBool

end Example

open Example in
/-- A password reset does not reach the session that was opened with the old password. -/
theorem old_password_accepted_after_reset : ¬ ∀ (d : Deployment) (accounts : Store)
    (resetTokens : Table PasswordResetToken.id) (turns : List (Turn ℕ Request Input)),
    Throughout (protocol d).step (fun st => RevocationComplete st.state)
      (.quiet (.start accounts resetTokens)) turns := by
  intro h
  have hlast := throughout_iff.mp (h deployment accounts resetTokens confirmsAfterReset)
    confirmsAfterReset [] (List.append_nil _).symm
  have haccepts : acceptsRevoked (run (protocol deployment).step
      (.quiet (.start accounts resetTokens)) confirmsAfterReset).state = true := by
    decide +kernel
  obtain ⟨token, hmem, hboth⟩ := List.any_eq_true.mp haccepts
  rw [Bool.and_eq_true, decide_eq_true_eq] at hboth
  have hrefused := hlast token hmem hboth.1
  cases hvalid : jwtValidate _ token.payload with
  | error e =>
    rw [hvalid] at hboth
    cases hboth.2
  | ok user => exact hrefused user hvalid

end FixZone.AuthService
