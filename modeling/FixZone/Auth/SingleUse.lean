import FixZone.Auth.Effects

/-!
# One login from a session

A session that is opened after an accepted password is to give one login. Every way to
complete a login marks the session as consumed in the transaction that completes it, and
every way refuses a consumed session when it begins; but the transaction does not ask
again. So a session gives at most one login exactly as long as no transaction completes a
login on a session that has been consumed since it was validated (`single_logins_iff`).
-/

namespace FixZone.AuthService

open Library Accounts PrivilegedMfaService

/-- The session that a login was completed with. -/
def Happening.loginSession? : Happening → Option String
  | .activated sessionId _ _ _ => some sessionId
  | .challenged sessionId _ _ => some sessionId
  | _ => none

/-- How many logins were completed with a session. -/
def World.logins (w : World) (sessionId : String) : ℕ :=
  w.history.countP fun happening => happening.loginSession? = some sessionId

/-- The session is consumed. -/
def isConsumed (s : AuthStore) (sessionId : String) : Prop :=
  ∃ row, s.sessions.find? sessionId = some row ∧ row.consumedAt ≠ none

/-- No session has given two logins. -/
def SingleLogins (w : World) : Prop := ∀ sessionId, w.logins sessionId ≤ 1

/-- A session is consumed once it has given a login. -/
def LoginsConsume (w : World) : Prop :=
  ∀ sessionId, 0 < w.logins sessionId ↔ isConsumed w.store sessionId

/-- The session of the login that a step completes. -/
def completedSession (d : Deployment) (input : Input) (call : Call) (w : World) : Option String :=
  (completion d input w call).bind Happening.loginSession?

/-- A step completes no login on a session that is consumed. -/
def CompletesUnconsumed (d : Deployment) (input : Input) (call : Call) (w : World) : Prop :=
  ∀ sessionId, completedSession d input call w = some sessionId → ¬ isConsumed w.store sessionId

variable {d : Deployment} {input : Input} {w : World} {call : Call}

/-! ### What a step does to sessions -/

/-- What completes a login is on a session, which it consumes. -/
theorem completion_consumes {happening : Happening}
    (h : completion d input w call = some happening) :
    ∃ sessionId row, happening.loginSession? = some sessionId ∧
      w.store.sessions.find? sessionId = some row ∧
      (completedStore d input w call).sessions =
        w.store.sessions.modify sessionId (consumedData input.now) := by
  cases completes_of_completion h with
  | activated validated enrollmentId step _ hsession =>
    obtain ⟨row, hrow⟩ := Option.isSome_iff_exists.mp hsession
    exact ⟨_, row, rfl, hrow, rfl⟩
  | totp validated enrollmentId step _ hsession =>
    obtain ⟨row, hrow⟩ := Option.isSome_iff_exists.mp hsession
    exact ⟨_, row, rfl, hrow, rfl⟩
  | recoveryCode validated enrollmentId backupCode _ hsession =>
    obtain ⟨row, hrow⟩ := Option.isSome_iff_exists.mp hsession
    exact ⟨_, row, rfl, hrow, rfl⟩

/-- A login is counted for the session it was completed with. -/
theorem logins_advance (sessionId : String) :
    (advance d input w call).1.logins sessionId = w.logins sessionId +
      if completedSession d input call w = some sessionId then 1 else 0 := by
  unfold completedSession
  cases hcompletes : completion d input w call with
  | some happening =>
    rw [advance_of_completion hcompletes]
    simp [World.logins, World.write, List.countP_cons]
  | none =>
    rw [Option.bind_none, if_neg (by simp), Nat.add_zero]
    have heffect := advance_effect hcompletes
    generalize (advance d input w call).1 = w' at heffect
    cases heffect with
    | _ => simp [World.logins, World.write, World.setAccounts, Happening.loginSession?]

/-- A new session is not consumed. -/
theorem isConsumed_insertSession {s : AuthStore} {row : PrivilegedMfaPreAuthSession}
    {sessionId : String} (hfree : s.sessions.find? row.id = none) (hnew : row.consumedAt = none) :
    isConsumed (s.insertSession row) sessionId ↔ isConsumed s sessionId := by
  rw [isConsumed, AuthStore.insertSession, Table.find?_insert_of_free hfree]
  split
  · next hid =>
    refine iff_of_false ?_ ?_
    · rintro ⟨found, hfound, hconsumed⟩
      rw [← Option.some.inj hfound] at hconsumed
      exact hconsumed hnew
    · rintro ⟨found, hfound, -⟩
      rw [hid, hfree] at hfound
      cases hfound
  · exact Iff.rfl

/-- A failed attempt leaves a session as consumed as it was. -/
theorem isConsumed_recordFailedAttempt {s : AuthStore} {sessionId : String} (own : String) (n : ℕ) :
    isConsumed (recordFailedAttempt input.now s own n) sessionId ↔ isConsumed s sessionId := by
  simp only [isConsumed, recordFailedAttempt, AuthStore.updateSession, Table.find?_modify]
  by_cases hsame : sessionId = own
  · simp [hsame]
  · simp [hsame]

/-- The sessions that are consumed after a step. -/
theorem isConsumed_advance (sessionId : String) :
    isConsumed (advance d input w call).1.store sessionId ↔
      isConsumed w.store sessionId ∨ completedSession d input call w = some sessionId := by
  unfold completedSession
  cases hcompletes : completion d input w call with
  | some happening =>
    rw [advance_of_completion hcompletes]
    obtain ⟨own, row, hown, hrow, hsessions⟩ := completion_consumes hcompletes
    rw [Option.bind_some, hown, Option.some.injEq, isConsumed, World.write, hsessions]
    by_cases hsame : own = sessionId
    · subst hsame
      exact iff_of_true ⟨_, Table.find?_modify_self _ hrow, by simp⟩ (.inr rfl)
    · rw [Table.find?_modify_of_ne _ (Ne.symm hsame), or_iff_left hsame, isConsumed]
  | none =>
    rw [Option.bind_none, or_iff_left (by simp)]
    have heffect := advance_effect hcompletes
    generalize (advance d input w call).1 = w' at heffect
    cases heffect with
    | opened user purpose epoch hfree => exact isConsumed_insertSession hfree rfl
    | failed validated => exact isConsumed_recordFailedAttempt _ _
    | _ => exact Iff.rfl

/-! ### Single use -/

theorem start_loginsConsume (accounts : Store) (resetTokens : Table PasswordResetToken.id) :
    LoginsConsume (.start accounts resetTokens) := by
  intro sessionId
  refine iff_of_false (Nat.lt_irrefl 0) ?_
  rintro ⟨row, hrow, -⟩
  cases hrow

theorem LoginsConsume.advance (h : LoginsConsume w) :
    LoginsConsume (advance d input w call).1 := by
  intro sessionId
  rw [logins_advance, isConsumed_advance, ← h sessionId]
  split
  · next hown => exact iff_of_true (Nat.succ_pos _) (.inr hown)
  · next hother => rw [Nat.add_zero, or_iff_left hother]

theorem singleLogins_advance (h : LoginsConsume w) (hsingle : SingleLogins w) :
    SingleLogins (advance d input w call).1 ↔ CompletesUnconsumed d input call w := by
  constructor
  · intro hafter sessionId hown hconsumed
    have hle := hafter sessionId
    rw [logins_advance, if_pos hown] at hle
    have hpos := (h sessionId).mpr hconsumed
    omega
  · intro hunconsumed sessionId
    rw [logins_advance]
    split
    · next hown =>
      have hnone := mt (h sessionId).mp (hunconsumed sessionId hown)
      omega
    · next hother => exact hsingle sessionId

/-- **Single use.** Over all interleavings of the requests, a session gives one login at most
exactly as long as no login is completed on a session that is consumed. -/
theorem single_logins_iff (d : Deployment) (accounts : Store)
    (resetTokens : Table PasswordResetToken.id) {ι : Type} [DecidableEq ι]
    (turns : List (Turn ι Request Input)) :
    Throughout (protocol d).step (fun st => SingleLogins st.state)
        (.quiet (.start accounts resetTokens)) turns ↔
      Along (protocol d).step (Calls.StepMeets (CompletesUnconsumed d))
        (.quiet (.start accounts resetTokens)) turns :=
  (protocol d).throughout_iff (L := fun _ _ => True) (fun _ _ _ => trivial)
    (fun _ _ _ hG _ _ _ => hG.advance) (fun _ _ _ _ _ _ _ => trivial)
    (fun _ _ _ _ _ _ _ => trivial) (fun _ _ _ hG _ hI => singleLogins_advance hG hI)
    (start_loginsConsume accounts resetTokens) (fun _ => Nat.zero_le 1) turns

/-! ### Two logins with one session -/

namespace Example

/-- A one-way function under the digests is not needed here, nor a cipher; of HMAC-SHA-1 under the
key `12345678901234567890` the value at a counter of one. -/
def crypto : Crypto where
  sha256 := id
  hmacSha1 _ counter :=
    if counter = writeBigUInt64BE 1 then
      [0x75, 0xa4, 0x8a, 0x19, 0xd4, 0xcb, 0xe1, 0x00, 0x64, 0x4e, 0x8a, 0xc1, 0x39, 0x7e, 0xea,
        0x74, 0x7a, 0x2d, 0x33, 0xab]
    else List.replicate 20 0
  encrypt _ secret := .ok secret
  decrypt := .ok
  bcryptCompare password hash := password = hash
  bcryptHash _ password := password

def deployment : Deployment := { crypto, env := fun _ => none }

/-- What a step finds in the first minute, where a new row gets the id `newId`, and a new token is
the same text. -/
def finds (newId : String) : Input where
  now := 59000
  newId
  rawToken := newId
  secretBytes := "12345678901234567890".toList.map Char.toNat
  recoveryIds i := newId ++ Nat.repr i
  recoveryDraws i := "ABCDEFGHIJK" ++ String.singleton (base32Alphabet.getD i 'A')

def admin : User where
  id := "admin"
  email := some "admin@fixzone.ng"
  role := .superAdmin
  passwordHash := some "Password1"

def accounts : Store :=
  .ofUsers ⟨[admin], List.nodup_singleton _⟩ (Table.empty _)

/-- `steps` steps of the call of worker `i`. -/
def goOn (i steps : ℕ) (newId : String) : List (Turn ℕ Request Input) :=
  List.replicate steps (.advance i (finds newId))

/-- A login that ends with a session, and the start of an enrollment in it. -/
def enrolls : List (Turn ℕ Request Input) :=
  .start 0 (.login { email := some "admin@fixzone.ng", password := "Password1" }) ::
    goOn 0 3 "session" ++ .start 0 (.startMfaEnrollment "session") :: goOn 0 2 "enrollment"

/-- Two attempts to confirm the enrollment that check the code before either is through. -/
def confirmsTwice : List (Turn ℕ Request Input) :=
  enrolls ++ .start 1 (.confirmMfaEnrollment "session" "287082") ::
    .start 2 (.confirmMfaEnrollment "session" "287082") ::
    goOn 1 2 "first" ++ goOn 2 2 "second" ++ goOn 1 1 "first" ++ goOn 2 1 "second"

end Example

open Example in
/-- A session gives two logins, to two attempts to confirm its enrollment. -/
theorem session_logs_in_twice : ¬ ∀ (d : Deployment) (accounts : Store)
    (resetTokens : Table PasswordResetToken.id) (turns : List (Turn ℕ Request Input)),
    Throughout (protocol d).step (fun st => SingleLogins st.state)
      (.quiet (.start accounts resetTokens)) turns := by
  intro h
  have hlast := throughout_iff.mp (h deployment accounts (Table.empty _) confirmsTwice)
    confirmsTwice [] (List.append_nil _).symm "session"
  have htwo : (run (protocol deployment).step (.quiet (.start accounts (Table.empty _)))
      confirmsTwice).state.logins "session" = 2 := by
    decide +kernel
  omega

end FixZone.AuthService
