import FixZone.Auth.SingleUse
import FixZone.Library.Reservation

/-!
# Failed attempts at a second factor

An attempt at the second factor is let in while its session has counted fewer than `maxAttempts`
failures, and it counts its own failure in a step after the code was compared. In between it has
been let in and is not counted, so any number of attempts that are let in side by side have their
codes compared (`six_failures`).

What a session has counted and the attempts on it that are under way only grow together when an
attempt is let in. So a session sees no more than `maxAttempts` failures in the runs in which every
attempt that is let in finds room beside those that are under way (`failures_le_of_room`).
-/

namespace FixZone.AuthService

open Library Accounts PrivilegedMfaService

/-- The failures that a session has counted. -/
def failedAttempts (sessionId : String) (w : World) : ℕ :=
  (w.store.sessions.find? sessionId).elim 0 (·.failedAttempts)

/-- The session of an attempt that is let in and may still fail, or has failed and is not counted
yet. -/
def Call.attempt? : Call → Option PreAuthValidation
  | .confirmCode validated _ => some validated
  | .challenge validated _ _ => some validated
  | .consumeTotp validated _ _ => some validated
  | .findRecoveryCode validated _ _ => some validated
  | .consumeCode validated _ _ => some validated
  | .recordFailure validated => some validated
  | _ => none

/-- The session of an attempt that has failed and is not counted yet. -/
def Call.failed? : Call → Option PreAuthValidation
  | .recordFailure validated => some validated
  | _ => none

/-- One for a value about this session. -/
def onSession (sessionId : String) (validated : Option PreAuthValidation) : ℕ :=
  if validated.any (·.sessionId = sessionId) then 1 else 0

/-- The failure that a step finds: it has compared a code, and goes on to count the attempt. -/
def failure (d : Deployment) (input : Input) (call : Call) (w : World) :
    Option PreAuthValidation :=
  (advance d input w call).2.call?.bind Call.failed?

/-- The turn finds a failure on the session. -/
def findsFailure (d : Deployment) (sessionId : String) {ι : Type} (st : Calls World ι Call) :
    Turn ι Request Input → Bool
  | .start _ _ => false
  | .advance i input => (st.running i).any fun call =>
      (failure d input call st.state).any (·.sessionId = sessionId)

/-- The attempt that a step lets in. -/
def admission (d : Deployment) (input : Input) (call : Call) (w : World) :
    Option PreAuthValidation :=
  match call with
  | .request (.confirmMfaEnrollment preAuthToken _) =>
      (validatePreAuth d.crypto input.now w.store preAuthToken .enrollment).toOption
  | .request (.completeMfaChallenge preAuthToken _ _) =>
      (validatePreAuth d.crypto input.now w.store preAuthToken .challenge).toOption
  | _ => none

/-- An attempt that is let in finds fewer than `maxAttempts` on its session, those counted as
failures and those under way together. -/
def FindsRoom (d : Deployment) {ι : Type} [Fintype ι] (st : Calls World ι Call)
    (turn : Turn ι Request Input) : Prop :=
  st.StepMeets (fun input call w => ∀ validated ∈ admission d input call w,
    failedAttempts validated.sessionId w +
      st.reserved (fun call => onSession validated.sessionId call.attempt?) < maxAttempts) turn

instance (d : Deployment) {ι : Type} [Fintype ι] (st : Calls World ι Call)
    (turn : Turn ι Request Input) : Decidable (FindsRoom d st turn) :=
  Calls.StepMeets.decidable st turn

variable {d : Deployment} {input : Input} {w : World} {call call' : Call} {sessionId : String}
  {validated : PreAuthValidation}

/-! ### What a step does to attempts -/

/-- What a change of one session makes of the counts. -/
theorem counts_modify {t : Table PrivilegedMfaPreAuthSession.id} (own : String)
    (data : Patch PrivilegedMfaPreAuthSession.id) (n : ℕ)
    (hdata : ∀ row, (data.apply row).failedAttempts = row.failedAttempts + n)
    {row : PrivilegedMfaPreAuthSession} (hrow : t.find? sessionId = some row) :
    ∃ row', (t.modify own data).find? sessionId = some row' ∧
      row'.failedAttempts = row.failedAttempts + if own = sessionId then n else 0 := by
  rw [Table.find?_modify, hrow, Option.map_some]
  by_cases hown : sessionId = own
  · rw [if_pos hown, if_pos hown.symm]
    exact ⟨_, rfl, hdata row⟩
  · rw [if_neg hown, if_neg (Ne.symm hown)]
    exact ⟨row, rfl, rfl⟩

theorem failed?_eq_some_iff : call.failed? = some validated ↔ call = .recordFailure validated := by
  constructor
  · intro h
    cases call with
    | recordFailure own => exact congrArg _ (Option.some.inj h)
    | _ => cases h
  · rintro rfl
    rfl

/-- A session keeps its count through the steps that count no failure. -/
theorem session_kept {row : PrivilegedMfaPreAuthSession} (hfailed : call.failed? = none)
    (hrow : w.store.sessions.find? sessionId = some row) :
    ∃ row', (advance d input w call).1.store.sessions.find? sessionId = some row' ∧
      row'.failedAttempts = row.failedAttempts := by
  cases hcompletes : completion d input w call with
  | some happening =>
    obtain ⟨own, found, -, -, hsessions⟩ := completion_consumes hcompletes
    rw [advance_of_completion hcompletes, World.write, hsessions]
    obtain ⟨row', hrow', hcount⟩ := counts_modify own (consumedData input.now) 0 (fun _ => rfl) hrow
    rw [ite_self] at hcount
    exact ⟨row', hrow', hcount⟩
  | none =>
    have heffect := advance_effect hcompletes
    generalize (advance d input w call).1 = w' at heffect
    cases heffect with
    | opened user purpose epoch hfree => exact ⟨row, Table.find?_insert_of_some hrow, rfl⟩
    | failed validated => cases hfailed
    | _ => exact ⟨row, hrow, rfl⟩

/-- A session keeps its count, but for a failure that is counted. -/
theorem session_advance (d : Deployment) (input : Input) (call : Call)
    {row : PrivilegedMfaPreAuthSession}
    (hrow : w.store.sessions.find? sessionId = some row) :
    ∃ row', (advance d input w call).1.store.sessions.find? sessionId = some row' ∧
      row'.failedAttempts = row.failedAttempts + onSession sessionId call.failed? := by
  cases hfailed : call.failed? with
  | none => exact session_kept hfailed hrow
  | some validated =>
    obtain rfl := failed?_eq_some_iff.mp hfailed
    obtain ⟨row', hrow', hcount⟩ := counts_modify validated.sessionId
      (failedAttemptData input.now (maxAttempts ≤ validated.failedAttempts + 1)) 1 (fun _ => rfl)
      hrow
    refine ⟨row', hrow', hcount.trans ?_⟩
    simp only [onSession, Option.any_some, decide_eq_true_eq]

/-- A session that is opened has counted nothing. -/
theorem session_opened {row : PrivilegedMfaPreAuthSession}
    (hnone : w.store.sessions.find? sessionId = none)
    (hrow : (advance d input w call).1.store.sessions.find? sessionId = some row) :
    row.failedAttempts = 0 := by
  cases hcompletes : completion d input w call with
  | some happening =>
    obtain ⟨own, found, -, -, hsessions⟩ := completion_consumes hcompletes
    rw [advance_of_completion hcompletes, World.write, hsessions] at hrow
    obtain ⟨row', hrow', -⟩ := Table.find?_modify_cases hrow
    rw [hnone] at hrow'
    cases hrow'
  | none =>
    have heffect := advance_effect hcompletes
    generalize (advance d input w call).1 = w' at heffect hrow
    cases heffect with
    | opened user purpose epoch hfree =>
      rw [World.write, AuthStore.insertSession, Table.find?_insert_of_free hfree] at hrow
      split at hrow
      · rw [← Option.some.inj hrow]
        rfl
      · rw [hnone] at hrow
        cases hrow
    | failed validated =>
      obtain ⟨row', hrow', -⟩ := Table.find?_modify_cases hrow
      rw [hnone] at hrow'
      cases hrow'
    | _ => exact absurd (hrow.symm.trans hnone) (Option.some_ne_none _)

/-- The session of an attempt is there. -/
def SessionThere (call : Call) (w : World) : Prop :=
  ∀ validated, call.attempt? = some validated →
    (w.store.sessions.find? validated.sessionId).isSome

variable (d input sessionId) in
/-- A failure is counted for its session. -/
theorem failedAttempts_advance (hthere : SessionThere call w) :
    failedAttempts sessionId (advance d input w call).1 =
      failedAttempts sessionId w + onSession sessionId call.failed? := by
  unfold failedAttempts
  cases hrow : w.store.sessions.find? sessionId with
  | some row =>
    obtain ⟨row', hrow', hcount⟩ := session_advance d input call hrow
    rw [hrow']
    exact hcount
  | none =>
    have hother : onSession sessionId call.failed? = 0 := by
      cases hfailed : call.failed? with
      | none => rfl
      | some validated =>
        rw [failed?_eq_some_iff] at hfailed
        subst hfailed
        have hsome := hthere validated rfl
        refine if_neg fun hsession => ?_
        rw [Option.any_some, decide_eq_true_eq] at hsession
        rw [hsession, hrow] at hsome
        cases hsome
    rw [hother]
    cases hrow' : (advance d input w call).1.store.sessions.find? sessionId with
    | none => rfl
    | some row' => exact session_opened hrow hrow'

/-- A session stays. -/
theorem SessionThere.advance (hthere : SessionThere call' w) :
    SessionThere call' (advance d input w call).1 := by
  intro validated hattempt
  obtain ⟨row, hrow⟩ := Option.isSome_iff_exists.mp (hthere validated hattempt)
  obtain ⟨row', hrow', -⟩ := session_advance d input call hrow
  exact Option.isSome_iff_exists.mpr ⟨row', hrow'⟩

/-- An attempt that fails was under way, and had not failed before. -/
theorem attempt_of_failure (h : (advance d input w call).2 = .goesOn (.recordFailure validated)) :
    call.attempt? = some validated ∧ call.failed? = none := by
  cases call with
  | request request =>
    cases request with
    | login dto =>
      obtain ⟨user, -, h⟩ := orThrows_goesOn h
      split at h <;> cases h
    | firebaseLogin dto =>
      obtain ⟨citizen, -, h⟩ := orThrows_goesOn h
      cases citizen <;> cases h
    | startMfaEnrollment preAuthToken =>
      obtain ⟨own, -, h⟩ := orThrows_goesOn h
      cases h
    | confirmMfaEnrollment preAuthToken code =>
      obtain ⟨own, -, h⟩ := orThrows_goesOn h
      cases h
    | completeMfaChallenge preAuthToken method code =>
      obtain ⟨own, -, h⟩ := orThrows_goesOn h
      cases h
    | completePasswordReset token password =>
      rw [advance, requestStep] at h
      obtain ⟨record, -, h⟩ := orThrows_goesOn h
      cases h
    | revokeSessions actorId targetUserId reason =>
      rw [advance, requestStep, withActor] at h
      split at h
      · cases h
      · obtain ⟨profileData, -, h⟩ := orThrows_goesOn h
        cases h
    | account actorId operation =>
      rw [advance, requestStep, withActor] at h
      split at h <;> cases h
  | createPreAuthSession user epoch =>
    rw [advance, createPreAuthSessionStep] at h
    split at h <;> cases h
  | storeSession user purpose epoch =>
    obtain ⟨s, -, h⟩ := orThrows_goesOn h
    cases h
  | storeEnrollment own =>
    obtain ⟨secret, -, h⟩ := orThrows_goesOn h
    obtain ⟨s, -, h⟩ := orThrows_goesOn h
    cases h
  | confirmCode own code =>
    rw [advance, confirmCodeStep] at h
    split at h
    · cases h
      exact ⟨rfl, rfl⟩
    · obtain ⟨matched, -, h⟩ := orThrows_goesOn h
      cases matched <;> cases h
      exact ⟨rfl, rfl⟩
  | activate own enrollmentId step =>
    obtain ⟨s, -, h⟩ := orThrows_goesOn h
    cases h
  | challenge own method code =>
    rw [advance, challengeStep] at h
    split at h
    · cases h
      exact ⟨rfl, rfl⟩
    · cases method with
      | totp =>
        obtain ⟨matched, -, h⟩ := orThrows_goesOn h
        cases matched with
        | none =>
          cases h
          exact ⟨rfl, rfl⟩
        | some step =>
          dsimp only at h
          split at h <;> cases h
          exact ⟨rfl, rfl⟩
      | recoveryCode => cases h
  | consumeTotp own enrollmentId step =>
    obtain ⟨⟨s, consumed⟩, -, h⟩ := orThrows_goesOn h
    cases consumed <;> cases h
    exact ⟨rfl, rfl⟩
  | findRecoveryCode own enrollmentId codeDigest =>
    rw [advance, findRecoveryCodeStep] at h
    split at h
    · split at h <;> cases h
      exact ⟨rfl, rfl⟩
    · cases h
      exact ⟨rfl, rfl⟩
  | consumeCode own enrollmentId backupCode =>
    obtain ⟨⟨s, consumed⟩, -, h⟩ := orThrows_goesOn h
    cases consumed <;> cases h
    exact ⟨rfl, rfl⟩
  | recordFailure own => cases h
  | issue issuer user epoch recoveryCodes => cases h
  | storePassword record passwordHash =>
    obtain ⟨s, -, h⟩ := orThrows_goesOn h
    cases h
  | storeRevocation targetUserId profileData =>
    obtain ⟨accounts, -, h⟩ := orThrows_goesOn h
    cases h

/-- What goes on as an attempt was one that had not failed, or is let in. -/
theorem attempt_of_goes (h : (advance d input w call).2 = .goesOn call')
    (hattempt : call'.attempt? = some validated) :
    call.attempt? = some validated ∧ call.failed? = none ∨
      admission d input call w = some validated := by
  cases hfailed : call'.failed? with
  | some own =>
    obtain rfl := failed?_eq_some_iff.mp hfailed
    cases hattempt
    exact .inl (attempt_of_failure h)
  | none =>
    cases advance_goes h with
    | confirmMfaEnrollment preAuthToken code own hvalid =>
      cases hattempt
      exact .inr (by rw [admission, hvalid]; rfl)
    | completeMfaChallenge preAuthToken method code own hvalid =>
      cases hattempt
      exact .inr (by rw [admission, hvalid]; rfl)
    | consumeTotp own code enrollment step hactive => exact .inl ⟨hattempt, rfl⟩
    | findRecoveryCode own code enrollment hactive => exact .inl ⟨hattempt, rfl⟩
    | consumeCode own enrollmentId codeDigest backupCode => exact .inl ⟨hattempt, rfl⟩
    | recordFailure own validated => cases hfailed
    | _ => cases hattempt

/-- An attempt that is let in is on a session that is there. -/
theorem session_of_admission (h : admission d input call w = some validated) :
    (w.store.sessions.find? validated.sessionId).isSome := by
  unfold admission at h
  split at h
  · obtain ⟨session, hsession, -⟩ := validatePreAuth_eq_ok (eq_ok_of_toOption h)
    exact Option.isSome_iff_exists.mpr ⟨session, hsession⟩
  · obtain ⟨session, hsession, -⟩ := validatePreAuth_eq_ok (eq_ok_of_toOption h)
    exact Option.isSome_iff_exists.mpr ⟨session, hsession⟩
  · cases h

/-! ### Counting -/

/-- A value that counts is one about this session. -/
theorem of_onSession_ne_zero {found : Option PreAuthValidation}
    (h : onSession sessionId found ≠ 0) :
    ∃ validated, found = some validated ∧ onSession sessionId found = 1 ∧
      validated.sessionId = sessionId := by
  cases found with
  | none => exact absurd rfl h
  | some validated =>
    rw [onSession, Option.any_some, ite_ne_right_iff, decide_eq_true_eq] at h
    exact ⟨validated, rfl, if_pos (decide_eq_true h.1), h.1⟩

theorem failed_le_attempt (sessionId : String) (call : Call) :
    onSession sessionId call.failed? ≤ onSession sessionId call.attempt? := by
  cases hfailed : call.failed? with
  | none => exact Nat.zero_le _
  | some validated =>
    obtain rfl := failed?_eq_some_iff.mp hfailed
    exact le_rfl

/-- A call that goes on holds what it held and did not give up, or what it was let in with. -/
theorem attempt_next (sessionId : String) (d : Deployment) (input : Input) (call : Call)
    (w : World) :
    (advance d input w call).2.call?.elim 0 (fun next => onSession sessionId next.attempt?) +
        onSession sessionId call.failed? ≤
      onSession sessionId call.attempt? + onSession sessionId (admission d input call w) := by
  cases hnext : (advance d input w call).2 with
  | returns answer =>
    have hle := failed_le_attempt sessionId call
    rw [Next.call?, Option.elim_none]
    omega
  | goesOn call' =>
    rw [Next.call?, Option.elim_some]
    cases hattempt : call'.attempt? with
    | none =>
      have hle := failed_le_attempt sessionId call
      rw [onSession, Option.any_none, if_neg Bool.false_ne_true]
      omega
    | some validated =>
      rcases attempt_of_goes hnext hattempt with ⟨hsame, hfailed⟩ | hadmitted
      · rw [hsame, hfailed]
        exact Nat.le_add_right _ _
      · have hle := failed_le_attempt sessionId call
        rw [hadmitted]
        omega

theorem goesOn_of_failure (h : failure d input call w = some validated) :
    (advance d input w call).2 = .goesOn (.recordFailure validated) := by
  obtain ⟨next, hnext, hfailed⟩ := Option.bind_eq_some_iff.mp h
  rw [failed?_eq_some_iff.mp hfailed] at hnext
  cases hresult : (advance d input w call).2 with
  | returns answer =>
    rw [hresult] at hnext
    cases hnext
  | goesOn call' =>
    rw [hresult] at hnext
    exact congrArg _ (Option.some.inj hnext)

/-- A call goes on to count a failure exactly where it has found one. -/
theorem failed_next (sessionId : String) (d : Deployment) (input : Input) (call : Call)
    (w : World) :
    (advance d input w call).2.call?.elim 0 (fun next => onSession sessionId next.failed?) =
      onSession sessionId (failure d input call w) := by
  unfold failure
  cases (advance d input w call).2.call? with
  | none => rfl
  | some call' => rfl

variable {ι : Type} [DecidableEq ι] [Fintype ι] {st : Calls World ι Call}
  {turn : Turn ι Request Input} {i : ι}

/-- What is kept for a session: what it has counted and the attempts under way have room. -/
structure HasRoom (sessionId : String) (st : Calls World ι Call) : Prop where
  room : failedAttempts sessionId st.state +
    st.reserved (fun call => onSession sessionId call.attempt?) ≤ maxAttempts
  there : st.Meets (fun _ => True) SessionThere

theorem HasRoom.step (h : HasRoom sessionId st) (hroom : FindsRoom d st turn) :
    HasRoom sessionId ((protocol d).step turn st) := by
  refine ⟨(protocol d).step_reserved h.room (fun _ => rfl) ?_,
    h.there.step (protocol d) ?_ ?_ ?_ ?_⟩
  · intro i input call hadvances
    have hcount := failedAttempts_advance d input sessionId
      (h.there.calls i call hadvances.running)
    have hnext := attempt_next sessionId d input call st.state
    have hfailed := failed_le_attempt sessionId call
    dsimp only [protocol]
    by_cases hadmitted : onSession sessionId (admission d input call st.state) = 0
    · left
      omega
    · -- The attempt is let in by a request, which held nothing.
      right
      obtain ⟨validated, hvalidated, hone, rfl⟩ := of_onSession_ne_zero hadmitted
      have hfound := hroom i input call hadvances validated hvalidated
      have hbesides := Calls.reserved_eq (fun call => onSession validated.sessionId call.attempt?)
        st i
      rw [hadvances.heldBy] at hbesides
      omega
  · intro request validated hattempt
    cases hattempt
  · exact fun _ _ _ _ => trivial
  · intro i input call hadvances call' hnext validated hattempt
    have hsession : SessionThere call' st.state := by
      intro own hown
      rcases attempt_of_goes hnext hown with ⟨hsame, -⟩ | hadmitted
      · exact h.there.calls i call hadvances.running own hsame
      · exact session_of_admission hadmitted
    exact hsession.advance validated hattempt
  · exact fun i input call hadvances call' hthere => hthere.advance

/-- What has been found of a session: the failures it has counted and those it is yet to count. -/
def failuresFound (sessionId : String) (st : Calls World ι Call) : ℕ :=
  failedAttempts sessionId st.state + st.reserved (fun call => onSession sessionId call.failed?)

/-- A step of a call adds the failure that it finds. -/
theorem failuresFound_advance (hthere : st.Meets (fun _ => True) SessionThere) {input : Input}
    (h : st.Advances turn i input call) :
    failuresFound sessionId ((protocol d).step turn st) =
      failuresFound sessionId st + onSession sessionId (failure d input call st.state) := by
  have hcount := failedAttempts_advance d input sessionId
    (hthere.calls i call h.running)
  have hfailed : ((protocol d).advance input call st.state).2.call?.elim 0
      (fun next => onSession sessionId next.failed?) =
      onSession sessionId (failure d input call st.state) :=
    failed_next sessionId d input call st.state
  have hheld := (protocol d).reserved_advance (fun call => onSession sessionId call.failed?) h
  have hstate : ((protocol d).step turn st).state = (advance d input st.state call).1 := by
    rw [(protocol d).step_of_advances h]
    rfl
  unfold failuresFound
  rw [hstate]
  omega

omit [DecidableEq ι] [Fintype ι] in
/-- A failure is found by a step. -/
theorem advances_of_findsFailure (h : findsFailure d sessionId st turn = true) :
    ∃ i input call, st.Advances turn i input call ∧
      onSession sessionId (failure d input call st.state) = 1 := by
  cases turn with
  | start i request => cases h
  | advance i input =>
    obtain ⟨call, hrunning, hfailure⟩ := (Option.any_eq_true _ _).mp h
    exact ⟨i, input, call, ⟨rfl, hrunning⟩, if_pos hfailure⟩

/-- No turn takes a failure back. -/
theorem failuresFound_le (hthere : st.Meets (fun _ => True) SessionThere) :
    failuresFound sessionId st ≤ failuresFound sessionId ((protocol d).step turn st) := by
  obtain ⟨i, request, rfl, hstep⟩ | ⟨i, input, call, hadvances⟩ | ⟨-, hstep⟩ :=
    (protocol d).step_cases st turn
  · have hheld : ((protocol d).step (.start i request : Turn ι Request Input) st).reserved
        (fun call => onSession sessionId call.failed?) =
      st.reserved (fun call => onSession sessionId call.failed?) := (protocol d).reserved_start rfl
    rw [failuresFound, failuresFound, hheld, hstep]
  · rw [failuresFound_advance hthere hadvances]
    exact Nat.le_add_right _ _
  · rw [hstep]

/-- A failure is found while there is room for one. -/
theorem failuresFound_lt (h : HasRoom sessionId st) {input : Input}
    (hadvances : st.Advances turn i input call)
    (hfailure : onSession sessionId (failure d input call st.state) = 1) :
    failuresFound sessionId st < maxAttempts := by
  obtain ⟨validated, hfound, -, rfl⟩ := of_onSession_ne_zero (hfailure ▸ Nat.one_ne_zero)
  obtain ⟨hattempt, hfailed⟩ := attempt_of_failure (goesOn_of_failure hfound)
  -- The call that fails holds room and has not failed; the others have failed at most as often as
  -- they hold room.
  have hroom := h.room
  have hattempts := Calls.reserved_eq (fun call => onSession validated.sessionId call.attempt?) st i
  have hfailures := Calls.reserved_eq (fun call => onSession validated.sessionId call.failed?) st i
  have hbesides := st.reservedBesides_mono (failed_le_attempt validated.sessionId) i
  rw [hadvances.heldBy, hattempt] at hattempts
  rw [hadvances.heldBy, hfailed] at hfailures
  have hown : onSession validated.sessionId (some validated) = 1 := if_pos (decide_eq_true rfl)
  have hnone : onSession validated.sessionId none = 0 := rfl
  unfold failuresFound
  omega

/-- **Lockout.** In every interleaving in which each attempt that is let in finds room on its
session beside those under way, a session sees `maxAttempts` failures at most. -/
theorem failures_le_of_room (d : Deployment) (accounts : Store)
    (resetTokens : Table PasswordResetToken.id) {ι : Type} [DecidableEq ι] [Fintype ι]
    (turns : List (Turn ι Request Input))
    (h : Along (protocol d).step (FindsRoom d) (.quiet (.start accounts resetTokens)) turns)
    (sessionId : String) :
    countAlong (protocol d).step (findsFailure d sessionId) (.quiet (.start accounts resetTokens))
      turns ≤ maxAttempts := by
  have hstart : HasRoom sessionId (.quiet (.start accounts resetTokens) : Calls World ι Call) := by
    refine ⟨?_, Calls.quiet_meets trivial⟩
    rw [Calls.reserved_quiet]
    exact Nat.zero_le _
  have hkept := h.with_inv (I := HasRoom sessionId) (fun st turn hI hroom => hI.step hroom) hstart
  have hle : countAlong (protocol d).step (findsFailure d sessionId)
      (.quiet (.start accounts resetTokens)) turns ≤
        maxAttempts - failuresFound sessionId
          (.quiet (.start accounts resetTokens) : Calls World ι Call) := by
    refine countAlong_le ?_ ?_ hkept
    · rintro st turn ⟨hI, -⟩ hfinds
      obtain ⟨i, input, call, hadvances, hfailure⟩ := advances_of_findsFailure hfinds
      rw [failuresFound_advance hI.there hadvances, hfailure]
      exact ⟨failuresFound_lt hI hadvances hfailure, le_rfl⟩
    · exact fun st turn hst => failuresFound_le hst.1.there
  exact hle.trans (Nat.sub_le _ _)

/-! ### Guesses side by side -/

namespace Example

/-- Six workers, one of which logs in and starts an enrollment. -/
def starts : List (Turn (Fin 6) Request Input) :=
  .start 0 (.login { email := some "admin@fixzone.ng", password := "Password1" }) ::
    List.replicate 3 (.advance 0 (finds "session")) ++
    .start 0 (.startMfaEnrollment "session") ::
    List.replicate 2 (.advance 0 (finds "enrollment"))

def guess (i : Fin 6) : Turn (Fin 6) Request Input :=
  .start i (.confirmMfaEnrollment "session" "111111")

/-- Each guess is counted before the next one is let in, which the last is not. -/
def guessesInTurn : List (Turn (Fin 6) Request Input) :=
  starts ++ (List.finRange 6).flatMap fun i =>
    guess i :: List.replicate 3 (.advance i (finds "guess"))

/-- All six guesses are let in before one of them is compared. -/
def guessesAtOnce : List (Turn (Fin 6) Request Input) :=
  starts ++ (List.finRange 6).map guess ++
    (List.finRange 6 ++ List.finRange 6).map fun i => .advance i (finds "guess")

/-- The guesses of a run that were compared and failed. -/
def failures (turns : List (Turn (Fin 6) Request Input)) : ℕ :=
  countAlong (protocol deployment).step (findsFailure deployment "session")
    (.quiet (.start accounts (Table.empty _))) turns

end Example

open Example in
theorem guessesInTurn_failures : failures guessesInTurn = 5 ∧
    countAlong (protocol deployment).step (findsFailure deployment "session")
      (.quiet (.start accounts (Table.empty _))) guessesInTurn ≤ maxAttempts :=
  ⟨by decide +kernel, failures_le_of_room deployment accounts (Table.empty _) guessesInTurn
    (by decide +kernel) "session"⟩

open Example in
/-- A session sees six failures. -/
theorem six_failures : ¬ ∀ (d : Deployment) (accounts : Store)
    (resetTokens : Table PasswordResetToken.id) (turns : List (Turn (Fin 6) Request Input))
    (sessionId : String),
    countAlong (protocol d).step (findsFailure d sessionId)
      (.quiet (.start accounts resetTokens)) turns ≤ maxAttempts := by
  intro h
  have hsix : failures guessesAtOnce = 6 := by decide +kernel
  have hfive : failures guessesAtOnce ≤ 5 := h deployment accounts (Table.empty _) guessesAtOnce
    "session"
  omega

end FixZone.AuthService
