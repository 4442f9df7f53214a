import FixZone.Auth.Replay
import FixZone.Library.Observed
import FixZone.Library.OneTimeCodes

/-!
# A recovery code logs in once

A challenge with a recovery code reads the active enrollment, looks the code up, and uses it in a
transaction that asks again for everything the lookup found. A confirmation replaces all codes of
its user. So whatever calls run side by side, what a run does to recovery codes is a run of the
machine of one-time codes (`codeEvents_allowed`): the codes that can still be used are those of the
rows without `usedAt`, and the interleavings of the requests refine it.

From what holds of the machine, each code completes one login at most, of the user and with the
enrollment it was issued for, and none after a later confirmation (`recovery_code_once`).
-/

namespace FixZone.AuthService

open Library Accounts PrivilegedMfaService

/-- What a recovery code is issued as: its digest, and the enrollment it belongs to. -/
structure IssuedCode where
  enrollmentId : String
  digest : String
  deriving DecidableEq

/-- The code of a row. -/
def issuedCode (row : PrivilegedMfaBackupCode) : IssuedCode := ⟨row.enrollmentId, row.codeDigest⟩

section Events

variable (d : Deployment)

/-- What a step does to recovery codes, where it completes a login: a confirmation issues new ones
to the user, and a challenge uses one. -/
def codeEvent (input : Input) (call : Call) (w : World) : Option (CodeEvent String IssuedCode) :=
  (completion d input w call).bind fun _ =>
    match call with
    | .activate validated enrollmentId _ =>
      some (.issue validated.user.id
        ((newCodes d input validated.user.id enrollmentId).map issuedCode))
    | .consumeCode validated enrollmentId backupCode =>
      some (.use validated.user.id ⟨enrollmentId, backupCode.codeDigest⟩)
    | _ => none

variable {ι : Type} [DecidableEq ι]

/-- What a turn does to recovery codes. -/
def turnCodeEvent (st : Calls World ι Call) :
    Turn ι Request Input → Option (CodeEvent String IssuedCode)
  | .start _ _ => none
  | .advance i input => (st.running i).bind fun call => codeEvent d input call st.state

/-- What the turns of an interleaving do to recovery codes, one after the other. -/
def codeEvents (st : Calls World ι Call) (turns : List (Turn ι Request Input)) :
    List (CodeEvent String IssuedCode) :=
  observed (protocol d).step (turnCodeEvent d) st turns

/-- How many logins were completed with a recovery code. -/
def World.codeLogins (w : World) : ℕ :=
  w.history.countP fun
    | .challenged _ _ (.recoveryCode _ _) => true
    | _ => false

/-- After some events a code of a user was issued last of all to that user, or was there unused at
the start, and since then has neither been used nor been replaced. -/
def StillGood (codes : Table PrivilegedMfaBackupCode.id) (userId : String) (code : IssuedCode)
    (events : List (CodeEvent String IssuedCode)) : Prop :=
  (∃ before new after, events = before ++ .issue userId new :: after ∧ code ∈ new ∧
    ∀ event ∈ after, event.Keeps userId code) ∨
  (∃ row ∈ codes.rows, row.usedAt = none ∧ row.userId = userId ∧ issuedCode row = code) ∧
    ∀ event ∈ events, event.Keeps userId code

end Events

/-- The codes that can be used, with their users. -/
def openCodes (codes : Table PrivilegedMfaBackupCode.id) : Set (String × IssuedCode) :=
  {x | ∃ row ∈ codes.rows, row.usedAt = none ∧ x = (row.userId, issuedCode row)}

/-- The digests of codes are unique, as the schema declares them. -/
def DigestsUnique (codes : Table PrivilegedMfaBackupCode.id) : Prop :=
  (codes.rows.map PrivilegedMfaBackupCode.codeDigest).Nodup

variable {d : Deployment} {input : Input} {w : World} {call : Call}
  {codes : Table PrivilegedMfaBackupCode.id} {userId enrollmentId : String}

/-! ### What is done to the stored codes -/

/-- The codes of a user are replaced by a confirmation. -/
theorem openCodes_replaced {new : List PrivilegedMfaBackupCode}
    (hnew : codesAreNew (codes.deleteWhere fun row => row.userId = userId) new)
    (hown : ∀ row ∈ new, row.userId = userId ∧ row.usedAt = none) :
    openCodes ((codes.deleteWhere fun row => row.userId = userId).insertAll new) =
      (CodeEvent.issue userId (new.map issuedCode)).next (openCodes codes) := by
  ext ⟨user, code⟩
  unfold openCodes
  rw [Table.rows_insertAll hnew.1]
  constructor
  · rintro ⟨row, hmem, hunused, heq⟩
    obtain ⟨rfl, rfl⟩ := Prod.mk.inj heq
    rcases List.mem_append.mp hmem with hold | hfresh
    · obtain ⟨hrow, hother⟩ := List.mem_filter.mp hold
      exact .inl ⟨by simpa using hother, row, hrow, hunused, rfl⟩
    · exact .inr ⟨(hown row hfresh).1, List.mem_map_of_mem hfresh⟩
  · rintro (⟨hother, row, hrow, hunused, heq⟩ | ⟨hsame, hcode⟩)
    · obtain ⟨rfl, rfl⟩ := Prod.mk.inj heq
      refine ⟨row, List.mem_append_left _ (List.mem_filter.mpr ⟨hrow, ?_⟩), hunused, rfl⟩
      simpa using hother
    · obtain ⟨row, hfresh, rfl⟩ := List.mem_map.mp hcode
      obtain ⟨huser, hunused⟩ := hown row hfresh
      refine ⟨row, List.mem_append_right _ hfresh, hunused, ?_⟩
      rw [huser]
      exact congrArg (·, _) hsame

/-- The code of a challenge was open, and is no more. -/
theorem openCodes_used (hunique : DigestsUnique codes) {used : PrivilegedMfaBackupCode}
    (hfound : codes.find? used.id = some used) (hunused : used.usedAt = none) (now : Millis) :
    openCodes (codes.modify used.id (usedData now)) =
      (CodeEvent.use used.userId (issuedCode used)).next (openCodes codes) := by
  have hmodified : ∀ row ∈ codes.rows, row ≠ used →
      Table.patchAt used.id (usedData now) row = row := by
    intro row hmem hne
    refine if_neg fun hsame => hne ?_
    exact Option.some.inj ((Table.mem_rows_iff.mp hmem).symm.trans (hsame ▸ hfound))
  have hclosed : (Table.patchAt used.id (usedData now) used).usedAt = some now := by
    rw [Table.patchAt, if_pos rfl, usedData]
  ext ⟨user, code⟩
  constructor
  · rintro ⟨_, hpatched, hunusedRow, heq⟩
    obtain ⟨row, hmem, rfl⟩ := List.mem_map.mp hpatched
    have hne : row ≠ used := by
      rintro rfl
      rw [hclosed] at hunusedRow
      cases hunusedRow
    rw [hmodified row hmem hne] at hunusedRow heq
    refine ⟨⟨row, hmem, hunusedRow, heq⟩, fun hsame => hne ?_⟩
    have hdigests : row.codeDigest = used.codeDigest :=
      congrArg (fun x : String × IssuedCode => x.2.digest) (heq.symm.trans hsame)
    exact List.inj_on_of_nodup_map hunique hmem (Table.mem_of_find? hfound) hdigests
  · rintro ⟨⟨row, hmem, hunusedRow, heq⟩, hother⟩
    have hne : row ≠ used := by
      rintro rfl
      exact hother heq
    exact ⟨row, List.mem_map.mpr ⟨row, hmem, hmodified row hmem hne⟩, hunusedRow, heq⟩

/-- The row that the update of a challenge finds. -/
theorem codeIsUnused_iff {s : AuthStore} {backupCode : PrivilegedMfaBackupCode} :
    codeIsUnused s userId enrollmentId backupCode = true ↔
      ∃ used, s.backupCodes.find? used.id = some used ∧ used.usedAt = none ∧
        used.id = backupCode.id ∧ used.userId = userId ∧
        issuedCode used = ⟨enrollmentId, backupCode.codeDigest⟩ := by
  unfold codeIsUnused issuedCode
  rw [Option.any_eq_true]
  simp only [Bool.and_eq_true, decide_eq_true_eq, IssuedCode.mk.injEq]
  constructor
  · rintro ⟨used, hfound, ⟨⟨hdigest, huser⟩, henrollment⟩, hunused⟩
    have hid : used.id = backupCode.id := Table.key_of_find? hfound
    exact ⟨used, hid ▸ hfound, hunused, hid, huser, henrollment, hdigest⟩
  · rintro ⟨used, hfound, hunused, hid, huser, henrollment, hdigest⟩
    exact ⟨used, hid ▸ hfound, ⟨⟨hdigest, huser⟩, henrollment⟩, hunused⟩

/-! ### What a step does -/

theorem backupCodes_of_no_completion (h : completion d input w call = none) :
    (advance d input w call).1.store.backupCodes = w.store.backupCodes := by
  have heffect := advance_effect h
  generalize (advance d input w call).1 = w' at heffect
  cases heffect <;> rfl

/-- The steps that complete a login, by what they do to recovery codes. -/
inductive CodeStep (d : Deployment) (input : Input) (w : World) :
    Option (CodeEvent String IssuedCode) → Table PrivilegedMfaBackupCode.id → Prop where
  | nothing : CodeStep d input w none w.store.backupCodes
  | replaced (userId : String) (new : List PrivilegedMfaBackupCode)
      (fresh : codesAreNew (w.store.backupCodes.deleteWhere fun row => row.userId = userId) new)
      (own : ∀ row ∈ new, row.userId = userId ∧ row.usedAt = none) :
      CodeStep d input w (some (.issue userId (new.map issuedCode)))
        ((w.store.backupCodes.deleteWhere fun row => row.userId = userId).insertAll new)
  | used (row : PrivilegedMfaBackupCode) (found : w.store.backupCodes.find? row.id = some row)
      (unused : row.usedAt = none) :
      CodeStep d input w (some (.use row.userId (issuedCode row)))
        (w.store.backupCodes.modify row.id (usedData input.now))

/-- Every step is one of these. -/
theorem codeStep : CodeStep d input w (codeEvent d input call w)
    (advance d input w call).1.store.backupCodes := by
  unfold codeEvent
  cases hcompletes : completion d input w call with
  | none =>
    rw [backupCodes_of_no_completion hcompletes]
    exact .nothing
  | some happening =>
    rw [advance_of_completion hcompletes, Option.bind_some, World.write]
    unfold completion at hcompletes
    split at hcompletes
    · next validated enrollmentId step =>
      obtain ⟨⟨-, hnew, -⟩, -⟩ := Option.ite_none_right_eq_some.mp hcompletes
      dsimp only [completedStore, activatedStore, AuthStore.updateSession]
      refine .replaced validated.user.id _ hnew fun row hmem => ?_
      obtain ⟨code, -, rfl⟩ := List.mem_map.mp hmem
      exact ⟨rfl, rfl⟩
    · exact .nothing
    · next validated enrollmentId backupCode =>
      obtain ⟨⟨hunused, -⟩, -⟩ := Option.ite_none_right_eq_some.mp hcompletes
      obtain ⟨row, hfound, hopen, hid, huser, hcode⟩ := codeIsUnused_iff.mp hunused
      have hused := @CodeStep.used d input w row hfound hopen
      rw [huser, hcode, hid] at hused
      exact hused
    · cases hcompletes

theorem digestsUnique_advance (h : DigestsUnique w.store.backupCodes) :
    DigestsUnique (advance d input w call).1.store.backupCodes := by
  have hstep := @codeStep d input w call
  generalize codeEvent d input call w = event at hstep
  generalize (advance d input w call).1.store.backupCodes = after at hstep
  unfold DigestsUnique at h ⊢
  cases hstep with
  | nothing => exact h
  | replaced userId new hfresh hown =>
    rw [Table.rows_insertAll hfresh.1, List.map_append]
    exact hfresh.2
  | used row hfound hunused =>
    have hdigest : ∀ other : PrivilegedMfaBackupCode,
        (Table.patchAt row.id (usedData input.now) other).codeDigest = other.codeDigest := by
      intro other
      unfold Table.patchAt
      split <;> rfl
    rw [Table.modify, List.map_map]
    exact (List.map_congr_left fun other _ => hdigest other) ▸ h

/-- **Refinement.** A step does to the codes that can be used what the machine of one-time codes
does, which allows it. -/
theorem step_simulates (h : DigestsUnique w.store.backupCodes) :
    Simulates CodeEvent.next CodeEvent.Allowed (openCodes w.store.backupCodes)
      (openCodes (advance d input w call).1.store.backupCodes) (codeEvent d input call w) := by
  have hstep := @codeStep d input w call
  generalize codeEvent d input call w = event at hstep
  generalize (advance d input w call).1.store.backupCodes = after at hstep
  cases hstep with
  | nothing => exact rfl
  | replaced userId new hfresh hown => exact ⟨trivial, openCodes_replaced hfresh hown⟩
  | used row hfound hunused =>
    exact ⟨⟨row, Table.mem_of_find? hfound, hunused, rfl⟩, openCodes_used h hfound hunused _⟩

/-! ### Interleavings -/

section Runs

variable {ι : Type} [DecidableEq ι]

/-- A turn does nothing to recovery codes and logins, or is a step of a call. -/
theorem turn_cases (st : Calls World ι Call) (turn : Turn ι Request Input) :
    (turnCodeEvent d st turn = none ∧ ((protocol d).step turn st).state = st.state) ∨
      ∃ i input call, turnCodeEvent d st turn = codeEvent d input call st.state ∧
        (protocol d).step turn st = ⟨(advance d input st.state call).1,
          Function.update st.running i (advance d input st.state call).2.call?⟩ := by
  obtain ⟨i, request, rfl, hstep⟩ | ⟨i, input, call, hadvances⟩ | ⟨hnone, hstep⟩ :=
    (protocol d).step_cases st turn
  · exact .inl ⟨rfl, by rw [hstep]⟩
  · refine .inr ⟨i, input, call, ?_, (protocol d).step_of_advances hadvances⟩
    obtain ⟨rfl, hrunning⟩ := hadvances
    rw [turnCodeEvent, hrunning, Option.bind_some]
  · refine .inl ⟨?_, by rw [hstep]⟩
    cases turn with
    | start i request => rfl
    | advance i input =>
      rw [turnCodeEvent, Option.bind_eq_none_iff]
      exact fun call hrunning => absurd ⟨rfl, hrunning⟩ (hnone i input call)

theorem digestsUnique_step (st : Calls World ι Call) (turn : Turn ι Request Input)
    (h : DigestsUnique st.state.store.backupCodes) :
    DigestsUnique ((protocol d).step turn st).state.store.backupCodes := by
  obtain ⟨-, hstep⟩ | ⟨i, input, call, -, hstep⟩ := turn_cases (d := d) st turn
  · rwa [hstep]
  · rw [hstep]
    exact digestsUnique_advance h

theorem turn_simulates (st : Calls World ι Call) (turn : Turn ι Request Input)
    (h : DigestsUnique st.state.store.backupCodes) :
    Simulates CodeEvent.next CodeEvent.Allowed (openCodes st.state.store.backupCodes)
      (openCodes ((protocol d).step turn st).state.store.backupCodes)
      (turnCodeEvent d st turn) := by
  obtain ⟨hevent, hstep⟩ | ⟨i, input, call, hevent, hstep⟩ := turn_cases (d := d) st turn
  · rw [hevent, hstep]
    exact rfl
  · rw [hevent, hstep]
    exact step_simulates h

/-- What an interleaving does to recovery codes is a run of the machine of one-time codes. -/
theorem codeEvents_allowed {st : Calls World ι Call}
    (h : DigestsUnique st.state.store.backupCodes) (turns : List (Turn ι Request Input)) :
    Along CodeEvent.next CodeEvent.Allowed (openCodes st.state.store.backupCodes)
      (codeEvents d st turns) :=
  along_observed digestsUnique_step turn_simulates h turns

/-! ### Logins -/

theorem codeLogins_advance : (advance d input w call).1.codeLogins = w.codeLogins +
    ((codeEvent d input call w).bind CodeEvent.used?).toList.length := by
  unfold codeEvent
  cases hcompletes : completion d input w call with
  | none =>
    have heffect := advance_effect hcompletes
    generalize (advance d input w call).1 = w' at heffect
    cases heffect with
    | _ => simp [World.codeLogins, World.write, World.setAccounts]
  | some happening =>
    rw [advance_of_completion hcompletes, Option.bind_some]
    cases completes_of_completion hcompletes with
    | _ => simp [World.codeLogins, World.write, CodeEvent.used?]

/-- The logins completed with recovery codes are the uses. -/
theorem codeLogins_run (st : Calls World ι Call) (turns : List (Turn ι Request Input)) :
    (run (protocol d).step st turns).state.codeLogins =
      st.state.codeLogins + ((codeEvents d st turns).filterMap CodeEvent.used?).length := by
  induction turns generalizing st with
  | nil => rfl
  | cons turn turns ih =>
    have hturn : ((protocol d).step turn st).state.codeLogins = st.state.codeLogins +
        ((turnCodeEvent d st turn).bind CodeEvent.used?).toList.length := by
      obtain ⟨hevent, hstep⟩ | ⟨i, input, call, hevent, hstep⟩ := turn_cases (d := d) st turn
      · rw [hevent, hstep]
        rfl
      · rw [hevent, hstep]
        exact codeLogins_advance
    have hcons : (codeEvents d st (turn :: turns)).filterMap CodeEvent.used? =
        ((turnCodeEvent d st turn).bind CodeEvent.used?).toList ++
          (codeEvents d ((protocol d).step turn st) turns).filterMap CodeEvent.used? := by
      rw [codeEvents, observed_cons, List.filterMap_append]
      cases turnCodeEvent d st turn with
      | none => rfl
      | some event => cases event <;> rfl
    rw [run_cons, ih, hturn, hcons, List.length_append, Nat.add_assoc]

/-- **One login a code.** Let the digests of the codes that are stored at first, and of those that
are generated, be distinct. Over all interleavings of the requests, the logins completed with a
recovery code are its uses; no code is used twice; and a code is used by a user only while it is
one of the last that were issued to that user, under its enrollment. -/
theorem recovery_code_once (d : Deployment) (w : World) (turns : List (Turn ι Request Input))
    (hapart : (w.store.backupCodes.rows.map PrivilegedMfaBackupCode.codeDigest ++
      ((codeEvents d (.quiet w) turns).flatMap CodeEvent.issued).map
        IssuedCode.digest).Nodup) :
    (run (protocol d).step (.quiet w) turns).state.codeLogins = w.codeLogins +
        ((codeEvents d (.quiet w) turns).filterMap CodeEvent.used?).length ∧
      (((codeEvents d (.quiet w) turns).filterMap CodeEvent.used?).map
        IssuedCode.digest).Nodup ∧
      ∀ before userId code after,
        codeEvents d (.quiet w) turns = before ++ .use userId code :: after →
        StillGood w.store.backupCodes userId code before := by
  obtain ⟨hunique, hissued, hnew⟩ := List.nodup_append.mp hapart
  have hallowed := @codeEvents_allowed d ι _ (.quiet w) hunique turns
  refine ⟨codeLogins_run (.quiet w) turns, ?_, fun before userId code after hsplit => ?_⟩
  · refine CodeEvent.uses_nodup IssuedCode.digest hallowed ?_ hissued ?_
    · rintro _ ⟨row, hrow, -, rfl⟩ _ ⟨row', hrow', -, rfl⟩ heq
      obtain rfl : row = row' := List.inj_on_of_nodup_map hunique hrow hrow' heq
      rfl
    · rintro _ ⟨row, hrow, -, rfl⟩ hmem
      exact hnew _ (List.mem_map_of_mem hrow) _ hmem rfl
  · rw [hsplit] at hallowed
    have hopen : (userId, code) ∈ run CodeEvent.next (openCodes w.store.backupCodes) before :=
      (along_append.mp hallowed).2.1
    rcases CodeEvent.mem_run_iff.mp hopen with hlast | ⟨⟨row, hrow, hunused, heq⟩, hkept⟩
    · exact .inl hlast
    · obtain ⟨rfl, rfl⟩ := Prod.mk.inj heq
      exact .inr ⟨⟨row, hrow, hunused, rfl, rfl⟩, hkept⟩

end Runs

/-! ### A login with a recovery code -/

namespace Example

/-- The first recovery code is sent, to complete another login. -/
def sendsRecoveryCode : List (Turn ℕ Request Input) :=
  confirms ++
    .start 0 (.login { email := some "admin@fixzone.ng", password := "Password1" }) ::
    goOn 0 3 "again" ++
    .start 0 (.completeMfaChallenge "again" .recoveryCode "abcd-efgh-ijka") :: goOn 0 5 ""

end Example

open Example in
/-- A code that was issued completes a login. -/
theorem issued_code_logs_in :
    (codeEvents deployment (.quiet (.start accounts (Table.empty _)))
      sendsRecoveryCode).filterMap CodeEvent.used? = [⟨"enrollment", "ABCDEFGHIJKA"⟩] ∧
    (((codeEvents deployment (.quiet (.start accounts (Table.empty _)))
      sendsRecoveryCode).filterMap CodeEvent.used?).map IssuedCode.digest).Nodup := by
  -- both are read off one evaluation of the run
  obtain ⟨hused, happart⟩ : (codeEvents deployment (.quiet (.start accounts (Table.empty _)))
        sendsRecoveryCode).filterMap CodeEvent.used? = [⟨"enrollment", "ABCDEFGHIJKA"⟩] ∧
      ((World.start accounts (Table.empty _)).store.backupCodes.rows.map
        PrivilegedMfaBackupCode.codeDigest ++
          ((codeEvents deployment (.quiet (.start accounts (Table.empty _)))
            sendsRecoveryCode).flatMap CodeEvent.issued).map IssuedCode.digest).Nodup := by
    decide +kernel
  exact ⟨hused, (recovery_code_once deployment (.start accounts (Table.empty _))
    sendsRecoveryCode happart).2.1⟩

end FixZone.AuthService
