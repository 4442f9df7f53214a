import FixZone.Auth.SingleUse

/-!
# No code twice

An enrollment remembers the last time step whose code was accepted, and a challenge takes
a later one only, in the update that records it. The confirmation of an enrollment accepts
a code too, but it clears what is remembered. So the steps accepted for an enrollment
increase exactly as long as a step that is accepted while none is remembered is later than
those accepted before (`accepted_steps_iff`): the confirmation itself, and the first
challenge after it.
-/

namespace FixZone.AuthService

open Library Accounts PrivilegedMfaService

/-- The enrollment and the time step whose code was accepted. -/
def Happening.accepted? : Happening → Option (String × ℕ)
  | .activated _ _ enrollmentId step => some (enrollmentId, step)
  | .challenged _ _ (.totp enrollmentId step) => some (enrollmentId, step)
  | _ => none

/-- The time steps accepted for an enrollment, the last one first. -/
def World.acceptedSteps (w : World) (enrollmentId : String) : List ℕ :=
  w.history.filterMap fun happening =>
    (happening.accepted?.filter (·.1 = enrollmentId)).map Prod.snd

/-- For each enrollment, every accepted step is later than all accepted before. -/
def StepsIncrease (w : World) : Prop :=
  ∀ enrollmentId, (w.acceptedSteps enrollmentId).Pairwise fun later earlier => earlier < later

/-- The `lastVerifiedStep` of an enrollment. -/
def lastVerifiedStep (enrollments : Table PrivilegedMfaEnrollment.id) (enrollmentId : String) :
    Option ℕ :=
  (enrollments.find? enrollmentId).bind (·.lastVerifiedStep)

/-- No accepted step is later than the one an enrollment remembers. -/
def LastIsLatest (w : World) : Prop :=
  ∀ enrollmentId last, lastVerifiedStep w.store.enrollments enrollmentId = some last →
    ∀ step ∈ w.acceptedSteps enrollmentId, step ≤ last

/-- A step accepts no code of a time step that is not later than all that were accepted for its
enrollment, where it does not compare it: at a confirmation, and where none is remembered. -/
def AcceptsLater (d : Deployment) (input : Input) (call : Call) (w : World) : Prop :=
  ∀ happening, completion d input w call = some happening →
    match happening with
    | .activated _ _ enrollmentId step =>
        ∀ earlier ∈ w.acceptedSteps enrollmentId, earlier < step
    | .challenged _ _ (.totp enrollmentId step) =>
        lastVerifiedStep w.store.enrollments enrollmentId = none →
        ∀ earlier ∈ w.acceptedSteps enrollmentId, earlier < step
    | _ => True

variable {d : Deployment} {input : Input} {w : World} {call : Call}

/-! ### What a step does to enrollments and to what was accepted -/

theorem acceptedSteps_write (s : AuthStore) (happening : Happening) (enrollmentId : String) :
    (w.write s happening).acceptedSteps enrollmentId =
      ((happening.accepted?.filter (·.1 = enrollmentId)).map Prod.snd).toList ++
        w.acceptedSteps enrollmentId := by
  unfold World.acceptedSteps World.write
  rw [List.filterMap_cons]
  split
  · next hnone => rw [hnone]; rfl
  · next step hsome => rw [hsome]; rfl

theorem lastVerifiedStep_modify {enrollments : Table PrivilegedMfaEnrollment.id} {own : String}
    {row : PrivilegedMfaEnrollment} (hrow : enrollments.find? own = some row)
    (data : Patch PrivilegedMfaEnrollment.id) (enrollmentId : String) :
    lastVerifiedStep (enrollments.modify own data) enrollmentId =
      if enrollmentId = own then (data.apply row).lastVerifiedStep
      else lastVerifiedStep enrollments enrollmentId := by
  unfold lastVerifiedStep
  rw [Table.find?_modify]
  split
  · next hown => rw [hown, hrow]; rfl
  · rfl

/-- A new enrollment remembers nothing, and what it replaces keeps what it remembers. -/
theorem lastVerifiedStep_startedStore {now : Millis} {s : AuthStore}
    {row : PrivilegedMfaEnrollment} (hfree : s.enrollments.find? row.id = none)
    (hnew : row.lastVerifiedStep = none) (enrollmentId : String) :
    lastVerifiedStep (startedStore now s row).enrollments enrollmentId =
      lastVerifiedStep s.enrollments enrollmentId := by
  have hfree' : (replacePending now s row.userId).find? row.id = none :=
    Table.find?_modifyWhere_eq_none hfree _ _
  unfold lastVerifiedStep startedStore
  rw [Table.find?_insert_of_free hfree']
  split
  · next hid => rw [hid, hfree, Option.bind_some, hnew, Option.bind_none]
  · rw [replacePending, Table.find?_modifyWhere]
    cases s.enrollments.find? enrollmentId with
    | none => rfl
    | some found =>
      dsimp only [Option.map_some, Option.bind_some]
      split <;> rfl

/-- Where no login is completed, nothing is accepted and every enrollment remembers what it did. -/
theorem advance_of_no_completion (h : completion d input w call = none) (enrollmentId : String) :
    (advance d input w call).1.acceptedSteps enrollmentId = w.acceptedSteps enrollmentId ∧
      lastVerifiedStep (advance d input w call).1.store.enrollments enrollmentId =
        lastVerifiedStep w.store.enrollments enrollmentId := by
  have heffect := advance_effect h
  generalize (advance d input w call).1 = w' at heffect
  cases heffect with
  | started validated row hid huser hpending hunverified hfree =>
    exact ⟨acceptedSteps_write _ _ _, lastVerifiedStep_startedStore hfree hunverified enrollmentId⟩
  | opened => exact ⟨acceptedSteps_write _ _ _, rfl⟩
  | issued => exact ⟨acceptedSteps_write _ _ _, rfl⟩
  | password => exact ⟨acceptedSteps_write _ _ _, rfl⟩
  | revocation => exact ⟨acceptedSteps_write _ _ _, rfl⟩
  | _ => exact ⟨rfl, rfl⟩

theorem acceptedSteps_accept {own : String} {step : ℕ} {happening : Happening} (s : AuthStore)
    (h : happening.accepted? = some (own, step)) (enrollmentId : String) :
    (w.write s happening).acceptedSteps enrollmentId =
      if enrollmentId = own then step :: w.acceptedSteps enrollmentId
      else w.acceptedSteps enrollmentId := by
  rw [acceptedSteps_write, h]
  split
  · next heq => rw [heq, Option.filter_some_pos (by simp)]; rfl
  · next hne => rw [Option.filter_some_neg (by simpa using Ne.symm hne)]; rfl

/-! ### Increasing steps -/

theorem stepsIncrease_accept {own : String} {step : ℕ} {happening : Happening} (s : AuthStore)
    (haccepted : happening.accepted? = some (own, step)) (h : StepsIncrease w) :
    StepsIncrease (w.write s happening) ↔ ∀ earlier ∈ w.acceptedSteps own, earlier < step := by
  constructor
  · intro h'
    have hpairwise := h' own
    rw [acceptedSteps_accept s haccepted, if_pos rfl, List.pairwise_cons] at hpairwise
    exact hpairwise.1
  · intro hlater enrollmentId
    rw [acceptedSteps_accept s haccepted]
    split
    · next heq =>
      rw [heq, List.pairwise_cons]
      exact ⟨hlater, h own⟩
    · exact h enrollmentId

/-- A challenge compares its step with all that were accepted, if one is remembered. -/
theorem later_of_stepIsNew {enrollmentId : String} {step last : ℕ} (h : LastIsLatest w)
    (hnew : stepIsNew w.store enrollmentId step)
    (hlast : lastVerifiedStep w.store.enrollments enrollmentId = some last) :
    ∀ earlier ∈ w.acceptedSteps enrollmentId, earlier < step := by
  intro earlier hmem
  have hle := h enrollmentId last hlast earlier hmem
  obtain ⟨row, hrow, hrowLast⟩ := Option.bind_eq_some_iff.mp hlast
  rw [stepIsNew, hrow, Option.any_some, hrowLast, Option.all_some, decide_eq_true_eq] at hnew
  omega

theorem stepsIncrease_advance (h : LastIsLatest w) (hincrease : StepsIncrease w) :
    StepsIncrease (advance d input w call).1 ↔ AcceptsLater d input call w := by
  unfold AcceptsLater
  cases hcompletes : completion d input w call with
  | none =>
    refine iff_of_true (fun enrollmentId => ?_) fun happening hsome => by cases hsome
    rw [(advance_of_no_completion hcompletes enrollmentId).1]
    exact hincrease enrollmentId
  | some happening =>
    rw [advance_of_completion hcompletes]
    simp only [Option.some.injEq, forall_eq']
    cases completes_of_completion hcompletes with
    | activated validated enrollmentId step hfound hsession =>
      exact stepsIncrease_accept _ rfl hincrease
    | totp validated enrollmentId step hnew hsession =>
      rw [stepsIncrease_accept _ rfl hincrease]
      dsimp only
      cases hlast : lastVerifiedStep w.store.enrollments enrollmentId with
      | none => exact ⟨fun hlater _ => hlater, fun hlater => hlater rfl⟩
      | some last =>
        exact iff_of_true (later_of_stepIsNew h hnew hlast) fun hnone => by cases hnone
    | recoveryCode validated enrollmentId backupCode hunused hsession =>
      refine iff_of_true (fun enrollmentId => ?_) trivial
      rw [acceptedSteps_write]
      exact hincrease enrollmentId

/-- What an enrollment remembers after a step is still the latest, if the steps increase. -/
theorem LastIsLatest.advance (h : LastIsLatest w) (hbefore : StepsIncrease w)
    (hincrease : StepsIncrease (advance d input w call).1) :
    LastIsLatest (advance d input w call).1 := by
  intro enrollmentId last hlast
  cases hcompletes : completion d input w call with
  | none =>
    obtain ⟨hsteps, hsame⟩ := advance_of_no_completion hcompletes enrollmentId
    rw [hsame] at hlast
    rw [hsteps]
    exact h enrollmentId last hlast
  | some happening =>
    rw [advance_of_completion hcompletes] at hincrease hlast ⊢
    cases completes_of_completion hcompletes with
    | activated validated own step hfound hsession =>
      obtain ⟨row, hrow⟩ := Option.isSome_iff_exists.mp hfound
      have hlast' : lastVerifiedStep (w.store.enrollments.modify own (activatedData input.now))
          enrollmentId = some last := hlast
      rw [lastVerifiedStep_modify hrow] at hlast'
      rw [acceptedSteps_accept _ rfl]
      split
      · next hown => rw [if_pos hown] at hlast'; cases hlast'
      · next hother => exact h enrollmentId last (by rwa [if_neg hother] at hlast')
    | totp validated own step hnew hsession =>
      obtain ⟨row, hrow, -⟩ := (Option.any_eq_true _ _).mp hnew
      have hlast' : lastVerifiedStep (w.store.enrollments.modify own (verifiedData step))
          enrollmentId = some last := hlast
      rw [lastVerifiedStep_modify hrow] at hlast'
      rw [acceptedSteps_accept _ rfl]
      split
      · next hown =>
        rw [if_pos hown] at hlast'
        obtain rfl : step = last := Option.some.inj hlast'
        have hlater := (stepsIncrease_accept _ rfl hbefore).mp hincrease
        rw [hown, List.forall_mem_cons]
        exact ⟨le_refl step, fun earlier hmem => (hlater earlier hmem).le⟩
      · next hother => exact h enrollmentId last (by rwa [if_neg hother] at hlast')
    | recoveryCode validated own backupCode hunused hsession =>
      rw [acceptedSteps_write]
      exact h enrollmentId last hlast

theorem start_lastIsLatest (accounts : Store) (resetTokens : Table PasswordResetToken.id) :
    LastIsLatest (.start accounts resetTokens) :=
  fun _ _ hlast => by cases hlast

/-- **No replay.** Over all interleavings of the requests, the time steps accepted for every
enrollment increase exactly as long as a step that is accepted without a comparison is later than
those before. -/
theorem accepted_steps_iff (d : Deployment) (accounts : Store)
    (resetTokens : Table PasswordResetToken.id) {ι : Type} [DecidableEq ι]
    (turns : List (Turn ι Request Input)) :
    Throughout (protocol d).step (fun st => StepsIncrease st.state)
        (.quiet (.start accounts resetTokens)) turns ↔
      Along (protocol d).step (Calls.StepMeets (AcceptsLater d))
        (.quiet (.start accounts resetTokens)) turns :=
  (protocol d).throughout_iff (L := fun _ _ => True) (fun _ _ _ => trivial)
    (fun _ _ _ hG _ hI hI' => hG.advance hI hI') (fun _ _ _ _ _ _ _ => trivial)
    (fun _ _ _ _ _ _ _ => trivial) (fun _ _ _ hG _ hI => stepsIncrease_advance hG hI)
    (start_lastIsLatest accounts resetTokens) (fun _ => List.Pairwise.nil) turns

/-! ### The code of a confirmation -/

namespace Example

/-- The enrollment is confirmed, and its tokens are issued. -/
def confirms : List (Turn ℕ Request Input) :=
  enrolls ++ .start 0 (.confirmMfaEnrollment "session" "287082") :: goOn 0 4 "first"

/-- The code of the confirmation is sent again, to complete another login. -/
def sendsCodeAgain : List (Turn ℕ Request Input) :=
  confirms ++
    .start 0 (.login { email := some "admin@fixzone.ng", password := "Password1" }) ::
    goOn 0 3 "again" ++ .start 0 (.completeMfaChallenge "again" .totp "287082") :: goOn 0 3 ""

end Example

open Example in
/-- The code that confirmed an enrollment completes the next login too. -/
theorem confirming_code_accepted_again : ¬ ∀ (d : Deployment) (accounts : Store)
    (resetTokens : Table PasswordResetToken.id) (turns : List (Turn ℕ Request Input)),
    Throughout (protocol d).step (fun st => StepsIncrease st.state)
      (.quiet (.start accounts resetTokens)) turns := by
  intro h
  have hlast := throughout_iff.mp (h deployment accounts (Table.empty _) sendsCodeAgain)
    sendsCodeAgain [] (List.append_nil _).symm "enrollment"
  have htwice : (run (protocol deployment).step (.quiet (.start accounts (Table.empty _)))
      sendsCodeAgain).state.acceptedSteps "enrollment" = [1, 1] := by
    decide +kernel
  rw [htwice] at hlast
  exact absurd hlast (by decide)

end FixZone.AuthService
