import FixZone.Report.Closure

/-!
# The pass over the review windows

`processCompletionReviewDeadlines` as it answers. It visits the candidates in turn, skips
those that something speaks against, and closes the others, or lists them when it runs
dry. `processCompletionReviewDeadlines_pass` says that the pass writes what the method
writes; the answers of the two kinds of run are compared in `deadline_dry_run_predicts`.
-/

namespace FixZone.ReportService

open Library

variable (env : Env) (s : Store) (user : JwtUser)

/-- `counts`. -/
structure DeadlineCounts where
  eligible : ℕ := 0
  blockedByDispute : ℕ := 0
  blockedByRework : ℕ := 0
  blockedByHold : ℕ := 0
  alreadyProcessed : ℕ := 0
  alreadyClosed : ℕ := 0
  notYetDue : ℕ := 0
  invalidIncomplete : ℕ := 0
  processed : ℕ := 0
  skipped : ℕ := 0
  deriving DecidableEq

/-- An entry of `skipped`. -/
structure SkippedReport where
  id : String
  reason : String
  deriving DecidableEq

/-- What the pass has written and listed so far. -/
structure DeadlinePass where
  store : Store
  processed : List String := []
  skipped : List SkippedReport := []
  counts : DeadlineCounts := {}

/-- The answer of `processCompletionReviewDeadlines`. -/
structure DeadlineAnswer where
  processedCount : ℕ
  skippedCount : ℕ
  counts : DeadlineCounts
  processed : List String
  skipped : List SkippedReport
  dryRun : Bool

/-- Why the pass skips a candidate, if it does. -/
def deadlineSkip (report : Report) : Option String :=
  match report.completionReviewDeadlineAt with
  | none => some "missing_deadline"
  | some deadline =>
    if env.now < deadline then some "not_yet_due"
    else match completionDeadlineSkipReason report with
      | some skipReason => some skipReason
      | none => if report.status ≠ .completedByProvider then some "not_awaiting_review" else none

/-- The count a skipped candidate falls under. -/
def DeadlineCounts.skip (counts : DeadlineCounts) (reason : String) : DeadlineCounts :=
  if reason = "missing_deadline" ∨ reason = "not_awaiting_review" then
    { counts with invalidIncomplete := counts.invalidIncomplete + 1 }
  else if reason = "not_yet_due" then { counts with notYetDue := counts.notYetDue + 1 }
  else if reason = "active_dispute" then
    { counts with blockedByDispute := counts.blockedByDispute + 1 }
  else if reason = "active_rework" then
    { counts with blockedByRework := counts.blockedByRework + 1 }
  else if reason = "governance_hold" then
    { counts with blockedByHold := counts.blockedByHold + 1 }
  else if reason = "already_processed" then
    { counts with alreadyProcessed := counts.alreadyProcessed + 1 }
  else if reason = "already_closed" then
    { counts with alreadyClosed := counts.alreadyClosed + 1 }
  else counts

namespace DeadlinePass

variable (pass : DeadlinePass) (report : Report)

/-- `continue`, with a reason. -/
def skip (reason : String) : DeadlinePass where
  store := pass.store
  processed := pass.processed
  skipped := pass.skipped ++ [⟨report.id, reason⟩]
  counts := pass.counts.skip reason

/-- A candidate that is due. -/
def eligible : DeadlinePass :=
  { pass with counts := { pass.counts with eligible := pass.counts.eligible + 1 } }

/-- A candidate that a dry run lists. -/
def list : DeadlinePass := { pass with processed := pass.processed ++ [report.id] }

/-- A candidate that has been closed. -/
def close (store : Store) : DeadlinePass where
  store := store
  processed := pass.processed ++ [report.id]
  skipped := pass.skipped
  counts := { pass.counts with processed := pass.counts.processed + 1 }

end DeadlinePass

/-- The write by which the pass closes a report. -/
def deadlineClose (report : Report) : Action :=
  .update report.id (some .completedByProvider) (deadlineCloseData env user)
    (deadlineCloseEffects user)

/-- The loop over the candidates, up to the first exception. -/
def deadlineLoop (dryRun : Bool) (pass : DeadlinePass) :
    List Report → DeadlinePass × Option HttpError
  | [] => (pass, none)
  | report :: candidates =>
    match deadlineSkip env report with
    | some reason => deadlineLoop dryRun (pass.skip report reason) candidates
    | none =>
      if dryRun then deadlineLoop dryRun (pass.eligible.list report) candidates
      else
        let closed := perform env pass.store (deadlineClose env user report)
        match closed.error with
        | some e => ({ pass.eligible with store := closed.store }, some e)
        | none => deadlineLoop dryRun (pass.eligible.close report closed.store) candidates

/-- The guards of `processCompletionReviewDeadlines`. -/
def deadlineGuards (dto : ProcessDeadlinesDto) : Except HttpError PUnit := do
  throwIf (user.role ∉ [UserRole.superAdmin, .complianceAdmin, .regulatoryAdmin])
    (forbidden "Platform completion processing required")
  if !dto.dryRun then
    let _ ← requiredGovernanceReason dto.reason

/-- `processCompletionReviewDeadlines`: what it leaves in the store, and what it answers. -/
def processDeadlines (dto : ProcessDeadlinesDto) : Store × Except HttpError DeadlineAnswer :=
  match deadlineGuards user dto with
  | .error e => (s, .error e)
  | .ok _ =>
    let (pass, error) :=
      deadlineLoop env user dto.dryRun { store := s } (deadlineCandidates s dto.limit)
    match error with
    | some e => (pass.store, .error e)
    | none => (pass.store, .ok {
        processedCount := pass.processed.length
        skippedCount := pass.skipped.length
        counts := { pass.counts with skipped := pass.skipped.length }
        processed := pass.processed
        skipped := pass.skipped
        dryRun := dto.dryRun })

variable {env s user}

/-! ### The loop -/

/-- The pass closes the candidates that it does not skip. -/
theorem deadlineSkip_eq_none {r : Report} : deadlineSkip env r = none ↔ deadlineEligible env r := by
  unfold deadlineSkip deadlineEligible
  cases hdeadline : r.completionReviewDeadlineAt with
  | none => simp
  | some deadline =>
    by_cases hdue : env.now < deadline
    · simp [hdue]
    · cases hskip : completionDeadlineSkipReason r with
      | some skipReason => simp [hdue]
      | none => simp [hdue, Int.not_lt.mp hdue]

theorem ineligible_of_deadlineSkip {r : Report} {reason : String}
    (h : deadlineSkip env r = some reason) : deadlineEligible env r = false := by
  rw [Bool.eq_false_iff, ne_eq, ← deadlineSkip_eq_none, h]
  simp

/-- The entries the pass adds to `skipped`. -/
def skippedReports (env : Env) (candidates : List Report) : List SkippedReport :=
  candidates.filterMap fun report => (deadlineSkip env report).map (SkippedReport.mk report.id)

/-- The writes of the pass. -/
def deadlineWrites (env : Env) (user : JwtUser) (dryRun : Bool) (candidates : List Report) :
    List Action :=
  if dryRun then [] else (candidates.filter (deadlineEligible env)).map (deadlineClose env user)

/-- The loop makes its writes, and throws where they do. -/
theorem deadlineLoop_writes (dryRun : Bool) (pass : DeadlinePass) (candidates : List Report) :
    (deadlineLoop env user dryRun pass candidates).1.store =
        (performAll env (deadlineWrites env user dryRun candidates) pass.store).store ∧
      (deadlineLoop env user dryRun pass candidates).2 =
        (performAll env (deadlineWrites env user dryRun candidates) pass.store).error := by
  induction candidates generalizing pass with
  | nil => cases dryRun <;> exact ⟨rfl, rfl⟩
  | cons report candidates ih =>
    cases hskip : deadlineSkip env report with
    | some reason =>
      have hineligible := ineligible_of_deadlineSkip hskip
      have hwrites : deadlineWrites env user dryRun (report :: candidates) =
          deadlineWrites env user dryRun candidates := by
        simp [deadlineWrites, hineligible]
      rw [hwrites]
      simp only [deadlineLoop, hskip]
      exact ih (pass.skip report reason)
    | none =>
      have heligible := deadlineSkip_eq_none.mp hskip
      cases dryRun with
      | true =>
        simp only [deadlineLoop, hskip, if_true]
        exact ih (pass.eligible.list report)
      | false =>
        have hwrites : deadlineWrites env user false (report :: candidates) =
            deadlineClose env user report :: deadlineWrites env user false candidates := by
          simp [deadlineWrites, heligible]
        rw [hwrites, performAll]
        simp only [deadlineLoop, hskip, Outcome.andThen, Bool.false_eq_true, if_false]
        cases herror : (perform env pass.store (deadlineClose env user report)).error with
        | some e => exact ⟨rfl, herror.symm⟩
        | none => exact ih (pass.eligible.close report _)

/-- A loop that does not throw lists every candidate once, where it belongs. -/
theorem deadlineLoop_lists {dryRun : Bool} {pass : DeadlinePass} {candidates : List Report}
    (h : (deadlineLoop env user dryRun pass candidates).2 = none) :
    (deadlineLoop env user dryRun pass candidates).1.processed =
        pass.processed ++ (candidates.filter (deadlineEligible env)).map (·.id) ∧
      (deadlineLoop env user dryRun pass candidates).1.skipped =
        pass.skipped ++ skippedReports env candidates := by
  induction candidates generalizing pass with
  | nil => exact ⟨(List.append_nil _).symm, (List.append_nil _).symm⟩
  | cons report candidates ih =>
    cases hskip : deadlineSkip env report with
    | some reason =>
      have hineligible := ineligible_of_deadlineSkip hskip
      simp only [deadlineLoop, hskip] at h ⊢
      obtain ⟨hprocessed, hskipped⟩ := ih h
      rw [List.filter_cons_of_neg (by simp [hineligible])]
      exact ⟨hprocessed, hskipped.trans (by simp [skippedReports, DeadlinePass.skip, hskip])⟩
    | none =>
      have heligible := deadlineSkip_eq_none.mp hskip
      have hskips : skippedReports env (report :: candidates) = skippedReports env candidates := by
        simp [skippedReports, hskip]
      rw [hskips, List.filter_cons_of_pos heligible, List.map_cons]
      simp only [deadlineLoop, hskip] at h ⊢
      cases dryRun with
      | true =>
        simp only [if_true] at h ⊢
        obtain ⟨hprocessed, hskipped⟩ := ih h
        exact ⟨hprocessed.trans (List.append_assoc ..), hskipped⟩
      | false =>
        simp only [Bool.false_eq_true, if_false] at h ⊢
        cases herror : (perform env pass.store (deadlineClose env user report)).error with
        | some e =>
          rw [herror] at h
          cases h
        | none =>
          simp only [herror] at h ⊢
          obtain ⟨hprocessed, hskipped⟩ := ih h
          exact ⟨hprocessed.trans (List.append_assoc ..), hskipped⟩

/-! ### The method -/

/-- The staff that may process the review windows. -/
def ProcessesDeadlines (user : JwtUser) : Prop :=
  user.role = .superAdmin ∨ user.role = .complianceAdmin ∨ user.role = .regulatoryAdmin

theorem deadlineGuards_eq_ok {dto : ProcessDeadlinesDto} {u : PUnit} :
    deadlineGuards user dto = .ok u ↔
      ProcessesDeadlines user ∧ (dto.dryRun ∨ trim dto.reason ≠ "") := by
  unfold deadlineGuards
  rw [throwIf_bind_eq_ok]
  refine and_congr (by simp [ProcessesDeadlines, or_iff_not_imp_left]) ?_
  cases hdry : dto.dryRun with
  | true => simp [pure_eq_ok]
  | false =>
    simp only [Bool.not_false, if_true, bind_eq_ok, requiredGovernanceReason_eq_ok, pure_eq_ok]
    simp

/-- The pass of a run that gets past the guards does not throw. -/
theorem deadlineLoop_error (env : Env) (s : Store) (user : JwtUser) (dryRun : Bool) (limit : ℕ) :
    (deadlineLoop env user dryRun { store := s } (deadlineCandidates s limit)).2 = none := by
  rw [(deadlineLoop_writes dryRun _ _).2]
  cases dryRun with
  | true => rfl
  | false =>
    exact performAll_updates_error env (some .completedByProvider)
      (fun _ => deadlineCloseData env user)
      (nodup_deadlineClosures env s limit) (fun _ => awaiting_of_mem_deadlineClosures)

/-- What a run that gets past the guards answers. -/
def deadlineAnswer (env : Env) (user : JwtUser) (s : Store) (dto : ProcessDeadlinesDto) :
    DeadlineAnswer where
  processedCount := (deadlineClosures env s dto.limit).length
  skippedCount := (skippedReports env (deadlineCandidates s dto.limit)).length
  counts :=
    { (deadlineLoop env user dto.dryRun { store := s }
        (deadlineCandidates s dto.limit)).1.counts with
      skipped := (skippedReports env (deadlineCandidates s dto.limit)).length }
  processed := (deadlineClosures env s dto.limit).map (·.id)
  skipped := skippedReports env (deadlineCandidates s dto.limit)
  dryRun := dto.dryRun

/-- A run that gets past the guards lists the candidates it closes, or would close, and those it
skips. -/
theorem processDeadlines_eq {dto : ProcessDeadlinesDto} {u : PUnit}
    (h : deadlineGuards user dto = .ok u) :
    processDeadlines env s user dto =
      ((performAll env
      (deadlineWrites env user dto.dryRun (deadlineCandidates s dto.limit)) s).store,
        .ok (deadlineAnswer env user s dto)) := by
  have herror := deadlineLoop_error env s user dto.dryRun dto.limit
  obtain ⟨hprocessed, hskipped⟩ := deadlineLoop_lists herror
  rw [List.nil_append] at hprocessed hskipped
  unfold processDeadlines
  simp only [h, herror, hprocessed, hskipped, (deadlineLoop_writes dto.dryRun _ _).1]
  simp only [deadlineAnswer, deadlineClosures, List.length_map]

/-- The pass writes what the method writes. -/
theorem processCompletionReviewDeadlines_pass (cfg : Config) (env : Env) (s : Store)
    (user : JwtUser) (dto : ProcessDeadlinesDto) :
    (execute cfg env s user (.processCompletionReviewDeadlines dto)).store =
      (processDeadlines env s user dto).1 := by
  cases hguards : deadlineGuards user dto with
  | ok u =>
    obtain ⟨hrole, hreason⟩ := deadlineGuards_eq_ok.mp hguards
    have hread : readCall cfg env s user (.processCompletionReviewDeadlines dto) =
        .ok (deadlineWrites env user dto.dryRun (deadlineCandidates s dto.limit)) := by
      refine processCompletionReviewDeadlines_eq_ok.mpr ⟨hrole, ?_⟩
      cases hdry : dto.dryRun with
      | true => exact .inl ⟨rfl, rfl⟩
      | false => exact .inr ⟨rfl, by simpa [hdry] using hreason, rfl⟩
    rw [processDeadlines_eq hguards, execute, hread]
    rfl
  | error e =>
    have hrefused : ∀ actions, readCall cfg env s user (.processCompletionReviewDeadlines dto) ≠
        .ok actions := by
      intro actions hread
      obtain ⟨hrole, hrun⟩ := processCompletionReviewDeadlines_eq_ok.mp hread
      have hpassed : deadlineGuards user dto = .ok ⟨⟩ :=
        deadlineGuards_eq_ok.mpr ⟨hrole, hrun.imp And.left fun h => h.2.1⟩
      rw [hguards] at hpassed
      cases hpassed
    rw [processDeadlines, hguards, execute]
    cases hread : readCall cfg env s user (.processCompletionReviewDeadlines dto) with
    | ok actions => exact absurd hread (hrefused actions)
    | error e => rfl

/-- An answer that accounts for every candidate once. -/
structure DeadlineAnswer.Partitions (answer : DeadlineAnswer) (candidates : List Report) :
    Prop where
  distinct : (candidates.map (·.id)).Nodup
  parted : (answer.processed ++ answer.skipped.map (·.id)).Perm (candidates.map (·.id))
  processedCount : answer.processedCount = answer.processed.length
  skippedCount : answer.skippedCount = answer.skipped.length

theorem skippedReports_ids (env : Env) (candidates : List Report) :
    (skippedReports env candidates).map (·.id) =
      (candidates.filter fun r => !deadlineEligible env r).map (·.id) := by
  induction candidates with
  | nil => rfl
  | cons report candidates ih =>
    cases hskip : deadlineSkip env report with
    | some reason =>
      have hineligible := ineligible_of_deadlineSkip hskip
      simp [skippedReports, hskip, hineligible, ← ih]
    | none => simp [skippedReports, hskip, deadlineSkip_eq_none.mp hskip, ← ih]

theorem deadlineAnswer_partitions (env : Env) (user : JwtUser) (s : Store)
    (dto : ProcessDeadlinesDto) :
    (deadlineAnswer env user s dto).Partitions (deadlineCandidates s dto.limit) where
  distinct := nodup_deadlineCandidates s dto.limit
  parted := by
    simp only [deadlineAnswer, skippedReports_ids, ← List.map_append]
    exact (List.filter_append_perm (deadlineEligible env) _).map _
  processedCount := (List.length_map _).symm
  skippedCount := rfl

/-- From one store to the other the report `id` has been closed. -/
def ClosedBetween (s after : Store) (id : String) : Prop :=
  ∃ r r', s.report? id = some r ∧ after.report? id = some r' ∧
    r.status ≠ .closed ∧ r'.status = .closed

/-- What a real run leaves of a report. -/
theorem processDeadlines_report? {dto : ProcessDeadlinesDto} {u : PUnit}
    (h : deadlineGuards user dto = .ok u) (hdry : dto.dryRun = false) {id : String} {r : Report}
    (hrow : s.report? id = some r) :
    (processDeadlines env s user dto).1.report? id =
      some (if id ∈ (deadlineClosures env s dto.limit).map (·.id) then
        (deadlineCloseData env user).apply r
        else r) := by
  rw [processDeadlines_eq h, hdry]
  exact performAll_deadline hrow

/-- A real run closes exactly the reports it lists as processed. -/
theorem closedBetween_iff {dto : ProcessDeadlinesDto} {u : PUnit}
    (h : deadlineGuards user dto = .ok u) (hdry : dto.dryRun = false) (id : String) :
    ClosedBetween s (processDeadlines env s user dto).1 id ↔
      id ∈ (deadlineClosures env s dto.limit).map (·.id) := by
  constructor
  · rintro ⟨r, r', hrow, hrow', hopen, hclosed⟩
    rw [processDeadlines_report? h hdry hrow] at hrow'
    split at hrow'
    · assumption
    · rw [Option.some.inj hrow'] at hopen
      exact absurd hclosed hopen
  · intro hmem
    obtain ⟨r, hr, rfl⟩ := List.mem_map.mp hmem
    obtain ⟨hrow, hstatus⟩ := awaiting_of_mem_deadlineClosures hr
    have hrow' : (processDeadlines env s user dto).1.report? r.id =
        some ((deadlineCloseData env user).apply r) := by
      rw [processDeadlines_report? h hdry hrow, if_pos hmem]
    have hawaiting : ReportStatus.completedByProvider = r.status := of_decide_eq_true hstatus
    exact ⟨r, _, hrow, hrow', by simp [← hawaiting], rfl⟩

/-- Whether a report is due depends on the instant alone. -/
theorem deadlineEligible_congr {env' : Env} (hnow : env'.now = env.now) (r : Report) :
    deadlineEligible env' r = deadlineEligible env r := by
  simp only [deadlineEligible, hnow]

/-- The run that follows changes no report that is not due. -/
theorem processDeadlines_of_ineligible {dto : ProcessDeadlinesDto} {id : String} {r : Report}
    (hrow : s.report? id = some r) (hineligible : deadlineEligible env r = false) :
    (processDeadlines env s user dto).1.report? id = some r := by
  rw [← processCompletionReviewDeadlines_pass {} env s user dto]
  obtain ⟨r', hrow', hchange⟩ :=
    execute_report? {} env user (.processCompletionReviewDeadlines dto) hrow
  rcases hchange with rfl | hchange
  · exact hrow'
  · cases hchange with
    | expire hsweeps => cases hsweeps
    | processCompletionReviewDeadlines _ _ _ _ heligible =>
      rw [hineligible] at heligible
      cases heligible

/-- After a real run, none of its candidates is due. -/
theorem ineligible_after {dto : ProcessDeadlinesDto} {u : PUnit}
    (h : deadlineGuards user dto = .ok u) (hdry : dto.dryRun = false) {r : Report}
    (hr : r ∈ deadlineCandidates s dto.limit) :
    ∃ r', (processDeadlines env s user dto).1.report? r.id = some r' ∧
      deadlineEligible env r' = false := by
  have hrow := report?_of_mem (mem_rows_of_mem_deadlineCandidates hr).1
  refine ⟨_, processDeadlines_report? h hdry hrow, ?_⟩
  by_cases hmem : r.id ∈ (deadlineClosures env s dto.limit).map (·.id)
  · rw [if_pos hmem]
    simp [deadlineEligible]
  · rw [if_neg hmem]
    rw [mem_deadlineClosures_iff hrow] at hmem
    simpa [hr] using hmem

/-- **A dry run predicts the real run.** On every store a dry run changes nothing and lists as
processed exactly the reports that a real run of the same instant and limit lists and closes; both
account for every candidate once; and a later run at that instant changes none of them. -/
theorem deadline_dry_run_predicts (env : Env) (s : Store) (user : JwtUser) (limit : ℕ)
    (dryReason reason : String) (hrole : ProcessesDeadlines user) (hreason : trim reason ≠ "") :
    ∃ dry real after,
      processDeadlines env s user ⟨limit, true, dryReason⟩ = (s, .ok dry) ∧
      processDeadlines env s user ⟨limit, false, reason⟩ = (after, .ok real) ∧
      dry.processed = real.processed ∧ (∀ id, id ∈ dry.processed ↔ ClosedBetween s after id) ∧
      dry.Partitions (deadlineCandidates s limit) ∧ real.Partitions (deadlineCandidates s limit) ∧
      ∀ (env' : Env) (user' : JwtUser) (dto' : ProcessDeadlinesDto), env'.now = env.now →
        ∀ r ∈ deadlineCandidates s limit,
          (processDeadlines env' after user' dto').1.report? r.id = after.report? r.id := by
  have hdry : deadlineGuards user ⟨limit, true, dryReason⟩ = .ok ⟨⟩ :=
    deadlineGuards_eq_ok.mpr ⟨hrole, .inl rfl⟩
  have hreal : deadlineGuards user ⟨limit, false, reason⟩ = .ok ⟨⟩ :=
    deadlineGuards_eq_ok.mpr ⟨hrole, .inr hreason⟩
  have hanswer : processDeadlines env s user ⟨limit, false, reason⟩ =
      ((processDeadlines env s user ⟨limit, false, reason⟩).1,
        .ok (deadlineAnswer env user s ⟨limit, false, reason⟩)) := by
    rw [processDeadlines_eq hreal]
  refine ⟨_, _, _, processDeadlines_eq hdry, hanswer, rfl,
    fun id => (closedBetween_iff hreal rfl id).symm,
    deadlineAnswer_partitions env user s _, deadlineAnswer_partitions env user s _, ?_⟩
  intro env' user' dto' hnow r hr
  obtain ⟨r', hrow', hineligible⟩ := ineligible_after hreal rfl hr
  rw [hrow']
  exact processDeadlines_of_ineligible hrow' (by rw [deadlineEligible_congr hnow, hineligible])

namespace Example

/-- A report whose review window has ended. -/
def windowOver (id : String) : Report where
  toRoutedReport := { category := "Lighting" }
  id := id
  status := .completedByProvider
  organizationId := "org"
  citizenId := "citizen"
  completionPolicy := some .autoCloseAfterReviewWindow
  completionReviewDeadlineAt := some 5

/-- Two such reports, one of them on hold. -/
def twoWindows : Store :=
  { Store.empty with
    reports := (Store.empty.reports.insert (windowOver "due")).insert
      { windowOver "held" with completionGovernanceHoldReason := some "Inquiry" } }

end Example

/-- The dry run lists the report that the real run closes, and not the one on hold. -/
theorem deadline_dry_run_predicts_two :
    ∃ dry real after,
      processDeadlines (Example.surroundings 9) Example.twoWindows Example.superAdmin
        ⟨100, true, ""⟩ = (Example.twoWindows, .ok dry) ∧
      processDeadlines (Example.surroundings 9) Example.twoWindows Example.superAdmin
        ⟨100, false, "Nightly"⟩ = (after, .ok real) ∧
      dry.processed = real.processed ∧ dry.processed = ["due"] ∧
      (∀ id, id ∈ dry.processed ↔ ClosedBetween Example.twoWindows after id) := by
  obtain ⟨dry, real, after, hdry, hreal, hsame, hclosed, -⟩ :=
    deadline_dry_run_predicts (Example.surroundings 9) Example.twoWindows Example.superAdmin 100 ""
      "Nightly" (.inl rfl) (by decide +kernel)
  have hlisted : (processDeadlines (Example.surroundings 9) Example.twoWindows Example.superAdmin
      ⟨100, true, ""⟩).2.toOption.map (·.processed) = some ["due"] := by
    decide +kernel
  rw [hdry] at hlisted
  exact ⟨dry, real, after, hdry, hreal, hsame, Option.some.inj hlisted, hclosed⟩

end FixZone.ReportService
