import FixZone.Library.Run
import FixZone.Library.Window
import FixZone.Report.DeadlinePass

/-!
# The progress of the passes over the review windows

`processCompletionReviewDeadlines` takes its candidates by the completion policy and the deadline
alone, so a report it has closed stays a candidate, in the place it had. A pass makes progress
exactly when some report that is due stands within its limit, and passes that are repeated close
every report that is due exactly when all of them do (`sweep_progress_iff`).
-/

namespace FixZone.ReportService

open Library

variable {env : Env} {s : Store} {user : JwtUser}

/-! ### The place of a report -/

theorem deadlineBefore_ordersBy : OrdersBy deadlineBefore Report.id where
  total a b := by
    unfold deadlineBefore
    cases a.completionReviewDeadlineAt <;> cases b.completionReviewDeadlineAt <;> grind
  trans a b c := by
    unfold deadlineBefore
    cases a.completionReviewDeadlineAt <;> cases b.completionReviewDeadlineAt <;>
      cases c.completionReviewDeadlineAt <;> grind
  antisymm a b := by
    unfold deadlineBefore
    cases a.completionReviewDeadlineAt <;> cases b.completionReviewDeadlineAt <;> grind

/-- How many reports with the policy come before `r`. -/
def deadlinePlace (s : Store) (r : Report) : ℕ :=
  s.reports.rows.countP fun b =>
    b.completionPolicy = some .autoCloseAfterReviewWindow && precedes deadlineBefore b r

/-- The pass looks at the reports whose place is within the limit. -/
theorem mem_deadlineCandidates_iff {limit : ℕ} {r : Report} :
    r ∈ deadlineCandidates s limit ↔ r ∈ s.reports.rows ∧
      r.completionPolicy = some .autoCloseAfterReviewWindow ∧ deadlinePlace s r < limit := by
  unfold deadlineCandidates deadlinePlace
  rw [mem_take_insertionSort_iff deadlineBefore_ordersBy (nodup_ids_filter s _), List.mem_filter,
    List.countP_filter]
  simp [and_assoc, Bool.and_comm]

/-! ### What a pass leaves -/

/-- A report that a pass is to close. -/
def Due (env : Env) (r : Report) : Prop :=
  r.completionPolicy = some .autoCloseAfterReviewWindow ∧ deadlineEligible env r = true

instance (env : Env) (r : Report) : Decidable (Due env r) :=
  inferInstanceAs (Decidable (_ ∧ _))

/-- A real pass. -/
structure Pass where
  env : Env
  user : JwtUser
  reason : String

/-- The pass gets past the guards. -/
def Pass.Admitted (pass : Pass) : Prop := ProcessesDeadlines pass.user ∧ trim pass.reason ≠ ""

/-- What a real pass with a limit leaves of the store. -/
def sweep (limit : ℕ) (pass : Pass) (s : Store) : Store :=
  (processDeadlines pass.env s pass.user ⟨limit, false, pass.reason⟩).1

variable {limit : ℕ} {pass : Pass}

theorem Pass.Admitted.guards (h : pass.Admitted) :
    deadlineGuards pass.user ⟨limit, false, pass.reason⟩ = .ok ⟨⟩ :=
  deadlineGuards_eq_ok.mpr ⟨h.1, .inr h.2⟩

/-- A pass closes the reports within its limit that are due. -/
theorem sweep_report? (h : pass.Admitted) {id : String} {r : Report}
    (hrow : s.report? id = some r) :
    (sweep limit pass s).report? id =
      some (if Due pass.env r ∧ deadlinePlace s r < limit then
        (deadlineCloseData pass.env pass.user).apply r else r) := by
  have hclosed : id ∈ (deadlineClosures pass.env s limit).map (·.id) ↔
      Due pass.env r ∧ deadlinePlace s r < limit := by
    rw [mem_deadlineClosures_iff hrow, mem_deadlineCandidates_iff]
    simp only [mem_of_report? hrow, true_and, Due]
    tauto
  unfold sweep
  rw [processDeadlines_report? h.guards rfl hrow]
  simp only [hclosed]

theorem sweep_report?_none {id : String} (hrow : s.report? id = none) :
    (sweep limit pass s).report? id = none := by
  unfold sweep
  rw [← processCompletionReviewDeadlines_pass {}]
  exact execute_report?_none_of_ne (fun _ => Call.noConfusion) hrow

/-- No report changes its place. -/
theorem deadlinePlace_sweep (h : pass.Admitted) {r r' : Report}
    (hdeadline : r'.completionReviewDeadlineAt = r.completionReviewDeadlineAt)
    (hid : r'.id = r.id) : deadlinePlace (sweep limit pass s) r' = deadlinePlace s r := by
  have hkeys : ∀ id, id ∈ (sweep limit pass s).reports.keysWhere (fun b =>
        b.completionPolicy = some .autoCloseAfterReviewWindow && precedes deadlineBefore b r') ↔
      id ∈ s.reports.keysWhere (fun b =>
        b.completionPolicy = some .autoCloseAfterReviewWindow && precedes deadlineBefore b r) := by
    intro id
    rw [Table.mem_keysWhere, Table.mem_keysWhere]
    cases hrow : s.report? id with
    | none =>
      have hnone : (sweep limit pass s).report? id = none := sweep_report?_none hrow
      simp [show s.reports.find? id = none from hrow,
        show (sweep limit pass s).reports.find? id = none from hnone]
    | some b =>
      have hsome : (sweep limit pass s).report? id = _ := sweep_report? h hrow
      simp only [show s.reports.find? id = some b from hrow,
        show (sweep limit pass s).reports.find? id = _ from hsome, Option.some.injEq,
        exists_eq_left', precedes, deadlineBefore, hdeadline, hid]
      split <;> rfl
  exact le_antisymm (Table.countP_le_countP fun id => (hkeys id).mp)
    (Table.countP_le_countP fun id => (hkeys id).mpr)

/-! ### Passes that are repeated -/

/-- A report that is not within the limit is never looked at. -/
theorem run_sweep_of_beyond {r : Report} (hrow : s.report? r.id = some r)
    (hbeyond : limit ≤ deadlinePlace s r) {passes : List Pass}
    (h : ∀ pass ∈ passes, pass.Admitted) :
    (run (sweep limit) s passes).report? r.id = some r := by
  induction passes generalizing s with
  | nil => exact hrow
  | cons pass passes ih =>
    have hpass := h pass List.mem_cons_self
    refine ih ?_ ?_ fun pass hpass => h pass (List.mem_cons_of_mem _ hpass)
    · rw [sweep_report? hpass hrow, if_neg (by omega)]
    · rwa [deadlinePlace_sweep hpass rfl rfl]

/-- A closed report stays closed. -/
theorem run_sweep_of_closed {id : String} {r : Report} (hrow : s.report? id = some r)
    (hclosed : r.status = .closed) {passes : List Pass} (h : ∀ pass ∈ passes, pass.Admitted) :
    (run (sweep limit) s passes).report? id = some r := by
  induction passes generalizing s with
  | nil => exact hrow
  | cons pass passes ih =>
    refine ih ?_ fun pass hpass => h pass (List.mem_cons_of_mem _ hpass)
    rw [sweep_report? (h pass List.mem_cons_self) hrow, if_neg]
    simp [Due, deadlineEligible, hclosed]

/-- What is due at an instant is due later. -/
theorem Due.later {env' : Env} {r : Report} (h : Due env r) (hnow : env.now ≤ env'.now) :
    Due env' r := by
  obtain ⟨hpolicy, heligible⟩ := h
  refine ⟨hpolicy, ?_⟩
  simp only [deadlineEligible, Bool.and_eq_true, Option.any_eq_true, decide_eq_true_eq]
    at heligible ⊢
  obtain ⟨⟨⟨deadline, hdeadline, hdue⟩, hskip⟩, hstatus⟩ := heligible
  exact ⟨⟨⟨deadline, hdeadline, hdue.trans hnow⟩, hskip⟩, hstatus⟩

/-- A report that is due and within the limit is closed by the first pass. -/
theorem run_sweep_of_within {r : Report} (hrow : s.report? r.id = some r) (hdue : Due env r)
    (hwithin : deadlinePlace s r < limit) {passes : List Pass} (hsome : passes ≠ [])
    (h : ∀ pass ∈ passes, pass.Admitted ∧ env.now ≤ pass.env.now) :
    ∃ r', (run (sweep limit) s passes).report? r.id = some r' ∧ r'.status = .closed := by
  cases passes with
  | nil => exact absurd rfl hsome
  | cons pass passes =>
    obtain ⟨hadmitted, hnow⟩ := h pass List.mem_cons_self
    have hfirst : (sweep limit pass s).report? r.id = _ := sweep_report? hadmitted hrow
    rw [if_pos ⟨hdue.later hnow, hwithin⟩] at hfirst
    exact ⟨_, run_sweep_of_closed hfirst rfl fun pass hpass =>
      (h pass (List.mem_cons_of_mem _ hpass)).1, rfl⟩

/-! ### Progress -/

/-- A pass closes some report that is due, if there is one. -/
def Progresses (limit : ℕ) (pass : Pass) (s : Store) : Prop :=
  (∃ r ∈ s.reports.rows, Due pass.env r) →
    ∃ r ∈ s.reports.rows, Due pass.env r ∧ ClosedBetween s (sweep limit pass s) r.id

/-- Enough passes close every report that is due at an instant. -/
def ClosesAll (limit : ℕ) (env : Env) (s : Store) : Prop :=
  ∃ n, ∀ passes : List Pass, n ≤ passes.length →
    (∀ pass ∈ passes, pass.Admitted ∧ env.now ≤ pass.env.now) →
    ∀ r ∈ s.reports.rows, Due env r →
      ∃ r', (run (sweep limit) s passes).report? r.id = some r' ∧ r'.status = .closed

theorem progresses_iff (h : pass.Admitted) : Progresses limit pass s ↔
    ((∃ r ∈ s.reports.rows, Due pass.env r) →
      ∃ r ∈ s.reports.rows, Due pass.env r ∧ deadlinePlace s r < limit) := by
  refine imp_congr_right fun _ => exists_congr fun r => and_congr_right fun hr =>
    and_congr_right fun hdue => ?_
  unfold sweep
  rw [closedBetween_iff h.guards rfl, mem_deadlineClosures_iff (report?_of_mem hr),
    mem_deadlineCandidates_iff]
  simp [hr, hdue.1, hdue.2]

theorem closesAll_iff (h : pass.Admitted) : ClosesAll limit pass.env s ↔
    ∀ r ∈ s.reports.rows, Due pass.env r → deadlinePlace s r < limit := by
  constructor
  · rintro ⟨n, hall⟩ r hr hdue
    by_contra hbeyond
    have hpasses : ∀ pass' ∈ List.replicate n pass, pass' = pass := fun pass' =>
      List.eq_of_mem_replicate
    obtain ⟨r', hrow', hclosed⟩ := hall (List.replicate n pass) (by simp)
      (fun pass' hpass' => by rw [hpasses pass' hpass']; exact ⟨h, le_rfl⟩) r hr hdue
    have hrow := run_sweep_of_beyond (report?_of_mem hr) (Nat.le_of_not_lt hbeyond)
      fun pass' hpass' => by rw [hpasses pass' hpass']; exact h
    rw [hrow] at hrow'
    cases hrow'
    simp [Due, deadlineEligible, hclosed] at hdue
  · intro hwithin
    refine ⟨1, fun passes hlength hpasses r hr hdue => ?_⟩
    exact run_sweep_of_within (report?_of_mem hr) hdue (hwithin r hr hdue)
      (by rintro rfl; simp at hlength) hpasses

/-- **When the passes make progress**: one pass, exactly when some report that is due stands within
its limit; and repeated passes close all that is due exactly when all of it stands within it. -/
theorem sweep_progress_iff (limit : ℕ) (s : Store) (h : pass.Admitted) :
    (Progresses limit pass s ↔ ((∃ r ∈ s.reports.rows, Due pass.env r) →
        ∃ r ∈ s.reports.rows, Due pass.env r ∧ deadlinePlace s r < limit)) ∧
      (ClosesAll limit pass.env s ↔
        ∀ r ∈ s.reports.rows, Due pass.env r → deadlinePlace s r < limit) :=
  ⟨progresses_iff h, closesAll_iff h⟩

namespace Example

/-- A pass every night. -/
def nightly : Pass where
  env := surroundings 9
  user := superAdmin
  reason := "Nightly"

theorem nightly_admitted : nightly.Admitted := ⟨.inl rfl, by decide +kernel⟩

/-- A report whose review window is over, and one with an earlier deadline that was closed. -/
def closedFirst : Store :=
  { Store.empty with
    reports := (Store.empty.reports.insert (windowOver "due")).insert
      { windowOver "done" with status := .closed, completionReviewDeadlineAt := some 1 } }

end Example

/-- With a limit of two reports the nightly passes get to the report that is due. -/
theorem sweep_progress_two : Progresses 2 Example.nightly Example.closedFirst ∧
    ClosesAll 2 Example.nightly.env Example.closedFirst := by
  have hplaces : ∀ r ∈ Example.closedFirst.reports.rows,
      deadlinePlace Example.closedFirst r < 2 := by
    decide +kernel
  obtain ⟨hprogress, hall⟩ := sweep_progress_iff 2 Example.closedFirst Example.nightly_admitted
  exact ⟨hprogress.mpr fun ⟨r, hr, hdue⟩ => ⟨r, hr, hdue, hplaces r hr⟩,
    hall.mpr fun r hr _ => hplaces r hr⟩

/-- With a limit of one report the closed one takes up every pass. -/
theorem closed_report_blocks_sweep : ¬ Progresses 1 Example.nightly Example.closedFirst ∧
    ¬ ClosesAll 1 Example.nightly.env Example.closedFirst := by
  have hdue : ∃ r ∈ Example.closedFirst.reports.rows, Due Example.nightly.env r := by
    decide +kernel
  have hnone : ∀ r ∈ Example.closedFirst.reports.rows,
      ¬ (Due Example.nightly.env r ∧ deadlinePlace Example.closedFirst r < 1) := by
    decide +kernel
  constructor
  · intro hprogress
    obtain ⟨r, hr, hbefore⟩ := (progresses_iff Example.nightly_admitted).mp hprogress hdue
    exact hnone r hr hbefore
  · intro hall
    obtain ⟨r, hr, hdue⟩ := hdue
    exact hnone r hr ⟨hdue, (closesAll_iff Example.nightly_admitted).mp hall r hr hdue⟩

end FixZone.ReportService
