import FixZone.Library.Climb
import FixZone.Report.Unrouted

/-!
# The way of a report

A report comes from intake to dispatch, to its provider, to work, to completion and to closure, and
may be sent back from anywhere to an earlier stage. Only an administrator who closes a report or
returns it for rework moves it past a stage. So a report that no administrator has moved this way
has been dispatched, assigned, worked on and submitted, in this order, before it is closed, however
often it was sent back in between (`worked_in_order`).
-/

namespace FixZone.ReportService

open Library Organization

variable {cfg : Config} {s : Store} {event : Event} {id : String}

/-- How far a report has come. -/
def stage : ReportStatus → ℕ
  | .triage | .orgReview => 0
  | .pending => 1
  | .assigned => 2
  | .inProgress => 3
  | .completedByProvider => 4
  | .closed => 5

/-- The statuses of the stages after intake. -/
def milestones : List ReportStatus :=
  [.pending, .assigned, .inProgress, .completedByProvider, .closed]

/-- An administrator closes the report, or returns it for rework. -/
def Intervenes (id : String) (event : Event) : Prop :=
  ∃ reason, (event.request = .call (.adminResolveAndClose id reason) ∨
    event.request = .call (.adminReturnForCompletionRework id reason)) ∧
      GovernanceAllowed event.user reason

/-- The statuses a report has in a run, one for each state in which it exists. -/
def lifeline (cfg : Config) (id : String) : Store → List Event → List ReportStatus
  | s, [] => ((s.report? id).map (·.status)).toList
  | s, event :: events =>
    ((s.report? id).map (·.status)).toList ++ lifeline cfg id (step cfg event s) events

/-! ### One step -/

/-- Status updates go one stage up at most. -/
theorem stage_le_of_transition {status next : ReportStatus}
    (h : canTransitionReportStatus status next) : stage next ≤ stage status + 1 := by
  revert h
  cases status <;> cases next <;> decide

theorem stage_le_closed (status : ReportStatus) : stage status ≤ 5 := by
  cases status <;> decide

theorem two_le_stage {status : ReportStatus} (h : isUnrouted status = false) :
    2 ≤ stage status := by
  revert h
  cases status <;> decide

/-- A call moves a report one stage up at most, or it is that of an administrator. -/
theorem change_stage {call : Call} {r r' : Report} (hrequest : event.request = .call call)
    (h : Change cfg event.env s event.user call r r') :
    stage r'.status ≤ stage r.status + 1 ∨ Intervenes r.id event := by
  cases h with
  | adminResolveAndClose hallowed _ _ => exact .inr ⟨_, .inl hrequest, hallowed⟩
  | adminReturnForCompletionRework hallowed _ _ => exact .inr ⟨_, .inr hrequest, hallowed⟩
  | @assignOrganization r dto organization _ hallowed =>
    refine .inl (Nat.le_trans ?_ (Nat.le_add_left 1 _))
    dsimp only [assignOrganizationData]
    split <;> decide
  | updateStatus _ _ hallowed _ => exact .inl (stage_le_of_transition hallowed.transition)
  | submitCompletion _ hallowed _ _ => exact .inl (stage_le_of_transition hallowed.transition)
  | assignProviderById _ hallowed =>
    rw [hallowed.pending]
    exact .inl le_rfl
  | confirmCitizenCompletion hreviews hdecision _ =>
    have hcompleted := hreviews.completed.resolve_right fun h => hdecision h.2
    rw [hcompleted]
    exact .inl (stage_le_closed _)
  | verifyOrganizationCompletion hreviews hdecision _ _ =>
    have hcompleted := hreviews.completed.resolve_right fun h => hdecision h.2
    rw [hcompleted]
    exact .inl (stage_le_closed _)
  | rejectCitizenCompletion hreviews hdecision _ _ =>
    have hcompleted := hreviews.completed.resolve_right fun h => hdecision h.2
    rw [hcompleted]
    exact .inl (Nat.le_of_ble_eq_true rfl)
  | requestOrganizationCompletionRework hreviews hdecision _ _ =>
    have hcompleted := hreviews.completed.resolve_right fun h => hdecision h.2
    rw [hcompleted]
    exact .inl (Nat.le_of_ble_eq_true rfl)
  | adminReopenCompletion _ hclosed =>
    rw [hclosed]
    exact .inl (Nat.le_of_ble_eq_true rfl)
  | processCompletionReviewDeadlines _ _ _ _ heligible =>
    simp only [deadlineEligible, Bool.and_eq_true, decide_eq_true_eq] at heligible
    rw [heligible.2]
    exact .inl (stage_le_closed _)
  | acceptOrganizationReport | rejectOrganizationReport | expire | cancelAssignment
  | rejectAssignment =>
    -- The report is at intake or waits for dispatch afterwards.
    exact .inl (Nat.le_trans (Nat.le_of_ble_eq_true rfl) (Nat.le_add_left 1 _))
  | @uploadReportEvidence r dto saved =>
    have hstatus : ((evidenceImageData saved).apply r).status = r.status := by
      cases saved <;> rfl
    rw [hstatus]
    exact .inl (Nat.le_succ _)
  | uploadCompletionEvidence | adminPlaceCompletionHold | adminRemoveCompletionHold
  | adminOverrideCompletionPolicy => exact .inl (Nat.le_succ _)

/-- A step moves a report one stage up at most, or it is that of an administrator. -/
theorem stepChange_stage {r r' : Report} (hfree : UnroutedFree r)
    (h : StepChange cfg event s r r') :
    stage r'.status ≤ stage r.status + 1 ∨ Intervenes r.id event := by
  cases h with
  | call hrequest hchange => exact change_stage hrequest hchange
  | reassign _ hreassigned =>
    cases hreassigned with
    | cancelled => exact .inl (Nat.le_trans (Nat.le_of_ble_eq_true rfl) (Nat.le_add_left 1 _))
    | assigned _ hallowed =>
      rw [hallowed.pending]
      exact .inl le_rfl
    | moved hcancel _ _ =>
      -- A report with a provider is past dispatch.
      have hrouted : isUnrouted r.status = false :=
        Bool.eq_false_iff.mpr fun hunrouted => hcancel.not_free (hfree hunrouted)
      exact .inl (Nat.le_succ_of_le (two_le_stage hrouted))

/-- The reports of the store that have not been given to a provider are free. -/
def AllUnroutedFree (s : Store) : Prop := ∀ id r, s.report? id = some r → UnroutedFree r

theorem AllUnroutedFree.step (hs : AllUnroutedFree s) : AllUnroutedFree (step cfg event s) :=
  step_forall (fun _ _ _ _ _ => ⟨rfl, rfl⟩)
    (fun _ _ _ hr hchange => stepChange_unroutedFree hchange hr) hs

/-- What a step does to the stage of a report. -/
theorem step_stage (hs : AllUnroutedFree s) {r r' : Report} (hrow : s.report? id = some r)
    (hrow' : (step cfg event s).report? id = some r') :
    stage r'.status ≤ stage r.status + 1 ∨ Intervenes id event := by
  obtain ⟨after, hafter, hchange⟩ := step_report? cfg event hrow
  obtain rfl : after = r' := Option.some.inj (hafter.symm.trans hrow')
  rcases hchange with rfl | hchange
  · exact .inl (Nat.le_succ _)
  · exact id_of_report? hrow ▸ stepChange_stage (hs id r hrow) hchange

/-! ### A whole run -/

/-- The lifeline of a report that exists begins with its status. -/
theorem lifeline_of_some {r : Report} (hrow : s.report? id = some r) (events : List Event) :
    ∃ rest, lifeline cfg id s events = r.status :: rest := by
  cases events with
  | nil => exact ⟨[], by rw [lifeline, hrow]; rfl⟩
  | cons event events => exact ⟨_, by rw [lifeline, hrow]; rfl⟩

/-- A report that exists has a status in every state from then on, the last one included. -/
theorem getLast?_lifeline {r : Report} {events : List Event}
    (hlast : (run (step cfg) s events).report? id = some r) :
    (lifeline cfg id s events).getLast? = some r.status := by
  induction events generalizing s with
  | nil =>
    rw [run_nil] at hlast
    rw [lifeline, hlast]
    rfl
  | cons event events ih =>
    have hrest := ih hlast
    rw [lifeline, List.getLast?_append, hrest, Option.some_or]

/-- Without an administrator the lifeline climbs one stage at a time. -/
theorem lifeline_climbs {events : List Event} (hs : AllUnroutedFree s)
    (hno : ∀ event ∈ events, ¬Intervenes id event) :
    Climbs stage (lifeline cfg id s events) := by
  induction events generalizing s with
  | nil =>
    rw [lifeline]
    cases s.report? id with
    | none => exact .nil
    | some r => exact .singleton _
  | cons event events ih =>
    have hrest : Climbs stage (lifeline cfg id (step cfg event s) events) :=
      ih hs.step fun event hevent => hno event (List.mem_cons_of_mem _ hevent)
    rw [lifeline]
    cases hrow : s.report? id with
    | none => exact hrest
    | some r =>
      obtain ⟨r', hrow', -⟩ := step_report? cfg event hrow
      obtain ⟨rest, heq⟩ : ∃ rest, lifeline cfg id (step cfg event s) events = r'.status :: rest :=
        lifeline_of_some hrow' events
      rw [heq] at hrest ⊢
      refine List.isChain_cons_cons.mpr ⟨?_, hrest⟩
      exact (step_stage hs hrow hrow').resolve_right (hno event List.mem_cons_self)

/-- A report begins at intake. -/
theorem lifeline_begins {events : List Event} (hnone : s.report? id = none) {first : ReportStatus}
    {rest : List ReportStatus} (h : lifeline cfg id s events = first :: rest) :
    stage first = 0 := by
  induction events generalizing s with
  | nil =>
    rw [lifeline, hnone] at h
    cases h
  | cons event events ih =>
    rw [lifeline, hnone] at h
    cases hrow : (step cfg event s).report? id with
    | none => exact ih hrow h
    | some r =>
      obtain ⟨rest', heq⟩ : ∃ rest, lifeline cfg id (step cfg event s) events = r.status :: rest :=
        lifeline_of_some hrow events
      obtain ⟨dto, organizationId, locationSource, intakeRoute, -, -, -, rfl⟩ :=
        step_report?_none hnone hrow
      obtain ⟨rfl, -⟩ := List.cons.inj (heq.symm.trans h)
      have hintake : ∀ routed : Bool,
          stage (if routed = true then .orgReview else .triage) = 0 := by decide
      exact hintake _

/-- Each stage after intake is that of one status. -/
theorem milestones_of_stages {statuses : List ReportStatus} {n : ℕ} (hn : n ≤ 5)
    (h : statuses.map stage = List.range' 1 n) : statuses = milestones.take n := by
  let status (k : ℕ) : ReportStatus := milestones.getD (k - 1) .closed
  have hstatus : ∀ x ∈ statuses, x = status (stage x) := by
    intro x hx
    have hpos : stage x ≠ 0 := by
      have hmem := List.mem_map_of_mem (f := stage) hx
      rw [h, List.mem_range'_1] at hmem
      omega
    cases x with
    | triage | orgReview => exact absurd rfl hpos
    | pending | assigned | inProgress | completedByProvider | closed => rfl
  have hall : ∀ n ≤ 5, (List.range' 1 n).map (fun k => milestones.getD (k - 1) .closed) =
      milestones.take n := by
    decide
  calc statuses = statuses.map fun x => status (stage x) := by
        conv_lhs => rw [← List.map_id statuses]
        exact List.map_congr_left hstatus
    _ = (statuses.map stage).map status := by
        rw [List.map_map]
        rfl
    _ = milestones.take n := by rw [h, hall n hn]

/-- **Worked in order.** In every run from the empty store, a step takes a report one stage up at
most, unless it is that of a super administrator who closes the report or returns it for rework. So
a report that none of them has moved has had the statuses of all stages up to its own, one after
another: nothing is closed that was not dispatched, assigned, worked on and submitted before. -/
theorem worked_in_order (cfg : Config) (events : List Event) (id : String) :
    Along (step cfg) (fun s event => ∀ r r', s.report? id = some r →
        (step cfg event s).report? id = some r' →
        stage r'.status ≤ stage r.status + 1 ∨ Intervenes id event) Store.empty events ∧
      ∀ r, (run (step cfg) Store.empty events).report? id = some r →
        (∀ event ∈ events, ¬Intervenes id event) →
        (milestones.take (stage r.status)).Sublist (lifeline cfg id Store.empty events) := by
  have hempty : AllUnroutedFree Store.empty := fun _ _ h => by cases h
  refine ⟨?_, fun r hrow hno => ?_⟩
  · refine along_iff.mpr fun pre event post _ r r' hrow hrow' => ?_
    have hs : AllUnroutedFree (run (step cfg) Store.empty pre) :=
      run_inv (Q := fun _ => True) (fun _ _ hs _ => hs.step) hempty fun _ _ => trivial
    exact step_stage hs hrow hrow'
  · have hlast := getLast?_lifeline hrow
    rcases hline : lifeline cfg id Store.empty events with _ | ⟨first, rest⟩
    · rw [hline] at hlast
      cases hlast
    · have hclimbs : Climbs stage (lifeline cfg id Store.empty events) :=
        lifeline_climbs hempty hno
      rw [hline] at hlast hclimbs
      have hlevels := levels_sublist hclimbs (lifeline_begins rfl hline) hlast
      obtain ⟨statuses, hsublist, hmap⟩ := List.sublist_map_iff.mp hlevels
      rwa [← milestones_of_stages (stage_le_closed _) hmap.symm]

open Example in
theorem dispatched_in_order : [.pending, .assigned].Sublist
    (lifeline {} "report" Store.empty dispatched) := by
  have hno : ∀ event ∈ dispatched, ¬Intervenes "report" event := by
    rintro event hevent ⟨reason, hrequest | hrequest, -⟩
    all_goals
      simp only [dispatched, List.mem_cons, List.not_mem_nil, or_false] at hevent
      obtain rfl | rfl | rfl | rfl := hevent <;> cases hrequest
  obtain ⟨r, hrow, hstatus⟩ : ∃ r,
      (run (step {}) Store.empty dispatched).report? "report" = some r ∧ r.status = .assigned := by
    refine ⟨((run (step {}) Store.empty dispatched).report? "report").get (by decide +kernel), ?_⟩
    exact ⟨(Option.some_get _).symm, by decide +kernel⟩
  have hsublist := (worked_in_order {} dispatched "report").2 r hrow hno
  rwa [hstatus] at hsublist

end FixZone.ReportService
