import FixZone.Report.Change

/-!
# Reassignment

`reassignProvider` cancels the assignment, which is written at once, and then assigns the new
provider, which checks that provider for the first time. So a failure of the second part leaves
what the first part wrote. It leaves nothing exactly when the cancellation does not come about,
or the provider could have been assigned (`reassign_atomic_iff`).
-/

namespace FixZone.ReportService

open Library Organization

variable {cfg : Config} {env : Env} {s : Store} {user : JwtUser} {reportId providerId : String}
  {reason : Option String} {report : Report}

/-- What a reassignment may write of a report. -/
structure AssignmentColumns where
  status : ReportStatus
  assignedProviderId : Option String
  assignedAt : Option Millis
  assignmentDeadlineAt : Option Millis
  lastAssignmentOutcome : Option AssignmentOutcome
  lastAssignmentReason : Option String
  lastAssignmentAt : Option Millis
  lastAssignmentProviderId : Option String

/-- These columns of a report. -/
def Report.assignmentColumns (report : Report) : AssignmentColumns where
  status := report.status
  assignedProviderId := report.assignedProviderId
  assignedAt := report.assignedAt
  assignmentDeadlineAt := report.assignmentDeadlineAt
  lastAssignmentOutcome := report.lastAssignmentOutcome
  lastAssignmentReason := report.lastAssignmentReason
  lastAssignmentAt := report.lastAssignmentAt
  lastAssignmentProviderId := report.lastAssignmentProviderId

/-- The columns of the report, the activities and the notifications are as they were. -/
structure Untouched (reportId : String) (s s' : Store) : Prop where
  columns : (s'.report? reportId).map Report.assignmentColumns =
    (s.report? reportId).map Report.assignmentColumns
  activities : s'.activities = s.activities
  notifications : s'.notifications = s.notifications

/-- A reassignment that throws leaves everything as it was. -/
def AllOrNothing (cfg : Config) (env : Env) (s : Store) (user : JwtUser)
    (reportId providerId : String) (reason : Option String) : Prop :=
  (reassignProvider cfg env s user reportId providerId reason).error ≠ none →
    Untouched reportId s (reassignProvider cfg env s user reportId providerId reason).store

/-- A provider whom everyone in the scope of a report may assign to it: active, and a member of its
organization. -/
def Suitable (env : Env) (providerId : String) (report : Report) : Prop :=
  ∃ provider, env.user? providerId = some provider ∧ provider.role = .provider ∧
    provider.accountStatus = .active ∧ providerBelongsToReportOrg provider report

/-! ### The two parts -/

/-- A call whose reading part throws writes nothing. -/
theorem execute_of_error {call : Call} {e : HttpError}
    (hread : readCall cfg env s user call = .error e) :
    execute cfg env s user call = ⟨s, some e⟩ := by
  rw [execute, hread, commit]

/-- After the cancellation the provider may be assigned exactly when suitable. -/
theorem assignAllowed_cancelled_iff (hallowed : CancelAllowed user report) :
    (∃ provider, env.user? providerId = some provider ∧
      AssignAllowed user ((reassignCancelData env reason report).apply report) provider {}) ↔
      Suitable env providerId report := by
  constructor
  · rintro ⟨provider, hrow, hassign⟩
    refine ⟨provider, hrow, hassign.role, hassign.active, ?_⟩
    obtain hbelongs | ⟨hoverride, -⟩ := hassign.override
    · exact hbelongs
    · cases hoverride
  · rintro ⟨provider, hrow, hrole, hactive, hbelongs⟩
    exact ⟨provider, hrow, hallowed.operator, rfl, rfl, hrole, hactive,
      hallowed.scope.imp_right fun hscope => ⟨hscope, hbelongs⟩, .inl hbelongs⟩

/-- An assignment that is read without exception is carried out without exception, and so are the
notices of the reassignment after it. -/
theorem assign_notify_error {actions : List Action} {previous : Option String}
    (hread : readCall cfg env s user (.assignProviderById reportId providerId {}) = .ok actions) :
    ((execute cfg env s user (.assignProviderById reportId providerId {})).andThen
      (performFor env reportId
        (reassignEffects user reportId providerId reason previous))).error = none := by
  obtain ⟨report, provider, hrow, -, -, rfl⟩ := assignProviderById_eq_ok.mp hread
  rw [andThen_error_eq_none]
  refine ⟨execute_error_of_read hread hrow, ?_⟩
  unfold performFor
  split
  · exact performEffects_error env _ _
  · rfl

/-- The assignment can be read, or it throws and writes nothing. -/
theorem execute_assign_cases (s : Store) :
    (∃ actions, readCall cfg env s user (.assignProviderById reportId providerId {}) =
        .ok actions) ∨
      ∃ e, execute cfg env s user (.assignProviderById reportId providerId {}) = ⟨s, some e⟩ := by
  cases hread : readCall cfg env s user (.assignProviderById reportId providerId {}) with
  | ok actions => exact .inl ⟨actions, rfl⟩
  | error e => exact .inr ⟨e, execute_of_error hread⟩

theorem Untouched.refl (reportId : String) (s : Store) : Untouched reportId s s := ⟨rfl, rfl, rfl⟩

/-! ### The whole -/

theorem reassign_of_free (hrow : s.report? reportId = some report)
    (hfree : truthy report.assignedProviderId = false) :
    reassignProvider cfg env s user reportId providerId reason =
      (execute cfg env s user (.assignProviderById reportId providerId {})).andThen
        (performFor env reportId
          (reassignEffects user reportId providerId reason report.assignedProviderId)) := by
  simp only [reassignProvider, hrow, hfree]
  rfl

theorem reassign_of_refused {e : HttpError} (hrow : s.report? reportId = some report)
    (hassigned : truthy report.assignedProviderId)
    (hread : readCall cfg env s user (reassignCancel reportId reason) = .error e) :
    reassignProvider cfg env s user reportId providerId reason = ⟨s, some e⟩ := by
  simp only [reassignProvider, hrow, hassigned, if_true, execute_of_error hread]
  rfl

theorem reassign_of_cancelled (hrow : s.report? reportId = some report)
    (hallowed : CancelAllowed user report) :
    reassignProvider cfg env s user reportId providerId reason =
      (execute cfg env (execute cfg env s user (reassignCancel reportId reason)).store user
        (.assignProviderById reportId providerId {})).andThen
          (performFor env reportId
            (reassignEffects user reportId providerId reason report.assignedProviderId)) := by
  have herror := (execute_reassignCancel cfg env reason hrow hallowed).1
  simp only [reassignProvider, hrow, hallowed.assigned, if_true]
  rw [Outcome.andThen.eq_def (execute cfg env s user (reassignCancel reportId reason)), herror]

/-- An assignment that throws, at the end of a reassignment. -/
theorem assign_error_andThen {e : HttpError} {f : Store → Outcome}
    (h : execute cfg env s user (.assignProviderById reportId providerId {}) = ⟨s, some e⟩) :
    (execute cfg env s user (.assignProviderById reportId providerId {})).andThen f =
      ⟨s, some e⟩ := by
  rw [h, andThen_some]

/-- **Reassignment is all or nothing** exactly when the cancellation it starts with is refused, or
there is none, or the new provider is an active member of the organization of the report. -/
theorem reassign_atomic_iff (cfg : Config) (env : Env) (s : Store) (user : JwtUser)
    (reportId providerId : String) (reason : Option String) :
    AllOrNothing cfg env s user reportId providerId reason ↔
      ∀ report, s.report? reportId = some report → CancelAllowed user report →
        Suitable env providerId report := by
  constructor
  · intro hatomic report hrow hallowed
    by_contra hnot
    obtain ⟨-, hcancelled⟩ := execute_reassignCancel cfg env reason hrow hallowed
    rw [AllOrNothing, reassign_of_cancelled hrow hallowed] at hatomic
    generalize (execute cfg env s user (reassignCancel reportId reason)).store = s₁
      at hatomic hcancelled
    obtain ⟨actions, hread⟩ | ⟨e, hthrows⟩ :=
      @execute_assign_cases cfg env user reportId providerId s₁
    · obtain ⟨report', provider, hrow', hprovider, hassign, -⟩ := assignProviderById_eq_ok.mp hread
      obtain rfl := Option.some.inj (hcancelled.symm.trans hrow')
      exact hnot ((assignAllowed_cancelled_iff hallowed).mp ⟨provider, hprovider, hassign⟩)
    · -- The report was taken from its provider and stays so.
      rw [assign_error_andThen hthrows] at hatomic
      have hcolumns := (hatomic (Option.some_ne_none e)).columns
      rw [hcancelled, hrow] at hcolumns
      exact hallowed.active (congrArg AssignmentColumns.status (Option.some.inj hcolumns)).symm
  · intro hsuitable hthrows
    cases hrow : s.report? reportId with
    | none =>
      simp only [reassignProvider, hrow]
      exact .refl reportId s
    | some report =>
      cases hassigned : truthy report.assignedProviderId with
      | false =>
        rw [reassign_of_free hrow hassigned] at hthrows ⊢
        obtain ⟨actions, hread⟩ | ⟨e, hfails⟩ :=
          @execute_assign_cases cfg env user reportId providerId s
        · exact absurd (assign_notify_error hread) hthrows
        · rw [assign_error_andThen hfails]
          exact .refl reportId s
      | true =>
        cases hcancel : readCall cfg env s user (reassignCancel reportId reason) with
        | error e =>
          rw [reassign_of_refused hrow hassigned hcancel]
          exact .refl reportId s
        | ok actions =>
          obtain ⟨report', hrow', hallowed, -⟩ := cancelAssignment_eq_ok.mp hcancel
          obtain rfl := Option.some.inj (hrow.symm.trans hrow')
          obtain ⟨-, hcancelled⟩ := execute_reassignCancel cfg env reason hrow hallowed
          obtain ⟨provider, hprovider, hassign⟩ :=
            (assignAllowed_cancelled_iff hallowed).mpr (hsuitable report hrow hallowed)
          rw [reassign_of_cancelled hrow hallowed] at hthrows
          exact absurd (assign_notify_error (assignProviderById_eq_ok.mpr
            ⟨_, provider, hcancelled, hprovider, hassign, rfl⟩)) hthrows

/-- An administrator moves a dispatched report to somebody who is no provider: the report has lost
its provider and is pending. -/
theorem reassign_to_unknown :
    ¬ AllOrNothing {} (Example.surroundings 4) dispatchedStore Example.orgAdmin "report" "nobody"
      none := by
  intro hatomic
  have hthrows : (reassignProvider {} (Example.surroundings 4) dispatchedStore Example.orgAdmin
      "report" "nobody" none).error ≠ none := by decide +kernel
  have hbefore : (dispatchedStore.report? "report").map (·.assignmentColumns.status) =
      some .assigned := by decide +kernel
  have hafter : ((reassignProvider {} (Example.surroundings 4) dispatchedStore Example.orgAdmin
      "report" "nobody" none).store.report? "report").map (·.assignmentColumns.status) =
      some .pending := by decide +kernel
  have hcolumns := congrArg (Option.map AssignmentColumns.status) (hatomic hthrows).columns
  rw [Option.map_map, Option.map_map] at hcolumns
  rw [Function.comp_def, hafter, hbefore] at hcolumns
  cases hcolumns

end FixZone.ReportService
