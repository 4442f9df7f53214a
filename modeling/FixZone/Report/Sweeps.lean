import FixZone.Library.Interleaving
import FixZone.Report.DeadlinePass

/-!
# Sweeps among other requests

`expireOverdueAssignments` and `processCompletionReviewDeadlines` read a batch of reports
and then write them one by one, while other requests are served. The write of an expiry
names its report by id alone, and that of a review deadline asks for the status and
nothing else, so what happened to a report since the batch was read is overwritten.

The two run here as jobs of an interleaving, with the other requests as events.
`sweeps_undo_nothing` says that a sweep writes only what it may, in every interleaving in
which nobody ends an assignment that a sweep is about to expire, and nobody contests a
completion that a sweep is about to close.
-/

namespace FixZone.ReportService

open Library Organization

/-! ### Sweeps as jobs -/

/-- A sweep, with the surroundings it runs in. -/
inductive Sweep where
  /-- `expireOverdueAssignments`. -/
  | expiry (env : Env) (filter : ExpiryFilter) (actor : Option JwtUser)
  /-- `processCompletionReviewDeadlines`. -/
  | reviewDeadlines (env : Env) (user : JwtUser) (dto : ProcessDeadlinesDto)

namespace Sweep

def env : Sweep → Env
  | .expiry env _ _ => env
  | .reviewDeadlines env _ _ => env

/-- Whether `processCompletionReviewDeadlines` comes to its writes. -/
def closes (user : JwtUser) (dto : ProcessDeadlinesDto) : Bool :=
  [UserRole.superAdmin, .complianceAdmin, .regulatoryAdmin].contains user.role && !dto.dryRun &&
    trim dto.reason ≠ ""

/-- The reports a sweep reads to write them. -/
def batch (s : Store) : Sweep → List Report
  | .expiry env filter _ => s.reports.rows.filter (sweptBy env filter)
  | .reviewDeadlines env user dto =>
    if closes user dto then deadlineClosures env s dto.limit else []

/-- The write of a report that the sweep read. -/
def action (report : Report) : Sweep → Action
  | .expiry env _ actor =>
    .update report.id none (expireData env report) fun _ => expireEffects actor report
  | .reviewDeadlines env user _ =>
    .update report.id (some .completedByProvider) (deadlineCloseData env user)
      (deadlineCloseEffects user)

/-- Run on its own, the first sweep makes the writes of its method. -/
theorem expire_actions (env : Env) (s : Store) (filter : ExpiryFilter) (actor : Option JwtUser) :
    ((Sweep.expiry env filter actor).batch s).map
      (fun r => (Sweep.expiry env filter actor).action r) =
      expireOverdueAssignments env s filter actor := rfl

/-- So does the second. -/
theorem deadline_actions {env : Env} {s : Store} {user : JwtUser} {dto : ProcessDeadlinesDto}
    {actions : List Action} (h : processCompletionReviewDeadlines env s dto user = .ok actions) :
    ((Sweep.reviewDeadlines env user dto).batch s).map
      (fun r => (Sweep.reviewDeadlines env user dto).action r) = actions := by
  obtain ⟨hrole, ⟨hdry, rfl⟩ | ⟨hdry, hreason, rfl⟩⟩ := processCompletionReviewDeadlines_eq_ok.mp h
  · simp [batch, closes, hdry]
  · have hcloses : closes user dto := by
      rcases hrole with hrole | hrole | hrole <;> simp [closes, hrole, hdry, hreason]
    simp only [batch, hcloses, if_true]
    rfl

end Sweep

variable {cfg : Config} {s : Store} {event : Event}

/-- A write that a sweep has yet to make: the report is as the sweep read it. -/
structure SweepWrite where
  sweep : Sweep
  report : Report

namespace SweepWrite

/-- What the write leaves behind. -/
def outcome (w : SweepWrite) (s : Store) : Outcome :=
  perform w.sweep.env s (w.sweep.action w.report)

end SweepWrite

/-- The report is assigned to the provider whom the sweep read, under the deadline it read, which
is over. -/
structure StillOverdue (env : Env) (read r : Report) : Prop where
  assigned : r.status = .assigned
  provider : r.assignedProviderId = read.assignedProviderId
  deadline : r.assignmentDeadlineAt = read.assignmentDeadlineAt
  elapsed : r.assignmentDeadlineAt.any (· < env.now)

/-- Nothing speaks against closing the report at the end of its review window. -/
structure Uncontested (cfg : Config) (r : Report) : Prop where
  unheld : onHold r = false
  undisputed : underDispute r = false
  settled : underRework r = false
  policy : policyForReport cfg r = .autoCloseAfterReviewWindow

/-- The write may be made over the report as it is now. -/
def SweepWrite.Fits (cfg : Config) (w : SweepWrite) (r : Report) : Prop :=
  match w.sweep with
  | .expiry env _ _ => StillOverdue env w.report r
  | .reviewDeadlines _ _ _ => r.status = .completedByProvider → Uncontested cfg r

end FixZone.ReportService
