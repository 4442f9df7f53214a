import FixZone.Schema

/-!
# Report workflow

The transition table of `report-workflow.ts`. A stored status is always one of the
enumeration, on which `normalizeReportStatus` is the identity.
-/

namespace FixZone.ReportService

/-- `ALLOWED_REPORT_TRANSITIONS`. -/
def allowedReportTransitions : ReportStatus → List ReportStatus
  | .triage => [.orgReview]
  | .orgReview => [.pending, .triage]
  | .pending => [.assigned, .orgReview]
  | .assigned => [.inProgress]
  | .inProgress => [.completedByProvider]
  | .completedByProvider => [.closed]
  | .closed => []

/-- `canTransitionReportStatus`. -/
def canTransitionReportStatus (currentStatus nextStatus : ReportStatus) : Bool :=
  (allowedReportTransitions currentStatus).contains nextStatus

/-- Every transition the table allows changes the status. -/
theorem ne_of_canTransitionReportStatus {a b : ReportStatus} (h : canTransitionReportStatus a b) :
    a ≠ b := by
  rintro rfl
  cases a <;> simp [canTransitionReportStatus, allowedReportTransitions] at h

/-- Only a report completed by its provider may be closed. -/
theorem canTransitionReportStatus_closed {a : ReportStatus} :
    canTransitionReportStatus a .closed ↔ a = .completedByProvider := by
  cases a <;> simp [canTransitionReportStatus, allowedReportTransitions]

end FixZone.ReportService
