import FixZone.Library.Run
import FixZone.Report.Governance
import FixZone.Report.Intake
import FixZone.Report.Review
import FixZone.Report.Status

/-!
# Runs of the report service

The methods of `ReportService` as requests, and a run of the service as a list of
requests, each with the user who makes it and the surroundings it is made in. A `Call`
is a method that reads and then writes; `reassignProvider` is made of two of them, and
what its cancellation wrote stays when its assignment throws.
-/

namespace FixZone.ReportService

open Library Organization

/-- A method of the service, with its arguments. `assignProvider` is `assignProviderById`. -/
inductive Call where
  | createReport (dto : RoutedReport)
  | assignOrganization (reportId : String) (dto : AssignOrganizationDto)
  | acceptOrganizationReport (reportId : String) (note : Option String)
  | rejectOrganizationReport (reportId reason : String) (suggestedOrganizationId : Option String)
  | processOverdueAssignments
  | getAssignedReports
  | getOrganizationReports
  | getDashboardSummary
  | getRecentReports
  | cancelAssignment (reportId : String) (reason : Option String)
  | assignProviderById (reportId providerId : String) (options : AssignOptions)
  | rejectAssignment (reportId reason : String)
  | updateStatus (reportId : String) (dto : UpdateReportStatusDto)
  | uploadCompletionEvidence (reportId : String) (dto : UploadEvidenceDto)
  | uploadReportEvidence (reportId : String) (dto : UploadEvidenceDto)
  | confirmCitizenCompletion (reportId : String) (dto : CitizenConfirmCompletionDto)
  | rejectCitizenCompletion (reportId reason : String)
  | verifyOrganizationCompletion (reportId : String) (reason : Option String)
  | requestOrganizationCompletionRework (reportId reason : String)
  | adminResolveAndClose (reportId reason : String)
  | adminReturnForCompletionRework (reportId reason : String)
  | adminPlaceCompletionHold (reportId reason : String)
  | adminRemoveCompletionHold (reportId reason : String)
  | adminReopenCompletion (reportId reason : String)
  | adminOverrideCompletionPolicy (reportId : String) (policy : CompletionPolicy) (reason : String)
  | processCompletionReviewDeadlines (dto : ProcessDeadlinesDto)

/-- A request of the service. -/
inductive Request where
  | call (call : Call)
  | reassignProvider (reportId providerId : String) (reason : Option String)

variable (cfg : Config) (env : Env) (s : Store) (user : JwtUser)

/-- The reading part of a call: what it will write, or the exception it throws instead. -/
def readCall : Call → Except HttpError (List Action)
  | .createReport dto => createReport cfg env s user dto
  | .assignOrganization reportId dto => assignOrganization cfg env s reportId dto user
  | .acceptOrganizationReport reportId note => acceptOrganizationReport env s reportId note user
  | .rejectOrganizationReport reportId reason suggested =>
    rejectOrganizationReport env s reportId reason suggested user
  | .processOverdueAssignments => processOverdueAssignments env s user
  | .getAssignedReports => getAssignedReports env s user
  | .getOrganizationReports => getOrganizationReports env s user
  | .getDashboardSummary => getDashboardSummary env s user
  | .getRecentReports => getRecentReports env s user
  | .cancelAssignment reportId reason => cancelAssignment env s reportId reason user
  | .assignProviderById reportId providerId options =>
    assignProviderById cfg env s reportId providerId user options
  | .rejectAssignment reportId reason => rejectAssignment env s reportId reason user
  | .updateStatus reportId dto => updateStatus cfg env s reportId dto user
  | .uploadCompletionEvidence reportId dto => uploadCompletionEvidence env s reportId dto user
  | .uploadReportEvidence reportId dto => uploadReportEvidence env s reportId dto user
  | .confirmCitizenCompletion reportId dto => confirmCitizenCompletion cfg env s reportId dto user
  | .rejectCitizenCompletion reportId reason => rejectCitizenCompletion env s reportId reason user
  | .verifyOrganizationCompletion reportId reason =>
      verifyOrganizationCompletion cfg env s reportId reason user
  | .requestOrganizationCompletionRework reportId reason =>
    requestOrganizationCompletionRework env s reportId reason user
  | .adminResolveAndClose reportId reason => adminResolveAndClose env s reportId reason user
  | .adminReturnForCompletionRework reportId reason =>
      adminReturnForCompletionRework s reportId reason user
  | .adminPlaceCompletionHold reportId reason => adminPlaceCompletionHold s reportId reason user
  | .adminRemoveCompletionHold reportId reason =>
      adminRemoveCompletionHold cfg s reportId reason user
  | .adminReopenCompletion reportId reason => adminReopenCompletion cfg s reportId reason user
  | .adminOverrideCompletionPolicy reportId policy reason =>
    adminOverrideCompletionPolicy cfg s reportId policy reason user
  | .processCompletionReviewDeadlines dto => processCompletionReviewDeadlines env s dto user

/-- Make a call on its own. -/
def execute (call : Call) : Outcome := commit env s (readCall cfg env s user call)

/-- What `reassignProvider` adds after its two calls. -/
def reassignEffects (reportId providerId : String) (reason previousProviderId : Option String)
    (updated : Report) : List Effect :=
  [.activity { recordReportActivity user reportId updated.organizationId "PROVIDER_REASSIGNED" with
      fromStatus := some .pending
      toStatus := some updated.status
      providerId := some providerId
      reason := trimmedOrNull reason }] ++
  (if truthy previousProviderId then
    [.notification
      { userId := previousProviderId.getD "", reportId, type := "assignment_reassigned",
        title := "Assignment reassigned",
        message := quoted updated.title ++ " was reassigned to another provider." }]
  else []) ++
  [.notification
      { userId := providerId, reportId, type := "assignment", title := "New assignment",
        message := "You have been assigned " ++ quoted updated.title ++ "." }]

/-- The cancellation `reassignProvider` starts with. -/
def reassignCancel (reportId : String) (reason : Option String) : Call :=
  .cancelAssignment reportId (some ((trimmedOrNull reason).getD "Reassigned by administrator"))

/-- Perform what follows from a report as it stands, if there is one. -/
def performFor (reportId : String) (effects : Report → List Effect) (s : Store) : Outcome :=
  match s.report? reportId with
  | some updated => performEffects env (effects updated) s
  | none => ⟨s, none⟩

/-- `reassignProvider`. -/
def reassignProvider (reportId providerId : String) (reason : Option String) : Outcome :=
  match s.report? reportId with
  | none => ⟨s, some (notFound "Report not found")⟩
  | some report =>
    let cancelled := if truthy report.assignedProviderId then
        execute cfg env s user (reassignCancel reportId reason)
      else ⟨s, none⟩
    (cancelled.andThen fun s =>
      execute cfg env s user (.assignProviderById reportId providerId {})).andThen
      (performFor env reportId
      (reassignEffects user reportId providerId reason report.assignedProviderId))

/-- A request with the user who makes it and the surroundings it is made in. -/
structure Event where
  env : Env
  user : JwtUser
  request : Request

/-- What a request leaves behind. -/
def outcome (cfg : Config) (event : Event) (s : Store) : Outcome :=
  match event.request with
  | .call call => execute cfg event.env s event.user call
  | .reassignProvider reportId providerId reason =>
    reassignProvider cfg event.env s event.user reportId providerId reason

/-- One step of a run. -/
def step (cfg : Config) (event : Event) (s : Store) : Store := (outcome cfg event s).store

variable {cfg s}

theorem outcome_of_call {event : Event} {call : Call} (h : event.request = .call call) :
    outcome cfg event s = execute cfg event.env s event.user call := by
  rw [outcome, h]

theorem outcome_of_reassign {event : Event} {reportId providerId : String} {reason : Option String}
    (h : event.request = .reassignProvider reportId providerId reason) :
    outcome cfg event s =
      reassignProvider cfg event.env s event.user reportId providerId reason := by
  rw [outcome, h]

/-! ### A small platform

One organization with its staff, a provider and a citizen, for runs on concrete inputs. -/

namespace Example

def citizen : JwtUser := { id := "citizen", role := .citizen, organizationId := some "org" }

def orgAdmin : JwtUser := { id := "admin", role := .orgAdmin, organizationId := some "org" }

def superAdmin : JwtUser := { id := "super", role := .superAdmin }

def provider : JwtUser := { id := "provider", role := .provider, organizationId := some "org" }

def surroundings (now : Millis) : Env where
  now := now
  newReportId := "report"
  users := [{ id := "provider", role := .provider, organizationId := some "org" }]

/-- A request at an instant. -/
def at_ (now : Millis) (user : JwtUser) (call : Call) : Event :=
  ⟨surroundings now, user, .call call⟩

/-- The citizen reports a broken street light. -/
def created : Event :=
  at_ 0 citizen
    (.createReport { title := "Broken light", category := "Lighting", location := "Garki" })

/-- The platform releases the report to dispatch, and the organization assigns its provider. -/
def dispatched : List Event :=
  [created, at_ 1 superAdmin (.updateStatus "report" { status := .orgReview }),
    at_ 2 superAdmin (.updateStatus "report" { status := .pending }),
    at_ 3 orgAdmin (.assignProviderById "report" "provider" {})]

end Example

/-- A store with a dispatched report. -/
def dispatchedStore : Store := run (step {}) Store.empty Example.dispatched

end FixZone.ReportService
