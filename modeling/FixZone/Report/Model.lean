import FixZone.Library.Guard
import FixZone.Library.Table
import FixZone.PlatformModules.Service
import FixZone.Report.Routing

/-!
# The state and the effects of the report service

The rows the methods of `ReportService` read and write, and what a method does to
them. A method is split where its code is: the part up to its first write reads the
store and either throws or says what to write (`Except HttpError (List Action)`),
and `performAll` then writes, one `Action` after the other. An action is a write of a
report together with the rows the code adds because of it (activities,
notifications, evidence records). Adding these rows never touches a report
(`performEffects_reports`), so what an action does to the reports is its `Patch` and
nothing else (`performAll_find?`).

Left out are the audit logs and the coordinates of a completion, which no method
reads back to decide anything.
-/

namespace FixZone.ReportService

open Library Organization

/-! ### Rows -/

/-- `Report`. The columns the citizen fills in are those of `RoutedReport`. -/
structure Report extends RoutedReport where
  id : String
  status : ReportStatus := .pending
  organizationId : String
  citizenId : String
  assignedProviderId : Option String := none
  assignedOrganizationId : Option String := none
  organizationAssignedById : Option String := none
  organizationAssignedAt : Option Millis := none
  organizationAssignmentSource : Option String := none
  assignedAt : Option Millis := none
  assignmentDeadlineAt : Option Millis := none
  lastAssignmentOutcome : Option AssignmentOutcome := none
  lastAssignmentReason : Option String := none
  lastAssignmentAt : Option Millis := none
  lastAssignmentProviderId : Option String := none
  completionNote : Option String := none
  completionImageUrl : Option String := none
  completionImagePath : Option String := none
  evidenceImageUrl : Option String := none
  evidenceImagePath : Option String := none
  completedByProviderAt : Option Millis := none
  citizenRating : Option ℕ := none
  citizenFeedback : Option String := none
  completionRejectionReason : Option String := none
  completionPolicy : Option CompletionPolicy := none
  completionPolicySource : Option String := none
  completionReviewState : Option CompletionReviewState := none
  completionReviewDeadlineAt : Option Millis := none
  completionReviewProcessedAt : Option Millis := none
  completionFallbackRule : Option String := none
  completionFinalActorType : Option String := none
  completionGovernanceHoldReason : Option String := none
  citizenCompletionDecision : Option CompletionDecision := none
  citizenCompletionDecidedAt : Option Millis := none
  organizationCompletionDecision : Option CompletionDecision := none
  organizationCompletionDecidedAt : Option Millis := none
  organizationCompletionDecidedById : Option String := none
  organizationCompletionReason : Option String := none
  completionFinalizedAt : Option Millis := none
  completionFinalizedById : Option String := none
  completionFinalizedByRole : Option UserRole := none
  completionClosureReason : Option String := none
  completionDisputeReason : Option String := none
  createdAt : Millis := 0

/-- `ReportActivity`; of its metadata the one key that is read back. -/
structure ReportActivity where
  reportId : String
  organizationId : String
  actorUserId : Option String
  actorRole : UserRole
  actorName : Option String
  action : String
  fromStatus : Option ReportStatus := none
  toStatus : Option ReportStatus := none
  providerId : Option String := none
  reason : Option String := none
  note : Option String := none
  responsibilityResolution : Option ResponsibilityResolutionDiagnostics := none

/-- What a notification says, and about which report. -/
structure Notice where
  reportId : String
  type : String
  title : String
  message : String
  deriving DecidableEq

/-- `Notification`. -/
structure Notification extends Notice where
  userId : String
  deriving DecidableEq

/-- `EvidenceRecord` of a report. -/
structure EvidenceRecord where
  relatedEntityId : String
  organizationId : String
  ownerUserId : String
  uploadedById : String
  fileUrl : String
  fileType : String
  description : String
  kind : String
  evidenceType : String
  imagePath : String
  order : ℕ

/-- `ProviderOrganization`: a membership of a provider. -/
structure ProviderOrganization where
  organizationId : String
  active : Bool

/-- What the report service reads of a `User` row. -/
structure User where
  id : String
  role : UserRole
  accountStatus : AccountStatus := .active
  organizationId : Option String := none
  providerOrganizations : List ProviderOrganization := []
  fullName : String := ""
  email : Option String := none
  phone : Option String := none

/-- What the report service stores. -/
structure Store where
  reports : Table Report.id
  activities : List ReportActivity
  notifications : List Notification
  evidenceRecords : List EvidenceRecord

/-- The store before the first request. -/
def Store.empty : Store := ⟨Table.empty _, [], [], []⟩

/-- `prisma.report.findUnique`. -/
def Store.report? (s : Store) (reportId : String) : Option Report := s.reports.find? reportId

/-! ### Callers and surroundings -/

/-- `JwtUser`, as `JwtStrategy` makes it: the id is always there. -/
structure JwtUser where
  id : String
  role : UserRole
  organizationId : Option String := none
  fullName : Option String := none
  email : Option String := none
  id_ne : id ≠ "" := by decide

/-- The settings of the process. `urlPathname` is `new URL(value).pathname`, nothing where the
constructor throws; `completionCategoryPolicies` is what `JSON.parse` makes of the environment
variable. -/
structure Config where
  assignmentTimeoutMinutes : ℤ := 30
  completionPolicy : Option String := none
  completionCategoryPolicies : Option Json := none
  completionReviewWindowHours : ℤ := 72
  locale : LocaleOrder := fun a b => a ≤ b
  urlPathname : String → Option String := fun _ => none

/-- The class of an exception. The last three are not thrown by the service itself:
Prisma finds no row for an update, Prisma finds the key taken, and a `TypeError`. -/
inductive ErrorKind where
  | forbidden | notFound | conflict | badRequest | unauthorized | internal | recordNotFound
  | uniqueConstraint | typeError
  deriving DecidableEq, Repr

/-- An exception. -/
structure HttpError where
  kind : ErrorKind
  message : String
  code : Option String := none
  reasons : List String := []
  limit : Option ℕ := none
  deriving DecidableEq, Repr

/-- `new ForbiddenException(message)`. -/
def forbidden (message : String) : HttpError := { kind := .forbidden, message }

/-- `new NotFoundException(message)`. -/
def notFound (message : String) : HttpError := { kind := .notFound, message }

/-- `new ConflictException(message)`. -/
def conflict (message : String) : HttpError := { kind := .conflict, message }

/-- `new BadRequestException(message)`. -/
def badRequest (message : String) : HttpError := { kind := .badRequest, message }

/-- A `TypeError` of the language. -/
def typeError : HttpError := { kind := .typeError, message := "TypeError" }

/-- A file that `UploadSecurityService` stored. -/
structure SavedEvidenceFile where
  imagePath : String
  imageUrl : String
  deriving DecidableEq

/-- What a request finds around the reports: the clock, the rows other services own, and
the verdicts of the services the report service calls. `reportLocation` is the source that
`normalizeReportLocation` settles on; `saveImage` and `assessCompletion` answer for the image at
an index of the request. -/
structure Env where
  now : Millis := 0
  newReportId : String := ""
  users : List User := []
  organizations : List ResponsibilityOrganizationProfile := []
  assets : AssetTables := {}
  completionPoliciesByCategory : Option Json := none
  providerJobAcceptance : Option HttpError := none
  reportLocation : Except HttpError String := .ok "UNKNOWN"
  saveImage : ℕ → Except HttpError SavedEvidenceFile := fun _ => .ok ⟨"", ""⟩
  assessCompletion : ℕ → Option HttpError := fun _ => none

/-- `prisma.user.findUnique`. -/
def Env.user? (env : Env) (id : String) : Option User := env.users.find? fun user => user.id = id

/-- `prisma.organization.findUnique`. -/
def Env.organization? (env : Env) (id : String) : Option ResponsibilityOrganizationProfile :=
  env.organizations.find? fun organization => organization.id = id

/-- `recordReportActivity`, the details apart. -/
def recordReportActivity (user : JwtUser) (reportId organizationId action : String) :
    ReportActivity where
  reportId := reportId
  organizationId := organizationId
  actorUserId := some user.id
  actorRole := user.role
  actorName := user.fullName <|> user.email
  action := action

/-- A title as the messages quote it. -/
def quoted (title : String) : String := "\"" ++ title ++ "\""

namespace JwtUser

variable (user : JwtUser)

/-- `getUserId`. -/
abbrev getUserId : String := user.id

/-- `isSuperAdmin`. -/
def isSuperAdmin : Bool := user.role = .superAdmin

/-- `isAdmin`. -/
def isAdmin : Bool := user.role = .orgAdmin

/-- `isDispatch`. -/
def isDispatch : Bool := user.role = .dispatchOfficer

/-- `isProvider`. -/
def isProvider : Bool := user.role = .provider

/-- The check `!isAdmin && !isDispatch && !isSuperAdmin`, negated. -/
def isOperator : Bool := user.isAdmin || user.isDispatch || user.isSuperAdmin

/-- `requireUserOrganizationId`. -/
def requireUserOrganizationId : Except HttpError String :=
  match user.organizationId with
  | some organizationId => if organizationId = "" then .error (forbidden "No org") else
      .ok organizationId
  | none => .error (forbidden "No org")

/-- `assertSuperAdmin`. -/
def assertSuperAdmin : Except HttpError PUnit :=
  throwIf (user.role ≠ .superAdmin) (forbidden "Super Admin completion governance required")

theorem requireUserOrganizationId_eq_ok {user : JwtUser} {organizationId : String} :
    user.requireUserOrganizationId = .ok organizationId ↔
      user.organizationId = some organizationId ∧ organizationId ≠ "" := by
  unfold requireUserOrganizationId
  cases user.organizationId with
  | none => simp
  | some id =>
    by_cases h : id = ""
    · simp only [if_pos h, Option.some.injEq]
      refine ⟨fun h => ?_, fun ⟨h1, h2⟩ => absurd (h1 ▸ h) h2⟩
      cases h
    · simp only [if_neg h, Except.ok.injEq, Option.some.injEq]
      exact ⟨fun h' => ⟨h', h' ▸ h⟩, And.left⟩

@[simp] theorem assertSuperAdmin_eq_ok {user : JwtUser} {u : PUnit} :
    user.assertSuperAdmin = .ok u ↔ user.role = .superAdmin := by
  simp [assertSuperAdmin]

end JwtUser

/-! ### Effects -/

/-- The event of a `WorkflowOrchestratorService` method. -/
inductive WorkflowEvent where
  | providerCompletedReport
  | citizenConfirmedCompletion
  | citizenRejectedCompletion (reportId organizationId : String) (providerId : Option String)

/-- A row that is added because of a write, or a call of the orchestrator. -/
inductive Effect where
  /-- `recordReportActivity`. -/
  | activity (row : ReportActivity)
  /-- `createNotification`. -/
  | notification (row : Notification)
  /-- `notifyOrganizationOperators`. -/
  | operators (organizationId : String) (notice : Notice)
  /-- `notifyPlatformResolvers`. -/
  | resolvers (notice : Notice)
  /-- `createEvidenceRecord`. -/
  | evidence (row : EvidenceRecord)
  /-- A method of the orchestrator, which first asserts that maintenance is active. -/
  | workflow (event : WorkflowEvent)

/-- The state a request leaves behind, and the exception it threw if it did. -/
structure Outcome where
  store : Store
  error : Option HttpError := none

/-- Go on with `f` unless an exception was thrown. -/
def Outcome.andThen (o : Outcome) (f : Store → Outcome) : Outcome :=
  match o.error with
  | none => f o.store
  | some _ => o

/-- `createNotification`: a notification that is there already is not repeated. -/
def createNotification (s : Store) (row : Notification) : Store :=
  if row ∈ s.notifications then s else { s with notifications := s.notifications ++ [row] }

/-- The operators of an organization `notifyOrganizationOperators` writes to. -/
def activeOperators (env : Env) (organizationId : String) : List User :=
  env.users.filter fun user =>
    user.organizationId = some organizationId &&
      (user.role = .orgAdmin || user.role = .dispatchOfficer) &&
      user.accountStatus = .active

/-- The staff `notifyPlatformResolvers` writes to. -/
def platformResolvers (env : Env) : List User :=
  (env.users.filter fun user =>
    [UserRole.superAdmin, .assignmentAdmin, .assetAdmin, .complianceAdmin,
    .regulatoryAdmin].contains user.role &&
      user.accountStatus = .active).take 50

/-- `NotificationPipelineService.emit`, which does not look for a notification that is there
already. -/
def publish (env : Env) (s : Store) : WorkflowEvent → Store
  | .providerCompletedReport | .citizenConfirmedCompletion => s
  | .citizenRejectedCompletion reportId organizationId providerId =>
    let toProvider := if truthy providerId then
        [{ userId := providerId.getD "", reportId, type := "completion_rejected",
           title := "Completion needs review",
           message := "The citizen marked the work incomplete. Please review the feedback." }]
      else []
    let toOperators := if organizationId = "" then [] else
      (activeOperators env organizationId).map fun operator =>
        { userId := operator.id, reportId, type := "completion_review_requested",
          title := "Citizen requested completion review",
          message := "A citizen marked provider work incomplete." }
    { s with notifications := s.notifications ++ toProvider ++ toOperators }

/-- `PolicyEngineService.assertMaintenanceActive`. -/
def assertMaintenanceActive (env : Env) : Except HttpError PUnit := do
  let access ← orThrow (PlatformModulesService.evaluateAccess
    (fun id => (env.organization? id).bind (·.enabledModules))
    { role := some .citizen } { moduleKey := "maintenance" }) typeError
  throwIf (access.allowed = false) (forbidden "Maintenance Services is not active")

/-- The registry says that it is. -/
theorem assertMaintenanceActive_eq_ok (env : Env) : assertMaintenanceActive env = .ok ⟨⟩ := rfl

/-- Perform one effect. -/
def performEffect (env : Env) (s : Store) : Effect → Outcome
  | .activity row => ⟨{ s with activities := s.activities ++ [row] }, none⟩
  | .notification row => ⟨createNotification s row, none⟩
  | .operators organizationId notice =>
    ⟨(activeOperators env organizationId).foldl
      (fun s operator => createNotification s { notice with userId := operator.id }) s, none⟩
  | .resolvers notice =>
    ⟨(platformResolvers env).foldl
      (fun s resolver => createNotification s { notice with userId := resolver.id }) s, none⟩
  | .evidence row => ⟨{ s with evidenceRecords := s.evidenceRecords ++ [row] }, none⟩
  | .workflow event =>
    match assertMaintenanceActive env with
    | .ok _ => ⟨publish env s event, none⟩
    | .error e => ⟨s, some e⟩

theorem performEffect_workflow (env : Env) (s : Store) (event : WorkflowEvent) :
    performEffect env s (.workflow event) = ⟨publish env s event, none⟩ := by
  rw [performEffect, assertMaintenanceActive_eq_ok]

/-- Perform effects in order, up to the first exception. -/
def performEffects (env : Env) : List Effect → Store → Outcome
  | [], s => ⟨s, none⟩
  | effect :: effects, s => (performEffect env s effect).andThen (performEffects env effects)

/-! ### Writes -/

/-- One write of a method, with the effects that follow it. An update names the row it
changes, the status it demands of it, if any, and the new values of its columns. -/
inductive Action where
  | create (report : Report) (effects : List Effect)
  | update (reportId : String) (status : Option ReportStatus) (data : Patch Report.id)
      (effects : Report → List Effect)
  | emit (effects : List Effect)
  | throw (error : HttpError)

/-- Perform one write. -/
def perform (env : Env) (s : Store) : Action → Outcome
  | .create report effects =>
    match s.report? report.id with
    | some _ => ⟨s, some { kind := .uniqueConstraint, message := "Unique constraint failed" }⟩
    | none => performEffects env effects { s with reports := s.reports.insert report }
  | .update reportId status data effects =>
    match (s.report? reportId).filter fun report => status.all (· = report.status) with
    | none => ⟨s, some { kind := .recordNotFound, message := "Record to update not found" }⟩
    | some report =>
      performEffects env (effects (data.apply report))
        { s with reports := s.reports.modify reportId data }
  | .emit effects => performEffects env effects s
  | .throw error => ⟨s, some error⟩

/-- Perform writes in order, up to the first exception. -/
def performAll (env : Env) : List Action → Store → Outcome
  | [], s => ⟨s, none⟩
  | action :: actions, s => (perform env s action).andThen (performAll env actions)

/-- Run a method: what its reading part returns is written. -/
def commit (env : Env) (s : Store) (read : Except HttpError (List Action)) : Outcome :=
  match read with
  | .error e => ⟨s, some e⟩
  | .ok actions => performAll env actions s

/-! ### What performing does to the reports -/

@[simp] theorem andThen_none {s : Store} {f : Store → Outcome} :
    (Outcome.mk s none).andThen f = f s := rfl

@[simp] theorem andThen_some {s : Store} {e : HttpError} {f : Store → Outcome} :
    (Outcome.mk s (some e)).andThen f = ⟨s, some e⟩ := rfl

/-- A sequence is carried out without exception when both its parts are. -/
theorem andThen_error_eq_none {o : Outcome} {f : Store → Outcome} :
    (o.andThen f).error = none ↔ o.error = none ∧ (f o.store).error = none := by
  unfold Outcome.andThen
  cases herror : o.error with
  | none => simp
  | some e => simp [herror]

/-- What holds of a state and is kept by what follows holds of the outcome. -/
theorem andThen_store {P : Store → Prop} {o : Outcome} {f : Store → Outcome} (ho : P o.store)
    (hf : P (f o.store).store) : P (o.andThen f).store := by
  unfold Outcome.andThen
  cases o.error with
  | none => exact hf
  | some e => exact ho

theorem createNotification_reports (s : Store) (row : Notification) :
    (createNotification s row).reports = s.reports := by
  unfold createNotification
  split <;> rfl

theorem foldl_createNotification_reports {α : Type} (f : α → Notification) (xs : List α) (s : Store) :
    (xs.foldl (fun s x => createNotification s (f x)) s).reports = s.reports := by
  induction xs generalizing s with
  | nil => rfl
  | cons x xs ih => exact (ih _).trans (createNotification_reports s (f x))

theorem performEffect_reports (env : Env) (s : Store) (effect : Effect) :
    (performEffect env s effect).store.reports = s.reports := by
  cases effect with
  | activity row => rfl
  | notification row => exact createNotification_reports s row
  | operators organizationId notice =>
    exact foldl_createNotification_reports (fun u : User => { notice with userId := u.id }) _ s
  | resolvers notice => exact foldl_createNotification_reports (fun u : User => { notice with userId := u.id }) _ s
  | evidence row => rfl
  | workflow event => cases event <;> rfl

/-- Effects never touch a report. -/
theorem performEffects_reports (env : Env) (effects : List Effect) (s : Store) :
    (performEffects env effects s).store.reports = s.reports := by
  induction effects generalizing s with
  | nil => rfl
  | cons effect effects ih =>
    exact andThen_store (P := fun t => t.reports = s.reports) (performEffect_reports env s effect)
      ((ih _).trans (performEffect_reports env s effect))

/-- Effects do not throw. -/
theorem performEffects_error (env : Env) (effects : List Effect) (s : Store) :
    (performEffects env effects s).error = none := by
  induction effects generalizing s with
  | nil => rfl
  | cons effect effects ih => cases effect <;> exact ih _

namespace Action

/-- What an action does to the report `id`, once performed. -/
def patchesOn (id : String) : Action → List (Patch Report.id)
  | .update reportId _ data _ => if reportId = id then [data] else []
  | .create .. | .emit _ | .throw _ => []

/-- Whether an action creates the report `id`. -/
def Creates (id : String) (report : Report) : Action → Prop
  | .create r _ => r = report ∧ r.id = id
  | .update .. | .emit _ | .throw _ => False

end Action

/-- The row after the patches `ps`, one after the other. -/
def applyAll (ps : List (Patch Report.id)) (r : Report) : Report :=
  ps.foldl (fun r p => p.apply r) r

@[simp] theorem applyAll_cons (p : Patch Report.id) (ps : List (Patch Report.id)) (r : Report) :
    applyAll (p :: ps) r = applyAll ps (p.apply r) := rfl

/-- An update that finds its row writes it, whatever the effects do. -/
theorem perform_update_report? (env : Env) {s : Store} {id : String} {status : Option ReportStatus}
    (data : Patch Report.id) (effects : Report → List Effect) {r : Report}
    (h : s.report? id = some r) (hstatus : status.all (· = r.status)) :
    (perform env s (.update id status data effects)).store.report? id = some (data.apply r) := by
  simp only [perform, h, Option.filter_some, hstatus, if_true]
  rw [Store.report?, performEffects_reports]
  exact Table.find?_modify_self data h

/-- An action changes an existing report by its patch or not at all. -/
theorem perform_report? (env : Env) {s : Store} {id : String} {r : Report}
    (h : s.report? id = some r) (action : Action) :
    ∃ pre, pre.Sublist (action.patchesOn id) ∧
      (perform env s action).store.report? id = some (applyAll pre r) := by
  cases action with
  | create report effects =>
    refine ⟨[], List.nil_sublist _, ?_⟩
    simp only [perform]
    split
    · exact h
    · rw [Store.report?, performEffects_reports]
      exact Table.find?_insert_of_some h
  | update reportId status data effects =>
    by_cases hid : reportId = id
    · subst hid
      by_cases hstatus : status.all (· = r.status)
      · exact ⟨[data], by simp [Action.patchesOn],
          perform_update_report? env data effects h hstatus⟩
      · refine ⟨[], List.nil_sublist _, ?_⟩
        simp only [perform, h, Option.filter_some, hstatus]
        exact h
    · refine ⟨[], List.nil_sublist _, ?_⟩
      simp only [perform]
      split
      · exact h
      · rw [Store.report?, performEffects_reports]
        exact (Table.find?_modify_of_ne data (Ne.symm hid)).trans h
  | emit effects =>
    refine ⟨[], List.nil_sublist _, ?_⟩
    rw [perform, Store.report?, performEffects_reports]
    exact h
  | throw error => exact ⟨[], List.nil_sublist _, h⟩

/-- Actions change an existing report by some of their patches of it, in their order. -/
theorem performAll_report? (env : Env) {s : Store} {id : String} {r : Report}
    (h : s.report? id = some r) (actions : List Action) :
    ∃ pre, pre.Sublist (actions.flatMap (Action.patchesOn id)) ∧
      (performAll env actions s).store.report? id = some (applyAll pre r) := by
  induction actions generalizing s r with
  | nil => exact ⟨[], List.nil_sublist _, h⟩
  | cons action actions ih =>
    obtain ⟨pre, hpre, hrow⟩ := perform_report? env h action
    rw [performAll, List.flatMap_cons, Outcome.andThen]
    cases herr : (perform env s action).error with
    | some e => exact ⟨pre, hpre.trans (List.sublist_append_left _ _), hrow⟩
    | none =>
      obtain ⟨post, hpost, hrow'⟩ := ih hrow
      refine ⟨pre ++ post, hpre.append hpost, ?_⟩
      rw [hrow', applyAll, applyAll, applyAll, List.foldl_append]

/-- Actions that do not create the report `id` do not bring it into being. -/
theorem perform_report?_none (env : Env) {s : Store} {id : String} (h : s.report? id = none)
    {action : Action} {r : Report} (hr : (perform env s action).store.report? id = some r) :
    action.Creates id r := by
  cases action with
  | create report effects =>
    simp only [perform] at hr
    split at hr
    · rw [h] at hr
      cases hr
    · next hfree =>
      rw [Store.report?, performEffects_reports, Table.find?_insert_of_free hfree] at hr
      split at hr
      · next hid => exact ⟨Option.some.inj hr, hid.symm⟩
      · exact absurd (h.symm.trans hr) (by simp)
  | update reportId status data effects =>
    simp only [perform] at hr
    split at hr
    · rw [h] at hr
      cases hr
    · rw [Store.report?, performEffects_reports, Table.find?_modify] at hr
      have hnone : s.reports.find? id = none := h
      rw [hnone] at hr
      split at hr <;> cases hr
  | emit effects =>
    rw [perform, Store.report?, performEffects_reports] at hr
    exact absurd (h.symm.trans hr) (by simp)
  | throw error => exact absurd (h.symm.trans hr) (by simp)

/-- Actions that create no report `id` leave it missing. -/
theorem performAll_report?_none (env : Env) {s : Store} {id : String} (h : s.report? id = none)
    {actions : List Action} (hnew : ∀ action ∈ actions, ∀ r, ¬ action.Creates id r) :
    (performAll env actions s).store.report? id = none := by
  induction actions generalizing s with
  | nil => exact h
  | cons action actions ih =>
    have hfirst : (perform env s action).store.report? id = none := by
      cases hr : (perform env s action).store.report? id with
      | none => rfl
      | some r => exact absurd (perform_report?_none env h hr) (hnew action List.mem_cons_self r)
    exact andThen_store (P := fun t => t.report? id = none) hfirst
      (ih hfirst fun a ha => hnew a (List.mem_cons_of_mem _ ha))

theorem perform_update_report?_of_ne (env : Env) {s : Store} {reportId id : String}
    (status : Option ReportStatus) (data : Patch Report.id) (effects : Report → List Effect)
    (hid : reportId ≠ id) :
    (perform env s (.update reportId status data effects)).store.report? id = s.report? id := by
  simp only [perform]
  split
  · rfl
  · rw [Store.report?, performEffects_reports]
    exact Table.find?_modify_of_ne data (Ne.symm hid)

/-- One update that finds its report writes it and no other. -/
theorem commit_update_report? {env : Env} {s : Store} {reportId id : String}
    {data : Patch Report.id}
    {effects : Report → List Effect} {r : Report} (h : s.report? id = some r) :
    (commit env s (.ok [.update reportId none data effects])).store.report? id =
      some (if reportId = id then data.apply r else r) := by
  have hall : (commit env s (.ok [.update reportId none data effects])).store.report? id =
      (perform env s (.update reportId none data effects)).store.report? id := by
    rw [commit, performAll, Outcome.andThen]
    cases (perform env s (.update reportId none data effects)).error <;> rfl
  rw [hall]
  split
  · next hid =>
    subst hid
    exact perform_update_report? env data effects h rfl
  · next hid => exact (perform_update_report?_of_ne env none data effects hid).trans h

/-- An exception after the writes leaves what they wrote. -/
theorem performAll_append_throw (env : Env) (actions : List Action) (e : HttpError) (s : Store) :
    (performAll env (actions ++ [.throw e]) s).store = (performAll env actions s).store := by
  induction actions generalizing s with
  | nil => rfl
  | cons action actions ih =>
    rw [List.cons_append, performAll, performAll, Outcome.andThen, Outcome.andThen]
    cases (perform env s action).error with
    | none => exact ih _
    | some e => rfl

/-- A method that ends in an exception ends in one. -/
theorem performAll_append_throw_error (env : Env) (actions : List Action) (e : HttpError)
    (s : Store) :
    (performAll env (actions ++ [.throw e]) s).error ≠ none := by
  induction actions generalizing s with
  | nil => simp [performAll, perform]
  | cons action actions ih =>
    rw [List.cons_append, performAll, Outcome.andThen]
    cases herror : (perform env s action).error with
    | none => exact ih _
    | some e => simp [herror]

/-- An update that finds its report in the status it demands does not throw. -/
theorem perform_update_error {env : Env} {s : Store} {id : String} {status : Option ReportStatus}
    {data : Patch Report.id} {effects : Report → List Effect} {r : Report}
    (h : s.report? id = some r) (hstatus : status.all (· = r.status)) :
    (perform env s (.update id status data effects)).error = none := by
  simp only [perform, h, Option.filter_some, hstatus, if_true]
  exact performEffects_error env _ _

/-- Reports as they are in the store, other than `id`, still are so after an update of `id`. -/
theorem perform_update_rest (env : Env) {s : Store} {id : String} {status : Option ReportStatus}
    (data : Patch Report.id) (effects : Report → List Effect) {xs : List Report}
    (hid : id ∉ xs.map (·.id))
    (hxs : ∀ x ∈ xs, s.report? x.id = some x ∧ status.all (· = x.status)) :
    ∀ x ∈ xs, (perform env s (.update id status data effects)).store.report? x.id = some x ∧
      status.all (· = x.status) := by
  intro x hx
  obtain ⟨hrow, hstatus⟩ := hxs x hx
  have hne : id ≠ x.id := fun he => hid (he ▸ List.mem_map_of_mem hx)
  exact ⟨(perform_update_report?_of_ne env _ _ _ hne).trans hrow, hstatus⟩

/-- Updates of distinct reports, each of which is as it is in the store, do not throw. -/
theorem performAll_updates_error (env : Env) (status : Option ReportStatus)
    (data : Report → Patch Report.id) {effects : Report → Report → List Effect}
    {xs : List Report} (hnd : (xs.map (·.id)).Nodup) {s : Store}
    (hxs : ∀ x ∈ xs, s.report? x.id = some x ∧ status.all (· = x.status)) :
    (performAll env (xs.map fun x => .update x.id status (data x) (effects x)) s).error = none := by
  induction xs generalizing s with
  | nil => rfl
  | cons x xs ih =>
    rw [List.map_cons, List.nodup_cons] at hnd
    obtain ⟨hx, hstatus⟩ := hxs x List.mem_cons_self
    have hrest := perform_update_rest env (data x) (effects x) hnd.1
      fun y hy => hxs y (List.mem_cons_of_mem _ hy)
    rw [List.map_cons, performAll, Outcome.andThen,
      perform_update_error hx hstatus]
    exact ih hnd.2 hrest

/-- Updates of distinct reports, each of which is as it is in the store, all take place. -/
theorem performAll_updates (env : Env) (status : Option ReportStatus)
    (data : Report → Patch Report.id) {effects : Report → Report → List Effect}
    {xs : List Report} (hnd : (xs.map (·.id)).Nodup) {s : Store}
    (hxs : ∀ x ∈ xs, s.report? x.id = some x ∧ status.all (· = x.status)) {id : String} {r : Report}
    (h : s.report? id = some r) :
    (performAll env (xs.map fun x => .update x.id status (data x) (effects x)) s).store.report? id =
      some (if id ∈ xs.map (·.id) then (data r).apply r else r) := by
  induction xs generalizing s r with
  | nil =>
    rw [if_neg (by simp)]
    exact h
  | cons x xs ih =>
    rw [List.map_cons, List.nodup_cons] at hnd
    obtain ⟨hx, hstatus⟩ := hxs x List.mem_cons_self
    have hrest := perform_update_rest env (data x) (effects x) hnd.1
      fun y hy => hxs y (List.mem_cons_of_mem _ hy)
    rw [List.map_cons, performAll, Outcome.andThen,
      perform_update_error hx hstatus]
    by_cases hid : x.id = id
    · subst hid
      have hrx : x = r := Option.some.inj (hx.symm.trans h)
      subst hrx
      have hrow := ih hnd.2 hrest (perform_update_report? env (data x) (effects x) h hstatus)
      rw [if_neg hnd.1] at hrow
      rw [if_pos (by simp)]
      exact hrow
    · have hrow := ih hnd.2 hrest ((perform_update_report?_of_ne env _ _ _ hid).trans h)
      have hmem : id ∈ (x :: xs).map (·.id) ↔ id ∈ xs.map (·.id) := by
        simp [Ne.symm hid]
      simp only [hmem]
      exact hrow

end FixZone.ReportService
