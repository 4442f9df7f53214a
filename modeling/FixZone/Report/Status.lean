import FixZone.Report.Assignment

/-!
# Work on a report

`updateStatus`, by which a provider starts work and submits its completion, and the
two uploads of evidence.
-/

namespace FixZone.ReportService

open Library Organization

variable (cfg : Config) (env : Env) (s : Store)

/-! ### Evidence fields -/

/-- `extractLocalUploadPath`. -/
def extractLocalUploadPath (value : Option String) : Option String :=
  let text := trimmed value
  if text = "" then none
  else
    let slashed := text.toList.map fun c => if c = '\\' then '/' else c
    let rooted := (((cfg.urlPathname text).map String.toList).getD slashed).dropWhile (· = '/')
    let path := if "uploads/".toList.isPrefixOf rooted then rooted.drop 8 else rooted
    if ["report-completion/", "report-evidence/", "demo/"].any
      (fun root => root.toList.isPrefixOf path) &&
        (path.splitOn '/').all (fun segment => segment ∉ [[], ['.'], ['.', '.']]) &&
        path.all (fun c => c.isAlphanum || c ∈ ['.', '_', '~', '/', '-']) then
      some (String.ofList path)
    else none

/-- `normalizeExternalImageUrl`. -/
def normalizeExternalImageUrl (value : Option String) : Option String :=
  let text := trimmed value
  if text = "" then none
  else match extractLocalUploadPath cfg (some text) with
    | some localPath => some ("/uploads/" ++ localPath)
    | none =>
      let lowered := text.toList.map Char.toLower
      if "http://".toList.isPrefixOf lowered || "https://".toList.isPrefixOf lowered then
        some text else none

/-- `imagePath` and `imageUrl` of a completion. -/
structure EvidenceFields where
  imagePath : Option String
  imageUrl : Option String
  deriving DecidableEq

/-- `normalizeCompletionEvidenceFields`. -/
def normalizeCompletionEvidenceFields (imageUrl imagePath : Option String) : EvidenceFields :=
  match extractLocalUploadPath cfg imagePath <|> extractLocalUploadPath cfg imageUrl with
  | some path => ⟨some path, some ("/uploads/" ++ path)⟩
  | none => ⟨none, normalizeExternalImageUrl cfg imageUrl⟩

/-- The evidence records of a report of one kind. -/
def evidenceCount (reportId kind : String) : ℕ :=
  s.evidenceRecords.countP fun record => record.relatedEntityId = reportId &&
    includes record.fileUrl kind

/-! ### Status updates -/

/-- `UpdateReportStatusDto`, the coordinates of the completion apart. -/
structure UpdateReportStatusDto where
  status : ReportStatus
  completionNote : Option String := none
  completionImageUrl : Option String := none
  completionImagePath : Option String := none

/-- `assertStatusTransitionAllowed`. -/
def assertStatusTransitionAllowed (report : Report) (nextStatus : ReportStatus) (user : JwtUser) :
    Except HttpError PUnit := do
  throwIf (nextStatus = .assigned)
    (forbidden "Use provider assignment to move a report to ASSIGNED")
  throwIf (!canTransitionReportStatus report.status nextStatus)
    (forbidden ("Invalid status transition from " ++ report.status.text ++ " to " ++
      nextStatus.text))
  if user.isProvider then
    throwIf (report.assignedProviderId ≠ some user.getUserId) (forbidden "Not your report")
    throwIf (nextStatus ≠ .inProgress ∧ nextStatus ≠ .completedByProvider)
      (forbidden "Invalid status for provider")
  else if user.isAdmin || user.isDispatch then
    throwIf (some report.organizationId ≠ user.organizationId) (forbidden "Wrong org")
  else
    throwIf (!user.isSuperAdmin) (forbidden "Not allowed")

/-- Who may move a report to a status, and from where. -/
structure TransitionAllowed (user : JwtUser) (report : Report) (next : ReportStatus) : Prop where
  direct : next ≠ .assigned
  transition : canTransitionReportStatus report.status next
  authority :
    user.role = .provider ∧ report.assignedProviderId = some user.id ∧
        (next = .inProgress ∨ next = .completedByProvider) ∨
      (user.role = .orgAdmin ∨ user.role = .dispatchOfficer) ∧
        some report.organizationId = user.organizationId ∨
      user.role = .superAdmin

theorem assertStatusTransitionAllowed_eq_ok {report : Report} {next : ReportStatus} {user : JwtUser}
    {u : PUnit} :
    assertStatusTransitionAllowed report next user = .ok u ↔
      TransitionAllowed user report next := by
  simp only [assertStatusTransitionAllowed, throwIf_bind_eq_ok]
  constructor
  · rintro ⟨h1, h2, h⟩
    refine ⟨h1, by simpa using h2, ?_⟩
    split at h
    · rw [throwIf_bind_eq_ok, throwIf_eq_ok] at h
      grind [JwtUser.isProvider]
    · split at h
      · rw [throwIf_eq_ok] at h
        grind [JwtUser.isAdmin, JwtUser.isDispatch]
      · rw [throwIf_eq_ok] at h
        grind [JwtUser.isSuperAdmin]
  · rintro ⟨h1, h2, h⟩
    refine ⟨h1, by simpa using h2, ?_⟩
    rcases h with ⟨hrole, hown, hnext⟩ | ⟨hrole, horg⟩ | hrole
    · rw [if_pos (by simp [JwtUser.isProvider, hrole]), throwIf_bind_eq_ok, throwIf_eq_ok]
      grind
    · rw [if_neg (by grind [JwtUser.isProvider]),
        if_pos (by grind [JwtUser.isAdmin, JwtUser.isDispatch]),
        throwIf_eq_ok]
      grind
    · rw [if_neg (by grind [JwtUser.isProvider]),
        if_neg (by grind [JwtUser.isAdmin, JwtUser.isDispatch]),
        throwIf_eq_ok]
      grind [JwtUser.isSuperAdmin]

/-- `activityActionForStatus`. -/
def activityActionForStatus : ReportStatus → String
  | .assigned => "PROVIDER_ASSIGNED"
  | .inProgress => "PROVIDER_STARTED_WORK"
  | .completedByProvider => "PROVIDER_SUBMITTED_COMPLETION"
  | .closed => "REPORT_CLOSED"
  | .triage | .orgReview | .pending => "REPORT_STATUS_CHANGED"

/-- `notifyCompletionReviewers`. -/
def notifyCompletionReviewers (report : Report) : List Effect :=
  let policy := report.completionPolicy.getD .citizenConfirmationRequired
  (if [.citizenConfirmationRequired, .bothRequired, .citizenOrOrganization,
    .autoCloseAfterReviewWindow].contains
      policy then
    [.notification
      { userId := report.citizenId, reportId := report.id, type := "completion_review",
        title := "Ready for review",
        message := "The provider marked " ++ quoted report.title ++
          " complete. Please review it." }]
  else []) ++
  (if [.organizationConfirmationRequired, .bothRequired, .citizenOrOrganization,
      .autoCloseAfterReviewWindow].contains policy then
    [.operators report.organizationId
      { reportId := report.id, type := "organization_completion_review",
        title := "Completion verification required",
        message := "Provider submitted completion evidence for " ++ quoted report.title ++ "." }]
  else []) ++
  (if policy = .adminResolutionRequired then
    [.resolvers
      { reportId := report.id, type := "admin_completion_resolution_required",
        title := "Completion resolution required",
        message := "Completion for " ++ quoted report.title ++ " requires platform resolution." }]
  else [])

/-- The columns `updateStatus` writes, but for a completion. -/
@[simp] def statusData (status : ReportStatus) : Patch Report.id where
  apply r := { r with status }

/-- The columns `updateStatus` writes for a completion. -/
@[simp] def completionData (dto : UpdateReportStatusDto) (evidence : EvidenceFields)
    (policy : CompletionPolicyResolution) : Patch Report.id where
  apply r := { r with
    status := dto.status
    completionNote := trimmedOrNull dto.completionNote
    completionImageUrl := evidence.imageUrl
    completionImagePath := evidence.imagePath
    completedByProviderAt := some env.now
    completionPolicy := some policy.policy
    completionPolicySource := some policy.source
    completionReviewState := some (reviewStateFor policy.policy none none)
    completionReviewDeadlineAt := reviewDeadlineFor cfg env policy.policy
    completionReviewProcessedAt := none
    completionFallbackRule := none
    completionFinalActorType := none
    citizenCompletionDecision := some .pending
    citizenCompletionDecidedAt := none
    organizationCompletionDecision := some .pending
    organizationCompletionDecidedAt := none
    organizationCompletionDecidedById := none
    organizationCompletionReason := none
    completionFinalizedAt := none
    completionFinalizedById := none
    completionFinalizedByRole := none
    completionClosureReason := none
    completionDisputeReason := none
    completionRejectionReason := none }

/-- What follows `updateStatus`. -/
def updateStatusEffects (user : JwtUser) (dto : UpdateReportStatusDto) (report updated : Report) :
    List Effect :=
  (if dto.status = .completedByProvider then
    notifyCompletionReviewers updated ++ [.workflow .providerCompletedReport]
  else notifyStatusChange updated) ++
  [.activity { recordReportActivity user report.id updated.organizationId
      (activityActionForStatus dto.status) with
      fromStatus := some report.status
      toStatus := some updated.status
      providerId := updated.assignedProviderId
      note := trimmedOrNull dto.completionNote }]

/-- The part of `updateStatus` after the guards: what it writes. -/
def statusUpdate (reportId : String) (dto : UpdateReportStatusDto) (user : JwtUser)
    (report : Report) : Except HttpError (List Action) := do
  if dto.status = .completedByProvider then
    let evidence :=
      normalizeCompletionEvidenceFields cfg dto.completionImageUrl dto.completionImagePath
    throwIf (!truthy evidence.imagePath && !truthy evidence.imageUrl &&
        evidenceCount s reportId "report-completion" = 0)
      { kind := .badRequest, code := some "COMPLETION_EVIDENCE_REQUIRED",
        message := "Upload at least one completion evidence image." }
    let policy ← orThrow (resolveCompletionPolicy cfg env report) typeError
    return [.update reportId none (completionData cfg env dto evidence policy)
      (updateStatusEffects user dto report)]
  else return [.update reportId none (statusData dto.status) (updateStatusEffects user dto report)]

/-- `TrustService.assertProviderJobAcceptanceAllowed`. -/
def assertProviderJobAcceptanceAllowed : Except HttpError PUnit :=
  match env.providerJobAcceptance with
  | some refusal => .error refusal
  | none => .ok ⟨⟩

/-- `updateStatus`. -/
def updateStatus (reportId : String) (dto : UpdateReportStatusDto) (user : JwtUser) :
    Except HttpError (List Action) := do
  let report ← orThrow (s.report? reportId) (notFound "Report not found")
  checkWhen user.isProvider (assertActiveProvider env user.getUserId)
  assertProviderCanAccessReport env user report
  if user.isProvider && dto.status = .inProgress && assignmentLapsed env report user.getUserId then
    return expireAndRefuse env s user
  checkWhen (user.isProvider && dto.status = .inProgress) (assertProviderJobAcceptanceAllowed env)
  assertStatusTransitionAllowed report dto.status user
  statusUpdate cfg env s reportId dto user report

variable {cfg env s}

/-- Whether a status update is a provider's that starts work after the deadline. -/
def startsLate (env : Env) (user : JwtUser) (report : Report) (next : ReportStatus) : Bool :=
  user.isProvider && next = .inProgress && assignmentLapsed env report user.getUserId

/-- What a provider has to be for a status update, besides being the report's. -/
def ProviderReady (env : Env) (user : JwtUser) (next : ReportStatus) : Prop :=
  user.isProvider → ActiveProvider env user.id ∧
    (next = .inProgress → env.providerJobAcceptance = none)

/-- What a completion needs, and the policy it is put under. -/
structure CompletionReady (cfg : Config) (env : Env) (s : Store) (report : Report)
    (dto : UpdateReportStatusDto) (policy : CompletionPolicyResolution) : Prop where
  evidence : truthy
    (normalizeCompletionEvidenceFields cfg dto.completionImageUrl
      dto.completionImagePath).imagePath ∨
    truthy (normalizeCompletionEvidenceFields cfg dto.completionImageUrl
      dto.completionImagePath).imageUrl ∨
    evidenceCount s report.id "report-completion" ≠ 0
  policy : resolveCompletionPolicy cfg env report = some policy

theorem statusUpdate_eq_ok {reportId : String} {dto : UpdateReportStatusDto} {user : JwtUser}
    {report : Report} {actions : List Action} (hid : report.id = reportId) :
    statusUpdate cfg env s reportId dto user report = .ok actions ↔
      dto.status ≠ .completedByProvider ∧
          [.update reportId none (statusData dto.status) (updateStatusEffects user dto report)] =
            actions ∨
        dto.status = .completedByProvider ∧ ∃ policy, CompletionReady cfg env s report dto policy ∧
          [.update reportId none
            (completionData cfg env dto
              (normalizeCompletionEvidenceFields cfg dto.completionImageUrl dto.completionImagePath)
                policy)
            (updateStatusEffects user dto report)] = actions := by
  subst hid
  unfold statusUpdate
  by_cases hc : dto.status = .completedByProvider
  · rw [if_pos hc]
    simp only [throwIf_bind_eq_ok, orThrow_bind_eq_ok, pure_eq_ok]
    constructor
    · rintro ⟨hev, policy, hpolicy, h⟩
      exact .inr ⟨hc, policy, ⟨by grind, hpolicy⟩, h⟩
    · rintro (⟨h, -⟩ | ⟨-, policy, ⟨hev, hpolicy⟩, h⟩)
      · exact absurd hc h
      · exact ⟨by grind, policy, hpolicy, h⟩
  · rw [if_neg hc, pure_eq_ok]
    exact ⟨fun h => .inl ⟨hc, h⟩, fun h => h.elim And.right fun h => absurd h.1 hc⟩

theorem assertProviderJobAcceptanceAllowed_eq_ok {u : PUnit} :
    assertProviderJobAcceptanceAllowed env = .ok u ↔ env.providerJobAcceptance = none := by
  unfold assertProviderJobAcceptanceAllowed
  cases env.providerJobAcceptance <;> simp

theorem updateStatus_eq_ok {reportId : String} {dto : UpdateReportStatusDto} {user : JwtUser}
    {actions : List Action} :
    updateStatus cfg env s reportId dto user = .ok actions ↔
      ∃ report, s.report? reportId = some report ∧
        ((user.isProvider ∧ ActiveProvider env user.id ∧ startsLate env user report dto.status ∧
            expireAndRefuse env s user = actions) ∨
          (startsLate env user report dto.status = false ∧ ProviderReady env user dto.status ∧
            TransitionAllowed user report dto.status ∧
            statusUpdate cfg env s reportId dto user report = .ok actions)) := by
  simp only [updateStatus, orThrow_bind_eq_ok, check_bind_eq_ok, checkWhen_eq_ok,
    assertActiveProvider_eq_ok]
  constructor
  · rintro ⟨report, hr, hactive, -, h⟩
    refine ⟨report, hr, ?_⟩
    split at h
    · next hlate =>
      have hprovider : user.isProvider := by grind
      exact .inl ⟨hprovider, hactive hprovider, hlate, pure_eq_ok.mp h⟩
    · next hlate =>
      simp only [check_bind_eq_ok, checkWhen_eq_ok, assertProviderJobAcceptanceAllowed_eq_ok,
        assertStatusTransitionAllowed_eq_ok] at h
      obtain ⟨haccept, hallowed, h⟩ := h
      exact .inr ⟨by simpa [startsLate] using hlate,
        fun hprovider => ⟨hactive hprovider, fun hnext => haccept (by simp [hprovider, hnext])⟩,
        hallowed, h⟩
  · rintro ⟨report, hr, ⟨hprovider, hactive, hlate, h⟩ | ⟨hlate, hready, hallowed, h⟩⟩
    · have hown : report.assignedProviderId = some user.id := by
        grind [startsLate, assignmentLapsed]
      refine ⟨report, hr, fun _ => hactive, assertProviderCanAccessReport_of_assigned hown, ?_⟩
      rw [if_pos (by simpa [startsLate] using hlate), h]
      rfl
    · have haccess : assertProviderCanAccessReport env user report = .ok ⟨⟩ := by
        by_cases hprovider : user.role = .provider
        · refine assertProviderCanAccessReport_of_assigned ?_
          grind [hallowed.authority]
        · exact throwIf_of_not (by simp [JwtUser.isProvider, hprovider])
      refine ⟨report, hr, fun hprovider => (hready hprovider).1, haccess, ?_⟩
      rw [if_neg (by simpa [startsLate] using hlate)]
      simp only [check_bind_eq_ok, checkWhen_eq_ok, assertProviderJobAcceptanceAllowed_eq_ok,
        assertStatusTransitionAllowed_eq_ok]
      exact ⟨fun hstart => (hready (by grind)).2 (by grind), hallowed, h⟩

/-! ### Evidence uploads -/

variable (cfg env s)

/-- One image of `UploadReportEvidenceDto` or `UploadCompletionEvidenceDto`. -/
structure EvidenceImage where
  contentType : Option String := none
  imageBase64 : Option String := none
  classification : Option String := none
  order : Option ℕ := none

/-- `UploadReportEvidenceDto` and `UploadCompletionEvidenceDto`: an image, or a list of
them, for which the latter may also list as many geo metadata. -/
structure UploadEvidenceDto extends EvidenceImage where
  images : List EvidenceImage := []
  imageGeoMetadata : Option ℕ := none

/-- The images of an upload, each of which must be there. -/
def evidencePayloads (message : String) (dto : UploadEvidenceDto) :
    Except HttpError (List EvidenceImage) := do
  let images := if dto.images.isEmpty then [dto.toEvidenceImage] else dto.images
  throwIf (images.any fun image => !truthy image.contentType || !truthy image.imageBase64)
    (badRequest message)
  return images

/-- `reportEvidencePayloads`. -/
def reportEvidencePayloads (dto : UploadEvidenceDto) : Except HttpError (List EvidenceImage) :=
  evidencePayloads "Evidence image is required" dto

/-- `completionEvidencePayloads`. -/
def completionEvidencePayloads (dto : UploadEvidenceDto) : Except HttpError (List EvidenceImage) :=
  do
  throwIf (!dto.images.isEmpty && dto.imageGeoMetadata.any (· ≠ dto.images.length))
    { kind := .badRequest, code := some "GEO_METADATA_IMAGE_COUNT_MISMATCH",
      message := "Completion geo metadata must match the image count." }
  evidencePayloads "Completion evidence image is required" dto

/-- `assertEvidenceLimit`, with the limit and the message of `evidenceLimitFor`. -/
def assertEvidenceLimit (reportId kind : String) (limit : ℕ) (message : String)
    (incomingCount : ℕ) : Except HttpError PUnit := do
  throwIf (incomingCount < 1) (badRequest "At least one evidence image is required")
  throwIf (limit < evidenceCount s reportId kind + incomingCount)
    { kind := .badRequest, code := some "EVIDENCE_LIMIT_EXCEEDED", message, limit := some limit }

/-- `providerEvidenceType`. -/
def providerEvidenceType (classification : Option String) : String :=
  if classification = some "before" then "BEFORE_WORK"
  else if classification = some "during" then "DURING_WORK"
  else "AFTER_WORK"

/-- The loop over the images of an upload: the actions it takes, image after image, and
the files saved, or the exception of the image that failed. -/
def saveImages (assess : ℕ → Option HttpError)
    (record : ℕ → EvidenceImage → SavedEvidenceFile → EvidenceRecord) :
    ℕ → List EvidenceImage → List Action × Except HttpError (List SavedEvidenceFile)
  | _, [] => ([], .ok [])
  | index, image :: images =>
    match assess index, env.saveImage index with
    | some e, _ => ([], .error e)
    | none, .error e => ([], .error e)
    | none, .ok saved =>
      let (actions, rest) := saveImages assess record (index + 1) images
      (.emit [.evidence (record index image saved)] :: actions, rest.map (saved :: ·))

/-- The columns an upload writes: the first file, unless the report has an image already. -/
@[simp] def completionImageData (saved : SavedEvidenceFile) : Patch Report.id where
  apply r := { r with
    completionImagePath := some saved.imagePath
    completionImageUrl := some saved.imageUrl }

/-- The columns `uploadReportEvidence` writes. -/
@[simp] def evidenceImageData (saved : Option SavedEvidenceFile) : Patch Report.id where
  apply r := match saved with
    | some saved => { r with
        evidenceImagePath := some saved.imagePath
        evidenceImageUrl := some saved.imageUrl }
    | none => r
  key_apply r := by cases saved <;> rfl

/-- The activity of an upload. -/
def uploadActivity (user : JwtUser) (action : String) (report : Report)
    (providerId : Option String) : Effect :=
  .activity { recordReportActivity user report.id report.organizationId action with
    fromStatus := some report.status
    toStatus := some report.status
    providerId }

/-- `uploadCompletionEvidence`. -/
def uploadCompletionEvidence (reportId : String) (dto : UploadEvidenceDto) (user : JwtUser) :
    Except HttpError (List Action) := do
  throwIf (!user.isProvider) (forbidden "Only providers allowed")
  assertActiveProvider env user.getUserId
  let report ← orThrow (s.report? reportId) (notFound "Report not found")
  throwIf (report.assignedProviderId ≠ some user.getUserId) (forbidden "Not your report")
  assertProviderCanAccessReport env user report
  throwIf (report.status ≠ .inProgress)
    (forbidden "Only in-progress jobs can receive completion evidence")
  let images ← completionEvidencePayloads dto
  assertEvidenceLimit s reportId "report-completion" 10
    "You can upload up to 10 completion evidence images."
    images.length
  let record index (image : EvidenceImage) (saved : SavedEvidenceFile) : EvidenceRecord :=
    { relatedEntityId := reportId, organizationId := report.organizationId,
      ownerUserId := report.citizenId
      uploadedById := user.getUserId, fileUrl := saved.imageUrl, fileType :=
      image.contentType.getD ""
      description := "Provider completion evidence", kind := "report-completion"
      evidenceType := providerEvidenceType image.classification, imagePath := saved.imagePath
      order := image.order.getD index }
  let activity := uploadActivity user "COMPLETION_EVIDENCE_UPLOADED" report (some user.getUserId)
  match saveImages env env.assessCompletion record 0 images with
  | (actions, .error e) => return actions ++ [.throw e]
  | (actions, .ok savedItems) =>
    match savedItems with
    | firstSaved :: _ =>
      if truthy report.completionImagePath || truthy report.completionImageUrl then
        return actions ++ [.emit [activity]]
      else return actions ++
        [.update reportId none (completionImageData firstSaved) fun _ => [activity]]
    | [] => return actions ++ [.emit [activity]]

/-- `uploadReportEvidence`. -/
def uploadReportEvidence (reportId : String) (dto : UploadEvidenceDto) (user : JwtUser) :
    Except HttpError (List Action) := do
  throwIf (user.role ≠ .citizen) (forbidden "Only citizens can upload report evidence")
  let report ← orThrow (s.report? reportId) (notFound "Report not found")
  throwIf (report.citizenId ≠ user.getUserId) (forbidden "Not your report")
  let images ← reportEvidencePayloads dto
  assertEvidenceLimit s reportId "report-evidence" 5
    "You can upload up to 5 report evidence images."
    images.length
  let record index (image : EvidenceImage) (saved : SavedEvidenceFile) : EvidenceRecord :=
    { relatedEntityId := reportId, organizationId := report.organizationId,
      ownerUserId := user.getUserId
      uploadedById := user.getUserId, fileUrl := saved.imageUrl, fileType :=
      image.contentType.getD ""
      description := "Citizen report evidence", kind := "report-evidence"
      evidenceType := "CITIZEN_REPORT", imagePath := saved.imagePath, order :=
      image.order.getD index }
  match saveImages env (fun _ => none) record 0 images with
  | (actions, .error e) => return actions ++ [.throw e]
  | (actions, .ok savedItems) =>
    let firstSaved :=
      if truthy report.evidenceImagePath || truthy report.evidenceImageUrl then none else
        savedItems.head?
    return actions ++ [.update reportId none (evidenceImageData firstSaved) fun _ =>
      [uploadActivity user "REPORT_EVIDENCE_UPLOADED" report none]]

variable {cfg env s}

/-- Saving images writes no report. -/
theorem saveImages_patchesOn (env : Env) (assess : ℕ → Option HttpError)
    (record : ℕ → EvidenceImage → SavedEvidenceFile → EvidenceRecord) (index : ℕ)
    (images : List EvidenceImage) (id : String) :
    (saveImages env assess record index images).1.flatMap (Action.patchesOn id) = [] := by
  induction images generalizing index with
  | nil => rfl
  | cons image images ih =>
    unfold saveImages
    split
    · rfl
    · rfl
    · exact ih (index + 1)

/-- An upload by the provider touches the completion image of its report alone. -/
theorem uploadCompletionEvidence_patchesOn {reportId : String} {dto : UploadEvidenceDto}
    {user : JwtUser}
    {actions : List Action} (h : uploadCompletionEvidence env s reportId dto user = .ok actions)
    (id : String) :
    actions.flatMap (Action.patchesOn id) = [] ∨
      ∃ saved, reportId = id ∧ actions.flatMap (Action.patchesOn id) =
        [completionImageData saved] := by
  simp only [uploadCompletionEvidence, check_bind_eq_ok, orThrow_bind_eq_ok,
    bind_eq_ok (x := completionEvidencePayloads dto)] at h
  obtain ⟨-, -, report, -, -, -, -, images, -, -, h⟩ := h
  have hsave := fun record => saveImages_patchesOn env env.assessCompletion record 0 images id
  split at h
  · next hrun =>
    replace hsave := hrun ▸ hsave _
    rw [← pure_eq_ok.mp h, List.flatMap_append, hsave]
    exact .inl rfl
  · next hrun =>
    replace hsave := hrun ▸ hsave _
    split at h
    · split at h
      · rw [← pure_eq_ok.mp h, List.flatMap_append, hsave]
        exact .inl rfl
      · rw [← pure_eq_ok.mp h, List.flatMap_append, hsave, List.nil_append, List.flatMap_singleton,
          Action.patchesOn]
        split
        · next hid => exact .inr ⟨_, hid, rfl⟩
        · exact .inl rfl
    · rw [← pure_eq_ok.mp h, List.flatMap_append, hsave]
      exact .inl rfl

/-- An upload by the citizen touches the evidence image of its report alone. -/
theorem uploadReportEvidence_patchesOn {reportId : String} {dto : UploadEvidenceDto}
    {user : JwtUser}
    {actions : List Action} (h : uploadReportEvidence env s reportId dto user = .ok actions)
    (id : String) :
    actions.flatMap (Action.patchesOn id) = [] ∨
      ∃ saved, reportId = id ∧ actions.flatMap (Action.patchesOn id) =
        [evidenceImageData saved] := by
  simp only [uploadReportEvidence, check_bind_eq_ok, orThrow_bind_eq_ok,
    bind_eq_ok (x := reportEvidencePayloads dto)] at h
  obtain ⟨-, report, -, -, images, -, -, h⟩ := h
  have hsave := fun record => saveImages_patchesOn env (fun _ => none) record 0 images id
  split at h
  · next hrun =>
    replace hsave := hrun ▸ hsave _
    rw [← pure_eq_ok.mp h, List.flatMap_append, hsave]
    exact .inl rfl
  · next hrun =>
    replace hsave := hrun ▸ hsave _
    rw [← pure_eq_ok.mp h, List.flatMap_append, hsave, List.nil_append, List.flatMap_singleton,
      Action.patchesOn]
    split
    · next hid => exact .inr ⟨_, hid, rfl⟩
    · exact .inl rfl

/-- Saving images creates no report. -/
theorem saveImages_not_creates (env : Env) (assess : ℕ → Option HttpError)
    (record : ℕ → EvidenceImage → SavedEvidenceFile → EvidenceRecord) (index : ℕ)
    (images : List EvidenceImage) (id : String) :
    ∀ action ∈ (saveImages env assess record index images).1, ∀ r, ¬ action.Creates id r := by
  induction images generalizing index with
  | nil => simp [saveImages]
  | cons image images ih =>
    unfold saveImages
    split
    · simp
    · simp
    · intro action haction
      rcases List.mem_cons.mp haction with rfl | haction
      · exact fun _ => False.elim
      · exact ih (index + 1) action haction

theorem not_creates_append {actions : List Action} {action : Action} {id : String}
    (h : ∀ action ∈ actions, ∀ r, ¬ action.Creates id r) (hlast : ∀ r, ¬ action.Creates id r) :
    ∀ a ∈ actions ++ [action], ∀ r, ¬ a.Creates id r := by
  intro a ha
  rcases List.mem_append.mp ha with ha | ha
  · exact h a ha
  · rw [List.mem_singleton.mp ha]
    exact hlast

theorem uploadCompletionEvidence_not_creates {reportId : String} {dto : UploadEvidenceDto}
    {user : JwtUser}
    {actions : List Action} (h : uploadCompletionEvidence env s reportId dto user = .ok actions)
    (id : String) :
    ∀ action ∈ actions, ∀ r, ¬ action.Creates id r := by
  simp only [uploadCompletionEvidence, check_bind_eq_ok, orThrow_bind_eq_ok,
    bind_eq_ok (x := completionEvidencePayloads dto)] at h
  obtain ⟨-, -, report, -, -, -, -, images, -, -, h⟩ := h
  have hsave := fun record => saveImages_not_creates env env.assessCompletion record 0 images id
  split at h
  · next hrun =>
    replace hsave := hrun ▸ hsave _
    rw [← pure_eq_ok.mp h]
    exact not_creates_append hsave fun _ => False.elim
  · next hrun =>
    replace hsave := hrun ▸ hsave _
    split at h
    · split at h <;> rw [← pure_eq_ok.mp h] <;> exact not_creates_append hsave fun _ => False.elim
    · rw [← pure_eq_ok.mp h]
      exact not_creates_append hsave fun _ => False.elim

theorem uploadReportEvidence_not_creates {reportId : String} {dto : UploadEvidenceDto}
    {user : JwtUser}
    {actions : List Action} (h : uploadReportEvidence env s reportId dto user = .ok actions)
    (id : String) :
    ∀ action ∈ actions, ∀ r, ¬ action.Creates id r := by
  simp only [uploadReportEvidence, check_bind_eq_ok, orThrow_bind_eq_ok,
    bind_eq_ok (x := reportEvidencePayloads dto)] at h
  obtain ⟨-, report, -, -, images, -, -, h⟩ := h
  have hsave := fun record => saveImages_not_creates env (fun _ => none) record 0 images id
  split at h <;> next hrun =>
    replace hsave := hrun ▸ hsave _
    rw [← pure_eq_ok.mp h]
    exact not_creates_append hsave fun _ => False.elim

end FixZone.ReportService
