import FixZone.Trust.Evidence

/-!
# Evidence of the present attempt

A report is worked on in attempts: one begins when the report is assigned, and when it is sent
back for rework. `Attempts` is the store of the two services beside the completion evidence that
`uploadCompletionEvidence` has recorded for each report in its present attempt.

`updateStatus` takes the completion image that the client names, whatever it is, and is also
content with any evidence record of the report whose URL contains `report-completion`, from
whichever attempt or service. So a completion has an image of its own attempt exactly when the
client names one (`own_evidence_iff`).
-/

namespace FixZone.TrustService

open Library ReportService

/-- The report that a request assigns or sends back for rework, if it is accepted. -/
def attemptOf : ReportService.Request → Option String
  | .call (.assignProviderById reportId _ _) | .reassignProvider reportId _ _
  | .call (.rejectCitizenCompletion reportId _)
  | .call (.requestOrganizationCompletionRework reportId _)
  | .call (.adminReturnForCompletionRework reportId _) => some reportId
  | .call _ => none

/-- The status of a report. -/
def statusOf (s : Store) (id : String) : Option ReportStatus := (s.report? id).map (·.status)

/-- Whether a step assigns a report or sends it back for rework: it ends assigned, and the request
was accepted or the report was not assigned before. -/
def beginsAttempt (cfg : Config) (s : Store) (id : String) : Request → Bool
  | .report event => attemptOf event.request = some id &&
      statusOf (ReportService.step cfg event s) id = some .assigned &&
      ((outcome cfg event s).error.isNone || statusOf s id ≠ some .assigned)
  | .createEvidence .. => false

/-- The completion evidence that a step records for a report because its provider uploads it. -/
def uploaded (cfg : Config) (s : Store) (id : String) : Request → List EvidenceRecord
  | .report event =>
    match event.request with
    | .call (.uploadCompletionEvidence reportId _) =>
      if reportId = id then
        (ReportService.step cfg event s).evidenceRecords.drop s.evidenceRecords.length else []
    | _ => []
  | .createEvidence .. => []

/-- The store, and the completion evidence of the present attempt at each report. -/
structure Attempts where
  store : Store
  evidence : String → List EvidenceRecord

/-- Before the first request. -/
def Attempts.empty : Attempts := ⟨Store.empty, fun _ => []⟩

/-- One step of a run, with what it does to the attempts. -/
def attemptStep (cfg : Config) (request : Request) (t : Attempts) : Attempts where
  store := step cfg request t.store
  evidence id :=
    if beginsAttempt cfg t.store id request then []
    else t.evidence id ++ uploaded cfg t.store id request

/-- The step is an `updateStatus` that moves the report to `COMPLETED_BY_PROVIDER`. -/
def Submits (cfg : Config) (s : Store) (request : Request) (id : String)
    (dto : UpdateReportStatusDto) : Prop :=
  ∃ event, request = .report event ∧ event.request = .call (.updateStatus id dto) ∧
    dto.status = .completedByProvider ∧ statusOf s id ≠ some .completedByProvider ∧
    statusOf (step cfg request s) id = some .completedByProvider

/-- The completion image of a report is one that was uploaded for it in its present attempt. -/
def OwnEvidence (t : Attempts) (id : String) : Prop :=
  ∃ report record, t.store.report? id = some report ∧ record ∈ t.evidence id ∧
    record ∈ t.store.evidenceRecords ∧ record.relatedEntityId = id ∧
    record.kind = "report-completion" ∧ report.completionImagePath = some record.imagePath

/-- The image that the client names was uploaded for the report in its present attempt. -/
def NamesOwnEvidence (cfg : Config) (t : Attempts) (id : String) (dto : UpdateReportStatusDto) :
    Prop :=
  ∃ record ∈ t.evidence id,
    (normalizeCompletionEvidenceFields cfg dto.completionImageUrl
      dto.completionImagePath).imagePath = some record.imagePath

variable {cfg : Config} {env : Env} {s : Store} {user : JwtUser}

/-! ### Evidence records are kept -/

/-- A record that a write adds when it is performed. -/
def RecordsEvidence (row : EvidenceRecord) : Action → Prop
  | .create _ effects | .emit effects => row ∈ evidenceRows effects
  | .update _ _ _ effects => ∃ r, row ∈ evidenceRows (effects r)
  | .throw _ => False

/-- Effects add evidence records of theirs. -/
theorem performEffects_evidence_append (env : Env) (effects : List Effect) (s : Store) :
    ∃ rows, (performEffects env effects s).store.evidenceRecords = s.evidenceRecords ++ rows ∧
      rows <+: evidenceRows effects := by
  induction effects generalizing s with
  | nil => exact ⟨[], (List.append_nil _).symm, List.prefix_rfl⟩
  | cons effect effects ih =>
    have hfirst := (performEffect_rows env s effect).2
    have hsplit : evidenceRows (effect :: effects) = evidenceRows
        [effect] ++ evidenceRows effects := by
      rw [← List.singleton_append, evidenceRows, List.filterMap_append]
      rfl
    rw [performEffects, Outcome.andThen, hsplit]
    split
    · obtain ⟨rows, hrows, hprefix⟩ := ih (performEffect env s effect).store
      refine ⟨evidenceRows [effect] ++ rows, ?_, (List.prefix_append_right_inj _).mpr hprefix⟩
      rw [hrows, hfirst, List.append_assoc]
    · exact ⟨evidenceRows [effect], hfirst, List.prefix_append _ _⟩

theorem perform_evidence_append (env : Env) (s : Store) (action : Action) :
    ∃ rows, (perform env s action).store.evidenceRecords = s.evidenceRecords ++ rows ∧
      ∀ row ∈ rows, RecordsEvidence row action := by
  have hnone : ∃ rows, s.evidenceRecords = s.evidenceRecords ++ rows ∧
      ∀ row ∈ rows, RecordsEvidence row action := ⟨[], (List.append_nil _).symm, by simp⟩
  cases action with
  | create report effects =>
    rw [perform]
    split
    · exact hnone
    · obtain ⟨rows, hrows, hprefix⟩ := performEffects_evidence_append env effects
        { s with reports := s.reports.insert report }
      exact ⟨rows, hrows, fun row hrow => hprefix.subset hrow⟩
  | update reportId status data effects =>
    rw [perform]
    split
    · exact hnone
    · next report _ =>
      obtain ⟨rows, hrows, hprefix⟩ := performEffects_evidence_append env
        (effects (data.apply report)) { s with reports := s.reports.modify reportId data }
      exact ⟨rows, hrows, fun row hrow => ⟨_, hprefix.subset hrow⟩⟩
  | emit effects =>
    obtain ⟨rows, hrows, hprefix⟩ := performEffects_evidence_append env effects s
    exact ⟨rows, hrows, fun row hrow => hprefix.subset hrow⟩
  | throw e => exact hnone

theorem performAll_evidence_append (env : Env) (actions : List Action) (s : Store) :
    ∃ rows, (performAll env actions s).store.evidenceRecords = s.evidenceRecords ++ rows ∧
      ∀ row ∈ rows, ∃ action ∈ actions, RecordsEvidence row action := by
  induction actions generalizing s with
  | nil => exact ⟨[], (List.append_nil _).symm, by simp⟩
  | cons action actions ih =>
    obtain ⟨rows, hrows, hof⟩ := perform_evidence_append env s action
    have hfirst : ∀ row ∈ rows, ∃ a ∈ action :: actions, RecordsEvidence row a :=
      fun row hrow => ⟨action, List.mem_cons_self, hof row hrow⟩
    rw [performAll, Outcome.andThen]
    split
    · obtain ⟨rest, hrest, hofrest⟩ := ih (perform env s action).store
      refine ⟨rows ++ rest, by rw [hrest, hrows, List.append_assoc], ?_⟩
      refine List.forall_mem_append.mpr ⟨hfirst, fun row hrow => ?_⟩
      obtain ⟨a, ha, hrow⟩ := hofrest row hrow
      exact ⟨a, List.mem_cons_of_mem _ ha, hrow⟩
    · exact ⟨rows, hrows, hfirst⟩

theorem commit_evidence_append (env : Env) (s : Store) (read : Except HttpError (List Action)) :
    s.evidenceRecords <+: (commit env s read).store.evidenceRecords := by
  unfold commit
  split
  · exact List.prefix_rfl
  · next actions =>
    obtain ⟨rows, hrows, -⟩ := performAll_evidence_append env actions s
    exact ⟨rows, hrows.symm⟩

/-- No step takes an evidence record away. -/
theorem step_evidence_append (cfg : Config) (request : Request) (s : Store) :
    s.evidenceRecords <+: (step cfg request s).evidenceRecords := by
  cases request with
  | createEvidence env user enforcement dto => exact commit_evidence_append env s _
  | report event =>
    change s.evidenceRecords <+: (outcome cfg event s).store.evidenceRecords
    cases hrequest : event.request with
    | call call =>
      rw [outcome_of_call hrequest]
      exact commit_evidence_append event.env s _
    | reassignProvider reportId providerId reason =>
      rw [outcome_of_reassign hrequest]
      have hexecute : ∀ {t : Store} (call : Call), s.evidenceRecords <+: t.evidenceRecords →
          s.evidenceRecords <+: (execute cfg event.env t event.user call).store.evidenceRecords :=
        fun call h => h.trans (commit_evidence_append event.env _ _)
      have hnotices : ∀ {t : Store} (effects : Report → List Effect),
          s.evidenceRecords <+: t.evidenceRecords →
            s.evidenceRecords <+:
              (performFor event.env reportId effects t).store.evidenceRecords := by
        intro t effects h
        unfold performFor
        split
        · obtain ⟨rows, hrows, -⟩ := performEffects_evidence_append event.env (effects _) t
          exact h.trans ⟨rows, hrows.symm⟩
        · exact h
      unfold reassignProvider
      split
      · exact List.prefix_rfl
      · next report _ =>
        have hcancelled : s.evidenceRecords <+: (if truthy report.assignedProviderId then
            execute cfg event.env s event.user (reassignCancel reportId reason) else ⟨s, none⟩ :
              Outcome).store.evidenceRecords := by
          split
          · exact hexecute _ List.prefix_rfl
          · exact List.prefix_rfl
        have hassigned : s.evidenceRecords <+:
            ((if truthy report.assignedProviderId then
              execute cfg event.env s event.user (reassignCancel reportId reason) else ⟨s, none⟩ :
                Outcome).andThen fun t => execute cfg event.env t event.user
                  (.assignProviderById reportId providerId {})).store.evidenceRecords :=
          andThen_store (P := fun t => s.evidenceRecords <+: t.evidenceRecords) hcancelled
            (hexecute _ hcancelled)
        exact andThen_store (P := fun t => s.evidenceRecords <+: t.evidenceRecords) hassigned
          (hnotices _ hassigned)

/-! ### What an upload records -/

theorem saveImages_records {assess : ℕ → Option HttpError}
    {record : ℕ → EvidenceImage → SavedEvidenceFile → EvidenceRecord} {index : ℕ}
    {images : List EvidenceImage} {actions : List Action}
    {saved : Except HttpError (List SavedEvidenceFile)} {P : EvidenceRecord → Prop}
    (hrun : saveImages env assess record index images = (actions, saved))
    (hrecord : ∀ index image file, P (record index image file)) :
    ∀ action ∈ actions, ∀ row, RecordsEvidence row action → P row := by
  obtain rfl : (saveImages env assess record index images).1 = actions := by rw [hrun]
  clear hrun
  induction images generalizing index with
  | nil => simp [saveImages]
  | cons image images ih =>
    unfold saveImages
    split
    · simp
    · simp
    · intro action haction row hrow
      rcases List.mem_cons.mp haction with rfl | haction
      · obtain rfl := List.mem_singleton.mp hrow
        exact hrecord _ _ _
      · exact ih action haction row hrow

/-- The provider's upload records completion evidence of the report. -/
theorem uploadCompletionEvidence_records {reportId : String} {dto : UploadEvidenceDto}
    {actions : List Action} (h : uploadCompletionEvidence env s reportId dto user = .ok actions) :
    ∀ action ∈ actions, ∀ row, RecordsEvidence row action →
      row.relatedEntityId = reportId ∧ row.kind = "report-completion" := by
  simp only [uploadCompletionEvidence, check_bind_eq_ok, orThrow_bind_eq_ok,
    bind_eq_ok (x := completionEvidencePayloads dto)] at h
  obtain ⟨-, -, report, hr, -, -, -, images, -, -, h⟩ := h
  have hlast : ∀ {saved : List Action} {action : Action},
      (∀ a ∈ saved, ∀ row, RecordsEvidence row a →
        row.relatedEntityId = reportId ∧ row.kind = "report-completion") →
      (∀ row, ¬RecordsEvidence row action) →
      ∀ a ∈ saved ++ [action], ∀ row, RecordsEvidence row a →
        row.relatedEntityId = reportId ∧ row.kind = "report-completion" := by
    intro saved action hsaved haction a ha row hrow
    rcases List.mem_append.mp ha with ha | ha
    · exact hsaved a ha row hrow
    · rw [List.mem_singleton.mp ha] at hrow
      exact absurd hrow (haction row)
  split at h
  · next hrun =>
    rw [← pure_eq_ok.mp h]
    exact hlast (saveImages_records hrun fun _ _ _ => ⟨rfl, rfl⟩) fun _ => id
  · next hrun =>
    have hsaved : ∀ a ∈ _, ∀ row, RecordsEvidence row a →
        row.relatedEntityId = reportId ∧ row.kind = "report-completion" :=
      saveImages_records hrun fun _ _ _ => ⟨rfl, rfl⟩
    split at h
    · split at h <;> rw [← pure_eq_ok.mp h]
      · exact hlast hsaved fun _ => by simp [RecordsEvidence, evidenceRows, uploadActivity,
          Effect.evidence?]
      · exact hlast hsaved fun _ => by simp [RecordsEvidence, evidenceRows, uploadActivity,
          Effect.evidence?]
    · rw [← pure_eq_ok.mp h]
      exact hlast hsaved fun _ => by simp [RecordsEvidence, evidenceRows, uploadActivity,
        Effect.evidence?]

/-- What a step adds to an attempt are records of completion evidence of the report. -/
theorem uploaded_spec {request : Request} {id : String} {row : EvidenceRecord}
    (h : row ∈ uploaded cfg s id request) :
    row ∈ (step cfg request s).evidenceRecords ∧ row.relatedEntityId = id ∧
      row.kind = "report-completion" := by
  cases request with
  | createEvidence env user enforcement dto => cases h
  | report event =>
    simp only [uploaded] at h
    split at h
    · next reportId dto hrequest =>
      split_ifs at h with hid
      · subst hid
        refine ⟨List.mem_of_mem_drop h, ?_⟩
        have hstep : ReportService.step cfg event s =
            (execute cfg event.env s event.user
            (.uploadCompletionEvidence reportId dto)).store := by
          rw [ReportService.step, outcome_of_call hrequest]
        rw [hstep, execute, readCall] at h
        unfold commit at h
        split at h
        · simp at h
        · next actions hread =>
          obtain ⟨rows, hrows, hof⟩ := performAll_evidence_append event.env actions s
          rw [hrows, List.drop_left] at h
          obtain ⟨action, haction, hrow⟩ := hof row h
          exact uploadCompletionEvidence_records hread action haction row hrow
      · cases h
    · cases h

/-! ### Runs -/

/-- The evidence of the present attempts is in the store, and is completion evidence of its
report. -/
def Recorded (t : Attempts) : Prop :=
  ∀ id, ∀ record ∈ t.evidence id, record ∈ t.store.evidenceRecords ∧
    record.relatedEntityId = id ∧ record.kind = "report-completion"

theorem attemptStep_recorded (request : Request) {t : Attempts} (ht : Recorded t) :
    Recorded (attemptStep cfg request t) := by
  intro id record hrecord
  simp only [attemptStep] at hrecord ⊢
  split_ifs at hrecord
  · cases hrecord
  · rcases List.mem_append.mp hrecord with hold | hnew
    · obtain ⟨hmem, hrest⟩ := ht id record hold
      exact ⟨(step_evidence_append cfg request t.store).subset hmem, hrest⟩
    · exact uploaded_spec hnew

/-- A submission writes the image that the client names, and leaves the attempt as it is. -/
theorem submits_spec {t : Attempts} {request : Request} {id : String} {dto : UpdateReportStatusDto}
    (h : Submits cfg t.store request id dto) :
    (attemptStep cfg request t).evidence id = t.evidence id ∧
      ∃ report, (attemptStep cfg request t).store.report? id = some report ∧
        report.completionImagePath = (normalizeCompletionEvidenceFields cfg dto.completionImageUrl
          dto.completionImagePath).imagePath := by
  obtain ⟨event, rfl, hrequest, hdto, hbefore, hafter⟩ := h
  refine ⟨?_, ?_⟩
  · simp [attemptStep, beginsAttempt, uploaded, attemptOf, hrequest]
  · obtain ⟨after, hrow', hstatus'⟩ := Option.map_eq_some_iff.mp hafter
    cases hbefore? : t.store.report? id with
    | none =>
      obtain ⟨_, _, _, _, hcreate, -⟩ := step_report?_none hbefore? hrow'
      rw [hrequest] at hcreate
      cases hcreate
    | some before =>
      obtain ⟨r', hr', hchange⟩ := step_report? cfg event hbefore?
      obtain rfl : r' = after := Option.some.inj (hr'.symm.trans hrow')
      refine ⟨r', hrow', ?_⟩
      rcases hchange with rfl | ⟨hcall, hchange⟩ | ⟨hcall, -⟩
      · exact absurd (by rw [statusOf, hbefore?, Option.map_some, hstatus']) hbefore
      · rw [hrequest] at hcall
        cases hcall
        cases hchange with
        | expire => cases hstatus'
        | updateStatus _ _ _ hne => exact absurd hdto hne
        | submitCompletion => rfl
      · rw [hrequest] at hcall
        cases hcall

/-- A submission has an image of its own attempt exactly when the client names one. -/
theorem submits_ownEvidence_iff {t : Attempts} (ht : Recorded t) {request : Request} {id : String}
    {dto : UpdateReportStatusDto} (h : Submits cfg t.store request id dto) :
    OwnEvidence (attemptStep cfg request t) id ↔ NamesOwnEvidence cfg t id dto := by
  obtain ⟨hevidence, report, hrow, himage⟩ := submits_spec h
  constructor
  · rintro ⟨report', record, hrow', hrecord, -, -, -, hpath⟩
    obtain rfl := Option.some.inj (hrow.symm.trans hrow')
    exact ⟨record, hevidence ▸ hrecord, himage.symm.trans hpath⟩
  · rintro ⟨record, hrecord, hpath⟩
    have hrecord' : record ∈ (attemptStep cfg request t).evidence id := hevidence.symm ▸ hrecord
    obtain ⟨hmem, hid, hkind⟩ := attemptStep_recorded request ht id record hrecord'
    exact ⟨report, record, hrow, hrecord', hmem, hid, hkind, himage.trans hpath⟩

/-- **Completions with evidence of their own.** Along a run every completion has a completion image
that was uploaded for its report in its present attempt, exactly when at every one the client names
such an image. -/
theorem own_evidence_iff (cfg : Config) (requests : List Request) :
    Along (attemptStep cfg) (fun t request => ∀ id dto, Submits cfg t.store request id dto →
        OwnEvidence (attemptStep cfg request t) id) Attempts.empty requests ↔
      Along (attemptStep cfg) (fun t request => ∀ id dto, Submits cfg t.store request id dto →
        NamesOwnEvidence cfg t id dto) Attempts.empty requests := by
  refine along_congr_of_inv (I := Recorded) (fun _ request ht _ => attemptStep_recorded request ht)
    (fun t request ht => ?_) ?_ requests
  · exact forall₂_congr fun id dto => forall_congr' fun h => submits_ownEvidence_iff ht h
  · intro id record hrecord
    cases hrecord

namespace Example

/-- The report is dispatched, and its provider starts work. -/
def started : List Request :=
  (ReportService.Example.dispatched ++ [ReportService.Example.at_ 4 ReportService.Example.provider
    (.updateStatus "report" { status := .inProgress })]).map .report

/-- What the provider submits: a picture from elsewhere. -/
def elsewhere : UpdateReportStatusDto where
  status := .completedByProvider
  completionImageUrl := some "https://images/after.jpg"

/-- The provider submits a completion without having uploaded anything. -/
def submitted : Request :=
  .report (ReportService.Example.at_ 5 ReportService.Example.provider
    (.updateStatus "report" elsewhere))

end Example

/-- A provider who has uploaded nothing completes the report with a URL of somebody else's
picture. -/
theorem completion_without_upload :
    ¬ ∀ (cfg : Config) (requests : List Request),
      Along (attemptStep cfg) (fun t request => ∀ id dto, Submits cfg t.store request id dto →
        OwnEvidence (attemptStep cfg request t) id) Attempts.empty requests := by
  intro h
  have hsubmits : Submits {} (run (attemptStep {}) Attempts.empty Example.started).store
      Example.submitted "report" Example.elsewhere :=
    ⟨_, rfl, rfl, rfl, by decide +kernel, by decide +kernel⟩
  have hnone : ((attemptStep {} Example.submitted
      (run (attemptStep {}) Attempts.empty Example.started)).evidence "report").isEmpty = true := by
    decide +kernel
  obtain ⟨report, record, -, hrecord, -⟩ :=
    along_iff.mp (h {} (Example.started ++ [Example.submitted]))
    Example.started Example.submitted [] rfl "report" Example.elsewhere hsubmits
  rw [List.isEmpty_iff.mp hnone] at hrecord
  cases hrecord

end FixZone.TrustService
