import FixZone.Report.Change

/-!
# What a call records

Besides the reports, a call writes activities and evidence records. `activityRows` are the
activities among the effects. `readCall_trail` says of every call what its writes record: an
update describes itself in one activity, from the status it found to the status it leaves, and
evidence is recorded of a report that exists and for its citizen.
-/

namespace FixZone.ReportService

open Library

variable {cfg : Config} {env : Env} {s : Store} {user : JwtUser}

/-! ### Rows among the effects -/

/-- The activities among the effects. -/
def activityRows : List Effect → List ReportActivity
  | [] => []
  | .activity row :: effects => row :: activityRows effects
  | .notification _ :: effects | .operators _ _ :: effects | .resolvers _ :: effects
  | .evidence _ :: effects | .workflow _ :: effects => activityRows effects

/-- The evidence record an effect adds, if it does. -/
def Effect.evidence? : Effect → Option EvidenceRecord
  | .evidence row => some row
  | _ => none

/-- The evidence records among the effects. -/
def evidenceRows (effects : List Effect) : List EvidenceRecord := effects.filterMap Effect.evidence?

/-- Notifying adds notifications and nothing else. -/
theorem createNotification_rest (s : Store) (row : Notification) :
    ∃ rows, createNotification s row = { s with notifications := rows } := by
  unfold createNotification
  split
  · exact ⟨s.notifications, rfl⟩
  · exact ⟨_, rfl⟩

theorem createNotifications_rest (users : List User) (notice : Notice) (s : Store) :
    ∃ rows, users.foldl (fun s user => createNotification s { notice with userId := user.id }) s =
      { s with notifications := rows } := by
  induction users generalizing s with
  | nil => exact ⟨s.notifications, rfl⟩
  | cons user users ih =>
    obtain ⟨rows, hrows⟩ := createNotification_rest s { notice with userId := user.id }
    rw [List.foldl_cons, hrows]
    exact ih _

/-- The rows an effect adds, when it is performed. -/
theorem performEffect_rows (env : Env) (s : Store) (effect : Effect) :
    (performEffect env s effect).store.activities = s.activities ++ activityRows [effect] ∧
      (performEffect env s effect).store.evidenceRecords =
        s.evidenceRecords ++ evidenceRows [effect] := by
  cases effect with
  | activity row => exact ⟨rfl, (List.append_nil _).symm⟩
  | evidence row => exact ⟨(List.append_nil _).symm, rfl⟩
  | notification row =>
    obtain ⟨rows, hrows⟩ := createNotification_rest s row
    rw [performEffect, hrows]
    exact ⟨(List.append_nil _).symm, (List.append_nil _).symm⟩
  | operators organizationId notice =>
    obtain ⟨rows, hrows⟩ := createNotifications_rest (activeOperators env organizationId) notice s
    rw [performEffect, hrows]
    exact ⟨(List.append_nil _).symm, (List.append_nil _).symm⟩
  | resolvers notice =>
    obtain ⟨rows, hrows⟩ := createNotifications_rest (platformResolvers env) notice s
    rw [performEffect, hrows]
    exact ⟨(List.append_nil _).symm, (List.append_nil _).symm⟩
  | workflow event =>
    have hpublish : (publish env s event).activities = s.activities ∧
        (publish env s event).evidenceRecords = s.evidenceRecords := by
      cases event <;> exact ⟨rfl, rfl⟩
    rw [performEffect_workflow]
    exact ⟨hpublish.1.trans (List.append_nil _).symm, hpublish.2.trans (List.append_nil _).symm⟩

theorem performEffects_activities (env : Env) (effects : List Effect) (s : Store) :
    (performEffects env effects s).store.activities = s.activities ++ activityRows effects := by
  induction effects generalizing s with
  | nil => exact (List.append_nil _).symm
  | cons effect effects ih =>
    have hfirst := (performEffect_rows env s effect).1
    rw [performEffects, Outcome.andThen]
    cases effect with
    | activity row =>
      change (performEffects env effects _).store.activities = _
      rw [ih, hfirst, List.append_assoc]
      rfl
    | _ =>
      change (performEffects env effects _).store.activities = _
      rw [ih, hfirst, List.append_assoc]
      rfl

theorem performEffects_evidence {env : Env} {effects : List Effect} {s : Store}
    {row : EvidenceRecord} (h : row ∈ (performEffects env effects s).store.evidenceRecords) :
    row ∈ s.evidenceRecords ∨ row ∈ evidenceRows effects := by
  induction effects generalizing s with
  | nil => exact .inl h
  | cons effect effects ih =>
    have hfirst : row ∈ (performEffect env s effect).store.evidenceRecords →
        row ∈ s.evidenceRecords ∨ row ∈ evidenceRows (effect :: effects) := by
      rw [(performEffect_rows env s effect).2, List.mem_append]
      refine Or.imp_right fun hrow => ?_
      rw [← List.singleton_append, evidenceRows, List.filterMap_append]
      exact List.mem_append_left _ hrow
    rw [performEffects, Outcome.andThen] at h
    split at h
    · rcases ih h with h | h
      · exact hfirst h
      · rw [← List.singleton_append, evidenceRows, List.filterMap_append]
        exact .inr (List.mem_append_right _ h)
    · exact hfirst h

/-! ### Rows of notices -/

/-- An effect that notifies somebody. -/
def Effect.isNotice : Effect → Bool
  | .notification _ | .operators _ _ | .resolvers _ => true
  | .activity _ | .evidence _ | .workflow _ => false

/-- Notices record nothing. -/
theorem activityRows_append {notices : List Effect} (h : ∀ effect ∈ notices, effect.isNotice)
    (effects : List Effect) : activityRows (notices ++ effects) = activityRows effects := by
  induction notices with
  | nil => rfl
  | cons notice notices ih =>
    have hnotice := h notice List.mem_cons_self
    rw [List.cons_append, ← ih fun effect heffect => h effect (List.mem_cons_of_mem _ heffect)]
    cases notice <;> first | rfl | cases hnotice

theorem evidenceRows_append {notices : List Effect} (h : ∀ effect ∈ notices, effect.isNotice)
    (effects : List Effect) : evidenceRows (notices ++ effects) = evidenceRows effects := by
  have hnone : evidenceRows notices = [] := by
    rw [evidenceRows, List.filterMap_eq_nil_iff]
    intro effect heffect
    have hnotice := h effect heffect
    cases effect <;> first | rfl | cases hnotice
  rw [evidenceRows, List.filterMap_append, ← evidenceRows, hnone]
  rfl

theorem notifyStatusChange_notices (r : Report) :
    ∀ effect ∈ notifyStatusChange r, effect.isNotice := by
  unfold notifyStatusChange
  split <;> simp [Effect.isNotice]

theorem notifyCompletionReviewers_notices (r : Report) :
    ∀ effect ∈ notifyCompletionReviewers r, effect.isNotice := by
  intro effect heffect
  simp only [notifyCompletionReviewers, List.mem_append, List.mem_ite_nil_right,
    List.mem_singleton] at heffect
  rcases heffect with (⟨-, rfl⟩ | ⟨-, rfl⟩) | ⟨-, rfl⟩ <;> rfl

theorem notifyAuthoritativeCompletionClosure_notices (r : Report) :
    ∀ effect ∈ notifyAuthoritativeCompletionClosure r, effect.isNotice := by
  intro effect heffect
  simp only [notifyAuthoritativeCompletionClosure, List.mem_append, List.mem_ite_nil_right,
    List.mem_singleton] at heffect
  rcases heffect with heffect | ⟨-, rfl⟩
  · exact notifyStatusChange_notices r effect heffect
  · rfl

/-! ### What a write records -/

/-- The rows are one activity of the report `id`, from one status to the other. -/
def Describes (id : String) (before after : ReportStatus) (rows : List ReportActivity) : Prop :=
  ∃ row, rows = [row] ∧ row.reportId = id ∧ row.fromStatus = some before ∧
    row.toStatus = some after

/-- The activities that a write records say what becomes of the status. -/
def Action.Described (s : Store) : Action → Prop
  | .create report effects => activityRows effects ≠ [] ∧
      ∀ row ∈ activityRows effects,
        row.reportId = report.id ∧ row.toStatus = some report.status
  | .update id _ data effects => ∀ r, s.report? id = some r →
      Describes id r.status (data.apply r).status (activityRows (effects (data.apply r)))
  | .emit effects => ∀ row ∈ activityRows effects, row.toStatus = none ∨
      ∃ r, s.report? row.reportId = some r ∧ row.toStatus = some r.status
  | .throw _ => True

/-- The evidence that a write records is of a report, and belongs to its citizen. -/
def Action.Evidenced (s : Store) : Action → Prop
  | .create _ effects => evidenceRows effects = []
  | .update _ _ _ effects => ∀ r, evidenceRows (effects r) = []
  | .emit effects => ∀ row ∈ evidenceRows effects,
      ∃ r, s.report? row.relatedEntityId = some r ∧ row.ownerUserId = r.citizenId
  | .throw _ => True

/-- The write changes the report `id`. -/
def Action.Writes (id : String) : Action → Prop
  | .create report _ => report.id = id
  | .update reportId _ _ _ => reportId = id
  | .emit _ | .throw _ => False

/-- What the write does or records depends on the report `id`. -/
def Action.Reads (id : String) : Action → Prop
  | .create report _ => report.id = id
  | .throw _ => False
  | .update reportId _ _ _ => reportId = id
  | .emit effects => ∃ row ∈ activityRows effects, row.reportId = id

/-- The writes of a call record what they do, and none changes what a later one reads. -/
structure Trail (s : Store) (actions : List Action) : Prop where
  evidenced : ∀ action ∈ actions, action.Evidenced s
  described : ∀ action ∈ actions, action.Described s
  apart : actions.Pairwise fun a b => ∀ id, a.Writes id → ¬ b.Reads id

theorem trail_nil : Trail s [] := ⟨by simp, by simp, .nil⟩

theorem trail_update {reportId : String} {status : Option ReportStatus} {data : Patch Report.id}
    {effects : Report → List Effect} {report : Report} (hrow : s.report? reportId = some report)
    (hrows : Describes reportId report.status (data.apply report).status
      (activityRows (effects (data.apply report))))
    (hevidence : ∀ r, evidenceRows (effects r) = []) :
    Trail s [.update reportId status data effects] where
  evidenced := by simpa [Action.Evidenced] using hevidence
  described := by
    simp only [List.mem_singleton, forall_eq]
    intro r hr
    rwa [Option.some.inj (hr.symm.trans hrow)]
  apart := List.pairwise_singleton _ _

/-- A sweep describes what it does to each report. -/
theorem trail_expire {filter : ExpiryFilter} {actor : Option JwtUser} :
    Trail s (expireOverdueAssignments env s filter actor) where
  evidenced := by
    simp only [expireOverdueAssignments, List.forall_mem_map]
    intro r _ _
    change evidenceRows (expireEffects actor r) = []
    unfold expireEffects
    cases truthy r.assignedProviderId <;> rfl
  described := by
    simp only [expireOverdueAssignments, List.forall_mem_map]
    intro r hr r' hrow
    obtain ⟨hmem, hswept⟩ := List.mem_filter.mp hr
    obtain rfl : r' = r := Option.some.inj (hrow.symm.trans (report?_of_mem hmem))
    have hassigned : r'.status = .assigned := by
      simp only [isOverdue, Bool.and_eq_true, decide_eq_true_eq] at hswept
      exact hswept.1.1
    rw [hassigned]
    change Describes _ _ .pending (activityRows (expireEffects actor r'))
    unfold expireEffects
    cases truthy r'.assignedProviderId <;> exact ⟨_, rfl, rfl, rfl, rfl⟩
  apart := by
    rw [expireOverdueAssignments, List.pairwise_map]
    have hnodup := nodup_ids_filter s fun report => isOverdue env report && filter.covers report
    rw [List.Nodup, List.pairwise_map] at hnodup
    refine hnodup.imp fun hne id hwrites hreads => hne ?_
    exact hwrites.trans hreads.symm

/-- So does one that ends in an exception. -/
theorem trail_expireAndRefuse : Trail s (expireAndRefuse env s user) where
  evidenced := by
    intro action haction
    rcases List.mem_append.mp haction with haction | haction
    · exact trail_expire.evidenced action haction
    · rw [List.mem_singleton.mp haction]
      trivial
  described := by
    intro action haction
    rcases List.mem_append.mp haction with haction | haction
    · exact trail_expire.described action haction
    · rw [List.mem_singleton.mp haction]
      trivial
  apart := by
    refine List.pairwise_append.mpr ⟨trail_expire.apart, List.pairwise_singleton _ _, ?_⟩
    intro a _ b hb id _ hreads
    rw [List.mem_singleton.mp hb] at hreads
    exact hreads

/-! ### Calls -/

theorem updateStatusEffects_evidence (dto : UpdateReportStatusDto) (report r : Report) :
    evidenceRows (updateStatusEffects user dto report r) = [] := by
  unfold updateStatusEffects
  split_ifs
  · rw [List.append_assoc, evidenceRows_append (notifyCompletionReviewers_notices _)]
    rfl
  · rw [evidenceRows_append (notifyStatusChange_notices _)]
    rfl

theorem trail_statusUpdate {reportId : String} {dto : UpdateReportStatusDto} {report : Report}
    {actions : List Action} (hrow : s.report? reportId = some report)
    (h : statusUpdate cfg env s reportId dto user report = .ok actions) : Trail s actions := by
  have hid := id_of_report? hrow
  rcases (statusUpdate_eq_ok hid).mp h with ⟨hc, rfl⟩ | ⟨hc, policy, hpolicy, rfl⟩
  · have heffects : ∀ r, updateStatusEffects user dto report r =
        notifyStatusChange r ++ [.activity { recordReportActivity user report.id r.organizationId
          (activityActionForStatus dto.status) with
          fromStatus := some report.status
          toStatus := some r.status
          providerId := r.assignedProviderId
          note := trimmedOrNull dto.completionNote }] := by
      intro r
      rw [updateStatusEffects, if_neg hc]
    refine trail_update hrow ?_ (updateStatusEffects_evidence dto report)
    rw [heffects, activityRows_append (notifyStatusChange_notices _)]
    exact ⟨_, rfl, hid, rfl, rfl⟩
  · have heffects : ∀ r, updateStatusEffects user dto report r =
        notifyCompletionReviewers r ++ (.workflow .providerCompletedReport ::
          [.activity { recordReportActivity user report.id r.organizationId
            (activityActionForStatus dto.status) with
            fromStatus := some report.status
            toStatus := some r.status
            providerId := r.assignedProviderId
            note := trimmedOrNull dto.completionNote }]) := by
      intro r
      rw [updateStatusEffects, if_pos hc, List.append_assoc]
      rfl
    refine trail_update hrow ?_ (updateStatusEffects_evidence dto report)
    rw [heffects, activityRows_append (notifyCompletionReviewers_notices _)]
    exact ⟨_, rfl, hid, rfl, rfl⟩

theorem trail_governance {report : Report} {data : Patch Report.id}
    {action reason notifyType notifyTitle : String} (hrow : s.report? report.id = some report) :
    Trail s [.update report.id none data
      (recordGovernanceAction user action reason notifyType notifyTitle report)] :=
  trail_update hrow ⟨_, rfl, data.key_apply report, rfl, rfl⟩ fun _ => rfl

/-- Saving images records evidence alone. -/
theorem trail_saveImages {assess : ℕ → Option HttpError}
    {record : ℕ → EvidenceImage → SavedEvidenceFile → EvidenceRecord} {index : ℕ}
    {images : List EvidenceImage} {actions : List Action}
    {saved : Except HttpError (List SavedEvidenceFile)} {report : Report}
    (h : saveImages env assess record index images = (actions, saved))
    (hrow : s.report? report.id = some report)
    (hrecord : ∀ index image file, (record index image file).relatedEntityId = report.id ∧
      (record index image file).ownerUserId = report.citizenId) :
    ∀ action ∈ actions, action.Evidenced s ∧ action.Described s ∧ ∀ id, ¬ action.Writes id := by
  obtain rfl : (saveImages env assess record index images).1 = actions := by rw [h]
  clear h
  induction images generalizing index with
  | nil => simp [saveImages]
  | cons image images ih =>
    unfold saveImages
    split
    · simp
    · simp
    · intro action haction
      rcases List.mem_cons.mp haction with rfl | haction
      · refine ⟨?_, by simp [Action.Described, activityRows], fun _ => False.elim⟩
        intro row hrow'
        obtain rfl := List.mem_singleton.mp hrow'
        obtain ⟨hid, howner⟩ := hrecord index image _
        exact ⟨report, by rw [hid, hrow], howner⟩
      · exact ih action haction

/-- A last write after writes that record evidence alone. -/
theorem trail_append {actions : List Action} {action : Action}
    (hactions : ∀ a ∈ actions, a.Evidenced s ∧ a.Described s ∧ ∀ id, ¬ a.Writes id)
    (hlast : Trail s [action]) : Trail s (actions ++ [action]) where
  evidenced := List.forall_mem_append.mpr ⟨fun a ha => (hactions a ha).1, hlast.evidenced⟩
  described := List.forall_mem_append.mpr ⟨fun a ha => (hactions a ha).2.1, hlast.described⟩
  apart := by
    have hfirst : actions.Pairwise fun a b => ∀ id, a.Writes id → ¬ b.Reads id :=
      List.Pairwise.imp_of_mem (fun ha _ _ id hwrites => absurd hwrites ((hactions _ ha).2.2 id))
        (List.pairwise_of_forall (R := fun _ _ => True) fun _ _ => trivial)
    refine List.pairwise_append.mpr ⟨hfirst, hlast.apart, ?_⟩
    intro a ha _ _ id hwrites
    exact absurd hwrites ((hactions a ha).2.2 id)

theorem trail_throw {e : HttpError} : Trail s [.throw e] :=
  ⟨by simp [Action.Evidenced], by simp [Action.Described], List.pairwise_singleton _ _⟩

theorem trail_uploadActivity {report : Report} {action : String} {providerId : Option String}
    (hrow : s.report? report.id = some report) :
    Trail s [.emit [uploadActivity user action report providerId]] where
  evidenced := by simp [Action.Evidenced, evidenceRows, uploadActivity, Effect.evidence?]
  described := by
    simp only [List.mem_singleton, forall_eq]
    intro row hrow'
    obtain rfl := List.mem_singleton.mp hrow'
    exact .inr ⟨report, hrow, rfl⟩
  apart := List.pairwise_singleton _ _

theorem trail_uploadCompletionEvidence {reportId : String} {dto : UploadEvidenceDto}
    {actions : List Action} (h : uploadCompletionEvidence env s reportId dto user = .ok actions) :
    Trail s actions := by
  simp only [uploadCompletionEvidence, check_bind_eq_ok, orThrow_bind_eq_ok,
    bind_eq_ok (x := completionEvidencePayloads dto)] at h
  obtain ⟨-, -, report, hr, -, -, -, images, -, -, h⟩ := h
  obtain rfl := id_of_report? hr
  split at h
  · next hrun =>
    rw [← pure_eq_ok.mp h]
    exact trail_append (trail_saveImages hrun hr fun _ _ _ => ⟨rfl, rfl⟩) trail_throw
  · next hrun =>
    have hsave := trail_saveImages hrun hr fun _ _ _ => ⟨rfl, rfl⟩
    split at h
    · split at h
      · rw [← pure_eq_ok.mp h]
        exact trail_append hsave (trail_uploadActivity hr)
      · rw [← pure_eq_ok.mp h]
        exact trail_append hsave (trail_update hr ⟨_, rfl, rfl, rfl, rfl⟩ fun _ => rfl)
    · rw [← pure_eq_ok.mp h]
      exact trail_append hsave (trail_uploadActivity hr)

theorem trail_uploadReportEvidence {reportId : String} {dto : UploadEvidenceDto}
    {actions : List Action} (h : uploadReportEvidence env s reportId dto user = .ok actions) :
    Trail s actions := by
  simp only [uploadReportEvidence, check_bind_eq_ok, throwIf_eq_ok, orThrow_bind_eq_ok,
    bind_eq_ok (x := reportEvidencePayloads dto)] at h
  obtain ⟨-, report, hr, hown, images, -, -, h⟩ := h
  obtain rfl := id_of_report? hr
  have hcitizen : user.getUserId = report.citizenId := by
    by_contra hother
    exact hown (Ne.symm hother)
  split at h
  · next hrun =>
    rw [← pure_eq_ok.mp h]
    exact trail_append (trail_saveImages hrun hr fun _ _ _ => ⟨rfl, hcitizen⟩) trail_throw
  · next hrun =>
    have hsave := trail_saveImages hrun hr fun _ _ _ => ⟨rfl, hcitizen⟩
    rw [← pure_eq_ok.mp h]
    have hstatus : ∀ file, ((evidenceImageData file).apply report).status = report.status := by
      intro file
      cases file <;> rfl
    exact trail_append hsave
      (trail_update hr ⟨_, rfl, rfl, rfl, congrArg some (hstatus _).symm⟩ fun _ => rfl)

theorem trail_create {dto : RoutedReport} {organizationId locationSource : String}
    {intakeRoute : ResponsibilityResolution} :
    Trail s [.create (createdReport env user dto organizationId locationSource intakeRoute)
      (createReportEffects user intakeRoute
        (createdReport env user dto organizationId locationSource intakeRoute))] where
  evidenced := by
    simp only [List.mem_singleton, forall_eq, Action.Evidenced]
    generalize createdReport env user dto organizationId locationSource intakeRoute = report
    unfold createReportEffects
    split_ifs <;> rfl
  described := by
    simp only [List.mem_singleton, forall_eq, Action.Described]
    generalize createdReport env user dto organizationId locationSource intakeRoute = report
    unfold createReportEffects
    split_ifs <;> simp [activityRows, recordReportActivity, resolverActivity]
  apart := List.pairwise_singleton _ _

theorem closureNotices (closes : Bool) (report : Report) {notice : Effect}
    (h : notice.isNotice) :
    ∀ effect ∈ (if closes then notifyAuthoritativeCompletionClosure report else [notice]),
      effect.isNotice := by
  cases closes with
  | true => exact notifyAuthoritativeCompletionClosure_notices report
  | false => simpa using h

theorem trail_confirm {dto : CitizenConfirmCompletionDto} {report : Report}
    (hrow : s.report? report.id = some report) :
    Trail s [.update report.id none (confirmData cfg env user dto report)
      (confirmEffects cfg user dto report)] := by
  refine trail_update hrow ?_ fun r => ?_
  · rw [confirmEffects, List.append_assoc, activityRows_append (closureNotices _ _ rfl)]
    cases confirmCloses cfg report <;> simp [Describes, activityRows, recordReportActivity]
  · rw [confirmEffects, List.append_assoc, evidenceRows_append (closureNotices _ _ rfl)]
    cases confirmCloses cfg report <;> rfl

theorem trail_rejectCompletion {reason : String} {report : Report}
    (hrow : s.report? report.id = some report) :
    Trail s [.update report.id none (rejectCompletionData env reason)
      (rejectCompletionEffects user reason report)] := by
  refine trail_update hrow ?_ fun r => evidenceRows_append (notifyStatusChange_notices _) _
  rw [rejectCompletionEffects, activityRows_append (notifyStatusChange_notices _)]
  simp [Describes, activityRows, recordReportActivity]

theorem trail_verify {reason : Option String} {report : Report}
    (hrow : s.report? report.id = some report) :
    Trail s [.update report.id none (verifyData cfg env user reason report)
      (verifyEffects cfg user reason report)] := by
  refine trail_update hrow ?_ fun r => evidenceRows_append (closureNotices _ _ rfl) _
  rw [verifyEffects, activityRows_append (closureNotices _ _ rfl)]
  exact ⟨_, rfl, rfl, rfl, rfl⟩

theorem trail_requestRework {reason : String} {report : Report}
    (hrow : s.report? report.id = some report) :
    Trail s [.update report.id none (requestReworkData env user reason)
      (requestReworkEffects user reason report)] := by
  refine trail_update hrow ?_ fun r => ?_ <;> unfold requestReworkEffects
  · split <;> exact ⟨_, rfl, rfl, rfl, rfl⟩
  · split <;> rfl

theorem trail_returnForRework {reason : String} {report : Report}
    (hrow : s.report? report.id = some report) :
    Trail s [.update report.id none (returnForReworkData reason)
      (returnForReworkEffects user reason report)] := by
  refine trail_update hrow ?_ fun r => ?_ <;> unfold returnForReworkEffects
  · split <;> exact ⟨_, rfl, rfl, rfl, rfl⟩
  · split <;> rfl

/-- The sweep over the review windows describes what it does to each report. -/
theorem trail_deadline {limit : ℕ} :
    Trail s ((deadlineClosures env s limit).map fun report =>
      .update report.id (some .completedByProvider) (deadlineCloseData env user)
        (deadlineCloseEffects user)) where
  evidenced := by
    simp only [List.forall_mem_map]
    exact fun _ _ r => evidenceRows_append (notifyStatusChange_notices r) _
  described := by
    simp only [List.forall_mem_map]
    intro r hr r' hrow
    obtain ⟨hr, hstatus⟩ := awaiting_of_mem_deadlineClosures hr
    obtain rfl : r' = r := Option.some.inj (hrow.symm.trans hr)
    have hawaiting : ReportStatus.completedByProvider = r'.status := of_decide_eq_true hstatus
    rw [deadlineCloseEffects, activityRows_append (notifyStatusChange_notices _), ← hawaiting]
    exact ⟨_, rfl, rfl, rfl, rfl⟩
  apart := by
    rw [List.pairwise_map]
    have hnodup := nodup_deadlineClosures env s limit
    rw [List.Nodup, List.pairwise_map] at hnodup
    refine hnodup.imp fun hne id hwrites hreads => hne ?_
    exact hwrites.trans hreads.symm

/-- The writes of a call record what they do. -/
theorem readCall_trail {call : Call} {actions : List Action}
    (hread : readCall cfg env s user call = .ok actions) : Trail s actions := by
  cases call with
  | createReport dto =>
    obtain ⟨organizationId, locationSource, intakeRoute, -, -, rfl⟩ := createReport_eq_ok hread
    exact trail_create
  | assignOrganization reportId dto =>
    obtain ⟨report, organization, hr, -, -, rfl⟩ := assignOrganization_eq_ok.mp hread
    exact trail_update hr ⟨_, rfl, id_of_report? hr, rfl, rfl⟩ fun _ => rfl
  | acceptOrganizationReport reportId note =>
    obtain ⟨report, organizationId, hr, -, ⟨-, -, rfl⟩ | ⟨-, -, rfl⟩⟩ :=
      acceptOrganizationReport_eq_ok.mp hread
    · exact trail_nil
    · exact trail_update hr ⟨_, rfl, id_of_report? hr, rfl, rfl⟩ fun _ => rfl
  | rejectOrganizationReport reportId reason suggested =>
    obtain ⟨report, organizationId, hr, -, -, ⟨-, -, rfl⟩ | ⟨-, -, rfl⟩⟩ :=
      rejectOrganizationReport_eq_ok.mp hread
    · exact trail_nil
    · exact trail_update hr ⟨_, rfl, id_of_report? hr, rfl, rfl⟩ fun _ => rfl
  | processOverdueAssignments | getAssignedReports | getOrganizationReports | getDashboardSummary
  | getRecentReports =>
    rw [← pure_eq_ok.mp (throwIf_bind_eq_ok.mp hread).2]
    exact trail_expire
  | cancelAssignment reportId reason =>
    obtain ⟨report, hr, -, rfl⟩ := cancelAssignment_eq_ok.mp hread
    exact trail_update hr ⟨_, rfl, id_of_report? hr, rfl, rfl⟩ fun _ => rfl
  | assignProviderById reportId providerId options =>
    obtain ⟨report, provider, hr, -, -, rfl⟩ := assignProviderById_eq_ok.mp hread
    exact trail_update hr ⟨_, rfl, id_of_report? hr, rfl, rfl⟩
      fun _ => evidenceRows_append (notifyStatusChange_notices _) _
  | rejectAssignment reportId reason =>
    obtain ⟨report, hr, -, ⟨-, rfl⟩ | ⟨-, -, rfl⟩⟩ := rejectAssignment_eq_ok.mp hread
    · exact trail_expireAndRefuse
    · exact trail_update hr ⟨_, rfl, id_of_report? hr, rfl, rfl⟩ fun _ => rfl
  | updateStatus reportId dto =>
    obtain ⟨report, hr, ⟨-, -, -, rfl⟩ | ⟨-, -, -, hactions⟩⟩ := updateStatus_eq_ok.mp hread
    · exact trail_expireAndRefuse
    · exact trail_statusUpdate hr hactions
  | uploadCompletionEvidence reportId dto => exact trail_uploadCompletionEvidence hread
  | uploadReportEvidence reportId dto => exact trail_uploadReportEvidence hread
  | confirmCitizenCompletion reportId dto =>
    obtain ⟨report, hr, -, ⟨-, rfl⟩ | ⟨-, -, rfl⟩⟩ := confirmCitizenCompletion_eq_ok.mp hread
    · exact trail_nil
    · obtain rfl := id_of_report? hr
      exact trail_confirm hr
  | rejectCitizenCompletion reportId reason =>
    obtain ⟨report, hr, -, -, -, -, rfl⟩ := rejectCitizenCompletion_eq_ok.mp hread
    obtain rfl := id_of_report? hr
    exact trail_rejectCompletion hr
  | verifyOrganizationCompletion reportId reason =>
    obtain ⟨report, hr, -, ⟨-, rfl⟩ | ⟨-, -, -, rfl⟩⟩ := verifyOrganizationCompletion_eq_ok.mp hread
    · exact trail_nil
    · obtain rfl := id_of_report? hr
      exact trail_verify hr
  | requestOrganizationCompletionRework reportId reason =>
    obtain ⟨report, hr, -, -, -, -, rfl⟩ := requestOrganizationCompletionRework_eq_ok.mp hread
    obtain rfl := id_of_report? hr
    exact trail_requestRework hr
  | adminResolveAndClose reportId reason =>
    obtain ⟨report, hr, -, -, -, rfl⟩ := adminResolveAndClose_eq_ok.mp hread
    obtain rfl := id_of_report? hr
    exact trail_governance hr
  | adminReturnForCompletionRework reportId reason =>
    obtain ⟨report, hr, -, -, -, rfl⟩ := adminReturnForCompletionRework_eq_ok.mp hread
    obtain rfl := id_of_report? hr
    exact trail_returnForRework hr
  | adminPlaceCompletionHold reportId reason =>
    obtain ⟨report, hr, -, -, -, rfl⟩ := adminPlaceCompletionHold_eq_ok.mp hread
    obtain rfl := id_of_report? hr
    exact trail_governance hr
  | adminRemoveCompletionHold reportId reason =>
    obtain ⟨report, hr, -, -, rfl⟩ := adminRemoveCompletionHold_eq_ok.mp hread
    obtain rfl := id_of_report? hr
    exact trail_governance hr
  | adminReopenCompletion reportId reason =>
    obtain ⟨report, hr, -, -, rfl⟩ := adminReopenCompletion_eq_ok.mp hread
    obtain rfl := id_of_report? hr
    exact trail_governance hr
  | adminOverrideCompletionPolicy reportId policy reason =>
    obtain ⟨report, hr, -, -, -, rfl⟩ := adminOverrideCompletionPolicy_eq_ok.mp hread
    obtain rfl := id_of_report? hr
    exact trail_governance hr
  | processCompletionReviewDeadlines dto =>
    obtain ⟨-, ⟨-, rfl⟩ | ⟨-, -, rfl⟩⟩ := processCompletionReviewDeadlines_eq_ok.mp hread
    · exact trail_nil
    · exact trail_deadline

/-- The evidence in the store after one write. -/
theorem perform_evidence {t : Store} {action : Action} (haction : action.Evidenced t)
    {row : EvidenceRecord} (h : row ∈ (perform env s action).store.evidenceRecords) :
    row ∈ s.evidenceRecords ∨
      ∃ r, t.report? row.relatedEntityId = some r ∧ row.ownerUserId = r.citizenId := by
  cases action with
  | create report effects =>
    simp only [perform] at h
    split at h
    · exact .inl h
    · refine (performEffects_evidence h).imp_right fun hrow => ?_
      rw [haction] at hrow
      cases hrow
  | update id status data effects =>
    simp only [perform] at h
    split at h
    · exact .inl h
    · refine (performEffects_evidence h).imp_right fun hrow => ?_
      rw [haction] at hrow
      cases hrow
  | emit effects => exact (performEffects_evidence h).imp_right (haction row)
  | throw e => exact .inl h

/-- The evidence in the store after a call. -/
theorem execute_evidence {call : Call} {row : EvidenceRecord}
    (h : row ∈ (execute cfg env s user call).store.evidenceRecords) :
    row ∈ s.evidenceRecords ∨
      ∃ r, s.report? row.relatedEntityId = some r ∧ row.ownerUserId = r.citizenId := by
  have hall : ∀ (actions : List Action) (t : Store), (∀ a ∈ actions, a.Evidenced s) →
      row ∈ (performAll env actions t).store.evidenceRecords → row ∈ t.evidenceRecords ∨
        ∃ r, s.report? row.relatedEntityId = some r ∧ row.ownerUserId = r.citizenId := by
    intro actions
    induction actions with
    | nil => exact fun _ _ h => .inl h
    | cons action actions ih =>
      intro t hactions h
      have hfirst : row ∈ (perform env t action).store.evidenceRecords → _ :=
        perform_evidence (hactions action List.mem_cons_self)
      rw [performAll, Outcome.andThen] at h
      split at h
      · rcases ih _ (fun a ha => hactions a (List.mem_cons_of_mem _ ha)) h with h | h
        · exact hfirst h
        · exact .inr h
      · exact hfirst h
  unfold execute commit at h
  split at h
  · exact .inl h
  · next hread => exact hall _ s (readCall_trail hread).evidenced h

end FixZone.ReportService
