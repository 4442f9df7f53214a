import FixZone.Report.History

/-!
# Notices of a completion

A provider who submits a completion has the reviewers notified whom its policy asks, the citizen
or the operators of the organization. `createNotification` leaves out a notification whose
text is there already, and nothing in the text of these tells one submission from the next, so
a reviewer who was notified of a report once is not notified of it again
(`submission_notifies_iff`).
-/

namespace FixZone.ReportService

open Library

/-! ### What notifying adds -/

/-- The notifications of `rows` that were not there have been added. -/
def AddsNotices (rows before after : List Notification) : Prop :=
  ∃ new, after = before ++ new ∧ ∀ row, row ∈ new ↔ row ∈ rows ∧ row ∉ before

namespace AddsNotices

variable {rows rows' before between after : List Notification}

theorem nil : AddsNotices [] before before := ⟨[], by simp⟩

/-- What is added by two steps is added by both. -/
theorem append (h : AddsNotices rows before between) (h' : AddsNotices rows' between after) :
    AddsNotices (rows ++ rows') before after := by
  obtain ⟨new, rfl, hnew⟩ := h
  obtain ⟨new', rfl, hnew'⟩ := h'
  refine ⟨new ++ new', List.append_assoc .., fun row => ?_⟩
  simp only [List.mem_append, hnew, hnew']
  tauto

/-- The rows that are new are those that were not there. -/
theorem mem_drop_iff (h : AddsNotices rows before after) {row : Notification} :
    row ∈ after.drop before.length ↔ row ∈ rows ∧ row ∉ before := by
  obtain ⟨new, rfl, hnew⟩ := h
  rw [List.drop_left, hnew]

/-- The rows that are asked for are there afterwards. -/
theorem mem (h : AddsNotices rows before after) {row : Notification} (hrow : row ∈ rows) :
    row ∈ after := by
  obtain ⟨new, rfl, hnew⟩ := h
  by_cases hbefore : row ∈ before
  · exact List.mem_append_left _ hbefore
  · exact List.mem_append_right _ ((hnew row).mpr ⟨hrow, hbefore⟩)

theorem subset (h : AddsNotices rows before after) : before ⊆ after := by
  obtain ⟨new, rfl, -⟩ := h
  exact List.subset_append_left _ _

end AddsNotices

theorem addsNotices_createNotification (s : Store) (row : Notification) :
    AddsNotices [row] s.notifications (createNotification s row).notifications := by
  unfold createNotification
  split_ifs with hthere
  · refine ⟨[], (List.append_nil _).symm, fun other => ?_⟩
    simp only [List.not_mem_nil, List.mem_singleton, false_iff, not_and, not_not]
    rintro rfl
    exact hthere
  · refine ⟨[row], rfl, fun other => ?_⟩
    simp only [List.mem_singleton, iff_self_and]
    rintro rfl
    exact hthere

theorem addsNotices_foldl (users : List User) (notice : Notice) (s : Store) :
    AddsNotices (users.map fun user => { notice with userId := user.id }) s.notifications
      (users.foldl (fun s user => createNotification s { notice with userId := user.id })
        s).notifications := by
  induction users generalizing s with
  | nil => exact .nil
  | cons user users ih =>
    exact (addsNotices_createNotification s { notice with userId := user.id }).append (ih _)

/-- The notifications that an effect asks for. -/
def Effect.notices (env : Env) : Effect → List Notification
  | .notification row => [row]
  | .operators organizationId notice =>
    (activeOperators env organizationId).map fun user => { notice with userId := user.id }
  | .resolvers notice => (platformResolvers env).map fun user => { notice with userId := user.id }
  | _ => []

variable {cfg : Config} {env : Env} {s : Store} {user : JwtUser}

/-- A notice adds the notifications that it asks for. -/
theorem addsNotices_performEffect {effect : Effect} (hnotice : effect.isNotice) (s : Store) :
    AddsNotices (effect.notices env) s.notifications
      (performEffect env s effect).store.notifications := by
  cases effect with
  | notification row => exact addsNotices_createNotification s row
  | operators organizationId notice => exact addsNotices_foldl _ notice s
  | resolvers notice => exact addsNotices_foldl _ notice s
  | activity row => cases hnotice
  | evidence row => cases hnotice
  | workflow event => cases hnotice

/-- No notice throws. -/
theorem performEffect_error_of_isNotice {effect : Effect} (hnotice : effect.isNotice) (s : Store) :
    (performEffect env s effect).error = none := by
  cases effect with
  | workflow event => cases hnotice
  | _ => rfl

/-- Notices add the notifications that they ask for, where what follows adds none. -/
theorem addsNotices_performEffects {notices rest : List Effect}
    (hnotices : ∀ effect ∈ notices, effect.isNotice)
    (hrest : ∀ s, (performEffects env rest s).store.notifications = s.notifications) (s : Store) :
    AddsNotices (notices.flatMap (Effect.notices env)) s.notifications
      (performEffects env (notices ++ rest) s).store.notifications := by
  induction notices generalizing s with
  | nil =>
    rw [List.nil_append, hrest s]
    exact .nil
  | cons notice notices ih =>
    have hnotice := hnotices notice List.mem_cons_self
    rw [List.cons_append, performEffects, Outcome.andThen,
      performEffect_error_of_isNotice hnotice s]
    exact (addsNotices_performEffect hnotice s).append
      (ih (fun effect heffect => hnotices effect (List.mem_cons_of_mem _ heffect)) _)

/-! ### Reviewers -/

/-- `citizenRequired`. -/
def citizenRequired (policy : CompletionPolicy) : Bool :=
  [.citizenConfirmationRequired, .bothRequired, .citizenOrOrganization,
    .autoCloseAfterReviewWindow].contains policy

/-- `organizationRequired`. -/
def organizationRequired (policy : CompletionPolicy) : Bool :=
  [.organizationConfirmationRequired, .bothRequired, .citizenOrOrganization,
    .autoCloseAfterReviewWindow].contains policy

/-- What the citizen is told of a completion. -/
def citizenNotice (r : Report) : Notification where
  userId := r.citizenId
  reportId := r.id
  type := "completion_review"
  title := "Ready for review"
  message := "The provider marked " ++ quoted r.title ++ " complete. Please review it."

/-- What an operator of the organization is told of a completion. -/
def operatorNotice (r : Report) (operatorId : String) : Notification where
  userId := operatorId
  reportId := r.id
  type := "organization_completion_review"
  title := "Completion verification required"
  message := "Provider submitted completion evidence for " ++ quoted r.title ++ "."

/-- The notifications that a completion asks for. -/
def reviewerNotices (env : Env) (r : Report) : List Notification :=
  (notifyCompletionReviewers r).flatMap (Effect.notices env)

/-- What the staff of the platform are told of a completion. -/
def resolverNotice (r : Report) (resolverId : String) : Notification where
  userId := resolverId
  reportId := r.id
  type := "admin_completion_resolution_required"
  title := "Completion resolution required"
  message := "Completion for " ++ quoted r.title ++ " requires platform resolution."

theorem mem_reviewerNotices {r : Report} {policy : CompletionPolicy}
    (hpolicy : r.completionPolicy = some policy) {row : Notification} :
    row ∈ reviewerNotices env r ↔
      (citizenRequired policy ∧ row = citizenNotice r ∨
        organizationRequired policy ∧
          ∃ operator ∈ activeOperators env r.organizationId, operatorNotice r operator.id = row) ∨
      policy = .adminResolutionRequired ∧
        ∃ resolver ∈ platformResolvers env, resolverNotice r resolver.id = row := by
  rw [reviewerNotices, notifyCompletionReviewers, hpolicy, Option.getD_some, List.flatMap_append,
    List.flatMap_append, List.mem_append, List.mem_append]
  refine or_congr (or_congr ?_ ?_) ?_
  · change row ∈ List.flatMap _ (if citizenRequired policy then _ else _) ↔ _
    split_ifs with hrequired
    · simp [hrequired, Effect.notices, citizenNotice]
    · simp [hrequired]
  · change row ∈ List.flatMap _ (if organizationRequired policy then _ else _) ↔ _
    split_ifs with hrequired
    · simp [hrequired, Effect.notices, operatorNotice]
    · simp [hrequired]
  · split_ifs with hrequired
    · simp [hrequired, Effect.notices, resolverNotice]
    · simp [hrequired]

/-- The citizen is told where the policy asks for the citizen. -/
theorem mem_reviewerNotices_citizen {r : Report} {policy : CompletionPolicy}
    (hpolicy : r.completionPolicy = some policy) {row : Notification}
    (htype : row.type = "completion_review") :
    row ∈ reviewerNotices env r ↔ citizenRequired policy ∧ row = citizenNotice r := by
  rw [mem_reviewerNotices hpolicy, or_assoc, or_iff_left]
  rintro (⟨-, operator, -, rfl⟩ | ⟨-, resolver, -, rfl⟩)
  · exact absurd htype (by simp [operatorNotice])
  · exact absurd htype (by simp [resolverNotice])

/-- The operators are told where the policy asks for the organization. -/
theorem mem_reviewerNotices_operator {r : Report} {policy : CompletionPolicy}
    (hpolicy : r.completionPolicy = some policy) {row : Notification}
    (htype : row.type = "organization_completion_review") :
    row ∈ reviewerNotices env r ↔ organizationRequired policy ∧
      ∃ operator ∈ activeOperators env r.organizationId, operatorNotice r operator.id = row := by
  rw [mem_reviewerNotices hpolicy, or_iff_left, or_iff_right]
  · rintro ⟨-, rfl⟩
    exact absurd htype (by simp [citizenNotice])
  · rintro ⟨-, resolver, -, rfl⟩
    exact absurd htype (by simp [resolverNotice])

/-! ### What a submission adds -/

/-- A submission adds the notifications of its reviewers that were not there. -/
theorem SubmitsCompletion.addsNotices {event : Event} {r : Report} {dto : UpdateReportStatusDto}
    {policy : CompletionPolicyResolution} (h : SubmitsCompletion cfg s event r dto)
    (hpolicy : resolveCompletionPolicy cfg event.env r = some policy) :
    ∃ r', r'.completionPolicy = some policy.policy ∧ r'.organizationId = r.organizationId ∧
      citizenNotice r' = citizenNotice r ∧ operatorNotice r' = operatorNotice r ∧
      AddsNotices (reviewerNotices event.env r') s.notifications
        (step cfg event s).notifications := by
  obtain ⟨policy', hready⟩ := h.evidence
  obtain rfl := Option.some_inj.mp (hready.policy.symm.trans hpolicy)
  refine ⟨(completionData cfg event.env dto (normalizeCompletionEvidenceFields cfg
    dto.completionImageUrl dto.completionImagePath) policy').apply r, rfl, rfl, rfl, rfl, ?_⟩
  rw [step, outcome_of_call h.request, execute_store (h.read hready) h.row, updateStatusEffects,
    if_pos h.completed, List.append_assoc]
  refine addsNotices_performEffects (notifyCompletionReviewers_notices _) (fun s => ?_) _
  -- The orchestrator notifies nobody, and what is left neither.
  simp only [List.cons_append, List.nil_append, performEffects, performEffect_workflow]
  simp [performEffect, publish]

/-- A new notification of a type, about a report, for a user. -/
def NewNotice (s after : Store) (userId reportId type : String) : Prop :=
  ∃ row ∈ after.notifications.drop s.notifications.length,
    row.userId = userId ∧ row.reportId = reportId ∧ row.type = type

/-- A submission notifies every reviewer whose decision it requires. -/
def NotifiesReviewers (cfg : Config) (s : Store) (event : Event) : Prop :=
  ∀ r dto policy, SubmitsCompletion cfg s event r dto →
    resolveCompletionPolicy cfg event.env r = some policy →
    (citizenRequired policy.policy →
      NewNotice s (step cfg event s) r.citizenId r.id "completion_review") ∧
    (organizationRequired policy.policy → ∀ operator ∈ activeOperators event.env r.organizationId,
      NewNotice s (step cfg event s) operator.id r.id "organization_completion_review")

/-- No reviewer of a submission has been told the same before. -/
def Unnotified (cfg : Config) (s : Store) (event : Event) : Prop :=
  ∀ r dto policy, SubmitsCompletion cfg s event r dto →
    resolveCompletionPolicy cfg event.env r = some policy →
    (citizenRequired policy.policy → citizenNotice r ∉ s.notifications) ∧
    (organizationRequired policy.policy → ∀ operator ∈ activeOperators event.env r.organizationId,
      operatorNotice r operator.id ∉ s.notifications)

theorem notifiesReviewers_iff {event : Event} :
    NotifiesReviewers cfg s event ↔ Unnotified cfg s event := by
  refine forall_congr' fun r => forall_congr' fun dto => forall_congr' fun policy =>
    forall_congr' fun hsubmits => forall_congr' fun hpolicy => ?_
  obtain ⟨r', hpolicy', horganization, hcitizen, hoperator, hadds⟩ := hsubmits.addsNotices hpolicy
  refine and_congr (forall_congr' fun hrequired => ?_) (forall_congr' fun hrequired =>
    forall_congr' fun operator => forall_congr' fun hactive => ?_)
  · constructor
    · rintro ⟨row, hnew, -, -, htype⟩
      obtain ⟨hrow, hfresh⟩ := hadds.mem_drop_iff.mp hnew
      obtain ⟨-, rfl⟩ := (mem_reviewerNotices_citizen hpolicy' htype).mp hrow
      rwa [hcitizen] at hfresh
    · intro hfresh
      refine ⟨citizenNotice r, hadds.mem_drop_iff.mpr ⟨?_, hfresh⟩, rfl, rfl, rfl⟩
      exact (mem_reviewerNotices_citizen hpolicy' rfl).mpr ⟨hrequired, hcitizen.symm⟩
  · constructor
    · rintro ⟨row, hnew, huser, -, htype⟩
      obtain ⟨hrow, hfresh⟩ := hadds.mem_drop_iff.mp hnew
      obtain ⟨-, other, -, rfl⟩ := (mem_reviewerNotices_operator hpolicy' htype).mp hrow
      have hsame : other.id = operator.id := huser
      rwa [hoperator, hsame] at hfresh
    · intro hfresh
      refine ⟨operatorNotice r operator.id, hadds.mem_drop_iff.mpr ⟨?_, hfresh⟩, rfl, rfl, rfl⟩
      refine (mem_reviewerNotices_operator hpolicy' rfl).mpr ⟨hrequired, operator, ?_, ?_⟩
      · rwa [horganization]
      · rw [hoperator]

/-- **A reviewer is notified of a report once.** In every run, each submission notifies the
reviewers it requires exactly where each submission finds that none of them has been told the same
before. -/
theorem submission_notifies_iff (cfg : Config) (s : Store) (events : List Event) :
    Along (step cfg) (NotifiesReviewers cfg) s events ↔
      Along (step cfg) (Unnotified cfg) s events :=
  along_congr (fun _ _ => notifiesReviewers_iff) s events

/-! ### Notifications stay -/

/-- The notifications of `s` are still there. -/
def KeepsNotices (s after : Store) : Prop := s.notifications ⊆ after.notifications

theorem KeepsNotices.refl (s : Store) : KeepsNotices s s := List.Subset.refl _

theorem KeepsNotices.trans {mid after : Store} (h : KeepsNotices s mid)
    (h' : KeepsNotices mid after) : KeepsNotices s after :=
  List.Subset.trans h h'

theorem performEffect_keepsNotices (env : Env) (s : Store) (effect : Effect) :
    KeepsNotices s (performEffect env s effect).store := by
  cases effect with
  | activity row => exact .refl _
  | evidence row => exact .refl _
  | notification row => exact (addsNotices_performEffect rfl s).subset
  | operators organizationId notice => exact (addsNotices_performEffect rfl s).subset
  | resolvers notice => exact (addsNotices_performEffect rfl s).subset
  | workflow event =>
    rw [performEffect_workflow]
    cases event with
    | providerCompletedReport => exact .refl _
    | citizenConfirmedCompletion => exact .refl _
    | citizenRejectedCompletion reportId organizationId providerId =>
      rw [publish, KeepsNotices]
      dsimp only
      rw [List.append_assoc]
      exact List.subset_append_left _ _

theorem andThen_keepsNotices {o : Outcome} {f : Store → Outcome} (ho : KeepsNotices s o.store)
    (hf : ∀ t, KeepsNotices t (f t).store) : KeepsNotices s (o.andThen f).store :=
  andThen_store (P := KeepsNotices s) ho (ho.trans (hf o.store))

theorem performEffects_keepsNotices (env : Env) (effects : List Effect) (s : Store) :
    KeepsNotices s (performEffects env effects s).store := by
  induction effects generalizing s with
  | nil => exact .refl _
  | cons effect effects ih =>
    exact andThen_keepsNotices (performEffect_keepsNotices env s effect) ih

theorem perform_keepsNotices (env : Env) (s : Store) (action : Action) :
    KeepsNotices s (perform env s action).store := by
  cases action with
  | create report effects =>
    rw [perform]
    split
    · exact .refl _
    · exact performEffects_keepsNotices env effects { s with reports := s.reports.insert report }
  | update reportId status data effects =>
    rw [perform]
    split
    · exact .refl _
    · exact performEffects_keepsNotices env _ { s with reports := s.reports.modify reportId data }
  | emit effects => exact performEffects_keepsNotices env effects s
  | throw error => exact .refl _

theorem performAll_keepsNotices (env : Env) (actions : List Action) (s : Store) :
    KeepsNotices s (performAll env actions s).store := by
  induction actions generalizing s with
  | nil => exact .refl _
  | cons action actions ih => exact andThen_keepsNotices (perform_keepsNotices env s action) ih

theorem execute_keepsNotices (call : Call) (s : Store) :
    KeepsNotices s (execute cfg env s user call).store := by
  unfold execute commit
  split
  · exact .refl _
  · exact performAll_keepsNotices env _ s

/-- No request takes a notification away. -/
theorem step_keepsNotices (cfg : Config) (event : Event) (s : Store) :
    KeepsNotices s (step cfg event s) := by
  rw [step, outcome]
  split
  · exact execute_keepsNotices _ s
  · rw [reassignProvider]
    split
    · exact .refl _
    · refine andThen_keepsNotices (andThen_keepsNotices ?_ fun t => execute_keepsNotices _ t)
        fun t => ?_
      · split_ifs
        · exact execute_keepsNotices _ s
        · exact .refl _
      · rw [performFor]
        split
        · exact performEffects_keepsNotices _ _ t
        · exact .refl _

namespace Example

/-- The citizen sends the work back, and the provider starts on it once more. -/
def reworked : List Event :=
  dispatched ++
    [at_ 4 provider (.updateStatus "report" { status := .inProgress }),
      at_ 5 provider (.updateStatus "report"
        { status := .completedByProvider, completionImageUrl := some "https://images/after.jpg" }),
      at_ 6 citizen (.rejectCitizenCompletion "report" "Still dark"),
      at_ 7 provider (.updateStatus "report" { status := .inProgress })]

/-- What the provider then submits. -/
def secondDto : UpdateReportStatusDto :=
  { status := .completedByProvider, completionImageUrl := some "https://images/lit.jpg" }

/-- The second submission. -/
def resubmitted : Event := at_ 8 provider (.updateStatus "report" secondDto)

/-- The store in which it is made. -/
def reworkedStore : Store := run (step {}) Store.empty reworked

end Example

open Example in
/-- The citizen is not notified of a completion that is submitted once more. -/
theorem resubmission_unnoticed :
    ¬∀ (cfg : Config) (s : Store) (events : List Event),
      Along (step cfg) (NotifiesReviewers cfg) s events := by
  intro h
  have hagain : NotifiesReviewers {} reworkedStore resubmitted :=
    along_iff.mp (h {} Store.empty (reworked ++ [resubmitted])) reworked _ [] rfl
  have hcolumns : (reworkedStore.report? "report").map (fun r =>
      (r.id, r.status, r.assignedProviderId,
        (resolveCompletionPolicy {} resubmitted.env r).map (citizenRequired ·.policy),
        decide (citizenNotice r ∈ reworkedStore.notifications))) =
      some ("report", .inProgress, some "provider", some true, true) := by
    decide +kernel
  obtain ⟨r, hrow, hr⟩ := Option.map_eq_some_iff.mp hcolumns
  simp only [Prod.mk.injEq, decide_eq_true_eq, Option.map_eq_some_iff] at hr
  obtain ⟨hid, hstatus, hassigned, ⟨policy, hpolicy, hrequired⟩, htold⟩ := hr
  have hsubmits : SubmitsCompletion {} reworkedStore resubmitted r secondDto :=
    { request := by rw [hid]; rfl
      row := hid ▸ hrow
      completed := rfl
      ready := fun _ => ⟨⟨_, rfl, by decide⟩, nofun⟩
      allowed := ⟨by decide, by rw [hstatus]; decide, .inl ⟨rfl, hassigned, .inr rfl⟩⟩
      evidence := ⟨policy, .inr (.inl (by decide)), hpolicy⟩ }
  exact ((notifiesReviewers_iff.mp hagain) r secondDto policy hsubmits hpolicy).1 hrequired htold

end FixZone.ReportService
