import FixZone.Report.Visibility

/-!
# The history of a report

The activities of a report tell its status from its creation on: `replayedStatus` is what
the last of them says that names a status. In every state of a run it is the status of
the report, and each change of a status is recorded with the status before and after
(`history_replays`). `updateStatus` records a completion only after the workflow orchestrator
has been told of it, and `assertMaintenanceActive` never makes that throw.
-/

namespace FixZone.ReportService

open Library

variable {cfg : Config} {env : Env} {s : Store} {user : JwtUser}

/-! ### Replaying activities -/

/-- The status that the activities of the report `id` end with. -/
def replayedStatus (activities : List ReportActivity) (id : String) : Option ReportStatus :=
  ((activities.filter (·.reportId = id)).filterMap (·.toStatus)).getLast?

theorem replayedStatus_append (xs ys : List ReportActivity) (id : String) :
    replayedStatus (xs ++ ys) id = (replayedStatus ys id).or (replayedStatus xs id) := by
  simp only [replayedStatus, List.filter_append, List.filterMap_append, List.getLast?_append]

/-- The status that activities end with is named by one of them. -/
theorem mem_of_replayedStatus {rows : List ReportActivity} {id : String} {status : ReportStatus}
    (h : replayedStatus rows id = some status) :
    ∃ row ∈ rows, row.reportId = id ∧ row.toStatus = some status := by
  obtain ⟨row, hrow, hstatus⟩ := List.mem_filterMap.mp (List.mem_of_getLast? h)
  obtain ⟨hrow, hid⟩ := List.mem_filter.mp hrow
  exact ⟨row, hrow, by simpa using hid, hstatus⟩

/-- Activities of one report that agree on its status end with it. -/
theorem replayedStatus_of_forall {rows : List ReportActivity} {id : String} {status : ReportStatus}
    (hne : rows ≠ [])
    (h : ∀ row ∈ rows, row.reportId = id ∧ row.toStatus = some status) :
    replayedStatus rows id = some status := by
  obtain ⟨first, hfirst⟩ := List.exists_mem_of_ne_nil rows hne
  cases hlast : replayedStatus rows id with
  | some last =>
    obtain ⟨row, hrow, -, hstatus⟩ := mem_of_replayedStatus hlast
    rw [← hstatus, (h row hrow).2]
  | none =>
    rw [replayedStatus, List.getLast?_eq_none_iff, List.filterMap_eq_nil_iff] at hlast
    have hnone := hlast first (List.mem_filter.mpr ⟨hfirst, by simpa using (h first hfirst).1⟩)
    rw [(h first hfirst).2] at hnone
    cases hnone

/-- Activities of other reports do not tell. -/
theorem replayedStatus_of_ne {rows : List ReportActivity} {id : String}
    (h : ∀ row ∈ rows, row.reportId ≠ id) : replayedStatus rows id = none := by
  cases hlast : replayedStatus rows id with
  | none => rfl
  | some last =>
    obtain ⟨row, hrow, hid, -⟩ := mem_of_replayedStatus hlast
    exact absurd hid (h row hrow)

/-! ### What is asked of a store and of a step -/

/-- The status of every report is what its activities end with. -/
def Replays (s : Store) : Prop :=
  ∀ id r, s.report? id = some r → replayedStatus s.activities id = some r.status

/-- From one store to the other, every change of a status is recorded, with the status before it
and after. -/
def ChangesRecorded (s after : Store) : Prop :=
  ∃ rows, after.activities = s.activities ++ rows ∧
    ∀ id r r', s.report? id = some r → after.report? id = some r' → r'.status ≠ r.status →
      ∃ row ∈ rows, row.reportId = id ∧ row.fromStatus = some r.status ∧
        row.toStatus = some r'.status

/-- The activities end with the statuses of the reports, and there are none of other reports. -/
def History (s : Store) : Prop :=
  ∀ id, replayedStatus s.activities id = (s.report? id).map (·.status)

theorem History.replays (h : History s) : Replays s := by
  intro id r hrow
  rw [h id, hrow]
  rfl

theorem changesRecorded_refl (s : Store) : ChangesRecorded s s :=
  ⟨[], (List.append_nil _).symm, fun id r r' h h' hne => by
    rw [Option.some.inj (h.symm.trans h')] at hne
    exact absurd rfl hne⟩

/-- Changes in a row are recorded when each report is changed by one of them. -/
theorem ChangesRecorded.trans {mid after : Store} (h : ChangesRecorded s mid)
    (h' : ChangesRecorded mid after)
    (hone : ∀ id, mid.report? id = s.report? id ∨ after.report? id = mid.report? id) :
    ChangesRecorded s after := by
  obtain ⟨rows, hrows, hfirst⟩ := h
  obtain ⟨rows', hrows', hsecond⟩ := h'
  refine ⟨rows ++ rows', by rw [hrows', hrows, List.append_assoc], ?_⟩
  intro id r r' hr hr' hne
  rcases hone id with hsame | hsame
  · obtain ⟨row, hrow, hdescribes⟩ := hsecond id r r' (hsame.trans hr) hr' hne
    exact ⟨row, List.mem_append_right _ hrow, hdescribes⟩
  · obtain ⟨row, hrow, hdescribes⟩ := hfirst id r r' hr (hsame.symm.trans hr') hne
    exact ⟨row, List.mem_append_left _ hrow, hdescribes⟩

/-! ### One write -/

/-- A write leaves the reports alone that it does not write. -/
theorem perform_frame (env : Env) {action : Action} {id : String} (h : ¬ action.Writes id) :
    (perform env s action).store.report? id = s.report? id := by
  cases action with
  | create report effects =>
    simp only [perform]
    split
    · rfl
    · next hfree =>
      rw [Store.report?, performEffects_reports]
      exact (Table.find?_insert_of_free hfree id).trans (if_neg fun hid => h hid.symm)
  | update reportId status data effects =>
    exact perform_update_report?_of_ne env status data effects h
  | emit effects => rw [perform, Store.report?, performEffects_reports, Store.report?]
  | throw e => rfl

/-- New activities keep the history when they end with the statuses that are new. -/
theorem history_append {after : Store} {rows : List ReportActivity} (hs : History s)
    (hrows : after.activities = s.activities ++ rows)
    (h : ∀ id, (∃ r, after.report? id = some r ∧ replayedStatus rows id = some r.status) ∨
      replayedStatus rows id = none ∧ after.report? id = s.report? id) : History after := by
  intro id
  rw [hrows, replayedStatus_append]
  rcases h id with ⟨r, hrow, hnew⟩ | ⟨hnone, hsame⟩
  · rw [hnew, hrow]
    rfl
  · rw [hnone, hsame, Option.none_or, hs id]

/-- A write that records what it does keeps the history. -/
theorem perform_history {action : Action} (hs : History s) (haction : action.Described s) :
    History (perform env s action).store ∧ ChangesRecorded s (perform env s action).store := by
  cases action with
  | create report effects =>
    simp only [perform]
    split
    · exact ⟨hs, changesRecorded_refl s⟩
    · next hfree =>
      obtain ⟨hne, hrows⟩ := haction
      have hreport : ∀ id, (performEffects env effects
          { s with reports := s.reports.insert report }).store.report? id =
            if id = report.id then some report else s.report? id := by
        intro id
        rw [Store.report?, performEffects_reports]
        exact Table.find?_insert_of_free hfree id
      have hactivities := performEffects_activities env effects
        { s with reports := s.reports.insert report }
      refine ⟨history_append hs hactivities fun id => ?_, _, hactivities, ?_⟩
      · rw [hreport id]
        split
        · next hid =>
          rw [hid]
          exact .inl ⟨report, rfl, replayedStatus_of_forall hne hrows⟩
        · next hid =>
          exact .inr ⟨replayedStatus_of_ne fun row hrow h => hid ((hrows row hrow).1 ▸ h).symm, rfl⟩
      · intro id r r' hr hr' hchanged
        rw [hreport id, if_neg] at hr'
        · rw [Option.some.inj (hr.symm.trans hr')] at hchanged
          exact absurd rfl hchanged
        · rintro rfl
          rw [hfree] at hr
          cases hr
  | update id status data effects =>
    simp only [perform]
    split
    · exact ⟨hs, changesRecorded_refl s⟩
    · next report hfound =>
      obtain ⟨hrow, -⟩ := Option.filter_eq_some_iff.mp hfound
      obtain ⟨row, hrows, hid, hfrom, hto⟩ := haction report hrow
      have hreport : ∀ id', (performEffects env (effects (data.apply report))
          { s with reports := s.reports.modify id data }).store.report? id' =
            if id' = id then some (data.apply report) else s.report? id' := by
        intro id'
        rw [Store.report?, performEffects_reports]
        refine (Table.find?_modify s.reports id id' data).trans ?_
        split
        · next hsame =>
          rw [hsame]
          exact congrArg (Option.map data.apply) hrow
        · rfl
      have hactivities := performEffects_activities env (effects (data.apply report))
        { s with reports := s.reports.modify id data }
      rw [hrows] at hactivities
      refine ⟨history_append hs hactivities fun id' => ?_, _, hactivities, ?_⟩
      · rw [hreport id']
        split
        · next hsame =>
          rw [hsame]
          exact .inl ⟨_, rfl, replayedStatus_of_forall (by simp) (by simp [hid, hto])⟩
        · next hother =>
          exact .inr ⟨replayedStatus_of_ne (by simpa [hid] using Ne.symm hother), rfl⟩
      · intro id' r r' hr hr' hchanged
        rw [hreport id'] at hr'
        split at hr'
        · next hsame =>
          subst hsame
          obtain rfl : report = r := Option.some.inj (hrow.symm.trans hr)
          obtain rfl := Option.some.inj hr'
          exact ⟨row, List.mem_singleton_self row, hid, hfrom, hto⟩
        · rw [Option.some.inj (hr.symm.trans hr')] at hchanged
          exact absurd rfl hchanged
  | emit effects =>
    rw [perform]
    have hreport : ∀ id, (performEffects env effects s).store.report? id = s.report? id := by
      intro id
      rw [Store.report?, performEffects_reports, Store.report?]
    have hactivities := performEffects_activities env effects s
    refine ⟨history_append hs hactivities fun id => ?_, _, hactivities, ?_⟩
    · rw [hreport id]
      cases hlast : replayedStatus (activityRows effects) id with
      | none => exact .inr ⟨rfl, rfl⟩
      | some last =>
        obtain ⟨row, hrow, hid, hstatus⟩ := mem_of_replayedStatus hlast
        rcases haction row hrow with hnone | ⟨r, hr, hcurrent⟩
        · rw [hnone] at hstatus
          cases hstatus
        · rw [hid] at hr
          rw [hr, ← hstatus, hcurrent]
          exact .inl ⟨r, rfl, rfl⟩
    · intro id r r' hr hr' hchanged
      rw [hreport id] at hr'
      rw [Option.some.inj (hr.symm.trans hr')] at hchanged
      exact absurd rfl hchanged
  | throw e => exact ⟨hs, changesRecorded_refl s⟩

/-! ### Calls -/

theorem Action.Writes.reads {action : Action} {id : String} (h : action.Writes id) :
    action.Reads id := by
  cases action with
  | create _ _ | update _ _ _ _ => exact h
  | emit _ | throw _ => exact h.elim

theorem performAll_frame (env : Env) {actions : List Action} {id : String}
    (h : ∀ action ∈ actions, ¬ action.Writes id) :
    (performAll env actions s).store.report? id = s.report? id := by
  induction actions generalizing s with
  | nil => rfl
  | cons action actions ih =>
    have hfirst := perform_frame (s := s) env (h action List.mem_cons_self)
    exact andThen_store (P := fun t => t.report? id = s.report? id) hfirst
      ((ih fun a ha => h a (List.mem_cons_of_mem _ ha)).trans hfirst)

/-- What a write records stays right while nobody else writes what it reads. -/
theorem Action.Described.of_frame {after : Store} {action : Action} (h : action.Described s)
    (hframe : ∀ id, action.Reads id → after.report? id = s.report? id) :
    action.Described after := by
  cases action with
  | create report effects => exact h
  | update id status data effects =>
    intro r hrow
    exact h r ((hframe id rfl).symm.trans hrow)
  | emit effects =>
    intro row hrow
    refine (h row hrow).imp_right fun ⟨r, hr, hstatus⟩ => ⟨r, ?_, hstatus⟩
    exact (hframe row.reportId ⟨row, hrow, rfl⟩).trans hr
  | throw e => trivial

/-- Writes that record what they do keep the history. -/
theorem performAll_history {actions : List Action} (hs : History s) (h : Trail s actions) :
    History (performAll env actions s).store ∧
      ChangesRecorded s (performAll env actions s).store := by
  obtain ⟨-, hdescribed, hapart⟩ := h
  induction actions generalizing s with
  | nil => exact ⟨hs, changesRecorded_refl s⟩
  | cons action actions ih =>
    obtain ⟨hhead, htail⟩ := List.pairwise_cons.mp hapart
    obtain ⟨hhistory, hrecorded⟩ := perform_history hs (hdescribed action List.mem_cons_self)
    rw [performAll, Outcome.andThen]
    cases herror : (perform env s action).error with
    | some e => exact ⟨hhistory, hrecorded⟩
    | none =>
      have hrest : ∀ a ∈ actions, a.Described (perform env s action).store := fun a ha =>
        (hdescribed a (List.mem_cons_of_mem _ ha)).of_frame fun id hreads =>
          perform_frame env fun hwrites => hhead a ha id hwrites hreads
      obtain ⟨hlast, hrecorded'⟩ := ih hhistory hrest htail
      refine ⟨hlast, hrecorded.trans hrecorded' fun id => ?_⟩
      by_cases hwrites : action.Writes id
      · exact .inr (performAll_frame env fun a ha h => hhead a ha id hwrites h.reads)
      · exact .inl (perform_frame env hwrites)

/-- A call keeps the history. -/
theorem execute_history {call : Call} (hs : History s) :
    History (execute cfg env s user call).store ∧
      ChangesRecorded s (execute cfg env s user call).store := by
  unfold execute commit
  split
  · exact ⟨hs, changesRecorded_refl s⟩
  · next hread => exact performAll_history hs (readCall_trail hread)

/-- A status update that submits a completion and passes its checks. -/
structure SubmitsCompletion (cfg : Config) (s : Store) (event : Event) (r : Report)
    (dto : UpdateReportStatusDto) : Prop where
  request : event.request = .call (.updateStatus r.id dto)
  row : s.report? r.id = some r
  completed : dto.status = .completedByProvider
  ready : ProviderReady event.env event.user dto.status
  allowed : TransitionAllowed event.user r dto.status
  evidence : ∃ policy, CompletionReady cfg event.env s r dto policy

/-- A call that writes one report leaves what the effects leave. -/
theorem execute_store {call : Call} {reportId : String} {data : Patch Report.id}
    {effects : Report → List Effect} {r : Report}
    (hread : readCall cfg env s user call = .ok [.update reportId none data effects])
    (h : s.report? reportId = some r) :
    (execute cfg env s user call).store = (performEffects env (effects (data.apply r))
      { s with reports := s.reports.modify reportId data }).store := by
  have hfound : (s.report? reportId).filter (fun report =>
      (none : Option ReportStatus).all (· = report.status)) = some r := by
    rw [h]
    rfl
  have hperform : (perform env s (.update reportId none data effects)).store =
      (performEffects env (effects (data.apply r))
        { s with reports := s.reports.modify reportId data }).store := by
    rw [perform, hfound]
  rw [execute, hread, commit, performAll]
  exact andThen_store (P := (· = _)) hperform hperform

/-- What a submission asks for. -/
theorem SubmitsCompletion.read {event : Event} {r : Report} {dto : UpdateReportStatusDto}
    {policy : CompletionPolicyResolution} (h : SubmitsCompletion cfg s event r dto)
    (hready : CompletionReady cfg event.env s r dto policy) :
    readCall cfg event.env s event.user (.updateStatus r.id dto) = .ok [.update r.id none
      (completionData cfg event.env dto (normalizeCompletionEvidenceFields cfg
        dto.completionImageUrl dto.completionImagePath) policy)
      (updateStatusEffects event.user dto r)] := by
  have hlate : startsLate event.env event.user r dto.status = false := by
    simp [startsLate, h.completed]
  exact updateStatus_eq_ok.mpr ⟨r, h.row, .inr ⟨hlate, h.ready, h.allowed,
    (statusUpdate_eq_ok rfl).mpr (.inr ⟨h.completed, policy, hready, rfl⟩)⟩⟩

/-! ### Discussion -/

/-- `ReportMessage`. -/
structure ReportMessage where
  reportId : String
  organizationId : String
  authorId : String
  authorRole : UserRole
  authorName : Option String
  message : String

/-- The length of a character in `text.length`. -/
def utf16Units (c : Char) : ℕ := if c.val < 0x10000 then 1 else 2

/-- `text.slice(0, n)`; a character that would be cut in two is left out. -/
def sliceUtf16 : ℕ → List Char → List Char
  | _, [] => []
  | n, c :: cs => if utf16Units c ≤ n then c :: sliceUtf16 (n - utf16Units c) cs else []

/-- `safeMessage`: control characters are blanks. -/
def safeMessage (text : String) : String :=
  trim (String.ofList (text.toList.map fun c => if c.toNat ≤ 0x1F ∨ c.toNat = 0x7F then ' ' else c))

/-- Whom `notifyReportMessageParticipants` notifies. -/
def messageParticipants (env : Env) (report : Report) (authorId : String) : List String :=
  let operators := (env.users.filter fun row =>
    row.organizationId = some report.organizationId &&
      (row.role = .orgAdmin || row.role = .dispatchOfficer) &&
      row.accountStatus ≠ .deactivated).take 25
  (report.citizenId :: (report.assignedProviderId.toList.filter (· ≠ "") ++
    operators.map (·.id))).eraseDups.filter (· ≠ authorId)

/-- What `createReportMessage` adds besides the message. -/
def messageEffects (env : Env) (user : JwtUser) (message : String) (report : Report) :
    List Effect :=
  .activity { recordReportActivity user report.id report.organizationId
      "REPORT_DISCUSSION_MESSAGE" with
      note := some (String.ofList (sliceUtf16 240 message.toList)) } ::
  (messageParticipants env report user.getUserId).map fun userId =>
    .notification
      { userId, reportId := report.id, type := "REPORT_DISCUSSION_MESSAGE",
        title := "New report discussion message",
        message := quoted report.title ++ ": " ++
          String.ofList (sliceUtf16 140 message.toList) }

/-- `createReportMessage`; a message that is no string is none. -/
def createReportMessage (env : Env) (s : Store) (reportId : String) (message : Option String)
    (user : JwtUser) : Except HttpError (ReportMessage × List Action) := do
  let text := trimmed message
  throwIf (text = "") (badRequest "Message is required")
  throwIf (1200 < (text.toList.map utf16Units).sum)
    (badRequest "Message must be 1200 characters or less")
  let report ← getReportById s reportId user
  throwIf (report.status = .closed) (forbidden "Discussion is read-only for this report")
  return ({ reportId, organizationId := report.organizationId, authorId := user.getUserId,
            authorRole := user.role, authorName := user.fullName, message := safeMessage text },
    [.emit (messageEffects env user (safeMessage text) report)])

/-- A message tells nothing of the status. -/
theorem activityRows_messageEffects {message : String} {report : Report} :
    activityRows (messageEffects env user message report) =
      [{ recordReportActivity user report.id report.organizationId "REPORT_DISCUSSION_MESSAGE" with
          note := some (String.ofList (sliceUtf16 240 message.toList)) }] := by
  rw [messageEffects, activityRows, ← List.append_nil (List.map _ _), activityRows_append]
  · rfl
  · simp [Effect.isNotice]

theorem trail_message {message : String} {report : Report} :
    Trail s [.emit (messageEffects env user message report)] where
  evidenced := by
    have hnone : evidenceRows (messageEffects env user message report) = [] := by
      simp [messageEffects, evidenceRows, Effect.evidence?]
    simp [Action.Evidenced, hnone]
  described := by
    simp only [List.mem_singleton, forall_eq, Action.Described, activityRows_messageEffects]
    exact .inl rfl
  apart := List.pairwise_singleton _ _

/-! ### Runs -/

/-- What is asked of the service: a request, or a message for the discussion of a report. -/
inductive Operation where
  | request (event : Event)
  | message (env : Env) (user : JwtUser) (reportId : String) (text : Option String)

/-- What an operation leaves behind. -/
def operate (cfg : Config) : Operation → Store → Store
  | .request event, s => step cfg event s
  | .message env user reportId text, s =>
    (commit env s ((createReportMessage env s reportId text user).map (·.2))).store

/-- The stores an operation passes through: reassigning cancels, assigns and adds an activity. -/
def stages (cfg : Config) : Operation → Store → List Store
  | .request ⟨env, user, .reassignProvider reportId providerId reason⟩, s =>
    match s.report? reportId with
    | none => [s]
    | some report =>
      let cancelled := if truthy report.assignedProviderId then
          execute cfg env s user (reassignCancel reportId reason)
        else ⟨s, none⟩
      let assigned := cancelled.andThen fun s =>
        execute cfg env s user (.assignProviderById reportId providerId {})
      [s, cancelled.store, assigned.store, (assigned.andThen (performFor env reportId
        (reassignEffects user reportId providerId reason report.assignedProviderId))).store]
  | operation, s => [s, operate cfg operation s]

/-- The stages of an operation end with what it leaves behind. -/
theorem getLast?_stages (operation : Operation) (s : Store) :
    (stages cfg operation s).getLast? = some (operate cfg operation s) := by
  cases operation with
  | message env user reportId text => rfl
  | request event =>
    obtain ⟨env, user, request⟩ := event
    cases request with
    | call call => rfl
    | reassignProvider reportId providerId reason =>
      cases hrow : s.report? reportId <;>
        simp [stages, operate, step, outcome, reassignProvider, hrow]

/-- Each stage of an operation replays, and each change of a status is recorded. -/
structure Audited (cfg : Config) (s : Store) (operation : Operation) : Prop where
  replays : ∀ stage ∈ stages cfg operation s, Replays stage
  recorded : (stages cfg operation s).IsChain ChangesRecorded

/-- One outcome after another keeps the history when each does. -/
theorem andThen_history {o : Outcome} {f : Store → Outcome} (ho : History o.store)
    (hf : ∀ t, History t → History (f t).store ∧ ChangesRecorded t (f t).store) :
    History (o.andThen f).store ∧ ChangesRecorded o.store (o.andThen f).store := by
  unfold Outcome.andThen
  split
  · exact hf o.store ho
  · exact ⟨ho, changesRecorded_refl _⟩

/-- The activity that reassigning adds names the status that the report has. -/
theorem performFor_history {reportId providerId : String} {reason previous : Option String}
    (hs : History s) :
    History (performFor env reportId
        (reassignEffects user reportId providerId reason previous) s).store ∧
      ChangesRecorded s (performFor env reportId
        (reassignEffects user reportId providerId reason previous) s).store := by
  unfold performFor
  split
  · next updated hrow =>
    have hdescribed : Action.Described s
        (.emit (reassignEffects user reportId providerId reason previous updated)) := by
      intro row hrow'
      have hrows : activityRows
          (reassignEffects user reportId providerId reason previous updated) =
          [{ recordReportActivity user reportId updated.organizationId "PROVIDER_REASSIGNED" with
            fromStatus := some .pending
            toStatus := some updated.status
            providerId := some providerId
            reason := trimmedOrNull reason }] := by
        unfold reassignEffects
        split <;> rfl
      rw [hrows] at hrow'
      obtain rfl := List.mem_singleton.mp hrow'
      exact .inr ⟨updated, hrow, rfl⟩
    exact perform_history hs hdescribed
  · exact ⟨hs, changesRecorded_refl s⟩

/-- What comes of one operation. -/
structure KeepsHistory (cfg : Config) (s : Store) (operation : Operation) : Prop where
  stages : ∀ stage ∈ stages cfg operation s, History stage
  recorded : (ReportService.stages cfg operation s).IsChain ChangesRecorded

theorem keepsHistory_pair {operation : Operation} {after : Store}
    (hstages : stages cfg operation s = [s, after]) (hs : History s)
    (h : History after ∧ ChangesRecorded s after) : KeepsHistory cfg s operation := by
  constructor <;> rw [hstages]
  · simpa using ⟨hs, h.1⟩
  · exact .cons_cons h.2 (.singleton _)

/-- Every operation keeps the history. -/
theorem keepsHistory (operation : Operation) (hs : History s) : KeepsHistory cfg s operation := by
  cases operation with
  | message env user reportId text =>
    refine keepsHistory_pair rfl hs ?_
    rw [operate]
    cases hread : createReportMessage env s reportId text user with
    | error e => exact ⟨hs, changesRecorded_refl s⟩
    | ok result =>
      simp only [createReportMessage, throwIf_bind_eq_ok,
        bind_eq_ok (x := getReportById s reportId user)] at hread
      obtain ⟨-, -, report, -, -, h⟩ := hread
      rw [← pure_eq_ok.mp h]
      have htrail : Trail s
          [.emit (messageEffects env user (safeMessage (trimmed text)) report)] :=
        trail_message
      exact performAll_history hs htrail
  | request event =>
    obtain ⟨env, user, request⟩ := event
    cases request with
    | call call => exact keepsHistory_pair rfl hs (execute_history hs)
    | reassignProvider reportId providerId reason =>
      cases hrow : s.report? reportId with
      | none =>
        constructor <;> simp [stages, hrow, hs]
      | some report =>
        have hcancelled : History (if truthy report.assignedProviderId then
              execute cfg env s user (reassignCancel reportId reason)
            else ⟨s, none⟩).store ∧ ChangesRecorded s (if truthy report.assignedProviderId then
              execute cfg env s user (reassignCancel reportId reason)
            else ⟨s, none⟩).store := by
          split
          · exact execute_history hs
          · exact ⟨hs, changesRecorded_refl s⟩
        have hassigned := andThen_history (f := fun s =>
            execute cfg env s user (.assignProviderById reportId providerId {}))
          hcancelled.1 fun t ht => execute_history ht
        have hlast := andThen_history (f := performFor env reportId (reassignEffects user reportId
            providerId reason report.assignedProviderId))
          hassigned.1 fun t ht => performFor_history ht
        constructor
        · simpa [stages, hrow] using ⟨hs, hcancelled.1, hassigned.1, hlast.1⟩
        · simp only [stages, hrow]
          exact .cons_cons hcancelled.2 (.cons_cons hassigned.2
            (.cons_cons hlast.2 (.singleton _)))

theorem KeepsHistory.audited {operation : Operation} (h : KeepsHistory cfg s operation) :
    Audited cfg s operation :=
  ⟨fun stage hstage => (h.stages stage hstage).replays, h.recorded⟩

theorem KeepsHistory.operate {operation : Operation} (h : KeepsHistory cfg s operation) :
    History (operate cfg operation s) :=
  h.stages _ (List.mem_of_getLast? (getLast?_stages operation s))

/-- **Audit replay.** In a run from the empty store the activities tell the status of every report
after every step, and each change of a status is recorded. -/
theorem history_replays (cfg : Config) (operations : List Operation) :
    Along (operate cfg) (Audited cfg) Store.empty operations := by
  refine along_iff.mpr fun before operation after _ => (keepsHistory operation ?_).audited
  have hempty : History Store.empty := fun _ => rfl
  exact run_inv (I := History) (Q := fun _ => True)
    (fun _ operation hs _ => (keepsHistory operation hs).operate) hempty fun _ _ => trivial

end FixZone.ReportService
