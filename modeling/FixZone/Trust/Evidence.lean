import FixZone.Report.Visibility

/-!
# Evidence records

`TrustService` keeps the evidence records of reports beside the report service: it creates
them too, and lets its users read them by what the record says of its owner, its uploader
and its organization. The owner is the citizen of the report in every state of a run
(`run_ownedEvidence`). The organization is that of the report when the record was made,
and the uploader may have lost the report since; `evidence_bounded_iff` says who opens or reads
evidence of a report without being shown the report.
-/

namespace FixZone.TrustService

open Library ReportService

/-- `isOrgScopedAdminRole`. -/
def isOrgScopedAdminRole (role : UserRole) : Bool := role = .orgAdmin || role = .dispatchOfficer

/-- `canAccessEvidence`. -/
def canAccessEvidence (user : JwtUser) (record : EvidenceRecord) : Bool :=
  if user.role = .superAdmin then true
  else if isOrgScopedAdminRole user.role then
    truthy user.organizationId && some record.organizationId = user.organizationId
  else record.ownerUserId = user.id || record.uploadedById = user.id

/-- `canAdminAccessOrganization`. -/
def canAdminAccessOrganization (user : JwtUser) (organizationId : String) : Bool :=
  if user.role = .superAdmin then true
  else if !isOrgScopedAdminRole user.role then false
  else truthy user.organizationId && some organizationId = user.organizationId

/-- `canAccessReport`. -/
def canAccessReport (env : Env) (user : JwtUser) (report : Report) : Bool :=
  if report.citizenId = user.id then true
  else if user.role = .provider ∧ report.assignedProviderId = some user.id then
    (authorizedProviderOrganizationIds env user).contains report.organizationId
  else canAdminAccessOrganization user report.organizationId

/-- `CreateEvidenceDto` for a report. The last four stand for its metadata. -/
structure CreateEvidenceDto where
  relatedEntityId : String
  fileUrl : String
  fileType : Option String := none
  description : Option String := none
  kind : String := ""
  evidenceType : String := ""
  imagePath : String := ""
  order : ℕ := 0

/-- `createEvidence` for a report, with the scope that `resolveEvidenceScope` finds; `enforcement`
is the verdict of `assertEnforcementAllows`. -/
def createEvidence (env : Env) (s : Store) (user : JwtUser) (enforcement : Option HttpError)
    (dto : CreateEvidenceDto) : Except HttpError (List Action) := do
  if let some e := enforcement then
    .error e
  let report ← orThrow (s.report? dto.relatedEntityId) (notFound "Related report not found")
  throwIf (!canAccessReport env user report) (forbidden "Report evidence is outside your scope")
  return [.emit [.evidence
    { relatedEntityId := dto.relatedEntityId
      organizationId := report.organizationId
      ownerUserId := report.citizenId
      uploadedById := user.id
      fileUrl := trim dto.fileUrl
      fileType := trimmed dto.fileType
      description := trimmed dto.description
      kind := dto.kind
      evidenceType := dto.evidenceType
      imagePath := dto.imagePath
      order := dto.order }]]

/-- A request of the two services. -/
inductive Request where
  | report (event : Event)
  | createEvidence (env : Env) (user : JwtUser) (enforcement : Option HttpError)
      (dto : CreateEvidenceDto)

/-- One step of a run of the two services. -/
def step (cfg : Config) (request : Request) (s : Store) : Store :=
  match request with
  | .report event => ReportService.step cfg event s
  | .createEvidence env user enforcement dto =>
    (commit env s (createEvidence env s user enforcement dto)).store

variable {cfg : Config} {env : Env} {s : Store} {user : JwtUser}

/-! ### The owner of an evidence record -/

/-- No call gives a report to another citizen. -/
theorem change_citizenId {call : Call} {r r' : Report} (h : Change cfg env s user call r r') :
    r'.citizenId = r.citizenId := by
  cases h with
  | @uploadReportEvidence _ _ saved => cases saved <;> rfl
  | _ => rfl

/-- Every evidence record is of a report, and belongs to its citizen. -/
def OwnedEvidence (s : Store) : Prop :=
  ∀ record ∈ s.evidenceRecords,
    ∃ r, s.report? record.relatedEntityId = some r ∧ record.ownerUserId = r.citizenId

theorem execute_ownedEvidence {call : Call} (hs : OwnedEvidence s) :
    OwnedEvidence (execute cfg env s user call).store := by
  intro record hrecord
  obtain ⟨r, hrow, howner⟩ := (execute_evidence hrecord).elim (hs record) id
  obtain ⟨r', hrow', hchange⟩ := execute_report? cfg env user call hrow
  refine ⟨r', hrow', howner.trans ?_⟩
  rcases hchange with rfl | hchange
  · rfl
  · exact (change_citizenId hchange).symm

theorem performEffects_ownedEvidence {effects : List Effect} (hs : OwnedEvidence s)
    (heffects : ∀ record ∈ evidenceRows effects,
      ∃ r, s.report? record.relatedEntityId = some r ∧ record.ownerUserId = r.citizenId) :
    OwnedEvidence (performEffects env effects s).store := by
  intro record hrecord
  obtain ⟨r, hrow, howner⟩ := (performEffects_evidence hrecord).elim (hs record) (heffects record)
  refine ⟨r, ?_, howner⟩
  rw [Store.report?, performEffects_reports]
  exact hrow

theorem performFor_reassign_ownedEvidence {reportId providerId : String}
    {reason previous : Option String} (hs : OwnedEvidence s) :
    OwnedEvidence (performFor env reportId
      (reassignEffects user reportId providerId reason previous) s).store := by
  unfold performFor
  split
  · refine performEffects_ownedEvidence hs ?_
    have hnone : ∀ r, evidenceRows
        (reassignEffects user reportId providerId reason previous r) = [] := by
      intro r
      unfold reassignEffects
      cases truthy previous <;> rfl
    simp [hnone]
  · exact hs

theorem reassignProvider_ownedEvidence {reportId providerId : String} {reason : Option String}
    (hs : OwnedEvidence s) :
    OwnedEvidence (reassignProvider cfg env s user reportId providerId reason).store := by
  unfold reassignProvider
  split
  · exact hs
  · next report _ =>
    have hcancelled : OwnedEvidence (if truthy report.assignedProviderId then
        execute cfg env s user (reassignCancel reportId reason) else ⟨s, none⟩ :
          Outcome).store := by
      split
      · exact execute_ownedEvidence hs
      · exact hs
    refine andThen_store (P := OwnedEvidence)
      (andThen_store (P := OwnedEvidence) hcancelled (execute_ownedEvidence hcancelled)) ?_
    exact performFor_reassign_ownedEvidence
      (andThen_store (P := OwnedEvidence) hcancelled (execute_ownedEvidence hcancelled))

/-- A record that is created for a report belongs to the citizen of the report. -/
theorem createEvidence_evidenced {enforcement : Option HttpError} {dto : CreateEvidenceDto}
    {actions : List Action} (h : createEvidence env s user enforcement dto = .ok actions) :
    ∃ record report, actions = [.emit [.evidence record]] ∧
      s.report? record.relatedEntityId = some report ∧ record.ownerUserId = report.citizenId := by
  unfold createEvidence at h
  cases enforcement with
  | some e => cases h
  | none =>
    obtain ⟨report, hrow, h⟩ := orThrow_bind_eq_ok.mp h
    rw [throwIf_bind_eq_ok, pure_eq_ok] at h
    exact ⟨_, report, h.2.symm, hrow, rfl⟩

theorem step_ownedEvidence (request : Request) (hs : OwnedEvidence s) :
    OwnedEvidence (step cfg request s) := by
  cases request with
  | report event =>
    change OwnedEvidence (outcome cfg event s).store
    cases hrequest : event.request with
    | call call =>
      rw [outcome_of_call hrequest]
      exact execute_ownedEvidence hs
    | reassignProvider reportId providerId reason =>
      rw [outcome_of_reassign hrequest]
      exact reassignProvider_ownedEvidence hs
  | createEvidence env user enforcement dto =>
    change OwnedEvidence (commit env s (createEvidence env s user enforcement dto)).store
    cases hread : createEvidence env s user enforcement dto with
    | error e => exact hs
    | ok actions =>
      obtain ⟨record, report, rfl, hrow, howner⟩ := createEvidence_evidenced hread
      refine andThen_store (P := OwnedEvidence) ?_ ?_ <;>
        exact performEffects_ownedEvidence hs (by simpa [evidenceRows, Effect.evidence?] using
          ⟨report, hrow, howner⟩)

/-- In every state of a run, every evidence record belongs to the citizen of its report. -/
theorem run_ownedEvidence (cfg : Config) (requests : List Request) :
    OwnedEvidence (run (step cfg) Store.empty requests) :=
  run_inv (I := OwnedEvidence) (Q := fun _ => True)
    (fun _ request hs _ => step_ownedEvidence request hs) (fun _ h => by cases h) fun _ _ => trivial

/-! ### Visibility -/

/-- Whose role, organization and uploads let them read an evidence record, and not its report: the
operators of the organization the report had when the record was made, if the report is in triage or
has gone elsewhere; and the user who uploaded it, if they are not assigned to the report. -/
inductive RecordOnly (user : JwtUser) (report : Report) (record : EvidenceRecord) : Prop where
  | operator : isOrgScopedAdminRole user.role → truthy user.organizationId →
      some record.organizationId = user.organizationId →
      (report.status = .triage ∨ some report.organizationId ≠ user.organizationId ∧
        ¬(report.assignedOrganizationId = user.organizationId ∧ report.status = .orgReview)) →
      RecordOnly user report record
  | uploader : record.uploadedById = user.id → isOrgScopedAdminRole user.role = false →
      user.role ≠ .superAdmin →
      ¬(user.role = .provider ∧ report.assignedProviderId = some user.id) →
      RecordOnly user report record

/-- Who reads an evidence record without being shown its report. -/
structure ReadsUnseen (user : JwtUser) (report : Report) (record : EvidenceRecord) : Prop where
  not_citizen : report.citizenId ≠ user.id
  entitled : RecordOnly user report record

/-- A reader of a record is shown the report as an operator exactly when it is out of triage and
with their organization. -/
theorem operatorSees_iff {report : Report} (hscoped : isOrgScopedAdminRole user.role)
    (htruthy : truthy user.organizationId) :
    OperatorSees user report ↔ ¬(report.status = .triage ∨
      some report.organizationId ≠ user.organizationId ∧
        ¬(report.assignedOrganizationId = user.organizationId ∧ report.status = .orgReview)) := by
  have hoperator : user.isAdmin ∨ user.isDispatch := by
    simpa [isOrgScopedAdminRole, JwtUser.isAdmin, JwtUser.isDispatch] using hscoped
  constructor
  · rintro ⟨-, -, hrouted, hpast⟩
    tauto
  · intro h
    exact ⟨hoperator, htruthy, by tauto, fun htriage => h (.inl htriage)⟩

theorem RecordOnly.not_sees {report : Report} {record : EvidenceRecord}
    (h : RecordOnly user report record) (hcitizen : report.citizenId ≠ user.id) :
    ¬ SeesReport user report := by
  intro hsees
  cases h with
  | operator hscoped htruthy _ hgone =>
    cases hsees with
    | superAdmin hsuper =>
      rw [of_decide_eq_true hsuper] at hscoped
      cases hscoped
    | citizen h => exact hcitizen h
    | provider _ hprovider =>
      rw [of_decide_eq_true hprovider] at hscoped
      cases hscoped
    | operator hsees => exact (operatorSees_iff hscoped htruthy).mp hsees hgone
  | uploader _ hscoped hsuper hassigned =>
    cases hsees with
    | superAdmin h => exact hsuper (of_decide_eq_true h)
    | citizen h => exact hcitizen h
    | provider hown hprovider => exact hassigned ⟨of_decide_eq_true hprovider, hown⟩
    | operator hsees =>
      have hoperator := hsees.operator
      simp [isOrgScopedAdminRole, JwtUser.isAdmin, JwtUser.isDispatch] at hscoped hoperator
      tauto

/-- Who reads an evidence record that belongs to the citizen of its report, and is not shown the
report, is of the kinds of `RecordOnly`. -/
theorem readsUnseen_iff {report : Report} {record : EvidenceRecord}
    (howner : record.ownerUserId = report.citizenId) :
    canAccessEvidence user record ∧ ¬ SeesReport user report ↔ ReadsUnseen user report record := by
  constructor
  · rintro ⟨h, hunseen⟩
    refine ⟨fun h => hunseen (.citizen h), ?_⟩
    unfold canAccessEvidence at h
    split_ifs at h with hsuper hscoped
    · exact absurd (.superAdmin (decide_eq_true hsuper)) hunseen
    · simp only [Bool.and_eq_true, decide_eq_true_eq] at h
      refine .operator hscoped h.1 h.2 ?_
      by_contra hhere
      exact hunseen (.operator ((operatorSees_iff hscoped h.1).mpr hhere))
    · simp only [Bool.or_eq_true, decide_eq_true_eq] at h
      refine .uploader (h.resolve_left fun h => hunseen (.citizen (howner.symm.trans h)))
        (by simpa using hscoped) hsuper ?_
      rintro ⟨hprovider, hassigned⟩
      exact hunseen (.provider hassigned (decide_eq_true hprovider))
  · rintro ⟨hcitizen, hentitled⟩
    refine ⟨?_, hentitled.not_sees hcitizen⟩
    unfold canAccessEvidence
    cases hentitled with
    | operator hscoped htruthy hsame _ =>
      rw [if_pos hscoped, hsame, htruthy]
      simp
    | uploader hown hscoped hsuper _ => simp [hown, hscoped, hsuper]

/-- Whoever may open the evidence files of a report, or read an evidence record of it, is shown the
report by `getReportById`. -/
structure EvidenceBounded (env : Env) (s : Store) (user : JwtUser) (report : Report) : Prop where
  files : assertCanAccessEvidence env report user = .ok ⟨⟩ →
    getReportById s report.id user = .ok report
  records : ∀ record ∈ s.evidenceRecords, record.relatedEntityId = report.id →
    canAccessEvidence user record → getReportById s report.id user = .ok report

/-- **Evidence is bounded by reports.** In every state of a run of the two services, a user who may
open the evidence of a report, or read an evidence record of it, is shown the report by
`getReportById`, exactly when they are of none of the kinds of `OpensUnseen` and `ReadsUnseen`. -/
theorem evidence_bounded_iff (cfg : Config) (requests : List Request) (env : Env) (user : JwtUser)
    (report : Report) (hsigned : SignedIn env user)
    (hrow : (run (step cfg) Store.empty requests).report? report.id = some report) :
    EvidenceBounded env (run (step cfg) Store.empty requests) user report ↔
      ¬ OpensUnseen env user report ∧
        ∀ record ∈ (run (step cfg) Store.empty requests).evidenceRecords,
          record.relatedEntityId = report.id → ¬ ReadsUnseen user report record := by
  have hshown : getReportById (run (step cfg) Store.empty requests) report.id user = .ok report ↔
      SeesReport user report := by
    rw [getReportById_eq_ok, and_iff_right hrow]
  have howner : ∀ record ∈ (run (step cfg) Store.empty requests).evidenceRecords,
      record.relatedEntityId = report.id → record.ownerUserId = report.citizenId := by
    intro record hrecord hid
    obtain ⟨r, hr, howner⟩ := run_ownedEvidence cfg requests record hrecord
    rw [hid] at hr
    rw [howner, Option.some.inj (hr.symm.trans hrow)]
  constructor
  · rintro ⟨hfiles, hrecords⟩
    refine ⟨fun hunseen => ?_, fun record hrecord hid hunseen => ?_⟩
    · obtain ⟨hopens, hnot⟩ := (opensUnseen_iff hsigned).mpr hunseen
      exact hnot (hshown.mp (hfiles hopens))
    · obtain ⟨hreads, hnot⟩ := (readsUnseen_iff (howner record hrecord hid)).mpr hunseen
      exact hnot (hshown.mp (hrecords record hrecord hid hreads))
  · rintro ⟨hopens, hreads⟩
    refine ⟨fun h => hshown.mpr ?_, fun record hrecord hid h => hshown.mpr ?_⟩
    · by_contra hunseen
      exact hopens ((opensUnseen_iff hsigned).mp ⟨h, hunseen⟩)
    · by_contra hunseen
      exact hreads record hrecord hid
        ((readsUnseen_iff (howner record hrecord hid)).mp ⟨h, hunseen⟩)

namespace Example

/-- The citizen reports a broken street light and adds a picture of it. -/
def pictured : List Request :=
  [.report ReportService.Example.created,
    .report (ReportService.Example.at_ 1 ReportService.Example.citizen
      (.uploadReportEvidence "report"
        { contentType := some "image/png", imageBase64 := some "light" }))]

/-- The report is dispatched, and its provider works on it and adds a picture. -/
def worked : List Request :=
  pictured ++
    ([ReportService.Example.at_ 2 ReportService.Example.superAdmin
        (.updateStatus "report" { status := .orgReview }),
      ReportService.Example.at_ 3 ReportService.Example.superAdmin
        (.updateStatus "report" { status := .pending }),
      ReportService.Example.at_ 4 ReportService.Example.orgAdmin
        (.assignProviderById "report" "provider" {}),
      ReportService.Example.at_ 5 ReportService.Example.provider
        (.updateStatus "report" { status := .inProgress }),
      ReportService.Example.at_ 6 ReportService.Example.provider
        (.uploadCompletionEvidence "report"
          { contentType := some "image/png", imageBase64 := some "repaired" })]).map .report

/-- The organization takes the report away from the provider. -/
def withdrawn : List Request :=
  worked ++ [.report (ReportService.Example.at_ 7 ReportService.Example.orgAdmin
    (.cancelAssignment "report" none))]

/-- The provider, who has left the organization. -/
def formerProvider : JwtUser := { ReportService.Example.provider with organizationId := none }

/-- The provider's account after that. -/
def left : Env where
  users := [{ id := "provider", role := .provider }]

/-- The administrator of another organization. -/
def otherAdmin : JwtUser where
  id := "other-admin"
  role := .orgAdmin
  organizationId := some "other"

/-- The report with the picture goes to another organization, which accepts it. -/
def moved : List Request :=
  pictured ++
    [.report ⟨{ ReportService.Example.surroundings 2 with organizations := [{ id := "other" }] },
        ReportService.Example.superAdmin, .call (.assignOrganization "report"
          { organizationId := "other", reason := some "Their street", overrideReadiness := true })⟩,
      .report (ReportService.Example.at_ 3 otherAdmin (.acceptOrganizationReport "report" none))]

/-- The accounts of the provider and of the administrator of the first organization. -/
def accounts : Env where
  users := [{ id := "provider", role := .provider, organizationId := some "org" },
    { id := "admin", role := .orgAdmin, organizationId := some "org" }]

theorem signedIn_accounts {user : JwtUser} (hid : user.id = "provider" ∨ user.id = "admin")
    (horganization : user.organizationId = some "org") : SignedIn accounts user := by
  intro account haccount
  rw [horganization]
  rcases hid with hid | hid <;> rw [hid] at haccount <;> cases haccount <;> rfl

/-- The report in a state of a run. -/
theorem exists_report (requests : List Request) (p : Report → Bool)
    (h : ((run (step {}) Store.empty requests).report? "report").any p) :
    ∃ report, (run (step {}) Store.empty requests).report? report.id = some report ∧
      report.id = "report" ∧ p report := by
  obtain ⟨report, hrow, hp⟩ := (Option.any_eq_true _ _).mp h
  have hid := id_of_report? hrow
  exact ⟨report, by rw [hid]; exact hrow, hid, hp⟩

end Example

open Example in
/-- The provider at work opens the evidence and reads the pictures, and is shown the report. -/
theorem evidence_bounded_at_work :
    ∃ report, (run (step {}) Store.empty worked).report? report.id = some report ∧
      assertCanAccessEvidence accounts report ReportService.Example.provider = .ok ⟨⟩ ∧
      (∃ record ∈ (run (step {}) Store.empty worked).evidenceRecords,
        record.relatedEntityId = report.id ∧
          canAccessEvidence ReportService.Example.provider record) ∧
      EvidenceBounded accounts (run (step {}) Store.empty worked) ReportService.Example.provider
        report := by
  obtain ⟨report, hrow, hid, hassigned⟩ := exists_report worked
    (fun r => r.assignedProviderId = some "provider") (by decide +kernel)
  rw [decide_eq_true_eq] at hassigned
  have hreads : ((run (step {}) Store.empty worked).evidenceRecords.any fun record =>
      record.relatedEntityId = "report" &&
        canAccessEvidence ReportService.Example.provider record) = true := by
    decide +kernel
  obtain ⟨record, hrecord, hread⟩ := List.any_eq_true.mp hreads
  rw [Bool.and_eq_true, decide_eq_true_eq] at hread
  refine ⟨report, hrow, assertCanAccessEvidence_eq_ok.mpr ⟨_, rfl, rfl,
      .inr (.inr (.inl ⟨rfl, .inl hassigned⟩))⟩, ⟨record, hrecord, hread.1.trans hid.symm, hread.2⟩,
    (evidence_bounded_iff {} worked accounts ReportService.Example.provider report
      (signedIn_accounts (.inl rfl) rfl) hrow).mpr ⟨?_, ?_⟩⟩
  · rintro ⟨-, -, hentitled⟩
    cases hentitled with
    | formerProvider _ _ hnot => exact hnot hassigned
    | triage hoperator => simp [JwtUser.isAdmin, JwtUser.isDispatch,
        ReportService.Example.provider] at hoperator
    | notReviewing hoperator => simp [JwtUser.isAdmin, JwtUser.isDispatch,
        ReportService.Example.provider] at hoperator
  · rintro record - - ⟨-, hentitled⟩
    cases hentitled with
    | operator hscoped => cases hscoped
    | uploader _ _ _ hnot => exact hnot ⟨rfl, hassigned⟩

open Example in
/-- A provider without an organization opens the evidence of the report that was taken away, and the
administrator of one organization reads the pictures of a report that has gone to another. -/
theorem evidence_open_to_outsiders :
    ¬ (∀ (cfg : Config) (requests : List Request) (env : Env) (user : JwtUser) (report : Report),
        SignedIn env user →
        (run (step cfg) Store.empty requests).report? report.id = some report →
        assertCanAccessEvidence env report user = .ok ⟨⟩ →
        getReportById (run (step cfg) Store.empty requests) report.id user = .ok report) ∧
      ¬ ∀ (cfg : Config) (requests : List Request) (env : Env) (user : JwtUser) (report : Report),
        SignedIn env user →
        (run (step cfg) Store.empty requests).report? report.id = some report →
        ∀ record ∈ (run (step cfg) Store.empty requests).evidenceRecords,
          record.relatedEntityId = report.id → canAccessEvidence user record →
          getReportById (run (step cfg) Store.empty requests) report.id user = .ok report := by
  constructor
  · intro h
    obtain ⟨report, hrow, -, hreport⟩ := exists_report withdrawn
      (fun r => r.citizenId ≠ "provider" ∧ r.lastAssignmentProviderId = some "provider" ∧
        r.assignedProviderId ≠ some "provider") (by decide +kernel)
    obtain ⟨hcitizen, hlast, hassigned⟩ := of_decide_eq_true hreport
    have hsigned : SignedIn left formerProvider := by
      rintro account haccount
      cases haccount
      rfl
    obtain ⟨hopens, hunseen⟩ := (opensUnseen_iff hsigned).mpr
      ⟨⟨_, rfl, rfl⟩, hcitizen, .formerProvider rfl hlast hassigned⟩
    exact hunseen (getReportById_eq_ok.mp
      (h {} withdrawn left formerProvider report hsigned hrow hopens)).2
  · intro h
    obtain ⟨report, hrow, hid, hreport⟩ := exists_report moved
      (fun r => r.citizenId = "citizen" ∧ r.organizationId = "other" ∧ r.status = .pending)
      (by decide +kernel)
    obtain ⟨hcitizen, horganization, hstatus⟩ := of_decide_eq_true hreport
    have hrecords : ((run (step {}) Store.empty moved).evidenceRecords.any fun record =>
        record.relatedEntityId = "report" && record.organizationId = "org" &&
          record.ownerUserId = "citizen") = true := by
      decide +kernel
    obtain ⟨record, hrecord, hmade⟩ := List.any_eq_true.mp hrecords
    simp only [Bool.and_eq_true, decide_eq_true_eq] at hmade
    obtain ⟨⟨hrelated, hmade⟩, howner⟩ := hmade
    have hgone : ReadsUnseen ReportService.Example.orgAdmin report record :=
      ⟨by rw [hcitizen]; decide, .operator rfl rfl (by rw [hmade]; rfl)
        (.inr ⟨by rw [horganization]; decide, by simp [hstatus]⟩)⟩
    obtain ⟨hreads, hunseen⟩ := (readsUnseen_iff (howner.trans hcitizen.symm)).mpr hgone
    exact hunseen (getReportById_eq_ok.mp (h {} moved accounts ReportService.Example.orgAdmin report
      (signedIn_accounts (.inr rfl) rfl) hrow record hrecord (hrelated.trans hid.symm) hreads)).2

end FixZone.TrustService
