import FixZone.Report.Ownership

/-!
# The monthly quota

`enforceMonthlyReportQuota` counts the reports of the month by the organization they
belong to when it looks. The citizens of an organization stay within its quota as long as
their reports stay with it (`monthly_quota`). A report that another organization accepts,
or that the platform gives away, is not counted any more, and makes room for one more
(`quota_exceeded`).
-/

namespace FixZone.ReportService

open Library Organization

variable {cfg : Config} {env : Env} {s : Store} {event : Event}

/-! ### What is counted -/

/-- What `enforceMonthlyReportQuota` counts, for the month that starts at `month`. -/
def countsFor (organizationId : String) (month : Millis) (report : Report) : Bool :=
  report.organizationId = organizationId && month ≤ report.createdAt

/-- The reports of the month that an organization has. -/
def monthlyCount (organizationId : String) (month : Millis) (s : Store) : ℕ :=
  s.reports.rows.countP (countsFor organizationId month)

/-- A request to create a report. -/
def Request.isCreateReport : Request → Bool
  | .call (.createReport _) => true
  | _ => false

/-- A citizen of the organization creates a report in the month. -/
def createsInMonth (cfg : Config) (organizationId : String) (month : Millis) (s : Store)
    (event : Event) : Bool :=
  event.request.isCreateReport && event.user.role = .citizen &&
    event.user.organizationId = some organizationId && utcMonthStart event.env.now = month &&
    (outcome cfg event s).error.isNone

/-- The step gives a report of the month from the organization to another one: that one accepts
it, or a super admin establishes its ownership. -/
inductive MovesAway (cfg : Config) (organizationId : String) (month : Millis) (s : Store)
    (event : Event) : Prop where
  | accepted {r : Report} {note : Option String} {answering : String} :
      s.report? r.id = some r → countsFor organizationId month r →
      event.request = .call (.acceptOrganizationReport r.id note) →
      IntakeAllowed s event.user answering r →
      r.status = .orgReview ∨ legacyMatchedReview s r answering →
      answering ≠ organizationId → MovesAway cfg organizationId month s event
  | routed {r : Report} {dto : AssignOrganizationDto}
      {organization : ResponsibilityOrganizationProfile} :
      s.report? r.id = some r → countsFor organizationId month r →
      event.request = .call (.assignOrganization r.id dto) →
      event.env.organization? dto.organizationId = some organization →
      RouteAllowed cfg event.user r dto organization → dto.establishAuthoritativeOwnership →
      organization.id ≠ organizationId → MovesAway cfg organizationId month s event

/-! ### One step -/

/-- A month starts no later than any of its instants. -/
theorem utcMonthStart_le (now : Millis) : utcMonthStart now ≤ now := by
  have hday : ∀ days : ℤ, 1 ≤ (civilFromDays days).2.2 := by
    intro days
    simp only [civilFromDays]
    generalize (days + 719468) % 146097 - _ = dayOfYear
    omega
  have hfirst := hday (now / 86400000)
  rw [utcMonthStart]
  omega

theorem countsFor_iff {organizationId : String} {month : Millis} {r : Report} :
    countsFor organizationId month r ↔ r.organizationId = organizationId ∧ month ≤ r.createdAt := by
  simp [countsFor]

/-- A report keeps its day, and its organization unless it is moved. -/
theorem stepChange_countsFor {organizationId : String} {month : Millis} {r r' : Report}
    (hrow : s.report? r.id = some r) (hcounts : countsFor organizationId month r)
    (hstays : ¬ MovesAway cfg organizationId month s event) (h : StepChange cfg event s r r') :
    countsFor organizationId month r' := by
  have hkept : ∀ r' : Report, r'.organizationId = r.organizationId → r'.createdAt = r.createdAt →
      countsFor organizationId month r' := by
    intro r' horganization hcreated
    rwa [countsFor, horganization, hcreated]
  cases h with
  | @call call hrequest hchange =>
    cases hchange with
    | @assignOrganization _ dto organization ho hallowed =>
      by_cases hestablishes : dto.establishAuthoritativeOwnership
      · have hsame : organization.id = organizationId := by
          by_contra hother
          exact hstays (.routed hrow hcounts hrequest ho hallowed hestablishes hother)
        exact countsFor_iff.mpr ⟨by simp [hestablishes, hsame], (countsFor_iff.mp hcounts).2⟩
      · exact hkept _ (by simp [hestablishes]) rfl
    | @acceptOrganizationReport _ _ answering hallowed _ hreview =>
      have hsame : answering = organizationId := by
        by_contra hother
        exact hstays (.accepted hrow hcounts hrequest hallowed hreview hother)
      exact countsFor_iff.mpr ⟨hsame, (countsFor_iff.mp hcounts).2⟩
    | @uploadReportEvidence _ _ saved => cases saved <;> exact hkept _ rfl rfl
    | _ => exact hkept _ rfl rfl
  | reassign _ hreassigned => cases hreassigned <;> exact hkept _ rfl rfl

/-- A step that moves none of them keeps the reports that are counted. -/
theorem step_keysWhere {organizationId : String} {month : Millis}
    (hstays : ¬ MovesAway cfg organizationId month s event) :
    ∀ id ∈ s.reports.keysWhere (countsFor organizationId month),
      id ∈ (step cfg event s).reports.keysWhere (countsFor organizationId month) := by
  intro id hid
  obtain ⟨r, hrow, hcounts⟩ := Table.mem_keysWhere.mp hid
  obtain ⟨r', hrow', hchange⟩ := step_report? cfg event hrow
  refine Table.mem_keysWhere.mpr ⟨r', hrow', ?_⟩
  rcases hchange with rfl | hchange
  · exact hcounts
  · obtain rfl := id_of_report? hrow
    exact stepChange_countsFor hrow hcounts hstays hchange

/-- What is left of the quota before a creation. -/
theorem createReport_quota {user : JwtUser} {dto : RoutedReport} {actions : List Action}
    {organizationId : String} {limit : ℕ}
    (horganization : user.organizationId = some organizationId)
    (hlimit : (env.organization? organizationId).bind (·.allowedReportsPerMonth) = some limit)
    (h : createReport cfg env s user dto = .ok actions) :
    monthlyCount organizationId (utcMonthStart env.now) s < limit := by
  obtain ⟨locationSource, -, h⟩ := bind_eq_ok.mp h
  simp only [orThrow_bind_eq_ok, check_bind_eq_ok] at h
  obtain ⟨-, -, _, -, hquota, -⟩ := h
  rw [horganization, Option.getD_some, enforceMonthlyReportQuota, hlimit] at hquota
  exact Nat.lt_of_not_le (throwIf_eq_ok.mp hquota)

/-- A report is created without exception under an id that is free. -/
theorem perform_create_ok {report : Report} {effects : List Effect}
    (h : (performAll env [.create report effects] s).error = none) :
    s.report? report.id = none ∧
      (performAll env [.create report effects] s).store.report? report.id = some report := by
  rw [performAll, Outcome.andThen] at h ⊢
  cases hfree : s.report? report.id with
  | some r => simp [perform, hfree] at h
  | none =>
    refine ⟨rfl, ?_⟩
    have hrow : (perform env s (.create report effects)).store.report? report.id = some report := by
      simp only [perform, hfree]
      rw [Store.report?, performEffects_reports]
      exact Table.find?_insert_self hfree
    split <;> exact hrow

/-- A creation that succeeds finds the quota not used up, and adds a report. -/
theorem createsInMonth_counts {organizationId : String} {month : Millis} {limit : ℕ}
    (hlimit : (event.env.organization? organizationId).bind (·.allowedReportsPerMonth) = some limit)
    (hcreates : createsInMonth cfg organizationId month s event) :
    monthlyCount organizationId month s < limit ∧
      ∃ id, s.report? id = none ∧
        id ∈ (step cfg event s).reports.keysWhere (countsFor organizationId month) := by
  simp only [createsInMonth, Bool.and_eq_true, decide_eq_true_eq] at hcreates
  obtain ⟨⟨⟨⟨hcreate, -⟩, horganization⟩, rfl⟩, herror⟩ := hcreates
  obtain ⟨dto, hrequest⟩ : ∃ dto, event.request = .call (.createReport dto) := by
    unfold Request.isCreateReport at hcreate
    split at hcreate
    · exact ⟨_, by assumption⟩
    · cases hcreate
  rw [Option.isNone_iff_eq_none, outcome_of_call hrequest, execute, readCall] at herror
  cases hread : createReport cfg event.env s event.user dto with
  | error e =>
    rw [hread] at herror
    cases herror
  | ok actions =>
    obtain ⟨_, locationSource, intakeRoute, -, horganization', rfl⟩ := createReport_eq_ok hread
    obtain rfl := Option.some.inj (horganization.symm.trans horganization')
    rw [hread, commit] at herror
    obtain ⟨hfree, hrow⟩ := perform_create_ok herror
    refine ⟨createReport_quota horganization hlimit hread, _, hfree, ?_⟩
    rw [step, outcome_of_call hrequest, execute, readCall, hread, commit]
    refine Table.mem_keysWhere.mpr ⟨_, hrow, countsFor_iff.mpr ⟨rfl, utcMonthStart_le _⟩⟩

/-! ### Runs -/

/-- **The monthly quota.** While no report of the month is moved to another organization, the
citizens of an organization create no more reports in the month than it is allowed. -/
theorem monthly_quota (cfg : Config) (organizationId : String) (month : Millis) (limit : ℕ)
    (s : Store) (events : List Event)
    (hlimit : ∀ event ∈ events,
      (event.env.organization? organizationId).bind (·.allowedReportsPerMonth) = some limit)
    (hstays : Along (step cfg) (fun s event => ¬ MovesAway cfg organizationId month s event) s
      events) :
    countAlong (step cfg) (createsInMonth cfg organizationId month) s events ≤ limit := by
  have hbound : countAlong (step cfg) (createsInMonth cfg organizationId month) s events ≤
      limit - monthlyCount organizationId month s := by
    refine countAlong_le ?_ ?_ (hstays.and_forall hlimit)
    · rintro s event ⟨hstays, hlimit⟩ hcreates
      obtain ⟨hbelow, id, hfree, hnew⟩ := createsInMonth_counts hlimit hcreates
      exact ⟨hbelow, Table.countP_lt_countP (step_keysWhere hstays)
        (Table.not_mem_keysWhere_of_free hfree) hnew⟩
    · rintro s event ⟨hstays, -⟩
      exact Table.countP_le_countP (step_keysWhere hstays)
  exact hbound.trans (Nat.sub_le _ _)

namespace Example

/-- The organization is allowed one report a month. -/
def oneAllowed (now : Millis) (id : String) : Env where
  now := now
  newReportId := id
  organizations := [{ id := "org", allowedReportsPerMonth := some 1 }, { id := "other" }]

/-- The citizen reports under an id. -/
def reports (now : Millis) (id : String) : Event :=
  ⟨oneAllowed now id, citizen,
    .call (.createReport { title := "Broken light", category := "Lighting", location := "Garki" })⟩

/-- The first report is offered to another organization, which accepts it. -/
def accepted : List Event :=
  [⟨oneAllowed 1 "", superAdmin, .call (.assignOrganization "first"
      { organizationId := "other", reason := some "Their street", overrideReadiness := true })⟩,
    ⟨oneAllowed 2 "", { id := "neighbour", role := .orgAdmin, organizationId := some "other" },
      .call (.acceptOrganizationReport "first" none)⟩]

end Example

/-- Two reports in a row: the second one is refused. -/
theorem monthly_quota_refused :
    countAlong (step {}) (createsInMonth {} "org" 0) Store.empty
      [Example.reports 0 "first", Example.reports 3 "second"] ≤ 1 := by
  refine monthly_quota {} "org" 0 1 Store.empty _ ?_ ?_
  · simp [Example.reports, Example.oneAllowed, Env.organization?]
  · refine ⟨?_, ?_, trivial⟩ <;> rintro (⟨-, -, hrequest, -⟩ | ⟨-, -, hrequest, -⟩) <;>
      cases hrequest

/-- Another organization accepts the first report of the month, and the citizen creates a
second. -/
theorem quota_exceeded :
    ¬ ∀ (cfg : Config) (organizationId : String) (month : Millis) (limit : ℕ) (s : Store)
        (events : List Event), 0 < limit →
      (∀ event ∈ events,
        (event.env.organization? organizationId).bind (·.allowedReportsPerMonth) = some limit) →
      countAlong (step cfg) (createsInMonth cfg organizationId month) s events ≤ limit := by
  intro h
  have hbound := h {} "org" 0 1 Store.empty
    (Example.reports 0 "first" :: Example.accepted ++ [Example.reports 3 "second"]) Nat.one_pos
    (by simp [Example.reports, Example.accepted, Example.oneAllowed, Env.organization?])
  have hcount : countAlong (step {}) (createsInMonth {} "org" 0) Store.empty
      (Example.reports 0 "first" :: Example.accepted ++ [Example.reports 3 "second"]) = 2 := by
    decide +kernel
  omega

end FixZone.ReportService
