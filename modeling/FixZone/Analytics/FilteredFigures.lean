import FixZone.Analytics.Service

/-!
# What filtered analytics count

The figures of the overview, the trend and the two distributions are counted apart, from two kinds
of rows, and they fit together: each report of the query is in one period, one category and one
status, and each rework event in one period (`countedFigures_consistent`).

Reports that the organization or the category of a query leaves out change none of the figures. But
`activityWhere` does not know of the category, so their rework events are counted within the
organization: the figures stay exactly when no report that only its category leaves out has a
rework event between the dates (`filtered_figures_iff`).
-/

namespace FixZone.AnalyticsService

open Library Library.Grouping
open ReportService (HttpError)

/-! ### The figures -/

/-- The figures of the four answers that are about reports and rework. -/
structure Figures where
  totalReports : ℕ
  activeReports : ℕ
  resolvedReports : ℕ
  reworkEvents : ℕ
  points : List TrendPoint
  categories : List CategoryCount
  statuses : List StatusCount

/-- The figures of one counting agree with those of the others. -/
structure Consistent (figures : Figures) : Prop where
  submitted : (figures.points.map (·.submitted)).sum = figures.totalReports
  resolved : (figures.points.map (·.resolved)).sum = figures.resolvedReports
  active : (figures.points.map (·.active)).sum = figures.activeReports
  rework : (figures.points.map (·.rework)).sum = figures.reworkEvents
  categories : (figures.categories.map (·.count)).sum = figures.totalReports
  statuses : (figures.statuses.map (·.count)).sum = figures.totalReports

section Query

variable (runtime : Runtime) (user : AnalyticsUser) (query : ExecutiveAnalyticsQuery) (now : Millis)

/-- The figures that a user is answered for a query. -/
def figures (s : AnalyticsStore) : Except HttpError Figures := do
  let overview ← getExecutiveOverview runtime user query now s
  let trend ← getTrendAnalytics runtime user query now s
  let categoryDistribution ← getCategoryDistribution runtime user query now s
  let statusDistribution ← getStatusDistribution runtime user query now s
  return {
    totalReports := overview.totals.totalReports
    activeReports := overview.totals.activeReports
    resolvedReports := overview.totals.resolvedReports
    reworkEvents := overview.quality.reworkEvents
    points := trend.points
    categories := categoryDistribution.categories
    statuses := statusDistribution.statuses }

/-- Reports, and activities of theirs, that come to the store. -/
structure Addition where
  reports : List ReportRow
  activities : List ActivityRow

/-- The store with what comes to it. -/
def AnalyticsStore.add (s : AnalyticsStore) (added : Addition) : AnalyticsStore :=
  { s with
    reports := s.reports ++ added.reports
    activities := s.activities ++ added.activities }

/-- The reports are outside the organization or the category of the query, and the activities are
recorded under the organization of their report. -/
structure LeftOut (added : Addition) : Prop where
  reports : ∀ filter, reportWhere runtime user query = .ok filter → ∀ report ∈ added.reports,
    ¬ (filter.inOrganization report.organizationId = true ∧
      filter.inCategory runtime report.category = true)
  activities : ∀ activity ∈ added.activities, ∃ report ∈ added.reports,
    activity.reportId = report.id ∧ activity.organizationId = report.organizationId

/-- A report that only its category leaves out has a rework event between the dates of the query. -/
def CountsRework (added : Addition) : Prop :=
  ∃ filter, reportWhere runtime user query = .ok filter ∧
    ∃ report ∈ added.reports, ∃ activity ∈ added.activities,
      activity.reportId = report.id ∧ activity.organizationId = report.organizationId ∧
      filter.inOrganization report.organizationId = true ∧
      filter.inCategory runtime report.category = false ∧
      activity.action = reworkAction ∧ filter.createdAt.selects activity.createdAt = true

end Query

variable {runtime : Runtime} {user : AnalyticsUser} {query : ExecutiveAnalyticsQuery}
  {now : Millis} {s : AnalyticsStore} {filter : ReportWhereInput} {added : Addition}

/-! ### What the figures are counted from -/

/-- The rework events of the query. -/
def reworkRows (filter : ReportWhereInput) (activities : List ActivityRow) : List ActivityRow :=
  activities.filter fun row => filter.organizationId.all (· = row.organizationId) &&
    filter.createdAt.selects row.createdAt && row.action = reworkAction

/-- The figures, counted from the reports and the rework events of the query. -/
def countedFigures (runtime : Runtime) (query : ExecutiveAnalyticsQuery) (reports : List ReportRow)
    (rework : List ActivityRow) : Figures where
  totalReports := reports.length
  activeReports := reports.countP (activeStatuses.contains ·.status)
  resolvedReports := reports.countP (resolvedStatuses.contains ·.status)
  reworkEvents := rework.length
  points := (trendPoints (query.interval.getD .daily) (runtime.reportOrder.list reports)
    (runtime.activityOrder.list rework)).insertionSort
      fun a b => runtime.localeBefore a.period b.period
  categories := (runtime.categoryOrder.list (groupCounts ReportRow.category reports)).map
    fun row => ⟨safeLabel (some row.1) "Uncategorized", row.2⟩
  statuses := (runtime.statusOrder.list (groupCounts ReportRow.status reports)).map
    fun row => ⟨row.1, row.2⟩

/-- The other filters are made of the same scope and dates. -/
theorem scope_and_dates (h : reportWhere runtime user query = .ok filter) :
    organizationScope user query = .ok filter.organizationId ∧
      dateFilter runtime query = .ok filter.createdAt := by
  obtain ⟨organizationId, hscope, h⟩ := bind_eq_ok.mp h
  obtain ⟨createdAt, hdates, h⟩ := bind_eq_ok.mp h
  obtain rfl := pure_eq_ok.mp h
  exact ⟨hscope, hdates⟩

theorem figures_eq (h : reportWhere runtime user query = .ok filter) :
    figures runtime user query now s = .ok (countedFigures runtime query
      (s.reports.filter (filter.selects runtime)) (reworkRows filter s.activities)) := by
  obtain ⟨hscope, hdates⟩ := scope_and_dates h
  have hactivity : activityWhere runtime user query =
      .ok ⟨filter.organizationId, filter.createdAt⟩ := by
    rw [activityWhere, hscope, ok_bind, hdates]
    rfl
  have hrework : (s.activities.filter (ReportActivityWhereInput.selects
      ⟨filter.organizationId, filter.createdAt⟩)).countP (·.action = reworkAction) =
      (reworkRows filter s.activities).length := by
    rw [List.countP_eq_length_filter, List.filter_filter, reworkRows]
    simp only [ReportActivityWhereInput.selects, Bool.and_comm]
  simp only [figures, getExecutiveOverview, getTrendAnalytics, getCategoryDistribution,
    getStatusDistribution, providerWhere, organizationWhere, scopeLabel, h, hactivity, hscope,
    ok_bind, pure_bind, hrework]
  rfl

theorem figures_error {e : HttpError} (h : reportWhere runtime user query = .error e) :
    figures runtime user query now s = .error e := by
  rw [figures, getExecutiveOverview, h]
  rfl

/-! ### The figures fit together -/

/-- A figure that each report and each rework event adds to, summed over the points of the trend. -/
theorem sum_trendPoints {figure : TrendPoint → ℕ} {adds : ReportRow → ℕ} {addsRework : ℕ}
    (hreport : ∀ report point, figure (countReport report point) = figure point + adds report)
    (hrework : ∀ point, figure (countRework point) = figure point + addsRework)
    (hfresh : ∀ period, figure { period } = 0) (interval : AnalyticsInterval)
    (reports : List ReportRow) (rework : List ActivityRow) :
    ((trendPoints interval reports rework).map figure).sum =
      (reports.map adds).sum + rework.length * addsRework := by
  have hpoints : trendPoints interval reports rework =
      fillBuckets TrendPoint.period (fun period => { period })
        (fun row => bucket interval row.createdAt) (fun _ => countRework)
        (fillBuckets TrendPoint.period (fun period => { period })
          (fun report => bucket interval report.createdAt) countReport [] reports) rework := rfl
  have hreworkRow : ∀ (row : ActivityRow) point, figure ((fun _ => countRework) row point) =
      figure point + (fun _ => addsRework) row := fun _ => hrework
  rw [hpoints, sum_fillBuckets hreworkRow hfresh, sum_fillBuckets hreport hfresh, List.map_nil,
    List.sum_nil, Nat.zero_add, List.map_const', List.sum_replicate_nat]

/-- Listing and sorting keep what a figure adds up to. -/
theorem sum_points (figure : TrendPoint → ℕ) (adds : ReportRow → ℕ) (addsRework : ℕ)
    (hreport : ∀ report point, figure (countReport report point) = figure point + adds report)
    (hrework : ∀ point, figure (countRework point) = figure point + addsRework)
    (hfresh : ∀ period, figure { period } = 0) (reports : List ReportRow)
    (rework : List ActivityRow) :
    ((countedFigures runtime query reports rework).points.map figure).sum =
      (reports.map adds).sum + rework.length * addsRework := by
  rw [countedFigures, ((List.perm_insertionSort _ _).map figure).sum_eq,
    sum_trendPoints hreport hrework hfresh, ((runtime.reportOrder.perm reports).map adds).sum_eq,
    (runtime.activityOrder.perm rework).length_eq]

/-- **The figures are consistent**, whatever the reports and the rework events are. -/
theorem countedFigures_consistent (reports : List ReportRow) (rework : List ActivityRow) :
    Consistent (countedFigures runtime query reports rework) where
  submitted := by
    rw [sum_points TrendPoint.submitted (fun _ => 1) 0 (fun _ _ => rfl) (fun _ => rfl)
      fun _ => rfl]
    simp [countedFigures]
  resolved := by
    rw [sum_points TrendPoint.resolved
      (fun report => if resolvedStatuses.contains report.status then 1 else 0) 0 (fun _ _ => rfl)
      (fun _ => rfl) (fun _ => rfl), sum_boole, Nat.mul_zero, Nat.add_zero]
    rfl
  active := by
    rw [sum_points TrendPoint.active
      (fun report => if activeStatuses.contains report.status then 1 else 0) 0 (fun _ _ => rfl)
      (fun _ => rfl) (fun _ => rfl), sum_boole, Nat.mul_zero, Nat.add_zero]
    rfl
  rework := by
    rw [sum_points TrendPoint.rework (fun _ => 0) 1 (fun _ _ => rfl) (fun _ => rfl)
      fun _ => rfl]
    simp [countedFigures]
  categories := by
    have hcounts := ((runtime.categoryOrder.perm (groupCounts ReportRow.category reports)).map
      Prod.snd).sum_eq
    rw [countedFigures, List.map_map, ← sum_groupCounts ReportRow.category reports, ← hcounts]
    rfl
  statuses := by
    have hcounts := ((runtime.statusOrder.perm (groupCounts ReportRow.status reports)).map
      Prod.snd).sum_eq
    rw [countedFigures, List.map_map, ← sum_groupCounts ReportRow.status reports, ← hcounts]
    rfl

/-! ### What comes to the store -/

/-- None of the reports that come is of the query. -/
theorem selected_add (h : LeftOut runtime user query added)
    (hfilter : reportWhere runtime user query = .ok filter) :
    (s.add added).reports.filter (filter.selects runtime) =
      s.reports.filter (filter.selects runtime) := by
  have hnone : added.reports.filter (filter.selects runtime) = [] := by
    refine List.filter_eq_nil_iff.mpr fun report hreport hselected => ?_
    rw [ReportWhereInput.selects, Bool.and_eq_true, Bool.and_eq_true] at hselected
    exact h.reports filter hfilter report hreport hselected.1
  rw [AnalyticsStore.add, List.filter_append, hnone, List.append_nil]

/-- The rework events that come are counted exactly where a report that only its category leaves out
has one. -/
theorem reworkRows_eq_nil_iff (h : LeftOut runtime user query added)
    (hfilter : reportWhere runtime user query = .ok filter) :
    reworkRows filter added.activities = [] ↔ ¬ CountsRework runtime user query added := by
  rw [reworkRows, List.filter_eq_nil_iff]
  constructor
  · rintro hnone ⟨filter', hfilter', report, -, activity, hactivity, -, horganization, hin, -,
      haction, hdates⟩
    obtain rfl := Except.ok.inj (hfilter.symm.trans hfilter')
    refine hnone activity hactivity ?_
    rw [← horganization] at hin
    rw [hdates, haction, Bool.and_true, decide_eq_true rfl, Bool.and_true]
    exact hin
  · intro hcounts activity hactivity hselected
    rw [Bool.and_eq_true, Bool.and_eq_true, decide_eq_true_eq] at hselected
    obtain ⟨⟨hin, hdates⟩, haction⟩ := hselected
    obtain ⟨report, hreport, hid, horganization⟩ := h.activities activity hactivity
    rw [horganization] at hin
    refine hcounts ⟨filter, hfilter, report, hreport, activity, hactivity, hid, horganization, hin,
      ?_, haction, hdates⟩
    by_contra hcategory
    exact h.reports filter hfilter report hreport ⟨hin, Bool.eq_true_of_not_eq_false hcategory⟩

/-- **Filtered analytics.** The figures fit together, and they stay as they are when reports come
that the organization or the category of the query leaves out, exactly when none that only its
category leaves out has a rework event between the dates. -/
theorem filtered_figures_iff (runtime : Runtime) (user : AnalyticsUser)
    (query : ExecutiveAnalyticsQuery) (now : Millis) (s : AnalyticsStore) (added : Addition)
    (hadded : LeftOut runtime user query added) :
    ((∀ f, figures runtime user query now s = .ok f → Consistent f) ∧
        figures runtime user query now (s.add added) = figures runtime user query now s) ↔
      ¬ CountsRework runtime user query added := by
  cases hfilter : reportWhere runtime user query with
  | error e =>
    rw [figures_error hfilter, figures_error hfilter]
    refine iff_of_true ⟨nofun, rfl⟩ ?_
    rintro ⟨filter, hok, -⟩
    rw [hfilter] at hok
    cases hok
  | ok filter =>
    have hrows : reworkRows filter (s.add added).activities =
        reworkRows filter s.activities ++ reworkRows filter added.activities :=
      List.filter_append s.activities added.activities
    rw [← reworkRows_eq_nil_iff hadded hfilter, figures_eq hfilter, figures_eq hfilter,
      selected_add hadded hfilter, hrows]
    constructor
    · rintro ⟨-, hsame⟩
      have hcount : (reworkRows filter s.activities ++ reworkRows filter added.activities).length =
          (reworkRows filter s.activities).length :=
        congrArg Figures.reworkEvents (Except.ok.inj hsame)
      rw [List.length_append] at hcount
      exact List.length_eq_zero_iff.mp (by omega)
    · intro hnone
      refine ⟨fun f hf => ?_, by rw [hnone, List.append_nil]⟩
      rw [← Except.ok.inj hf]
      exact countedFigures_consistent _ _

namespace Example

/-- Texts are compared as they are, and rows are listed as they are stored. -/
def asStored : Runtime where
  parseDate _ := none
  equalsInsensitive a b := a = b
  localeBefore a b := !b.toList.lex a.toList fun c d => c.toNat.blt d.toNat
  reportOrder := ⟨id, fun _ => .refl _⟩
  activityOrder := ⟨id, fun _ => .refl _⟩
  categoryOrder := ⟨id, fun _ => .refl _⟩
  statusOrder := ⟨id, fun _ => .refl _⟩
  percentage _ _ := 0
  averageHours _ := 0

def orgAdmin : AnalyticsUser := { role := .orgAdmin, organizationId := some "lagos" }

def noRows : AnalyticsStore := ⟨.ofUsers (Table.empty _) (Table.empty _), [], []⟩

/-- A report about water, whose citizen has found the work incomplete. -/
def waterReport (organizationId : String) : Addition where
  reports :=
    [{ id := "report", category := "Water", organizationId, createdAt := 0, updatedAt := 0 }]
  activities := [{ reportId := "report", organizationId, action := reworkAction, createdAt := 1 }]

theorem waterReport_activities (organizationId : String) :
    ∀ activity ∈ (waterReport organizationId).activities,
      ∃ report ∈ (waterReport organizationId).reports,
        activity.reportId = report.id ∧ activity.organizationId = report.organizationId := by
  simp [waterReport]

end Example

open Example in
/-- The report of another organization changes no figure. -/
theorem other_organization_left_out :
    (∀ f, figures asStored orgAdmin {} 2 noRows = .ok f → Consistent f) ∧
      figures asStored orgAdmin {} 2 (noRows.add (waterReport "abuja")) =
        figures asStored orgAdmin {} 2 noRows := by
  have hleftOut : LeftOut asStored orgAdmin {} (waterReport "abuja") := by
    refine ⟨fun filter hfilter report hreport hin => ?_, waterReport_activities "abuja"⟩
    obtain rfl := Except.ok.inj hfilter
    obtain rfl := List.mem_singleton.mp hreport
    exact absurd hin.1 (by decide)
  refine (filtered_figures_iff asStored orgAdmin {} 2 noRows _ hleftOut).mpr ?_
  rintro ⟨filter, hfilter, report, hreport, -, -, -, -, hin, -⟩
  obtain rfl := Except.ok.inj hfilter
  obtain rfl := List.mem_singleton.mp hreport
  exact absurd hin (by decide)

open Example in
/-- A report about water has its rework event counted among those about roads. -/
theorem other_category_counted :
    ¬ ∀ (runtime : Runtime) (user : AnalyticsUser) (query : ExecutiveAnalyticsQuery) (now : Millis)
      (s : AnalyticsStore) (added : Addition), LeftOut runtime user query added →
        (∀ f, figures runtime user query now s = .ok f → Consistent f) ∧
          figures runtime user query now (s.add added) = figures runtime user query now s := by
  intro h
  have hleftOut : LeftOut asStored orgAdmin { category := some "Road" } (waterReport "lagos") := by
    refine ⟨fun filter hfilter report hreport hin => ?_, waterReport_activities "lagos"⟩
    obtain rfl := Except.ok.inj hfilter
    obtain rfl := List.mem_singleton.mp hreport
    exact absurd hin.2 (by decide)
  have hsame := (h asStored orgAdmin { category := some "Road" } 2 noRows _ hleftOut).2
  have hcount := congrArg (fun result => result.toOption.map Figures.reworkEvents) hsame
  revert hcount
  decide +kernel

end FixZone.AnalyticsService
