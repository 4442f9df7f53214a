import FixZone.Accounts
import FixZone.Auth.Service
import FixZone.Library.Grouping
import FixZone.Library.QueryObject

/-!
# Executive analytics

`AnalyticsService` counts reports and what happened to them, for an organization or for all of
them, and as far as a query asks within a category and between two dates. Each figure comes from a
query of its own. The filters of these queries are made by two functions, `reportWhere` for reports
and `activityWhere` for their activities.

Modelled are the overview, the trend and the two distributions. What the language computes in
floating point, and what the database decides (which texts are equal but for their case, in which
order it lists rows), is a parameter.
-/

namespace FixZone.AnalyticsService

open Library Library.Grouping Accounts
open AuthService (utf16Length)
open ReportService (HttpError forbidden)

/-! ### Rows and requests -/

/-- `Report`: the columns that are counted by. -/
structure ReportRow where
  id : String
  category : String
  status : ReportStatus := .pending
  organizationId : String
  createdAt : Millis
  updatedAt : Millis

/-- `ReportActivity`: the columns that are counted by. -/
structure ActivityRow where
  reportId : String
  organizationId : String
  action : String
  createdAt : Millis

/-- What is stored. -/
structure AnalyticsStore where
  accounts : Store
  reports : List ReportRow
  activities : List ActivityRow

/-- `AnalyticsUser`. -/
structure AnalyticsUser where
  role : UserRole
  organizationId : Option String := none

/-- `AnalyticsInterval`. -/
inductive AnalyticsInterval where
  | daily | weekly | monthly
  deriving DecidableEq

/-- `ExecutiveAnalyticsQueryDto`; its `from` and `to` are texts of dates. -/
structure ExecutiveAnalyticsQuery where
  fromText : Option String := none
  toText : Option String := none
  interval : Option AnalyticsInterval := none
  organizationId : Option String := none
  category : Option String := none

/-- What the language and the database give. -/
structure Runtime where
  /-- `new Date(text)`, where that is a date. -/
  parseDate : String → Option Millis
  /-- `equals` with `mode: 'insensitive'`, of the text asked for and a column. -/
  equalsInsensitive : String → String → Bool
  /-- `a.localeCompare(b) <= 0`. -/
  localeBefore : String → String → Bool
  /-- The order of `orderBy: { createdAt: 'asc' }`. -/
  reportOrder : RowOrder ReportRow
  activityOrder : RowOrder ActivityRow
  /-- The order of `orderBy: { _count: 'desc' }`. -/
  categoryOrder : RowOrder (String × ℕ)
  statusOrder : RowOrder (ReportStatus × ℕ)
  /-- `Number(((part / total) * 100).toFixed(1))`. -/
  percentage : ℕ → ℕ → ℚ
  /-- The average time between two dates in hours, `toFixed(2)`. -/
  averageHours : List (Millis × Millis) → ℚ

variable (runtime : Runtime) (user : AnalyticsUser) (query : ExecutiveAnalyticsQuery)

/-! ### Filters -/

/-- `organizationScope`. -/
def organizationScope : Except HttpError (Option String) :=
  if user.role = .superAdmin then .ok (trimmedOrNull query.organizationId)
  else do
    throwIf (truthy user.organizationId = false)
      (forbidden "Organization scoped analytics required")
    throwIf (trimmed query.organizationId ≠ "" ∧
        some (trimmed query.organizationId) ≠ user.organizationId)
      (forbidden "Cannot access another organization analytics scope")
    return user.organizationId

/-- `Prisma.DateTimeFilter`. -/
structure DateTimeFilter where
  gte : Option Millis := none
  lte : Option Millis := none

/-- The dates between the two. -/
def DateTimeFilter.selects (filter : DateTimeFilter) (createdAt : Millis) : Bool :=
  filter.gte.all (· ≤ createdAt) && filter.lte.all (createdAt ≤ ·)

/-- What Prisma throws for an invalid date. -/
def invalidDateError : HttpError :=
  { kind := .internal, message := "Provided Date object is invalid. Expected Date." }

/-- A date of the query, if there is one. -/
def filterDate (text : Option String) : Except HttpError (Option Millis) :=
  if truthy text = false then .ok none
  else do
    let date ← orThrow (text.bind runtime.parseDate) invalidDateError
    return some date

/-- `dateFilter`; a filter without dates is none. -/
def dateFilter : Except HttpError DateTimeFilter := do
  let gte ← filterDate runtime query.fromText
  let lte ← filterDate runtime query.toText
  return { gte, lte }

/-- `Prisma.ReportWhereInput`. -/
structure ReportWhereInput where
  organizationId : Option String
  category : Option String
  createdAt : DateTimeFilter

/-- `Prisma.ReportActivityWhereInput`. -/
structure ReportActivityWhereInput where
  organizationId : Option String
  createdAt : DateTimeFilter

/-- `reportWhere`. -/
def reportWhere : Except HttpError ReportWhereInput := do
  let organizationId ← organizationScope user query
  let createdAt ← dateFilter runtime query
  return { organizationId, category := trimmedOrNull query.category, createdAt }

/-- `activityWhere`. -/
def activityWhere : Except HttpError ReportActivityWhereInput := do
  let organizationId ← organizationScope user query
  let createdAt ← dateFilter runtime query
  return { organizationId, createdAt }

/-- `providerWhere`. -/
def providerWhere : Except HttpError (User → Bool) := do
  let organizationId ← organizationScope user query
  return fun row => row.role = .provider && row.accountStatus = .active &&
    organizationId.all fun id => row.organizationId = some id

/-- `organizationWhere`. -/
def organizationWhere : Except HttpError (Organization → Bool) := do
  let organizationId ← organizationScope user query
  return fun row => organizationId.all (· = row.id)

namespace ReportWhereInput

variable (filter : ReportWhereInput)

/-- The filter by organization lets a report of it through. -/
def inOrganization (organizationId : String) : Bool :=
  filter.organizationId.all (· = organizationId)

/-- The filter by category lets a report of it through. -/
def inCategory (category : String) : Bool :=
  filter.category.all (runtime.equalsInsensitive · category)

/-- The reports of the query. -/
def selects (row : ReportRow) : Bool :=
  filter.inOrganization row.organizationId && filter.inCategory runtime row.category &&
    filter.createdAt.selects row.createdAt

end ReportWhereInput

/-- The activities of the query. -/
def ReportActivityWhereInput.selects (filter : ReportActivityWhereInput) (row : ActivityRow) :
    Bool :=
  filter.organizationId.all (· = row.organizationId) && filter.createdAt.selects row.createdAt

/-! ### The overview -/

/-- `ACTIVE_STATUSES`. -/
def activeStatuses : List ReportStatus := [.pending, .assigned, .inProgress, .completedByProvider]

/-- `RESOLVED_STATUSES`. -/
def resolvedStatuses : List ReportStatus := [.closed]

/-- What `scopeLabel` returns. -/
structure ScopeLabel where
  organizationId : Option String
  global : Bool
  role : UserRole

/-- `scopeLabel`. -/
def scopeLabel : Except HttpError ScopeLabel := do
  let organizationId ← organizationScope user query
  return { organizationId, global := organizationId.isNone, role := user.role }

/-- `totals` of the overview. -/
structure Totals where
  totalReports : ℕ
  activeReports : ℕ
  resolvedReports : ℕ
  closedReports : ℕ
  participatingOrganizations : ℕ
  activeProviders : ℕ

/-- `quality` of the overview. -/
structure Quality where
  resolutionRate : Option ℚ
  averageResolutionHours : Option ℚ
  reworkEvents : ℕ
  assignmentRejections : ℕ

/-- What `getExecutiveOverview` returns. -/
structure ExecutiveOverview where
  scope : ScopeLabel
  totals : Totals
  quality : Quality
  privacy : String :=
    "Executive analytics are aggregated. Payloads exclude citizen identities, report " ++
      "descriptions, evidence URLs, exact addresses, and precise coordinates."
  lastUpdatedAt : String

/-- The action of an activity that reports work as incomplete. -/
def reworkAction : String := "CITIZEN_MARKED_WORK_INCOMPLETE"

/-- `getExecutiveOverview`. -/
def getExecutiveOverview (now : Millis) (s : AnalyticsStore) :
    Except HttpError ExecutiveOverview := do
  let reportFilter ← reportWhere runtime user query
  let providerFilter ← providerWhere user query
  let organizationFilter ← organizationWhere user query
  let activityFilter ← activityWhere runtime user query
  let scope ← scopeLabel user query
  let reports := s.reports.filter (reportFilter.selects runtime)
  let activities := s.activities.filter activityFilter.selects
  let closedReports := reports.filter (·.status = .closed)
  let resolvedReports := reports.countP (resolvedStatuses.contains ·.status)
  return {
    scope
    totals :=
      { totalReports := reports.length
        activeReports := reports.countP (activeStatuses.contains ·.status)
        resolvedReports
        closedReports := closedReports.length
        participatingOrganizations := s.accounts.organizations.rows.countP organizationFilter
        activeProviders := s.accounts.users.rows.countP providerFilter }
    quality :=
      { resolutionRate :=
          if reports.length = 0 then none
          else some (runtime.percentage resolvedReports reports.length)
        averageResolutionHours :=
          if closedReports.length = 0 then none
          else some (runtime.averageHours
            (closedReports.map fun row => (row.createdAt, row.updatedAt)))
        reworkEvents := activities.countP (·.action = reworkAction)
        assignmentRejections := activities.countP (·.action = "PROVIDER_REJECTED") }
    lastUpdatedAt := toISOString now }

/-! ### The trend -/

/-- `TrendPoint`. -/
structure TrendPoint where
  period : String
  submitted : ℕ := 0
  resolved : ℕ := 0
  active : ℕ := 0
  rework : ℕ := 0
  deriving DecidableEq

/-- What `getTrendAnalytics` returns. -/
structure TrendAnalytics where
  interval : AnalyticsInterval
  points : List TrendPoint
  lastUpdatedAt : String

/-- The day of `Date.UTC(year, month, day)`, a month counted from 1: the years up to 99 are those of
the twentieth century. -/
def utcDay (year month day : ℤ) : ℤ :=
  daysFromCivil (if 0 ≤ year ∧ year ≤ 99 then 1900 + year else year) month 1 + day - 1

/-- `bucket`. -/
def bucket (interval : AnalyticsInterval) (date : Millis) : String :=
  match interval with
  | .monthly => String.ofList ((toISOString date).toList.take 7)
  | .weekly =>
    let (year, month, day) := civilFromDays (date / 86400000)
    let week := (utcDay year month day - utcDay year 1 1) / 7 + 1
    toString year ++ "-W" ++ padded 2 week.toNat
  | .daily => String.ofList ((toISOString date).toList.take 10)

example : bucket .weekly 1783209600000 = "2026-W27" := by decide +kernel

/-- The point of a period, with the counts that a change makes of it: `ensureTrendPoint`, and what
is done to the point it returns. -/
def changeTrendPoint (points : List TrendPoint) (key : String) (change : TrendPoint → TrendPoint) :
    List TrendPoint :=
  changeBucket TrendPoint.period (fun period => { period }) key change points

/-- The point of a report with the report counted. -/
def countReport (report : ReportRow) (point : TrendPoint) : TrendPoint :=
  { point with
    submitted := point.submitted + 1
    resolved := point.resolved + if resolvedStatuses.contains report.status then 1 else 0
    active := point.active + if activeStatuses.contains report.status then 1 else 0 }

/-- The point of a rework event with the event counted. -/
def countRework (point : TrendPoint) : TrendPoint := { point with rework := point.rework + 1 }

/-- The two loops of `getTrendAnalytics`. -/
def trendPoints (interval : AnalyticsInterval) (reports : List ReportRow)
    (activityRows : List ActivityRow) : List TrendPoint :=
  activityRows.foldl
    (fun points row => changeTrendPoint points (bucket interval row.createdAt) countRework)
    (reports.foldl
      (fun points report =>
        changeTrendPoint points (bucket interval report.createdAt) (countReport report)) [])

/-- `getTrendAnalytics`. -/
def getTrendAnalytics (now : Millis) (s : AnalyticsStore) : Except HttpError TrendAnalytics := do
  let reportFilter ← reportWhere runtime user query
  let activityFilter ← activityWhere runtime user query
  let reports := runtime.reportOrder.list (s.reports.filter (reportFilter.selects runtime))
  let activityRows := runtime.activityOrder.list
    (s.activities.filter fun row => activityFilter.selects row && row.action = reworkAction)
  let interval := query.interval.getD .daily
  return {
    interval
    points := (trendPoints interval reports activityRows).insertionSort
      fun a b => runtime.localeBefore a.period b.period
    lastUpdatedAt := toISOString now }

/-! ### The distributions -/

/-- `safeLabel`. -/
def safeLabel (value : Option String) (fallback : String) : String :=
  let clean := trimmed value
  if clean ≠ "" ∧ utf16Length clean ≤ 80 then clean else fallback

/-- A category and its reports. -/
structure CategoryCount where
  category : String
  count : ℕ
  deriving DecidableEq

/-- What `getCategoryDistribution` returns. -/
structure CategoryDistribution where
  categories : List CategoryCount
  lastUpdatedAt : String

/-- `getCategoryDistribution`. -/
def getCategoryDistribution (now : Millis) (s : AnalyticsStore) :
    Except HttpError CategoryDistribution := do
  let reportFilter ← reportWhere runtime user query
  let rows := runtime.categoryOrder.list
    (groupCounts ReportRow.category (s.reports.filter (reportFilter.selects runtime)))
  return {
    categories := rows.map fun row => ⟨safeLabel (some row.1) "Uncategorized", row.2⟩
    lastUpdatedAt := toISOString now }

/-- A status and its reports. -/
structure StatusCount where
  status : ReportStatus
  count : ℕ
  deriving DecidableEq

/-- What `getStatusDistribution` returns. -/
structure StatusDistribution where
  statuses : List StatusCount
  lastUpdatedAt : String

/-- `getStatusDistribution`. -/
def getStatusDistribution (now : Millis) (s : AnalyticsStore) :
    Except HttpError StatusDistribution := do
  let reportFilter ← reportWhere runtime user query
  let rows := runtime.statusOrder.list
    (groupCounts ReportRow.status (s.reports.filter (reportFilter.selects runtime)))
  return {
    statuses := rows.map fun row => ⟨row.1, row.2⟩
    lastUpdatedAt := toISOString now }

end FixZone.AnalyticsService
