import FixZone.Library.Csv
import FixZone.Library.Table
import FixZone.Library.Window
import FixZone.PlatformTools.Backup

/-!
# The audit log of the platform tools

A super administrator pages through the entries of `DemoAuditLog` with `auditLogs`, and gets the
newest 5000 as comma-separated values from `exportAuditLogs`. Both have the newest entry first, and
entries of one instant in the order of their ids, so that the pages of a query hold every entry that
it asks for once (`flatMap_pages`). A reader of the exported file finds the first entries of those
pages in it, whatever quotes, commas and line ends their texts contain (`export_read_back`).

The metadata of an entry is not exported and left out. That a text contains another in
case-insensitive mode is decided by the database and a parameter here; so is what it finds in the
dates of a query, which are instants already.
-/

namespace FixZone.PlatformToolsService

open Library
open ReportService (HttpError)

/-- An entry of `DemoAuditLog`. -/
structure DemoAuditLog where
  id : String
  action : String
  actorUserId : String
  demoBatchId : Option String := none
  scenario : Option String := none
  createdAt : Millis

/-- The log. -/
abbrev AuditLog := Table DemoAuditLog.id

/-- `orderBy: [{ createdAt: 'desc' }, { id: 'desc' }]`. -/
def newestFirst (a b : DemoAuditLog) : Bool :=
  b.createdAt < a.createdAt || (a.createdAt = b.createdAt && b.id ≤ a.id)

/-! ### The listing -/

/-- The query of `auditLogs`. -/
structure AuditQuery where
  user : Option String := none
  action : Option String := none
  search : Option String := none
  fromDate : Option Millis := none
  toDate : Option Millis := none
  page : Option ℤ := none
  limit : Option ℤ := none

/-- A text of the query, which counts only if it is not empty, and what a row has to meet then. -/
def whenAsked (text : Option String) (meets : String → Bool) : Bool :=
  text.all fun text => text = "" || meets text

/-- The `where` of `auditLogs`; `contains` is that of the database with `mode: 'insensitive'`, of the
text asked for and a column. -/
def AuditQuery.asksFor (contains : String → String → Bool) (query : AuditQuery)
    (row : DemoAuditLog) : Bool :=
  whenAsked query.user (fun user => row.actorUserId = user) &&
    whenAsked query.action (fun action => contains action row.action) &&
    whenAsked query.search (fun search => contains search row.action ||
      contains search row.actorUserId || row.demoBatchId.any (contains search) ||
      row.scenario.any (contains search)) &&
    query.fromDate.all (fun date => date ≤ row.createdAt) &&
    query.toDate.all fun date => row.createdAt ≤ date

/-- What `auditLogs` returns. -/
structure AuditPage where
  page : ℤ
  limit : ℤ
  total : ℕ
  items : List DemoAuditLog

/-- The entries that a query asks for, in their order. -/
def AuditLog.listed (contains : String → String → Bool) (query : AuditQuery) (log : AuditLog) :
    List DemoAuditLog :=
  (log.rows.filter (query.asksFor contains)).insertionSort fun a b => newestFirst a b

/-- `limit` of `auditLogs`. -/
def AuditQuery.pageSize (query : AuditQuery) : ℤ := min 100 (max 1 (query.limit.getD 25))

/-- `auditLogs`. -/
def auditLogs (contains : String → String → Bool) (log : AuditLog) (query : AuditQuery)
    (user : JwtUser) : Except HttpError AuditPage := do
  let _ ← requireSuperAdmin user
  let page := max 1 (query.page.getD 1)
  let limit := query.pageSize
  return {
    page
    limit
    total := log.rows.countP (query.asksFor contains)
    items := ((log.listed contains query).drop ((page - 1) * limit).toNat).take limit.toNat }

/-! ### The export -/

/-- The columns of the exported file. -/
def auditColumns : List String := ["createdAt", "actorUserId", "action", "demoBatchId", "scenario"]

/-- The fields of an entry in it. -/
def DemoAuditLog.fields (row : DemoAuditLog) : List String :=
  [toISOString row.createdAt, row.actorUserId, row.action, row.demoBatchId.getD "",
    row.scenario.getD ""]

/-- `exportAuditLogs`. -/
def exportAuditLogs (log : AuditLog) (user : JwtUser) : Except HttpError String := do
  let _ ← requireSuperAdmin user
  let items := (log.rows.insertionSort fun a b => newestFirst a b).take 5000
  return String.ofList (['\n'].intercalate (items.map fun item => Csv.writeRow item.fields))

/-- `exportAudit` of the controller: the file that is sent. -/
def exportAudit (log : AuditLog) (user : JwtUser) : Except HttpError String := do
  let csv ← exportAuditLogs log user
  return "createdAt,actorUserId,action,demoBatchId,scenario\n" ++ csv

/-! ### Pages -/

theorem newestFirst_ordersBy : OrdersBy newestFirst DemoAuditLog.id where
  total a b := by
    unfold newestFirst
    grind
  trans a b c := by
    unfold newestFirst
    grind
  antisymm a b := by
    unfold newestFirst
    grind

variable {contains : String → String → Bool} {log : AuditLog} {query : AuditQuery}

theorem listed_sorted : StrictlySorted newestFirst (log.listed contains query) :=
  strictlySorted_insertionSort newestFirst_ordersBy (log.nodup.sublist (List.filter_sublist.map _))

theorem mem_listed {row : DemoAuditLog} :
    row ∈ log.listed contains query ↔ row ∈ log.rows ∧ query.asksFor contains row = true := by
  rw [AuditLog.listed, List.mem_insertionSort, List.mem_filter]

theorem length_listed :
    (log.listed contains query).length = log.rows.countP (query.asksFor contains) := by
  rw [AuditLog.listed, List.length_insertionSort, List.countP_eq_length_filter]

theorem pageSize_pos (query : AuditQuery) : 0 < query.pageSize := by
  unfold AuditQuery.pageSize
  omega

/-- The page `page + 1` of a query. -/
def AuditLog.pageOf (contains : String → String → Bool) (query : AuditQuery) (log : AuditLog)
    (page : ℕ) : AuditPage where
  page := page + 1
  limit := query.pageSize
  total := log.rows.countP (query.asksFor contains)
  items := ((log.listed contains query).drop (page * query.pageSize.toNat)).take
    query.pageSize.toNat

theorem auditLogs_eq_ok {user : JwtUser} {actorUserId : String}
    (hadmin : requireSuperAdmin user = .ok actorUserId) (page : ℕ) :
    auditLogs contains log { query with page := some (page + 1) } user =
      .ok (log.pageOf contains query page) := by
  have hpage : max 1 ((page : ℤ) + 1) = page + 1 := by omega
  have hskip : (((page : ℤ) + 1 - 1) * query.pageSize).toNat = page * query.pageSize.toNat := by
    obtain ⟨size, hsize⟩ := Int.eq_ofNat_of_zero_le (pageSize_pos query).le
    rw [hsize, Int.add_sub_cancel, Int.toNat_natCast, ← Int.natCast_mul, Int.toNat_natCast]
  have hsize : AuditQuery.pageSize { query with page := some (page + 1) } = query.pageSize := rfl
  rw [auditLogs, hadmin, ok_bind]
  dsimp only
  rw [Option.getD_some, hpage, hsize, hskip]
  rfl

/-- As many pages as hold them all hold every entry that the query asks for, in order. -/
theorem flatMap_pages {pages : ℕ}
    (hpages : log.rows.countP (query.asksFor contains) ≤ pages * query.pageSize.toNat) :
    ((List.range pages).flatMap fun page => (log.pageOf contains query page).items) =
      log.listed contains query := by
  rw [← length_listed] at hpages
  exact (flatMap_take_drop _ _ _).trans (List.take_of_length_le hpages)

/-! ### The file -/

/-- The file is read as the columns and the newest entries. -/
theorem read_exportAudit {user : JwtUser} {actorUserId : String}
    (hadmin : requireSuperAdmin user = .ok actorUserId) :
    ∃ document, exportAudit log user = .ok document ∧
      Csv.read document.toList = auditColumns ::
        ((log.rows.insertionSort fun a b => newestFirst a b).take 5000).map
          DemoAuditLog.fields := by
  have hheader : Csv.IsLine "createdAt,actorUserId,action,demoBatchId,scenario".toList
      auditColumns := by
    have hplain : auditColumns.all (fun name => name ≠ "" && name.toList.all Csv.isPlain) := by
      decide +kernel
    have hcells := Csv.isLine_intercalate (auditColumns.map fun name => (name.toList, name))
      (by decide) (by
        intro cell hcell
        obtain ⟨name, hname, rfl⟩ := List.mem_map.mp hcell
        have hspec := List.all_eq_true.mp hplain name hname
        rw [Bool.and_eq_true, decide_eq_true_eq] at hspec
        exact Csv.isCell_plain hspec.1 hspec.2)
    exact hcells
  have hrows := Csv.read_lines hheader
    (((log.rows.insertionSort fun a b => newestFirst a b).take 5000).map DemoAuditLog.fields) (by
      intro fields hfields
      obtain ⟨row, -, rfl⟩ := List.mem_map.mp hfields
      exact List.cons_ne_nil _ _)
  rw [List.map_map] at hrows
  have hdocument (csv : List Char) :
      ("createdAt,actorUserId,action,demoBatchId,scenario\n" ++ String.ofList csv).toList =
        "createdAt,actorUserId,action,demoBatchId,scenario".toList ++ '\n' :: csv := by
    have hline : "createdAt,actorUserId,action,demoBatchId,scenario\n".toList =
        "createdAt,actorUserId,action,demoBatchId,scenario".toList ++ ['\n'] := by decide
    have hcsv : (String.ofList csv).toList = csv := String.toList_ofList
    rw [String.toList_append, hcsv, hline, List.append_assoc]
    rfl
  refine ⟨_, by rw [exportAudit, exportAuditLogs, hadmin]; rfl, ?_⟩
  rw [hdocument]
  exact hrows

/-- **What is listed and what is exported.** The pages of a query hold every entry it asks for once,
the newest first; and a reader of the exported file finds in it the first 5000 entries of the pages
of a query that asks for all. -/
theorem export_read_back (contains : String → String → Bool) (log : AuditLog) {user : JwtUser}
    {actorUserId : String} (hadmin : requireSuperAdmin user = .ok actorUserId) :
    ∃ document, exportAudit log user = .ok document ∧ ∀ query : AuditQuery,
      ∃ listing : ℕ → AuditPage, (∀ page : ℕ, auditLogs contains log
          { query with page := some (page + 1) } user = .ok (listing page)) ∧
        ∀ pages, (listing 0).total ≤ pages * (listing 0).limit.toNat →
          let shown := (List.range pages).flatMap fun page => (listing page).items
          StrictlySorted newestFirst shown ∧
            (∀ row, row ∈ shown ↔ row ∈ log.rows ∧ query.asksFor contains row = true) ∧
            ((∀ row ∈ log.rows, query.asksFor contains row = true) →
              Csv.read document.toList =
                auditColumns :: (shown.take 5000).map DemoAuditLog.fields) := by
  obtain ⟨document, hdocument, hread⟩ := read_exportAudit hadmin
  refine ⟨document, hdocument, fun query => ⟨log.pageOf contains query,
    auditLogs_eq_ok hadmin, fun pages hpages => ?_⟩⟩
  rw [flatMap_pages hpages]
  refine ⟨listed_sorted, fun row => mem_listed, fun hall => ?_⟩
  rw [hread, AuditLog.listed, List.filter_eq_self.mpr hall]

namespace Example

def purged : DemoAuditLog where
  id := "a"
  action := "Purge of \"Lagos, all\"\nDone"
  actorUserId := "admin"
  scenario := some ","
  createdAt := 1000

def cleared : DemoAuditLog where
  id := "b"
  action := "Cache Cleared"
  actorUserId := "admin"
  createdAt := 2000

def auditLog : AuditLog := ⟨[purged, cleared], by decide⟩

end Example

open Example in
/-- Commas, quotes and line ends in an entry come back. -/
theorem export_read_back_purged : ∃ document,
    exportAudit auditLog { id := some "admin", role := .superAdmin } = .ok document ∧
      Csv.read document.toList = auditColumns :: [cleared.fields, purged.fields] := by
  have hadmin : requireSuperAdmin { id := some "admin", role := .superAdmin } = .ok "admin" := rfl
  obtain ⟨document, hdocument, hqueries⟩ := export_read_back (fun _ _ => false) auditLog hadmin
  obtain ⟨listing, hlisting, hpages⟩ := hqueries {}
  have hpage : listing 0 = ⟨1, 25, 2, [cleared, purged]⟩ := Except.ok.inj (hlisting 0).symm
  have hread := (hpages 1 (by rw [hpage]; decide)).2.2 fun _ _ => rfl
  rw [List.range_one, List.flatMap_singleton, hpage] at hread
  exact ⟨document, hdocument, hread⟩

end FixZone.PlatformToolsService
