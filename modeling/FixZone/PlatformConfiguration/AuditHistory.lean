import FixZone.Library.Table
import FixZone.Library.QueryObject
import FixZone.Report.Model

/-!
# The audit history of the platform

`getPlatformAuditHistory` lists the latest entries of the audit log. The organization is
named in the metadata of an entry, and there the entries are looked through after the
database has read the latest two hundred, of all organizations. So what an administrator is
shown is the history of the organization as long as none of its entries has been pushed out of
these two hundred by those of others (`audit_history_complete_iff`).
-/

namespace FixZone.PlatformConfigurationService

open Library
open ReportService (JwtUser HttpError forbidden)

/-! ### The log -/

/-- `DemoAuditLog`. -/
structure DemoAuditLog where
  id : String
  action : String
  actorUserId : String
  metadata : Option Json := none
  createdAt : Millis

/-- An order in which the database lists entries by `createdAt: 'desc'`. -/
structure NewestFirst extends RowOrder DemoAuditLog where
  newestFirst : ∀ rows, (list rows).Pairwise fun a b => b.createdAt ≤ a.createdAt

/-- `AuditHistoryQuery`. -/
structure AuditHistoryQuery where
  action : Option String := none
  organizationId : Option String := none
  groupBy : Option String := none
  limit : Option String := none

/-- `Number.parseInt(text, 10)`, with `none` for `NaN`. -/
def parseInt (text : String) : Option ℤ :=
  let chars := text.toList.dropWhile isJsSpace
  let digits := (if chars.head? = some '-' ∨ chars.head? = some '+' then chars.tail
    else chars).takeWhile Char.isDigit
  let magnitude : ℕ := digits.foldl (fun n c => 10 * n + (c.toNat - '0'.toNat)) 0
  if digits.isEmpty then none
  else some (if chars.head? = some '-' then -magnitude else magnitude)

namespace AuditHistoryQuery

variable (query : AuditHistoryQuery)

/-- `requestedAction`. -/
def requestedAction : Option String := query.action.map trim

/-- `limit`: a number that is missing, no number or `0` is `50`. -/
def effectiveLimit : ℕ :=
  let limit := ((parseInt (query.limit.getD "50")).filter (· ≠ 0)).getD 50
  (min (max limit 1) 200).toNat

end AuditHistoryQuery

/-- `actions`. -/
def auditActions : List String :=
  ["Tenant Service Configuration Updated", "Provider Capabilities Assigned",
    "Provider Capability Deactivated", "Provider Capability Removed", "Module Readiness Evaluated"]

/-- Whether the condition of the query selects an entry. -/
def selectsAction (query : AuditHistoryQuery) (item : DemoAuditLog) : Bool :=
  match query.requestedAction.filter (· ≠ "") with
  | some requestedAction => item.action = requestedAction
  | none => auditActions.contains item.action

/-- `organizationScope`. -/
def organizationScope (user : JwtUser) (query : AuditHistoryQuery) : Option String :=
  if user.role = .superAdmin then query.organizationId.map trim else user.organizationId

/-- Whether the metadata of an entry names the organization of the scope, if there is one. -/
def inScope (scope : Option String) (item : DemoAuditLog) : Bool :=
  match scope.filter (· ≠ "") with
  | none => true
  | some organizationId =>
    match item.metadata.bind (Json.field? "organizationId") with
    | some (.str text) => text = organizationId
    | _ => false

/-- `groupAuditItems`, for the field that `field` reads. -/
def groupAuditItems (field : DemoAuditLog → String) (items : List DemoAuditLog) :
    List (String × ℕ) :=
  items.foldl (fun groups item =>
    let key := if field item = "" then "unknown" else field item
    if groups.any (·.1 = key) then
      groups.map fun group => if group.1 = key then (key, group.2 + 1) else group
    else groups ++ [(key, 1)]) []

/-- `filters` of the answer. -/
structure AuditFilters where
  action : Option String
  organizationId : Option String
  groupBy : Option String
  limit : ℕ

/-- What `getPlatformAuditHistory` returns. -/
structure AuditHistory where
  total : ℕ
  items : List DemoAuditLog
  actions : List String := auditActions
  filters : AuditFilters
  grouped : Option (List (String × ℕ))
  note : String :=
    "Audit history reuses the existing audit log store and remains informational."

variable (order : NewestFirst) (log : Table DemoAuditLog.id) (user : JwtUser)
  (query : AuditHistoryQuery)

/-- The entries that the query selects, as the database lists them. -/
def selectedItems : List DemoAuditLog := order.list (log.rows.filter (selectsAction query))

/-- `getPlatformAuditHistory`; its `timeline` shows the items once more. -/
def getPlatformAuditHistory : Except HttpError AuditHistory := do
  throwIf (user.role ≠ .superAdmin ∧ truthy user.organizationId = false)
    (forbidden "No organization scope")
  let filtered := ((selectedItems order log query).take 200).filter
    (inScope (organizationScope user query))
  let limited := filtered.take query.effectiveLimit
  return {
    total := filtered.length
    items := limited
    filters :=
      { action := query.requestedAction
        organizationId := organizationScope user query
        groupBy := query.groupBy
        limit := query.effectiveLimit }
    grouped :=
      if query.groupBy = some "action" then some (groupAuditItems DemoAuditLog.action limited)
      else if query.groupBy = some "actor" then
        some (groupAuditItems DemoAuditLog.actorUserId limited)
      else none }

/-! ### What is promised -/

/-- The latest `limit` of the entries `rows`. -/
structure MostRecent (rows : List DemoAuditLog) (limit : ℕ) (items : List DemoAuditLog) : Prop where
  among : items.Subperm rows
  length_eq : items.length = min limit rows.length
  newestFirst : items.Pairwise fun a b => b.createdAt ≤ a.createdAt
  latest : ∀ item ∈ items, ∀ row ∈ rows, row ∉ items → row.createdAt ≤ item.createdAt

/-- The entries of the whole log that the query selects, of the organization of the scope. -/
def wholeHistory : List DemoAuditLog :=
  log.rows.filter fun item => selectsAction query item &&
    inScope (organizationScope user query) item

/-- The answer shows the latest entries of the whole log and counts them all. -/
structure CompleteHistory (answer : AuditHistory) : Prop where
  items : MostRecent (wholeHistory log user query) query.effectiveLimit answer.items
  total : answer.total = (wholeHistory log user query).length

/-- Every entry of the organization is among the two hundred that come first of all
organizations' entries. -/
def NonePushedOut : Prop :=
  ∀ item ∈ wholeHistory log user query, item ∈ (selectedItems order log query).take 200

variable {order log user query}

/-! ### Windows -/

/-- Filtering a window finds everything exactly when what meets the condition is in the window. -/
theorem length_filter_take_iff {α : Type} {l : List α} (hnodup : l.Nodup) (p : α → Bool) (n : ℕ) :
    ((l.take n).filter p).length = (l.filter p).length ↔ ∀ a ∈ l, p a → a ∈ l.take n := by
  have hsplit : (l.filter p).length =
      ((l.take n).filter p).length + ((l.drop n).filter p).length := by
    rw [← List.length_append, ← List.filter_append, List.take_append_drop]
  rw [hsplit]
  constructor
  · intro hlength a ha hp
    have hnone : (l.drop n).filter p = [] := List.eq_nil_of_length_eq_zero (by omega)
    rw [← List.take_append_drop n l, List.mem_append] at ha
    refine ha.resolve_right fun hdrop => ?_
    have hmem : a ∈ (l.drop n).filter p := List.mem_filter.mpr ⟨hdrop, hp⟩
    rw [hnone] at hmem
    cases hmem
  · intro hwindow
    have hnone : (l.drop n).filter p = [] := by
      rw [List.filter_eq_nil_iff]
      intro a ha hp
      have hdisjoint := List.disjoint_take_drop hnodup (le_refl n)
      exact hdisjoint (hwindow a (List.mem_of_mem_drop ha) hp) ha
    rw [hnone]
    rfl

/-- The first of a list that is listed newest first are the latest of its entries. -/
theorem mostRecent_take {rows listed : List DemoAuditLog} (hperm : listed.Perm rows)
    (hsorted : listed.Pairwise fun a b => b.createdAt ≤ a.createdAt) (limit : ℕ) :
    MostRecent rows limit (listed.take limit) where
  among := (List.take_sublist limit listed).subperm.trans hperm.subperm
  length_eq := by rw [List.length_take, hperm.length_eq]
  newestFirst := hsorted.sublist (List.take_sublist limit listed)
  latest item hitem row hrow hrest := by
    have hlisted : row ∈ listed := hperm.mem_iff.mpr hrow
    rw [← List.take_append_drop limit listed] at hsorted hlisted
    have hdrop := (List.mem_append.mp hlisted).resolve_left hrest
    exact (List.pairwise_append.mp hsorted).2.2 item hitem row hdrop

/-! ### When the history is complete -/

theorem nodup_selectedItems : (selectedItems order log query).Nodup :=
  (order.perm _).nodup_iff.mpr (log.nodup.of_map.filter _)

/-- The entries of the organization, as the database lists them. -/
theorem filter_selectedItems_perm :
    ((selectedItems order log query).filter (inScope (organizationScope user query))).Perm
      (wholeHistory log user query) := by
  refine ((order.perm _).filter _).trans ?_
  rw [List.filter_filter, wholeHistory]
  exact .of_eq (List.filter_congr fun item _ => Bool.and_comm _ _)

/-- No entry is pushed out exactly when the window holds all those of the organization. -/
theorem nonePushedOut_iff :
    NonePushedOut order log user query ↔ ∀ item ∈ selectedItems order log query,
      inScope (organizationScope user query) item →
      item ∈ (selectedItems order log query).take 200 := by
  refine forall_congr' fun item => ?_
  rw [← filter_selectedItems_perm.mem_iff, List.mem_filter, and_imp]

/-- What the answer holds. -/
theorem getPlatformAuditHistory_eq_ok {answer : AuditHistory}
    (h : getPlatformAuditHistory order log user query = .ok answer) :
    answer.total = (((selectedItems order log query).take 200).filter
        (inScope (organizationScope user query))).length ∧
      answer.items = (((selectedItems order log query).take 200).filter
        (inScope (organizationScope user query))).take query.effectiveLimit := by
  obtain ⟨-, h⟩ := throwIf_bind_eq_ok.mp h
  obtain rfl := Except.ok.inj h
  exact ⟨rfl, rfl⟩

/-- Where nothing is pushed out the window shows what the whole list would. -/
theorem filter_take_eq (h : NonePushedOut order log user query) :
    ((selectedItems order log query).take 200).filter (inScope (organizationScope user query)) =
      (selectedItems order log query).filter (inScope (organizationScope user query)) :=
  ((List.take_sublist _ _).filter _).eq_of_length
    ((length_filter_take_iff nodup_selectedItems _ 200).mpr (nonePushedOut_iff.mp h))

theorem completeHistory_iff {answer : AuditHistory}
    (h : getPlatformAuditHistory order log user query = .ok answer) :
    CompleteHistory log user query answer ↔ NonePushedOut order log user query := by
  obtain ⟨htotal, hitems⟩ := getPlatformAuditHistory_eq_ok h
  constructor
  · intro hcomplete
    rw [nonePushedOut_iff, ← length_filter_take_iff nodup_selectedItems, ← htotal,
      hcomplete.total, filter_selectedItems_perm.length_eq]
  · intro hnone
    rw [filter_take_eq hnone] at htotal hitems
    refine ⟨?_, htotal.trans filter_selectedItems_perm.length_eq⟩
    rw [hitems]
    exact mostRecent_take filter_selectedItems_perm
      ((order.newestFirst _).sublist List.filter_sublist) _

/-- **The history of an organization is complete as long as nothing is pushed out.** -/
theorem audit_history_complete_iff {answer : AuditHistory}
    (h : getPlatformAuditHistory order log user query = .ok answer) :
    CompleteHistory log user query answer ↔
      ∀ item ∈ wholeHistory log user query, item ∈ (selectedItems order log query).take 200 :=
  completeHistory_iff h

namespace Example

/-- Newest first, by sorting. -/
def byCreatedAt : NewestFirst where
  list rows := rows.insertionSort fun a b => b.createdAt ≤ a.createdAt
  perm rows := List.perm_insertionSort _ rows
  newestFirst rows := by
    have : Std.Total fun a b : DemoAuditLog => b.createdAt ≤ a.createdAt :=
      ⟨fun a b => le_total b.createdAt a.createdAt⟩
    have : IsTrans DemoAuditLog fun a b => b.createdAt ≤ a.createdAt :=
      ⟨fun a b c hab hbc => le_trans hbc hab⟩
    exact List.pairwise_insertionSort _ rows

theorem byCreatedAt_of_sorted {rows : List DemoAuditLog}
    (h : rows.Pairwise fun a b => b.createdAt ≤ a.createdAt) : byCreatedAt.list rows = rows :=
  h.insertionSort_eq

/-- An entry about an organization. -/
def entry (id organizationId : String) (createdAt : Millis) : DemoAuditLog where
  id := id
  action := "Provider Capabilities Assigned"
  actorUserId := "admin"
  metadata := some (.obj [("organizationId", .str organizationId)])
  createdAt := createdAt

/-- The administrator of Lagos. -/
def lagosAdmin : JwtUser :=
  { id := "lagos-admin", role := .orgAdmin, organizationId := some "lagos" }

/-- The id of an entry about Kano. -/
def kanoId (n : ℕ) : String := String.ofList (List.replicate n 'k')

theorem kanoId_injective : Function.Injective kanoId := by
  intro m n h
  simpa [kanoId] using congrArg (fun id => id.toList.length) h

/-- Two hundred entries about Kano. -/
def kanoEntries : List DemoAuditLog := (List.range 200).map fun n => entry (kanoId n) "kano" 1

/-- An older entry about Lagos, and the two hundred. -/
def busyLog : Table DemoAuditLog.id where
  rows := kanoEntries ++ [entry "lagos-1" "lagos" 0]
  nodup := by
    rw [kanoEntries, List.map_append, List.map_map, List.nodup_append]
    refine ⟨List.nodup_range.map kanoId_injective, List.nodup_singleton _, ?_⟩
    rintro id hid lagosId hlagos rfl
    obtain ⟨n, -, hn⟩ := List.mem_map.mp hid
    have hid := hn.trans (List.mem_singleton.mp hlagos)
    have hfirst : 'l' ∈ List.replicate n 'k' := by
      have hchars : List.replicate n 'k' = "lagos-1".toList := by
        simpa [kanoId, entry] using congrArg String.toList hid
      rw [hchars]
      decide
    exact absurd (List.eq_of_mem_replicate hfirst) (by decide)

theorem busyLog_newestFirst : busyLog.rows.Pairwise fun a b => b.createdAt ≤ a.createdAt := by
  refine List.pairwise_append.mpr ⟨?_, List.pairwise_singleton _ _, ?_⟩
  · exact List.pairwise_map.mpr (List.pairwise_of_forall fun _ _ => le_refl _)
  · intro item hitem _ hlast
    obtain ⟨n, -, rfl⟩ := List.mem_map.mp hitem
    obtain rfl := List.mem_singleton.mp hlast
    exact zero_le_one

/-- Three entries about Lagos, among some about Kano. -/
def quietLog : Table DemoAuditLog.id where
  rows := [entry "lagos-1" "lagos" 0, entry "kano-1" "kano" 1, entry "lagos-3" "lagos" 5,
    entry "lagos-2" "lagos" 3, entry "kano-2" "kano" 4]
  nodup := by decide

/-- The two last entries are asked for. -/
def lastTwo : AuditHistoryQuery := { limit := some "2" }

/-- What the administrator of Lagos is shown. -/
def quietAnswer : AuditHistory where
  total := 3
  items := [entry "lagos-3" "lagos" 5, entry "lagos-2" "lagos" 3]
  filters := { action := none, organizationId := some "lagos", groupBy := none, limit := 2 }
  grouped := none

end Example

open Example in
/-- Of a log that goes into the window the two last entries are shown, and all are counted. -/
theorem quiet_history_complete : CompleteHistory quietLog lagosAdmin lastTwo quietAnswer := by
  have hanswer : getPlatformAuditHistory byCreatedAt quietLog lagosAdmin lastTwo =
      .ok quietAnswer := rfl
  have hlength : (selectedItems byCreatedAt quietLog lastTwo).length ≤ 200 := by decide +kernel
  refine (audit_history_complete_iff hanswer).mpr fun item hitem => ?_
  obtain ⟨hmem, hselected⟩ := List.mem_filter.mp hitem
  rw [Bool.and_eq_true] at hselected
  rw [List.take_of_length_le hlength, selectedItems, (byCreatedAt.perm _).mem_iff]
  exact List.mem_filter.mpr ⟨hmem, hselected.1⟩

open Example in
/-- Two hundred newer entries of another organization leave nothing of a history. -/
theorem history_pushed_out :
    ¬∀ (order : NewestFirst) (log : Table DemoAuditLog.id) (user : JwtUser)
      (query : AuditHistoryQuery) (answer : AuditHistory),
      getPlatformAuditHistory order log user query = .ok answer →
      CompleteHistory log user query answer := by
  intro h
  have hcomplete := h byCreatedAt busyLog lagosAdmin {} _ rfl
  have hselected : busyLog.rows.filter (selectsAction {}) = busyLog.rows :=
    List.filter_eq_self.mpr (by decide +kernel)
  have hlisted : selectedItems byCreatedAt busyLog {} = busyLog.rows := by
    rw [selectedItems, hselected, byCreatedAt_of_sorted busyLog_newestFirst]
  have hnone := (completeHistory_iff rfl).mp hcomplete
  have hwindow := hnone (entry "lagos-1" "lagos" 0) (List.mem_filter.mpr
    ⟨List.mem_append_right _ List.mem_cons_self, by decide +kernel⟩)
  rw [hlisted] at hwindow
  have hkano : busyLog.rows.take 200 = kanoEntries :=
    List.take_left' (by decide +kernel)
  rw [hkano] at hwindow
  obtain ⟨n, -, hentry⟩ := List.mem_map.mp hwindow
  exact absurd (congrArg DemoAuditLog.createdAt hentry) (by simp [entry])

end FixZone.PlatformConfigurationService
