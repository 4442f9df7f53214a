import FixZone.Auth.Profile
import FixZone.Library.Observed
import FixZone.Library.Window
import FixZone.Report.Model

/-!
# The notifications of a user

Other services add notifications, some of them only if the same text is not there already, and
`NotificationService` lists the newest fifty of a user, counts the unread ones, and marks them read.
Nobody reads or marks those of somebody else, so what a user sees after any run is what they would
see if nothing had happened but what concerns them (`inbox_isolated`).

The count is not bounded as the list is. Whoever opens everything in the list is left with the
unread notifications beyond it, and only `markAllRead` gets at those (`unread_beyond_list`).
-/

namespace FixZone.NotificationService

open Library ReportService

/-! ### Notifications -/

/-- What another service asks to be added, with the id that the database gives it. -/
structure Delivery where
  id : String
  userId : String
  reportId : Option String := none
  type : String
  title : String
  message : String
  createdAt : Millis

/-- A row of `Notification`. -/
structure NotificationRow extends Delivery where
  read : Bool := false

/-- `findFirst` of `createNotification`: the row tells its user the same. -/
def NotificationRow.tells (row : NotificationRow) (delivery : Delivery) : Bool :=
  row.userId = delivery.userId && row.reportId = delivery.reportId && row.type = delivery.type &&
    row.title = delivery.title && row.message = delivery.message

/-- `{ read: true }`. -/
def readData : Patch fun row : NotificationRow => row.id where
  apply row := { row with read := true }

/-- The notifications of all users. -/
abbrev Notifications := Table fun row : NotificationRow => row.id

/-- `markRead`: the row that is written. -/
def markRead (s : Notifications) (id : String) (user : JwtUser) :
    Except HttpError NotificationRow := do
  let existing ← orThrow (s.find? id) (notFound "Notification not found")
  throwIf (existing.userId ≠ user.getUserId) (forbidden "Access denied")
  return readData.apply existing

/-- What is asked of the notifications. -/
inductive Event where
  /-- `notification.create`. -/
  | create (delivery : Delivery)
  /-- `createNotification` of the report service. -/
  | createOnce (delivery : Delivery)
  | markRead (id : String) (user : JwtUser)
  | markAllRead (user : JwtUser)

/-- What a request leaves behind. -/
def step : Event → Notifications → Notifications
  | .create delivery, s => s.insert { toDelivery := delivery }
  | .createOnce delivery, s =>
    if s.rows.any (·.tells delivery) then s else s.insert { toDelivery := delivery }
  | .markRead id user, s =>
    match markRead s id user with
    | .ok _ => s.modify id readData
    | .error _ => s
  | .markAllRead user, s =>
    s.modifyWhere (fun row => row.userId = user.getUserId && !row.read) readData

/-! ### What is shown -/

/-- The columns of a report that a notification is shown with. -/
structure ReportColumns where
  id : String
  title : String
  status : ReportStatus
  category : String
  location : String

/-- What a request finds in other tables. -/
structure Surroundings where
  report? : String → Option ReportColumns
  profileData : String → Option Json

/-- `preferredLocaleFromProfile`. -/
def preferredLocaleFromProfile : Option Json → String
  | some (.obj fields) =>
    (AuthService.normalizeLocale ((Json.obj fields).field? "preferredLanguage")).getD "en"
  | _ => "en"

/-- `notificationKey`. -/
def notificationKey (type : String) : String :=
  let normalized := String.ofList
    (collapse isLowerAlnum '_' false (toLowerCase (trim type)).toList)
  if normalized = "" then "notification.general" else "notification." ++ normalized

/-- What `localizationContract` returns, without the texts that are always the same. -/
structure LocalizationContract where
  key : String
  fallbackTitle : String
  fallbackMessage : String
  report : Option ReportColumns

/-- An item of the list. -/
structure Item where
  notification : NotificationRow
  report : Option ReportColumns
  preferredLocale : String
  localization : LocalizationContract

/-- The rows of a user. -/
def ownRows (userId : String) (s : Notifications) : List NotificationRow :=
  s.rows.filter fun row => row.userId = userId

/-- An order in which the database lists notifications by `createdAt: 'desc'`. -/
abbrev NewestFirst := SortedOrder fun a b : NotificationRow => b.createdAt ≤ a.createdAt

/-- `listMine`. -/
def listMine (order : NewestFirst) (around : Surroundings) (s : Notifications) (user : JwtUser) :
    List Item :=
  ((order.list (ownRows user.getUserId s)).take 50).map fun row =>
    let report := row.reportId.bind around.report?
    { notification := row
      report
      preferredLocale := preferredLocaleFromProfile (around.profileData user.getUserId)
      localization :=
        { key := notificationKey row.type, fallbackTitle := row.title,
          fallbackMessage := row.message, report } }

/-- `unreadCount`. -/
def unreadCount (s : Notifications) (user : JwtUser) : ℕ :=
  s.rows.countP fun row => row.userId = user.getUserId && !row.read

/-! ### What a request does to the rows of a user -/

/-- A request adds a notification for the user, or is the user's own. -/
def concerns (userId : String) : Event → Bool
  | .create delivery | .createOnce delivery => delivery.userId = userId
  | .markRead _ user | .markAllRead user => user.getUserId = userId

/-- The delivery of an event. -/
def delivery? : Event → Option Delivery
  | .create delivery | .createOnce delivery => some delivery
  | .markRead _ _ | .markAllRead _ => none

/-- The ids of the deliveries that are still to come are new, and no two of them the same. -/
def FreshIds (s : Notifications) (events : List Event) : Prop :=
  (s.rows.map (·.id) ++ (events.filterMap delivery?).map (·.id)).Nodup

variable {s t : Notifications} {userId : String} {user : JwtUser}

theorem unreadCount_eq :
    unreadCount s user = (ownRows user.getUserId s).countP fun row => !row.read := by
  rw [unreadCount, ownRows, List.countP_filter]
  exact List.countP_congr fun row _ => by rw [Bool.and_comm]

theorem ownRows_insert {delivery : Delivery} (hfree : s.find? delivery.id = none) :
    ownRows userId (s.insert { toDelivery := delivery }) =
      ownRows userId s ++
        if delivery.userId = userId then [{ toDelivery := delivery }] else [] := by
  unfold ownRows
  rw [Table.rows_insert_of_free hfree, List.filter_append]
  split_ifs with hown <;> simp [hown]

theorem ownRows_modify (id : String) :
    ownRows userId (s.modify id readData) =
      (ownRows userId s).map (Table.patchAt id readData) := by
  unfold ownRows
  rw [Table.modify, List.filter_map]
  refine congrArg _ (List.filter_congr fun row _ => ?_)
  unfold Function.comp Table.patchAt
  split <;> rfl

theorem markRead_eq_ok {id : String} {row : NotificationRow} :
    markRead s id user = .ok row ↔ ∃ existing, s.find? id = some existing ∧
      existing.userId = user.getUserId ∧ readData.apply existing = row := by
  simp only [markRead, orThrow_bind_eq_ok, throwIf_bind_eq_ok, pure_eq_ok, ne_eq, not_not]

theorem mem_ownRows {row : NotificationRow} :
    row ∈ ownRows userId s ↔ row ∈ s.rows ∧ row.userId = userId := by
  rw [ownRows, List.mem_filter, decide_eq_true_eq]

/-- Marking a notification read does so among the rows of its user. -/
theorem ownRows_markRead_own (id : String) (user : JwtUser) (s : Notifications) :
    ownRows user.getUserId (step (.markRead id user) s) =
      (ownRows user.getUserId s).map (Table.patchAt id readData) := by
  rw [step]
  cases hmark : markRead s id user with
  | ok row => exact ownRows_modify id
  | error error =>
    -- Where the request is turned down, none of the user's rows has the id.
    have hkept : ∀ row ∈ ownRows user.getUserId s, Table.patchAt id readData row = row := by
      intro row hrow
      obtain ⟨hmem, hown⟩ := mem_ownRows.mp hrow
      refine if_neg fun hid => ?_
      have hfound : s.find? id = some row := hid ▸ Table.mem_rows_iff.mp hmem
      rw [markRead_eq_ok.mpr ⟨row, hfound, hown, rfl⟩] at hmark
      cases hmark
    rw [List.map_congr_left hkept, List.map_id']

theorem ownRows_markRead_other (h : user.getUserId ≠ userId) (id : String) :
    ownRows userId (step (.markRead id user) s) = ownRows userId s := by
  rw [step]
  cases hmark : markRead s id user with
  | error error => rfl
  | ok row =>
    obtain ⟨existing, hfound, hexisting, -⟩ := markRead_eq_ok.mp hmark
    have hkept : ∀ row ∈ ownRows userId s, Table.patchAt id readData row = row := by
      intro row hrow
      obtain ⟨hmem, hown⟩ := mem_ownRows.mp hrow
      refine if_neg fun hid => h ?_
      have hrow' : s.find? id = some row := hid ▸ Table.mem_rows_iff.mp hmem
      rw [hfound] at hrow'
      rw [← hexisting, Option.some.inj hrow', hown]
    refine (ownRows_modify id).trans ?_
    rw [List.map_congr_left hkept, List.map_id']

theorem ownRows_markAllRead (userId : String) (user : JwtUser) (s : Notifications) :
    ownRows userId (step (.markAllRead user) s) = (ownRows userId s).map fun row =>
      if row.userId = user.getUserId && !row.read then readData.apply row else row := by
  unfold ownRows
  rw [step, Table.modifyWhere, List.filter_map]
  refine congrArg _ (List.filter_congr fun row _ => ?_)
  dsimp only [Function.comp]
  split <;> rfl

theorem ownRows_markAllRead_other (h : user.getUserId ≠ userId) :
    ownRows userId (step (.markAllRead user) s) = ownRows userId s := by
  rw [ownRows_markAllRead]
  refine (List.map_congr_left fun row hrow => if_neg fun hother => h ?_).trans (List.map_id' _)
  rw [Bool.and_eq_true, decide_eq_true_eq] at hother
  exact hother.1.symm.trans (mem_ownRows.mp hrow).2

/-- Whether a text is there already is a matter of the rows of its user. -/
theorem any_tells (delivery : Delivery) (s : Notifications) :
    s.rows.any (·.tells delivery) = (ownRows delivery.userId s).any (·.tells delivery) := by
  rw [Bool.eq_iff_iff, List.any_eq_true, List.any_eq_true]
  refine exists_congr fun row => ?_
  rw [mem_ownRows, and_assoc]
  refine and_congr_right fun _ => (and_iff_right_of_imp fun htells => ?_).symm
  simp only [NotificationRow.tells, Bool.and_eq_true, decide_eq_true_eq] at htells
  exact htells.1.1.1.1

/-! ### New ids -/

theorem FreshIds.skip {event : Event} {events : List Event} (h : FreshIds s (event :: events)) :
    FreshIds s events := by
  refine h.sublist (List.Sublist.append_left (List.Sublist.map _ ?_) _)
  exact (List.sublist_cons_self _ _).filterMap _

theorem FreshIds.insert {event : Event} {events : List Event} {delivery : Delivery}
    (h : FreshIds s (event :: events)) (hevent : delivery? event = some delivery) :
    s.find? delivery.id = none ∧ FreshIds (s.insert { toDelivery := delivery }) events := by
  unfold FreshIds at h
  rw [List.filterMap_cons_some hevent, List.map_cons] at h
  have hfree : s.find? delivery.id = none := by
    rw [Table.find?_eq_none_iff]
    intro hmem
    exact (List.nodup_append.mp h).2.2 _ hmem _ List.mem_cons_self rfl
  refine ⟨hfree, ?_⟩
  unfold FreshIds
  rw [Table.rows_insert_of_free hfree, List.map_append, List.append_assoc]
  exact h

theorem FreshIds.step {event : Event} {events : List Event} (h : FreshIds s (event :: events)) :
    FreshIds (step event s) events := by
  cases event with
  | create delivery => exact (h.insert rfl).2
  | createOnce delivery =>
    rw [NotificationService.step]
    split
    · exact h.skip
    · exact (h.insert rfl).2
  | markRead id user =>
    have hids : (NotificationService.step (.markRead id user) s).rows.map (·.id) =
        s.rows.map (·.id) := by
      rw [NotificationService.step]
      split
      · rw [Table.modify, List.map_map]
        exact List.map_congr_left fun row _ => Table.key_patchAt id readData row
      · rfl
    unfold FreshIds
    rw [hids]
    exact h
  | markAllRead user =>
    have hids : (NotificationService.step (.markAllRead user) s).rows.map (·.id) =
        s.rows.map (·.id) := by
      rw [NotificationService.step, Table.modifyWhere, List.map_map]
      refine List.map_congr_left fun row _ => ?_
      dsimp only [Function.comp]
      split <;> rfl
    unfold FreshIds
    rw [hids]
    exact h

/-! ### One step -/

/-- What concerns a user does the same to equal rows of the user. -/
theorem ownRows_step_congr {event : Event} {events : List Event}
    (hconcerns : concerns userId event = true) (hrows : ownRows userId s = ownRows userId t)
    (hs : FreshIds s (event :: events)) (ht : FreshIds t (event :: events)) :
    ownRows userId (step event s) = ownRows userId (step event t) := by
  cases event with
  | create delivery =>
    rw [step, step, ownRows_insert (hs.insert rfl).1, ownRows_insert (ht.insert rfl).1, hrows]
  | createOnce delivery =>
    obtain rfl : delivery.userId = userId := decide_eq_true_eq.mp hconcerns
    have hsame : s.rows.any (·.tells delivery) = t.rows.any (·.tells delivery) := by
      rw [any_tells, any_tells, hrows]
    rw [step, step, hsame]
    split
    · exact hrows
    · rw [ownRows_insert (hs.insert rfl).1, ownRows_insert (ht.insert rfl).1, hrows]
  | markRead id user =>
    obtain rfl : user.getUserId = userId := decide_eq_true_eq.mp hconcerns
    rw [ownRows_markRead_own, ownRows_markRead_own, hrows]
  | markAllRead user => rw [ownRows_markAllRead, ownRows_markAllRead, hrows]

/-- What does not concern a user leaves the user's rows. -/
theorem ownRows_step_other {event : Event} {events : List Event}
    (hother : concerns userId event = false) (hs : FreshIds s (event :: events)) :
    ownRows userId (step event s) = ownRows userId s := by
  cases event with
  | create delivery =>
    rw [step, ownRows_insert (hs.insert rfl).1, if_neg (of_decide_eq_false hother),
      List.append_nil]
  | createOnce delivery =>
    rw [step]
    split
    · rfl
    · rw [ownRows_insert (hs.insert rfl).1, if_neg (of_decide_eq_false hother), List.append_nil]
  | markRead id user => exact ownRows_markRead_other (of_decide_eq_false hother) id
  | markAllRead user => exact ownRows_markAllRead_other (of_decide_eq_false hother)

/-- **A user's own inbox.** After every run, the list and the count of a user are those after the
events alone that concern the user. -/
theorem inbox_isolated (order : NewestFirst) (around : Surroundings) (user : JwtUser)
    {events : List Event} (hfresh : FreshIds s events) :
    let own := events.filter (concerns user.getUserId)
    listMine order around (run step s events) user =
        listMine order around (run step s own) user ∧
      unreadCount (run step s events) user = unreadCount (run step s own) user := by
  intro own
  have hrows : ownRows user.getUserId (run step s events) =
      ownRows user.getUserId (run step s own) := by
    have hrelated := run_filter step (concerns user.getUserId)
      (R := fun s t events => ownRows user.getUserId s = ownRows user.getUserId t ∧
        FreshIds s events ∧ FreshIds t events)
      (fun s t event events hconcerns h => ⟨ownRows_step_congr hconcerns h.1 h.2.1 h.2.2,
        h.2.1.step, h.2.2.step⟩)
      (fun s t event events hother h => ⟨(ownRows_step_other hother h.2.1).trans h.1, h.2.1.step,
        h.2.2.skip⟩)
      ⟨rfl, hfresh, hfresh⟩
    exact hrelated.1
  refine ⟨?_, by rw [unreadCount_eq, unreadCount_eq, hrows]⟩
  unfold listMine
  rw [hrows]

/-! ### The count and the list -/

/-- A row after those with the ids have been marked read. -/
def readAmong (ids : List String) (row : NotificationRow) : NotificationRow :=
  if row.id ∈ ids then readData.apply row else row

/-- Marking notifications read one after another. -/
theorem ownRows_markRead_run (ids : List String) (user : JwtUser) (s : Notifications) :
    ownRows user.getUserId (run step s (ids.map fun id => .markRead id user)) =
      (ownRows user.getUserId s).map (readAmong ids) := by
  induction ids generalizing s with
  | nil =>
    have hnone : readAmong [] = id := funext fun row => if_neg List.not_mem_nil
    rw [hnone, List.map_id]
    rfl
  | cons id ids ih =>
    rw [List.map_cons, run_cons, ih, ownRows_markRead_own, List.map_map]
    refine List.map_congr_left fun row _ => ?_
    by_cases hid : row.id = id
    · have hread : Table.patchAt id readData row = readData.apply row := if_pos hid
      have hmem : row.id ∈ id :: ids := hid ▸ List.mem_cons_self
      calc readAmong ids (Table.patchAt id readData row)
          = readAmong ids (readData.apply row) := by rw [hread]
        _ = readData.apply row := ite_self _
        _ = readAmong (id :: ids) row := (if_pos hmem).symm
    · have hkept : Table.patchAt id readData row = row := if_neg hid
      rw [Function.comp, hkept, readAmong, readAmong]
      exact if_congr (by rw [List.mem_cons, or_iff_right hid]) rfl rfl

theorem nodup_list (order : NewestFirst) (userId : String) (s : Notifications) :
    ((order.list (ownRows userId s)).map (·.id)).Nodup := by
  have hown : ((ownRows userId s).map (·.id)).Nodup :=
    s.nodup.sublist (List.filter_sublist.map _)
  exact ((order.perm _).map _).nodup_iff.mpr hown

/-- **The count beyond the list.** A user who opens everything in the list is left with the unread
notifications beyond the newest fifty; marking all of them read leaves none. -/
theorem unread_beyond_list (order : NewestFirst) (around : Surroundings) (s : Notifications)
    (user : JwtUser) :
    let opened := (listMine order around s user).map fun item =>
      Event.markRead item.notification.id user
    unreadCount (run step s opened) user =
        ((order.list (ownRows user.getUserId s)).drop 50).countP (fun row => !row.read) ∧
      unreadCount (step (.markAllRead user) s) user = 0 := by
  intro opened
  constructor
  · let shown := (order.list (ownRows user.getUserId s)).take 50
    let rest := (order.list (ownRows user.getUserId s)).drop 50
    have hopened : opened = (shown.map (·.id)).map fun id => Event.markRead id user := by
      rw [List.map_map]
      exact List.map_map
    have hnodup := nodup_list order user.getUserId s
    rw [← List.take_append_drop 50 (order.list (ownRows user.getUserId s)), List.map_append,
      List.nodup_append] at hnodup
    -- What is shown is read afterwards, and nothing else is.
    have hshown : shown.countP (fun row => !(readAmong (shown.map (·.id)) row).read) = 0 := by
      refine List.countP_eq_zero.mpr fun row hrow => ?_
      rw [readAmong, if_pos (List.mem_map_of_mem hrow)]
      exact Bool.noConfusion
    have hrest : rest.countP (fun row => !(readAmong (shown.map (·.id)) row).read) =
        rest.countP fun row => !row.read := by
      refine List.countP_congr fun row hrow => ?_
      rw [readAmong, if_neg fun hmem => hnodup.2.2 _ hmem _ (List.mem_map_of_mem hrow) rfl]
    calc unreadCount (run step s opened) user
        = (ownRows user.getUserId s).countP fun row =>
            !(readAmong (shown.map (·.id)) row).read := by
          rw [unreadCount_eq, hopened, ownRows_markRead_run, List.countP_map]
          rfl
      _ = (shown ++ rest).countP fun row => !(readAmong (shown.map (·.id)) row).read := by
          rw [List.take_append_drop]
          exact (order.perm _).symm.countP_eq _
      _ = rest.countP fun row => !row.read := by
          rw [List.countP_append, hshown, hrest, Nat.zero_add]
  · rw [unreadCount_eq, ownRows_markAllRead, List.countP_map]
    refine List.countP_eq_zero.mpr fun row hrow => ?_
    have hown := (mem_ownRows.mp hrow).2
    dsimp only [Function.comp]
    cases hread : row.read with
    | true => simp [hread]
    | false => simp [hown, readData]

namespace Example

def amaka : JwtUser := { id := "amaka", role := .citizen }

def bello : JwtUser := { id := "bello", role := .citizen }

/-- A notification of a report. -/
def assigned (id userId : String) : Delivery :=
  { id, userId, reportId := some "report", type := "report_assigned", title := "Report assigned",
    message := "A provider was assigned.", createdAt := 0 }

instance : Std.Total fun a b : NotificationRow => b.createdAt ≤ a.createdAt :=
  ⟨fun a b => le_total b.createdAt a.createdAt⟩

instance : IsTrans NotificationRow fun a b => b.createdAt ≤ a.createdAt :=
  ⟨fun _ _ _ hab hbc => le_trans hbc hab⟩

/-- One user marks the notification of another, and then their own. -/
def twoUsers : List Event :=
  [.createOnce (assigned "n1" "amaka"), .createOnce (assigned "n2" "bello"),
    .createOnce (assigned "n3" "amaka"), .markRead "n1" bello, .markRead "n2" bello]

end Example

open Example in
theorem inbox_isolated_amaka : FreshIds (Table.empty _) twoUsers ∧
    unreadCount (run step (Table.empty _) twoUsers) amaka = 1 ∧
      unreadCount (run step (Table.empty _) twoUsers) amaka =
        unreadCount (run step (Table.empty _) (twoUsers.filter (concerns "amaka"))) amaka :=
  have hfresh : FreshIds (Table.empty _) twoUsers := by
    unfold FreshIds
    decide
  ⟨hfresh, by decide +kernel,
    (inbox_isolated (.stable _) ⟨fun _ => none, fun _ => none⟩ amaka hfresh).2⟩

end FixZone.NotificationService
