import FixZone.Library.Grouping
import FixZone.Library.Numbering
import FixZone.Library.ReadModifyWrite
import FixZone.Report.History
import Mathlib.Algebra.Order.BigOperators.Group.List
import Mathlib.Data.Nat.Digits.Defs

/-!
# Visitor analytics

The page views of the public site are counted in one value of the platform settings, a JSON object
with the views in all and, for each of the last days, the views and the sessions. A request reads
the value, counts its view, and writes the value back; nothing keeps another request from doing the
same in between. So the summary shows at most the views that were recorded, and all of them exactly
when no request wrote between the read and the write of another. Whatever was lost, it never shows
more sessions than views of a day, or more views of a day than in all (`visitor_summary_sound`).
-/

namespace FixZone.PublicMetricsService

open Library Grouping
open ReportService (sliceUtf16)

/-! ### The value -/

/-- A row of `daily`, with its date. -/
structure DailyVisits where
  date : String
  pageViews : ℕ := 0
  sessionIds : List String := []

/-- `VisitorAnalyticsStore`. -/
structure VisitorAnalyticsStore where
  totalPageViews : ℕ
  daily : List DailyVisits
  lastUpdatedAt : Option String

/-- What a step finds outside the database: the clock, and a random text for each session id that
has to be made up. -/
structure Surroundings where
  now : ℤ
  /-- For the place of a session id in the list of a date. -/
  random : String → ℕ → String
  /-- For the session of the request. -/
  ownRandom : String

/-- `n.toString(36)`. -/
def base36 (n : ℕ) : String :=
  if n = 0 then "0"
  else String.ofList ((Nat.digits 36 n).reverse.map fun d =>
    if d < 10 then Char.ofNat (48 + d) else Char.ofNat (87 + d))

/-- `SESSION_ID_PATTERN`. -/
def isSessionId (text : String) : Bool :=
  16 ≤ text.toList.length && text.toList.length ≤ 80 &&
    text.toList.all fun c => c.isAlphanum || c = '_' || c = '-'

/-- `safeSessionId`. -/
def safeSessionId (env : Surroundings) (random : String) (value : Option Json) : String :=
  let text := match value with
    | some (.str text) => trim text
    | _ => ""
  if isSessionId text then text
  else "anon-" ++ base36 env.now.toNat ++ "-" ++ random

/-- `safePath`. -/
def safePath (value : Option Json) : String :=
  let text := match value with
    | some (.str text) => trim text
    | _ => "/"
  if text.toList.head? = some '/' then String.ofList (sliceUtf16 160 text.toList) else "/"

/-- `Math.floor` of a number that is not negative, by the text that `String(n)` gives for it. -/
def floorOf (text : List Char) : ℕ :=
  let mantissa := text.takeWhile (· ≠ 'e')
  let whole := mantissa.takeWhile (· ≠ '.')
  let places := (mantissa.dropWhile (· ≠ '.')).drop 1
  match text.dropWhile (· ≠ 'e') with
  | [] => Nat.ofDigitChars 10 whole 0
  | _ :: '+' :: exponent =>
    Nat.ofDigitChars 10 (whole ++ places) 0 *
      10 ^ (Nat.ofDigitChars 10 exponent 0 - places.length)
  | _ => 0

/-- `safeNumber`. -/
def safeNumber : Option Json → ℕ
  | some (.num text) => if text.toList.head? = some '-' then 0 else floorOf text.toList
  | _ => 0

/-- The pattern of a date. -/
def isDayKey (text : String) : Bool :=
  match text.toList with
  | [y₁, y₂, y₃, y₄, '-', m₁, m₂, '-', d₁, d₂] =>
    [y₁, y₂, y₃, y₄, m₁, m₂, d₁, d₂].all Char.isDigit
  | _ => false

/-- What `normalizeVisitorStore` makes of a row. -/
def normalizeRow (env : Surroundings) (date : String) (row : Json) : DailyVisits where
  date := date
  pageViews := safeNumber (row.field? "pageViews")
  sessionIds :=
    match row.field? "sessionIds" with
    | some (.arr ids) =>
      (ids.mapIdx fun i id => safeSessionId env (env.random date i) (some id)).filter (· ≠ "")
    | _ => []

/-- Set the row of a date. -/
def setRow (row : DailyVisits) (daily : List DailyVisits) : List DailyVisits :=
  changeBucket DailyVisits.date (fun date => { date }) row.date (fun _ => row) daily

/-- The loop of `normalizeVisitorStore`. -/
def normalizeDaily (env : Surroundings) (fields : List (String × Json)) : List DailyVisits :=
  fields.foldl (fun daily field =>
    if isDayKey field.1 && field.2.isObject then setRow (normalizeRow env field.1 field.2) daily
    else daily) []

/-- `normalizeVisitorStore`. The entries of an array are under no date. -/
def normalizeVisitorStore (env : Surroundings) (value : Option Json) : VisitorAnalyticsStore where
  totalPageViews := safeNumber (value.bind (·.field? "totalPageViews"))
  daily :=
    match value.bind (·.field? "daily") with
    | some (.obj fields) => normalizeDaily env fields
    | _ => []
  lastUpdatedAt :=
    match value.bind (·.field? "lastUpdatedAt") with
    | some (.str text) => some text
    | _ => none

/-- The JSON of a row. -/
def DailyVisits.toJson (row : DailyVisits) : Json :=
  .obj [("pageViews", .num (toString row.pageViews)),
    ("sessionIds", .arr (row.sessionIds.map .str))]

/-- The JSON that is written. -/
def VisitorAnalyticsStore.toJson (store : VisitorAnalyticsStore) : Json :=
  .obj [("totalPageViews", .num (toString store.totalPageViews)),
    ("daily", .obj (store.daily.map fun row => (row.date, row.toJson))),
    ("lastUpdatedAt", store.lastUpdatedAt.elim .null .str)]

/-- The date of an instant, as `todayKey` gives it. -/
def dayKey (now : ℤ) : String := String.ofList ((toISOString now).toList.take 10)

/-- `pruneVisitorStore`: the last thirty-one days are kept. -/
def pruneVisitorStore (now : ℤ) (store : VisitorAnalyticsStore) : VisitorAnalyticsStore :=
  { store with daily := store.daily.filter fun row => dayKey (now - 30 * 86400000) ≤ row.date }

/-! ### Requests -/

/-- What a visitor sends. -/
structure VisitorEvent where
  sessionId : Option Json := none
  path : Option Json := none

/-- What `recordVisitorEvent` makes of the row of the day. -/
def countVisit (sessionId : String) (row : DailyVisits) : DailyVisits :=
  { row with
    pageViews := row.pageViews + 1
    sessionIds :=
      if sessionId ∈ row.sessionIds then row.sessionIds else row.sessionIds ++ [sessionId] }

/-- What `recordVisitorEvent` makes of what it has read. -/
def recordVisit (env : Surroundings) (event : VisitorEvent) (value : Option Json) :
    VisitorAnalyticsStore :=
  let store := normalizeVisitorStore env value
  pruneVisitorStore env.now
    { totalPageViews := store.totalPageViews + 1
      daily := changeBucket DailyVisits.date (fun date => { date }) (dayKey env.now)
        (countVisit (safeSessionId env env.ownRandom event.sessionId)) store.daily
      lastUpdatedAt := some (toISOString env.now) }

/-- The row of a day, or an empty one. -/
def VisitorAnalyticsStore.row (store : VisitorAnalyticsStore) (date : String) : DailyVisits :=
  (store.daily.find? fun row => row.date = date).getD { date }

/-- What `recordVisitorEvent` returns. -/
structure RecordedView where
  path : String
  totalPageViews : ℕ
  todayPageViews : ℕ
  todaySessions : ℕ
  lastUpdatedAt : Option String

/-- `recordVisitorEvent`, which reads the setting and then writes it. -/
def recordVisitorEvent :
    Protocol (Option Json) VisitorEvent (Update VisitorEvent (Option Json)) Surroundings
      RecordedView :=
  readModifyWrite (fun env event value => some (recordVisit env event value).toJson)
    fun env event value =>
      let updated := recordVisit env event value
      let today := updated.row (dayKey env.now)
      { path := safePath event.path
        totalPageViews := updated.totalPageViews
        todayPageViews := today.pageViews
        todaySessions := today.sessionIds.length
        lastUpdatedAt := updated.lastUpdatedAt }

/-- What `getVisitorSummary` returns. -/
structure VisitorSummary where
  totalPageViews : ℕ
  todayPageViews : ℕ
  todaySessions : ℕ
  lastUpdatedAt : Option String

/-- `getVisitorSummary`. -/
def getVisitorSummary (env : Surroundings) (value : Option Json) : VisitorSummary :=
  let store := pruneVisitorStore env.now (normalizeVisitorStore env value)
  let today := store.row (dayKey env.now)
  { totalPageViews := store.totalPageViews
    todayPageViews := today.pageViews
    todaySessions := today.sessionIds.length
    lastUpdatedAt := store.lastUpdatedAt }

variable {env : Surroundings}

/-! ### Numbers that are read back -/

theorem floorOf_toDigits (n : ℕ) : floorOf (Nat.toDigits 10 n) = n := by
  have hplain (c : Char) (hc : c.isDigit = false) :
      ∀ d ∈ Nat.toDigits 10 n, decide (d ≠ c) = true := by
    intro d hd
    refine decide_eq_true fun hdc => ?_
    exact notMem_toDigits hc n (hdc ▸ hd)
  unfold floorOf
  dsimp only
  rw [List.takeWhile_eq_self_iff.mpr (hplain 'e' (by decide)),
    List.dropWhile_eq_nil_iff.mpr (hplain 'e' (by decide)),
    List.takeWhile_eq_self_iff.mpr (hplain '.' (by decide))]
  dsimp only
  exact Nat.ofDigitChars_ten_toDigits

theorem safeNumber_toString (n : ℕ) : safeNumber (some (.num (toString n))) = n := by
  have hsign : (Nat.toDigits 10 n).head? ≠ some '-' := fun h =>
    notMem_toDigits (by decide) n (List.mem_of_head? h)
  rw [safeNumber, toList_toString, if_neg hsign, floorOf_toDigits]

/-! ### Days -/

/-- No day has more sessions than views, and the views of the days are among those in all. -/
structure VisitorAnalyticsStore.Sound (store : VisitorAnalyticsStore) : Prop where
  sessions : ∀ row ∈ store.daily, row.sessionIds.length ≤ row.pageViews
  views : (store.daily.map (·.pageViews)).sum ≤ store.totalPageViews

/-- What is read of the days is read of a field each, and no more views than the fields have. -/
theorem normalizeDaily_spec (env : Surroundings) (fields : List (String × Json)) :
    (∀ row ∈ normalizeDaily env fields,
        ∃ field ∈ fields, row = normalizeRow env field.1 field.2) ∧
      ((normalizeDaily env fields).map (·.pageViews)).sum ≤
        (fields.map fun field => (normalizeRow env field.1 field.2).pageViews).sum := by
  induction fields using List.reverseRecOn with
  | nil => exact ⟨fun _ h => absurd h List.not_mem_nil, le_rfl⟩
  | append_singleton fields field ih =>
    obtain ⟨hrows, hsum⟩ := ih
    have hfold : normalizeDaily env (fields ++ [field]) =
        if isDayKey field.1 && field.2.isObject then
          setRow (normalizeRow env field.1 field.2) (normalizeDaily env fields)
        else normalizeDaily env fields := by
      rw [normalizeDaily, List.foldl_append]
      rfl
    have hlast : field ∈ fields ++ [field] := List.mem_append_right _ List.mem_cons_self
    have hearlier : ∀ row ∈ normalizeDaily env fields,
        ∃ field' ∈ fields ++ [field], row = normalizeRow env field'.1 field'.2 := by
      intro row hrow
      obtain ⟨field', hfield', hrow'⟩ := hrows row hrow
      exact ⟨field', List.mem_append_left _ hfield', hrow'⟩
    rw [hfold, List.map_append, List.sum_append, List.map_singleton, List.sum_singleton]
    split_ifs with hset
    · refine ⟨fun row hrow => ?_, ?_⟩
      · obtain hold | rfl | ⟨-, -, rfl⟩ := mem_changeBucket hrow
        · exact hearlier row hold
        · exact ⟨field, hlast, rfl⟩
        · exact ⟨field, hlast, rfl⟩
      · exact (sum_changeBucket_le (fun _ => le_rfl) _).trans (Nat.add_le_add_right hsum _)
    · exact ⟨hearlier, hsum.trans (Nat.le_add_right _ _)⟩

theorem normalizeRow_toJson (env : Surroundings) (row : DailyVisits) :
    (normalizeRow env row.date row.toJson).pageViews = row.pageViews ∧
      (normalizeRow env row.date row.toJson).sessionIds.length ≤ row.sessionIds.length := by
  refine ⟨safeNumber_toString row.pageViews, ?_⟩
  change (((row.sessionIds.map Json.str).mapIdx fun i id =>
    safeSessionId env (env.random row.date i) (some id)).filter (· ≠ "")).length ≤ _
  calc (((row.sessionIds.map Json.str).mapIdx fun i id =>
        safeSessionId env (env.random row.date i) (some id)).filter (· ≠ "")).length
      ≤ ((row.sessionIds.map Json.str).mapIdx fun i id =>
        safeSessionId env (env.random row.date i) (some id)).length := List.length_filter_le _ _
    _ = row.sessionIds.length := by rw [List.length_mapIdx, List.length_map]

theorem normalize_toJson_total (env : Surroundings) (store : VisitorAnalyticsStore) :
    (normalizeVisitorStore env (some store.toJson)).totalPageViews = store.totalPageViews :=
  safeNumber_toString store.totalPageViews

/-- What was sound when it was written is sound when it is read. -/
theorem VisitorAnalyticsStore.Sound.read {store : VisitorAnalyticsStore} (h : store.Sound)
    (env : Surroundings) : (normalizeVisitorStore env (some store.toJson)).Sound := by
  have hdaily : (normalizeVisitorStore env (some store.toJson)).daily =
      normalizeDaily env (store.daily.map fun row => (row.date, row.toJson)) := rfl
  obtain ⟨hrows, hsum⟩ :=
    normalizeDaily_spec env (store.daily.map fun row => (row.date, row.toJson))
  refine ⟨fun row hrow => ?_, ?_⟩
  · obtain ⟨field, hfield, rfl⟩ := hrows row (hdaily ▸ hrow)
    obtain ⟨stored, hstored, rfl⟩ := List.mem_map.mp hfield
    obtain ⟨hviews, hsessions⟩ := normalizeRow_toJson env stored
    exact hviews ▸ hsessions.trans (h.sessions stored hstored)
  · rw [normalize_toJson_total, hdaily]
    refine hsum.trans (le_of_eq_of_le ?_ h.views)
    rw [List.map_map]
    exact congrArg List.sum (List.map_congr_left fun row _ => (normalizeRow_toJson env row).1)

theorem VisitorAnalyticsStore.Sound.prune {store : VisitorAnalyticsStore} (h : store.Sound)
    (now : ℤ) : (pruneVisitorStore now store).Sound where
  sessions row hrow := h.sessions row (List.mem_of_mem_filter hrow)
  views := ((List.filter_sublist.map _).sum_le_sum fun _ _ => Nat.zero_le _).trans h.views

/-- Counting a view keeps the value sound. -/
theorem recordVisit_sound {value : Option Json} (h : (normalizeVisitorStore env value).Sound)
    (event : VisitorEvent) : (recordVisit env event value).Sound := by
  refine VisitorAnalyticsStore.Sound.prune ⟨fun row hrow => ?_, ?_⟩ env.now
  · have hcount (old : DailyVisits) (hold : old.sessionIds.length ≤ old.pageViews) :
        (countVisit (safeSessionId env env.ownRandom event.sessionId) old).sessionIds.length ≤
          old.pageViews + 1 := by
      unfold countVisit
      dsimp only
      split
      · omega
      · rw [List.length_append, List.length_singleton]
        omega
    obtain hold | rfl | ⟨old, hold, rfl⟩ := mem_changeBucket hrow
    · exact h.sessions row hold
    · exact hcount _ le_rfl
    · exact hcount old (h.sessions old hold)
  · have hadds (old : DailyVisits) :
        (countVisit (safeSessionId env env.ownRandom event.sessionId) old).pageViews =
          old.pageViews + 1 := rfl
    have hsum : ((changeBucket DailyVisits.date (fun date => { date }) (dayKey env.now)
        (countVisit (safeSessionId env env.ownRandom event.sessionId))
        (normalizeVisitorStore env value).daily).map DailyVisits.pageViews).sum =
          ((normalizeVisitorStore env value).daily.map DailyVisits.pageViews).sum + 1 :=
      sum_changeBucket hadds (by rfl) _
    exact hsum.trans_le (Nat.add_le_add_right h.views 1)

/-- What a summary shows of a sound value. -/
theorem summary_of_sound {value : Option Json} (h : (normalizeVisitorStore env value).Sound) :
    let summary := getVisitorSummary env value
    summary.todaySessions ≤ summary.todayPageViews ∧
      summary.todayPageViews ≤ summary.totalPageViews := by
  have hpruned := h.prune env.now
  intro summary
  change (VisitorAnalyticsStore.row _ _).sessionIds.length ≤
      (VisitorAnalyticsStore.row _ _).pageViews ∧ (VisitorAnalyticsStore.row _ _).pageViews ≤ _
  unfold VisitorAnalyticsStore.row
  cases hrow : (pruneVisitorStore env.now (normalizeVisitorStore env value)).daily.find?
      fun row => row.date = dayKey env.now with
  | none => exact ⟨le_rfl, Nat.zero_le _⟩
  | some row =>
    have hmem := List.mem_of_find?_eq_some hrow
    refine ⟨hpruned.sessions row hmem, ?_⟩
    exact (List.le_sum_of_mem (List.mem_map_of_mem hmem)).trans hpruned.views

/-! ### Interleavings -/

variable {ι : Type} [DecidableEq ι]

/-- How many views a run of requests records. -/
def recordedViews (turns : List (Turn ι VisitorEvent Surroundings)) : ℕ :=
  countAlong recordVisitorEvent.step isWrite (Calls.quiet none) turns

/-- **Views that are shown.** Before the first visit there is no setting. After every interleaving
of requests, a summary shows at most as many sessions as views of the day, at most as many of those
as in all, and at most as many in all as were recorded; and it shows all that were recorded exactly
when each write found what its request had read. -/
theorem visitor_summary_sound (env : Surroundings)
    (turns : List (Turn ι VisitorEvent Surroundings)) :
    let final := run recordVisitorEvent.step (Calls.quiet none) turns
    let summary := getVisitorSummary env final.state
    summary.todaySessions ≤ summary.todayPageViews ∧
      summary.todayPageViews ≤ summary.totalPageViews ∧
      summary.totalPageViews ≤ recordedViews turns ∧
      (summary.totalPageViews = recordedViews turns ↔
        Along recordVisitorEvent.step (Calls.StepMeets FindsSeen) (Calls.quiet none) turns) := by
  intro final summary
  have hsound : ∀ env, (normalizeVisitorStore env final.state).Sound := by
    refine readModifyWrite_keeps (P := fun value => ∀ env, (normalizeVisitorStore env value).Sound)
      (fun env event value h env' => (recordVisit_sound (h env) event).read env')
      (fun env => ⟨fun _ h => absurd h List.not_mem_nil, le_rfl⟩) turns
  obtain ⟨hsessions, htoday⟩ := summary_of_sound (hsound env)
  refine ⟨hsessions, htoday, ?_⟩
  let total (value : Option Json) : ℕ := safeNumber (value.bind (·.field? "totalPageViews"))
  have hchange (env : Surroundings) (event : VisitorEvent) (value : Option Json) :
      total (some (recordVisit env event value).toJson) = total value + 1 :=
    normalize_toJson_total env (recordVisit env event value)
  have htotal : total final.state ≤ total none + recordedViews turns ∧
      (total final.state = total none + recordedViews turns ↔ Along recordVisitorEvent.step
        (Calls.StepMeets FindsSeen) (Calls.quiet none) turns) :=
    total_eq_iff hchange none turns
  rwa [show total none = 0 from rfl, Nat.zero_add] at htotal

end FixZone.PublicMetricsService
