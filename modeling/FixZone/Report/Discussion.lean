import FixZone.Library.Window
import FixZone.Report.CompletionNotices
import Mathlib.Algebra.Order.BigOperators.Group.List

/-!
# The discussion of a report

Whoever may open a report may read its discussion, and write to it until the report is closed.
`createReportMessage` stores what is left of a message without control characters, and notifies the
citizen, the provider and operators of the organization; `getReportMessages` gives the first
hundred messages. So what is shown are the messages that were accepted, in the order in which they
were sent, up to the hundredth: a later one is stored and notified of, but shown to nobody
(`discussion_shown`). Messages of one instant come in the order in which the database lists them.
-/

namespace FixZone.ReportService

open Library Organization

/-- A row of `ReportMessage`. -/
structure StoredMessage where
  createdAt : Millis
  content : ReportMessage

/-- What the service has stored, with the messages. -/
structure Forum where
  store : Store
  messages : List StoredMessage

/-- What an operation does to the messages. -/
def discuss (cfg : Config) (operation : Operation) (f : Forum) : Forum where
  store := operate cfg operation f.store
  messages :=
    match operation with
    | .request _ => f.messages
    | .message env user reportId text =>
      match createReportMessage env f.store reportId text user with
      | .error _ => f.messages
      | .ok (message, _) => f.messages ++ [⟨env.now, message⟩]

/-- An order in which the database lists messages by `createdAt: 'asc'`. -/
abbrev OldestFirst := SortedOrder fun a b : StoredMessage => a.createdAt ≤ b.createdAt

/-- `getReportMessages`. -/
def getReportMessages (order : OldestFirst) (f : Forum) (reportId : String) (user : JwtUser) :
    Except HttpError (List StoredMessage) := do
  let _ ← getReportById f.store reportId user
  return (order.list (f.messages.filter fun row => row.content.reportId = reportId)).take 100

/-! ### What is accepted -/

/-- A message that is accepted, with what the service found when it was sent. -/
structure Post where
  env : Env
  store : Store
  user : JwtUser
  text : Option String
  message : ReportMessage

/-- The row of a post. -/
def Post.row (post : Post) : StoredMessage := ⟨post.env.now, post.message⟩

/-- The post that an operation makes to the discussion of a report, if it makes one. -/
def post? (id : String) (s : Store) : Operation → Option Post
  | .request _ => none
  | .message env user reportId text =>
    match createReportMessage env s reportId text user with
    | .error _ => none
    | .ok (message, _) => if reportId = id then some ⟨env, s, user, text, message⟩ else none

/-- The posts of a run. -/
def posts (cfg : Config) (id : String) : Store → List Operation → List Post
  | _, [] => []
  | s, operation :: operations =>
    (post? id s operation).toList ++ posts cfg id (operate cfg operation s) operations

/-- The time of a message that is sent. -/
def sentAt? : Operation → Option Millis
  | .request _ => none
  | .message env _ _ _ => some env.now

/-- The notification of a participant. -/
def messageNotice (title reportId message userId : String) : Notification where
  userId := userId
  reportId := reportId
  type := "REPORT_DISCUSSION_MESSAGE"
  title := "New report discussion message"
  message := quoted title ++ ": " ++ String.ofList (sliceUtf16 140 message.toList)

/-- A post is that of a user who can open the report while it is not closed. Its message has no
control characters and at most 1200 characters, and its participants are notified of it. -/
structure Post.Accepted (id : String) (post : Post) (notifications : List Notification) : Prop where
  report : ∃ report, getReportById post.store id post.user = .ok report ∧ report.status ≠ .closed ∧
    post.message =
      { reportId := id, organizationId := report.organizationId, authorId := post.user.id
        authorRole := post.user.role, authorName := post.user.fullName
        message := safeMessage (trimmed post.text) } ∧
    ∀ userId ∈ messageParticipants post.env report post.user.id,
      messageNotice report.title id post.message.message userId ∈ notifications
  clean : ∀ c ∈ post.message.message.toList, 0x1F < c.toNat ∧ c.toNat ≠ 0x7F
  short : (post.message.message.toList.map utf16Units).sum ≤ 1200

variable {cfg : Config} {env : Env} {s : Store} {user : JwtUser} {id : String}

theorem createReportMessage_eq_ok {reportId : String} {text : Option String}
    {result : ReportMessage × List Action} :
    createReportMessage env s reportId text user = .ok result ↔
      trimmed text ≠ "" ∧ ((trimmed text).toList.map utf16Units).sum ≤ 1200 ∧
        ∃ report, getReportById s reportId user = .ok report ∧ report.status ≠ .closed ∧
          ({ reportId, organizationId := report.organizationId, authorId := user.getUserId,
             authorRole := user.role, authorName := user.fullName,
             message := safeMessage (trimmed text) },
            [.emit (messageEffects env user (safeMessage (trimmed text)) report)]) = result := by
  simp only [createReportMessage, throwIf_bind_eq_ok, bind_eq_ok (x := getReportById _ _ _),
    pure_eq_ok, not_lt]

theorem post?_of_error {reportId : String} {text : Option String} {error : HttpError}
    (h : createReportMessage env s reportId text user = .error error) :
    post? id s (.message env user reportId text) = none := by
  rw [post?, h]

theorem post?_of_ok {reportId : String} {text : Option String}
    {created : ReportMessage × List Action}
    (h : createReportMessage env s reportId text user = .ok created) :
    post? id s (.message env user reportId text) =
      if reportId = id then some ⟨env, s, user, text, created.1⟩ else none := by
  rw [post?, h]

/-- What is stored of a message has none of the characters that are taken out, and is not longer
than what was sent. -/
theorem safeMessage_spec (text : String) :
    (∀ c ∈ (safeMessage text).toList, 0x1F < c.toNat ∧ c.toNat ≠ 0x7F) ∧
      ((safeMessage text).toList.map utf16Units).sum ≤ (text.toList.map utf16Units).sum := by
  let shown (c : Char) : Char := if c.toNat ≤ 0x1F ∨ c.toNat = 0x7F then ' ' else c
  have hsublist : (safeMessage text).toList.Sublist (text.toList.map shown) := by
    rw [safeMessage, trim, String.toList_ofList, String.toList_ofList]
    exact strip_sublist _ _
  have hunits : ∀ c, utf16Units (shown c) = utf16Units c := by
    intro c
    dsimp only [shown]
    split
    · next hcontrol =>
      have hsmall : c.val < 0x10000 := by
        rw [UInt32.lt_iff_toNat_lt]
        change c.toNat < 65536
        omega
      rw [utf16Units, utf16Units, if_pos (by decide), if_pos hsmall]
    · rfl
  constructor
  · intro c hc
    obtain ⟨d, -, rfl⟩ := List.mem_map.mp (hsublist.subset hc)
    dsimp only [shown]
    split
    · decide
    · next hplain => omega
  · calc ((safeMessage text).toList.map utf16Units).sum
        ≤ ((text.toList.map shown).map utf16Units).sum :=
          (hsublist.map utf16Units).sum_le_sum fun _ _ => Nat.zero_le _
      _ = (text.toList.map utf16Units).sum := by
          rw [List.map_map]
          exact congrArg List.sum (List.map_congr_left fun c _ => hunits c)

/-! ### Notifications -/

/-- No operation takes a notification away. -/
theorem operate_keepsNotices (cfg : Config) (operation : Operation) (s : Store) :
    KeepsNotices s (operate cfg operation s) := by
  cases operation with
  | request event => exact step_keepsNotices cfg event s
  | message env user reportId text =>
    rw [operate]
    cases (createReportMessage env s reportId text user).map (·.2) with
    | error e => exact .refl s
    | ok actions => exact performAll_keepsNotices env actions s

theorem run_operate_keepsNotices (cfg : Config) (s : Store) (operations : List Operation) :
    KeepsNotices s (run (operate cfg) s operations) :=
  run_inv (I := KeepsNotices s) (Q := fun _ => True)
    (fun t operation h _ => h.trans (operate_keepsNotices cfg operation t)) (.refl s)
    fun _ _ => trivial

/-- The participants are notified of a message. -/
theorem notified_of_message {message : String} {report : Report} {userId : String}
    (huser : userId ∈ messageParticipants env report user.id) :
    messageNotice report.title report.id message userId ∈
      (commit env s
        (.ok [.emit (messageEffects env user message report)])).store.notifications := by
  let notices : List Effect := (messageParticipants env report user.id).map fun userId =>
    .notification (messageNotice report.title report.id message userId)
  let activity : ReportActivity :=
    { recordReportActivity user report.id report.organizationId "REPORT_DISCUSSION_MESSAGE" with
      note := some (String.ofList (sliceUtf16 240 message.toList)) }
  have hnotices : ∀ effect ∈ notices, effect.isNotice := by
    intro effect heffect
    obtain ⟨userId, -, rfl⟩ := List.mem_map.mp heffect
    rfl
  have hrest : ∀ t, (performEffects env [] t).store.notifications = t.notifications :=
    fun _ => rfl
  have hadds := addsNotices_performEffects hnotices hrest
    { s with activities := s.activities ++ [activity] }
  have hstore : (commit env s (.ok [.emit (messageEffects env user message report)])).store =
      (performEffects env (notices ++ [])
        { s with activities := s.activities ++ [activity] }).store := by
    rw [List.append_nil]
    change ((performEffects env notices
      { s with activities := s.activities ++ [activity] }).andThen (performAll env [])).store = _
    exact andThen_store (P := (· = _)) rfl rfl
  rw [hstore]
  refine hadds.mem (List.mem_flatMap.mpr ⟨_, List.mem_map.mpr ⟨userId, huser, rfl⟩, ?_⟩)
  exact List.mem_singleton.mpr rfl

/-! ### One operation -/

/-- A message that is accepted meets what a post promises, and goes on to do so. -/
theorem accepted_of_post? {operation : Operation} {post : Post}
    (h : post? id s operation = some post) {notifications : List Notification}
    (hkept : (operate cfg operation s).notifications ⊆ notifications) :
    post.Accepted id notifications := by
  cases operation with
  | request event => cases h
  | message env user reportId text =>
    cases hcreated : createReportMessage env s reportId text user with
    | error e => rw [post?_of_error hcreated] at h; cases h
    | ok created =>
      obtain ⟨message, actions⟩ := created
      rw [post?_of_ok hcreated] at h
      split_ifs at h with hid
      obtain rfl := Option.some_inj.mp h
      subst hid
      have hoperate : operate cfg (.message env user reportId text) s =
          (commit env s (.ok actions)).store := by
        rw [operate, hcreated]
        rfl
      rw [hoperate] at hkept
      obtain ⟨-, hshort, report, hopen, hstatus, hresult⟩ := createReportMessage_eq_ok.mp hcreated
      obtain ⟨rfl, rfl⟩ := Prod.mk.injEq .. ▸ hresult
      have hspec := safeMessage_spec (trimmed text)
      refine ⟨⟨report, hopen, hstatus, rfl, fun userId huser => hkept ?_⟩, hspec.1,
        hspec.2.trans hshort⟩
      have hkey : report.id = reportId := id_of_report? (getReportById_eq_ok.mp hopen).1
      rw [← hkey]
      exact notified_of_message huser

/-- An operation adds to the discussion the post that it makes. -/
theorem discuss_messages (cfg : Config) (id : String) (operation : Operation) (f : Forum) :
    (discuss cfg operation f).messages.filter (fun row => row.content.reportId = id) =
      f.messages.filter (fun row => row.content.reportId = id) ++
        (post? id f.store operation).toList.map Post.row := by
  cases operation with
  | request event => exact (List.append_nil _).symm
  | message env user reportId text =>
    cases hcreated : createReportMessage env f.store reportId text user with
    | error e =>
      rw [post?_of_error hcreated, discuss, hcreated]
      exact (List.append_nil _).symm
    | ok created =>
      obtain ⟨message, actions⟩ := created
      rw [post?_of_ok hcreated, discuss, hcreated]
      obtain ⟨-, -, report, -, -, hresult⟩ := createReportMessage_eq_ok.mp hcreated
      have hreport : message.reportId = reportId := congrArg (·.1.reportId) hresult.symm
      rw [List.filter_append]
      by_cases hid : reportId = id
      · simp [hreport, hid, Post.row]
      · simp [hreport, hid]

/-- A post is made at the time of its message. -/
theorem post?_time {operation : Operation} :
    ((post? id s operation).toList.map (·.row.createdAt)).Sublist
      (sentAt? operation).toList := by
  cases operation with
  | request event => exact List.Sublist.refl _
  | message env user reportId text =>
    cases hcreated : createReportMessage env s reportId text user with
    | error e =>
      rw [post?_of_error hcreated]
      exact List.nil_sublist _
    | ok created =>
      rw [post?_of_ok hcreated]
      split_ifs
      · exact List.Sublist.refl _
      · exact List.nil_sublist _

/-! ### Runs -/

theorem run_discuss_store (cfg : Config) (f : Forum) (operations : List Operation) :
    (run (discuss cfg) f operations).store = run (operate cfg) f.store operations := by
  induction operations generalizing f with
  | nil => rfl
  | cons operation operations ih => exact ih (discuss cfg operation f)

/-- The rows of a discussion after a run are those before it, and the posts of the run. -/
theorem run_discuss_messages (cfg : Config) (id : String) (f : Forum)
    (operations : List Operation) :
    (run (discuss cfg) f operations).messages.filter (fun row => row.content.reportId = id) =
      f.messages.filter (fun row => row.content.reportId = id) ++
        (posts cfg id f.store operations).map Post.row := by
  induction operations generalizing f with
  | nil => exact (List.append_nil _).symm
  | cons operation operations ih =>
    have hrest := ih (discuss cfg operation f)
    rw [discuss_messages, List.append_assoc, ← List.map_append] at hrest
    exact hrest

/-- The posts of a run are made at times of its messages, in their order. -/
theorem posts_times (cfg : Config) (id : String) (s : Store) (operations : List Operation) :
    ((posts cfg id s operations).map (·.row.createdAt)).Sublist (operations.filterMap sentAt?) := by
  induction operations generalizing s with
  | nil => exact List.Sublist.refl _
  | cons operation operations ih =>
    have hcons : (operation :: operations).filterMap sentAt? =
        (sentAt? operation).toList ++ operations.filterMap sentAt? := by
      cases hsent : sentAt? operation <;> simp [hsent]
    rw [posts, List.map_append, hcons]
    exact post?_time.append (ih _)

theorem accepted_of_mem_posts (cfg : Config) (id : String) (s : Store)
    (operations : List Operation) :
    ∀ post ∈ posts cfg id s operations,
      post.Accepted id (run (operate cfg) s operations).notifications := by
  induction operations generalizing s with
  | nil => exact fun _ hpost => absurd hpost List.not_mem_nil
  | cons operation operations ih =>
    intro post hpost
    rw [posts, List.mem_append, Option.mem_toList] at hpost
    obtain hhere | hlater := hpost
    · exact accepted_of_post? hhere (run_operate_keepsNotices cfg _ operations)
    · exact ih _ post hlater

/-- **A discussion shows its first hundred messages.** After every run of requests and messages
whoever may open a report is given the first hundred of the messages of it that were accepted, by
the times at which they were sent: these very messages in their order, up to the hundredth, where
no two were sent at one time. Each of them, shown or not, was written by someone who could open the
report while it was not closed, and its participants still have the notification of it. -/
theorem discussion_shown (order : OldestFirst) (cfg : Config) (id : String) (s : Store)
    (operations : List Operation) (reader : JwtUser) :
    let sent := (posts cfg id s operations).map Post.row
    (∃ shown, Leads (fun a b => a.createdAt ≤ b.createdAt) 100 sent shown ∧
      ((operations.filterMap sentAt?).Pairwise (· < ·) → shown = sent.take 100) ∧
      getReportMessages order (run (discuss cfg) ⟨s, []⟩ operations) id reader =
        (getReportById (run (operate cfg) s operations) id reader).map fun _ => shown) ∧
      ∀ post ∈ posts cfg id s operations,
        post.Accepted id (run (operate cfg) s operations).notifications := by
  intro sent
  refine ⟨⟨(order.list sent).take 100, order.leads_take 100 sent, fun hclock => ?_, ?_⟩,
    accepted_of_mem_posts cfg id s operations⟩
  · have hsent : (sent.map (·.createdAt)).Pairwise (· < ·) := by
      rw [List.map_map]
      exact hclock.sublist (posts_times cfg id s operations)
    have hdistinct := List.inj_on_of_nodup_map (hsent.imp ne_of_lt)
    rw [order.list_eq ((List.pairwise_map.mp hsent).imp le_of_lt) fun a ha b hb hab hba =>
      hdistinct ha hb (le_antisymm hab hba)]
  · have hrows := run_discuss_messages cfg id ⟨s, []⟩ operations
    rw [List.filter_nil, List.nil_append] at hrows
    unfold getReportMessages
    rw [run_discuss_store, hrows]
    cases getReportById (run (operate cfg) s operations) id reader <;> rfl

namespace Example

/-- The citizen asks for news of a dispatched report, and the organization answers. -/
def conversed : List Operation :=
  dispatched.map .request ++
    [.message (surroundings 4) citizen "report" (some "Any news?"),
      .message (surroundings 5) provider "report" (some " "),
      .message (surroundings 6) orgAdmin "report" (some "A crew is on its way")]

instance : Std.Total fun a b : StoredMessage => a.createdAt ≤ b.createdAt :=
  ⟨fun a b => le_total a.createdAt b.createdAt⟩

instance : IsTrans StoredMessage fun a b => a.createdAt ≤ b.createdAt :=
  ⟨fun _ _ _ => le_trans⟩

end Example

open Example in
theorem discussion_shown_conversed :
    (posts {} "report" Store.empty conversed).map (·.message.message) =
        ["Any news?", "A crew is on its way"] ∧
      getReportMessages (.stable _) (run (discuss {}) ⟨Store.empty, []⟩ conversed) "report"
          citizen =
        (getReportById (run (operate {}) Store.empty conversed) "report" citizen).map
          (fun _ => ((posts {} "report" Store.empty conversed).map Post.row).take 100) := by
  obtain ⟨⟨shown, -, hsent, hmessages⟩, -⟩ :=
    discussion_shown (.stable _) {} "report" Store.empty conversed citizen
  have hshown := hsent (by decide +kernel)
  rw [hshown] at hmessages
  exact ⟨by decide +kernel, hmessages⟩

end FixZone.ReportService
