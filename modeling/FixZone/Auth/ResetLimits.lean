import FixZone.Auth.PasswordReset
import FixZone.Library.SlidingWindow

/-!
# How many reset tokens there can be

Requests for a reset token that are made one after the other, each to its end before the next one
begins, on a clock that does not go back. A request counts the tokens of the user that were created
within the cooldown and within a day, and creates its token in a later step; as no other request
has made a step in between, what was counted still stands then. So the times at which tokens of a
user are created keep the limits of the policy, and since each new token supersedes those which are
open, no two tokens of a user are open at once (`reset_tokens_limited`).

Requests that run side by side are another matter: two of them can both count before either
creates. The runs here are those of a single worker; between the requests it may complete resets,
and the other services may do to the accounts what they like.
-/

namespace FixZone.PasswordReset

open Library Library.SlidingWindow Accounts PrivilegedMfaService
open AuthService (usedTokenData)

/-! ### What is asked of the tokens -/

/-- The policy, as limits on the times at which tokens of a user are created. -/
def resetLimits (d : Deployment) : Limits where
  cooldown := d.cooldownSeconds * 1000
  period := 24 * 60 * 60 * 1000
  limit := d.dailyLimit

/-- When the tokens of a user were created that were not there at the start. -/
def createdTimes (start s : AuthStore) (userId : String) : List Millis :=
  (s.resetTokens.rows.filter fun row =>
    (start.resetTokens.find? row.id).isNone && row.userId = userId).map (·.createdAt)

/-- No user has two tokens that are unused, not superseded and not expired. -/
def OneOpen (now : Millis) (s : AuthStore) : Prop :=
  ∀ userId, s.resetTokens.rows.countP (isOpen userId now) ≤ 1

/-- The tokens created since the start keep the limits of the policy, and no user has come to have
two open tokens. -/
structure LimitsKept (d : Deployment) (start : AuthStore) (now : Millis) (s : AuthStore) :
    Prop where
  limited : ∀ userId, Limited (resetLimits d) (createdTimes start s userId)
  oneOpen : OneOpen now start → OneOpen now s

/-- The time of a turn, where it is a step. -/
def turnTime : Turn Unit Request Input → Option Millis
  | .start _ _ => none
  | .advance _ input => some input.now

/-! ### Tokens that are closed -/

/-- A change of tokens that can only close them. -/
structure Closes (f : PasswordResetToken → PasswordResetToken) : Prop where
  id : ∀ row, (f row).id = row.id
  userId : ∀ row, (f row).userId = row.userId
  createdAt : ∀ row, (f row).createdAt = row.createdAt
  isOpen : ∀ row userId now, isOpen userId now (f row) = true → isOpen userId now row = true

theorem closes_where (cond : PasswordResetToken → Prop) [DecidablePred cond]
    {data : Patch PasswordResetToken.id} (huserId : ∀ row, (data.apply row).userId = row.userId)
    (hcreatedAt : ∀ row, (data.apply row).createdAt = row.createdAt)
    (hclosed : ∀ row userId now, isOpen userId now (data.apply row) = false) :
    Closes fun row => if cond row then data.apply row else row where
  id row := by
    split
    · exact data.key_apply row
    · rfl
  userId row := by
    split
    · exact huserId row
    · rfl
  createdAt row := by
    split
    · exact hcreatedAt row
    · rfl
  isOpen row userId now h := by
    split at h
    · rw [hclosed row userId now] at h
      cases h
    · exact h

theorem not_isOpen_superseded (row : PasswordResetToken) (closedAt : Millis) (userId : String)
    (now : Millis) : isOpen userId now ((supersededData closedAt).apply row) = false := by
  simp [isOpen]

theorem not_isOpen_used (row : PasswordResetToken) (closedAt : Millis) (userId : String)
    (now : Millis) : isOpen userId now ((usedTokenData closedAt).apply row) = false := by
  simp [isOpen]

/-- A token that is open is open at every time before. -/
theorem isOpen_of_le {userId : String} {now now' : Millis} (hle : now ≤ now')
    {row : PasswordResetToken} (h : isOpen userId now' row = true) :
    isOpen userId now row = true := by
  simp only [isOpen, Bool.and_eq_true, decide_eq_true_eq] at h ⊢
  exact ⟨h.1, hle.trans_lt h.2⟩

theorem userId_of_isOpen {userId : String} {now : Millis} {row : PasswordResetToken}
    (h : isOpen userId now row = true) : row.userId = userId := by
  simp only [isOpen, Bool.and_eq_true, decide_eq_true_eq] at h
  exact h.1.1.1

/-! ### What is kept from step to step -/

variable {d : Deployment} {start s s' : AuthStore} {now : Millis}

/-- What is known of the tokens: the times keep the limits, the tokens of the start are there and
no more open than they were, and a token created since is the only open one of its user. -/
structure Tracked (d : Deployment) (start : AuthStore) (now : Millis) (s : AuthStore) : Prop where
  limited : ∀ userId, Limited (resetLimits d) (createdTimes start s userId)
  older : ∀ tokenId old, start.resetTokens.find? tokenId = some old →
    ∃ row, s.resetTokens.find? tokenId = some row ∧
      ∀ userId time, isOpen userId time row = true → isOpen userId time old = true
  single : ∀ row ∈ s.resetTokens.rows, start.resetTokens.find? row.id = none →
    ∀ userId, isOpen userId now row = true →
      ∀ other ∈ s.resetTokens.rows, isOpen userId now other = true → other.id = row.id

theorem Tracked.refl (d : Deployment) (start : AuthStore) (now : Millis) :
    Tracked d start now start where
  limited userId := by
    have hnone : createdTimes start start userId = [] := by
      rw [createdTimes, List.map_eq_nil_iff, List.filter_eq_nil_iff]
      intro row hrow
      simp [Table.mem_rows_iff.mp hrow]
    rw [hnone]
    exact limited_nil
  older tokenId old hold := ⟨old, hold, fun _ _ h => h⟩
  single row hrow hfree := by
    rw [Table.mem_rows_iff.mp hrow] at hfree
    cases hfree

theorem Tracked.mono (h : Tracked d start now s) {now' : Millis} (hle : now ≤ now') :
    Tracked d start now' s where
  limited := h.limited
  older := h.older
  single row hrow hfree userId hopen other hother hopen' :=
    h.single row hrow hfree userId (isOpen_of_le hle hopen) other hother (isOpen_of_le hle hopen')

theorem createdTimes_closes {f : PasswordResetToken → PasswordResetToken} (hf : Closes f)
    (hrows : s'.resetTokens.rows = s.resetTokens.rows.map f) (userId : String) :
    createdTimes start s' userId = createdTimes start s userId := by
  rw [createdTimes, hrows, List.filter_map, List.map_map, createdTimes]
  simp only [Function.comp_def, hf.id, hf.userId, hf.createdAt]

/-- Where tokens are only closed, nothing else changes. -/
theorem Tracked.closes (h : Tracked d start now s)
    {f : PasswordResetToken → PasswordResetToken} (hf : Closes f)
    (hrows : s'.resetTokens.rows = s.resetTokens.rows.map f) : Tracked d start now s' where
  limited userId := by
    rw [createdTimes_closes hf hrows]
    exact h.limited userId
  older tokenId old hold := by
    obtain ⟨row, hrow, hopen⟩ := h.older tokenId old hold
    refine ⟨f row, ?_, fun userId time h => hopen userId time (hf.isOpen row userId time h)⟩
    unfold Table.find? at hrow ⊢
    rw [hrows, List.find?_map]
    simp only [Function.comp_def, hf.id]
    rw [hrow, Option.map_some]
  single row hrow hfree userId hopen other hother hopen' := by
    rw [hrows] at hrow hother
    obtain ⟨row, hmem, rfl⟩ := List.mem_map.mp hrow
    obtain ⟨other, hmem', rfl⟩ := List.mem_map.mp hother
    rw [hf.id] at hfree ⊢
    rw [hf.id]
    exact h.single row hmem hfree userId (hf.isOpen _ _ _ hopen) other hmem'
      (hf.isOpen _ _ _ hopen')

/-- A check that lets a token be created counts all tokens of the user. -/
theorem mayHappen_of_not_limited {targetUserId : String}
    (h : passwordResetRateLimited d now s targetUserId = false) :
    mayHappen (resetLimits d)
      ((s.resetTokens.rows.filter (·.userId = targetUserId)).map (·.createdAt)) now = true := by
  simp only [passwordResetRateLimited, Bool.or_eq_false_iff, decide_eq_false_iff_not, not_lt,
    Nat.le_zero, not_le] at h
  rw [mayHappen, List.countP_map, List.countP_map, List.countP_filter, List.countP_filter,
    Bool.and_eq_true, decide_eq_true_eq, decide_eq_true_eq]
  simp only [resetLimits, Function.comp_def, Bool.and_comm]
  exact h

/-- Of all tokens of a user, those created since the start are some. -/
theorem createdTimes_sublist (start s : AuthStore) (userId : String) :
    (createdTimes start s userId).Sublist
      ((s.resetTokens.rows.filter (·.userId = userId)).map (·.createdAt)) := by
  refine (List.monotone_filter_right _ fun row hrow => ?_).map _
  exact (Bool.and_eq_true_iff.mp hrow).2

/-- A token is created where its time keeps the limits and none of its user is open. -/
theorem Tracked.create (h : Tracked d start now s) {row : PasswordResetToken} {checked : Millis}
    (hfree : s.resetTokens.find? row.id = none) (hcreated : row.createdAt = now)
    (hchecked : checked ≤ now)
    (hmay : mayHappen (resetLimits d) (createdTimes start s row.userId) checked = true)
    (hnone : ∀ other ∈ s.resetTokens.rows, isOpen row.userId now other = false)
    (hrows : s'.resetTokens = s.resetTokens.insert row) : Tracked d start now s' where
  limited userId := by
    rw [createdTimes, hrows, Table.rows_insert_of_free hfree, List.filter_append, List.map_append,
      ← createdTimes, List.filter_singleton, Bool.cond_eq_ite]
    split
    · next hcounts =>
      obtain rfl : row.userId = userId :=
        decide_eq_true_eq.mp (Bool.and_eq_true_iff.mp hcounts).2
      rw [List.map_singleton, hcreated]
      exact (h.limited row.userId).append hmay hchecked
    · rw [List.map_nil, List.append_nil]
      exact h.limited userId
  older tokenId old hold := by
    obtain ⟨found, hfound, hopen⟩ := h.older tokenId old hold
    exact ⟨found, hrows ▸ Table.find?_insert_of_some hfound, hopen⟩
  single found hfound hnew userId hopen other hother hopen' := by
    rw [hrows] at hfound hother
    -- the new token has no other open beside it
    rcases Table.rows_insert_cases hfree hfound with rfl | ⟨hmem, -⟩
    · rcases Table.rows_insert_cases hfree hother with rfl | ⟨hmem', -⟩
      · rfl
      · rw [← userId_of_isOpen hopen, hnone other hmem'] at hopen'
        cases hopen'
    · rcases Table.rows_insert_cases hfree hother with rfl | ⟨hmem', -⟩
      · rw [← userId_of_isOpen hopen', hnone found hmem] at hopen
        cases hopen
      · exact h.single found hmem hnew userId hopen other hmem' hopen'

/-- The transaction that issues a token, where the check has let it be created and nothing has
changed since. -/
theorem Tracked.issued (h : Tracked d start now s) {row : PasswordResetToken} {checked : Millis}
    (hfree : s.resetTokens.find? row.id = none) (hcreated : row.createdAt = now)
    (hchecked : checked ≤ now)
    (hlimited : passwordResetRateLimited d checked s row.userId = false) :
    Tracked d start now (issuedStore now s row) := by
  let superseded : AuthStore := { s with
    resetTokens := s.resetTokens.modifyWhere (isOpen row.userId now) (supersededData now) }
  have hcloses : Closes fun other =>
      if isOpen row.userId now other then (supersededData now).apply other else other :=
    closes_where _ (fun _ => rfl) (fun _ => rfl) fun other => not_isOpen_superseded other now
  have hfree' : superseded.resetTokens.find? row.id = none :=
    Table.find?_modifyWhere_eq_none hfree _ _
  have hmay : mayHappen (resetLimits d) (createdTimes start superseded row.userId) checked =
      true := by
    rw [createdTimes_closes hcloses rfl]
    exact mayHappen_of_sublist (mayHappen_of_not_limited hlimited) (createdTimes_sublist _ _ _)
  have hnone : ∀ other ∈ superseded.resetTokens.rows, isOpen row.userId now other = false := by
    intro other hother
    obtain ⟨other, -, rfl⟩ := List.mem_map.mp hother
    split
    · exact not_isOpen_superseded other now row.userId now
    · next hclosed => exact Bool.not_eq_true _ ▸ hclosed
  have hclosed : Tracked d start now superseded := h.closes hcloses rfl
  exact hclosed.create hfree' hcreated hchecked hmay hnone rfl

/-! ### Steps -/

variable {input : Input} {w : World} {call : Call}

/-- What the next step of a call relies on: that the check has just let the token be created. -/
def Checked (d : Deployment) (now : Millis) (s : AuthStore) (call : Call) : Prop :=
  ∀ targetUserId, call = .storeToken targetUserId → ∃ checked ≤ now,
    passwordResetRateLimited d checked s targetUserId = false

/-- A step keeps what is known, if its call was checked. -/
theorem Tracked.advance (h : Tracked d start input.now w.store)
    (hchecked : Checked d input.now w.store call) :
    Tracked d start input.now (advance d input w call).1.store := by
  have heffect : Effect d input w call (PasswordReset.advance d input w call).1 :=
    advance_effect call
  generalize (PasswordReset.advance d input w call).1 = w' at heffect
  cases heffect with
  | accounts call accounts =>
    have hid : Closes id := ⟨fun _ => rfl, fun _ => rfl, fun _ => rfl, fun _ _ _ => id⟩
    exact h.closes hid (List.map_id _).symm
  | issued targetUserId hfree =>
    obtain ⟨checked, hle, hlimited⟩ := hchecked targetUserId rfl
    exact h.issued hfree rfl hle hlimited
  | delivered resetTokenId =>
    dsimp only [recordDelivery]
    split
    · exact h
    · exact h.closes (closes_where (·.id = resetTokenId) (fun _ => rfl) (fun _ => rfl)
        fun row => not_isOpen_superseded row input.now) rfl
  | reset record now passwordHash =>
    exact h.closes (closes_where (·.id = record.id) (fun _ => rfl) (fun _ => rfl)
      fun row => not_isOpen_used row now) rfl

/-- A call that goes on to create a token has just been let. -/
theorem checked_of_next {call' : Call} (h : (advance d input w call).2 = .goesOn call') :
    Checked d input.now (advance d input w call).1.store call' := by
  rintro targetUserId rfl
  cases call with
  | request request =>
    cases request with
    | requestPasswordReset email phone =>
      rw [PasswordReset.advance, requestStep] at h
      split at h
      · cases h
      · split at h
        · cases h
        · cases acceptUnless_goesOn h
    | issueAdministrativePasswordReset targetUserId => cases h
    | completePasswordReset token password =>
      rw [PasswordReset.advance, requestStep] at h
      obtain ⟨record, -, hnext⟩ := orThrows_goesOn h
      cases hnext
    | others accounts => cases h
  | createPasswordResetToken targetUserId =>
    rw [PasswordReset.advance, createPasswordResetTokenStep] at h
    split at h
    · cases h
    · cases acceptUnless_goesOn h
  | checkRate targetUserId' =>
    rw [PasswordReset.advance] at h ⊢
    rw [acceptUnless_fst]
    unfold acceptUnless at h
    split at h
    · cases h
    · next hlimited =>
      cases h
      exact ⟨input.now, le_rfl, Bool.not_eq_true _ ▸ hlimited⟩
  | storeToken targetUserId =>
    obtain ⟨s, -, hnext⟩ := orThrows_goesOn h
    cases hnext
  | deliver resetTokenId => cases h
  | storePassword record now passwordHash =>
    obtain ⟨s, -, hnext⟩ := orThrows_goesOn h
    cases hnext

/-! ### Runs -/

/-- What is known of a sequential run: of its tokens, and of its call. -/
structure RunTracked (d : Deployment) (start : AuthStore) (now : Millis)
    (st : Calls World Unit Call) : Prop where
  tokens : Tracked d start now st.state.store
  call : ∀ call, st.running () = some call → Checked d now st.state.store call

theorem RunTracked.mono {st : Calls World Unit Call} (h : RunTracked d start now st)
    {now' : Millis} (hle : now ≤ now') : RunTracked d start now' st where
  tokens := h.tokens.mono hle
  call call hcall targetUserId hstore := by
    obtain ⟨checked, hchecked, hlimited⟩ := h.call call hcall targetUserId hstore
    exact ⟨checked, hchecked.trans hle, hlimited⟩

/-- A turn keeps what is known; a step, at its own time. -/
theorem RunTracked.step {st : Calls World Unit Call} (h : RunTracked d start now st)
    (turn : Turn Unit Request Input) (hnow : ∀ time ∈ turnTime turn, time = now) :
    RunTracked d start now ((protocol d).step turn st) := by
  obtain ⟨_, request, -, hstep⟩ | ⟨_, input, call, hadvances⟩ | ⟨-, hstep⟩ :=
    (protocol d).step_cases st turn
  · rw [hstep]
    refine ⟨h.tokens, fun call hcall targetUserId hstore => ?_⟩
    dsimp only at hcall
    rw [Function.update_self, hstore] at hcall
    cases hcall
  · obtain rfl : input.now = now := by
      rw [hadvances.turn] at hnow
      exact hnow _ rfl
    have hchecked := h.call call hadvances.running
    rw [(protocol d).step_of_advances hadvances]
    refine ⟨h.tokens.advance hchecked, fun call' hcall' => checked_of_next ?_⟩
    dsimp only at hcall'
    rw [Function.update_self] at hcall'
    exact Next.call?_eq_some_iff.mp hcall'
  · rwa [hstep]

/-- After a run whose clock does not go back, at any time from then on. -/
theorem runTracked {w : World} {turns : List (Turn Unit Request Input)} {now : Millis}
    (hclock : (turns.filterMap turnTime ++ [now]).Pairwise (· ≤ ·)) :
    RunTracked d w.store now (run (protocol d).step (Calls.quiet w) turns) := by
  induction turns using List.reverseRecOn generalizing now with
  | nil => exact ⟨.refl d w.store now, fun call hcall => by cases hcall⟩
  | append_singleton turns turn ih =>
    rw [run_append, run_cons, run_nil]
    rw [List.filterMap_append] at hclock
    cases htime : turnTime turn with
    | none =>
      rw [List.filterMap_cons_none htime, List.filterMap_nil, List.append_nil] at hclock
      exact (ih hclock).step turn fun time h => by rw [htime] at h; cases h
    | some time =>
      rw [List.filterMap_cons_some htime, List.filterMap_nil] at hclock
      -- the step is made at its time, which is no later than `now`
      obtain ⟨hbefore, -, hlast⟩ := List.pairwise_append.mp hclock
      have hle : time ≤ now := hlast time (by simp) now (by simp)
      refine ((ih hbefore).step turn fun time' h => ?_).mono hle
      rw [htime] at h
      exact (Option.some.inj h).symm

/-- No user comes to have two open tokens. -/
theorem Tracked.oneOpen (h : Tracked d start now s) (hstart : OneOpen now start) :
    OneOpen now s := by
  intro userId
  by_cases hcreated : ∃ row ∈ s.resetTokens.rows,
      start.resetTokens.find? row.id = none ∧ isOpen userId now row = true
  · obtain ⟨row, hrow, hnew, hopen⟩ := hcreated
    have hsame : ∀ other ∈ s.resetTokens.rows, isOpen userId now other = true →
        (decide (other.id = row.id)) = true := fun other hother hopen' =>
      decide_eq_true (h.single row hrow hnew userId hopen other hother hopen')
    refine (List.countP_mono_left hsame).trans ?_
    rw [List.countP_eq_length_filter]
    exact Table.countP_key_le_one s.resetTokens row.id
  · refine (Table.countP_le_countP fun tokenId hkey => ?_).trans (hstart userId)
    obtain ⟨row, hrow, hopen⟩ := Table.mem_keysWhere.mp hkey
    cases hold : start.resetTokens.find? tokenId with
    | none =>
      exact absurd ⟨row, Table.mem_of_find? hrow, Table.key_of_find? hrow ▸ hold, hopen⟩ hcreated
    | some old =>
      obtain ⟨row', hrow', hopens⟩ := h.older tokenId old hold
      obtain rfl : row = row' := Option.some.inj (hrow.symm.trans hrow')
      exact Table.mem_keysWhere.mpr ⟨old, hold, hopens userId now hopen⟩

/-- **Reset tokens are rate limited.** After every sequential run, and at any time from then on,
the times at which tokens of a user were created keep the limits of the policy, and no user has
come to have two open tokens. -/
theorem reset_tokens_limited (d : Deployment) (w : World) (turns : List (Turn Unit Request Input))
    (now : Millis) (hclock : (turns.filterMap turnTime ++ [now]).Pairwise (· ≤ ·)) :
    LimitsKept d w.store now (run (protocol d).step (Calls.quiet w) turns).state.store where
  limited := (runTracked hclock).tokens.limited
  oneOpen := (runTracked hclock).tokens.oneOpen

namespace Example

/-- The turns of a request all of whose steps are made at one time. -/
def madeAt (now : Millis) (newId : String) (request : Request) : List (Turn Unit Request Input) :=
  .start () request :: List.replicate 5 (.advance () { now, newId, token := newId })

/-- Amaka asks for a reset, and an administrator twice, first at the end of the cooldown and then
after it. -/
def asksThrice : List (Turn Unit Request Input) :=
  madeAt 90000000 "token-1" (.requestPasswordReset (some "amaka@fixzone.ng") none) ++
    madeAt 90120000 "token-2" (.issueAdministrativePasswordReset "amaka") ++
    madeAt 90120001 "token-3" (.issueAdministrativePasswordReset "amaka")

/-- The store after these requests. -/
def afterAsking : AuthStore :=
  (run (protocol deployment).step (Calls.quiet (.start store)) asksThrice).state.store

end Example

open Example in
theorem asksThrice_limited : createdTimes store afterAsking "amaka" = [90000000, 90120001] ∧
    LimitsKept deployment store 90120001 afterAsking :=
  ⟨by decide +kernel, reset_tokens_limited deployment (.start store) asksThrice 90120001
    (by decide +kernel)⟩

end FixZone.PasswordReset
