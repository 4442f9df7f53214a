import FixZone.Auth.Service
import FixZone.Library.Protocol

/-!
# Password resets step by step

The requests for a reset token, from the user or from an administrator, and the completion of a
reset, as calls whose database steps interleave with each other and with whatever else happens to
the accounts. A token is issued in a transaction that supersedes the tokens of the user which are
still open. A reset reads its token, refuses it if it is used, superseded or expired, and writes
the password in a transaction that does not ask again.

So a token resets the password once, and not after another reset of its user, in the runs in which
every password is written for the newest token of the user while it is unused
(`resets_once_of_newest`). Two resets that read the token before either writes both succeed
(`token_resets_twice`).

Beside the store there is a history of the tokens issued and of the resets, newest first, that no
step reads. Left out are the audit log, what is sent to the user, and the columns of a token that
are only ever written.
-/

namespace FixZone.PasswordReset

open Library Accounts PrivilegedMfaService
open AuthService (resettablePassword writePassword passwordStore usedTokenData genericAuthFailure
  isFirebaseOwnedCitizen)
open ReportService (HttpError badRequest)

/-- What the process is configured with: the functions of the libraries, whether
`passwordResetDelivery` is enabled and its policy, and the number in
`PASSWORD_RESET_TOKEN_TTL_MINUTES`. -/
structure Deployment where
  crypto : Crypto
  enabled : Bool := true
  cooldownSeconds : ℕ := 120
  dailyLimit : ℕ := 5
  ttlMinutes : Option ℚ := none

/-- `passwordResetTtlMs`, as far as a date keeps it. -/
def passwordResetTtlMs (d : Deployment) : Millis :=
  let boundedMinutes := (d.ttlMinutes.filter fun minutes => 0 < minutes && minutes ≤ 60).getD 15
  (boundedMinutes * 60000).floor

/-- What a step finds: the clock, the id and the text of a new token, the salt of a new hash, and
whether a message was delivered. -/
structure Input where
  now : Millis
  newId : String := ""
  token : String := ""
  salt : String := ""
  delivered : Bool := true

/-- The requests; `others` is what the other services make of the accounts. -/
inductive Request where
  | requestPasswordReset (email phone : Option String)
  | issueAdministrativePasswordReset (targetUserId : String)
  | completePasswordReset (token password : String)
  | others (accounts : Store)

/-- A call: a request none of whose steps is made, or what is kept between two steps. -/
inductive Call where
  | request (request : Request)
  | createPasswordResetToken (targetUserId : String)
  | checkRate (targetUserId : String)
  | storeToken (targetUserId : String)
  | deliver (resetTokenId : String)
  | storePassword (record : PasswordResetToken) (now : Millis) (passwordHash : String)

/-- What a call answers. -/
inductive Answer where
  | requestAccepted
  | passwordResetCompleted
  | done

/-- What happens to tokens. -/
inductive Happening where
  | issued (token : PasswordResetToken)
  | reset (record : PasswordResetToken)

/-- What is stored, and what has happened. -/
structure World where
  store : AuthStore
  history : List Happening

/-- What a step makes of the world, and of its call. -/
abbrev Step := World × Next Call (Except HttpError Answer)

/-! ### What the steps read and write -/

/-- The account can have its password reset. -/
def isEligible (user : User) : Bool :=
  truthy user.passwordHash && user.accountStatus = .active && !isFirebaseOwnedCitizen user

/-- The filters of the query in `requestPasswordReset`. -/
def matchesRequest (email phone : Option String) (row : User) : Bool :=
  truthy email && row.email = email.map (fun text => trim (toLowerCase text)) ||
    truthy phone && row.phone = phone.map trim

/-- `passwordResetRateLimited`. -/
def passwordResetRateLimited (d : Deployment) (now : Millis) (s : AuthStore)
    (targetUserId : String) : Bool :=
  let createdSince (since : Millis) := s.resetTokens.rows.countP fun row =>
    row.userId = targetUserId && since ≤ row.createdAt
  0 < createdSince (now - d.cooldownSeconds * 1000) ||
    d.dailyLimit ≤ createdSince (now - 24 * 60 * 60 * 1000)

/-- The tokens that a new one supersedes. -/
def isOpen (userId : String) (now : Millis) (row : PasswordResetToken) : Bool :=
  row.userId = userId && row.usedAt = none && row.supersededAt = none && now < row.expiresAt

/-- The column of a token that is superseded. -/
@[simp] def supersededData (now : Millis) : Patch PasswordResetToken.id where
  apply row := { row with supersededAt := some now }

/-- The row `createPasswordResetToken` creates. -/
def resetToken (d : Deployment) (input : Input) (targetUserId : String) : PasswordResetToken where
  id := input.newId
  userId := targetUserId
  tokenDigest := d.crypto.sha256 input.token
  expiresAt := input.now + passwordResetTtlMs d
  createdAt := input.now

/-- The writes of the transaction in `createPasswordResetToken`. -/
def issuedStore (now : Millis) (s : AuthStore) (row : PasswordResetToken) : AuthStore :=
  { s with resetTokens :=
      (s.resetTokens.modifyWhere (isOpen row.userId now) (supersededData now)).insert row }

/-- The transaction of `createPasswordResetToken`. -/
def issueToken (now : Millis) (s : AuthStore) (row : PasswordResetToken) :
    Except HttpError AuthStore := do
  throwIf (s.accounts.user? row.userId).isNone missingRowError
  throwIf ((s.resetTokens.find? row.id).isSome ∨
    ∃ other ∈ s.resetTokens.rows, other.tokenDigest = row.tokenDigest) uniqueError
  return issuedStore now s row

/-- `passwordResetToken.update` after the delivery. -/
def recordDelivery (input : Input) (s : AuthStore) (resetTokenId : String) : AuthStore :=
  if input.delivered then s
  else { s with resetTokens := s.resetTokens.modify resetTokenId (supersededData input.now) }

/-! ### Steps -/

section Steps

variable (d : Deployment) (input : Input) (w : World)

/-- A step of a request that can stop with its usual answer, whatever has become of it. -/
def acceptUnless (stops : Bool) (call : Call) : Step :=
  if stops then (w, .returns (.ok .requestAccepted)) else (w, .goesOn call)

/-- The first step of a request. -/
def requestStep : Request → Step
  | .requestPasswordReset email phone =>
      if truthy email = false ∧ truthy phone = false then
        (w, .returns (.error (badRequest "Email or phone is required")))
      else
        match w.store.accounts.users.rows.find? (matchesRequest email phone) with
        | none => (w, .returns (.ok .requestAccepted))
        | some user => acceptUnless w (!isEligible user) (.createPasswordResetToken user.id)
  | .issueAdministrativePasswordReset targetUserId =>
      (w, .goesOn (.createPasswordResetToken targetUserId))
  | .completePasswordReset token password =>
      orThrows w (resettablePassword d.crypto input.now w.store token password)
        fun record => (w, .goesOn (.storePassword record input.now
          (d.crypto.bcryptHash input.salt (trim password))))
  | .others accounts => ({ w with store := w.store.setAccounts accounts }, .returns (.ok .done))

/-- The first step of `createPasswordResetToken`. -/
def createPasswordResetTokenStep (targetUserId : String) : Step :=
  match w.store.accounts.user? targetUserId with
  | none => (w, .returns (.ok .requestAccepted))
  | some target =>
    acceptUnless w (!(isEligible target && d.enabled && truthy target.email))
      (.checkRate targetUserId)

/-- The next step of a call. -/
def advance : Call → Step
  | .request request => requestStep d input w request
  | .createPasswordResetToken targetUserId => createPasswordResetTokenStep d w targetUserId
  | .checkRate targetUserId =>
      acceptUnless w (passwordResetRateLimited d input.now w.store targetUserId)
        (.storeToken targetUserId)
  | .storeToken targetUserId =>
      let row := resetToken d input targetUserId
      orThrows w (issueToken input.now w.store row) fun s =>
        (⟨s, .issued row :: w.history⟩, .goesOn (.deliver row.id))
  | .deliver resetTokenId =>
      ({ w with store := recordDelivery input w.store resetTokenId },
        .returns (.ok .requestAccepted))
  | .storePassword record now passwordHash =>
      orThrows w (writePassword now w.store record passwordHash) fun s =>
        (⟨s, .reset record :: w.history⟩, .returns (.ok .passwordResetCompleted))

end Steps

/-- The interleavings of these calls. -/
def protocol (d : Deployment) : Protocol World Request Call Input (Except HttpError Answer) where
  init := .request
  advance input call w := advance d input w call

/-! ### What is asked of a run -/

/-- A reset with a token of this digest. -/
def Happening.isResetWith (tokenDigest : String) : Happening → Bool
  | .reset record => record.tokenDigest = tokenDigest
  | .issued _ => false

/-- A token has reset a password once at most, and of two resets of a user the later one is with a
token that was issued after the other reset. -/
structure ResetsOnce (history : List Happening) : Prop where
  single : ∀ tokenDigest, history.countP (Happening.isResetWith tokenDigest) ≤ 1
  fresh : ∀ later record between record' earlier,
    history = later ++ .reset record :: between ++ .reset record' :: earlier →
      record.userId = record'.userId → ∃ token, .issued token ∈ between ∧ token.id = record.id

/-- The newest token of a user. -/
def newestToken (s : AuthStore) (userId : String) : Option PasswordResetToken :=
  s.resetTokens.newest fun row => row.userId = userId

/-- A step that writes a password finds its token the newest one of the user, and unused. -/
def WritesForNewest (_ : Input) (call : Call) (w : World) : Prop :=
  match call with
  | .storePassword record _ _ =>
    (newestToken w.store record.userId).any fun row => row.id = record.id && row.usedAt = none
  | _ => True

instance (input : Input) (call : Call) (w : World) : Decidable (WritesForNewest input call w) := by
  unfold WritesForNewest
  cases call <;> infer_instance

variable {d : Deployment} {input : Input} {w : World} {call : Call}

/-! ### What a step does to the tokens -/

/-- The token with a digest, as `passwordResetToken.findUnique` finds it. -/
def tokenWith (s : AuthStore) (tokenDigest : String) : Option PasswordResetToken :=
  s.resetTokens.rows.find? fun row => row.tokenDigest = tokenDigest

/-- What a step makes of the tokens and the history. -/
inductive Effect (d : Deployment) (input : Input) (w : World) : Call → World → Prop where
  | accounts (call : Call) (accounts : Store) :
      Effect d input w call { w with store := w.store.setAccounts accounts }
  | issued (targetUserId : String)
      (hfree : w.store.resetTokens.find? (resetToken d input targetUserId).id = none) :
      Effect d input w (.storeToken targetUserId)
        ⟨issuedStore input.now w.store (resetToken d input targetUserId),
          .issued (resetToken d input targetUserId) :: w.history⟩
  | delivered (resetTokenId : String) :
      Effect d input w (.deliver resetTokenId)
        { w with store := recordDelivery input w.store resetTokenId }
  | reset (record : PasswordResetToken) (now : Millis) (passwordHash : String) :
      Effect d input w (.storePassword record now passwordHash)
        ⟨passwordStore now w.store record passwordHash, .reset record :: w.history⟩

theorem Effect.same (call : Call) : Effect d input w call w := .accounts call w.store.accounts

theorem acceptUnless_fst (stops : Bool) (next : Call) : (acceptUnless w stops next).1 = w := by
  cases stops <;> rfl

theorem acceptUnless_goesOn {stops : Bool} {next call' : Call}
    (h : (acceptUnless w stops next).2 = .goesOn call') : next = call' := by
  cases stops with
  | false => exact Next.goesOn.inj h
  | true => cases h

theorem requestStep_effect (request : Request) :
    Effect d input w (.request request) (requestStep d input w request).1 := by
  cases request with
  | requestPasswordReset email phone =>
    have hsame : (requestStep d input w (.requestPasswordReset email phone)).1 = w := by
      rw [requestStep]
      split
      · rfl
      · split
        · rfl
        · exact acceptUnless_fst _ _
    rw [hsame]
    exact .same _
  | issueAdministrativePasswordReset targetUserId => exact .same _
  | completePasswordReset token password =>
    rw [requestStep]
    exact orThrows_state (.same _) fun _ _ => .same _
  | others accounts => exact .accounts _ accounts

/-- What a step does. -/
theorem advance_effect (call : Call) : Effect d input w call (advance d input w call).1 := by
  cases call with
  | request request => exact requestStep_effect request
  | createPasswordResetToken targetUserId =>
    have hsame : (createPasswordResetTokenStep d w targetUserId).1 = w := by
      unfold createPasswordResetTokenStep
      split
      · rfl
      · exact acceptUnless_fst _ _
    rw [advance, hsame]
    exact .same _
  | checkRate targetUserId =>
    rw [advance, acceptUnless_fst]
    exact .same _
  | storeToken targetUserId =>
    refine orThrows_state (.same _) fun s hs => ?_
    obtain ⟨-, hs⟩ := throwIf_bind_eq_ok.mp hs
    obtain ⟨hfree, hs⟩ := throwIf_bind_eq_ok.mp hs
    obtain rfl := pure_eq_ok.mp hs
    rw [not_or, Bool.not_eq_true, Option.isSome_eq_false_iff, Option.isNone_iff_eq_none] at hfree
    exact .issued targetUserId hfree.1
  | deliver resetTokenId => exact .delivered resetTokenId
  | storePassword record now passwordHash =>
    refine orThrows_state (.same _) fun s hs => ?_
    obtain ⟨-, hs⟩ := throwIf_bind_eq_ok.mp hs
    obtain rfl := pure_eq_ok.mp hs
    exact .reset record now passwordHash

/-- Tokens stay under their digests, and those that are used stay used. -/
def TokensStay (s s' : AuthStore) : Prop :=
  ∀ tokenDigest row, tokenWith s tokenDigest = some row →
    ∃ row', tokenWith s' tokenDigest = some row' ∧ row'.id = row.id ∧
      (row.usedAt ≠ none → row'.usedAt ≠ none)

theorem TokensStay.refl (s : AuthStore) : TokensStay s s := fun _ row h => ⟨row, h, rfl, id⟩

theorem TokensStay.of_map {s s' : AuthStore} {f : PasswordResetToken → PasswordResetToken}
    (hrows : s'.resetTokens.rows = s.resetTokens.rows.map f)
    (hf : ∀ row, (f row).tokenDigest = row.tokenDigest ∧ (f row).id = row.id ∧
      (row.usedAt ≠ none → (f row).usedAt ≠ none)) : TokensStay s s' := by
  intro tokenDigest row hrow
  refine ⟨f row, ?_, (hf row).2⟩
  rw [tokenWith, hrows, List.find?_map]
  have hsame : ((fun row : PasswordResetToken => decide (row.tokenDigest = tokenDigest)) ∘ f) =
      fun row => decide (row.tokenDigest = tokenDigest) := by
    funext row
    rw [Function.comp, (hf row).1]
  rw [hsame, ← tokenWith, hrow, Option.map_some]

theorem tokensStay_modify {s s' : AuthStore} {tokenId : String}
    {data : Patch PasswordResetToken.id}
    (htokens : s'.resetTokens = s.resetTokens.modify tokenId data)
    (hdata : ∀ row, (data.apply row).tokenDigest = row.tokenDigest ∧
      (row.usedAt ≠ none → (data.apply row).usedAt ≠ none)) : TokensStay s s' := by
  refine .of_map (congrArg Table.rows htokens) fun row => ?_
  refine ⟨?_, Table.key_patchAt _ _ row, ?_⟩
  all_goals
    unfold Table.patchAt
    split
  · exact (hdata row).1
  · rfl
  · exact (hdata row).2
  · exact id

theorem TokensStay.trans {s s' s'' : AuthStore} (h : TokensStay s s') (h' : TokensStay s' s'') :
    TokensStay s s'' := by
  intro tokenDigest row hrow
  obtain ⟨row', hrow', hid, hused⟩ := h tokenDigest row hrow
  obtain ⟨row'', hrow'', hid', hused'⟩ := h' tokenDigest row' hrow'
  exact ⟨row'', hrow'', hid'.trans hid, hused' ∘ hused⟩

theorem tokensStay_insert (s : AuthStore) (row : PasswordResetToken) :
    TokensStay s { s with resetTokens := s.resetTokens.insert row } := by
  intro tokenDigest found hfound
  refine ⟨found, ?_, rfl, id⟩
  unfold tokenWith Table.insert
  split
  · exact hfound
  · rw [List.find?_append, ← tokenWith, hfound, Option.some_or]

/-- Superseding the open tokens of a user leaves every token its digest and its use. -/
theorem tokensStay_issued (now : Millis) (s : AuthStore) (row : PasswordResetToken) :
    TokensStay s (issuedStore now s row) := by
  have hsuperseded : TokensStay s { s with
      resetTokens := s.resetTokens.modifyWhere (isOpen row.userId now) (supersededData now) } := by
    refine .of_map rfl fun other => ?_
    split
    · exact ⟨rfl, rfl, id⟩
    · exact ⟨rfl, rfl, id⟩
  exact hsuperseded.trans (tokensStay_insert _ row)

theorem Effect.tokensStay {w' : World} (h : Effect d input w call w') :
    TokensStay w.store w'.store := by
  cases h with
  | accounts call accounts => exact .refl _
  | issued targetUserId hfree => exact tokensStay_issued _ _ _
  | delivered resetTokenId =>
    unfold recordDelivery
    split
    · exact .refl _
    · exact tokensStay_modify rfl fun row => ⟨rfl, id⟩
  | reset record now passwordHash =>
    exact tokensStay_modify rfl fun row => ⟨rfl, fun _ => Option.some_ne_none _⟩

/-! ### The newest token -/

theorem newestToken_modify {s s' : AuthStore} {tokenId : String}
    {data : Patch PasswordResetToken.id}
    (htokens : s'.resetTokens = s.resetTokens.modify tokenId data)
    (hdata : ∀ row, (data.apply row).userId = row.userId) (userId : String) :
    newestToken s' userId = (newestToken s userId).map (Table.patchAt tokenId data) := by
  rw [newestToken, htokens, Table.newest_modify _ _ _ fun row => by rw [hdata], newestToken]

/-- The token that is issued is the newest of its user; of other users it stays the one it was,
and as used as it was. -/
theorem newestToken_issued {now : Millis} {s : AuthStore} {row : PasswordResetToken}
    (hfree : s.resetTokens.find? row.id = none) (userId : String) :
    newestToken (issuedStore now s row) userId =
      if row.userId = userId then some row else
        (newestToken s userId).map fun other =>
          if isOpen row.userId now other then (supersededData now).apply other else other := by
  rw [newestToken, issuedStore,
    Table.newest_insert_of_free (Table.find?_modifyWhere_eq_none hfree _ _),
    Table.newest_modifyWhere _ _ _ fun _ => rfl, newestToken]
  simp only [decide_eq_true_eq]

/-- An unused token that was perhaps changed was unused, if the change makes no use undone. -/
theorem of_patched {tokenId : String} {data : Patch PasswordResetToken.id}
    {found : Option PasswordResetToken} {row : PasswordResetToken}
    (hdata : ∀ row, (data.apply row).usedAt = none → row.usedAt = none)
    (hrow : found.map (Table.patchAt tokenId data) = some row) (hunused : row.usedAt = none) :
    ∃ row', found = some row' ∧ row'.usedAt = none ∧ row'.id = row.id := by
  obtain ⟨row', hrow', rfl⟩ := Option.map_eq_some_iff.mp hrow
  refine ⟨row', hrow', ?_, (Table.key_patchAt _ _ row').symm⟩
  unfold Table.patchAt at hunused
  split at hunused
  · exact hdata row' hunused
  · exact hunused

/-- An unused token that is the newest of its user after a step was that before, or is the one the
step issues. -/
theorem Effect.newestToken {w' : World} (h : Effect d input w call w') {userId : String}
    {row : PasswordResetToken} (hrow : newestToken w'.store userId = some row)
    (hunused : row.usedAt = none) :
    (∃ row', PasswordReset.newestToken w.store userId = some row' ∧ row'.usedAt = none ∧
        row'.id = row.id) ∨
      ∃ token, w'.history = .issued token :: w.history ∧ token.id = row.id := by
  cases h with
  | accounts call accounts => exact .inl ⟨row, hrow, hunused, rfl⟩
  | issued targetUserId hfree =>
    rw [newestToken_issued hfree] at hrow
    split at hrow
    · exact .inr ⟨_, rfl, congrArg _ (Option.some.inj hrow)⟩
    · obtain ⟨row', hrow', rfl⟩ := Option.map_eq_some_iff.mp hrow
      refine .inl ⟨row', hrow', ?_, ?_⟩
      · split at hunused
        · exact hunused
        · exact hunused
      · split
        · rfl
        · rfl
  | delivered resetTokenId =>
    dsimp only [recordDelivery] at hrow
    split at hrow
    · exact .inl ⟨row, hrow, hunused, rfl⟩
    · rw [newestToken_modify rfl fun _ => rfl] at hrow
      exact .inl (of_patched (fun _ h => h) hrow hunused)
  | reset record now passwordHash =>
    dsimp only [passwordStore] at hrow
    rw [newestToken_modify rfl fun _ => rfl] at hrow
    exact .inl (of_patched (fun _ h => by cases h) hrow hunused)

/-! ### What is kept along a run -/

/-- What the tokens say of the history: a token of a reset is used, and where the newest token of
a user is unused, it was issued after every reset of the user. -/
structure Recorded (w : World) : Prop where
  used : ∀ record, .reset record ∈ w.history → ∃ row,
    tokenWith w.store record.tokenDigest = some row ∧ row.id = record.id ∧ row.usedAt ≠ none
  fresh : ∀ later record earlier, w.history = later ++ .reset record :: earlier →
    ∀ row, newestToken w.store record.userId = some row → row.usedAt = none →
      ∃ token, .issued token ∈ later ∧ token.id = row.id

/-- What a call has read: the token its reset is for. -/
def HasRead (call : Call) (w : World) : Prop :=
  match call with
  | .storePassword record _ _ =>
    ∃ row, tokenWith w.store record.tokenDigest = some row ∧ row.id = record.id
  | _ => True

/-- What is kept along the runs that write passwords for the newest tokens. -/
structure Kept (w : World) : Prop where
  recorded : Recorded w
  once : ResetsOnce w.history

/-- A call that goes on to write a password has just found that it can. -/
theorem resettable_of_next {record : PasswordResetToken} {now : Millis} {passwordHash : String}
    (h : (advance d input w call).2 = .goesOn (.storePassword record now passwordHash)) :
    ∃ token password, resettablePassword d.crypto input.now w.store token password =
      .ok record := by
  cases call with
  | request request =>
    cases request with
    | requestPasswordReset email phone =>
      rw [advance, requestStep] at h
      split at h
      · cases h
      · split at h
        · cases h
        · cases acceptUnless_goesOn h
    | issueAdministrativePasswordReset targetUserId => cases h
    | completePasswordReset token password =>
      rw [advance, requestStep] at h
      obtain ⟨record', hrecord, hnext⟩ := orThrows_goesOn h
      cases hnext
      exact ⟨token, password, hrecord⟩
    | others accounts => cases h
  | createPasswordResetToken targetUserId =>
    rw [advance, createPasswordResetTokenStep] at h
    split at h
    · cases h
    · cases acceptUnless_goesOn h
  | checkRate targetUserId => cases acceptUnless_goesOn h
  | storeToken targetUserId =>
    obtain ⟨s, -, hnext⟩ := orThrows_goesOn h
    cases hnext
  | deliver resetTokenId => cases h
  | storePassword record' now' passwordHash' =>
    obtain ⟨s, -, hnext⟩ := orThrows_goesOn h
    cases hnext

/-- A call that goes on to write a password has just read its token. -/
theorem hasRead_next {call' : Call} (h : (advance d input w call).2 = .goesOn call') :
    HasRead call' w := by
  cases call' with
  | storePassword record now passwordHash =>
    obtain ⟨token, password, hrecord⟩ := resettable_of_next h
    obtain ⟨-, hrecord⟩ := throwIf_bind_eq_ok.mp hrecord
    obtain ⟨row, hrow, hrecord⟩ := orThrow_bind_eq_ok.mp hrecord
    obtain ⟨user, -, hrecord⟩ := orThrow_bind_eq_ok.mp hrecord
    obtain ⟨-, hrecord⟩ := throwIf_bind_eq_ok.mp hrecord
    obtain rfl := pure_eq_ok.mp hrecord
    have hdigest := List.find?_some hrow
    rw [decide_eq_true_eq] at hdigest
    exact ⟨row, by rw [tokenWith, hdigest, hrow], rfl⟩
  | _ => trivial

theorem HasRead.stays {w' : World} (h : HasRead call w) (hstay : TokensStay w.store w'.store) :
    HasRead call w' := by
  cases call with
  | storePassword record now passwordHash =>
    obtain ⟨row, hrow, hid⟩ := h
    obtain ⟨row', hrow', hid', -⟩ := hstay _ row hrow
    exact ⟨row', hrow', hid'.trans hid⟩
  | _ => trivial

/-- The token of a reset is used afterwards. -/
theorem tokenWith_passwordStore {record : PasswordResetToken} {now : Millis} {passwordHash : String}
    (h : HasRead (.storePassword record now passwordHash) w) :
    ∃ row, tokenWith (passwordStore now w.store record passwordHash) record.tokenDigest = some row ∧
      row.id = record.id ∧ row.usedAt ≠ none := by
  obtain ⟨row, hrow, hid⟩ := h
  refine ⟨(usedTokenData now).apply row, ?_, hid, Option.some_ne_none _⟩
  have hmap : tokenWith (passwordStore now w.store record passwordHash) record.tokenDigest =
      (tokenWith w.store record.tokenDigest).map
        (Table.patchAt record.id (usedTokenData now)) := by
    rw [tokenWith, passwordStore, Table.modify, List.find?_map, tokenWith]
    congr 2
    funext other
    unfold Function.comp Table.patchAt
    split
    · rfl
    · rfl
  rw [hmap, hrow, Option.map_some, Table.patchAt, if_pos hid]

/-- A reset for the newest token of a user leaves the user none that is unused. -/
theorem newest_used_of_reset {record : PasswordResetToken} {now : Millis} {passwordHash : String}
    (h : WritesForNewest input (.storePassword record now passwordHash) w)
    {row : PasswordResetToken}
    (hrow : newestToken (passwordStore now w.store record passwordHash) record.userId = some row) :
    row.usedAt ≠ none := by
  dsimp only [passwordStore] at hrow
  rw [newestToken_modify rfl fun _ => rfl] at hrow
  obtain ⟨row', hrow', rfl⟩ := Option.map_eq_some_iff.mp hrow
  rw [WritesForNewest, hrow', Option.any_some, Bool.and_eq_true, decide_eq_true_eq] at h
  rw [Table.patchAt, if_pos h.1]
  exact Option.some_ne_none _

theorem Recorded.advance (h : Recorded w) (hread : HasRead call w)
    (hnewest : WritesForNewest input call w) : Recorded (advance d input w call).1 := by
  have heffect : Effect d input w call _ := advance_effect call
  generalize (PasswordReset.advance d input w call).1 = w' at heffect
  refine ⟨fun record hrecord => ?_, fun later record earlier hhistory row hrow hunused => ?_⟩
  · -- The tokens of earlier resets stay used, and a new reset uses its token.
    have hold : .reset record ∈ w.history → ∃ row,
        tokenWith w'.store record.tokenDigest = some row ∧ row.id = record.id ∧
          row.usedAt ≠ none := by
      intro hmem
      obtain ⟨row, hrow, hid, hused⟩ := h.used record hmem
      obtain ⟨row', hrow', hid', hused'⟩ := heffect.tokensStay _ row hrow
      exact ⟨row', hrow', hid'.trans hid, hused' hused⟩
    cases heffect with
    | accounts call accounts => exact hold hrecord
    | issued targetUserId hfree =>
      rcases List.mem_cons.mp hrecord with heq | hmem
      · cases heq
      · exact hold hmem
    | delivered resetTokenId => exact hold hrecord
    | reset record' now passwordHash =>
      rcases List.mem_cons.mp hrecord with heq | hmem
      · cases heq
        exact tokenWith_passwordStore hread
      · exact hold hmem
  · have hkept := heffect.newestToken hrow hunused
    cases heffect with
    | accounts call accounts =>
      exact h.fresh later record earlier hhistory row hrow hunused
    | issued targetUserId hfree =>
      obtain _ | ⟨happening, later⟩ := later
      · cases hhistory
      obtain ⟨rfl, htail⟩ := List.cons.inj hhistory
      rcases hkept with ⟨row', hrow', hunused', hid⟩ | ⟨token, htoken, hid⟩
      · obtain ⟨token, hmem, htoken⟩ := h.fresh later record earlier htail row' hrow' hunused'
        exact ⟨token, List.mem_cons_of_mem _ hmem, htoken.trans hid⟩
      · exact ⟨token, (List.cons.inj htoken).1 ▸ List.mem_cons_self, hid⟩
    | delivered resetTokenId =>
      rcases hkept with ⟨row', hrow', hunused', hid⟩ | ⟨token, htoken, hid⟩
      · obtain ⟨token, hmem, htoken⟩ := h.fresh later record earlier hhistory row' hrow' hunused'
        exact ⟨token, hmem, htoken.trans hid⟩
      · exact absurd (congrArg List.length htoken) (by simp)
    | reset record' now passwordHash =>
      obtain _ | ⟨happening, later⟩ := later
      · cases hhistory
        exact absurd hunused (newest_used_of_reset hnewest hrow)
      obtain ⟨rfl, htail⟩ := List.cons.inj hhistory
      rcases hkept with ⟨row', hrow', hunused', hid⟩ | ⟨token, htoken, hid⟩
      · obtain ⟨token, hmem, htoken⟩ := h.fresh later record earlier htail row' hrow' hunused'
        exact ⟨token, List.mem_cons_of_mem _ hmem, htoken.trans hid⟩
      · cases htoken

/-- What is asked of a history stays when no reset is added. -/
theorem ResetsOnce.issued {history : List Happening} (h : ResetsOnce history)
    (token : PasswordResetToken) : ResetsOnce (.issued token :: history) := by
  refine ⟨fun tokenDigest => ?_, fun later record between record' earlier hhistory => ?_⟩
  · rw [List.countP_cons]
    exact h.single tokenDigest
  · obtain _ | ⟨happening, later⟩ := later
    · cases hhistory
    · exact h.fresh later record between record' earlier (List.cons.inj hhistory).2

/-- A reset for the newest token of the user, unused, is the only one with the token, and the token
was issued after the other resets of the user. -/
theorem Kept.reset {record : PasswordResetToken} {now : Millis} {passwordHash : String}
    (h : Kept w) (hread : HasRead (.storePassword record now passwordHash) w)
    (hnewest : WritesForNewest input (.storePassword record now passwordHash) w) :
    ResetsOnce (.reset record :: w.history) := by
  obtain ⟨read, hread, hreadId⟩ := hread
  obtain ⟨newest, hfound, hnewest⟩ := (Option.any_eq_true _ _).mp hnewest
  rw [Bool.and_eq_true, decide_eq_true_eq, decide_eq_true_eq] at hnewest
  obtain ⟨hid, hunused⟩ := hnewest
  refine ⟨fun tokenDigest => ?_, fun later record₁ between record₂ earlier hhistory huser => ?_⟩
  · rw [List.countP_cons]
    by_cases hdigest : record.tokenDigest = tokenDigest
    · -- The token was not used, so no reset in the history is with it.
      have hnone : w.history.countP (Happening.isResetWith tokenDigest) = 0 := by
        refine List.countP_eq_zero.mpr fun happening hmem hreset => ?_
        cases happening with
        | issued token => cases hreset
        | reset record' =>
          obtain ⟨row, hrow, -, hused⟩ := h.recorded.used record' hmem
          rw [of_decide_eq_true hreset, ← hdigest, hread] at hrow
          obtain rfl := Option.some.inj hrow
          have hnewestRow := Table.mem_rows_iff.mp (Table.of_newest hfound).1
          have hreadRow := Table.mem_rows_iff.mp (List.mem_of_find?_eq_some hread)
          rw [hid, ← hreadId, hreadRow] at hnewestRow
          exact hused ((Option.some.inj hnewestRow) ▸ hunused)
      rw [hnone, zero_add]
      split
      · exact le_rfl
      · exact Nat.zero_le 1
    · rw [if_neg (by simpa [Happening.isResetWith] using hdigest), add_zero]
      exact h.once.single tokenDigest
  · obtain _ | ⟨happening, later⟩ := later
    · obtain ⟨heq, htail⟩ := List.cons.inj hhistory
      cases heq
      rw [huser] at hfound
      obtain ⟨token, hmem, htoken⟩ := h.recorded.fresh between record₂ earlier htail newest
        hfound hunused
      exact ⟨token, hmem, htoken.trans hid⟩
    · exact h.once.fresh later record₁ between record₂ earlier (List.cons.inj hhistory).2 huser

theorem Kept.advance (h : Kept w) (hread : HasRead call w)
    (hnewest : WritesForNewest input call w) : Kept (advance d input w call).1 := by
  refine ⟨h.recorded.advance hread hnewest, ?_⟩
  have heffect : Effect d input w call _ := advance_effect call
  generalize (PasswordReset.advance d input w call).1 = w' at heffect
  cases heffect with
  | accounts call accounts => exact h.once
  | issued targetUserId hfree => exact h.once.issued _
  | delivered resetTokenId => exact h.once
  | reset record now passwordHash => exact h.reset hread hnewest

/-- Before anything has happened. -/
def World.start (store : AuthStore) : World := ⟨store, []⟩

theorem start_kept (store : AuthStore) : Kept (.start store) where
  recorded := ⟨fun _ h => (by cases h), fun _ _ _ h => absurd h.symm (by simp [World.start])⟩
  once := ⟨fun _ => Nat.zero_le 1, fun _ _ _ _ _ h => absurd h.symm (by simp [World.start])⟩

/-- **Single use.** In every interleaving of requests for tokens and resets that writes passwords
only for the newest token of a user while it is unused, a token resets a password once at most, and
no token that was issued before a reset of its user succeeds after it. -/
theorem resets_once_of_newest (d : Deployment) (store : AuthStore) {ι : Type} [DecidableEq ι]
    (turns : List (Turn ι Request Input))
    (h : Along (protocol d).step (Calls.StepMeets WritesForNewest) (.quiet (.start store)) turns) :
    Throughout (protocol d).step (fun st => ResetsOnce st.state.history) (.quiet (.start store))
      turns := by
  have hkept := (protocol d).throughout_of_along (G := Kept) (L := HasRead)
    (fun _ _ _ => trivial) (fun _ _ _ hG hL hQ => hG.advance hL hQ)
    (fun input call w _ _ call' hnext =>
      (hasRead_next hnext).stays (advance_effect call).tokensStay)
    (fun input call w _ _ call' hL => hL.stays (advance_effect call).tokensStay)
    (start_kept store) h
  exact throughout_iff.mpr fun pre post hturns => (throughout_iff.mp hkept pre post hturns).once

namespace Example

/-- Digests and hashes are the texts themselves here. -/
def crypto : Crypto where
  sha256 := id
  hmacSha1 _ _ := []
  encrypt _ secret := .ok secret
  decrypt := .ok
  bcryptCompare password hash := password = hash
  bcryptHash _ password := password

def deployment : Deployment := { crypto }

def amaka : User where
  id := "amaka"
  email := some "amaka@fixzone.ng"
  role := .provider
  passwordHash := some "Password1"

def accounts : Store := .ofUsers ⟨[amaka], List.nodup_singleton _⟩ (Table.empty _)

def store : AuthStore := ⟨accounts, Table.empty _, Table.empty _, Table.empty _, Table.empty _⟩

/-- `steps` steps of the call of worker `i`. -/
def goOn (i steps : ℕ) : List (Turn ℕ Request Input) :=
  List.replicate steps (.advance i { now := 90000000, newId := "token-1", token := "4cN2" })

/-- Amaka asks for a reset, and is sent a token. -/
def asks : List (Turn ℕ Request Input) :=
  .start 0 (.requestPasswordReset (some "Amaka@fixzone.ng") none) :: goOn 0 5

def completes (i : ℕ) (password : String) : Turn ℕ Request Input :=
  .start i (.completePasswordReset "4cN2" password)

/-- The token resets the password, and is refused when it is sent again. -/
def completesInTurn : List (Turn ℕ Request Input) :=
  asks ++ completes 0 "Password2" :: goOn 0 2 ++ completes 1 "Password3" :: goOn 1 2

/-- Two resets that both read the token before either has used it. -/
def completesTwice : List (Turn ℕ Request Input) :=
  asks ++ completes 0 "Password2" :: completes 1 "Password3" :: goOn 0 1 ++ goOn 1 1 ++ goOn 0 1 ++
    goOn 1 1

/-- The resets of a run with the token that is sent to Amaka. -/
def resets (turns : List (Turn ℕ Request Input)) : ℕ :=
  (run (protocol deployment).step (.quiet (.start store)) turns).state.history.countP
    (Happening.isResetWith "4cN2")

end Example

open Example in
theorem completesInTurn_once : resets completesInTurn = 1 ∧
    Throughout (protocol deployment).step (fun st => ResetsOnce st.state.history)
      (.quiet (.start store)) completesInTurn :=
  ⟨by decide +kernel, resets_once_of_newest deployment store completesInTurn (by decide +kernel)⟩

open Example in
/-- A token resets the password twice. -/
theorem token_resets_twice : ¬ ∀ (d : Deployment) (store : AuthStore)
    (turns : List (Turn ℕ Request Input)),
    Throughout (protocol d).step (fun st => ResetsOnce st.state.history) (.quiet (.start store))
      turns := by
  intro h
  have hlast := throughout_iff.mp (h deployment store completesTwice) completesTwice []
    (List.append_nil _).symm
  have htwo : resets completesTwice = 2 := by decide +kernel
  have hone : resets completesTwice ≤ 1 := hlast.single "4cN2"
  omega

end FixZone.PasswordReset
