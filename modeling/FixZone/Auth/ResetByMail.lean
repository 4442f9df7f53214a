import FixZone.Auth.PasswordReset
import FixZone.Auth.ResetDelivery
import FixZone.Security.Base64Url

/-!
# A reset by mail, from end to end

A token that is issued goes into a link, the link into the fragment of a URL and that into the HTML
of a message; the recipient's browser takes it out again and the site sends it back. `tokenIn` is
this way back, and it finds the token that was issued (`tokenIn_messageFor`), whatever the token and
the route are.

The token is then good for a reset as long as no step of any call has ended it (`Ends`): it was
used, a newer token of the user was issued while it was open, or its own mail was reported
undelivered. No step makes an ended token good again, so this is exact for whole interleavings
(`mailed_link_resets_iff`).
-/

namespace FixZone.PasswordReset

open Library Accounts PrivilegedMfaService PasswordResetDelivery
open AuthService (resettablePassword writePassword passwordStore usedTokenData
  isFirebaseOwnedCitizen isCompliantPassword)
open UploadSecurityService (base64UrlOfBytes trim_base64UrlOfBytes)

/-! ### What the recipient brings back -/

/-- The address behind the first link of a page. -/
def linkIn (html : List Char) : Option (List Char) :=
  (afterFirst "<a href=\"".toList html).map entities.attributeValue

/-- The parameters of the route in the fragment of a link. -/
def linkParams (link : List Char) : Option (List (String × String)) :=
  let fragment := (link.dropWhile (· ≠ '#')).drop 1
  FormUrl.parse ((fragment.dropWhile (· ≠ '?')).drop 1)

/-- The token that the link in a message hands to the site. -/
def tokenIn (message : Message) : Option String := do
  let link ← linkIn message.html
  let params ← linkParams link
  params.lookup "token"

variable {config : Config} {request : PasswordResetDelivery.Request}

theorem linkIn_messageFor (recipientEmail : String) :
    linkIn (messageFor config request recipientEmail).html =
      some (buildResetLink config request.token request.returnTo) := by
  rw [linkIn, messageFor, afterFirst_append (by decide) (by decide +kernel), Option.map_some,
    escapeHtml, References.attributeValue_write (by decide) (by decide)]

/-- Nothing in the route is changed in the fragment. -/
theorem encodeFragment_resetRoute (token : String) (returnTo : Option String) :
    encodeFragment (resetRoute token returnTo) = resetRoute token returnTo := by
  refine encodeFragment_of_forall fun c hc => ?_
  have hform : ∀ c, FormUrl.IsFormChar c → isFragmentChar c = true := by
    rintro c (halnum | hmem)
    · exact isFragmentChar_of_isAlphanum halnum
    · have hall : "*-._+%".toList.all isFragmentChar := by decide
      exact List.all_eq_true.mp hall c hmem
  rcases List.mem_append.mp hc with hpath | hquery
  · have hall : resetPath.toList.all isFragmentChar := by decide
    exact List.all_eq_true.mp hall c hpath
  · rcases List.mem_cons.mp hquery with rfl | hparam
    · decide
    · obtain h | rfl | rfl := FormUrl.of_mem_serialize hparam
      · exact hform c h
      · decide
      · decide

/-- **Round trip of the link.** -/
theorem linkParams_buildResetLink (horigin : '#' ∉ config.resetOrigin.toList) (token : String)
    (returnTo : Option String) :
    linkParams (buildResetLink config token returnTo) = some (resetParams token returnTo) := by
  have hbefore : ∀ c ∈ config.resetOrigin.toList ++ ['/'], decide (c ≠ '#') = true := by
    intro c hc
    refine decide_eq_true fun heq => ?_
    rcases List.mem_append.mp hc with hmem | hslash
    · exact horigin (heq ▸ hmem)
    · rw [heq] at hslash
      exact absurd hslash (by decide)
  have hpath : ∀ c ∈ resetPath.toList, decide (c ≠ '?') = true :=
    List.all_eq_true.mp (by decide)
  rw [linkParams, buildResetLink, encodeFragment_resetRoute, ← List.singleton_append,
    ← List.append_assoc, List.dropWhile_append_of_pos hbefore,
    List.dropWhile_cons_of_neg (by decide), List.drop_succ_cons, List.drop_zero, resetRoute,
    List.dropWhile_append_of_pos hpath, List.dropWhile_cons_of_neg (by decide),
    List.drop_succ_cons, List.drop_zero, FormUrl.parse_serialize]

/-- The recipient brings the token back. -/
theorem tokenIn_messageFor (horigin : '#' ∉ config.resetOrigin.toList) (recipientEmail : String) :
    tokenIn (messageFor config request recipientEmail) = some request.token := by
  rw [tokenIn, linkIn_messageFor, Option.bind_eq_bind, Option.bind_some,
    linkParams_buildResetLink horigin, Option.bind_eq_bind, Option.bind_some]
  rfl

/-- The origin of a service that sends mails has no fragment. -/
theorem origin_of_load {urls : UrlParser} {env : Environment}
    (hload : loadPasswordResetDeliveryConfig urls env = .ok config)
    (henabled : config.enabled = true) : '#' ∉ config.resetOrigin.toList := by
  obtain ⟨value, url, hurl, -, horigin⟩ := (wellFormed_of_load hload).origin henabled
  exact horigin ▸ urls.origin hurl

/-! ### What ends a token -/

/-- A token that is neither used nor superseded. -/
def IsUnspent (row : PasswordResetToken) : Prop := row.usedAt = none ∧ row.supersededAt = none

/-- Whether the step ends a token: a token of the user is issued before it expires, its own mail is
not delivered, or a password is written for it. -/
def Ends (d : Deployment) (row : PasswordResetToken) (input : Input) (call : Call) (w : World) :
    Prop :=
  match call with
  | .storeToken targetUserId => targetUserId = row.userId ∧ input.now < row.expiresAt ∧
      (issueToken input.now w.store (resetToken d input targetUserId)).isOk = true
  | .deliver resetTokenId => resetTokenId = row.id ∧ input.delivered = false
  | .storePassword record now passwordHash =>
      record.id = row.id ∧ (writePassword now w.store record passwordHash).isOk = true
  | _ => False

instance (d : Deployment) (row : PasswordResetToken) (input : Input) (call : Call) (w : World) :
    Decidable (Ends d row input call w) :=
  match call with
  | .storeToken _ => inferInstanceAs (Decidable (_ ∧ _ ∧ _))
  | .deliver _ => inferInstanceAs (Decidable (_ ∧ _))
  | .storePassword _ _ _ => inferInstanceAs (Decidable (_ ∧ _))
  | .request _ => inferInstanceAs (Decidable False)
  | .createPasswordResetToken _ => inferInstanceAs (Decidable False)
  | .checkRate _ => inferInstanceAs (Decidable False)

/-- Two rows are the same token, whatever has become of it. -/
def SameToken (row found : PasswordResetToken) : Prop :=
  found.id = row.id ∧ found.userId = row.userId ∧ found.expiresAt = row.expiresAt

variable {d : Deployment} {input : Input} {w : World} {row found : PasswordResetToken}
  {tokenDigest : String}

theorem tokenWith_of_map {s s' : AuthStore} {f : PasswordResetToken → PasswordResetToken}
    (hrows : s'.resetTokens.rows = s.resetTokens.rows.map f)
    (hf : ∀ row, (f row).tokenDigest = row.tokenDigest) (tokenDigest : String) :
    tokenWith s' tokenDigest = (tokenWith s tokenDigest).map f := by
  rw [tokenWith, hrows, List.find?_map, tokenWith]
  congr 2
  funext row
  rw [Function.comp, hf]

/-- What a step leaves of a token, and whether it can still be used. -/
structure Leaves (found found' : PasswordResetToken) (ends : Prop) : Prop where
  same : SameToken found found'
  unspent : IsUnspent found' ↔ IsUnspent found ∧ ¬ends

theorem Leaves.refl {ends : Prop} (h : ¬ends) : Leaves found found ends :=
  ⟨⟨rfl, rfl, rfl⟩, (and_iff_left h).symm⟩

/-- A token that is issued supersedes the open ones of its user. -/
theorem leaves_issued {now : Millis} {s : AuthStore} {new : PasswordResetToken}
    (hfree : s.resetTokens.find? new.id = none) (hfound : tokenWith s tokenDigest = some found) :
    ∃ found', tokenWith (issuedStore now s new) tokenDigest = some found' ∧
      Leaves found found' (new.userId = found.userId ∧ now < found.expiresAt) := by
  have hmap : tokenWith { s with
      resetTokens := s.resetTokens.modifyWhere (isOpen new.userId now) (supersededData now) }
      tokenDigest = some
        (if isOpen new.userId now found then (supersededData now).apply found else found) := by
    rw [tokenWith_of_map rfl, hfound, Option.map_some]
    intro other
    split
    · rfl
    · rfl
  refine ⟨if isOpen new.userId now found then (supersededData now).apply found else found, ?_, ?_⟩
  · rw [tokenWith, issuedStore,
      Table.rows_insert_of_free (Table.find?_modifyWhere_eq_none hfree _ _), List.find?_append]
    exact congrArg (Option.or · _) hmap
  · split
    · next hopen =>
      simp only [isOpen, Bool.and_eq_true, decide_eq_true_eq] at hopen
      obtain ⟨⟨⟨huser, hused⟩, hsuperseded⟩, hexpires⟩ := hopen
      refine ⟨⟨rfl, rfl, rfl⟩, iff_of_false (fun h => Option.some_ne_none _ h.2) fun h => ?_⟩
      exact h.2 ⟨huser.symm, hexpires⟩
    · next hopen =>
      simp only [isOpen, Bool.and_eq_true, decide_eq_true_eq, not_and] at hopen
      refine ⟨⟨rfl, rfl, rfl⟩, (and_iff_left_of_imp fun hunspent => ?_).symm⟩
      rintro ⟨huser, hexpires⟩
      exact hopen ⟨⟨huser.symm, hunspent.1⟩, hunspent.2⟩ hexpires

/-- A token whose row is changed under an id, to one that is spent. -/
theorem leaves_modify {s s' : AuthStore} {tokenId : String} {data : Patch PasswordResetToken.id}
    (htokens : s'.resetTokens = s.resetTokens.modify tokenId data)
    (hdata : ∀ row, (data.apply row).tokenDigest = row.tokenDigest ∧
      SameToken row (data.apply row) ∧ ¬IsUnspent (data.apply row))
    (hfound : tokenWith s tokenDigest = some found) :
    ∃ found', tokenWith s' tokenDigest = some found' ∧
      Leaves found found' (tokenId = found.id) := by
  have hdigest (row : PasswordResetToken) :
      (Table.patchAt tokenId data row).tokenDigest = row.tokenDigest := by
    unfold Table.patchAt
    split
    · exact (hdata row).1
    · rfl
  refine ⟨Table.patchAt tokenId data found, ?_, ?_⟩
  · rw [tokenWith_of_map (congrArg Table.rows htokens) hdigest, hfound, Option.map_some]
  · unfold Table.patchAt
    split
    · next hid => exact ⟨(hdata found).2.1, iff_of_false (hdata found).2.2 fun h => h.2 hid.symm⟩
    · next hid => exact .refl fun heq => hid heq.symm

theorem leaves_requestStep (hfound : tokenWith w.store tokenDigest = some found)
    (request : Request) :
    ∃ found', tokenWith (requestStep d input w request).1.store tokenDigest = some found' ∧
      Leaves found found' (Ends d found input (.request request) w) := by
  have hsame : (requestStep d input w request).1.store.resetTokens = w.store.resetTokens := by
    have heffect : Effect d input w (.request request) _ := requestStep_effect request
    generalize (requestStep d input w request).1 = w' at heffect
    cases heffect with
    | accounts call accounts => rfl
  exact ⟨found, by rw [tokenWith, hsame]; exact hfound, .refl id⟩

/-- A token after a step of a call. -/
theorem leaves_advance (hfound : tokenWith w.store tokenDigest = some found) (call : Call) :
    ∃ found', tokenWith (advance d input w call).1.store tokenDigest = some found' ∧
      Leaves found found' (Ends d found input call w) := by
  cases call with
  | request request => exact leaves_requestStep hfound request
  | createPasswordResetToken targetUserId =>
    have hsame : (advance d input w (.createPasswordResetToken targetUserId)).1 = w := by
      rw [advance, createPasswordResetTokenStep]
      split
      · rfl
      · exact acceptUnless_fst _ _
    exact ⟨found, by rw [hsame]; exact hfound, .refl id⟩
  | checkRate targetUserId =>
    have hsame : (advance d input w (.checkRate targetUserId)).1 = w := acceptUnless_fst _ _
    exact ⟨found, by rw [hsame]; exact hfound, .refl id⟩
  | storeToken targetUserId =>
    have hends : Ends d found input (.storeToken targetUserId) w ↔ targetUserId = found.userId ∧
        input.now < found.expiresAt ∧
        (issueToken input.now w.store (resetToken d input targetUserId)).isOk = true := Iff.rfl
    cases hissue : issueToken input.now w.store (resetToken d input targetUserId) with
    | error e =>
      rw [hissue] at hends
      refine ⟨found, ?_, .refl fun h => Bool.noConfusion (hends.mp h).2.2⟩
      rw [advance, hissue]
      exact hfound
    | ok s =>
      obtain ⟨-, hs⟩ := throwIf_bind_eq_ok.mp hissue
      obtain ⟨hfree, hs⟩ := throwIf_bind_eq_ok.mp hs
      obtain rfl := pure_eq_ok.mp hs
      rw [not_or, Bool.not_eq_true, Option.isSome_eq_false_iff,
        Option.isNone_iff_eq_none] at hfree
      obtain ⟨found', hfound', hsame, hunspent⟩ := leaves_issued hfree.1 hfound
      refine ⟨found', ?_, hsame, hunspent.trans ?_⟩
      · rw [advance, hissue]
        exact hfound'
      · rw [hends, hissue]
        exact and_congr_right fun _ => not_congr (and_congr_right fun _ =>
          (and_iff_left rfl).symm)
  | deliver resetTokenId =>
    cases hdelivered : input.delivered with
    | true =>
      refine ⟨found, ?_, .refl fun h => ?_⟩
      · rw [advance, recordDelivery, if_pos hdelivered]
        exact hfound
      · exact Bool.noConfusion (h.2.symm.trans hdelivered)
    | false =>
      have htokens : (recordDelivery input w.store resetTokenId).resetTokens =
          w.store.resetTokens.modify resetTokenId (supersededData input.now) := by
        rw [recordDelivery, hdelivered]
        rfl
      obtain ⟨found', hfound', hsame, hunspent⟩ := leaves_modify htokens
        (fun row => ⟨rfl, ⟨rfl, rfl, rfl⟩, fun h => Option.some_ne_none _ h.2⟩) hfound
      exact ⟨found', hfound', hsame, hunspent.trans
        (and_congr_right fun _ => not_congr (and_iff_left hdelivered).symm)⟩
  | storePassword record now passwordHash =>
    have hends : Ends d found input (.storePassword record now passwordHash) w ↔
        record.id = found.id ∧ (writePassword now w.store record passwordHash).isOk = true :=
      Iff.rfl
    cases hwrite : writePassword now w.store record passwordHash with
    | error e =>
      rw [hwrite] at hends
      refine ⟨found, ?_, .refl fun h => Bool.noConfusion (hends.mp h).2⟩
      rw [advance, hwrite]
      exact hfound
    | ok s =>
      obtain ⟨-, hs⟩ := throwIf_bind_eq_ok.mp hwrite
      obtain rfl := pure_eq_ok.mp hs
      have htokens : (passwordStore now w.store record passwordHash).resetTokens =
          w.store.resetTokens.modify record.id (usedTokenData now) := rfl
      obtain ⟨found', hfound', hsame, hunspent⟩ := leaves_modify htokens
        (fun row => ⟨rfl, ⟨rfl, rfl, rfl⟩, fun h => Option.some_ne_none _ h.1⟩) hfound
      refine ⟨found', ?_, hsame, hunspent.trans ?_⟩
      · rw [advance, hwrite]
        exact hfound'
      · rw [hends, hwrite]
        exact and_congr_right fun _ => not_congr (and_iff_left rfl).symm

/-! ### A token along an interleaving -/

/-- The token is stored under its digest. -/
def IsStored (row : PasswordResetToken) (s : AuthStore) : Prop :=
  ∃ found, tokenWith s row.tokenDigest = some found ∧ SameToken row found

/-- The token is stored and can still be used. -/
def IsLive (row : PasswordResetToken) (s : AuthStore) : Prop :=
  ∃ found, tokenWith s row.tokenDigest = some found ∧ SameToken row found ∧ IsUnspent found

theorem SameToken.trans {row found found' : PasswordResetToken} (h : SameToken row found)
    (h' : SameToken found found') : SameToken row found' :=
  ⟨h'.1.trans h.1, h'.2.1.trans h.2.1, h'.2.2.trans h.2.2⟩

/-- Whether a step ends a token depends on what all its rows have in common. -/
theorem SameToken.ends_iff (h : SameToken row found) (call : Call) :
    Ends d found input call w ↔ Ends d row input call w := by
  obtain ⟨hid, huser, hexpires⟩ := h
  cases call with
  | storeToken targetUserId => rw [Ends, Ends, huser, hexpires]
  | deliver resetTokenId => rw [Ends, Ends, hid]
  | storePassword record now passwordHash => rw [Ends, Ends, hid]
  | request request => exact Iff.rfl
  | createPasswordResetToken targetUserId => exact Iff.rfl
  | checkRate targetUserId => exact Iff.rfl

section Run

variable {ι : Type} [DecidableEq ι] {st : Calls World ι Call} (turn : Turn ι Request Input)

/-- A stored token stays stored, and is live after a turn exactly when it was live before and the
turn makes no step that ends it. -/
theorem stored_step (h : IsStored row st.state.store) :
    IsStored row ((protocol d).step turn st).state.store ∧
      (IsLive row ((protocol d).step turn st).state.store ↔ IsLive row st.state.store ∧
        st.StepMeets (fun input call w => ¬Ends d row input call w) turn) := by
  obtain ⟨i, request, rfl, hstep⟩ | ⟨i, input, call, hadvances⟩ | ⟨hnone, hstep⟩ :=
    (protocol d).step_cases st turn
  · rw [hstep]
    exact ⟨h, (and_iff_left fun _ _ _ h => by cases h.turn).symm⟩
  · rw [Calls.stepMeets_iff hadvances, (protocol d).step_of_advances hadvances]
    obtain ⟨found, hfound, hsame⟩ := h
    obtain ⟨found', hfound', hleaves⟩ : ∃ found', tokenWith (advance d input st.state call).1.store
        row.tokenDigest = some found' ∧ Leaves found found' (Ends d found input call st.state) :=
      leaves_advance hfound call
    refine ⟨⟨found', hfound', hsame.trans hleaves.same⟩, ?_⟩
    have hlive : IsLive row (advance d input st.state call).1.store ↔ IsUnspent found' :=
      ⟨fun ⟨other, hother, _, hunspent⟩ => Option.some.inj (hother.symm.trans hfound') ▸ hunspent,
        fun hunspent => ⟨found', hfound', hsame.trans hleaves.same, hunspent⟩⟩
    have hlive' : IsLive row st.state.store ↔ IsUnspent found :=
      ⟨fun ⟨other, hother, _, hunspent⟩ => Option.some.inj (hother.symm.trans hfound) ▸ hunspent,
        fun hunspent => ⟨found, hfound, hsame, hunspent⟩⟩
    refine hlive.trans (hleaves.unspent.trans ?_)
    rw [hlive', hsame.ends_iff]
  · rw [hstep]
    exact ⟨h, (and_iff_left fun i input call h => absurd h (hnone i input call)).symm⟩

/-- A live token is live after an interleaving exactly when no step has ended it. -/
theorem live_run_iff (h : IsLive row st.state.store) (turns : List (Turn ι Request Input)) :
    IsLive row (run (protocol d).step st turns).state.store ↔
      Along (protocol d).step (Calls.StepMeets fun input call w => ¬Ends d row input call w) st
        turns := by
  have hstored : IsStored row st.state.store := by
    obtain ⟨found, hfound, hsame, -⟩ := h
    exact ⟨found, hfound, hsame⟩
  exact run_iff_along_of_lasting (A := fun st : Calls World ι Call => IsStored row st.state.store)
    (I := fun st : Calls World ι Call => IsLive row st.state.store)
    (fun _ turn hs => (stored_step turn hs).1)
    (fun _ turn hs hlive => ((stored_step turn hs).2.mp hlive).1)
    (fun _ turn hs hlive => (stored_step turn hs).2.trans (and_iff_right hlive)) hstored h turns

end Run

/-! ### The whole way -/

/-- The account can have its password reset when the reset is completed. -/
def IsResettable (s : AuthStore) (userId : String) : Prop :=
  ∃ user, s.accounts.user? userId = some user ∧ user.accountStatus = .active ∧
    isFirebaseOwnedCitizen user = false

/-- A stored token is taken as long as it is live and not expired, for an account that can have its
password reset. -/
theorem resettable_iff {crypto : Crypto} {now : Millis} {s : AuthStore} {token password : String}
    (hstored : IsStored row s) (hdigest : row.tokenDigest = crypto.sha256 (trim token)) :
    (∃ record, resettablePassword crypto now s token password = .ok record) ↔
      isCompliantPassword (trim password) = true ∧ now < row.expiresAt ∧
        IsResettable s row.userId ∧ IsLive row s := by
  obtain ⟨found, hfound, hsame⟩ := hstored
  have huser := hsame.2.1
  have hexpires := hsame.2.2
  have hlookup : (s.resetTokens.rows.find? fun row =>
      row.tokenDigest = crypto.sha256 (trim token)) = some found := hdigest ▸ hfound
  constructor
  · rintro ⟨record, h⟩
    obtain ⟨hcompliant, h⟩ := throwIf_bind_eq_ok.mp h
    obtain ⟨record', hrecord, h⟩ := orThrow_bind_eq_ok.mp h
    rw [hlookup] at hrecord
    obtain rfl := Option.some.inj hrecord
    obtain ⟨user, haccount, h⟩ := orThrow_bind_eq_ok.mp h
    obtain ⟨hstate, -⟩ := throwIf_bind_eq_ok.mp h
    simp only [not_or, not_not, not_le] at hstate
    obtain ⟨hused, hsuperseded, hlater, hactive, howned⟩ := hstate
    exact ⟨Bool.not_eq_false _ ▸ hcompliant, hexpires ▸ hlater,
      ⟨user, huser ▸ haccount, hactive, Bool.not_eq_true _ ▸ howned⟩,
      found, hfound, hsame, hused, hsuperseded⟩
  · rintro ⟨hcompliant, hlater, ⟨user, haccount, hactive, howned⟩, found', hfound', -, hunspent⟩
    obtain rfl := Option.some.inj (hfound.symm.trans hfound')
    refine ⟨found, throwIf_bind_eq_ok.mpr ⟨by rw [hcompliant]; exact Bool.noConfusion, ?_⟩⟩
    refine orThrow_bind_eq_ok.mpr ⟨found, hlookup, ?_⟩
    refine orThrow_bind_eq_ok.mpr ⟨user, huser.symm ▸ haccount, ?_⟩
    refine throwIf_bind_eq_ok.mpr ⟨?_, rfl⟩
    simp only [not_or, not_not, not_le]
    exact ⟨hunspent.1, hunspent.2, hexpires.symm ▸ hlater, hactive,
      by rw [howned]; exact Bool.noConfusion⟩

/-- A token that has just been issued is live. -/
theorem live_of_issued {s : AuthStore} {targetUserId : String}
    (hissue : issueToken input.now w.store (resetToken d input targetUserId) = .ok s) :
    IsLive (resetToken d input targetUserId) s := by
  obtain ⟨-, hs⟩ := throwIf_bind_eq_ok.mp hissue
  obtain ⟨hfree, hs⟩ := throwIf_bind_eq_ok.mp hs
  obtain rfl := pure_eq_ok.mp hs
  rw [not_or, Bool.not_eq_true, Option.isSome_eq_false_iff, Option.isNone_iff_eq_none] at hfree
  refine ⟨_, ?_, ⟨rfl, rfl, rfl⟩, rfl, rfl⟩
  have hnone : tokenWith { w.store with
      resetTokens := w.store.resetTokens.modifyWhere (isOpen targetUserId input.now)
        (supersededData input.now) } (resetToken d input targetUserId).tokenDigest = none := by
    rw [tokenWith_of_map rfl, Option.map_eq_none_iff]
    · refine List.find?_eq_none.mpr fun other hother heq => hfree.2 ⟨other, hother, ?_⟩
      exact of_decide_eq_true heq
    · intro other
      split
      · rfl
      · rfl
  rw [tokenWith, issuedStore,
    Table.rows_insert_of_free (Table.find?_modifyWhere_eq_none hfree.1 _ _), List.find?_append]
  refine (congrArg (Option.or · _) hnone).trans ?_
  simp

/-- **The mailed link works.** Whatever random bytes a token is made of, the recipient of the mail
takes it out of the link as it was issued. After every interleaving of calls, with those under way
at that time, it resets the password at `now` exactly when no step has ended it and it is not
expired, to a compliant password of an account that can have it reset. -/
theorem mailed_link_resets_iff {ι : Type} [DecidableEq ι] {urls : UrlParser} {env : Environment}
    (hload : loadPasswordResetDeliveryConfig urls env = .ok config) {bytes : List ℕ}
    (hbytes : ∀ byte ∈ bytes, byte < 256) (htoken : input.token = base64UrlOfBytes bytes)
    {targetUserId : String} {st : Calls World ι Call}
    (hissue : issueToken input.now w.store (resetToken d input targetUserId) =
      .ok st.state.store)
    {recipientEmail : String} (hsent : IsSent config request recipientEmail)
    (hrequest : request.token = input.token) (turns : List (Turn ι Request Input)) (now : Millis)
    (password : String) :
    ∃ token, tokenIn (messageFor config request recipientEmail) = some token ∧
      ((∃ record, resettablePassword d.crypto now (run (protocol d).step st turns).state.store token
          password = .ok record) ↔
        isCompliantPassword (trim password) = true ∧
          now < (resetToken d input targetUserId).expiresAt ∧
          IsResettable (run (protocol d).step st turns).state.store targetUserId ∧
          Along (protocol d).step (Calls.StepMeets fun input' call w' =>
            ¬Ends d (resetToken d input targetUserId) input' call w') st turns) := by
  have horigin := origin_of_load hload hsent.1
  have hlive := live_of_issued hissue
  refine ⟨input.token, hrequest ▸ tokenIn_messageFor horigin recipientEmail, ?_⟩
  have hstored : IsStored (resetToken d input targetUserId)
      (run (protocol d).step st turns).state.store := by
    obtain ⟨found, hfound, hsame, -⟩ := hlive
    exact run_inv (I := fun st : Calls World ι Call =>
      IsStored (resetToken d input targetUserId) st.state.store) (Q := fun _ => True)
      (fun _ turn hs _ => (stored_step turn hs).1) ⟨found, hfound, hsame⟩ fun _ _ => trivial
  have hdigest : (resetToken d input targetUserId).tokenDigest =
      d.crypto.sha256 (trim input.token) := by
    rw [htoken, trim_base64UrlOfBytes hbytes, ← htoken]
    rfl
  rw [resettable_iff hstored hdigest, live_run_iff hlive]
  exact Iff.rfl

namespace Example

/-- The bytes that the random generator gives. -/
def randomBytes : List ℕ := [147, 223, 211, 207, 238, 16, 250, 3]

/-- What the step finds that issues the token. -/
def issuing : Input where
  now := 90000000
  newId := "token-1"
  token := base64UrlOfBytes randomBytes

/-- The request for the mail. -/
def mail : PasswordResetDelivery.Request where
  recipientEmail := some "amaka@fixzone.ng"
  token := issuing.token
  expiresAt := 90900000
  returnTo := some "/provider-login"

/-- After the token is issued. -/
def issued : Calls World ℕ Call :=
  .quiet (.start (issuedStore 90000000 store (resetToken deployment issuing "amaka")))

/-- Meanwhile somebody asks for a reset of an account that does not exist. -/
def meanwhile : List (Turn ℕ Request Input) :=
  .start 0 (.requestPasswordReset (some "tunde@fixzone.ng") none) :: goOn 0 1

end Example

open Example in
theorem mailed_link_resets_amaka : ∃ token,
    tokenIn (messageFor PasswordResetDelivery.Example.relayConfig mail "amaka@fixzone.ng") =
        some token ∧
      ∃ record, resettablePassword deployment.crypto 90500000
        (run (protocol deployment).step issued meanwhile).state.store token "Password2" =
          .ok record := by
  have hload : loadPasswordResetDeliveryConfig PasswordResetDelivery.Example.siteUrls
      PasswordResetDelivery.Example.environment =
        .ok PasswordResetDelivery.Example.relayConfig := by decide +kernel
  have hissue : issueToken issuing.now (World.start store).store
      (resetToken deployment issuing "amaka") = .ok issued.state.store :=
    throwIf_bind_eq_ok.mpr ⟨by decide +kernel, throwIf_bind_eq_ok.mpr ⟨by decide +kernel, rfl⟩⟩
  have hbytes : ∀ byte ∈ randomBytes, byte < 256 := by decide
  have hsent : IsSent PasswordResetDelivery.Example.relayConfig mail "amaka@fixzone.ng" :=
    ⟨rfl, rfl, by decide⟩
  obtain ⟨token, htoken, hiff⟩ :=
    mailed_link_resets_iff hload hbytes rfl hissue hsent rfl meanwhile 90500000 "Password2"
  exact ⟨token, htoken, hiff.mpr ⟨by decide +kernel, by decide +kernel,
    ⟨amaka, rfl, rfl, by decide⟩, by decide +kernel⟩⟩

end FixZone.PasswordReset
