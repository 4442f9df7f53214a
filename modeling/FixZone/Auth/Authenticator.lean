import FixZone.Auth.Base32
import FixZone.Auth.Effects
import FixZone.Auth.MfaEnvelope
import FixZone.Library.Numbering
import FixZone.Library.UriComponent

/-!
# Authenticators

What `startEnrollment` hands out is the link `provisioningUri`, which the user scans with an
authenticator; what the service keeps is the secret in the envelope of `encrypt`. Here the two ends
meet again: the link is read by its own rules (`readKeyUri`), and the enrollment is looked up after
any interleaving of later calls. Its row keeps user and secret (`KeepsSecret`), whatever becomes of
its status, and so the service accepts a code exactly when the authenticator shows it at a time
whose step is at most one away from that of the service (`authenticator_accepted_iff`).
-/

namespace FixZone.PrivilegedMfaService

open Library
open ReportService (HttpError)

/-! ### The link -/

/-- The issuer in `startEnrollment` and `provisioningUri`. -/
def mfaIssuer : String := "SecureZone FixZone Administration"

/-- `encodeURIComponent`. -/
def encodeURIComponent (text : String) : String := String.ofList (UriComponent.encode text)

/-- `provisioningUri`. -/
def provisioningUri (accountName secret : String) : String :=
  "otpauth://totp/" ++ encodeURIComponent mfaIssuer ++ ":" ++ encodeURIComponent accountName ++
    "?secret=" ++ encodeURIComponent secret ++ "&issuer=" ++ encodeURIComponent mfaIssuer ++
    "&algorithm=SHA1&digits=6&period=" ++ toString totpStepSeconds

/-- What an authenticator reads in a link. -/
structure KeyUri where
  label : String
  params : List (String × String)

/-- The scheme and the type of the links. -/
def keyUriStart : List Char := "otpauth://totp/".toList

/-- Reading a link: the label up to the question mark, then the parameters. -/
def readKeyUri (uri : String) : Option KeyUri := do
  guard (keyUriStart.isPrefixOf uri.toList)
  let rest := uri.toList.drop keyUriStart.length
  let label ← FormUrl.decode (rest.takeWhile (· ≠ '?'))
  let params ← FormUrl.parse ((rest.dropWhile (· ≠ '?')).drop 1)
  return { label, params }

/-- The secret in a link. -/
def KeyUri.secret? (uri : KeyUri) : Option String := uri.params.lookup "secret"

/-- The parameters of a link. -/
def keyUriParams (secret : String) : List (String × String) :=
  [("secret", secret), ("issuer", mfaIssuer), ("algorithm", "SHA1"), ("digits", "6"),
    ("period", "30")]

theorem lookup_keyUriParams (secret : String) :
    (keyUriParams secret).lookup "secret" = some secret := by
  simp [keyUriParams]

/-- The names, and the values that are no texts of the user, are written as they are. -/
theorem encode_plain : ["secret", "issuer", "algorithm", "SHA1", "digits", "6", "period",
    "30"].all fun text => UriComponent.encode text = text.toList := by
  decide +kernel

/-- The parameters of the link are joined as those of a form. -/
theorem toList_provisioningUri (accountName secret : String) :
    (provisioningUri accountName secret).toList =
      keyUriStart ++ ((UriComponent.encode mfaIssuer ++ ':' :: UriComponent.encode accountName) ++
        '?' :: ['&'].intercalate ((keyUriParams secret).map fun param =>
          UriComponent.encode param.1 ++ '=' :: UriComponent.encode param.2)) := by
  have hplain := encode_plain
  simp only [List.all_cons, List.all_nil, Bool.and_true, Bool.and_eq_true,
    decide_eq_true_eq] at hplain
  obtain ⟨hsecret, hissuer, halgorithm, hsha, hdigits, hsix, hperiod, hthirty⟩ := hplain
  have hseconds : toString totpStepSeconds = "30" := by decide +kernel
  have hjoined (issuer account shared : List Char) :
      "otpauth://totp/".toList ++ issuer ++ ":".toList ++ account ++ "?secret=".toList ++ shared ++
        "&issuer=".toList ++ issuer ++ "&algorithm=SHA1&digits=6&period=".toList ++ "30".toList =
      "otpauth://totp/".toList ++ (issuer ++ ':' :: account ++ '?' :: ['&'].intercalate
        ["secret".toList ++ '=' :: shared, "issuer".toList ++ '=' :: issuer,
          "algorithm".toList ++ '=' :: "SHA1".toList, "digits".toList ++ '=' :: "6".toList,
          "period".toList ++ '=' :: "30".toList]) := by
    simp [List.intercalate]
  unfold provisioningUri keyUriParams keyUriStart
  rw [hseconds]
  simp only [List.map_cons, List.map_nil, encodeURIComponent, String.toList_append,
    String.toList_ofList, hsecret, hissuer, halgorithm, hsha, hdigits, hsix, hperiod, hthirty]
  exact hjoined _ _ _

/-- **Round trip.** An authenticator finds in a link whom it is for, and the secret. -/
theorem readKeyUri_provisioningUri (accountName secret : String) :
    readKeyUri (provisioningUri accountName secret) =
      some ⟨mfaIssuer ++ ":" ++ accountName, keyUriParams secret⟩ := by
  have hlabel : ∀ c ∈ UriComponent.encode mfaIssuer ++ ':' :: UriComponent.encode accountName,
      decide (c ≠ '?') = true := by
    intro c hc
    refine decide_eq_true fun heq => ?_
    subst heq
    rcases List.mem_append.mp hc with h | h
    · exact UriComponent.notMem_encode (by decide) _ h
    · exact (List.mem_cons.mp h).elim (by decide) (UriComponent.notMem_encode (by decide) _)
  have hbytes : FormUrl.decodeBytes
      (UriComponent.encode mfaIssuer ++ ':' :: UriComponent.encode accountName) =
        utf8Bytes (mfaIssuer ++ ":" ++ accountName) := by
    have haccount := UriComponent.decodeBytes_encode_append accountName []
    rw [List.append_nil, FormUrl.decodeBytes, List.append_nil] at haccount
    rw [UriComponent.decodeBytes_encode_append, FormUrl.decodeBytes_cons (by decide), haccount,
      utf8Bytes_append, utf8Bytes_append, List.append_assoc]
    rfl
  rw [readKeyUri, toList_provisioningUri, List.drop_left]
  dsimp only
  rw [List.takeWhile_append_of_pos hlabel, List.dropWhile_append_of_pos hlabel,
    List.takeWhile_cons_of_neg (by decide), List.dropWhile_cons_of_neg (by decide),
    List.append_nil, List.drop_succ_cons, List.drop_zero, UriComponent.parse_params,
    FormUrl.decode, hbytes, ofUtf8Bytes_utf8Bytes]
  simp [guard]

/-! ### Codes -/

/-- `generateTotpCode`, from the epoch on. -/
def generateTotpCode (hmacSha1 : List ℕ → List ℕ → List ℕ) (secret : String) (timeMs : Millis) :
    Except HttpError String :=
  generateTotpCodeForStep hmacSha1 secret (currentTotpStep timeMs).toNat

variable {hmacSha1 : List ℕ → List ℕ → List ℕ}

/-- A number below a million is padded to six digits. -/
theorem isSixDigits_padded {n : ℕ} (h : n < 1000000) : isSixDigits (padded 6 n) = true := by
  have hshort : (Nat.toDigits 10 n).length ≤ 6 :=
    (Nat.length_toDigits_le_iff (by decide) (by decide)).mpr h
  have hdigit : ∀ c ∈ (padded 6 n).toList, c.isDigit = true := by
    intro c hc
    rw [toList_padded, List.mem_append] at hc
    rcases hc with hzero | hc
    · rw [(List.mem_replicate.mp hzero).2]
      rfl
    · exact Nat.isDigit_of_mem_toDigits (by decide) (by decide) hc
  have hlength : (padded 6 n).toList.length = 6 := by
    rw [toList_padded, List.length_append, List.length_replicate]
    omega
  rw [isSixDigits, hlength, Bool.and_eq_true, List.all_eq_true]
  exact ⟨rfl, hdigit⟩

/-- A code consists of six digits. -/
theorem isSixDigits_code {secret code : String} {step : ℕ}
    (h : generateTotpCodeForStep hmacSha1 secret step = .ok code) : isSixDigits code = true := by
  obtain ⟨key, -, h⟩ := bind_eq_ok.mp h
  rw [← pure_eq_ok.mp h]
  exact isSixDigits_padded (Nat.mod_lt _ (by decide))

/-- The first candidate whose code was sent is found if there is one. -/
theorem matchStepAmong_iff {secret : String} {key : List ℕ}
    (hkey : base32Decode secret = .ok key) (normalized : String) (candidates : List ℤ) :
    ∃ matched, matchStepAmong hmacSha1 secret normalized candidates = .ok matched ∧
      (matched.isSome ↔ ∃ step : ℕ, (step : ℤ) ∈ candidates ∧
        generateTotpCodeForStep hmacSha1 secret step = .ok normalized) := by
  induction candidates with
  | nil => exact ⟨none, rfl, iff_of_false nofun fun ⟨_, h, _⟩ => nomatch h⟩
  | cons candidate rest ih =>
    obtain ⟨matched, hmatched, hiff⟩ := ih
    cases candidate with
    | negSucc n =>
      refine ⟨matched, hmatched, hiff.trans (exists_congr fun step => and_congr_left' ?_)⟩
      rw [List.mem_cons]
      exact (or_iff_right (by omega)).symm
    | ofNat candidateStep =>
      obtain ⟨candidate, hcandidate⟩ : ∃ candidate,
          generateTotpCodeForStep hmacSha1 secret candidateStep = .ok candidate := by
        rw [generateTotpCodeForStep, hkey]
        exact ⟨_, rfl⟩
      rw [matchStepAmong, hcandidate, ok_bind]
      split
      · next hsent =>
        refine ⟨some candidateStep, rfl, iff_of_true rfl ⟨candidateStep, List.mem_cons_self, ?_⟩⟩
        rw [hcandidate, hsent]
      · next hother =>
        refine ⟨matched, hmatched, hiff.trans (exists_congr fun step =>
          and_congr_left fun hcode => ?_)⟩
        rw [List.mem_cons]
        refine (or_iff_right fun hstep => hother ?_).symm
        have hsame : step = candidateStep := Int.ofNat.inj hstep
        rw [hsame, hcandidate] at hcode
        exact Except.ok.inj hcode

theorem currentTotpStep_start (step : ℕ) : currentTotpStep ((step : ℤ) * 30000) = step := by
  unfold currentTotpStep totpStepSeconds
  omega

theorem currentTotpStep_nonneg {time : ℤ} (h : 0 ≤ time) : 0 ≤ currentTotpStep time := by
  unfold currentTotpStep totpStepSeconds
  omega

/-- The codes of the steps from the epoch on are those shown at some time. -/
theorem exists_step_iff {secret : String} {p : ℤ → Prop} {code : String} :
    (∃ step : ℕ, p step ∧ generateTotpCodeForStep hmacSha1 secret step = .ok code) ↔
      ∃ time : Millis, 0 ≤ time ∧ p (currentTotpStep time) ∧
        generateTotpCode hmacSha1 secret time = .ok code := by
  constructor
  · rintro ⟨step, hp, hcode⟩
    refine ⟨(step : ℤ) * 30000, Int.mul_nonneg (Int.natCast_nonneg step) (by decide), ?_, ?_⟩
    · rwa [currentTotpStep_start]
    · rwa [generateTotpCode, currentTotpStep_start, Int.toNat_natCast]
  · rintro ⟨time, htime, hp, hcode⟩
    refine ⟨(currentTotpStep time).toNat, ?_, hcode⟩
    rwa [Int.toNat_of_nonneg (currentTotpStep_nonneg htime)]

/-- A code matches exactly when it is shown at a time whose step is at most one away from the
current one. -/
theorem matchTotpStep_iff {secret : String} {key : List ℕ} (hkey : base32Decode secret = .ok key)
    (now : Millis) (code : String) :
    ∃ matched, matchTotpStep hmacSha1 now code secret = .ok matched ∧
      (matched.isSome ↔ ∃ time, 0 ≤ time ∧
        (currentTotpStep time - currentTotpStep now).natAbs ≤ 1 ∧
        generateTotpCode hmacSha1 secret time = .ok (trim code)) := by
  refine (exists_congr fun matched => and_congr_right' (iff_congr Iff.rfl
    (exists_step_iff (p := fun step => (step - currentTotpStep now).natAbs ≤ 1)))).mp ?_
  unfold matchTotpStep
  split
  · next hdigits =>
    refine ⟨none, rfl, iff_of_false nofun ?_⟩
    rintro ⟨step, -, hcode⟩
    rw [isSixDigits_code hcode] at hdigits
    cases hdigits
  · obtain ⟨matched, hmatched, hiff⟩ := matchStepAmong_iff hkey (trim code)
      ([-1, 0, 1].map fun offset => currentTotpStep now + offset)
    refine ⟨matched, hmatched, hiff.trans (exists_congr fun step => and_congr_left' ?_)⟩
    simp only [List.map_cons, List.map_nil, List.mem_cons, List.not_mem_nil, or_false]
    omega

end FixZone.PrivilegedMfaService

namespace FixZone.AuthService

open Library Accounts PrivilegedMfaService
open ReportService (HttpError)

/-- A deployment whose service encrypts secrets with AES-GCM, under the key of its environment. -/
def Deployment.withCipher (d : Deployment) (gcm : Aes256Gcm) : Deployment :=
  { d with crypto := { d.crypto with
    encrypt := fun iv secret => encrypt gcm d.env d.crypto.sha256 (ofBase64Url iv) secret
    decrypt := decrypt gcm d.env d.crypto.sha256 } }

/-- The enrollment is there, with this user and this secret. -/
def KeepsSecret (enrollmentId userId payload : String)
    (enrollments : Table PrivilegedMfaEnrollment.id) : Prop :=
  ∃ row, enrollments.find? enrollmentId = some row ∧ row.userId = userId ∧
    row.encryptedTotpSecret = payload

variable {enrollmentId userId payload : String} {enrollments : Table PrivilegedMfaEnrollment.id}
  {d : Deployment} {input : Input} {call : Call} {w : World}

theorem KeepsSecret.modify {own : String} {data : Patch PrivilegedMfaEnrollment.id}
    (h : KeepsSecret enrollmentId userId payload enrollments)
    (hdata : ∀ row, (data.apply row).userId = row.userId ∧
      (data.apply row).encryptedTotpSecret = row.encryptedTotpSecret) :
    KeepsSecret enrollmentId userId payload (enrollments.modify own data) := by
  obtain ⟨row, hrow, huser, hsecret⟩ := h
  unfold KeepsSecret
  rw [Table.find?_modify, hrow]
  split
  · exact ⟨_, rfl, (hdata row).1.trans huser, (hdata row).2.trans hsecret⟩
  · exact ⟨row, rfl, huser, hsecret⟩

/-- Another enrollment may replace this one, which then keeps its secret. -/
theorem KeepsSecret.startedStore {now : Millis} {s : AuthStore} {new : PrivilegedMfaEnrollment}
    (h : KeepsSecret enrollmentId userId payload s.enrollments) :
    KeepsSecret enrollmentId userId payload (startedStore now s new).enrollments := by
  obtain ⟨row, hrow, huser, hsecret⟩ := h
  have hreplaced := Table.find?_modifyWhere s.enrollments
    (fun row => row.userId = new.userId && row.status = .pending) (replacedData now) enrollmentId
  rw [hrow, Option.map_some] at hreplaced
  refine ⟨_, Table.find?_insert_of_some hreplaced, ?_, ?_⟩
  · split <;> exact huser
  · split <;> exact hsecret

theorem KeepsSecret.advance (h : KeepsSecret enrollmentId userId payload w.store.enrollments) :
    KeepsSecret enrollmentId userId payload (advance d input w call).1.store.enrollments := by
  cases hcompletes : completion d input w call with
  | none =>
    have heffect := advance_effect hcompletes
    generalize (AuthService.advance d input w call).1 = w' at heffect
    cases heffect with
    | started validated new => exact h.startedStore
    | _ => exact h
  | some happening =>
    rw [advance_of_completion hcompletes]
    cases completes_of_completion hcompletes with
    | activated => exact h.modify fun _ => ⟨rfl, rfl⟩
    | totp => exact h.modify fun _ => ⟨rfl, rfl⟩
    | recoveryCode => exact h

variable {ι : Type} [DecidableEq ι] {st : Calls World ι Call}

theorem KeepsSecret.run (h : KeepsSecret enrollmentId userId payload st.state.store.enrollments)
    (turns : List (Turn ι Request Input)) :
    KeepsSecret enrollmentId userId payload
      (run (protocol d).step st turns).state.store.enrollments :=
  (Calls.Meets.run (protocol d) (G := fun w =>
      KeepsSecret enrollmentId userId payload w.store.enrollments) (L := fun _ _ => True)
    (fun _ _ _ => trivial) (fun _ _ _ h _ => h.advance) (fun _ _ _ _ _ _ _ => trivial)
    (fun _ _ _ _ _ _ _ => trivial) ⟨h, fun _ _ _ => trivial⟩ turns).state

/-- What the answer of `startEnrollment` says of the step: the enrollment that is stored. -/
theorem stored_of_started {validated : PreAuthValidation} {accountName secret : String}
    (hanswer : (advance d input w (.storeEnrollment validated)).2 =
      .returns (.ok (.mfaEnrollmentStarted accountName secret))) :
    secret = base32Encode input.secretBytes ∧
      accountName = validated.user.email.getD validated.user.id ∧
      ∃ payload, d.crypto.encrypt input.iv secret = .ok payload ∧
        KeepsSecret input.newId validated.user.id payload
          (advance d input w (.storeEnrollment validated)).1.store.enrollments := by
  unfold advance storeEnrollmentStep at hanswer ⊢
  dsimp only at hanswer ⊢
  cases hpayload : d.crypto.encrypt input.iv (base32Encode input.secretBytes) with
  | error e =>
    rw [hpayload] at hanswer
    cases hanswer
  | ok payload =>
    rw [hpayload] at hanswer
    dsimp only [orThrows] at hanswer ⊢
    cases hcreate : createEnrollment input.now w.store
      { id := input.newId, userId := validated.user.id, encryptedTotpSecret := payload,
        createdAt := input.now } with
    | error e =>
      rw [hcreate] at hanswer
      cases hanswer
    | ok s =>
      rw [hcreate] at hanswer
      cases hanswer
      obtain ⟨hfree, rfl⟩ := createEnrollment_eq_ok.mp hcreate
      exact ⟨rfl, rfl, payload, hpayload, _,
        Table.find?_insert_self (Table.find?_modifyWhere_eq_none hfree _ _), rfl, rfl⟩

/-- **Authenticators work.** Let a step of `startEnrollment` hand out a link. After every
interleaving of later calls, a code matches the enrollment exactly when an authenticator that has
read the link shows it, by its own clock, at a time whose step is at most one away from the current
one. -/
theorem authenticator_accepted_iff (gcm : Aes256Gcm) {i : ι} {validated : PreAuthValidation}
    {accountName secret : String}
    (hsecret : input.secretBytes.length = 20 ∧ ∀ byte ∈ input.secretBytes, byte < 256)
    (hiv : (ofBase64Url input.iv).length = 12)
    (hrunning : st.running i = some (.storeEnrollment validated))
    (hanswer : (advance (d.withCipher gcm) input st.state (.storeEnrollment validated)).2 =
      .returns (.ok (.mfaEnrollmentStarted accountName secret)))
    (turns : List (Turn ι Request Input)) :
    let final := run (protocol (d.withCipher gcm)).step st (.advance i input :: turns)
    ∃ uri shared row, readKeyUri (provisioningUri accountName secret) = some uri ∧
      uri.label = mfaIssuer ++ ":" ++ validated.user.email.getD validated.user.id ∧
      uri.secret? = some shared ∧
      final.state.store.enrollments.find? input.newId = some row ∧
      row.userId = validated.user.id ∧
      ∀ input' code, ∃ matched, matchEnrollment (d.withCipher gcm) input' row code = .ok matched ∧
        (matched.isSome ↔ ∃ time, 0 ≤ time ∧
          (currentTotpStep time - currentTotpStep input'.now).natAbs ≤ 1 ∧
          generateTotpCode d.crypto.hmacSha1 shared time = .ok (trim code)) := by
  obtain ⟨rfl, rfl, payload, hpayload, hkept⟩ := stored_of_started hanswer
  have hstep := (protocol (d.withCipher gcm)).step_of_advances
    (show st.Advances (.advance i input) i input (.storeEnrollment validated) from ⟨rfl, hrunning⟩)
  intro final
  obtain ⟨row, hrow, huser, hstored⟩ :
      KeepsSecret input.newId validated.user.id payload final.state.store.enrollments := by
    refine KeepsSecret.run ?_ turns
    rw [hstep]
    exact hkept
  have hkey := base32Decode_base32Encode hsecret.2
  have hplain : base32Encode input.secretBytes ≠ "" := by
    intro hempty
    rw [hempty] at hkey
    have hnone : input.secretBytes = [] := (Except.ok.inj hkey).symm
    rw [hnone] at hsecret
    exact absurd hsecret.1 (by decide)
  have hdecrypted : (d.withCipher gcm).crypto.decrypt payload =
      .ok (base32Encode input.secretBytes) := by
    refine decrypt_of_encrypt (fun hnone => ?_) hplain hpayload
    rw [hnone] at hiv
    cases hiv
  refine ⟨_, base32Encode input.secretBytes, row, readKeyUri_provisioningUri _ _, rfl,
    lookup_keyUriParams _, hrow, huser, fun input' code => ?_⟩
  obtain ⟨matched, hmatched, hiff⟩ := matchTotpStep_iff hkey input'.now code
  refine ⟨matched, ?_, hiff⟩
  rw [matchEnrollment, hstored, hdecrypted, ok_bind]
  exact hmatched

namespace Example

/-- The ciphertext of one secret under the key of the tests, and its tag. -/
def enciphered : List UInt8 × List UInt8 :=
  ([97, 161, 138, 147, 147, 233, 204, 109, 137, 212, 34, 173, 130, 127, 250, 251, 168, 185, 62, 167,
    44, 187, 80, 55, 56, 1, 135, 46, 204, 21, 95, 50],
   [224, 100, 228, 4, 208, 251, 213, 61, 120, 64, 207, 151, 66, 62, 18, 65])

/-- The key, the initialization vector and the plaintext that give it. -/
def encipheredFrom : List UInt8 × List UInt8 × List UInt8 :=
  (ofHex "e0e8de46388bd92530840b2796539af2dbb4a9e8ffb2798b7fa398fd3e3d6da2".toList,
    ofBase64Url "AQIDBAUGBwgJCgsM", utf8Bytes "GEZDGNBVGY3TQOJQGEZDGNBVGY3TQOJQ")

/-- A cipher that has this value, and leaves everything else as it is. -/
def gcm : Aes256Gcm where
  encipher key iv plaintext :=
    if (key, iv, plaintext) = encipheredFrom then enciphered
    else (plaintext, List.replicate 16 0)
  decipher key iv tag ciphertext :=
    if (key, iv) = (encipheredFrom.1, encipheredFrom.2.1) ∧ (ciphertext, tag) = enciphered then
      some encipheredFrom.2.2
    else some ciphertext
  decipher_encipher key iv plaintext _ := by
    by_cases h : (key, iv, plaintext) = encipheredFrom
    · rw [if_pos h, if_pos ⟨by rw [← h], rfl⟩, ← h]
    · rw [if_neg h, if_neg]
      rintro ⟨-, htag⟩
      have hzeros : List.replicate 16 (0 : UInt8) = enciphered.2 := congrArg Prod.snd htag
      exact absurd hzeros (by decide)
  length_ciphertext key iv plaintext := by
    by_cases h : (key, iv, plaintext) = encipheredFrom
    · have hplaintext : plaintext = encipheredFrom.2.2 := by rw [← h]
      rw [if_pos h, hplaintext]
      decide +kernel
    · rw [if_neg h]
  length_tag key iv plaintext := by
    split <;> rfl

/-- The environment of the tests; of HMAC-SHA-1 under the key `12345678901234567890` the value at a
counter of one. -/
def mfaDeployment : Deployment where
  crypto :=
    { sha256 := fun text =>
        if text = "fixzone-test-mfa-key" then
          "e0e8de46388bd92530840b2796539af2dbb4a9e8ffb2798b7fa398fd3e3d6da2"
        else text
      hmacSha1 := fun _ counter =>
        if counter = writeBigUInt64BE 1 then
          [0x75, 0xa4, 0x8a, 0x19, 0xd4, 0xcb, 0xe1, 0x00, 0x64, 0x4e, 0x8a, 0xc1, 0x39, 0x7e, 0xea,
            0x74, 0x7a, 0x2d, 0x33, 0xab]
        else List.replicate 20 0
      encrypt := fun _ secret => .ok secret
      decrypt := .ok
      bcryptCompare := fun password hash => password = hash
      bcryptHash := fun _ password => password }
  env name := if name = "NODE_ENV" then some "test" else none

def scans : PreAuthValidation where
  sessionId := "session"
  failedAttempts := 0
  user := { id := "amaka", email := some "amaka@fixzone.ng", role := .superAdmin }

/-- What the step of `startEnrollment` finds. -/
def enrolling : Input where
  now := 0
  newId := "enrollment"
  secretBytes := "12345678901234567890".toList.map Char.toNat
  iv := "AQIDBAUGBwgJCgsM"

/-- One call is about to store its enrollment. -/
def aboutToEnroll : Calls World ℕ Call where
  state := .start (.ofUsers ⟨[scans.user], List.nodup_singleton _⟩ (Table.empty _)) (Table.empty _)
  running := fun i => if i = 0 then some (.storeEnrollment scans) else none

/-- The secret in its envelope. -/
theorem enciphers : (mfaDeployment.withCipher gcm).crypto.encrypt enrolling.iv
    (base32Encode enrolling.secretBytes) = .ok ("v1:AQIDBAUGBwgJCgsM:4GTkBND71T14QM-XQj4SQQ:" ++
      "YaGKk5PpzG2J1CKtgn_6-6i5Pqcsu1A3OAGHLswVXzI") :=
  eq_ok_of_toOption (by decide +kernel)

/-- The step hands out the link. -/
theorem hands_out : (advance (mfaDeployment.withCipher gcm) enrolling aboutToEnroll.state
    (.storeEnrollment scans)).2 = .returns (.ok (.mfaEnrollmentStarted "amaka@fixzone.ng"
      (base32Encode enrolling.secretBytes))) := by
  rw [advance, storeEnrollmentStep, enciphers]
  rfl

end Example

open Example in
/-- The code of the first minute is accepted in the second. -/
theorem authenticator_accepted_amaka : ∃ row,
    (run (protocol (mfaDeployment.withCipher gcm)).step aboutToEnroll
      [.advance 0 enrolling, .start 0 (.confirmMfaEnrollment "token" "287082")]
      ).state.store.enrollments.find? "enrollment" = some row ∧
    ∃ matched, matchEnrollment (mfaDeployment.withCipher gcm) { now := 85000, newId := "" } row
      " 287082" = .ok matched ∧ matched.isSome := by
  have hrunning : aboutToEnroll.running 0 = some (.storeEnrollment scans) := rfl
  obtain ⟨uri, shared, row, huri, -, hshared, hrow, -, hcodes⟩ :=
    authenticator_accepted_iff gcm (by decide +kernel) (by decide +kernel) hrunning hands_out
      [.start 0 (.confirmMfaEnrollment "token" "287082")]
  rw [readKeyUri_provisioningUri] at huri
  obtain rfl := Option.some.inj huri
  obtain rfl := Option.some.inj ((lookup_keyUriParams _).symm.trans hshared)
  obtain ⟨matched, hmatched, hiff⟩ := hcodes { now := 85000, newId := "" } " 287082"
  refine ⟨row, hrow, matched, hmatched, hiff.mpr ⟨59000, by decide, by decide, ?_⟩⟩
  exact eq_ok_of_toOption (by decide +kernel)

end FixZone.AuthService
