import FixZone.Library.FormUrl
import FixZone.Library.Guard
import FixZone.Library.HtmlText
import FixZone.Library.JsText

/-!
# Recovery mails

`PasswordResetDeliveryService` sends the link with which a password is reset. It is configured by
the environment once, when the process starts: `loadPasswordResetDeliveryConfig` throws with the
name of the variable it does not take, so that what it returns is well formed
(`wellFormed_of_load`). `deliver` hands the same message to the mail server again while the server
does not answer in time or asks for it, up to a bound of the configuration.

The parser of URLs is a parameter; what is used of it is that an origin is written without the sign
that begins the fragment. Of the transport is left what becomes of the promise of each attempt: when
it is settled, if ever, and whether the message was accepted or with which error it is rejected.
`withTimeout` lets it race with a timer. Times are those of an ideal clock, in milliseconds.
-/

namespace FixZone.PasswordResetDelivery

open Library

/-! ### Configuration -/

/-- The parts of a URL that are looked at. -/
structure Url where
  protocol : String
  username : String := ""
  password : String := ""
  hostname : String
  pathname : String := "/"
  search : String := ""
  hash : String := ""
  origin : String

/-- `new URL(value)`, `none` where it throws. -/
structure UrlParser where
  parse : String → Option Url
  origin : ∀ {value : String} {url : Url}, parse value = some url → '#' ∉ url.origin.toList

/-- `supportedProviders`. -/
inductive Provider where
  | smtp | amazonSesSmtp | brevoSmtp
  deriving DecidableEq, Repr

/-- The provider of a name. -/
def Provider.ofName? : String → Option Provider
  | "smtp" => some .smtp
  | "amazon-ses-smtp" => some .amazonSesSmtp
  | "brevo-smtp" => some .brevoSmtp
  | _ => none

/-- `PasswordResetDeliveryConfig['smtp']`. -/
structure Smtp where
  host : String
  port : ℕ
  secure : Bool
  username : String
  password : String
  sender : String
  replyTo : Option String := none
  deriving DecidableEq

/-- `PasswordResetDeliveryConfig`; `resetPath` has one value. -/
structure Config where
  enabled : Bool
  provider : Provider
  smtp : Smtp
  resetOrigin : String
  timeoutMs : ℕ
  retryAttempts : ℕ
  cooldownSeconds : ℕ
  dailyLimit : ℕ
  testMode : Bool
  deriving DecidableEq

/-- `resetPath`. -/
def resetPath : String := "/reset-password"

/-- `disabledConfig`. -/
def disabledConfig : Config where
  enabled := false
  provider := .smtp
  smtp :=
    { host := "", port := 587, secure := false, username := "", password := "", sender := "" }
  resetOrigin := ""
  timeoutMs := 5000
  retryAttempts := 0
  cooldownSeconds := 120
  dailyLimit := 5
  testMode := false

/-- `process.env`. -/
abbrev Environment := String → Option String

/-- `configError`. -/
def configError (name : String) : String :=
  "Password reset delivery configuration is invalid: " ++ name

/-- `hasControlCharacters`. -/
def hasControlCharacters (value : String) : Bool :=
  value.toList.any fun c => c.toNat ≤ 0x1f || c.toNat = 0x7f

/-- `isPlaceholder`. -/
def isPlaceholder (value : String) : Bool :=
  String.ofList (value.toList.map Char.toLower) ∈
    ["changeme", "change-me", "placeholder", "replace", "example", "test"]

/-- `localHosts`. -/
def localHosts : List String := ["localhost", "127.0.0.1", "::1"]

section Values

variable (env : Environment) (name : String)

/-- `requiredName`. -/
def requiredName : Except String String := do
  let value := trimmed (env name)
  throwIf (value = "" ∨ isPlaceholder value) (configError name)
  throwIf (hasControlCharacters value) (configError name)
  return value

/-- `numberInRange`. -/
def numberInRange (min max : ℕ) (fallback : Option ℕ := none) : Except String ℕ := do
  let raw := trimmed (env name)
  if raw = "" then orThrow fallback (configError name)
  else
    throwIf (¬raw.toList.all Char.isDigit) (configError name)
    let value := Nat.ofDigitChars 10 raw.toList 0
    throwIf (2 ^ 53 ≤ value ∨ value < min ∨ max < value) (configError name)
    return value

/-- `booleanValue`. -/
def booleanValue : Except String Bool :=
  match toLowerCase (trimmed (env name)) with
  | "true" => .ok true
  | "false" => .ok false
  | _ => .error (configError name)

/-- `safeHost`. -/
def safeHost (value : String) : Except String String := do
  throwIf ('/' ∈ value.toList ∨ '\\' ∈ value.toList ∨ '@' ∈ value.toList)
    (configError "PASSWORD_RESET_SMTP_HOST")
  return toLowerCase value

/-- `safeHeader`. -/
def safeHeader (value : String) : Except String String := do
  throwIf (hasControlCharacters value) (configError "PASSWORD_RESET_SMTP_FROM")
  return value

/-- `optionalHeader`. -/
def optionalHeader (value : Option String) : Except String (Option String) := do
  let text := trimmed value
  if text = "" then return none
  throwIf (hasControlCharacters text ∨ isPlaceholder text)
    (configError "PASSWORD_RESET_SMTP_REPLY_TO")
  return some text

end Values

/-- A URL that `normalizePublicOrigin` takes: an origin and nothing else, of `https` or of this
machine. -/
structure IsPublicOrigin (url : Url) : Prop where
  credentials : url.username = "" ∧ url.password = ""
  rest : url.hash = "" ∧ url.search = "" ∧ (url.pathname = "" ∨ url.pathname = "/")
  protocol : url.protocol = "https:" ∨ url.protocol = "http:" ∧ url.hostname ∈ localHosts

/-- `normalizePublicOrigin`. -/
def normalizePublicOrigin (urls : UrlParser) (value : String) : Except String String := do
  let refused := configError "PASSWORD_RESET_PUBLIC_ORIGIN"
  throwIf (value = "" ∨ hasControlCharacters value) refused
  let url ← orThrow (urls.parse value) refused
  throwIf (url.username ≠ "" ∨ url.password ≠ "" ∨ url.hash ≠ "" ∨ url.search ≠ "") refused
  throwIf (url.pathname ≠ "" ∧ url.pathname ≠ "/") refused
  if url.protocol = "http:" then throwIf (url.hostname ∉ localHosts) refused
  else throwIf (url.protocol ≠ "https:") refused
  return url.origin

/-- `value.split(',')`. -/
def splitAtCommas (value : String) : List String := (value.toList.splitOn ',').map String.ofList

/-- `loadPasswordResetDeliveryConfig`. -/
def loadPasswordResetDeliveryConfig (urls : UrlParser) (env : Environment) :
    Except String Config := do
  if env "PASSWORD_RESET_DELIVERY_ENABLED" ≠ some "true" then return disabledConfig
  let providerName ← requiredName env "PASSWORD_RESET_DELIVERY_PROVIDER"
  let provider ← orThrow (Provider.ofName? (toLowerCase providerName))
    (configError "PASSWORD_RESET_DELIVERY_PROVIDER")
  let publicOrigin ← normalizePublicOrigin urls (← requiredName env "PASSWORD_RESET_PUBLIC_ORIGIN")
  let origins ← (splitAtCommas (← requiredName env "PASSWORD_RESET_ALLOWED_ORIGINS")).mapM
    fun value => normalizePublicOrigin urls (trim value)
  throwIf (publicOrigin ∉ origins.filter (· ≠ "")) (configError "PASSWORD_RESET_ALLOWED_ORIGINS")
  let host ← safeHost (← requiredName env "PASSWORD_RESET_SMTP_HOST")
  let port ← numberInRange env "PASSWORD_RESET_SMTP_PORT" 1 65535
  let secure ← booleanValue env "PASSWORD_RESET_SMTP_SECURE"
  let username ← requiredName env "PASSWORD_RESET_SMTP_USERNAME"
  let password ← requiredName env "PASSWORD_RESET_SMTP_PASSWORD"
  let sender ← safeHeader (← requiredName env "PASSWORD_RESET_SMTP_FROM")
  let replyTo ← optionalHeader (env "PASSWORD_RESET_SMTP_REPLY_TO")
  let timeoutMs ← numberInRange env "PASSWORD_RESET_DELIVERY_TIMEOUT_MS" 1000 20000 (some 5000)
  let retryAttempts ← numberInRange env "PASSWORD_RESET_DELIVERY_RETRY_ATTEMPTS" 0 2 (some 1)
  let cooldownSeconds ←
    numberInRange env "PASSWORD_RESET_REQUEST_COOLDOWN_SECONDS" 30 900 (some 120)
  let dailyLimit ← numberInRange env "PASSWORD_RESET_REQUEST_DAILY_LIMIT" 1 10 (some 5)
  return {
    enabled := true
    provider
    smtp := { host, port, secure, username, password, sender, replyTo }
    resetOrigin := publicOrigin
    timeoutMs
    retryAttempts
    cooldownSeconds
    dailyLimit
    testMode := env "PASSWORD_RESET_DELIVERY_TEST_MODE" = some "true" }

/-! ### Messages -/

/-- What `escapeHtml` writes for the characters that mean something in HTML. -/
def entities : References where
  names := [('&', "amp".toList), ('<', "lt".toList), ('>', "gt".toList), ('"', "quot".toList),
    ('\'', "#39".toList)]
  nodup := by decide
  clean := by decide
  amp := by decide

/-- `escapeHtml`. -/
def escapeHtml (value : List Char) : List Char := entities.write value

/-- The message that is handed to the transport. -/
structure Message where
  sender : String
  recipient : String
  replyTo : Option String
  subject : String
  text : List Char
  html : List Char
  deriving DecidableEq

/-- `PasswordResetDeliveryRequest`, but for the user it is for, which is not read. -/
structure Request where
  recipientEmail : Option String
  token : String
  expiresAt : ℤ
  returnTo : Option String := none

/-- The parameters of the reset route. -/
def resetParams (token : String) (returnTo : Option String) : List (String × String) :=
  ("token", token) :: ((returnTo.filter (· ≠ "")).map fun route => ("returnTo", route)).toList

/-- The route that `buildResetLink` puts into the fragment. -/
def resetRoute (token : String) (returnTo : Option String) : List Char :=
  resetPath.toList ++ '?' :: FormUrl.serialize (resetParams token returnTo)

/-- `buildResetLink`. The URL of an origin has the path `/`. -/
def buildResetLink (config : Config) (token : String) (returnTo : Option String) : List Char :=
  config.resetOrigin.toList ++ '/' :: '#' :: encodeFragment (resetRoute token returnTo)

/-- What stands in the HTML before the link, and after it. -/
def htmlBefore : String :=
  "<p>SecureZone received a request to recover access to an account.</p>" ++
    "<p>Use the recovery link to set a new password before it expires.</p>" ++ "<p>"

@[inherit_doc htmlBefore] def htmlAfter : String :=
  ">Recover account access</a></p>" ++ "<p>If you did not request this, ignore this message.</p>"

/-- The message of `deliver`, for a recipient. -/
def messageFor (config : Config) (request : Request) (recipientEmail : String) : Message :=
  let resetLink := buildResetLink config request.token request.returnTo
  { sender := config.smtp.sender
    recipient := recipientEmail
    replyTo := config.smtp.replyTo
    subject := "SecureZone account recovery instructions"
    text := ['\n'].intercalate [
      "SecureZone received a request to recover access to an account.".toList,
      [],
      ("Use this link to set a new password before " ++ toISOString request.expiresAt ++
        ":").toList,
      resetLink,
      [],
      "If you did not request this, ignore this message.".toList]
    html := htmlBefore.toList ++
      ("<a href=\"".toList ++ (escapeHtml resetLink ++ '"' :: htmlAfter.toList)) }

/-! ### Delivery -/

/-- What a promise is rejected with: the message of an `Error`, and the fields that are looked at
where they have the right type. -/
structure Rejection where
  message : Option String := none
  code : Option String := none
  responseCode : Option ℤ := none

/-- How an attempt ends. -/
inductive Outcome where
  | accepted
  | rejected (error : Rejection)

/-- What becomes of the promise of an attempt: how long after the call it is settled, if ever, and
how. -/
structure Answer where
  after : Option ℕ
  outcome : Outcome

/-- The promise is settled before the timer goes off. -/
def Answer.InTime (timeoutMs : ℕ) (answer : Answer) : Prop :=
  ∃ after, answer.after = some after ∧ after < timeoutMs

/-- What the timer of `withTimeout` rejects with. -/
def timeoutError : Rejection where
  message := some "PASSWORD_RESET_DELIVERY_TIMEOUT_MS"

/-- `withTimeout`: how the race ends, and how long it takes. A promise that is settled when the timer
goes off has lost. -/
def withTimeout (answer : Answer) (timeoutMs : ℕ) : Outcome × ℕ :=
  match answer.after with
  | none => (.rejected timeoutError, timeoutMs)
  | some after =>
    if after < timeoutMs then (answer.outcome, after) else (.rejected timeoutError, timeoutMs)

/-- `deliveryErrorCategory`. -/
inductive Category where
  | timeout | configuration | transient | permanent | unknown
  deriving DecidableEq, Repr

/-- `PasswordResetDeliveryResult['status']`. -/
inductive DeliveryStatus where
  | unavailable | accepted | failed | configurationError | timeout
  deriving DecidableEq, Repr

/-- `PasswordResetDeliveryResult`. -/
structure Result where
  delivered : Bool
  status : DeliveryStatus
  attempts : ℕ
  errorCategory : Option Category := none
  deriving DecidableEq

/-- `deliveryErrorCategory`. -/
def deliveryErrorCategory (error : Rejection) : Category :=
  let code := error.code.getD ""
  let responseCode := error.responseCode.getD 0
  if error.message = some "PASSWORD_RESET_DELIVERY_TIMEOUT_MS" then .timeout
  else if code = "EAUTH" ∨ code = "ECONFIG" ∨ responseCode = 535 then .configuration
  else if code ∈ ["ETIMEDOUT", "ECONNRESET", "ESOCKET", "ECONNECTION"] ∨
      responseCode ∈ [421, 450, 451, 452] then .transient
  else .permanent

/-- The status of a delivery that failed. -/
def statusOf : Category → DeliveryStatus
  | .timeout => .timeout
  | .configuration => .configurationError
  | _ => .failed

/-- What `deliver` answers when it gives up. -/
def failedWith (attempts : ℕ) (category : Category) : Result where
  delivered := false
  status := statusOf category
  attempts := attempts
  errorCategory := some category

/-- The loop of `deliver`, with the rounds that are left, and how long it waits. The attempts are
numbered from one. -/
def attemptFrom (send : ℕ → Answer) (timeoutMs maxAttempts : ℕ) : ℕ → ℕ → Result × ℕ
  | 0, _ => (failedWith maxAttempts .unknown, 0)
  | rounds + 1, attempt =>
    let (outcome, waited) := withTimeout (send attempt) timeoutMs
    match outcome with
    | .accepted => ({ delivered := true, status := .accepted, attempts := attempt }, waited)
    | .rejected error =>
      let category := deliveryErrorCategory error
      if category = .timeout ∧ attempt < maxAttempts then
        let (result, rest) := attemptFrom send timeoutMs maxAttempts rounds (attempt + 1)
        (result, waited + rest)
      else if category = .transient ∧ attempt < maxAttempts then
        let (result, rest) := attemptFrom send timeoutMs maxAttempts rounds (attempt + 1)
        (result, waited + rest)
      else (failedWith attempt category, waited)

/-- What `deliver` answers without a recipient, and when mails are not sent. -/
def unavailable : Result where
  delivered := false
  status := .unavailable
  attempts := 0

/-- `deliver`: what the attempts to send a message come to, and how long it waits for them. -/
def deliver (config : Config) (send : Message → ℕ → Answer) (request : Request) : Result × ℕ :=
  match request.recipientEmail.filter (· ≠ "") with
  | none => (unavailable, 0)
  | some recipientEmail =>
    if config.enabled = false then (unavailable, 0)
    else
      let message := messageFor config request recipientEmail
      if config.testMode then (unavailable, 0)
      else
        let maxAttempts := config.retryAttempts + 1
        attemptFrom (send message) config.timeoutMs maxAttempts maxAttempts 1

/-! ### What is loaded is well formed -/

/-- What the service relies on in a configuration. -/
structure WellFormed (urls : UrlParser) (config : Config) : Prop where
  origin : config.enabled = true → ∃ value url,
    urls.parse value = some url ∧ IsPublicOrigin url ∧ url.origin = config.resetOrigin
  headers : hasControlCharacters config.smtp.sender = false ∧
    ∀ replyTo, config.smtp.replyTo = some replyTo → hasControlCharacters replyTo = false
  port : 1 ≤ config.smtp.port ∧ config.smtp.port ≤ 65535
  timeout : 1000 ≤ config.timeoutMs ∧ config.timeoutMs ≤ 20000
  retries : config.retryAttempts ≤ 2
  cooldown : 30 ≤ config.cooldownSeconds ∧ config.cooldownSeconds ≤ 900
  daily : 1 ≤ config.dailyLimit ∧ config.dailyLimit ≤ 10

variable {urls : UrlParser} {env : Environment} {config : Config} {name value : String}

/-- A number that is taken lies in its range. -/
theorem numberInRange_bounds {min max n : ℕ} {fallback : Option ℕ}
    (hfallback : ∀ m, fallback = some m → min ≤ m ∧ m ≤ max)
    (h : numberInRange env name min max fallback = .ok n) : min ≤ n ∧ n ≤ max := by
  rw [numberInRange] at h
  split at h
  · exact hfallback n (orThrow_eq_ok.mp h)
  · obtain ⟨-, h⟩ := throwIf_bind_eq_ok.mp h
    obtain ⟨hrange, h⟩ := throwIf_bind_eq_ok.mp h
    obtain rfl := pure_eq_ok.mp h
    omega

theorem safeHeader_clean {header : String} (h : safeHeader value = .ok header) :
    hasControlCharacters header = false := by
  obtain ⟨hclean, h⟩ := throwIf_bind_eq_ok.mp h
  obtain rfl := pure_eq_ok.mp h
  exact Bool.not_eq_true _ ▸ hclean

theorem optionalHeader_clean {header : Option String} {replyTo : String}
    (h : optionalHeader header = .ok (some replyTo)) : hasControlCharacters replyTo = false := by
  rw [optionalHeader] at h
  split at h
  · cases pure_eq_ok.mp h
  · obtain ⟨hclean, h⟩ := throwIf_bind_eq_ok.mp h
    cases pure_eq_ok.mp h
    exact Bool.not_eq_true _ ▸ fun hcontrol => hclean (.inl hcontrol)

/-- What is taken for the address of the site is an origin that may be used. -/
theorem normalizePublicOrigin_spec {origin : String}
    (h : normalizePublicOrigin urls value = .ok origin) :
    ∃ url, urls.parse value = some url ∧ IsPublicOrigin url ∧ url.origin = origin := by
  obtain ⟨-, h⟩ := throwIf_bind_eq_ok.mp h
  obtain ⟨url, hurl, h⟩ := orThrow_bind_eq_ok.mp h
  obtain ⟨hparts, h⟩ := throwIf_bind_eq_ok.mp h
  obtain ⟨hpath, h⟩ := throwIf_bind_eq_ok.mp h
  simp only [not_or, not_and, not_not] at hparts hpath
  obtain ⟨husername, hpassword, hhash, hsearch⟩ := hparts
  have hpublic (hprotocol : url.protocol = "https:" ∨
      url.protocol = "http:" ∧ url.hostname ∈ localHosts) : IsPublicOrigin url :=
    ⟨⟨husername, hpassword⟩, ⟨hhash, hsearch, or_iff_not_imp_left.mpr hpath⟩, hprotocol⟩
  split at h
  · next hhttp =>
    obtain ⟨hlocal, h⟩ := throwIf_bind_eq_ok.mp h
    exact ⟨url, hurl, hpublic (.inr ⟨hhttp, not_not.mp hlocal⟩), pure_eq_ok.mp h⟩
  · obtain ⟨hhttps, h⟩ := throwIf_bind_eq_ok.mp h
    exact ⟨url, hurl, hpublic (.inl (not_not.mp hhttps)), pure_eq_ok.mp h⟩

/-- A configuration that is loaded is well formed. -/
theorem wellFormed_of_load (h : loadPasswordResetDeliveryConfig urls env = .ok config) :
    WellFormed urls config := by
  rw [loadPasswordResetDeliveryConfig] at h
  split at h
  · obtain rfl := pure_eq_ok.mp h
    exact ⟨nofun, by decide, by decide, by decide, by decide, by decide, by decide⟩
  · obtain ⟨providerName, -, h⟩ := bind_eq_ok.mp h
    obtain ⟨provider, -, h⟩ := orThrow_bind_eq_ok.mp h
    obtain ⟨value, -, h⟩ := bind_eq_ok.mp h
    obtain ⟨publicOrigin, horigin, h⟩ := bind_eq_ok.mp h
    obtain ⟨allowed, -, h⟩ := bind_eq_ok.mp h
    obtain ⟨origins, -, h⟩ := bind_eq_ok.mp h
    obtain ⟨-, h⟩ := throwIf_bind_eq_ok.mp h
    obtain ⟨hostName, -, h⟩ := bind_eq_ok.mp h
    obtain ⟨host, -, h⟩ := bind_eq_ok.mp h
    obtain ⟨port, hport, h⟩ := bind_eq_ok.mp h
    obtain ⟨secure, -, h⟩ := bind_eq_ok.mp h
    obtain ⟨username, -, h⟩ := bind_eq_ok.mp h
    obtain ⟨password, -, h⟩ := bind_eq_ok.mp h
    obtain ⟨from', -, h⟩ := bind_eq_ok.mp h
    obtain ⟨sender, hsender, h⟩ := bind_eq_ok.mp h
    obtain ⟨replyTo, hreplyTo, h⟩ := bind_eq_ok.mp h
    obtain ⟨timeoutMs, htimeout, h⟩ := bind_eq_ok.mp h
    obtain ⟨retryAttempts, hretries, h⟩ := bind_eq_ok.mp h
    obtain ⟨cooldownSeconds, hcooldown, h⟩ := bind_eq_ok.mp h
    obtain ⟨dailyLimit, hdaily, h⟩ := bind_eq_ok.mp h
    obtain rfl := pure_eq_ok.mp h
    obtain ⟨url, hurl, hpublic, horigin⟩ := normalizePublicOrigin_spec horigin
    exact {
      origin := fun _ => ⟨value, url, hurl, hpublic, horigin⟩
      headers := ⟨safeHeader_clean hsender, fun text htext =>
        optionalHeader_clean (hreplyTo.trans (congrArg Except.ok htext))⟩
      port := numberInRange_bounds (fun _ h => by cases h) hport
      timeout := numberInRange_bounds (fun _ h => by cases h; decide) htimeout
      retries := (numberInRange_bounds (fun _ h => by cases h; decide) hretries).2
      cooldown := numberInRange_bounds (fun _ h => by cases h; decide) hcooldown
      daily := numberInRange_bounds (fun _ h => by cases h; decide) hdaily }

/-! ### How often a message is sent -/

/-- An outcome after which the message is sent again, while the bound is not reached. -/
def Outcome.isRetried : Outcome → Bool
  | .accepted => false
  | .rejected error =>
    deliveryErrorCategory error = .timeout || deliveryErrorCategory error = .transient

/-- What an outcome means as the last one. -/
def Outcome.report (attempts : ℕ) : Outcome → Result
  | .accepted => { delivered := true, status := .accepted, attempts := attempts }
  | .rejected error => failedWith attempts (deliveryErrorCategory error)

/-- How an attempt ends for `deliver`. -/
def Answer.outcomeWithin (timeoutMs : ℕ) (answer : Answer) : Outcome :=
  (withTimeout answer timeoutMs).1

theorem withTimeout_le (answer : Answer) (timeoutMs : ℕ) :
    (withTimeout answer timeoutMs).2 ≤ timeoutMs := by
  unfold withTimeout
  split
  · exact le_rfl
  · split
    · next hafter => exact hafter.le
    · exact le_rfl

theorem outcomeWithin_of_inTime {timeoutMs : ℕ} {answer : Answer} (h : answer.InTime timeoutMs) :
    answer.outcomeWithin timeoutMs = answer.outcome := by
  obtain ⟨after, hafter, hlt⟩ := h
  rw [Answer.outcomeWithin, withTimeout, hafter]
  simp [hlt]

/-- The attempts `first` to `last` are those that are made: every outcome before the last one is
retried, and the last one is not, or it is that of the attempt `bound`. -/
structure Attempted (send : ℕ → Outcome) (bound first last : ℕ) : Prop where
  first_le : first ≤ last
  le_bound : last ≤ bound
  retried : ∀ k, first ≤ k → k < last → (send k).isRetried = true
  stopped : (send last).isRetried = true → last = bound

/-- An attempt goes on to the next one, or its outcome is reported. -/
theorem attemptFrom_succ (send : ℕ → Answer) (timeoutMs maxAttempts rounds attempt : ℕ) :
    attemptFrom send timeoutMs maxAttempts (rounds + 1) attempt =
      if ((send attempt).outcomeWithin timeoutMs).isRetried = true ∧ attempt < maxAttempts then
        ((attemptFrom send timeoutMs maxAttempts rounds (attempt + 1)).1,
          (withTimeout (send attempt) timeoutMs).2 +
            (attemptFrom send timeoutMs maxAttempts rounds (attempt + 1)).2)
      else (((send attempt).outcomeWithin timeoutMs).report attempt,
        (withTimeout (send attempt) timeoutMs).2) := by
  rw [attemptFrom, Answer.outcomeWithin]
  obtain ⟨outcome, waited⟩ := withTimeout (send attempt) timeoutMs
  cases outcome with
  | accepted => rfl
  | rejected error =>
    simp only [Outcome.isRetried, Outcome.report]
    by_cases htimeout : deliveryErrorCategory error = .timeout
    · simp [htimeout]
    · by_cases htransient : deliveryErrorCategory error = .transient
      · simp [htransient]
      · simp [htimeout, htransient]

/-- The loop reports the outcome of the last attempt, and waits for none of them longer than the
timeout. -/
theorem attemptFrom_attempted (send : ℕ → Answer) {timeoutMs maxAttempts rounds attempt : ℕ}
    (hrounds : attempt + rounds = maxAttempts) :
    ∃ last, Attempted (fun k => (send k).outcomeWithin timeoutMs) maxAttempts attempt last ∧
      (attemptFrom send timeoutMs maxAttempts (rounds + 1) attempt).1 =
        ((send last).outcomeWithin timeoutMs).report last ∧
      (attemptFrom send timeoutMs maxAttempts (rounds + 1) attempt).2 ≤
        (last + 1 - attempt) * timeoutMs := by
  have hwaited := withTimeout_le (send attempt) timeoutMs
  induction rounds generalizing attempt with
  | zero =>
    refine ⟨attempt, ⟨le_rfl, by omega, fun k _ _ => by omega, fun _ => by omega⟩, ?_⟩
    rw [attemptFrom_succ, if_neg (by omega), Nat.add_sub_cancel_left, Nat.one_mul]
    exact ⟨rfl, hwaited⟩
  | succ rounds ih =>
    rw [attemptFrom_succ]
    split
    · next hagain =>
      have hrest : attempt + 1 + rounds = maxAttempts := by omega
      obtain ⟨last, hattempted, hresult, hlater⟩ := ih hrest (withTimeout_le _ _)
      have hle := hattempted.first_le
      refine ⟨last, ⟨by omega, hattempted.le_bound, ?_, hattempted.stopped⟩, hresult, ?_⟩
      · intro k hk hlast
        rcases Nat.eq_or_lt_of_le hk with rfl | hk
        · exact hagain.1
        · exact hattempted.retried k hk hlast
      · calc (withTimeout (send attempt) timeoutMs).2 + _
            ≤ timeoutMs + (last + 1 - (attempt + 1)) * timeoutMs := Nat.add_le_add hwaited hlater
          _ = (1 + (last + 1 - (attempt + 1))) * timeoutMs := by rw [Nat.add_mul, Nat.one_mul]
          _ = (last + 1 - attempt) * timeoutMs := by congr 1; omega
    · next hstop =>
      refine ⟨attempt, ⟨le_rfl, by omega, fun k _ _ => by omega,
        fun hretried => absurd ⟨hretried, by omega⟩ hstop⟩, rfl, ?_⟩
      rwa [Nat.add_sub_cancel_left, Nat.one_mul]

/-- The mail is sent: the service is enabled and not in test mode, and there is a recipient. -/
def IsSent (config : Config) (request : Request) (recipientEmail : String) : Prop :=
  config.enabled = true ∧ config.testMode = false ∧
    request.recipientEmail.filter (· ≠ "") = some recipientEmail

/-- A message is handed to the transport in the attempts from the first to `last`. -/
structure SentIn (config : Config) (send : ℕ → Answer) (last : ℕ) (answer : Result × ℕ) : Prop where
  attempted : Attempted (fun k => (send k).outcomeWithin config.timeoutMs)
    (config.retryAttempts + 1) 1 last
  reported : answer.1 = ((send last).outcomeWithin config.timeoutMs).report last
  waited : answer.2 ≤ last * config.timeoutMs
  /-- What was accepted and is handed over again was accepted too late. -/
  late : ∀ k, 1 ≤ k → k < last → (send k).outcome = .accepted → ¬ (send k).InTime config.timeoutMs

/-- **Bounded delivery.** However the mail server behaves, a service that is configured by the
environment sends nothing and says so, or it hands the same message over one to three times,
waiting for at most a minute in all: again after each outcome that is retried, up to the bound of
the configuration, and never after another one. It reports the last outcome, so it says that the
message was delivered exactly when the last attempt was accepted in time. -/
theorem deliver_bounded (hload : loadPasswordResetDeliveryConfig urls env = .ok config)
    (send : Message → ℕ → Answer) (request : Request) :
    (deliver config send request = (unavailable, 0) ∧
        ∀ recipientEmail, ¬IsSent config request recipientEmail) ∨
      ∃ recipientEmail last, IsSent config request recipientEmail ∧
        SentIn config (send (messageFor config request recipientEmail)) last
          (deliver config send request) ∧
        last ≤ 3 ∧ (deliver config send request).2 ≤ 60000 := by
  unfold deliver IsSent
  split
  · next hnone =>
    refine .inl ⟨rfl, fun recipientEmail hsent => ?_⟩
    rw [hnone] at hsent
    cases hsent.2.2
  · next recipientEmail hrecipient =>
    cases henabled : config.enabled with
    | false => exact .inl ⟨if_pos rfl, fun _ hsent => Bool.noConfusion hsent.1⟩
    | true =>
      rw [if_neg Bool.noConfusion]
      cases htest : config.testMode with
      | true => exact .inl ⟨if_pos rfl, fun _ hsent => Bool.noConfusion hsent.2.1⟩
      | false =>
        have hformed := wellFormed_of_load hload
        obtain ⟨last, hattempted, hresult, hwaited⟩ :=
          attemptFrom_attempted (send (messageFor config request recipientEmail))
            (Nat.add_comm 1 config.retryAttempts)
        rw [Nat.add_sub_cancel] at hwaited
        have hlast : last ≤ 3 := by
          have hle := hattempted.le_bound
          have hretries := hformed.retries
          omega
        refine .inr ⟨recipientEmail, last, ⟨rfl, rfl, hrecipient⟩,
          ⟨hattempted, hresult, hwaited, fun k hk hlt haccepted hintime => ?_⟩, hlast,
          hwaited.trans (Nat.mul_le_mul hlast hformed.timeout.2)⟩
        have hretried := hattempted.retried k hk hlt
        rw [outcomeWithin_of_inTime hintime, haccepted] at hretried
        cases hretried

namespace Example

/-- The site, and nothing else, can be parsed. -/
def siteUrls : UrlParser where
  parse value :=
    if value = "https://app.securezone.ng" then
      some { protocol := "https:", hostname := "app.securezone.ng", origin := value }
    else none
  origin := by
    intro value url h
    split at h
    · next hvalue =>
      cases h
      rw [hvalue]
      decide
    · cases h

/-- What an operator sets. -/
def environment : Environment
  | "PASSWORD_RESET_DELIVERY_ENABLED" => some "true"
  | "PASSWORD_RESET_DELIVERY_PROVIDER" => some "Brevo-SMTP"
  | "PASSWORD_RESET_PUBLIC_ORIGIN" => some "https://app.securezone.ng"
  | "PASSWORD_RESET_ALLOWED_ORIGINS" => some "https://app.securezone.ng"
  | "PASSWORD_RESET_SMTP_HOST" => some "smtp-relay.brevo.com"
  | "PASSWORD_RESET_SMTP_PORT" => some "587"
  | "PASSWORD_RESET_SMTP_SECURE" => some "false"
  | "PASSWORD_RESET_SMTP_USERNAME" => some "securezone"
  | "PASSWORD_RESET_SMTP_PASSWORD" => some "relay-pass"
  | "PASSWORD_RESET_SMTP_FROM" => some "SecureZone <no-reply@securezone.ng>"
  | _ => none

/-- What is loaded for it. -/
def relayConfig : Config where
  enabled := true
  provider := .brevoSmtp
  smtp :=
    { host := "smtp-relay.brevo.com", port := 587, secure := false, username := "securezone",
      password := "relay-pass", sender := "SecureZone <no-reply@securezone.ng>" }
  resetOrigin := "https://app.securezone.ng"
  timeoutMs := 5000
  retryAttempts := 1
  cooldownSeconds := 120
  dailyLimit := 5
  testMode := false

/-- The request for a user. -/
def request : Request where
  recipientEmail := some "amaka@fixzone.ng"
  token := "k9_Tz-4Q"
  expiresAt := 1700000900000
  returnTo := some "/citizen-login"

/-- A server that is too slow, then asks to be tried again later. -/
def busyServer (_ : Message) : ℕ → Answer
  | 1 => { after := some 7000, outcome := .accepted }
  | _ => { after := some 300, outcome := .rejected { responseCode := some 451 } }

end Example

open Example in
/-- The message is handed over twice and has not arrived when the service gives up: it had been
accepted too late. -/
theorem busyServer_reported :
    deliver relayConfig busyServer request =
        ({ delivered := false, status := .failed, attempts := 2, errorCategory := some .transient },
          5300) ∧
      ∃ last, 1 ≤ last ∧ last ≤ 3 ∧
        SentIn relayConfig (busyServer (messageFor relayConfig request "amaka@fixzone.ng")) last
          (deliver relayConfig busyServer request) := by
  have hload : loadPasswordResetDeliveryConfig siteUrls environment = .ok relayConfig := by
    decide +kernel
  refine ⟨by decide +kernel, ?_⟩
  rcases deliver_bounded hload busyServer request with ⟨-, hnot⟩ | ⟨email, last, hsent, h, hlast, -⟩
  · exact absurd ⟨rfl, rfl, rfl⟩ (hnot "amaka@fixzone.ng")
  · obtain rfl : email = "amaka@fixzone.ng" := (Option.some.inj hsent.2.2).symm
    exact ⟨last, h.attempted.first_le, hlast, h⟩

end FixZone.PasswordResetDelivery
