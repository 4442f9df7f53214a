import FixZone.Library.JsText

/-!
# The key of the rate limiter

`rateLimitTracker` makes the key under which requests are counted: of the bearer token
if there is one, and else of the address and, on some routes, of what identifies the caller
in the body. Whoever sends a request to the login route chooses the token, the spelling of the
path and the fields of the body, so two attempts at one account fall under one key
exactly where the limiter reads the same of both (`login_key_iff`).
-/

namespace FixZone.RateLimit

open Library

/-! ### Requests -/

/-- A header, which may be sent several times. -/
inductive HeaderValue where
  | text (value : String)
  | list (values : List String)

/-- A request, as far as the limiter looks at it: what is `none` is `undefined`. -/
structure Request where
  headers : List (String × HeaderValue) := []
  originalUrl : Option String := none
  url : Option String := none
  ip : Option String := none
  remoteAddress : Option String := none
  body : Option Json := none

/-- `req.headers?.[name]`. -/
def Request.header (req : Request) (name : String) : Option HeaderValue :=
  (req.headers.find? (·.1 = name)).map (·.2)

/-! ### The key -/

/-- A character that `.` of a regular expression does not stand for. -/
def isLineTerminator (c : Char) : Bool := c.toNat ∈ [0xA, 0xD, 0x2028, 0x2029]

/-- `bearerToken`. The white space of `\s+` is taken whole: a shorter match of it would leave
the token, once trimmed, as it is. -/
def bearerToken (value : Option HeaderValue) : String :=
  match value with
  | some (.text value) =>
    let scheme := value.toList.take 6
    let rest := value.toList.drop 6
    let token := rest.dropWhile isJsSpace
    if toLowerCase (String.ofList scheme) = "bearer" && rest.head?.any isJsSpace &&
        !token.any isLineTerminator then
      trim (String.ofList token)
    else ""
  | _ => ""

/-- `normalizedPath`. -/
def normalizedPath (req : Request) : String :=
  let raw := (req.originalUrl <|> req.url).getD ""
  toLowerCase (String.ofList (raw.toList.takeWhile (· ≠ '?')))

/-- `path.endsWith(route)`. -/
def endsWith (path route : String) : Bool := route.toList.isSuffixOf path.toList

/-- `clientIp`, where `trustProxy` says that `TRUST_PROXY` is `'true'`. -/
def clientIp (trustProxy : Bool) (req : Request) : String :=
  let firstForwarded :=
    if trustProxy then
      match req.header "x-forwarded-for" with
      | some (.list values) => trimmed values.head?
      | some (.text value) => trim (String.ofList (value.toList.takeWhile (· ≠ ',')))
      | none => ""
    else ""
  if firstForwarded = "" then (req.ip <|> req.remoteAddress).getD "unknown" else firstForwarded

/-- The first of some fields of a body that is neither `undefined` nor `null`. -/
def firstField (body : Json) (names : List String) : Option Json :=
  names.findSome? fun name =>
    match body.field? name with
    | none | some .null => none
    | some value => some value

/-- What `requestIdentifier` hashes. -/
def identifierField (req : Request) : Option Json :=
  let path := normalizedPath req
  let body := req.body.getD (.obj [])
  if endsWith path "/auth/login" then firstField body ["email", "phone", "providerId"]
  else if endsWith path "/auth/firebase-login" then body.field? "idToken"
  else if endsWith path "/auth/register" || endsWith path "/onboarding/citizen/register" ||
      endsWith path "/onboarding/provider/request-access" ||
      endsWith path "/onboarding/organization/register" then
    firstField body ["email", "phone", "ownerEmail", "ownerPhone"]
  else none

/-- The text that `valueHash` hashes, of a text that is not blank. -/
def identifierText : Option Json → Option String
  | some (.str value) => if trim value = "" then none else some (toLowerCase (trim value))
  | _ => none

/-- The text that `requestIdentifier` hashes, if there is one. -/
def identifierRead (req : Request) : Option String := identifierText (identifierField req)

variable (hash : String → String)

/-- `valueHash`. -/
def valueHash (value : Option Json) : String := ((identifierText value).map hash).getD ""

/-- `requestIdentifier`. -/
def requestIdentifier (req : Request) : String := valueHash hash (identifierField req)

/-- `rateLimitTracker`. -/
def rateLimitTracker (trustProxy : Bool) (req : Request) : String :=
  let authToken := bearerToken (req.header "authorization")
  if authToken ≠ "" then "token:" ++ hash authToken
  else
    let ip := clientIp trustProxy req
    let identifier := requestIdentifier hash req
    if identifier ≠ "" then ip ++ ":" ++ identifier else ip

/-! ### Attempts at one account -/

/-- The scheme and the authority that a target in absolute form begins with. -/
def IsOrigin (before : String) : Prop :=
  ∃ scheme ∈ ["http://", "https://"], ∃ authority : String,
    before = scheme ++ authority ∧ ∀ c ∈ authority.toList, c ∉ ['/', '?', '#']

/-- The spellings that Express routes to the login: in any case, with or without a slash at the
end, before a query or a fragment, and after the origin or not. -/
def RoutesToLogin (url : String) : Prop :=
  ∃ before path after : String, url = before ++ path ++ after ∧
    (before = "" ∨ IsOrigin before) ∧
    (after = "" ∨ after.toList.head? = some '?' ∨ after.toList.head? = some '#') ∧
    (toLowerCase path = "/api/auth/login" ∨ toLowerCase path = "/api/auth/login/")

/-- What a body names an account by: the login looks for the email and the phone, and for the id
of a provider where it is given neither. -/
def accountIdentifiers (body : Json) : List String :=
  let given := fun name => identifierText (body.field? name)
  match ["email", "phone"].filterMap given with
  | [] => ["providerId"].filterMap given
  | contacts => contacts

/-- Two attempts to log in to one account, from one address. -/
structure SameAttempt (r r' : Request) : Prop where
  route : RoutesToLogin ((r.originalUrl <|> r.url).getD "")
  route' : RoutesToLogin ((r'.originalUrl <|> r'.url).getD "")
  address : r.ip = r'.ip ∧ r.remoteAddress = r'.remoteAddress
  account : ∃ identifier, identifier ∈ accountIdentifiers (r.body.getD (.obj [])) ∧
    identifier ∈ accountIdentifiers (r'.body.getD (.obj []))

/-- The limiter reads the same of two requests: of both a token with the same hash, or of neither
a token and the same identifier, or none. -/
def SameReading (r r' : Request) : Prop :=
  let token := bearerToken (r.header "authorization")
  let token' := bearerToken (r'.header "authorization")
  token ≠ "" ∧ token' ≠ "" ∧ hash token = hash token' ∨
    token = "" ∧ token' = "" ∧ (identifierRead r).map hash = (identifierRead r').map hash

variable {hash}

/-! ### When the keys agree -/

/-- What follows the address in a key: the hash of an identifier, or nothing. -/
def identifierSuffix (hash : String → String) (read : Option String) : String :=
  match read with
  | some identifier => ":" ++ hash identifier
  | none => ""

theorem rateLimitTracker_of_token {trustProxy : Bool} {r : Request}
    (h : bearerToken (r.header "authorization") ≠ "") :
    rateLimitTracker hash trustProxy r =
      "token:" ++ hash (bearerToken (r.header "authorization")) :=
  if_pos h

theorem rateLimitTracker_of_no_token (hhash : ∀ text, hash text ≠ "") {trustProxy : Bool}
    {r : Request} (h : bearerToken (r.header "authorization") = "") :
    rateLimitTracker hash trustProxy r =
      clientIp trustProxy r ++ identifierSuffix hash (identifierRead r) := by
  rw [rateLimitTracker, if_neg (not_not.mpr h), requestIdentifier, valueHash, ← identifierRead]
  cases hread : identifierRead r with
  | none => exact (String.append_empty).symm
  | some identifier =>
    rw [Option.map_some, Option.getD_some, if_pos (hhash identifier), String.append_assoc]
    rfl

/-- The suffix tells which hash it is of. -/
theorem identifierSuffix_inj {read read' : Option String} :
    identifierSuffix hash read = identifierSuffix hash read' ↔ read.map hash = read'.map hash := by
  cases read with
  | none =>
    cases read' with
    | none => simp
    | some identifier' =>
      refine iff_of_false (fun h => ?_) (by simp)
      simpa [identifierSuffix] using congrArg String.toList h
  | some identifier =>
    cases read' with
    | none =>
      refine iff_of_false (fun h => ?_) (by simp)
      simpa [identifierSuffix] using congrArg String.toList h
    | some identifier' => simp [identifierSuffix]

/-- The key of a token is no key of an address. -/
theorem token_key_ne {address text : String} {read : Option String}
    (haddress : address.toList.head? ≠ some 't') :
    "token:" ++ text ≠ address ++ identifierSuffix hash read := by
  intro h
  have hlists := congrArg (fun s => s.toList.head?) h
  cases hchars : address.toList with
  | nil =>
    cases read with
    | none => simp [identifierSuffix, hchars] at hlists
    | some identifier => simp [identifierSuffix, hchars] at hlists
  | cons c chars =>
    rw [hchars] at haddress
    simp only [String.toList_append, hchars, List.cons_append, List.head?_cons] at hlists haddress
    exact haddress (hlists.symm.trans (by rfl))

theorem SameAttempt.clientIp_eq {r r' : Request} (h : SameAttempt r r') :
    clientIp false r = clientIp false r' := by
  simp only [clientIp, Bool.false_eq_true, if_false, if_true, h.address.1, h.address.2]

/-- **What the key of a login depends on.** Two attempts at one account from one address fall under
one key exactly where the limiter reads the same of them. `hhash` and `haddress` are what hashes
in hexadecimal digits and addresses of connections are like. -/
theorem login_key_iff (hhash : ∀ text, hash text ≠ "") {r r' : Request} (h : SameAttempt r r')
    (haddress : (clientIp false r).toList.head? ≠ some 't') :
    rateLimitTracker hash false r = rateLimitTracker hash false r' ↔ SameReading hash r r' := by
  have hip := h.clientIp_eq
  have haddress' : (clientIp false r').toList.head? ≠ some 't' := hip ▸ haddress
  unfold SameReading
  by_cases htoken : bearerToken (r.header "authorization") = ""
  · by_cases htoken' : bearerToken (r'.header "authorization") = ""
    · rw [rateLimitTracker_of_no_token hhash htoken, rateLimitTracker_of_no_token hhash htoken',
        hip, String.append_right_inj, identifierSuffix_inj]
      simp [htoken, htoken']
    · rw [rateLimitTracker_of_no_token hhash htoken, rateLimitTracker_of_token htoken']
      exact iff_of_false (token_key_ne haddress).symm (by simp [htoken, htoken'])
  · by_cases htoken' : bearerToken (r'.header "authorization") = ""
    · rw [rateLimitTracker_of_token htoken, rateLimitTracker_of_no_token hhash htoken']
      exact iff_of_false (token_key_ne haddress') (by simp [htoken, htoken'])
    · rw [rateLimitTracker_of_token htoken, rateLimitTracker_of_token htoken',
        String.append_right_inj]
      simp [htoken, htoken']

namespace Example

/-- An attempt at the account of an email. -/
def attempt : Request where
  originalUrl := some "/api/auth/login"
  ip := some "203.0.113.7"
  body := some (.obj [("email", .str "ada@fixzone.ng"), ("password", .str "guess-1")])

/-- The next one, with a token that nobody checks. -/
def attemptWithToken : Request :=
  { attempt with headers := [("authorization", .text "Bearer x")] }

/-- The next one without, in capitals and with a blank. -/
def attemptInCapitals : Request :=
  { attempt with
    originalUrl := some "/API/auth/LOGIN?next=1"
    body := some (.obj [("email", .str " ADA@FixZone.ng"), ("password", .str "guess-2")]) }

theorem routesToLogin_attempt : RoutesToLogin "/api/auth/login" :=
  ⟨"", "/api/auth/login", "", rfl, .inl rfl, .inl rfl, .inl (by decide +kernel)⟩

theorem sameAttempt_withToken : SameAttempt attempt attemptWithToken where
  route := routesToLogin_attempt
  route' := routesToLogin_attempt
  address := ⟨rfl, rfl⟩
  account := ⟨"ada@fixzone.ng", by decide +kernel, by decide +kernel⟩

theorem sameAttempt_inCapitals : SameAttempt attempt attemptInCapitals where
  route := routesToLogin_attempt
  route' := ⟨"", "/API/auth/LOGIN", "?next=1", rfl, .inl rfl, .inr (.inl (by decide +kernel)),
    .inl (by decide +kernel)⟩
  address := ⟨rfl, rfl⟩
  account := ⟨"ada@fixzone.ng", by decide +kernel, by decide +kernel⟩

/-- The hash of that email, at which nothing else is looked. -/
def hashOfAda (_ : String) : String := "f0c05a8b8295b7053574e445"

end Example

open Example in
/-- Two attempts in different cases fall under one key. -/
theorem attempt_in_capitals_counted :
    rateLimitTracker hashOfAda false attempt = rateLimitTracker hashOfAda false attemptInCapitals :=
  (login_key_iff (fun _ => show "f0c05a8b8295b7053574e445" ≠ "" by decide)
    sameAttempt_inCapitals (by decide +kernel)).mpr (.inr (by decide +kernel))

open Example in
/-- An attempt with a token that nobody checks falls under another key, whatever the hash. -/
theorem token_dodges_limit : ¬∃ hash : String → String, ∀ r r' : Request, SameAttempt r r' →
    rateLimitTracker hash false r = rateLimitTracker hash false r' := by
  rintro ⟨hash, h⟩
  have hkeys := h attempt attemptWithToken sameAttempt_withToken
  have htoken : rateLimitTracker hash false attemptWithToken = "token:" ++ hash "x" :=
    rateLimitTracker_of_token (by decide +kernel)
  have haddress : (rateLimitTracker hash false attempt).toList.head? = some '2' := by
    rw [rateLimitTracker, if_neg (by decide +kernel)]
    dsimp only
    split_ifs
    · rw [String.append_assoc, String.toList_append]
      rfl
    · rfl
  rw [hkeys, htoken, String.toList_append] at haddress
  exact absurd haddress (by simp)

end FixZone.RateLimit
