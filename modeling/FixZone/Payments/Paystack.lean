import FixZone.Library.Guard
import FixZone.Schema
import Mathlib.Data.Rat.Defs

/-!
# The payment provider

`payment.types.ts` and the part of `PaystackPaymentAdapter` that reads what the provider
says: a webhook or an answer to a verification becomes a normalized transaction, or the
adapter throws. The HTTP calls and the signature of a webhook are outside; a payload is
taken as trusted.
-/

namespace FixZone.PaymentsService

open Library

/-- What the services of this folder throw. The last two are Prisma's: no row to update, a unique
key taken. -/
inductive PaymentError where
  | notFound (message : String)
  | forbidden (message : String)
  | badRequest (code message : String)
  | serviceUnavailable (code message : String)
  | badGateway (code message : String)
  | recordNotFound
  | uniqueConstraint
  deriving DecidableEq, Repr

/-- `NormalizedProviderTransaction`. The amount is a number of the language: `none` is
`NaN` or an infinity. -/
structure NormalizedProviderTransaction where
  provider : PaymentProvider := .paystack
  environment : PaymentEnvironment := .test
  providerReference : String
  internalReference : String
  status : PaymentTransactionStatus
  amountMinor : Option ℚ
  currency : String
  paidAt : Option Millis := none
  eventId : Option String := none
  metadata : Json := .obj []

/-- `NormalizedWebhookEvent`. -/
structure NormalizedWebhookEvent where
  event : String
  eventId : String
  transaction : Option NormalizedProviderTransaction := none

/-- What the adapter takes from its surroundings: the mode, and the language's `Number(value)`
and `new Date(text).getTime()`, nothing where the result is not a finite number. -/
structure PaystackSettings where
  environment : PaymentEnvironment := .test
  number : Json → Option ℚ
  date : String → Option Millis

variable (settings : PaystackSettings)

/-- `asRecord`. -/
def asRecord (value : Option Json) : Json :=
  match value with
  | some record => if record.isObject then record else .obj []
  | none => .obj []

/-- `optionalString`. -/
def optionalString (value : Option Json) : Option String :=
  match value with
  | some (.str text) => if trim text = "" then none else some (trim text)
  | _ => none

/-- `requiredString`. -/
def requiredString (value : Option Json) : Except PaymentError String :=
  orThrow (optionalString value)
    (.badGateway "PAYSTACK_RESPONSE_MALFORMED" "Payment provider response was incomplete.")

/-- `parseDate`. -/
def parseDate (value : Option Json) : Option Millis := (optionalString value).bind settings.date

/-- `value.a ?? value.b`. -/
def fieldOr (value : Json) (first second : String) : Option Json :=
  match value.field? first with
  | none | some .null => value.field? second
  | some found => some found

/-- A text or `null`, as a value of an object. -/
def textOrNull (text : Option String) : Json := (text.map Json.str).getD .null

/-- `sanitizeMetadata`. -/
def sanitizeMetadata (metadata : Json) : Json :=
  .obj (["organizationId", "planCode", "internalReference"].map fun name =>
    (name, textOrNull (optionalString (metadata.field? name))))

/-- The status a normalized transaction gets. -/
def normalizedStatus (statusText event : Option String) : PaymentTransactionStatus :=
  if event = some "refund.processed" then .refunded
  else if statusText = some "success" then .paid
  else if statusText = some "failed" ∨ event = some "charge.failed" then .failed
  else .pending

/-- `normalizeTransaction`. -/
def normalizeTransaction (data : Json) (eventId event : Option String) :
    Except PaymentError NormalizedProviderTransaction := do
  let reference ← requiredString (data.field? "reference")
  let currency ← requiredString (data.field? "currency")
  return {
    environment := settings.environment
    providerReference := reference
    internalReference := reference
    status := normalizedStatus ((optionalString (data.field? "status")).map toLowerCase) event
    amountMinor := match data.field? "amount" with
      | none | some .null => some 0
      | some amount => settings.number amount
    currency := toUpperCase currency
    paidAt := parseDate settings (fieldOr data "paid_at" "paidAt")
    eventId
    metadata := sanitizeMetadata (asRecord (data.field? "metadata")) }

/-- The id of a webhook: its own, that of its data, or one made of its name and reference. -/
def webhookEventId (event : String) (body data : Json) : Except PaymentError String :=
  match optionalString (body.field? "id") <|> optionalString (data.field? "id") with
  | some id => .ok id
  | none => do return event ++ ":" ++ (← requiredString (data.field? "reference"))

/-- `parseWebhookEvent`. -/
def parseWebhookEvent (payload : Json) : Except PaymentError NormalizedWebhookEvent := do
  let body := asRecord (some payload)
  let event ← requiredString (body.field? "event")
  let data := asRecord (body.field? "data")
  let eventId ← webhookEventId event body data
  let recognized :=
    ["charge.success", "charge.failed", "transfer.failed", "refund.processed"].contains event
  if recognized then
    return { event, eventId, transaction := some (← normalizeTransaction settings data eventId event) }
  else
    return { event, eventId }

variable {settings} {data payload : Json} {eventId event : Option String}
  {trusted : NormalizedProviderTransaction} {webhook : NormalizedWebhookEvent}

/-- The provider has one reference, and it stands for both. -/
theorem normalizeTransaction_eq_ok
    (h : normalizeTransaction settings data eventId event = .ok trusted) :
    trusted.providerReference = trusted.internalReference ∧
      trusted.status = normalizedStatus
      ((optionalString (data.field? "status")).map toLowerCase) event := by
  unfold normalizeTransaction at h
  obtain ⟨reference, -, h⟩ := bind_eq_ok.mp h
  obtain ⟨currency, -, h⟩ := bind_eq_ok.mp h
  obtain rfl := Except.ok.inj h
  exact ⟨rfl, rfl⟩

/-- A recognized webhook carries the transaction its data normalizes to, under the event's own name. -/
theorem parseWebhookEvent_transaction (h : parseWebhookEvent settings payload = .ok webhook)
    (htransaction : webhook.transaction = some trusted) :
    normalizeTransaction settings (asRecord ((asRecord (some payload)).field? "data"))
    (some webhook.eventId)
      (some webhook.event) = .ok trusted := by
  unfold parseWebhookEvent at h
  obtain ⟨name, -, h⟩ := bind_eq_ok.mp h
  obtain ⟨id, -, h⟩ := bind_eq_ok.mp h
  dsimp only at h
  split at h
  · obtain ⟨normalized, hnormalized, h⟩ := bind_eq_ok.mp h
    obtain rfl := Except.ok.inj h
    obtain rfl := Option.some.inj htransaction
    exact hnormalized
  · obtain rfl := Except.ok.inj h
    cases htransaction

/-- A refund that arrives as a webhook is a refund whatever the status in its data. -/
theorem refund_of_webhook (h : parseWebhookEvent settings payload = .ok webhook)
    (htransaction : webhook.transaction = some trusted) (hevent : webhook.event = "refund.processed") :
    trusted.status = .refunded := by
  have hnormalized := parseWebhookEvent_transaction h htransaction
  rw [(normalizeTransaction_eq_ok hnormalized).2, hevent]
  rfl

/-- No other webhook is taken for a refund. -/
theorem not_refund_of_webhook (h : parseWebhookEvent settings payload = .ok webhook)
    (htransaction : webhook.transaction = some trusted) (hevent : webhook.event ≠ "refund.processed") :
    trusted.status ≠ .refunded := by
  have hnormalized := parseWebhookEvent_transaction h htransaction
  rw [(normalizeTransaction_eq_ok hnormalized).2]
  unfold normalizedStatus
  split_ifs <;> simp_all

end FixZone.PaymentsService
