import FixZone.Library.Run
import FixZone.Library.Table
import FixZone.Payments.Paystack
import FixZone.Payments.PlanCatalog
import FixZone.Report.Routing

/-!
# The state and the operations of the payment service

The rows `PaymentsService` reads and writes, and its operations on them: the start of a
payment, what is recorded of the provider's answer to it, and
`processTrustedProviderTransaction`, which a webhook, a verification and a
reconciliation all end in. A database transaction is one step; an operation that throws
in it leaves the store as it was. `sourceTransactionId` of a subscription and
`transactionId` of a receipt are unique in the schema and are the keys of their tables;
the other unique columns are checked where a row gets them. The audit log is left out.
-/

namespace FixZone.PaymentsService

open Library ReportService

/-! ### Rows -/

/-- `Organization`. The columns routing reads are those of `ResponsibilityOrganizationProfile`. -/
structure Organization extends ResponsibilityOrganizationProfile where
  subscriptionPlan : SubscriptionPlan := .free
  subscriptionStartAt : Option Millis := none
  subscriptionEndAt : Option Millis := none
  allowedUsers : Option ℕ := none
  allowedProviders : Option ℕ := none
  allowedStorageMb : Option ℕ := none

/-- The primary key. -/
def Organization.key (organization : Organization) : String := organization.id

/-- `PaymentTransaction`. -/
structure PaymentTransaction where
  id : String
  organizationId : String
  requestingUserId : Option String := none
  provider : PaymentProvider := .paystack
  environment : PaymentEnvironment := .test
  internalReference : String
  providerReference : Option String := none
  providerAccessCode : Option String := none
  providerAuthorizationUrl : Option String := none
  planCode : SubscriptionPlan
  amountMinor : ℤ
  currency : String
  status : PaymentTransactionStatus := .initialized
  initializedAt : Millis := 0
  paidAt : Option Millis := none
  verifiedAt : Option Millis := none
  failedAt : Option Millis := none
  refundedAt : Option Millis := none
  providerEventReference : Option String := none
  lastReconciledAt : Option Millis := none
  reviewReason : Option String := none
  sanitizedMetadata : Option Json := none
  createdAt : Millis := 0

/-- `OrganizationSubscription`. Every subscription the code creates has a source transaction. -/
structure OrganizationSubscription where
  organizationId : String
  planCode : SubscriptionPlan
  status : OrganizationSubscriptionStatus := .active
  currentPeriodStartAt : Millis
  currentPeriodEndAt : Option Millis := none
  sourceTransactionId : String
  entitlementAppliedAt : Option Millis := none

/-- `PaymentReceipt`. -/
structure PaymentReceipt where
  transactionId : String
  organizationId : String
  receiptNumber : String
  paidAt : Millis
  organizationName : String
  planCode : SubscriptionPlan
  planNameKey : String
  amountMinor : ℤ
  currency : String
  provider : PaymentProvider
  providerReference : Option String
  status : PaymentReceiptStatus := .issued

/-- `OrganizationUpgradeRequest`. -/
structure OrganizationUpgradeRequest where
  id : String
  organizationId : String
  requestedPlan : SubscriptionPlan
  status : UpgradeRequestStatus := .pending
  completedAt : Option Millis := none
  reviewNote : Option String := none
  currentPlan : SubscriptionPlan := .free
  requestedByUserId : String := ""
  requestNote : Option String := none
  reviewedByUserId : Option String := none
  reviewedAt : Option Millis := none

/-- What the payment service reads of a `User` row. -/
structure BillingUser where
  id : String
  role : UserRole
  email : Option String := none
  organizationId : Option String := none

/-- `Notification`. -/
structure PaymentNotification where
  userId : String
  type : String
  title : String
  message : String
  deriving DecidableEq

/-- What the payment service stores. -/
structure Store where
  organizations : Table Organization.key
  transactions : Table PaymentTransaction.id
  subscriptions : Table OrganizationSubscription.sourceTransactionId
  receipts : Table PaymentReceipt.transactionId
  upgradeRequests : List OrganizationUpgradeRequest
  users : List BillingUser
  notifications : List PaymentNotification

/-- The store before the first payment. -/
def Store.unpaid (organizations : Table Organization.key)
    (upgradeRequests : List OrganizationUpgradeRequest) (users : List BillingUser) : Store :=
  ⟨organizations, Table.empty _, Table.empty _, Table.empty _, upgradeRequests, users, []⟩

namespace Store

variable (s : Store)

/-- `prisma.organization.findUnique`. -/
def organization? (id : String) : Option Organization := s.organizations.find? id

/-- `prisma.paymentTransaction.findUnique`. -/
def transaction? (id : String) : Option PaymentTransaction := s.transactions.find? id

/-- `paymentTransaction.update`. -/
def updateTransaction (id : String) (data : Patch PaymentTransaction.id) : Store :=
  { s with transactions := s.transactions.modify id data }

/-- Whether a provider's reference is taken: `@@unique([provider, providerReference])`. -/
def providerReferenceTaken (reference : String) : Bool :=
  s.transactions.rows.any fun transaction => transaction.providerReference = some reference

end Store

/-! ### Starting a payment -/

variable (now : Millis) (s : Store)

/-- `resolveActivePlan`. -/
def resolveActivePlan (planCode : String) : Except PaymentError CommercialPlan :=
  orThrow ((resolvePaymentPlan planCode).filter fun plan => plan.active)
    (.badRequest "INVALID_PLAN" "The requested plan is not available for payment.")

/-- `assertPlanUsableInEnvironment`. -/
def assertPlanUsableInEnvironment (environment : PaymentEnvironment) (plan : CommercialPlan) :
    Except PaymentError PUnit :=
  throwIf (environment = .live ∧ plan.amountMinor < 1)
    (.serviceUnavailable "LIVE_PRICE_NOT_CONFIGURED" "Live plan pricing is not configured.")

/-- `findReusablePendingTransaction`, up to which of several is found first. -/
def findReusablePendingTransaction (organizationId : String) (plan : CommercialPlan) :
    Option PaymentTransaction :=
  s.transactions.rows.find? fun transaction =>
    transaction.organizationId = organizationId && transaction.planCode = plan.code &&
      transaction.amountMinor = plan.amountMinor && transaction.currency = plan.currency &&
      transaction.status = .pending && now - 20 * 60000 ≤ transaction.initializedAt &&
      transaction.providerAuthorizationUrl.isSome

/-- `createReference`, from the random part. -/
def createReference (organizationId random : String) : String :=
  "fz_" ++ String.ofList (organizationId.toList.take 8) ++ "_" ++ random

/-- `transactionMetadata`. -/
def transactionMetadata (organizationId : String) (plan : CommercialPlan) : Json :=
  .obj [("organizationId", .str organizationId), ("planCode", .str plan.code.text),
    ("planNameKey", .str plan.displayNameKey), ("source", .str "organization_subscription_payment")]

/-- `initializeOrganizationPayment` as it is asked for. `billingAuthority`, `ready` and
`callbackUrl` are the verdicts of `assertBillingAuthority`, of the provider's `assertReady` and of
the callback setting; `random` and `transactionId` are made up by the process and the database. -/
structure PaymentRequest where
  organizationId : String
  planCode : String
  userId : String
  environment : PaymentEnvironment := .test
  billingAuthority : Except PaymentError PUnit := .ok ⟨⟩
  ready : Except PaymentError PUnit := .ok ⟨⟩
  callbackUrl : Except PaymentError String := .ok ""
  random : String := ""
  transactionId : String

/-- The row `initializeOrganizationPayment` creates. -/
def initializedTransaction (request : PaymentRequest) (plan : CommercialPlan) :
    PaymentTransaction where
  id := request.transactionId
  organizationId := request.organizationId
  requestingUserId := some request.userId
  environment := request.environment
  internalReference := createReference request.organizationId request.random
  planCode := plan.code
  amountMinor := plan.amountMinor
  currency := plan.currency
  initializedAt := now
  sanitizedMetadata := some (transactionMetadata request.organizationId plan)
  createdAt := now

/-- `initializeOrganizationPayment`, up to the call of the provider. A pending checkout is reused. -/
def beginOrganizationPayment (request : PaymentRequest) : Except PaymentError Store := do
  request.billingAuthority
  let plan ← resolveActivePlan request.planCode
  assertPlanUsableInEnvironment request.environment plan
  request.ready
  let _ ← orThrow (s.organization? request.organizationId) (.notFound "Organization not found")
  let actor := s.users.find? fun user => user.id = request.userId
  throwIf (!truthy (actor.bind (·.email)))
    (.badRequest "BILLING_EMAIL_REQUIRED" "A billing email is required before payment can start.")
  if (findReusablePendingTransaction now s request.organizationId plan).isSome then return s
  let _ ← request.callbackUrl
  let transaction := initializedTransaction now request plan
  throwIf (s.transactions.rows.any fun row =>
    row.id = transaction.id || row.internalReference = transaction.internalReference)
      .uniqueConstraint
  return { s with transactions := s.transactions.insert transaction }

/-- `PaymentInitializationResult`. -/
structure PaymentInitializationResult where
  authorizationUrl : String
  accessCode : String
  providerReference : String

/-- The columns a successful initialization writes. -/
@[simp] def checkoutData (result : PaymentInitializationResult) : Patch PaymentTransaction.id where
  apply t := { t with
    status := .pending
    providerReference := some result.providerReference
    providerAccessCode := some result.accessCode
    providerAuthorizationUrl := some result.authorizationUrl }

/-- The columns a failed initialization writes. -/
@[simp] def initializationFailedData : Patch PaymentTransaction.id where
  apply t := { t with
    status := .failed
    failedAt := some now
    reviewReason := some "Provider initialization failed." }

/-- The rest of `initializeOrganizationPayment`: the provider has answered for the transaction, or
has not. An answer that cannot be written counts as a failure. -/
def recordInitialization (transactionId : String)
    (answer : Option PaymentInitializationResult) : Store :=
  match answer with
  | some result =>
    if s.providerReferenceTaken result.providerReference then
      s.updateTransaction transactionId (initializationFailedData now)
    else s.updateTransaction transactionId (checkoutData result)
  | none => s.updateTransaction transactionId (initializationFailedData now)

/-! ### Provider transactions -/

/-- A provider transaction that was verified to come from the provider, and the webhook it came
in, if it did. -/
structure Notice where
  trusted : NormalizedProviderTransaction
  event : Option NormalizedWebhookEvent := none

/-- `event?.eventId ?? trusted.eventId ?? null`. -/
def Notice.eventReference (notice : Notice) : Option String :=
  notice.event.map (·.eventId) <|> notice.trusted.eventId

/-- `paymentMismatch`. -/
def paymentMismatch (transaction : PaymentTransaction) (trusted : NormalizedProviderTransaction) :
    Option String :=
  if trusted.amountMinor ≠ some (transaction.amountMinor : ℚ) then some "amount_mismatch"
  else if trusted.currency ≠ transaction.currency then some "currency_mismatch"
  else if trusted.internalReference ≠ transaction.internalReference ∧
      some trusted.providerReference ≠ transaction.providerReference then some "reference_mismatch"
  else none

/-- `receiptNumber`. -/
def receiptNumber (reference : String) : String :=
  let chars := reference.toList
  "RCPT-" ++ toUpperCase (String.ofList (chars.drop (chars.length - 12)))

/-- The columns of an organization a fulfilled payment writes. -/
@[simp] def entitlementData (plan : CommercialPlan) : Patch Organization.key where
  apply o := { o with
    subscriptionPlan := plan.code
    billingStatus := .active
    subscriptionStartAt := some now
    subscriptionEndAt := some (addBillingPeriod now plan.billingInterval)
    allowedUsers := plan.entitlements.allowedUsers
    allowedProviders := plan.entitlements.allowedProviders
    allowedReportsPerMonth := plan.entitlements.allowedReportsPerMonth
    allowedStorageMb := plan.entitlements.allowedStorageMb
    enabledModules :=
    some (.obj [("modules", .arr (plan.entitlements.enabledModules.map Json.str))]) }

/-- The columns of the transaction a fulfilled payment writes. -/
@[simp] def paidData (notice : Notice) : Patch PaymentTransaction.id where
  apply t := { t with
    status := .paid
    paidAt := some (notice.trusted.paidAt.getD now)
    verifiedAt := some now
    providerEventReference := notice.eventReference
    sanitizedMetadata := some notice.trusted.metadata
    lastReconciledAt := some now }

/-- The subscription a fulfilled payment creates. -/
def paidSubscription (transaction : PaymentTransaction) (plan : CommercialPlan) :
    OrganizationSubscription where
  organizationId := transaction.organizationId
  planCode := plan.code
  currentPeriodStartAt := now
  currentPeriodEndAt := some (addBillingPeriod now plan.billingInterval)
  sourceTransactionId := transaction.id
  entitlementAppliedAt := some now

/-- The receipt a fulfilled payment creates. -/
def paidReceipt (paid : PaymentTransaction) (organization : Organization) (plan : CommercialPlan) :
    PaymentReceipt where
  transactionId := paid.id
  organizationId := organization.id
  receiptNumber := receiptNumber paid.internalReference
  paidAt := paid.paidAt.getD now
  organizationName := organization.name
  planCode := plan.code
  planNameKey := plan.displayNameKey
  amountMinor := plan.amountMinor
  currency := plan.currency
  provider := paid.provider
  providerReference := paid.providerReference

/-- The upgrade requests of the organization for the plan are completed. -/
def completeUpgradeRequest (organizationId : String) (plan : CommercialPlan)
    (row : OrganizationUpgradeRequest) : OrganizationUpgradeRequest :=
  if row.organizationId = organizationId ∧ row.requestedPlan = plan.code ∧
    row.status = .pending then
    { row with
      status := .completed
      completedAt := some now
      reviewNote := some "Completed by verified subscription payment." }
  else row

/-- The administrators a fulfilled payment notifies. -/
def activationNotifications (organization : Organization) : List PaymentNotification :=
  ((s.users.filter fun user => user.organizationId = some organization.id ∧
      (user.role = .orgAdmin ∨ user.role = .billingAdmin)).take 50).map fun admin =>
    { userId := admin.id, type := "payment.subscription_activated",
      title := "Subscription activated"
      message := organization.name ++ " subscription is active." }

/-- Whether a new receipt for the transaction would take a number that another one has. -/
def receiptNumberTaken (transaction : PaymentTransaction) : Bool :=
  (s.receipts.find? transaction.id).isNone &&
    s.receipts.rows.any fun receipt =>
      receipt.receiptNumber = receiptNumber transaction.internalReference

/-- The writes of `fulfillPayment`. -/
def fulfilledStore (transaction : PaymentTransaction) (notice : Notice) (plan : CommercialPlan)
    (organization : Organization) : Store where
  organizations := s.organizations.modify transaction.organizationId (entitlementData now plan)
  transactions := s.transactions.modify transaction.id (paidData now notice)
  subscriptions := s.subscriptions.upsert (paidSubscription now transaction plan)
    { apply := fun row => { row with entitlementAppliedAt := some now } }
  receipts :=
    s.receipts.upsert (paidReceipt now ((paidData now notice).apply transaction) organization plan)
    { apply := id }
  upgradeRequests := s.upgradeRequests.map (completeUpgradeRequest now organization.id plan)
  users := s.users
  notifications := s.notifications ++ activationNotifications s organization

/-- `fulfillPayment`. -/
def fulfillPayment (transaction : PaymentTransaction) (notice : Notice) :
    Except PaymentError (Store × PaymentTransaction) := do
  let plan ← resolveActivePlan transaction.planCode.text
  let organization ← orThrow (s.organization? transaction.organizationId) .recordNotFound
  throwIf (receiptNumberTaken s transaction) .uniqueConstraint
  return (fulfilledStore now s transaction notice plan organization,
    (paidData now notice).apply transaction)

/-- The columns a mismatch writes. -/
@[simp] def reviewData (notice : Notice) (mismatch : String) : Patch PaymentTransaction.id where
  apply t := { t with
    status := .reviewRequired
    providerEventReference := notice.eventReference
    reviewReason := some mismatch
    lastReconciledAt := some now }

/-- `failedStatus`: what a transaction becomes that the provider does not report as paid. -/
def failedStatus (status : PaymentTransactionStatus) : PaymentTransactionStatus :=
  if status = .refunded then .refunded
  else if status = .failed then .failed
  else .processing

/-- The columns a transaction gets that the provider does not report as paid. -/
@[simp] def unpaidData (notice : Notice) : Patch PaymentTransaction.id where
  apply t := { t with
    status := failedStatus notice.trusted.status
    failedAt := if failedStatus notice.trusted.status = .failed then some now else t.failedAt
    refundedAt := if failedStatus notice.trusted.status = .refunded then some now else t.refundedAt
    providerEventReference := notice.eventReference
    sanitizedMetadata := some notice.trusted.metadata
    lastReconciledAt := some now }

/-- The transaction a provider transaction is about: the first one with one of its references. -/
def existingTransaction (trusted : NormalizedProviderTransaction) : Option PaymentTransaction :=
  s.transactions.rows.find? fun transaction =>
    transaction.internalReference = trusted.internalReference ||
      transaction.providerReference = some trusted.providerReference

/-- Whether nothing more happens to a transaction: it is `PAID` or `VERIFIED`. -/
def PaymentTransaction.settled (transaction : PaymentTransaction) : Bool :=
  transaction.status = .paid || transaction.status = .verified

/-- The database transaction of `processTrustedProviderTransaction`. -/
def settleTransaction (transaction : PaymentTransaction) (notice : Notice) :
    Except PaymentError (Store × PaymentTransaction) :=
  if transaction.settled then .ok (s, transaction)
  else
    match paymentMismatch transaction notice.trusted with
    | some mismatch =>
      .ok (s.updateTransaction transaction.id (reviewData now notice mismatch),
        (reviewData now notice mismatch).apply transaction)
    | none =>
      if notice.trusted.status = .paid then fulfillPayment now s transaction notice
      else
        .ok (s.updateTransaction transaction.id (unpaidData now notice),
          (unpaidData now notice).apply transaction)

/-- `processTrustedProviderTransaction`. The transaction that is looked up is read again under its
id in the database transaction: the same row. -/
def processTrustedProviderTransaction (notice : Notice) :
    Except PaymentError (Store × PaymentTransaction) := do
  let existing ← orThrow (existingTransaction s notice.trusted) (.notFound "Transaction not found")
  settleTransaction now s existing notice

end FixZone.PaymentsService
