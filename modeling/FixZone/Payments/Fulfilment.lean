import FixZone.Payments.Model

/-!
# At most one fulfilment

The payment service as a system that takes one event after another: requests for a
payment, the provider's answers to them, and deliveries of provider transactions. What a
delivery does is said once (`deliver_cases`): nothing, a change of its transaction alone,
or a fulfilment. From it, over every run of the service: a transaction that is `PAID`
stays as it is, the entitlements of an organization change only where the event is paid
and agrees with the transaction, and a receipt says what its transaction says
(`fulfilment_at_most_once`).
-/

namespace FixZone.PaymentsService

open Library ReportService

/-! ### Events -/

/-- A delivery of a provider transaction: by a webhook, a verification or a reconciliation. -/
structure Delivery where
  now : Millis
  notice : Notice

/-- The store after a delivery; one that throws is rolled back. -/
def deliver (delivery : Delivery) (s : Store) : Store :=
  match processTrustedProviderTransaction delivery.now s delivery.notice with
  | .ok (s', _) => s'
  | .error _ => s

/-- What happens to the payments of the platform. -/
inductive Event where
  | beginPayment (now : Millis) (request : PaymentRequest)
  | recordInitialization (now : Millis) (transactionId : String)
      (answer : Option PaymentInitializationResult)
  | deliver (delivery : Delivery)

/-- The store after an event. -/
def handle (event : Event) (s : Store) : Store :=
  match event with
  | .beginPayment now request =>
    match beginOrganizationPayment now s request with
    | .ok s' => s'
    | .error _ => s
  | .recordInitialization now transactionId answer =>
      recordInitialization now s transactionId answer
  | .deliver delivery => deliver delivery s

/-! ### What a delivery does -/

variable {s : Store} {d : Delivery} {t : PaymentTransaction} {now : Millis} {notice : Notice}

/-- **What a fulfilment needs and does.** -/
theorem fulfillPayment_eq_ok_iff {result : Store × PaymentTransaction} :
    fulfillPayment now s t notice = .ok result ↔ ∃ plan organization,
      resolveActivePlan t.planCode.text = .ok plan ∧
        s.organization? t.organizationId = some organization ∧ receiptNumberTaken s t = false ∧
        result = (fulfilledStore now s t notice plan organization,
        (paidData now notice).apply t) := by
  constructor
  · intro h
    unfold fulfillPayment at h
    obtain ⟨plan, hplan, h⟩ := bind_eq_ok.mp h
    obtain ⟨organization, horganization, h⟩ := orThrow_bind_eq_ok.mp h
    obtain ⟨hnumber, h⟩ := throwIf_bind_eq_ok.mp h
    exact ⟨plan, organization, hplan, horganization, by simpa using hnumber, (Except.ok.inj h).symm⟩
  · rintro ⟨plan, organization, hplan, horganization, hnumber, rfl⟩
    simp only [fulfillPayment, hplan, horganization, hnumber, orThrow_some, ok_bind]
    rfl

/-- A delivery fulfils the payment of `t`: the writes are those for `plan` and `organization`. -/
structure Fulfils (s : Store) (d : Delivery) (t : PaymentTransaction) (plan : CommercialPlan)
    (organization : Organization) : Prop where
  existing : existingTransaction s d.notice.trusted = some t
  unsettled : t.settled = false
  agrees : paymentMismatch t d.notice.trusted = none
  paid : d.notice.trusted.status = .paid
  plan_eq : resolveActivePlan t.planCode.text = .ok plan
  organization_eq : s.organization? t.organizationId = some organization
  number_free : receiptNumberTaken s t = false

theorem Fulfils.deliver_eq {plan : CommercialPlan} {organization : Organization}
    (h : Fulfils s d t plan organization) :
    deliver d s = fulfilledStore d.now s t d.notice plan organization := by
  have hfulfil : fulfillPayment d.now s t d.notice =
      .ok (fulfilledStore d.now s t d.notice plan organization,
      (paidData d.now d.notice).apply t) :=
    fulfillPayment_eq_ok_iff.mpr
      ⟨plan, organization, h.plan_eq, h.organization_eq, h.number_free, rfl⟩
  have hprocess : processTrustedProviderTransaction d.now s d.notice =
      fulfillPayment d.now s t d.notice := by
    simp only [processTrustedProviderTransaction, h.existing, orThrow_some, ok_bind,
      settleTransaction, h.unsettled, h.agrees, h.paid, if_true, Bool.false_eq_true, if_false]
  unfold deliver
  rw [hprocess, hfulfil]

/-- **What a delivery does.** -/
theorem deliver_cases (s : Store) (d : Delivery) :
    deliver d s = s ∨
      (∃ t, existingTransaction s d.notice.trusted = some t ∧ t.settled = false ∧
        ((∃ mismatch, paymentMismatch t d.notice.trusted = some mismatch ∧
            deliver d s = s.updateTransaction t.id (reviewData d.now d.notice mismatch)) ∨
          (paymentMismatch t d.notice.trusted = none ∧ d.notice.trusted.status ≠ .paid ∧
            deliver d s = s.updateTransaction t.id (unpaidData d.now d.notice)))) ∨
      ∃ t plan organization, Fulfils s d t plan organization := by
  cases hexisting : existingTransaction s d.notice.trusted with
  | none =>
    left
    unfold deliver processTrustedProviderTransaction
    rw [hexisting]
    rfl
  | some t =>
    have hprocess : processTrustedProviderTransaction d.now s d.notice =
        settleTransaction d.now s t d.notice := by
      rw [processTrustedProviderTransaction, hexisting, orThrow_some, ok_bind]
    unfold deliver
    rw [hprocess]
    unfold settleTransaction
    cases hsettled : t.settled with
    | true => exact .inl rfl
    | false =>
      simp only [Bool.false_eq_true, if_false]
      cases hmismatch : paymentMismatch t d.notice.trusted with
      | some mismatch => exact .inr (.inl ⟨t, rfl, hsettled, .inl ⟨mismatch, hmismatch, rfl⟩⟩)
      | none =>
        by_cases hpaid : d.notice.trusted.status = .paid
        · simp only [hpaid, if_true]
          cases hfulfil : fulfillPayment d.now s t d.notice with
          | error e => exact .inl rfl
          | ok result =>
            obtain ⟨plan, organization, hplan, horganization, hnumber, -⟩ :=
              fulfillPayment_eq_ok_iff.mp hfulfil
            exact .inr (.inr ⟨t, plan, organization, hexisting, hsettled, hmismatch, hpaid, hplan,
              horganization, hnumber⟩)
        · simp only [hpaid, if_false]
          exact .inr (.inl ⟨t, rfl, hsettled, .inr ⟨hmismatch, hpaid, rfl⟩⟩)

theorem transaction?_of_existing (h : existingTransaction s notice.trusted = some t) :
    s.transaction? t.id = some t :=
  Table.mem_rows_iff.mp (List.mem_of_find?_eq_some h)

/-- Where the two agree the event's amount, its currency and one of its references are the
transaction's. -/
theorem paymentMismatch_eq_none_iff {trusted : NormalizedProviderTransaction} :
    paymentMismatch t trusted = none ↔ trusted.amountMinor = some (t.amountMinor : ℚ) ∧
      trusted.currency = t.currency ∧ (trusted.internalReference = t.internalReference ∨
        some trusted.providerReference = t.providerReference) := by
  unfold paymentMismatch
  split_ifs with hamount hcurrency hreference
  · simp [hamount]
  · simp [hcurrency]
  · simp [hreference.1, hreference.2]
  · rw [not_and_or, not_not, not_not] at hreference
    exact iff_of_true rfl ⟨not_not.mp hamount, not_not.mp hcurrency, hreference⟩

/-! ### Transactions that are paid -/

/-- A delivery leaves alone what is paid: the row of a `PAID` transaction, and everything if it is
a delivery of that transaction. -/
def LeavesPaid (s : Store) (d : Delivery) : Prop :=
  ∀ id t, s.transaction? id = some t → t.status = .paid →
    (deliver d s).transaction? id = some t ∧
      (existingTransaction s d.notice.trusted = some t → deliver d s = s)

theorem transaction?_updateTransaction_of_ne {id id' : String} (data : Patch PaymentTransaction.id)
    (h : id' ≠ id) :
    (s.updateTransaction id data).transaction? id' = s.transaction? id' :=
  Table.find?_modify_of_ne data h

/-- An unsettled transaction is not the one that is paid. -/
theorem ne_of_unsettled {id : String} {t' : PaymentTransaction} (ht : s.transaction? id = some t)
    (hpaid : t.status = .paid) (ht' : s.transaction? t'.id = some t')
    (hunsettled : t'.settled = false) :
    id ≠ t'.id := by
  rintro rfl
  obtain rfl := Option.some.inj (ht'.symm.trans ht)
  simp [PaymentTransaction.settled, hpaid] at hunsettled

theorem leavesPaid (s : Store) (d : Delivery) : LeavesPaid s d := by
  intro id t ht hpaid
  rcases deliver_cases s d with hsame | ⟨t', hexisting, hunsettled, hwrites⟩ | ⟨t', plan,
    organization, hfulfils⟩
  · exact ⟨by rw [hsame, ht], fun _ => hsame⟩
  · have hne := ne_of_unsettled ht hpaid (transaction?_of_existing hexisting) hunsettled
    refine ⟨?_, fun hexisting' => ?_⟩
    · rcases hwrites with ⟨mismatch, -, hdeliver⟩ | ⟨-, -, hdeliver⟩ <;>
        rw [hdeliver, transaction?_updateTransaction_of_ne _ hne, ht]
    · obtain rfl := Option.some.inj (hexisting.symm.trans hexisting')
      simp [PaymentTransaction.settled, hpaid] at hunsettled
  · have hne :=
      ne_of_unsettled ht hpaid (transaction?_of_existing hfulfils.existing) hfulfils.unsettled
    refine ⟨?_, fun hexisting' => ?_⟩
    · rw [hfulfils.deliver_eq]
      exact (Table.find?_modify_of_ne _ hne).trans ht
    · obtain rfl := Option.some.inj (hfulfils.existing.symm.trans hexisting')
      have hunsettled := hfulfils.unsettled
      simp [PaymentTransaction.settled, hpaid] at hunsettled

/-- A delivery that writes a subscription or a receipt of a transaction leaves the transaction
`PAID`. -/
def PaysWhatItCreates (s : Store) (d : Delivery) : Prop :=
  ∀ id, (deliver d s).subscriptions.find? id ≠ s.subscriptions.find? id ∨
      (deliver d s).receipts.find? id ≠ s.receipts.find? id →
    ∃ t, (deliver d s).transaction? id = some t ∧ t.status = .paid

theorem paysWhatItCreates (s : Store) (d : Delivery) : PaysWhatItCreates s d := by
  intro id hchange
  rcases deliver_cases s d with hsame | ⟨t, -, -, hwrites⟩ | ⟨t, plan, organization, hfulfils⟩
  · simp [hsame] at hchange
  · rcases hwrites with ⟨mismatch, -, hdeliver⟩ | ⟨-, -, hdeliver⟩ <;>
      simp [hdeliver, Store.updateTransaction] at hchange
  · rw [hfulfils.deliver_eq] at hchange ⊢
    have hid : id = t.id := by
      by_contra hne
      rcases hchange with hchange | hchange
      · exact hchange ((Table.find?_upsert _ _ _ _).trans (if_neg hne))
      · exact hchange ((Table.find?_upsert _ _ _ _).trans (if_neg hne))
    subst hid
    exact ⟨_, Table.find?_modify_self _ (transaction?_of_existing hfulfils.existing), rfl⟩

/-! ### Entitlements -/

/-- What an organization has paid for. -/
structure Entitlements where
  subscriptionPlan : SubscriptionPlan
  billingStatus : BillingStatus
  subscriptionStartAt : Option Millis
  subscriptionEndAt : Option Millis
  allowedUsers : Option ℕ
  allowedProviders : Option ℕ
  allowedReportsPerMonth : Option ℕ
  allowedStorageMb : Option ℕ
  enabledModules : Option Json

/-- What an organization has paid for, off its row. -/
def Organization.entitlements (o : Organization) : Entitlements where
  subscriptionPlan := o.subscriptionPlan
  billingStatus := o.billingStatus
  subscriptionStartAt := o.subscriptionStartAt
  subscriptionEndAt := o.subscriptionEndAt
  allowedUsers := o.allowedUsers
  allowedProviders := o.allowedProviders
  allowedReportsPerMonth := o.allowedReportsPerMonth
  allowedStorageMb := o.allowedStorageMb
  enabledModules := o.enabledModules

/-- The entitlements of an organization change only on a delivery of one of its transactions that
is paid and agrees with it in amount, currency and reference. -/
def EntitlementsPaidFor (s : Store) (d : Delivery) : Prop :=
  ∀ id, ((deliver d s).organization? id).map Organization.entitlements ≠
      (s.organization? id).map Organization.entitlements →
    ∃ t, existingTransaction s d.notice.trusted = some t ∧ t.organizationId = id ∧
      d.notice.trusted.status = .paid ∧
      d.notice.trusted.amountMinor = some (t.amountMinor : ℚ) ∧
        d.notice.trusted.currency = t.currency ∧
      (d.notice.trusted.internalReference = t.internalReference ∨
        some d.notice.trusted.providerReference = t.providerReference)

theorem entitlementsPaidFor (s : Store) (d : Delivery) : EntitlementsPaidFor s d := by
  intro id hchange
  rcases deliver_cases s d with hsame | ⟨t, -, -, hwrites⟩ | ⟨t, plan, organization, hfulfils⟩
  · simp [hsame] at hchange
  · rcases hwrites with ⟨mismatch, -, hdeliver⟩ | ⟨-, -, hdeliver⟩ <;>
      simp [hdeliver, Store.updateTransaction, Store.organization?] at hchange
  · rw [hfulfils.deliver_eq] at hchange
    refine ⟨t, hfulfils.existing, ?_, hfulfils.paid, paymentMismatch_eq_none_iff.mp hfulfils.agrees⟩
    by_contra hne
    have hother : (fulfilledStore d.now s t d.notice plan organization).organization? id =
        s.organization? id :=
      Table.find?_modify_of_ne _ (Ne.symm hne)
    exact hchange (congrArg _ hother)

/-! ### Receipts -/

/-- What a transaction is for. -/
structure Terms where
  planCode : SubscriptionPlan
  amountMinor : ℤ
  currency : String

/-- What a transaction is for, off its row. -/
def PaymentTransaction.terms (t : PaymentTransaction) : Terms :=
  ⟨t.planCode, t.amountMinor, t.currency⟩

/-- What a receipt is for. -/
def PaymentReceipt.terms (r : PaymentReceipt) : Terms := ⟨r.planCode, r.amountMinor, r.currency⟩

/-- What a plan costs. -/
def CommercialPlan.terms (plan : CommercialPlan) : Terms :=
  ⟨plan.code, plan.amountMinor, plan.currency⟩

/-- Every receipt says what its transaction says. -/
def ReceiptsAgree (s : Store) : Prop :=
  ∀ id receipt, s.receipts.find? id = some receipt →
    ∃ t, s.transaction? id = some t ∧ receipt.terms = t.terms

/-- Every transaction costs what its plan costs. -/
def TransactionsPriced (s : Store) : Prop :=
  ∀ id t, s.transaction? id = some t → ∃ plan, resolvePaymentPlan t.planCode.text = some plan ∧
    t.terms = plan.terms

/-- What holds of the store in every run of the service. -/
structure Priced (s : Store) : Prop where
  transactions : TransactionsPriced s
  receipts : ReceiptsAgree s

/-- The terms of the transactions that are there stay, and new ones are priced. -/
def KeepsTerms (s s' : Store) : Prop :=
  (∀ id t, s.transaction? id = some t → ∃ t', s'.transaction? id = some t' ∧ t'.terms = t.terms) ∧
    ∀ id t', s'.transaction? id = some t' → (∃ t, s.transaction? id = some t ∧ t'.terms = t.terms) ∨
      ∃ plan, resolvePaymentPlan t'.planCode.text = some plan ∧ t'.terms = plan.terms

theorem KeepsTerms.refl (s : Store) : KeepsTerms s s :=
  ⟨fun _ t ht => ⟨t, ht, rfl⟩, fun _ t ht => .inl ⟨t, ht, rfl⟩⟩

/-- A patch that leaves the terms alone keeps them. -/
theorem keepsTerms_modify {s s' : Store} {id : String} {data : Patch PaymentTransaction.id}
    (hdata : ∀ t, (data.apply t).terms = t.terms)
    (hs' : s'.transactions = s.transactions.modify id data) :
    KeepsTerms s s' := by
  have hfind : ∀ id', s'.transaction? id' =
      if id' = id then (s.transaction? id').map data.apply else s.transaction? id' := fun id' => by
    rw [Store.transaction?, hs']
    exact Table.find?_modify _ _ _ _
  refine ⟨fun id' t ht => ?_, fun id' t' ht' => .inl ?_⟩
  · rw [hfind, ht]
    split
    · exact ⟨_, rfl, hdata t⟩
    · exact ⟨t, rfl, rfl⟩
  · rw [hfind] at ht'
    split at ht'
    · obtain ⟨t, ht, rfl⟩ := Option.map_eq_some_iff.mp ht'
      exact ⟨t, ht, hdata t⟩
    · exact ⟨t', ht', rfl⟩

theorem TransactionsPriced.of_keepsTerms {s s' : Store} (h : TransactionsPriced s)
    (hkeeps : KeepsTerms s s') :
    TransactionsPriced s' := by
  intro id t' ht'
  rcases hkeeps.2 id t' ht' with ⟨t, ht, hterms⟩ | hpriced
  · obtain ⟨plan, hplan, hprice⟩ := h id t ht
    have hcode : t'.planCode = t.planCode := congrArg Terms.planCode hterms
    exact ⟨plan, by rw [hcode, hplan], hterms.trans hprice⟩
  · exact hpriced

/-- A receipt that was there goes on agreeing with its transaction. -/
theorem KeepsTerms.receipt {s s' : Store} (hkeeps : KeepsTerms s s') (h : ReceiptsAgree s)
    {id : String} {receipt : PaymentReceipt} (hreceipt : s.receipts.find? id = some receipt) :
    ∃ t, s'.transaction? id = some t ∧ receipt.terms = t.terms := by
  obtain ⟨t, ht, hagree⟩ := h id receipt hreceipt
  obtain ⟨t', ht', hterms⟩ := hkeeps.1 id t ht
  exact ⟨t', ht', hagree.trans hterms.symm⟩

theorem Priced.of_keepsTerms {s s' : Store} (h : Priced s) (hkeeps : KeepsTerms s s')
    (hreceipts : s'.receipts = s.receipts) : Priced s' where
  transactions := h.transactions.of_keepsTerms hkeeps
  receipts := fun _ _ hreceipt => hkeeps.receipt h.receipts (hreceipts ▸ hreceipt)

theorem resolveActivePlan_eq_ok {code : String} {plan : CommercialPlan}
    (h : resolveActivePlan code = .ok plan) :
    resolvePaymentPlan code = some plan ∧ plan.active = true := by
  have := orThrow_eq_ok.mp h
  exact Option.filter_eq_some_iff.mp this

theorem keepsTerms_beginOrganizationPayment {request : PaymentRequest} {s' : Store}
    (h : beginOrganizationPayment now s request = .ok s') : KeepsTerms s s' ∧
      s'.receipts = s.receipts := by
  unfold beginOrganizationPayment at h
  obtain ⟨-, h⟩ := check_bind_eq_ok.mp h
  obtain ⟨plan, hplan, h⟩ := bind_eq_ok.mp h
  obtain ⟨-, h⟩ := check_bind_eq_ok.mp h
  obtain ⟨-, h⟩ := check_bind_eq_ok.mp h
  obtain ⟨-, -, h⟩ := orThrow_bind_eq_ok.mp h
  obtain ⟨-, h⟩ := throwIf_bind_eq_ok.mp h
  split at h
  · obtain rfl := Except.ok.inj h
    exact ⟨KeepsTerms.refl s, rfl⟩
  · obtain ⟨-, -, h⟩ := bind_eq_ok.mp h
    obtain ⟨hfree, h⟩ := throwIf_bind_eq_ok.mp h
    obtain rfl := Except.ok.inj h
    have hnone : s.transactions.find? (initializedTransaction now request plan).id = none := by
      rw [Table.find?_eq_none_iff]
      intro hmem
      obtain ⟨row, hrow, hid⟩ := List.mem_map.mp hmem
      exact hfree (List.any_eq_true.mpr ⟨row, hrow, by simp [hid]⟩)
    refine ⟨⟨fun id t ht => ⟨t, Table.find?_insert_of_some ht, rfl⟩, fun id t' ht' => ?_⟩, rfl⟩
    rw [Store.transaction?, Table.find?_insert_of_free hnone] at ht'
    split at ht'
    · obtain rfl := Option.some.inj ht'
      exact .inr ⟨plan, resolvePaymentPlan_code (resolveActivePlan_eq_ok hplan).1, rfl⟩
    · exact .inl ⟨t', ht', rfl⟩

theorem keepsTerms_recordInitialization (now : Millis) (s : Store) (id : String)
    (answer : Option PaymentInitializationResult) :
    KeepsTerms s (recordInitialization now s id answer) ∧
      (recordInitialization now s id answer).receipts = s.receipts := by
  unfold recordInitialization
  cases answer with
  | none => exact ⟨keepsTerms_modify (fun _ => rfl) rfl, rfl⟩
  | some result =>
    dsimp only
    split <;> exact ⟨keepsTerms_modify (fun _ => rfl) rfl, rfl⟩

/-- A fulfilment writes a receipt for the plan its transaction was priced by. -/
theorem Priced.fulfil {plan : CommercialPlan} {organization : Organization} (h : Priced s)
    (hfulfils : Fulfils s d t plan organization) :
    Priced (fulfilledStore d.now s t d.notice plan organization) := by
  have hkeeps : KeepsTerms s (fulfilledStore d.now s t d.notice plan organization) :=
    keepsTerms_modify (fun _ => rfl) rfl
  have ht := transaction?_of_existing hfulfils.existing
  obtain ⟨plan', hplan', hprice⟩ := h.transactions t.id t ht
  obtain rfl : plan' = plan :=
    Option.some.inj (hplan'.symm.trans (resolveActivePlan_eq_ok hfulfils.plan_eq).1)
  refine ⟨h.transactions.of_keepsTerms hkeeps, fun transactionId receipt hreceipt => ?_⟩
  simp only [fulfilledStore, Table.find?_upsert] at hreceipt
  split at hreceipt
  · next hid =>
    cases hold : s.receipts.find? transactionId with
    | some old =>
      rw [hold] at hreceipt
      obtain rfl := Option.some.inj hreceipt
      exact hkeeps.receipt h.receipts hold
    | none =>
      rw [hold] at hreceipt
      obtain rfl := Option.some.inj hreceipt
      refine ⟨(paidData d.now d.notice).apply t, ?_, hprice.symm⟩
      rw [hid]
      exact Table.find?_modify_self _ ht
  · exact hkeeps.receipt h.receipts hreceipt

theorem Priced.deliver (h : Priced s) (d : Delivery) : Priced (deliver d s) := by
  rcases deliver_cases s d with hsame | ⟨t, -, -, hwrites⟩ | ⟨t, plan, organization, hfulfils⟩
  · rw [hsame]
    exact h
  · rcases hwrites with ⟨mismatch, -, hdeliver⟩ | ⟨-, -, hdeliver⟩ <;> rw [hdeliver] <;>
      exact h.of_keepsTerms (keepsTerms_modify (fun _ => rfl) rfl) rfl
  · rw [hfulfils.deliver_eq]
    exact h.fulfil hfulfils

theorem Priced.handle (h : Priced s) (event : Event) : Priced (handle event s) := by
  unfold PaymentsService.handle
  cases event with
  | beginPayment now request =>
    dsimp only
    cases hbegin : beginOrganizationPayment now s request with
    | error e => exact h
    | ok s' =>
      obtain ⟨hkeeps, hreceipts⟩ := keepsTerms_beginOrganizationPayment hbegin
      exact h.of_keepsTerms hkeeps hreceipts
  | recordInitialization now id answer =>
    obtain ⟨hkeeps, hreceipts⟩ := keepsTerms_recordInitialization now s id answer
    exact h.of_keepsTerms hkeeps hreceipts
  | deliver d => exact h.deliver d

theorem priced_unpaid (organizations : Table Organization.key)
    (upgradeRequests : List OrganizationUpgradeRequest) (users : List BillingUser) :
    Priced (.unpaid organizations upgradeRequests users) := by
  constructor <;> intro id _ h <;> cases h

/-! ### Every run -/

/-- What fulfilment promises of deliveries that start in a store. -/
structure FulfilledAtMostOnce (s : Store) (deliveries : List Delivery) : Prop where
  /-- At most one active subscription for each transaction. -/
  subscription : Throughout deliver (fun s => ∀ id,
    (s.subscriptions.rows.filter fun row => row.sourceTransactionId = id ∧
      row.status = .active).length ≤ 1) s deliveries
  /-- At most one receipt for each transaction. -/
  receipt : Throughout deliver (fun s => ∀ id,
    (s.receipts.rows.filter fun row => row.transactionId = id).length ≤ 1) s deliveries
  /-- A subscription or a receipt is written only for a transaction that is then `PAID`. -/
  paysWhatItCreates : Along deliver PaysWhatItCreates s deliveries
  /-- What is paid stays as it is. -/
  leavesPaid : Along deliver LeavesPaid s deliveries
  /-- Entitlements change only for a payment that agrees with the transaction. -/
  entitlementsPaidFor : Along deliver EntitlementsPaidFor s deliveries
  /-- A receipt has the amount, the currency and the plan of its transaction. -/
  receiptsAgree : Throughout deliver ReceiptsAgree s deliveries

theorem activeSubscriptions_le_one (s : Store) (id : String) :
    (s.subscriptions.rows.filter fun row => row.sourceTransactionId = id ∧
      row.status = .active).length ≤ 1 := by
  calc (s.subscriptions.rows.filter fun row => row.sourceTransactionId = id ∧
    row.status = .active).length
      ≤ (s.subscriptions.rows.filter fun row => row.sourceTransactionId = id).length := by
        rw [← List.countP_eq_length_filter, ← List.countP_eq_length_filter]
        exact List.countP_mono_left fun row _ => by simp +contextual
    _ ≤ 1 := s.subscriptions.countP_key_le_one id

/-- **At most one fulfilment.** Whatever the payment service has done before, and whatever is
delivered to it then, in any order and as often as one likes. -/
theorem fulfilment_at_most_once (organizations : Table Organization.key)
    (upgradeRequests : List OrganizationUpgradeRequest) (users : List BillingUser)
    (before : List Event) (deliveries : List Delivery) :
    FulfilledAtMostOnce
    (run handle (.unpaid organizations upgradeRequests users) before) deliveries := by
  have hpriced : Priced (run handle (.unpaid organizations upgradeRequests users) before) := by
    refine Along.run_inv (Q := fun _ _ => True) (fun _ event h _ => h.handle event)
      (priced_unpaid organizations upgradeRequests users) ?_
    exact along_iff.mpr fun _ _ _ _ => trivial
  refine ⟨?_, ?_, ?_, ?_, ?_, ?_⟩
  · exact throughout_iff.mpr fun _ _ _ => activeSubscriptions_le_one _
  · exact throughout_iff.mpr fun _ _ _ id => Table.countP_key_le_one _ id
  · exact along_iff.mpr fun _ d _ _ => paysWhatItCreates _ d
  · exact along_iff.mpr fun _ d _ _ => leavesPaid _ d
  · exact along_iff.mpr fun _ d _ _ => entitlementsPaidFor _ d
  · have hall : Throughout deliver Priced
        (run handle (.unpaid organizations upgradeRequests users) before) deliveries :=
      (throughout_iff_along (fun _ d h => iff_of_true (h.deliver d) trivial) hpriced deliveries).mpr
        (along_iff.mpr fun _ _ _ _ => trivial)
    exact throughout_iff.mpr fun pre post hsplit =>
      (throughout_iff.mp hall pre post hsplit).receipts

end FixZone.PaymentsService
