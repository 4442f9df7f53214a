import FixZone.Payments.Fulfilment

/-!
# Refunds

A payment and its refund are two events of the provider, delivered in any order and as
often as the provider likes. Until its payment is fulfilled a transaction just takes the
status of the last event that agrees with it (`Untouched.deliver`); a payment that is
fulfilled makes it `PAID`, and from then on no event changes it. So a refund is final
only where the payment is never fulfilled (`refund_final_iff`). The second half is about
`REVIEW_REQUIRED`: a payment that agrees is fulfilled from there as from any other status, at once
or after other events have changed the status again (`reviewFinal_iff`).
-/

namespace FixZone.PaymentsService

open Library ReportService

variable {s s₀ : Store} {d : Delivery} {t : PaymentTransaction} {notice : Notice}

/-- The payment of `t` can be fulfilled by the notice: it is paid and agrees with `t`, the plan is
active, the organization is there and the number of the receipt is free. -/
structure CanFulfil (s : Store) (t : PaymentTransaction) (notice : Notice) : Prop where
  paid : notice.trusted.status = .paid
  agrees : paymentMismatch t notice.trusted = none
  plan : ∃ plan, resolveActivePlan t.planCode.text = .ok plan
  organization : ∃ organization, s.organization? t.organizationId = some organization
  number_free : receiptNumberTaken s t = false

theorem CanFulfil.fulfils (h : CanFulfil s t d.notice)
    (hexisting : existingTransaction s d.notice.trusted = some t)
    (hunsettled : t.settled = false) : ∃ plan organization, Fulfils s d t plan organization := by
  obtain ⟨plan, hplan⟩ := h.plan
  obtain ⟨organization, horganization⟩ := h.organization
  exact ⟨plan, organization, hexisting, hunsettled, h.agrees, h.paid, hplan, horganization,
    h.number_free⟩

theorem Fulfils.canFulfil {plan : CommercialPlan} {organization : Organization}
    (h : Fulfils s d t plan organization) : CanFulfil s t d.notice :=
  ⟨h.paid, h.agrees, ⟨plan, h.plan_eq⟩, ⟨organization, h.organization_eq⟩, h.number_free⟩

/-- What a notice that is not fulfilled makes of a status. -/
def statusAfter (t : PaymentTransaction) (notice : Notice) (status : PaymentTransactionStatus) :
    PaymentTransactionStatus :=
  if paymentMismatch t notice.trusted ≠ none then .reviewRequired
  else if notice.trusted.status = .paid then status
  else failedStatus notice.trusted.status

/-! ### Deliveries of one transaction -/

theorem deliver_of_settled (hexisting : existingTransaction s d.notice.trusted = some t)
    (h : t.settled = true) :
    deliver d s = s := by
  simp only [deliver, processTrustedProviderTransaction, hexisting, orThrow_some, ok_bind,
    settleTransaction, h, if_true]

/-- What a delivery never changes of a transaction. -/
structure Deal where
  id : String
  organizationId : String
  internalReference : String
  providerReference : Option String
  planCode : SubscriptionPlan
  amountMinor : ℤ
  currency : String

/-- What a delivery never changes of a transaction, off its row. -/
def PaymentTransaction.deal (t : PaymentTransaction) : Deal :=
  ⟨t.id, t.organizationId, t.internalReference, t.providerReference, t.planCode,
    t.amountMinor, t.currency⟩

theorem existingTransaction_updateTransaction {id : String} {data : Patch PaymentTransaction.id}
    (hdata : ∀ row, (data.apply row).deal = row.deal) (trusted : NormalizedProviderTransaction) :
    existingTransaction (s.updateTransaction id data) trusted =
      (existingTransaction s trusted).map (Table.patchAt id data) := by
  have hpatch : ∀ row, (Table.patchAt id data row).deal = row.deal := fun row => by
    unfold Table.patchAt
    split
    · exact hdata row
    · rfl
  have hinternal : ∀ row, (Table.patchAt id data row).internalReference = row.internalReference :=
    fun row =>
    congrArg Deal.internalReference (hpatch row)
  have hprovider : ∀ row, (Table.patchAt id data row).providerReference = row.providerReference :=
    fun row =>
    congrArg Deal.providerReference (hpatch row)
  unfold existingTransaction Store.updateTransaction Table.modify
  rw [List.find?_map]
  simp only [Function.comp_def, hinternal, hprovider]

/-- A notice that cannot be fulfilled changes nothing but the row of its transaction. -/
theorem deliver_of_not_canFulfil (hexisting : existingTransaction s d.notice.trusted = some t)
    (hunsettled : t.settled = false) (h : ¬ CanFulfil s t d.notice) :
    (deliver d s = s ∧ statusAfter t d.notice t.status = t.status) ∨
      ∃ data : Patch PaymentTransaction.id, deliver d s = s.updateTransaction t.id data ∧
        (∀ row, (data.apply row).deal = row.deal) ∧
          (data.apply t).status = statusAfter t d.notice t.status := by
  unfold deliver processTrustedProviderTransaction
  rw [hexisting, orThrow_some, ok_bind]
  unfold settleTransaction statusAfter
  rw [hunsettled]
  cases hmismatch : paymentMismatch t d.notice.trusted with
  | some mismatch => exact .inr ⟨reviewData d.now d.notice mismatch, rfl, fun _ => rfl, rfl⟩
  | none =>
    by_cases hpaid : d.notice.trusted.status = .paid
    · left
      rcases deliver_cases s d with hsame | ⟨t', hexisting', -, hwrites⟩ | ⟨t', plan,
        organization, hfulfils⟩
      · rw [deliver, processTrustedProviderTransaction, hexisting, orThrow_some, ok_bind,
          settleTransaction, hunsettled, hmismatch] at hsame
        exact ⟨hsame, by simp [hpaid]⟩
      · obtain rfl := Option.some.inj (hexisting.symm.trans hexisting')
        rcases hwrites with ⟨mismatch, hmismatch', -⟩ | ⟨-, hunpaid, -⟩
        · rw [hmismatch] at hmismatch'
          cases hmismatch'
        · exact absurd hpaid hunpaid
      · obtain rfl := Option.some.inj (hexisting.symm.trans hfulfils.existing)
        exact absurd hfulfils.canFulfil h
    · right
      simp only [hpaid, if_false, ne_eq, not_true_eq_false, Bool.false_eq_true]
      exact ⟨unpaidData d.now d.notice, rfl, fun _ => rfl, rfl⟩

/-- From `s₀` to `s` nothing happened to `t` but that it is `t'` now, and nothing to the
organizations and the receipts. -/
structure Untouched (s₀ s : Store) (t t' : PaymentTransaction) : Prop where
  organizations : s.organizations = s₀.organizations
  receipts : s.receipts = s₀.receipts
  deal : t'.deal = t.deal
  existing : ∀ trusted, existingTransaction s₀ trusted = some t →
    existingTransaction s trusted = some t'

theorem Untouched.refl (s : Store) (t : PaymentTransaction) : Untouched s s t t :=
  ⟨rfl, rfl, rfl, fun _ h => h⟩

section

variable {t' : PaymentTransaction} (h : Untouched s₀ s t t')
include h

theorem Untouched.paymentMismatch_eq (trusted : NormalizedProviderTransaction) :
    paymentMismatch t' trusted = paymentMismatch t trusted := by
  have hdeal := h.deal
  simp only [PaymentTransaction.deal, Deal.mk.injEq] at hdeal
  obtain ⟨-, -, hinternal, hprovider, -, hamount, hcurrency⟩ := hdeal
  simp only [paymentMismatch, hinternal, hprovider, hamount, hcurrency]

theorem Untouched.canFulfil_iff : CanFulfil s t' notice ↔ CanFulfil s₀ t notice := by
  have hdeal := h.deal
  simp only [PaymentTransaction.deal, Deal.mk.injEq] at hdeal
  obtain ⟨hid, horganization, hinternal, -, hplan, -, -⟩ := hdeal
  have horganizations : s.organization? t'.organizationId = s₀.organization? t.organizationId := by
    rw [Store.organization?, Store.organization?, h.organizations, horganization]
  have hnumber : receiptNumberTaken s t' = receiptNumberTaken s₀ t := by
    rw [receiptNumberTaken, receiptNumberTaken, h.receipts, hid, hinternal]
  constructor
  · rintro ⟨h1, h2, h3, h4, h5⟩
    rw [h.paymentMismatch_eq] at h2
    exact ⟨h1, h2, hplan ▸ h3, horganizations ▸ h4, hnumber ▸ h5⟩
  · rintro ⟨h1, h2, h3, h4, h5⟩
    rw [← h.paymentMismatch_eq] at h2
    exact ⟨h1, h2, hplan ▸ h3, horganizations ▸ h4, hnumber ▸ h5⟩

theorem Untouched.statusAfter_eq (status : PaymentTransactionStatus) :
    statusAfter t' notice status = statusAfter t notice status := by
  simp only [statusAfter, h.paymentMismatch_eq]

/-- **The step.** A notice of `t` that cannot be fulfilled sets its status and does nothing else. -/
theorem Untouched.deliver (hexisting : existingTransaction s₀ d.notice.trusted = some t)
    (hunsettled : t'.settled = false) (hnot : ¬ CanFulfil s₀ t d.notice) :
    ∃ t'', Untouched s₀ (deliver d s) t t'' ∧ t''.status = statusAfter t d.notice t'.status := by
  have hexisting' := h.existing _ hexisting
  rcases deliver_of_not_canFulfil hexisting' hunsettled (mt h.canFulfil_iff.mp hnot) with
    ⟨hsame, hstatus⟩ | ⟨data, hdeliver, hdata, hstatus⟩
  · refine ⟨t', ?_, ?_⟩
    · rw [hsame]
      exact h
    · rw [← h.statusAfter_eq, hstatus]
  · refine ⟨data.apply t', ?_, hstatus.trans (h.statusAfter_eq _)⟩
    rw [hdeliver]
    refine ⟨h.organizations, h.receipts, (hdata t').trans h.deal, fun trusted htrusted => ?_⟩
    rw [existingTransaction_updateTransaction hdata, h.existing _ htrusted, Option.map_some,
      Table.patchAt, if_pos rfl]

end

/-! ### Runs of deliveries of one transaction -/

variable {ds : List Delivery} {t' : PaymentTransaction}

theorem settled_eq_false_iff : t.settled = false ↔ t.status ≠ .paid ∧ t.status ≠ .verified := by
  simp [PaymentTransaction.settled]

theorem statusAfter_unsettled {status : PaymentTransactionStatus}
    (h : status ≠ .paid ∧ status ≠ .verified) :
    statusAfter t notice status ≠ .paid ∧ statusAfter t notice status ≠ .verified := by
  unfold statusAfter failedStatus
  split_ifs <;> first | exact h | decide

theorem Untouched.transaction? (h : Untouched s₀ s t t')
    (hexisting : existingTransaction s₀ notice.trusted = some t) :
    s.transaction? t.id = some t' := by
  have hid : t'.id = t.id := congrArg Deal.id h.deal
  rw [← hid]
  exact transaction?_of_existing (h.existing _ hexisting)

/-- **The run.** As long as no payment is fulfilled each notice sets the status in its turn. -/
theorem Untouched.run
    (hall : ∀ d ∈ ds, existingTransaction s₀ d.notice.trusted = some t ∧ ¬ CanFulfil s₀ t d.notice)
    (h : Untouched s₀ s t t') (hunsettled : t'.settled = false) :
    ∃ t'', Untouched s₀ (Library.run PaymentsService.deliver s ds) t t'' ∧ t''.settled = false ∧
      t''.status = ds.foldl (fun status d => statusAfter t d.notice status) t'.status := by
  induction ds generalizing s t' with
  | nil => exact ⟨t', h, hunsettled, rfl⟩
  | cons d ds ih =>
    obtain ⟨hexisting, hnot⟩ := hall d List.mem_cons_self
    obtain ⟨t'', h', hstatus⟩ := h.deliver hexisting hunsettled hnot
    have hunsettled' : t''.settled = false := by
      rw [settled_eq_false_iff, hstatus]
      exact statusAfter_unsettled (settled_eq_false_iff.mp hunsettled)
    rw [run_cons, List.foldl_cons, ← hstatus]
    exact ih (fun a ha => hall a (List.mem_cons_of_mem d ha)) h' hunsettled'

/-- Deliveries of a settled transaction do nothing. -/
theorem run_of_settled (hall : ∀ d ∈ ds, existingTransaction s d.notice.trusted = some t)
    (h : t.settled = true) :
    run deliver s ds = s := by
  induction ds with
  | nil => rfl
  | cons d ds ih =>
    rw [run_cons, deliver_of_settled (hall d List.mem_cons_self) h]
    exact ih fun a ha => hall a (List.mem_cons_of_mem d ha)

/-- What is paid is paid after any deliveries. -/
theorem run_of_paid {id : String} (h : s.transaction? id = some t) (hpaid : t.status = .paid)
    (ds : List Delivery) :
    (run deliver s ds).transaction? id = some t :=
  Along.run_inv (I := fun s => s.transaction? id = some t) (Q := fun _ _ => True)
    (fun s d ht _ => (leavesPaid s d id t ht hpaid).1) h (along_iff.mpr fun _ _ _ _ => trivial)

/-- A payment that can be fulfilled is, at its first delivery if not before, and then the
transaction stays paid. -/
theorem Untouched.run_paid (hall : ∀ d ∈ ds, existingTransaction s₀ d.notice.trusted = some t)
    (hcan : ∃ d ∈ ds, CanFulfil s₀ t d.notice) (h : Untouched s₀ s t t')
    (hunsettled : t'.settled = false) :
    ∃ paid, (Library.run PaymentsService.deliver s ds).transaction? t.id = some paid ∧
      paid.status = .paid := by
  induction ds generalizing s t' with
  | nil =>
    obtain ⟨d, hd, -⟩ := hcan
    cases hd
  | cons d ds ih =>
    have hexisting := hall d List.mem_cons_self
    by_cases hhead : CanFulfil s₀ t d.notice
    · have hexisting' := h.existing _ hexisting
      obtain ⟨plan, organization, hfulfils⟩ :=
        (h.canFulfil_iff.mpr hhead).fulfils hexisting' hunsettled
      have hpaid : (PaymentsService.deliver d s).transaction? t.id =
          some ((paidData d.now d.notice).apply t') := by
        have hid : t'.id = t.id := congrArg Deal.id h.deal
        rw [hfulfils.deliver_eq, ← hid]
        exact Table.find?_modify_self _ (transaction?_of_existing hexisting')
      exact ⟨_, run_of_paid hpaid rfl ds, rfl⟩
    · obtain ⟨t'', h', hstatus⟩ := h.deliver hexisting hunsettled hhead
      have hunsettled' : t''.settled = false := by
        rw [settled_eq_false_iff, hstatus]
        exact statusAfter_unsettled (settled_eq_false_iff.mp hunsettled)
      obtain ⟨a, ha, hcan⟩ := hcan
      have hmem : a ∈ ds := by
        rcases List.mem_cons.mp ha with rfl | hmem
        · exact absurd hcan hhead
        · exact hmem
      exact ih (fun a ha => hall a (List.mem_cons_of_mem d ha)) ⟨a, hmem, hcan⟩ h' hunsettled'

/-! ### Refunds -/

/-- The status of a stored transaction. -/
def statusOf (s : Store) (id : String) : Option PaymentTransactionStatus :=
  (s.transaction? id).map (·.status)

/-- The transaction was under review before or after one of the deliveries. -/
def WasReviewed (s : Store) (deliveries : List Delivery) (id : String) : Prop :=
  ∃ before, before <+: deliveries ∧ statusOf (run deliver s before) id = some .reviewRequired

/-- No delivery pays a transaction that is or was under review. -/
def ReviewFinal (s : Store) (deliveries : List Delivery) : Prop :=
  ∀ pre, pre <+: deliveries → ∀ id, WasReviewed s pre id →
    statusOf (run deliver s pre) id ≠ some .paid

/-- The refund is final: in the end the transaction is `REFUNDED`, no delivery after the refund
touches the organization, and none pays a transaction that was under review. -/
structure RefundFinal (s : Store) (t : PaymentTransaction) (refund : Notice)
    (deliveries : List Delivery) : Prop where
  refunded : statusOf (run deliver s deliveries) t.id = some .refunded
  noActivation : ∀ pre d post, deliveries = pre ++ d :: post → (∃ r ∈ pre, r.notice = refund) →
    (run deliver s (pre ++ [d])).organization? t.organizationId =
      (run deliver s pre).organization? t.organizationId
  review : ReviewFinal s deliveries

/-- The payment cannot be fulfilled, and the refund is the last that sets the status. -/
structure RefundStands (s : Store) (t : PaymentTransaction) (charge refund : Notice)
    (deliveries : List Delivery) : Prop where
  unsettled : t.settled = false
  refund_agrees : paymentMismatch t refund.trusted = none
  charge_fails : ¬ CanFulfil s t charge
  last : (charge.trusted.status = .paid ∧ paymentMismatch t charge.trusted = none) ∨
    ∃ d, deliveries.getLast? = some d ∧ d.notice = refund

theorem statusOf_modify {s' : Store} {data : Patch PaymentTransaction.id}
    (ht : s.transaction? t.id = some t)
    (hs' : s'.transactions = s.transactions.modify t.id data) (id : String) :
    statusOf s' id = if id = t.id then some (data.apply t).status else statusOf s id := by
  unfold statusOf Store.transaction?
  rw [hs', Table.find?_modify]
  split
  · next hid =>
    rw [hid, show s.transactions.find? t.id = some t from ht]
    rfl
  · rfl

/-! ### Transactions under review -/

/-- The delivery is a payment of the transaction that can be fulfilled. -/
def PaysFor (s : Store) (d : Delivery) (id : String) : Prop :=
  ∃ t, existingTransaction s d.notice.trusted = some t ∧ t.id = id ∧ CanFulfil s t d.notice

/-- No payment that can be fulfilled arrives for a transaction that is or was under review. -/
def NoPaymentAfterReview (s : Store) (deliveries : List Delivery) : Prop :=
  ∀ pre d, pre ++ [d] <+: deliveries → ∀ id, WasReviewed s pre id →
    ¬ PaysFor (run deliver s pre) d id

/-- The transaction is there and neither paid nor verified. -/
def Unsettled (s : Store) (id : String) : Prop :=
  ∃ status, statusOf s id = some status ∧ status ≠ .paid ∧ status ≠ .verified

theorem unsettled_of_reviewRequired {id : String} (h : statusOf s id = some .reviewRequired) :
    Unsettled s id :=
  ⟨_, h, by decide, by decide⟩

theorem failedStatus_unsettled (status : PaymentTransactionStatus) :
    failedStatus status ≠ .paid ∧ failedStatus status ≠ .verified := by
  unfold failedStatus
  split_ifs <;> decide

/-- An unsettled transaction stays unsettled, unless it is paid for. -/
theorem Unsettled.deliver {id : String} (h : Unsettled s id) (hno : ¬ PaysFor s d id) :
    Unsettled (deliver d s) id := by
  have hkept {data : Patch PaymentTransaction.id} {t : PaymentTransaction}
      (hexisting : existingTransaction s d.notice.trusted = some t)
      (hdeliver : PaymentsService.deliver d s = s.updateTransaction t.id data)
      (hdata : (data.apply t).status ≠ .paid ∧ (data.apply t).status ≠ .verified) :
      Unsettled (PaymentsService.deliver d s) id := by
    unfold Unsettled
    rw [hdeliver, statusOf_modify (transaction?_of_existing hexisting) rfl]
    split
    · exact ⟨_, rfl, hdata⟩
    · exact h
  rcases deliver_cases s d with hsame | ⟨t, hexisting, -, hwrites⟩ | ⟨t, plan, organization,
    hfulfils⟩
  · rwa [hsame]
  · rcases hwrites with ⟨mismatch, -, hdeliver⟩ | ⟨-, -, hdeliver⟩
    · exact hkept hexisting hdeliver (by simp)
    · exact hkept hexisting hdeliver (failedStatus_unsettled _)
  · have hne : id ≠ t.id := fun hid => hno ⟨t, hfulfils.existing, hid.symm, hfulfils.canFulfil⟩
    unfold Unsettled
    rw [hfulfils.deliver_eq, statusOf_modify (transaction?_of_existing hfulfils.existing) rfl,
      if_neg hne]
    exact h

/-- An unsettled transaction that is paid for is paid. -/
theorem Unsettled.paid {id : String} (h : Unsettled s id) (hpays : PaysFor s d id) :
    statusOf (PaymentsService.deliver d s) id = some .paid := by
  obtain ⟨t, hexisting, rfl, hcan⟩ := hpays
  have ht := transaction?_of_existing hexisting
  obtain ⟨status, hstatus, hunsettled⟩ := h
  rw [statusOf, ht, Option.map_some, Option.some.injEq] at hstatus
  obtain ⟨plan, organization, hfulfils⟩ :=
    hcan.fulfils hexisting (settled_eq_false_iff.mpr (hstatus ▸ hunsettled))
  rw [hfulfils.deliver_eq, statusOf_modify ht rfl, if_pos rfl]
  rfl

theorem WasReviewed.mono {pre ds : List Delivery} {id : String} (h : WasReviewed s pre id)
    (hpre : pre <+: ds) : WasReviewed s ds id := by
  obtain ⟨before, hbefore, hstatus⟩ := h
  exact ⟨before, hbefore.trans hpre, hstatus⟩

/-- What was under review is unsettled, as long as nothing pays for it while it is so. -/
theorem unsettled_of_wasReviewed {id : String}
    (hno : ∀ pre d, pre ++ [d] <+: ds → WasReviewed s pre id → Unsettled (run deliver s pre) id →
      ¬ PaysFor (run deliver s pre) d id) {pre : List Delivery} (hpre : pre <+: ds)
    (h : WasReviewed s pre id) : Unsettled (run deliver s pre) id := by
  induction pre using List.reverseRecOn with
  | nil =>
    obtain ⟨before, hbefore, hstatus⟩ := h
    rw [List.prefix_nil.mp hbefore] at hstatus
    exact unsettled_of_reviewRequired hstatus
  | append_singleton pre d ih =>
    obtain ⟨before, hbefore, hstatus⟩ := h
    rcases List.prefix_concat_iff.mp hbefore with rfl | hbefore
    · exact unsettled_of_reviewRequired hstatus
    · have hreviewed : WasReviewed s pre id := ⟨before, hbefore, hstatus⟩
      have hunsettled := ih ((List.prefix_append pre [d]).trans hpre) hreviewed
      rw [run_append]
      exact hunsettled.deliver (hno pre d hpre hreviewed hunsettled)

/-- What is or was under review stays unpaid exactly when no payment that can be fulfilled arrives
for it any more. -/
theorem reviewFinal_iff (s : Store) (ds : List Delivery) :
    ReviewFinal s ds ↔ NoPaymentAfterReview s ds := by
  constructor
  · intro h
    have hunpaid : ∀ pre d, pre ++ [d] <+: ds → ∀ id, WasReviewed s pre id →
        Unsettled (run deliver s pre) id → ¬ PaysFor (run deliver s pre) d id := by
      intro pre d hpre id hreviewed hunsettled hpays
      refine h (pre ++ [d]) hpre id (hreviewed.mono (List.prefix_append pre [d])) ?_
      rw [run_append]
      exact hunsettled.paid hpays
    intro pre d hpre id hreviewed
    refine hunpaid pre d hpre id hreviewed ?_
    exact unsettled_of_wasReviewed (fun pre d hpre => hunpaid pre d hpre id)
      ((List.prefix_append pre [d]).trans hpre) hreviewed
  · intro h pre hpre id hreviewed hpaid
    obtain ⟨status, hstatus, hne, -⟩ :=
      unsettled_of_wasReviewed (fun pre d hpre hreviewed _ => h pre d hpre id hreviewed) hpre
        hreviewed
    exact hne (Option.some.inj (hstatus.symm.trans hpaid))

/-- The deliveries are those of a charge and of a refund of `t`, each of them at least once. -/
structure ChargeAndRefund (s : Store) (t : PaymentTransaction) (charge refund : Notice)
    (deliveries : List Delivery) : Prop where
  charge_existing : existingTransaction s charge.trusted = some t
  refund_existing : existingTransaction s refund.trusted = some t
  charge_status : charge.trusted.status ≠ .refunded
  refund_status : refund.trusted.status = .refunded
  notices : ∀ d ∈ deliveries, d.notice = charge ∨ d.notice = refund
  charged : ∃ d ∈ deliveries, d.notice = charge
  refunded : ∃ d ∈ deliveries, d.notice = refund

/-- A charge and a refund that arrive as webhooks are such deliveries. -/
theorem chargeAndRefund_of_webhooks {settings : PaystackSettings}
    {chargePayload refundPayload : Json} {chargeEvent refundEvent : NormalizedWebhookEvent}
    {charge refund : NormalizedProviderTransaction}
    (hcharge : parseWebhookEvent settings chargePayload = .ok chargeEvent)
    (hrefund : parseWebhookEvent settings refundPayload = .ok refundEvent)
    (hchargeData : chargeEvent.transaction = some charge)
    (hrefundData : refundEvent.transaction = some refund)
    (hchargeName : chargeEvent.event = "charge.success")
    (hrefundName : refundEvent.event = "refund.processed")
    (hchargeOf : existingTransaction s charge = some t)
    (hrefundOf : existingTransaction s refund = some t)
    (hnotices : ∀ d ∈ ds, d.notice = ⟨charge, some chargeEvent⟩ ∨
      d.notice = ⟨refund, some refundEvent⟩)
    (hcharged : ∃ d ∈ ds, d.notice = ⟨charge, some chargeEvent⟩)
    (hrefunded : ∃ d ∈ ds, d.notice = ⟨refund, some refundEvent⟩) :
    ChargeAndRefund s t ⟨charge, some chargeEvent⟩ ⟨refund, some refundEvent⟩ ds where
  charge_existing := hchargeOf
  refund_existing := hrefundOf
  charge_status := by
    refine not_refund_of_webhook hcharge hchargeData ?_
    rw [hchargeName]
    decide
  refund_status := refund_of_webhook hrefund hrefundData hrefundName
  notices := hnotices
  charged := hcharged
  refunded := hrefunded

/-- What one of the elements brings about, whatever was before it, and the others keep, holds in
the end. -/
theorem foldl_of_mem {α β : Type} {f : α → β → α} {P : α → Prop} {x : β} {xs : List β} (hx : x ∈ xs)
    (hset : ∀ a, P (f a x)) (hkeep : ∀ y ∈ xs, ∀ a, P a → P (f a y)) (a : α) :
    P (xs.foldl f a) := by
  obtain ⟨pre, post, rfl⟩ := List.append_of_mem hx
  rw [List.foldl_append, List.foldl_cons]
  exact List.foldlRecOn post f (hset _) fun b hb y hy =>
    hkeep y (List.mem_append_right _ (List.mem_cons_of_mem x hy)) b hb

section

variable {charge refund : Notice} (h : ChargeAndRefund s t charge refund ds)
include h

theorem ChargeAndRefund.existing {d : Delivery} (hd : d ∈ ds) :
    existingTransaction s d.notice.trusted = some t := by
  rcases h.notices d hd with hnotice | hnotice <;> rw [hnotice]
  · exact h.charge_existing
  · exact h.refund_existing

theorem ChargeAndRefund.not_canFulfil (hnot : ¬ CanFulfil s t charge) {d : Delivery} (hd : d ∈ ds) :
    ¬ CanFulfil s t d.notice := by
  rcases h.notices d hd with hnotice | hnotice <;> rw [hnotice]
  · exact hnot
  · intro hcan
    have := hcan.paid
    rw [h.refund_status] at this
    cases this

/-- Where the payment is not fulfilled the statuses follow the notices. -/
theorem ChargeAndRefund.run (hunsettled : t.settled = false) (hnot : ¬ CanFulfil s t charge)
    {pre post : List Delivery} (hsplit : ds = pre ++ post) :
    ∃ t', Untouched s (Library.run deliver s pre) t t' ∧ t'.settled = false ∧
      t'.status = pre.foldl (fun status d => statusAfter t d.notice status) t.status := by
  refine (Untouched.refl s t).run (fun d hd => ?_) hunsettled
  have hmem : d ∈ ds := by
    rw [hsplit]
    exact List.mem_append_left post hd
  exact ⟨h.existing hmem, h.not_canFulfil hnot hmem⟩

theorem ChargeAndRefund.statusOf_run (hunsettled : t.settled = false)
    (hnot : ¬ CanFulfil s t charge) :
    statusOf (Library.run deliver s ds) t.id =
      some (ds.foldl (fun status d => statusAfter t d.notice status) t.status) := by
  obtain ⟨t', huntouched, -, hstatus⟩ := h.run hunsettled hnot (List.append_nil ds).symm
  rw [statusOf, huntouched.transaction? h.charge_existing, Option.map_some, hstatus]

omit h in
theorem statusAfter_of_refund (hrefund : refund.trusted.status = .refunded)
    (status : PaymentTransactionStatus) :
    statusAfter t refund status = if paymentMismatch t refund.trusted ≠ none then
      .reviewRequired else .refunded := by
  unfold statusAfter
  rw [hrefund]
  rfl

/-- A charge that does not throw sets a status, which is not `REFUNDED`. -/
theorem ChargeAndRefund.statusAfter_charge
    (hsets : ¬ (charge.trusted.status = .paid ∧ paymentMismatch t charge.trusted = none))
    (status : PaymentTransactionStatus) : statusAfter t charge status ≠ .refunded := by
  have hcharge := h.charge_status
  unfold statusAfter failedStatus
  split_ifs with hmismatch hpaid
  · decide
  · exact absurd ⟨hpaid, not_not.mp hmismatch⟩ hsets
  all_goals simp

/-- If the refund is final it was never in the way of a payment. -/
theorem ChargeAndRefund.stands
    (hfinal : statusOf (Library.run deliver s ds) t.id = some .refunded) :
    RefundStands s t charge refund ds := by
  have hunsettled : t.settled = false := by
    by_contra hsettled
    rw [Bool.not_eq_false] at hsettled
    rw [run_of_settled (fun d hd => h.existing hd) hsettled, statusOf,
      transaction?_of_existing h.charge_existing, Option.map_some, Option.some.injEq] at hfinal
    simp [PaymentTransaction.settled, hfinal] at hsettled
  have hnot : ¬ CanFulfil s t charge := by
    intro hcan
    obtain ⟨d, hd, hnotice⟩ := h.charged
    obtain ⟨paid, hpaid, hstatus⟩ := (Untouched.refl s t).run_paid (fun d hd => h.existing hd)
      ⟨d, hd, hnotice ▸ hcan⟩ hunsettled
    rw [statusOf, hpaid, Option.map_some, hstatus] at hfinal
    cases hfinal
  rw [h.statusOf_run hunsettled hnot, Option.some.injEq] at hfinal
  refine ⟨hunsettled, ?_, hnot, ?_⟩
  · by_contra hmismatch
    obtain ⟨r, hr, hnotice⟩ := h.refunded
    refine foldl_of_mem (P := fun status => status ≠ .refunded) hr (fun status => ?_)
      (fun d hd status hstatus => ?_) t.status hfinal
    · rw [hnotice, statusAfter_of_refund h.refund_status, if_pos hmismatch]
      decide
    · rcases h.notices d hd with hd | hd <;> rw [hd]
      · by_cases hsets : charge.trusted.status = .paid ∧ paymentMismatch t charge.trusted = none
        · simpa [statusAfter, hsets] using hstatus
        · exact h.statusAfter_charge hsets status
      · rw [statusAfter_of_refund h.refund_status, if_pos hmismatch]
        decide
  · by_contra hlast
    rw [not_or] at hlast
    obtain ⟨d, hd, -⟩ := h.charged
    have hne : ds ≠ [] := List.ne_nil_of_mem hd
    have hsplit := List.dropLast_append_getLast hne
    rw [← hsplit, List.foldl_append, List.foldl_cons, List.foldl_nil] at hfinal
    rcases h.notices _ (List.getLast_mem hne) with hnotice | hnotice
    · rw [hnotice] at hfinal
      exact h.statusAfter_charge hlast.1 _ hfinal
    · exact hlast.2 ⟨_, List.getLast?_eq_some_getLast hne, hnotice⟩

/-- If the payment cannot be fulfilled the last refund is final. -/
theorem ChargeAndRefund.final (hstands : RefundStands s t charge refund ds) :
    RefundFinal s t refund ds := by
  have hrefund : ∀ status, statusAfter t refund status = .refunded := fun status => by
    rw [statusAfter_of_refund h.refund_status, if_neg (not_not.mpr hstands.refund_agrees)]
  refine ⟨?_, fun pre d post hsplit _ => ?_, ?_⟩
  · rw [h.statusOf_run hstands.unsettled hstands.charge_fails, Option.some.injEq]
    rcases hstands.last with ⟨hpaid, hagrees⟩ | ⟨last, hlast, hnotice⟩
    · obtain ⟨r, hr, hnotice⟩ := h.refunded
      refine foldl_of_mem (P := fun status => status = .refunded) hr (fun status => ?_)
        (fun d hd status hstatus => ?_) t.status
      · rw [hnotice, hrefund]
      · rcases h.notices d hd with hd | hd <;> rw [hd]
        · simpa [statusAfter, hpaid, hagrees] using hstatus
        · exact hrefund status
    · obtain ⟨front, rfl⟩ := List.getLast?_eq_some_iff.mp hlast
      rw [List.foldl_append, List.foldl_cons, List.foldl_nil, hnotice, hrefund]
  · have hsplit' : ds = (pre ++ [d]) ++ post := by
      rw [hsplit, List.append_assoc, List.singleton_append]
    obtain ⟨before, hbefore, -⟩ := h.run hstands.unsettled hstands.charge_fails hsplit
    obtain ⟨after, hafter, -⟩ := h.run hstands.unsettled hstands.charge_fails hsplit'
    rw [Store.organization?, Store.organization?, hafter.organizations, hbefore.organizations]
  · refine (reviewFinal_iff s ds).mpr fun pre d hpre id _ => ?_
    rintro ⟨t', hexisting, -, hcan⟩
    obtain ⟨post, hsplit⟩ := hpre
    have hd : d ∈ ds := by simp [← hsplit]
    obtain ⟨t'', huntouched, -⟩ := h.run hstands.unsettled hstands.charge_fails
      (hsplit.symm.trans (List.append_assoc pre [d] post))
    obtain rfl := Option.some.inj (hexisting.symm.trans (huntouched.existing _ (h.existing hd)))
    exact h.not_canFulfil hstands.charge_fails hd (huntouched.canFulfil_iff.mp hcan)

end

/-- **Refunds.** A refund is final in an order of delivery of a charge and its refund exactly when
the charge cannot be fulfilled and the refund sets the status last; and in any run of deliveries what
is or was under review stays unpaid exactly when no payment that can be fulfilled arrives for it any
more. -/
theorem refund_final_iff {charge refund : Notice} (h : ChargeAndRefund s t charge refund ds) :
    (RefundFinal s t refund ds ↔ RefundStands s t charge refund ds) ∧
      ∀ (s : Store) (deliveries : List Delivery),
        ReviewFinal s deliveries ↔ NoPaymentAfterReview s deliveries :=
  ⟨⟨fun hfinal => h.stands hfinal.refunded, h.final⟩, reviewFinal_iff⟩

namespace Example

/-- A transaction for the starter plan. -/
def starter : PaymentTransaction where
  id := "transaction"
  organizationId := "organization"
  internalReference := "fz_organiza_0001"
  planCode := .starter
  amountMinor := 500000
  currency := "NGN"
  status := .pending

/-- The store with that transaction. -/
def pendingStore : Store where
  organizations := ⟨[{ id := "organization" }], by simp⟩
  transactions := ⟨[starter], by simp⟩
  subscriptions := Table.empty _
  receipts := Table.empty _
  upgradeRequests := []
  users := []
  notifications := []

/-- What the provider says about it. -/
def reported (status : PaymentTransactionStatus) (amountMinor : ℚ) : Notice where
  trusted :=
    { providerReference := "fz_organiza_0001", internalReference := "fz_organiza_0001", status
      amountMinor := some amountMinor, currency := "NGN" }

theorem chargeAndRefund (amountMinor : ℚ) :
    ChargeAndRefund pendingStore starter (reported .paid amountMinor) (reported .refunded 500000)
      [⟨1, reported .paid amountMinor⟩, ⟨2, reported .refunded 500000⟩] where
  charge_existing := rfl
  refund_existing := rfl
  charge_status := by simp [reported]
  refund_status := rfl
  notices := by simp
  charged := ⟨_, List.mem_cons_self, rfl⟩
  refunded := ⟨_, List.mem_cons_of_mem _ List.mem_cons_self, rfl⟩

end Example

open Example in
/-- A refund after a charge of another amount is final. -/
theorem refund_of_other_amount_final :
    RefundFinal pendingStore starter (reported .refunded 500000)
    [⟨1, reported .paid 1⟩, ⟨2, reported .refunded 500000⟩] := by
  refine (refund_final_iff (chargeAndRefund 1)).1.mpr
    ⟨by decide, ?_, fun hcan => ?_, .inr ⟨_, rfl, rfl⟩⟩
  · simp [paymentMismatch, reported, starter]
  · have hagrees := hcan.agrees
    simp [paymentMismatch, reported, starter] at hagrees

open Example in
/-- A refund that arrives after the payment was fulfilled is not recorded, and a transaction that was
under review is paid, also where it has failed since. -/
theorem refund_after_payment_lost :
    ¬ (∀ (s : Store) (t : PaymentTransaction) (charge refund : Notice)
      (deliveries : List Delivery),
        ChargeAndRefund s t charge refund deliveries → RefundFinal s t refund deliveries) ∧
      ¬ ∀ (s : Store) (deliveries : List Delivery), ReviewFinal s deliveries := by
  constructor
  · intro h
    have hfinal := (h _ _ _ _ _ (chargeAndRefund 500000)).refunded
    have hpaid : statusOf (run deliver pendingStore
        [⟨1, reported .paid 500000⟩, ⟨2, reported .refunded 500000⟩]) "transaction" =
          some .paid := by
      decide +kernel
    rw [show starter.id = "transaction" from rfl, hpaid] at hfinal
    cases hfinal
  · intro h
    have hreviewed : statusOf (run deliver pendingStore [⟨1, reported .paid 1⟩]) "transaction" =
        some .reviewRequired := by
      decide +kernel
    have hpaid : statusOf (run deliver pendingStore [⟨1, reported .paid 1⟩,
        ⟨2, reported .failed 500000⟩, ⟨3, reported .paid 500000⟩]) "transaction" = some .paid := by
      decide +kernel
    exact h pendingStore _ _ (List.prefix_refl _) "transaction"
      ⟨[⟨1, reported .paid 1⟩], List.prefix_append _ _, hreviewed⟩ hpaid

end FixZone.PaymentsService
