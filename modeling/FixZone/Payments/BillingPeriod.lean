import FixZone.Library.Calendar
import FixZone.Payments.Fulfilment

/-!
# Paying and the end of the paid period

`fulfillPayment` ends the subscription of an organization one billing period after the
payment (`addBillingPeriod`), whatever was left of the period before. So a renewal keeps what
was paid for only where nothing was left, or where the month of the payment is longer than
the month of the old end by at least what was left (`paid_time_kept_iff`). A billing period
itself is the days from the first of the month to the first of the month it leads to: from the
end of a long month it runs over into the month after that, and past the end of a period that
starts a little later.
-/

namespace FixZone.PaymentsService

open Library ReportService

/-! ### Billing periods -/

/-- The months of a billing interval. -/
def BillingInterval.months : BillingInterval → ℤ
  | .month => 1
  | .year => 12

theorem addBillingPeriod_def (start : Millis) (interval : BillingInterval) :
    addBillingPeriod start interval = addUtcMonths interval.months start := by
  cases interval <;> rfl

/-- A monthly period is as long as the month it starts in. -/
theorem addBillingPeriod_month (start : ℤ) :
    addBillingPeriod start .month = start + daysInMonth (utcMonth start) * dayMillis := by
  rw [addBillingPeriod_def, addUtcMonths_eq, BillingInterval.months, daysOfMonths_one]

/-- Every plan that can be paid for is a monthly one. -/
theorem billingInterval_of_active {code : String} {plan : CommercialPlan}
    (h : resolveActivePlan code = .ok plan) : plan.billingInterval = .month := by
  have hall : ∀ p ∈ paymentPlanCatalog, p.billingInterval = .month := by decide
  exact hall plan (mem_of_resolvePaymentPlan (resolveActivePlan_eq_ok h).1)

/-! ### Fulfilments -/

/-- A call of `fulfillPayment`. -/
structure Fulfilment where
  now : Millis
  transaction : PaymentTransaction
  notice : Notice

/-- The store after a fulfilment; one that throws is rolled back. -/
def fulfil (f : Fulfilment) (s : Store) : Store :=
  match fulfillPayment f.now s f.transaction f.notice with
  | .ok (s', _) => s'
  | .error _ => s

/-- When the subscription of an organization ends. -/
def Store.subscriptionEnd? (s : Store) (organizationId : String) : Option Millis :=
  (s.organization? organizationId).bind (·.subscriptionEndAt)

variable {s : Store} {f : Fulfilment} {plan : CommercialPlan} {organization : Organization}

/-- A fulfilment goes through: for `plan` and `organization`. -/
structure GoesThrough (s : Store) (f : Fulfilment) (plan : CommercialPlan)
    (organization : Organization) : Prop where
  plan_eq : resolveActivePlan f.transaction.planCode.text = .ok plan
  organization_eq : s.organization? f.transaction.organizationId = some organization
  number_free : receiptNumberTaken s f.transaction = false

theorem GoesThrough.fulfil_eq (h : GoesThrough s f plan organization) :
    fulfil f s = fulfilledStore f.now s f.transaction f.notice plan organization := by
  have hok : fulfillPayment f.now s f.transaction f.notice =
      .ok (fulfilledStore f.now s f.transaction f.notice plan organization,
        (paidData f.now f.notice).apply f.transaction) :=
    fulfillPayment_eq_ok_iff.mpr
      ⟨plan, organization, h.plan_eq, h.organization_eq, h.number_free, rfl⟩
  unfold fulfil
  rw [hok]

/-- **What a fulfilment does**: nothing where it throws, and otherwise the writes for a plan and an
organization. -/
theorem fulfil_cases (s : Store) (f : Fulfilment) :
    fulfil f s = s ∨ ∃ plan organization, GoesThrough s f plan organization := by
  unfold fulfil
  cases hfulfil : fulfillPayment f.now s f.transaction f.notice with
  | error e => exact .inl rfl
  | ok result =>
    obtain ⟨plan, organization, hplan, horganization, hnumber, -⟩ :=
      fulfillPayment_eq_ok_iff.mp hfulfil
    exact .inr ⟨plan, organization, hplan, horganization, hnumber⟩

/-- The subscription that was paid for ends a period after the payment. -/
theorem GoesThrough.subscriptionEnd?_self (h : GoesThrough s f plan organization) :
    (fulfil f s).subscriptionEnd? f.transaction.organizationId =
      some (addBillingPeriod f.now plan.billingInterval) := by
  have hrow : (fulfilledStore f.now s f.transaction f.notice plan organization).organization?
      f.transaction.organizationId = some ((entitlementData f.now plan).apply organization) :=
    Table.find?_modify_self _ h.organization_eq
  rw [h.fulfil_eq, Store.subscriptionEnd?, hrow]
  rfl

/-- The other subscriptions stay. -/
theorem GoesThrough.subscriptionEnd?_of_ne (h : GoesThrough s f plan organization) {id : String}
    (hne : id ≠ f.transaction.organizationId) :
    (fulfil f s).subscriptionEnd? id = s.subscriptionEnd? id := by
  have hrow : (fulfilledStore f.now s f.transaction f.notice plan organization).organization? id =
      s.organization? id := Table.find?_modify_of_ne _ hne
  rw [h.fulfil_eq, Store.subscriptionEnd?, hrow]
  rfl

/-! ### What was paid for -/

/-- The end date of no organization decreases. -/
def EndsNoEarlier (s : Store) (f : Fulfilment) : Prop :=
  ∀ id endAt, s.subscriptionEnd? id = some endAt →
    ∃ endAt', (fulfil f s).subscriptionEnd? id = some endAt' ∧ endAt ≤ endAt'

/-- A renewal before the end date adds at least a billing period to it. -/
def RenewalAddsPeriod (s : Store) (f : Fulfilment) : Prop :=
  ∀ plan organization endAt, GoesThrough s f plan organization →
    organization.subscriptionEndAt = some endAt → f.now < endAt →
      ∃ endAt', (fulfil f s).subscriptionEnd? f.transaction.organizationId = some endAt' ∧
        addBillingPeriod endAt plan.billingInterval ≤ endAt'

/-- A fulfilment keeps what was paid for before. -/
structure KeepsPaidTime (s : Store) (f : Fulfilment) : Prop where
  no_earlier : EndsNoEarlier s f
  renewal : RenewalAddsPeriod s f

/-- Nothing is left of the paid period when the next payment is made, or no more than the month of
the payment is longer than the month the period ends in. -/
def LittleLeft (s : Store) (f : Fulfilment) : Prop :=
  ∀ plan organization endAt, GoesThrough s f plan organization →
    organization.subscriptionEndAt = some endAt →
      endAt ≤ f.now ∨ endAt - f.now ≤
        (daysInMonth (utcMonth f.now) - daysInMonth (utcMonth endAt)) * dayMillis

/-- What is left is at most the difference of the two months exactly when the new period ends no
earlier than a period from the old end. -/
theorem addBillingPeriod_month_le_iff {start later : ℤ} :
    addBillingPeriod later .month ≤ addBillingPeriod start .month ↔
      later - start ≤
        (daysInMonth (utcMonth start) - daysInMonth (utcMonth later)) * dayMillis := by
  rw [addBillingPeriod_month, addBillingPeriod_month, sub_mul]
  show (later + _ : ℤ) ≤ start + _ ↔ _
  omega

theorem le_addBillingPeriod_month (start : ℤ) : start ≤ addBillingPeriod start .month := by
  rw [addBillingPeriod_month, dayMillis]
  have := daysInMonth_bounds (utcMonth start)
  omega

/-- **One fulfilment.** -/
theorem keepsPaidTime_iff (s : Store) (f : Fulfilment) : KeepsPaidTime s f ↔ LittleLeft s f := by
  constructor
  · intro hkeeps plan organization endAt hthrough hend
    by_cases hover : endAt ≤ f.now
    · exact .inl hover
    · obtain ⟨endAt', hend', hle⟩ :=
        hkeeps.renewal plan organization endAt hthrough hend (not_le.mp hover)
      rw [hthrough.subscriptionEnd?_self] at hend'
      obtain rfl := Option.some.inj hend'
      rw [billingInterval_of_active hthrough.plan_eq] at hle
      exact .inr (addBillingPeriod_month_le_iff.mp hle)
  · intro hleft
    constructor
    · intro id endAt hend
      obtain hsame | ⟨plan, organization, hthrough⟩ := fulfil_cases s f
      · exact ⟨endAt, by rw [hsame, hend], le_rfl⟩
      · by_cases hself : id = f.transaction.organizationId
        · subst hself
          refine ⟨_, hthrough.subscriptionEnd?_self, ?_⟩
          rw [billingInterval_of_active hthrough.plan_eq]
          have hrow : organization.subscriptionEndAt = some endAt := by
            simpa [Store.subscriptionEnd?, hthrough.organization_eq] using hend
          rcases hleft plan organization endAt hthrough hrow with hover | hlittle
          · exact hover.trans (le_addBillingPeriod_month f.now)
          · exact (le_addBillingPeriod_month endAt).trans
              (addBillingPeriod_month_le_iff.mpr hlittle)
        · exact ⟨endAt, by rw [hthrough.subscriptionEnd?_of_ne hself, hend], le_rfl⟩
    · intro plan organization endAt hthrough hrow hbefore
      refine ⟨_, hthrough.subscriptionEnd?_self, ?_⟩
      rw [billingInterval_of_active hthrough.plan_eq]
      rcases hleft plan organization endAt hthrough hrow with hover | hlittle
      · exact absurd hbefore (not_lt.mpr hover)
      · exact addBillingPeriod_month_le_iff.mpr hlittle

/-! ### Every run -/

/-- **Paying and the paid period.** In every sequence of fulfilments no end date decreases and
every early renewal adds a period exactly when little is left at each payment; a billing
period keeps the order of two dates exactly when the period of the earlier one is not longer
by more than lies between them, and skips no month exactly when the month it leads to has the day
of its start. -/
theorem paid_time_kept_iff (s : Store) (fulfilments : List Fulfilment) (interval : BillingInterval)
    (start later : Millis) :
    (Along fulfil KeepsPaidTime s fulfilments ↔ Along fulfil LittleLeft s fulfilments) ∧
    (addBillingPeriod start interval ≤ addBillingPeriod later interval ↔
      (daysOfMonths interval.months start - daysOfMonths interval.months later) * dayMillis ≤
        later - start) ∧
    (utcMonth (addBillingPeriod start interval) = utcMonth start + interval.months ↔
      utcDayOfMonth start ≤ daysInMonth (utcMonth start + interval.months)) := by
  refine ⟨along_congr keepsPaidTime_iff s fulfilments, ?_, ?_⟩
  · rw [addBillingPeriod_def, addBillingPeriod_def]
    exact addUtcMonths_le_iff
  · rw [addBillingPeriod_def]
    exact utcMonth_addUtcMonths_iff

namespace Example

/-- An organization and nothing that was paid. -/
def unpaid : Store :=
  .unpaid ⟨[{ id := "renewing" }], by simp⟩ [] []

/-- A payment for the starter plan. -/
def pays (now : Millis) (internalReference : String) : Fulfilment where
  now := now
  transaction :=
    { id := internalReference, organizationId := "renewing", internalReference
      planCode := .starter, amountMinor := 500000, currency := "NGN" }
  notice :=
    { trusted :=
      { providerReference := internalReference, internalReference, status := .paid
        amountMinor := some 500000, currency := "NGN" } }

def endOfJanuary : Fulfilment := pays 1769817600000 "fz_organiza_0001"

def startOfFebruary : Fulfilment := pays 1769904000000 "fz_organiza_0002"

def startOfJanuary : Fulfilment := pays 1767225600000 "fz_organiza_0001"

def midJanuary : Fulfilment := pays 1768435200000 "fz_organiza_0002"

end Example

open Example in
/-- A payment on the 31st of January runs to the 3rd of March, one a day later to the 1st: the end
date decreases, and February was skipped. One in the middle of a month that is paid for adds
half a month. -/
theorem paying_can_shorten :
    ¬ Along fulfil EndsNoEarlier unpaid [endOfJanuary, startOfFebruary] ∧
      ¬ Along fulfil RenewalAddsPeriod unpaid [startOfJanuary, midJanuary] ∧
      ¬ addBillingPeriod endOfJanuary.now .month ≤ addBillingPeriod startOfFebruary.now .month ∧
      utcMonth (addBillingPeriod endOfJanuary.now .month) ≠ utcMonth endOfJanuary.now + 1 := by
  refine ⟨fun h => ?_, fun h => ?_, by decide +kernel, by decide +kernel⟩
  · have hbefore : (fulfil endOfJanuary unpaid).subscriptionEnd? "renewing" =
        some 1772496000000 := by decide +kernel
    have hafter : (fulfil startOfFebruary (fulfil endOfJanuary unpaid)).subscriptionEnd?
        "renewing" = some 1772323200000 := by decide +kernel
    obtain ⟨endAt', hend, hle⟩ := h.2.1 "renewing" 1772496000000 hbefore
    obtain rfl := Option.some.inj (hafter.symm.trans hend)
    exact absurd hle (by decide)
  · have hbefore : (fulfil startOfJanuary unpaid).subscriptionEnd? "renewing" =
        some 1769904000000 := by decide +kernel
    have hafter : (fulfil midJanuary (fulfil startOfJanuary unpaid)).subscriptionEnd?
        "renewing" = some 1771113600000 := by decide +kernel
    obtain hsame | ⟨plan, organization, hthrough⟩ :=
      fulfil_cases (fulfil startOfJanuary unpaid) midJanuary
    · rw [hsame, hbefore] at hafter
      cases hafter
    · have hrow : organization.subscriptionEndAt = some 1769904000000 := by
        have horganization : (fulfil startOfJanuary unpaid).organization? "renewing" =
            some organization := hthrough.organization_eq
        rw [Store.subscriptionEnd?, horganization] at hbefore
        exact hbefore
      obtain ⟨endAt', hend, hle⟩ :=
        h.2.1 plan organization 1769904000000 hthrough hrow (by decide)
      obtain rfl := Option.some.inj (hafter.symm.trans hend)
      rw [billingInterval_of_active hthrough.plan_eq] at hle
      exact absurd hle (by decide +kernel)

end FixZone.PaymentsService
