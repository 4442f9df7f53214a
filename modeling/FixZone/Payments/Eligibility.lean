import FixZone.Payments.Fulfilment
import FixZone.Report.RoutingOutcome

/-!
# Paying and routing

A fulfilled payment writes the modules of its plan to the organization, and the catalogue
spells the one it sells `MAINTENANCE_SERVICES`. Routing looks for `maintenance`. So an
organization that has just paid is not eligible for any report, and a payment leaves
routing as it was only where the organization was not eligible before (`paying_keeps_routing_iff`).
-/

namespace FixZone.PaymentsService

open Library ReportService FixZone.Organization

variable {locale : LocaleOrder} {s s' : Store} {now : Millis} {t paid : PaymentTransaction}
  {notice : Notice}
  {category : String} {report : RoutedReport}

/-- `serializeOrganizationCandidate` marks the organization eligible. -/
def Eligible (locale : LocaleOrder) (organization : ResponsibilityOrganizationProfile)
    (category : String) (report : RoutedReport) : Prop :=
  ∃ candidate, serializeOrganizationCandidate locale organization category report = some candidate ∧
    candidate.eligible = true

/-- An organization that is eligible before is eligible after. -/
def KeepsEligible (locale : LocaleOrder) (s s' : Store) (organizationId category : String)
    (report : RoutedReport) : Prop :=
  ∀ o, s.organization? organizationId = some o →
    Eligible locale o.toResponsibilityOrganizationProfile category report →
    ∃ o', s'.organization? organizationId = some o' ∧
      Eligible locale o'.toResponsibilityOrganizationProfile category report

/-- An eligible organization has the maintenance services. -/
theorem Eligible.maintenance {organization : ResponsibilityOrganizationProfile}
    (h : Eligible locale organization category report) :
    maintenanceModuleEnabled organization.enabledModules = some true := by
  obtain ⟨candidate, hcandidate, heligible⟩ := h
  obtain ⟨facts, hfacts, hcandidate⟩ := Option.bind_eq_some_iff.mp hcandidate
  obtain rfl := Option.some.inj hcandidate
  rw [(candidateFacts_reads hfacts).2]
  by_contra hnot
  have hready : facts.serviceModuleReady = false := by simpa using hnot
  simp [candidateReasons, hready] at heligible

/-- The modules a plan writes do not turn on what routing looks for. -/
theorem maintenance_of_plan {plan : CommercialPlan} (h : plan ∈ paymentPlanCatalog) :
    maintenanceModuleEnabled
    (some (.obj [("modules", .arr (plan.entitlements.enabledModules.map Json.str))])) =
      some false := by
  rw [enabledModules_of_mem h]
  decide +kernel

theorem fulfillPayment_eq_ok (h : fulfillPayment now s t notice = .ok (s', paid)) :
    ∃ plan organization, plan ∈ paymentPlanCatalog ∧
      s.organization? t.organizationId = some organization ∧
      s'.organization? t.organizationId = some ((entitlementData now plan).apply organization) := by
  obtain ⟨plan, organization, hplan, horganization, -, hresult⟩ := fulfillPayment_eq_ok_iff.mp h
  obtain ⟨rfl, -⟩ := Prod.mk.inj hresult
  exact ⟨plan, organization, mem_of_resolvePaymentPlan (resolveActivePlan_eq_ok hplan).1,
    horganization, Table.find?_modify_self _ horganization⟩

/-- An organization that has just paid is not eligible for anything. -/
theorem ineligible_after (h : fulfillPayment now s t notice = .ok (s', paid)) {o' : Organization}
    (ho' : s'.organization? t.organizationId = some o') :
    ¬ Eligible locale o'.toResponsibilityOrganizationProfile category report := by
  obtain ⟨plan, organization, hplan, -, hafter⟩ := fulfillPayment_eq_ok h
  obtain rfl := Option.some.inj (hafter.symm.trans ho')
  intro heligible
  have hmaintenance := heligible.maintenance
  rw [entitlementData, maintenance_of_plan hplan] at hmaintenance
  cases hmaintenance

/-- **Paying costs routing.** A fulfilled payment keeps the eligibility of its organization for a
report exactly when there was none to keep. -/
theorem paying_keeps_routing_iff (h : fulfillPayment now s t notice = .ok (s', paid))
    (locale : LocaleOrder) (category : String) (report : RoutedReport) :
    KeepsEligible locale s s' t.organizationId category report ↔
      ∀ o, s.organization? t.organizationId = some o →
        ¬ Eligible locale o.toResponsibilityOrganizationProfile category report := by
  constructor
  · intro hkeeps o ho heligible
    obtain ⟨o', ho', heligible'⟩ := hkeeps o ho heligible
    exact ineligible_after h ho' heligible'
  · exact fun hnone o ho heligible => absurd heligible (hnone o ho)

namespace Example

/-- The organization of Garki starts to pay for the starter plan. -/
def garkiTransaction : PaymentTransaction where
  id := "transaction"
  organizationId := "garki"
  internalReference := "fz_garki_0001"
  planCode := .starter
  amountMinor := 500000
  currency := "NGN"
  status := .pending

/-- Its row before that. -/
def garki : Organization :=
  { ReportService.Example.garkiOrganization with subscriptionPlan := .free }

/-- The store with both. -/
def garkiStore : Store where
  organizations := ⟨[garki], by simp⟩
  transactions := ⟨[garkiTransaction], by simp⟩
  subscriptions := Table.empty _
  receipts := Table.empty _
  upgradeRequests := []
  users := []
  notifications := []

/-- The provider reports it paid. -/
def garkiNotice : Notice where
  trusted :=
    { providerReference := "fz_garki_0001", internalReference := "fz_garki_0001", status := .paid
      amountMinor := some 500000, currency := "NGN" }

end Example

open Example ReportService.Example in
theorem garki_pays : ∃ s' paid,
    fulfillPayment 1 garkiStore garkiTransaction garkiNotice = .ok (s', paid) := by
  have hok : (fulfillPayment 1 garkiStore garkiTransaction garkiNotice).isOk = true := by
    decide +kernel
  cases hpaid : fulfillPayment 1 garkiStore garkiTransaction garkiNotice with
  | error e =>
    rw [hpaid] at hok
    cases hok
  | ok result => exact ⟨result.1, result.2, rfl⟩

open Example ReportService.Example in
theorem eligible_garki : Eligible localeOrder garkiOrganization "Lighting" brokenLight := by
  have hany :
    (serializeOrganizationCandidate localeOrder garkiOrganization "Lighting" brokenLight).any
      (·.eligible) = true := by
    decide +kernel
  exact (Option.any_eq_true _ _).mp hany

open Example ReportService.Example in
/-- The organization of Garki, which is eligible for a broken light, is not any more when it has
paid. -/
theorem garki_loses_routing :
    ∃ s' paid, fulfillPayment 1 garkiStore garkiTransaction garkiNotice = .ok (s', paid) ∧
      ¬ KeepsEligible localeOrder garkiStore s' "garki" "Lighting" brokenLight := by
  obtain ⟨s', paid, hpaid⟩ := garki_pays
  refine ⟨s', paid, hpaid, fun hkeeps => ?_⟩
  exact (paying_keeps_routing_iff hpaid localeOrder "Lighting" brokenLight).mp hkeeps garki rfl
    eligible_garki

open Example ReportService.Example in
/-- Paying does cost routing. -/
theorem paying_costs_routing :
    ¬ ∀ (locale : LocaleOrder) (now : Millis) (s s' : Store) (t paid : PaymentTransaction)
    (notice : Notice)
      (category : String) (report : RoutedReport), fulfillPayment now s t notice = .ok (s', paid) →
        KeepsEligible locale s s' t.organizationId category report := by
  intro h
  obtain ⟨s', paid, hpaid⟩ := garki_pays
  obtain ⟨o', ho', heligible⟩ :=
    h localeOrder 1 garkiStore s' garkiTransaction paid garkiNotice "Lighting" brokenLight
    hpaid garki rfl eligible_garki
  exact ineligible_after hpaid ho' heligible

end FixZone.PaymentsService
