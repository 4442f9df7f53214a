import FixZone.Library.Table
import FixZone.Schema

/-!
# The plan catalogue

`plan-catalog.ts`: the plans that can be paid for, with their prices and what they
entitle an organization to. The plan references of the provider, which come from the
environment and are only passed on to the provider, are left out.
-/

namespace FixZone.PaymentsService

open Library

/-- `BillingInterval`. -/
inductive BillingInterval where
  | month | year
  deriving DecidableEq, Repr

/-- `PlanEntitlements`. -/
structure PlanEntitlements where
  allowedUsers : Option ℕ
  allowedProviders : Option ℕ
  allowedReportsPerMonth : Option ℕ
  allowedStorageMb : Option ℕ
  enabledModules : List String
  deriving DecidableEq

/-- `CommercialPlan`. -/
structure CommercialPlan where
  code : SubscriptionPlan
  displayNameKey : String
  descriptionKey : String
  billingInterval : BillingInterval
  currency : String
  amountMinor : ℤ
  active : Bool
  entitlements : PlanEntitlements
  deriving DecidableEq

/-- `maintenanceOnlyModules`. -/
def maintenanceOnlyModules : List String := ["MAINTENANCE_SERVICES"]

/-- `paymentPlanCatalog`. -/
def paymentPlanCatalog : List CommercialPlan :=
  [{ code := .starter
     displayNameKey := "billing.plan.starter.name"
     descriptionKey := "billing.plan.starter.description"
     billingInterval := .month
     currency := "NGN"
     amountMinor := 500000
     active := true
     entitlements :=
       { allowedUsers := some 10, allowedProviders := some 5, allowedReportsPerMonth := some 200
         allowedStorageMb := some 1024, enabledModules := maintenanceOnlyModules } },
   { code := .professional
     displayNameKey := "billing.plan.professional.name"
     descriptionKey := "billing.plan.professional.description"
     billingInterval := .month
     currency := "NGN"
     amountMinor := 2500000
     active := true
     entitlements :=
       { allowedUsers := some 50, allowedProviders := some 25, allowedReportsPerMonth := some 2000
         allowedStorageMb := some 10240, enabledModules := maintenanceOnlyModules } },
   { code := .government
     displayNameKey := "billing.plan.government.name"
     descriptionKey := "billing.plan.government.description"
     billingInterval := .month
     currency := "NGN"
     amountMinor := 10000000
     active := true
     entitlements :=
       { allowedUsers := some 250, allowedProviders := some 100, allowedReportsPerMonth := some 10000
         allowedStorageMb := some 102400, enabledModules := maintenanceOnlyModules } },
   { code := .enterprise
     displayNameKey := "billing.plan.enterprise.name"
     descriptionKey := "billing.plan.enterprise.description"
     billingInterval := .month
     currency := "NGN"
     amountMinor := 25000000
     active := false
     entitlements :=
       { allowedUsers := none, allowedProviders := none, allowedReportsPerMonth := none
         allowedStorageMb := none, enabledModules := maintenanceOnlyModules } }]

/-- `resolvePaymentPlan`. -/
def resolvePaymentPlan (code : String) : Option CommercialPlan :=
  let normalized := toUpperCase (trim code)
  paymentPlanCatalog.find? fun plan => plan.code.text = normalized

/-- A stored plan code is its own normal form: it finds the plan with that code. -/
theorem resolvePaymentPlan_text (plan : SubscriptionPlan) :
    resolvePaymentPlan plan.text = paymentPlanCatalog.find? fun p => p.code = plan := by
  cases plan <;> decide +kernel

theorem mem_of_resolvePaymentPlan {code : String} {plan : CommercialPlan}
    (h : resolvePaymentPlan code = some plan) : plan ∈ paymentPlanCatalog := by
  unfold resolvePaymentPlan at h
  exact List.mem_of_find?_eq_some h

/-- A plan is found under its own code, whatever text it was asked for with. -/
theorem resolvePaymentPlan_code {code : String} {plan : CommercialPlan}
    (h : resolvePaymentPlan code = some plan) :
    resolvePaymentPlan plan.code.text = some plan := by
  have hcodes : (paymentPlanCatalog.map CommercialPlan.code).Nodup := by decide
  have hmem := mem_of_resolvePaymentPlan h
  rw [resolvePaymentPlan_text]
  exact Table.find?_of_mem_rows hcodes hmem

/-- Every plan of the catalogue turns on the maintenance services and nothing else. -/
theorem enabledModules_of_mem {plan : CommercialPlan} (h : plan ∈ paymentPlanCatalog) :
    plan.entitlements.enabledModules = maintenanceOnlyModules := by
  have hall : ∀ p ∈ paymentPlanCatalog, p.entitlements.enabledModules = maintenanceOnlyModules := by decide
  exact hall plan h

/-- `addBillingPeriod`. -/
def addBillingPeriod (start : Millis) (interval : BillingInterval) : Millis :=
  match interval with
  | .year => addUtcMonths 12 start
  | .month => addUtcMonths 1 start

end FixZone.PaymentsService
