import FixZone.Library.Run
import FixZone.Organization.Readiness
import FixZone.Payments.Fulfilment

/-!
# Changes of plan

The plan and the limits of an organization are changed by three services: by an update of the
organization, by the approval of an upgrade request, and by a payment. The check that a smaller
plan still holds what the organization uses is made by the first alone, and there against the
limits of the catalogue, whatever limits the update names itself. A request is approved, and a
payment fulfilled, as it was made, though the organization may have gone to a larger plan
since. So a plan is undercut exactly where an approval, a payment or a named limit goes below
the usage (`not_undercut_iff`).

The other services change the users and the reports between two steps: each step comes with
the rows of its time.
-/

namespace FixZone.OrganizationService

open Library PlatformModulesService
open ReportService (JwtUser HttpError forbidden notFound conflict badRequest)
open PaymentsService (Store PaymentError)

/-! ### Limits and usage -/

/-- What an organization may use, and of what it is a limit. -/
inductive LimitKind where
  | users | providers | reportsPerMonth
  deriving DecidableEq

/-- The limits of a plan. -/
structure Quota where
  allowedUsers : Option ℕ := none
  allowedProviders : Option ℕ := none
  allowedReportsPerMonth : Option ℕ := none
  deriving DecidableEq

/-- The limit of a kind. -/
def Quota.limit (quota : Quota) : LimitKind → Option ℕ
  | .users => quota.allowedUsers
  | .providers => quota.allowedProviders
  | .reportsPerMonth => quota.allowedReportsPerMonth

/-- What an organization uses. -/
structure Usage where
  users : ℕ
  providers : ℕ
  reportsThisMonth : ℕ
  deriving DecidableEq

/-- The rows of the other services. -/
structure Directory where
  now : Millis := 0
  users : List ReportService.User := []
  reports : List ReportService.Report := []

/-- The usage of an organization as `assertDowngradeDoesNotExceedUsage` counts it. -/
def Directory.usage (d : Directory) (organizationId : String) : Usage where
  users := d.users.countP fun user => user.organizationId = some organizationId
  providers := d.users.countP fun user => user.role = .provider &&
    (user.organizationId = some organizationId || user.providerOrganizations.any fun link =>
      link.organizationId = organizationId && link.active)
  reportsThisMonth := d.reports.countP fun report => report.organizationId = organizationId &&
    utcMonthStart d.now ≤ report.createdAt

/-! ### Plans -/

/-- A plan of the catalogue. -/
structure PlanDefinition where
  plan : SubscriptionPlan
  label : String
  defaultUsers : Option ℕ
  defaultProviders : Option ℕ
  defaultReportsPerMonth : Option ℕ

/-- `planCatalog`. -/
def planCatalog : List PlanDefinition :=
  [{ plan := .free, label := "Free", defaultUsers := some 5, defaultProviders := some 2,
     defaultReportsPerMonth := some 50 },
   { plan := .starter, label := "Starter", defaultUsers := some 25, defaultProviders := some 10,
     defaultReportsPerMonth := some 500 },
   { plan := .professional, label := "Professional", defaultUsers := some 100,
     defaultProviders := some 50, defaultReportsPerMonth := some 5000 },
   { plan := .government, label := "Government", defaultUsers := some 500,
     defaultProviders := some 250, defaultReportsPerMonth := some 25000 },
   { plan := .enterprise, label := "Enterprise", defaultUsers := none, defaultProviders := none,
     defaultReportsPerMonth := none }]

/-- `defaultQuotaUpdateForPlan`. -/
def defaultQuotaUpdateForPlan (plan : SubscriptionPlan) : Quota :=
  let definition := planCatalog.find? fun item => item.plan = plan
  { allowedUsers := definition.bind (·.defaultUsers)
    allowedProviders := definition.bind (·.defaultProviders)
    allowedReportsPerMonth := definition.bind (·.defaultReportsPerMonth) }

/-- `planRank`. -/
def planRank : SubscriptionPlan → ℕ
  | .free => 0
  | .demo => 0
  | .starter => 1
  | .professional => 2
  | .government => 3
  | .enterprise => 4

/-- `isDowngrade`. -/
def isDowngrade (currentPlan requestedPlan : SubscriptionPlan) : Bool :=
  planRank requestedPlan < planRank currentPlan

/-- `parsePlan`, of a value that is a text or is not. -/
def parsePlan (value : Option String) : Except HttpError SubscriptionPlan :=
  let plan := toUpperCase (trim (value.getD ""))
  orThrow ([.free, .demo, .starter, .professional, .government, .enterprise].find?
    fun known : SubscriptionPlan => known.text = plan) (badRequest "Invalid subscription plan")

/-! ### The check of a downgrade -/

/-- The exception for a downgrade below the usage. -/
structure DowngradeOverLimit where
  code : String := "DOWNGRADE_OVER_LIMIT"
  message : String :=
    "This organization exceeds the target plan limits. No users, providers, reports, evidence or assignments were changed."
  currentPlan : SubscriptionPlan
  requestedPlan : SubscriptionPlan
  usage : Usage
  targetQuota : Quota

/-- An exception of the service. -/
inductive PlanError where
  | http (error : HttpError)
  | overLimit (error : DowngradeOverLimit)

/-- `overLimit`. -/
def overLimit (quota : Quota) (usage : Usage) : Bool :=
  quota.allowedUsers.any (· < usage.users) || quota.allowedProviders.any (· < usage.providers) ||
    quota.allowedReportsPerMonth.any (· < usage.reportsThisMonth)

variable (d : Directory) (s : Store)

/-- `assertDowngradeDoesNotExceedUsage`. -/
def assertDowngradeDoesNotExceedUsage (organizationId : String)
    (currentPlan requestedPlan : SubscriptionPlan) : Except PlanError Unit :=
  let quota := defaultQuotaUpdateForPlan requestedPlan
  let usage := d.usage organizationId
  throwIf (overLimit quota usage) (.overLimit { currentPlan, requestedPlan, usage,
                                                targetQuota := quota })

/-! ### Updates -/

/-- `OrganizationType`. -/
inductive OrganizationType where
  | federal | state | localGovernment | agency | corporate | estate | campus | community
  | government | federalAgency | stateAgency | university | hospital | utilityCompany
  | privateFacility | other
  deriving DecidableEq

/-- `UpdateOrganizationDto`. -/
structure UpdateOrganizationDto where
  name : Option String := none
  type : Option OrganizationType := none
  parentId : Option String := none
  tenantCode : Option String := none
  contactEmail : Option String := none
  contactPhone : Option String := none
  address : Option String := none
  state : Option String := none
  lga : Option String := none
  country : Option String := none
  subscriptionPlan : Option SubscriptionPlan := none
  billingStatus : Option BillingStatus := none
  allowedUsers : Option ℕ := none
  allowedProviders : Option ℕ := none
  allowedReportsPerMonth : Option ℕ := none
  allowedStorageMb : Option ℕ := none
  profileData : Option Json := none
  enabledModules : Option (List String) := none

/-- Whether an update names one of the `restricted` fields. -/
def UpdateOrganizationDto.restricted (dto : UpdateOrganizationDto) : Bool :=
  dto.type.isSome || dto.parentId.isSome || dto.tenantCode.isSome ||
    dto.subscriptionPlan.isSome || dto.billingStatus.isSome || dto.allowedUsers.isSome ||
    dto.allowedProviders.isSome || dto.allowedReportsPerMonth.isSome ||
    dto.allowedStorageMb.isSome || dto.enabledModules.isSome

/-- `assertCanManageOrganization`. -/
def assertCanManageOrganization (id : String) (user : JwtUser) (dto : UpdateOrganizationDto) :
    Except HttpError Unit := do
  if user.role = .superAdmin then
    return
  throwIf (user.role ≠ .orgAdmin ∨ user.organizationId ≠ some id)
    (forbidden "Organization management denied")
  throwIf dto.restricted (forbidden "Only Super Admin can update billing and tenant controls")

/-- `Object.keys(data).length === 0` of what `buildOrganizationData` makes of an update. -/
def UpdateOrganizationDto.writesNothing (dto : UpdateOrganizationDto) : Bool :=
  trimmed dto.name = "" && dto.contactEmail.isNone && dto.contactPhone.isNone &&
    dto.address.isNone && dto.state.isNone && dto.lga.isNone && dto.country.isNone &&
    dto.profileData.isNone && !dto.restricted

/-- A text column: left alone where no text is sent, and emptied by a blank one. -/
def textColumn (sent column : Option String) : Option String :=
  if sent.isSome then trimmedOrNull sent else column

/-- `buildOrganizationData`, the columns that no modelled function reads apart. -/
def buildOrganizationData (dto : UpdateOrganizationDto) :
    Patch PaymentsService.Organization.key where
  apply o := { o with
    name := if trimmed dto.name = "" then o.name else trimmed dto.name
    contactEmail := textColumn dto.contactEmail o.contactEmail
    contactPhone := textColumn dto.contactPhone o.contactPhone
    address := textColumn dto.address o.address
    state := textColumn dto.state o.state
    lga := textColumn dto.lga o.lga
    country := textColumn dto.country o.country
    subscriptionPlan := dto.subscriptionPlan.getD o.subscriptionPlan
    billingStatus := dto.billingStatus.getD o.billingStatus
    allowedUsers := dto.allowedUsers <|> o.allowedUsers
    allowedProviders := dto.allowedProviders <|> o.allowedProviders
    allowedReportsPerMonth := dto.allowedReportsPerMonth <|> o.allowedReportsPerMonth
    allowedStorageMb := dto.allowedStorageMb <|> o.allowedStorageMb
    profileData := dto.profileData <|> o.profileData
    enabledModules := (dto.enabledModules.bind fun modules =>
      (normalizeEnabledModules (some (.arr (modules.map .str)))).map fun keys =>
        .arr (keys.map .str)) <|> o.enabledModules }

/-- An exception of a check that is shared with other services. -/
def asHttp {α : Type} (result : Except HttpError α) : Except PlanError α :=
  result.mapError .http

/-- `update`, the statistics it answers with apart. -/
def update (id : String) (dto : UpdateOrganizationDto) (user : JwtUser) :
    Except PlanError Store := do
  asHttp (assertCanManageOrganization id user dto)
  let organization ← orThrow (s.organization? id) (.http (notFound "Organization not found"))
  if dto.writesNothing then
    return s
  let requestedPlan := dto.subscriptionPlan.getD organization.subscriptionPlan
  checkWhen (isDowngrade organization.subscriptionPlan requestedPlan)
    (assertDowngradeDoesNotExceedUsage d id organization.subscriptionPlan requestedPlan)
  return { s with organizations := s.organizations.modify id (buildOrganizationData dto) }

/-! ### Requests -/

/-- The texts that `requestUpgrade` reads of its body. -/
structure UpgradeRequestDto where
  requestedPlan : Option String := none
  requestNote : Option String := none

/-- `requestUpgrade`. The database makes the id of the request. -/
def requestUpgrade (id : String) (dto : UpgradeRequestDto) (user : JwtUser)
    (newRequestId : String) : Except PlanError Store := do
  asHttp (assertCanAccessOrganization id user)
  throwIf (user.role ≠ .superAdmin ∧ user.role ≠ .orgAdmin)
    (.http (forbidden "Upgrade requests require admin access"))
  let requestedPlan ← asHttp (parsePlan dto.requestedPlan)
  let organization ← orThrow (s.organization? id) (.http (notFound "Organization not found"))
  throwIf (organization.subscriptionPlan = requestedPlan)
    (.http { conflict "This organization is already on the requested plan." with
      code := some "PLAN_ALREADY_ACTIVE" })
  throwIf (isDowngrade organization.subscriptionPlan requestedPlan)
    (.http { conflict "Downgrade requests are not yet supported. Contact SecureZone administration."
      with code := some "DOWNGRADE_NOT_SUPPORTED" })
  throwIf (s.upgradeRequests.any fun request =>
      request.organizationId = id && request.status = .pending)
    (.http { conflict "An upgrade request is already pending Super Admin review." with
      code := some "UPGRADE_REQUEST_PENDING" })
  throwIf (user.id = "") (.http (forbidden "Actor missing"))
  return { s with
    upgradeRequests := s.upgradeRequests ++
      [{ id := newRequestId
         organizationId := id
         currentPlan := organization.subscriptionPlan
         requestedPlan
         requestedByUserId := user.id
         requestNote := trimmedOrNull dto.requestNote }] }

/-- The texts that `reviewUpgradeRequest` reads of its body. -/
structure ReviewUpgradeDto where
  action : Option String := none
  reviewNote : Option String := none

/-- `action`. -/
def ReviewUpgradeDto.verdict (dto : ReviewUpgradeDto) : String :=
  toUpperCase (trim (dto.action.getD ""))

/-- A request that has been reviewed. -/
def reviewedRequest (now : Millis) (dto : ReviewUpgradeDto) (user : JwtUser)
    (request : PaymentsService.OrganizationUpgradeRequest) :
    PaymentsService.OrganizationUpgradeRequest :=
  { request with
    status := if dto.verdict = "REJECT" then .rejected else .completed
    reviewNote := trimmedOrNull dto.reviewNote
    reviewedByUserId := some user.id
    reviewedAt := some now
    completedAt := if dto.verdict = "REJECT" then request.completedAt else some now }

/-- The columns of an organization that an approval writes. -/
def approvedData (plan : SubscriptionPlan) : Patch PaymentsService.Organization.key where
  apply o := { o with
    subscriptionPlan := plan
    billingStatus := .active
    allowedUsers := (defaultQuotaUpdateForPlan plan).allowedUsers
    allowedProviders := (defaultQuotaUpdateForPlan plan).allowedProviders
    allowedReportsPerMonth := (defaultQuotaUpdateForPlan plan).allowedReportsPerMonth }

/-- `organizationUpgradeRequest.update` of a request. -/
def writeReview (now : Millis) (requestId : String) (dto : ReviewUpgradeDto) (user : JwtUser) :
    List PaymentsService.OrganizationUpgradeRequest :=
  s.upgradeRequests.map fun request =>
    if request.id = requestId then reviewedRequest now dto user request else request

/-- `reviewUpgradeRequest`. -/
def reviewUpgradeRequest (requestId : String) (dto : ReviewUpgradeDto) (user : JwtUser) :
    Except PlanError Store := do
  throwIf (user.role ≠ .superAdmin) (.http (forbidden "Super Admin access required"))
  throwIf (dto.verdict ≠ "APPROVE" ∧ dto.verdict ≠ "REJECT")
    (.http (badRequest "Review action must be APPROVE or REJECT"))
  let request ← orThrow (s.upgradeRequests.find? fun request => request.id = requestId)
    (.http (notFound "Upgrade request not found"))
  throwIf (request.status ≠ .pending)
    (.http (conflict "Upgrade request is no longer pending"))
  throwIf (user.id = "") (.http (forbidden "Actor missing"))
  if dto.verdict = "REJECT" then
    return { s with upgradeRequests := writeReview s d.now requestId dto user }
  -- Both writes are one transaction, which fails where there is no such organization.
  let _ ← orThrow (s.organization? request.organizationId)
    (.http { kind := .recordNotFound, message := "Record to update not found." })
  return { s with
    upgradeRequests := writeReview s d.now requestId dto user
    organizations := s.organizations.modify request.organizationId
      (approvedData request.requestedPlan) }

/-! ### Steps -/

/-- What the services do that write plans, or what becomes one. -/
inductive PlanAction where
  | update (id : String) (dto : UpdateOrganizationDto) (user : JwtUser)
  | requestUpgrade (id : String) (dto : UpgradeRequestDto) (user : JwtUser) (newRequestId : String)
  | reviewUpgradeRequest (requestId : String) (dto : ReviewUpgradeDto) (user : JwtUser)
  | payment (event : PaymentsService.Event)

/-- An action, with the rows of its time. -/
structure PlanStep where
  directory : Directory := {}
  action : PlanAction

/-- The store after a step; one that throws leaves it as it was. -/
def takePlanStep (e : PlanStep) (s : Store) : Store :=
  match e.action with
  | .update id dto user => (update e.directory s id dto user).toOption.getD s
  | .requestUpgrade id dto user newRequestId =>
    (requestUpgrade s id dto user newRequestId).toOption.getD s
  | .reviewUpgradeRequest requestId dto user =>
    (reviewUpgradeRequest e.directory s requestId dto user).toOption.getD s
  | .payment event => PaymentsService.handle event s

/-! ### What is promised of a step -/

/-- The limits of an organization. -/
def quotaOf (o : PaymentsService.Organization) : Quota :=
  ⟨o.allowedUsers, o.allowedProviders, o.allowedReportsPerMonth⟩

/-- One of the limits is lower than that of the organization. -/
def LowersLimit (o : PaymentsService.Organization) (limits : Quota) : Prop :=
  ∃ kind, ∃ n ∈ limits.limit kind, ∀ m ∈ (quotaOf o).limit kind, n < m

/-- Neither the plan nor the limits go below the usage. -/
structure GoesDownWithin (usage : Usage) (o : PaymentsService.Organization)
    (plan : SubscriptionPlan) (planLimits limits : Quota) : Prop where
  /-- The usage fits a plan of lower rank. -/
  plan : isDowngrade o.subscriptionPlan plan → overLimit planLimits usage = false
  /-- The usage fits limits one of which is lower. -/
  limits : LowersLimit o limits → overLimit limits usage = false

/-- The limits of a plan that an organization is put under: an update leaves them in the catalogue,
and an approval and a payment write them. -/
def planLimits (action : PlanAction) (o : PaymentsService.Organization) : Quota :=
  match action with
  | .update _ _ _ => defaultQuotaUpdateForPlan o.subscriptionPlan
  | _ => quotaOf o

/-- The step undercuts no organization. -/
def NotUndercut (s : Store) (e : PlanStep) : Prop :=
  ∀ id o o', s.organization? id = some o → (takePlanStep e s).organization? id = some o' →
    GoesDownWithin (e.directory.usage id) o o'.subscriptionPlan (planLimits e.action o')
      (quotaOf o')

/-! ### The writes that nobody checks -/

/-- The limits that a payment for a plan writes. -/
def entitlementQuota (plan : PaymentsService.CommercialPlan) : Quota :=
  ⟨plan.entitlements.allowedUsers, plan.entitlements.allowedProviders,
    plan.entitlements.allowedReportsPerMonth⟩

/-- The limits of an organization after an update: those that it names, and the others as they
were. -/
def UpdateOrganizationDto.limitsOn (dto : UpdateOrganizationDto)
    (o : PaymentsService.Organization) : Quota :=
  ⟨dto.allowedUsers <|> o.allowedUsers, dto.allowedProviders <|> o.allowedProviders,
    dto.allowedReportsPerMonth <|> o.allowedReportsPerMonth⟩

/-- The step puts the organization `id` under a plan and limits that are not held against its
usage. -/
inductive UncheckedWrite (s : Store) (e : PlanStep) (id : String)
    (o : PaymentsService.Organization) : SubscriptionPlan → Quota → Prop where
  /-- An update names limits, and its plan passes the check. -/
  | named {dto : UpdateOrganizationDto} {user : JwtUser}
      (haction : e.action = .update id dto user) (hrole : user.role = .superAdmin)
      (hchecked : ∀ plan ∈ dto.subscriptionPlan, isDowngrade o.subscriptionPlan plan →
        overLimit (defaultQuotaUpdateForPlan plan) (e.directory.usage id) = false) :
      UncheckedWrite s e id o o.subscriptionPlan (dto.limitsOn o)
  /-- A request is approved. -/
  | approved {requestId : String} {dto : ReviewUpgradeDto} {user : JwtUser}
      {request : PaymentsService.OrganizationUpgradeRequest}
      (haction : e.action = .reviewUpgradeRequest requestId dto user)
      (hrole : user.role = .superAdmin) (hverdict : dto.verdict = "APPROVE")
      (hrequest : s.upgradeRequests.find? (fun request => request.id = requestId) = some request)
      (hpending : request.status = .pending) (horganization : request.organizationId = id) :
      UncheckedWrite s e id o request.requestedPlan
        (defaultQuotaUpdateForPlan request.requestedPlan)
  /-- A payment is fulfilled. -/
  | paid {delivery : PaymentsService.Delivery} {t : PaymentsService.PaymentTransaction}
      {plan : PaymentsService.CommercialPlan} (haction : e.action = .payment (.deliver delivery))
      (hfulfils : PaymentsService.Fulfils s delivery t plan o)
      (horganization : t.organizationId = id) :
      UncheckedWrite s e id o plan.code (entitlementQuota plan)

/-- Every write that is not checked stays at or above the usage. -/
def WithinUsage (s : Store) (e : PlanStep) : Prop :=
  ∀ id o plan quota, s.organization? id = some o → UncheckedWrite s e id o plan quota →
    GoesDownWithin (e.directory.usage id) o plan quota quota

variable {d s} {e : PlanStep} {id : String} {o o' : PaymentsService.Organization}

/-! ### The operations -/

/-- What the row of an organization becomes. -/
inductive RowChange (s : Store) (e : PlanStep) (id : String) (o : PaymentsService.Organization) :
    PaymentsService.Organization → Prop where
  | same : RowChange s e id o o
  | updated {dto : UpdateOrganizationDto} {user : JwtUser}
      (haction : e.action = .update id dto user)
      (hmay : assertCanManageOrganization id user dto = .ok ⟨⟩)
      (hchecked : ∀ plan ∈ dto.subscriptionPlan, isDowngrade o.subscriptionPlan plan →
        overLimit (defaultQuotaUpdateForPlan plan) (e.directory.usage id) = false) :
      RowChange s e id o ((buildOrganizationData dto).apply o)
  | approved {requestId : String} {dto : ReviewUpgradeDto} {user : JwtUser}
      {request : PaymentsService.OrganizationUpgradeRequest}
      (haction : e.action = .reviewUpgradeRequest requestId dto user)
      (hwrite : UncheckedWrite s e id o request.requestedPlan
        (defaultQuotaUpdateForPlan request.requestedPlan)) :
      RowChange s e id o ((approvedData request.requestedPlan).apply o)
  | paid {delivery : PaymentsService.Delivery} {plan : PaymentsService.CommercialPlan}
      (haction : e.action = .payment (.deliver delivery))
      (hwrite : UncheckedWrite s e id o plan.code (entitlementQuota plan)) :
      RowChange s e id o ((PaymentsService.entitlementData delivery.now plan).apply o)

theorem asHttp_eq_ok {α : Type} {result : Except HttpError α} {a : α} :
    asHttp result = .ok a ↔ result = .ok a := by
  cases result <;> simp [asHttp, Except.mapError]

theorem assertDowngrade_eq_ok {organizationId : String}
    {currentPlan requestedPlan : SubscriptionPlan} {u : Unit} :
    assertDowngradeDoesNotExceedUsage d organizationId currentPlan requestedPlan = .ok u ↔
      overLimit (defaultQuotaUpdateForPlan requestedPlan) (d.usage organizationId) = false := by
  rw [assertDowngradeDoesNotExceedUsage, throwIf_eq_ok, Bool.not_eq_true]

theorem update_eq_ok {dto : UpdateOrganizationDto} {user : JwtUser} {s' : Store} :
    update d s id dto user = .ok s' ↔ assertCanManageOrganization id user dto = .ok ⟨⟩ ∧
      ∃ o, s.organization? id = some o ∧
        (dto.writesNothing ∧ s = s' ∨ dto.writesNothing = false ∧
          (∀ plan ∈ dto.subscriptionPlan, isDowngrade o.subscriptionPlan plan →
            overLimit (defaultQuotaUpdateForPlan plan) (d.usage id) = false) ∧
          { s with organizations := s.organizations.modify id (buildOrganizationData dto) } =
            s') := by
  simp only [update, check_bind_eq_ok, asHttp_eq_ok, orThrow_bind_eq_ok]
  refine and_congr_right fun _ => exists_congr fun o => and_congr_right fun _ => ?_
  cases hnothing : dto.writesNothing with
  | true => simp [pure_eq_ok]
  | false =>
    have hchecked : (isDowngrade o.subscriptionPlan
          (dto.subscriptionPlan.getD o.subscriptionPlan) →
        overLimit (defaultQuotaUpdateForPlan (dto.subscriptionPlan.getD o.subscriptionPlan))
          (d.usage id) = false) ↔
        ∀ plan ∈ dto.subscriptionPlan, isDowngrade o.subscriptionPlan plan →
          overLimit (defaultQuotaUpdateForPlan plan) (d.usage id) = false := by
      cases dto.subscriptionPlan with
      | none => simp [isDowngrade]
      | some plan => simp
    simp only [Bool.false_eq_true, if_false, check_bind_eq_ok, checkWhen_eq_ok,
      assertDowngrade_eq_ok, pure_eq_ok, hchecked, false_and, false_or, true_and]

theorem reviewUpgradeRequest_eq_ok {requestId : String} {dto : ReviewUpgradeDto} {user : JwtUser}
    {s' : Store} :
    reviewUpgradeRequest d s requestId dto user = .ok s' ↔ user.role = .superAdmin ∧
      (dto.verdict = "APPROVE" ∨ dto.verdict = "REJECT") ∧
      ∃ request, s.upgradeRequests.find? (fun request => request.id = requestId) = some request ∧
        request.status = .pending ∧
        (dto.verdict = "REJECT" ∧
            { s with upgradeRequests := writeReview s d.now requestId dto user } = s' ∨
          dto.verdict = "APPROVE" ∧ (∃ o, s.organization? request.organizationId = some o) ∧
            { s with
              upgradeRequests := writeReview s d.now requestId dto user
              organizations := s.organizations.modify request.organizationId
                (approvedData request.requestedPlan) } = s') := by
  simp only [reviewUpgradeRequest, throwIf_bind_eq_ok, orThrow_bind_eq_ok, not_not, ne_eq,
    not_and_or]
  refine and_congr_right fun _ => and_congr_right fun hverdict => exists_congr fun request =>
    and_congr_right fun _ => and_congr_right fun _ => ?_
  rw [and_iff_right user.id_ne]
  by_cases hreject : dto.verdict = "REJECT"
  · simp [hreject, pure_eq_ok]
  · have happrove := hverdict.resolve_right hreject
    rw [if_neg hreject, orThrow_bind_eq_ok, or_iff_right fun h => hreject h.1,
      and_iff_right happrove]
    simp only [pure_eq_ok, exists_and_right]

/-- Requesting an upgrade changes no organization. -/
theorem requestUpgrade_organizations {dto : UpgradeRequestDto} {user : JwtUser}
    {newRequestId : String} {s' : Store}
    (h : requestUpgrade s id dto user newRequestId = .ok s') :
    s'.organizations = s.organizations := by
  simp only [requestUpgrade, check_bind_eq_ok] at h
  obtain ⟨-, -, h⟩ := h
  obtain ⟨plan, -, h⟩ := bind_eq_ok.mp h
  obtain ⟨organization, -, h⟩ := orThrow_bind_eq_ok.mp h
  simp only [check_bind_eq_ok, pure_eq_ok] at h
  obtain ⟨-, -, -, -, rfl⟩ := h
  rfl

/-- The start of a payment changes no organization. -/
theorem beginOrganizationPayment_organizations {now : Millis}
    {request : PaymentsService.PaymentRequest} {s' : Store}
    (h : PaymentsService.beginOrganizationPayment now s request = .ok s') :
    s'.organizations = s.organizations := by
  unfold PaymentsService.beginOrganizationPayment at h
  obtain ⟨-, h⟩ := check_bind_eq_ok.mp h
  obtain ⟨plan, -, h⟩ := bind_eq_ok.mp h
  obtain ⟨-, h⟩ := check_bind_eq_ok.mp h
  obtain ⟨-, h⟩ := check_bind_eq_ok.mp h
  obtain ⟨-, -, h⟩ := orThrow_bind_eq_ok.mp h
  obtain ⟨-, h⟩ := throwIf_bind_eq_ok.mp h
  split at h
  · obtain rfl := pure_eq_ok.mp h
    rfl
  · obtain ⟨-, -, h⟩ := bind_eq_ok.mp h
    obtain ⟨-, h⟩ := throwIf_bind_eq_ok.mp h
    obtain rfl := pure_eq_ok.mp h
    rfl

theorem recordInitialization_organizations (now : Millis) (transactionId : String)
    (answer : Option PaymentsService.PaymentInitializationResult) :
    (PaymentsService.recordInitialization now s transactionId answer).organizations =
      s.organizations := by
  unfold PaymentsService.recordInitialization
  split
  · split <;> rfl
  · rfl

/-- A delivery changes an organization by a fulfilment alone. -/
theorem deliver_organizations (delivery : PaymentsService.Delivery) :
    (PaymentsService.deliver delivery s).organizations = s.organizations ∨
      ∃ t plan o, PaymentsService.Fulfils s delivery t plan o ∧
        (PaymentsService.deliver delivery s).organizations = s.organizations.modify
          t.organizationId (PaymentsService.entitlementData delivery.now plan) := by
  rcases PaymentsService.deliver_cases s delivery with hsame | ⟨t, -, -, hwrites⟩ |
    ⟨t, plan, o, hfulfils⟩
  · exact .inl (congrArg _ hsame)
  · left
    rcases hwrites with ⟨mismatch, -, hdeliver⟩ | ⟨-, -, hdeliver⟩
    · rw [hdeliver]
      rfl
    · rw [hdeliver]
      rfl
  · exact .inr ⟨t, plan, o, hfulfils, congrArg _ hfulfils.deliver_eq⟩

/-! ### What a step does -/

/-- A row that is written is what the write makes of the row before. -/
theorem row_of_modify {organizations : Table PaymentsService.Organization.key} {key : String}
    {data : Patch PaymentsService.Organization.key} {s' : Store}
    (hs' : s'.organizations = organizations.modify key data)
    (h : organizations.find? id = some o) (h' : s'.organization? id = some o') :
    o' = o ∨ id = key ∧ o' = data.apply o := by
  rw [PaymentsService.Store.organization?, hs'] at h'
  obtain ⟨r, hr, hchange⟩ := Table.find?_modify_cases h'
  obtain rfl := Option.some_inj.mp (hr.symm.trans h)
  exact hchange

/-- **What a step makes of the row of an organization.** -/
theorem rowChange (h : s.organization? id = some o)
    (h' : (takePlanStep e s).organization? id = some o') : RowChange s e id o o' := by
  have hunchanged : ∀ {s' : Store}, s'.organizations = s.organizations →
      s'.organization? id = some o' → RowChange s e id o o' := by
    intro s' hs' hrow
    rw [PaymentsService.Store.organization?, hs'] at hrow
    obtain rfl := Option.some_inj.mp (hrow.symm.trans h)
    exact .same
  unfold takePlanStep at h'
  cases haction : e.action with
  | update target dto user =>
    simp only [haction] at h'
    cases hresult : update e.directory s target dto user with
    | error error =>
      rw [hresult] at h'
      exact hunchanged rfl h'
    | ok s' =>
      rw [hresult] at h'
      obtain ⟨hmay, row, hrow, ⟨-, rfl⟩ | ⟨-, hchecked, rfl⟩⟩ := update_eq_ok.mp hresult
      · exact hunchanged rfl h'
      · rcases row_of_modify rfl h h' with rfl | ⟨rfl, rfl⟩
        · exact .same
        · obtain rfl := Option.some_inj.mp (hrow.symm.trans h)
          exact .updated haction hmay hchecked
  | requestUpgrade target dto user newRequestId =>
    simp only [haction] at h'
    cases hresult : requestUpgrade s target dto user newRequestId with
    | error error =>
      rw [hresult] at h'
      exact hunchanged rfl h'
    | ok s' =>
      rw [hresult] at h'
      exact hunchanged (requestUpgrade_organizations hresult) h'
  | reviewUpgradeRequest requestId dto user =>
    simp only [haction] at h'
    cases hresult : reviewUpgradeRequest e.directory s requestId dto user with
    | error error =>
      rw [hresult] at h'
      exact hunchanged rfl h'
    | ok s' =>
      rw [hresult] at h'
      obtain ⟨hrole, -, request, hrequest, hpending, ⟨-, rfl⟩ | ⟨hverdict, -, rfl⟩⟩ :=
        reviewUpgradeRequest_eq_ok.mp hresult
      · exact hunchanged rfl h'
      · rcases row_of_modify rfl h h' with rfl | ⟨horganization, rfl⟩
        · exact .same
        · exact .approved haction
            (.approved haction hrole hverdict hrequest hpending horganization.symm)
  | payment event =>
    simp only [haction] at h'
    cases event with
    | beginPayment now request =>
      rw [PaymentsService.handle] at h'
      cases hbegin : PaymentsService.beginOrganizationPayment now s request with
      | error error =>
        rw [hbegin] at h'
        exact hunchanged rfl h'
      | ok s' =>
        rw [hbegin] at h'
        exact hunchanged (beginOrganizationPayment_organizations hbegin) h'
    | recordInitialization now transactionId answer =>
      exact hunchanged (recordInitialization_organizations now transactionId answer) h'
    | deliver delivery =>
      rcases deliver_organizations delivery with hsame | ⟨t, plan, row, hfulfils, hdeliver⟩
      · exact hunchanged hsame h'
      · rcases row_of_modify hdeliver h h' with rfl | ⟨horganization, rfl⟩
        · exact .same
        · have hrow := hfulfils.organization_eq
          rw [← horganization] at hrow
          obtain rfl := Option.some_inj.mp (hrow.symm.trans h)
          exact .paid haction (.paid haction hfulfils horganization.symm)

/-! ### When nothing is undercut -/

theorem isDowngrade_self (plan : SubscriptionPlan) : isDowngrade plan plan = false :=
  decide_eq_false (lt_irrefl _)

/-- Limits that stay as they are do not go down. -/
theorem not_lowersLimit_quotaOf : ¬LowersLimit o (quotaOf o) :=
  fun ⟨_, n, hn, hlower⟩ => lt_irrefl n (hlower n hn)

/-- An update that is not restricted leaves the limits. -/
theorem limitsOn_of_not_restricted {dto : UpdateOrganizationDto} (h : dto.restricted = false) :
    dto.limitsOn o = quotaOf o := by
  simp only [UpdateOrganizationDto.restricted, Bool.or_eq_false_iff, Option.isSome_eq_false_iff,
    Option.isNone_iff_eq_none] at h
  obtain ⟨⟨⟨⟨⟨-, husers⟩, hproviders⟩, hreports⟩, -⟩, -⟩ := h
  rw [UpdateOrganizationDto.limitsOn, husers, hproviders, hreports]
  rfl

theorem assertCanManageOrganization_cases {user : JwtUser} {dto : UpdateOrganizationDto} {u : Unit}
    (h : assertCanManageOrganization id user dto = .ok u) :
    user.role = .superAdmin ∨ dto.restricted = false := by
  by_cases hsuper : user.role = .superAdmin
  · exact .inl hsuper
  · right
    rw [assertCanManageOrganization, if_neg hsuper] at h
    obtain ⟨-, h⟩ := throwIf_bind_eq_ok.mp h
    exact Bool.eq_false_iff.mpr (throwIf_eq_ok.mp h)

/-- Where no unchecked write goes below the usage, no step does. -/
theorem WithinUsage.notUndercut (hwithin : WithinUsage s e) : NotUndercut s e := by
  intro id o o' h h'
  cases rowChange h h' with
  | same =>
    refine ⟨fun hdown => ?_, fun hlower => absurd hlower not_lowersLimit_quotaOf⟩
    rw [isDowngrade_self] at hdown
    cases hdown
  | @updated dto user haction hmay hchecked =>
    refine ⟨fun hdown => ?_, fun hlower => ?_⟩
    · rw [haction, planLimits]
      change isDowngrade o.subscriptionPlan (dto.subscriptionPlan.getD o.subscriptionPlan) at hdown
      change overLimit (defaultQuotaUpdateForPlan
        (dto.subscriptionPlan.getD o.subscriptionPlan)) _ = false
      cases hplan : dto.subscriptionPlan with
      | none =>
        rw [hplan, Option.getD_none, isDowngrade_self] at hdown
        cases hdown
      | some plan =>
        rw [hplan] at hdown
        exact hchecked plan hplan hdown
    · rcases assertCanManageOrganization_cases hmay with hsuper | hrestricted
      · exact (hwithin id o _ _ h (.named haction hsuper hchecked)).limits hlower
      · change LowersLimit o (dto.limitsOn o) at hlower
        rw [limitsOn_of_not_restricted hrestricted] at hlower
        exact absurd hlower not_lowersLimit_quotaOf
  | approved haction hwrite =>
    rw [haction]
    exact hwithin id o _ _ h hwrite
  | paid haction hwrite =>
    rw [haction]
    exact hwithin id o _ _ h hwrite

/-- Where no step goes below the usage, no unchecked write does. -/
theorem NotUndercut.withinUsage (hfits : NotUndercut s e) : WithinUsage s e := by
  intro id o plan quota h hwrite
  cases hwrite with
  | @named dto user haction hrole hchecked =>
    refine ⟨fun hdown => ?_, ?_⟩
    · rw [isDowngrade_self] at hdown
      cases hdown
    · have hmay : assertCanManageOrganization id user dto = .ok ⟨⟩ := if_pos hrole
      cases hnothing : dto.writesNothing with
      | true =>
        simp only [UpdateOrganizationDto.writesNothing, Bool.and_eq_true,
          Bool.not_eq_true'] at hnothing
        intro hlower
        rw [limitsOn_of_not_restricted hnothing.2] at hlower
        exact absurd hlower not_lowersLimit_quotaOf
      | false =>
        have hupdate := update_eq_ok.mpr ⟨hmay, o, h, .inr ⟨hnothing, hchecked, rfl⟩⟩
        refine (hfits id o ((buildOrganizationData dto).apply o) h ?_).limits
        rw [takePlanStep, haction]
        dsimp only
        rw [hupdate]
        exact Table.find?_modify_self _ h
  | @approved requestId dto user request haction hrole hverdict hrequest hpending horganization =>
    subst horganization
    have hreview := (reviewUpgradeRequest_eq_ok (d := e.directory)).mpr
      ⟨hrole, .inl hverdict, request, hrequest, hpending, .inr ⟨hverdict, ⟨o, h⟩, rfl⟩⟩
    have hfits := hfits _ o ((approvedData request.requestedPlan).apply o) h (by
      rw [takePlanStep, haction]
      dsimp only
      rw [hreview]
      exact Table.find?_modify_self _ h)
    rwa [haction] at hfits
  | @paid delivery t plan haction hfulfils horganization =>
    subst horganization
    have hfits := hfits _ o ((PaymentsService.entitlementData delivery.now plan).apply o) h (by
      rw [takePlanStep, haction]
      change (PaymentsService.deliver delivery s).organization? _ = _
      rw [hfulfils.deliver_eq]
      exact Table.find?_modify_self _ h)
    rwa [haction] at hfits

/-- **Plans are undercut by the writes that nobody checks.** In every run, no step takes an
organization to a plan or a limit below its usage exactly where no approval, no payment and no named
limit does. -/
theorem not_undercut_iff (s : Store) (steps : List PlanStep) :
    Along takePlanStep NotUndercut s steps ↔ Along takePlanStep WithinUsage s steps :=
  along_congr (fun _ _ => ⟨NotUndercut.withinUsage, WithinUsage.notUndercut⟩) s steps

/-! ### A request that comes late -/

namespace Example

/-- The administrator of a council. -/
def councilAdmin : JwtUser :=
  { id := "council-admin", role := .orgAdmin, organizationId := some "council" }

/-- The administrator of the platform. -/
def planKeeper : JwtUser := { id := "plan-keeper", role := .superAdmin }

/-- A council with the free plan. -/
def freeCouncil : Store :=
  .unpaid ⟨[{ id := "council", allowedUsers := some 5, allowedProviders := some 2,
              allowedReportsPerMonth := some 50 }], by simp⟩ [] []

/-- The council asks for the starter plan, is given the professional one, takes on eleven providers,
and then has its request approved. -/
def lateApproval : List PlanStep :=
  [{ action := .requestUpgrade "council" { requestedPlan := some "STARTER" } councilAdmin
       "request" },
   { action := .update "council"
       { subscriptionPlan := some .professional, allowedUsers := some 100,
         allowedProviders := some 50, allowedReportsPerMonth := some 5000 } planKeeper },
   { directory :=
       { users := (List.range 11).map fun n =>
           { id := "provider-" ++ n.repr, role := .provider, organizationId := some "council" } }
     action := .reviewUpgradeRequest "request" { action := some "APPROVE" } planKeeper }]

end Example

open Example in
/-- An approval takes a council with eleven providers to a plan for ten. -/
theorem late_approval_undercuts :
    ¬∀ (s : Store) (steps : List PlanStep), Along takePlanStep NotUndercut s steps := by
  intro h
  have hlate := (h freeCouncil lateApproval).2.2.1 "council"
    { id := "council", subscriptionPlan := .professional, allowedUsers := some 100,
      allowedProviders := some 50, allowedReportsPerMonth := some 5000 }
    { id := "council", subscriptionPlan := .starter, billingStatus := .active,
      allowedUsers := some 25, allowedProviders := some 10, allowedReportsPerMonth := some 500 }
    rfl rfl
  have hfits := hlate.plan rfl
  revert hfits
  decide +kernel

end FixZone.OrganizationService
