import FixZone.Report.Model
import FixZone.Library.Stateful

/-!
# The trust service

What `TrustService` keeps of identities, entitlements and settings, and the checks its
other calls begin with. `ensureIdentity` and `ensureEntitlement` write what they find
missing, so a check writes too, and what it wrote stays when the call throws later.

The compliance audit log and the notifications, which none of these calls reads, are
left out.
-/

namespace FixZone.TrustService

open Library ReportService

/-! ### Columns -/

/-- `IdentityType`. -/
inductive IdentityType where
  | individual | providerIndividual | business | organizationRepresentative
  | governmentRepresentative
  deriving DecidableEq, Repr

/-- `PlatformEntitlementPlan`, in the order of `planRank`. -/
inductive PlatformEntitlementPlan where
  | free | verified | personalPlus | professional | business | enterprise | government
  deriving DecidableEq, Repr

/-- `KycSubmissionType`. -/
inductive KycSubmissionType where
  | governmentId | faceSelfie | addressProof | businessDocument | professionalLicense
  deriving DecidableEq, Repr

/-- `KycSubmissionStatus`. -/
inductive KycSubmissionStatus where
  | draft | submitted | underReview | approved | rejected | expired
  deriving DecidableEq, Repr

/-- `DisputeStatus`. -/
inductive DisputeStatus where
  | open | underReview | awaitingClientResponse | awaitingProviderResponse | resolved | rejected
  | escalated | closed
  deriving DecidableEq, Repr

/-- `DisputePriority`. -/
inductive DisputePriority where
  | low | medium | high | urgent
  deriving DecidableEq, Repr

namespace PlatformEntitlementPlan

/-- The plan as the database and the settings spell it. -/
def text : PlatformEntitlementPlan → String
  | free => "FREE"
  | verified => "VERIFIED"
  | personalPlus => "PERSONAL_PLUS"
  | professional => "PROFESSIONAL"
  | business => "BUSINESS"
  | enterprise => "ENTERPRISE"
  | government => "GOVERNMENT"

/-- `Object.values(PlatformEntitlementPlan)`. -/
def all : List PlatformEntitlementPlan :=
  [free, verified, personalPlus, professional, business, enterprise, government]

end PlatformEntitlementPlan

/-- `planRank`. -/
def planRank (plan : PlatformEntitlementPlan) : ℕ :=
  [.free, .verified, .personalPlus, .professional, .business, .enterprise,
    PlatformEntitlementPlan.government].idxOf plan

/-- `parsePlan`. -/
def parsePlan (value : String) : PlatformEntitlementPlan :=
  let normalized := toUpperCase (trim value)
  (PlatformEntitlementPlan.all.find? fun plan => plan.text = normalized).getD .free

/-! ### Rows -/

/-- What the trust service reads and writes of a `User` row. -/
structure Identity where
  id : String
  secureZoneId : Option String := none
  fullName : String := ""
  role : UserRole := .citizen
  accountStatus : AccountStatus := .active
  organizationId : Option String := none
  identityType : IdentityType := .individual
  identityVerificationStatus : IdentityVerificationStatus := .unverified
  identityVerificationLevel : ℤ := 0
  trustScore : ℤ := 0
  idVerifiedAt : Option Millis := none
  faceVerifiedAt : Option Millis := none
  addressVerifiedAt : Option Millis := none
  businessVerifiedAt : Option Millis := none

/-- `UserEntitlement`. -/
structure UserEntitlement where
  userId : String
  plan : PlatformEntitlementPlan := .free
  canAccessServiceModule : Bool := true
  canOpenDispute : Bool := true
  requiredVerificationLevel : ℤ := 0

/-- `PlatformSetting`. -/
structure PlatformSetting where
  key : String
  value : Json

/-- `KycSubmission`. -/
structure KycSubmission where
  id : String
  userId : String
  submissionType : KycSubmissionType
  status : KycSubmissionStatus := .submitted
  submittedAt : Millis
  reviewedAt : Option Millis := none
  reviewedById : Option String := none
  rejectionReason : Option String := none
  documentUrl : Option String := none
  evidenceFileRef : Option String := none
  metadata : Json

/-- `DisputeCase`. -/
structure DisputeCase where
  id : String
  caseNumber : String
  openedById : String
  againstUserId : Option String := none
  organizationId : Option String := none
  relatedEntityType : String
  relatedEntityId : String
  title : String
  description : String
  status : DisputeStatus := .open
  priority : DisputePriority := .medium
  assignedAdminId : Option String := none
  resolutionSummary : Option String := none
  closedById : Option String := none
  createdAt : Millis
  escalatedAt : Option Millis := none
  closedAt : Option Millis := none

/-- `DisputeMessage`. -/
structure DisputeMessage where
  disputeId : String
  authorId : String
  message : String
  metadata : Json

/-- What the trust service stores. -/
structure TrustStore where
  users : Table Identity.id
  entitlements : Table UserEntitlement.userId
  settings : Table PlatformSetting.key
  kycSubmissions : Table KycSubmission.id
  disputes : Table DisputeCase.id
  disputeMessages : List DisputeMessage

/-- `TrustUser`: the user of a request. -/
abbrev TrustUser := JwtUser

/-- What a call finds outside the database: the clock, with its year, and the id that the database
gives the row it creates. -/
structure Surroundings where
  now : Millis
  year : ℕ
  newId : String

/-- A call of the service. -/
abbrev TrustCall := EStateM HttpError TrustStore

/-- The database turns a write down. -/
def constraintError : HttpError := { kind := .uniqueConstraint, message := "Constraint failed" }

/-! ### Roles -/

/-- `isAdminRole`. -/
def isAdminRole (role : UserRole) : Bool :=
  role = .superAdmin || role = .orgAdmin || role = .dispatchOfficer

/-- `canAdminAccessOrganization`, for a column that may be null. -/
def canAdminAccess (user : TrustUser) (organizationId : Option String) : Bool :=
  if user.role = .superAdmin then true
  else if !(user.role = .orgAdmin || user.role = .dispatchOfficer) then false
  else truthy user.organizationId && organizationId = user.organizationId

/-- `assertCanAccessUser`. -/
def assertCanAccessUser (user : TrustUser) (target : Identity) : Except HttpError PUnit :=
  throwIf (¬(user.role = .superAdmin ∨
      (truthy user.organizationId ∧ target.organizationId = user.organizationId)))
    (forbidden "User is outside your organization scope")

/-- `identityTypeForRole`. -/
def identityTypeForRole (role : UserRole) : IdentityType :=
  if role = .provider ∨ role = .pendingProvider then .providerIndividual
  else if role = .orgAdmin ∨ role = .dispatchOfficer then .organizationRepresentative
  else if role = .superAdmin then .governmentRepresentative
  else .individual

/-! ### Identities and entitlements -/

/-- The users whose id of the SecureZone starts with a text. -/
def countSecureZoneIds (s : TrustStore) (start : String) : ℕ :=
  s.users.rows.countP fun user => user.secureZoneId.any fun id => start.toList.isPrefixOf id.toList

/-- Whether a user has an id of the SecureZone. -/
def hasSecureZoneId (s : TrustStore) (id : String) : Bool :=
  s.users.rows.any fun user => user.secureZoneId = some id

/-- `nextSecureZoneId`. -/
def nextSecureZoneId (around : Surroundings) (s : TrustStore) : String :=
  let start := "SZ-" ++ toString around.year ++ "-"
  let candidate (attempt : ℕ) := start ++ padded 6 (countSecureZoneIds s start + 1 + attempt)
  match ((List.range 5).map candidate).find? fun id => !hasSecureZoneId s id with
  | some id => id
  | none =>
    let digits := (toString around.now).toList
    start ++ String.ofList (digits.drop (digits.length - 6))

/-- `ensureIdentity`. -/
def ensureIdentity (around : Surroundings) (userId : String) : TrustCall Identity := do
  let s ← get
  let user ← ofExcept (orThrow (s.users.find? userId) (notFound "User not found"))
  if truthy user.secureZoneId then return user
  let secureZoneId := nextSecureZoneId around s
  ofExcept (throwIf (hasSecureZoneId s secureZoneId) constraintError)
  let data : Patch Identity.id :=
    { apply := fun user => { user with
        secureZoneId := some secureZoneId, identityType := identityTypeForRole user.role } }
  set { s with users := s.users.modify userId data }
  return data.apply user

/-- `ensureEntitlement`. -/
def ensureEntitlement (userId : String) : TrustCall UserEntitlement := do
  let s ← get
  match s.entitlements.find? userId with
  | some existing => return existing
  | none =>
    let created : UserEntitlement := { userId, plan := .free }
    set { s with entitlements := s.entitlements.insert created }
    return created

/-! ### Enforcement -/

/-- `TrustEnforcementSettings`. -/
structure TrustEnforcementSettings where
  requireVerifiedIdentityForDisputes : Bool
  requireVerifiedIdentityForProviderJobAcceptance : Bool
  requireVerifiedIdentityForEvidenceUpload : Bool
  requireEntitlementPlanForPriorityWorkflows : Bool
  requiredPriorityPlan : PlatformEntitlementPlan

/-- What `assertEnforcementAllows` is asked about. -/
inductive EnforcedAction where
  | openDispute | evidenceUpload | providerJobAcceptance
  deriving DecidableEq, Repr

/-- `enforcementSettingKey`. -/
def enforcementSettingKey (organizationId : Option String) : String :=
  "trust_enforcement:" ++ organizationId.getD "global"

/-- `value.name === true`. -/
def isTrue (value : Json) (name : String) : Bool :=
  match value.field? name with
  | some (.bool true) => true
  | _ => false

/-- `readEnforcementSettings`. A value that cannot be turned into a text throws. -/
def readEnforcementSettings (s : TrustStore) (organizationId : Option String) :
    Except HttpError TrustEnforcementSettings := do
  let value := match (s.settings.find? (enforcementSettingKey organizationId)).map (·.value) with
    | some (.obj fields) => Json.obj fields
    | _ => Json.obj []
  let requiredPriorityPlan ← match value.field? "requiredPriorityPlan" with
    | none | some .null => .ok PlatformEntitlementPlan.free.text
    | some plan => orThrow plan.toText typeError
  return {
    requireVerifiedIdentityForDisputes := isTrue value "requireVerifiedIdentityForDisputes"
    requireVerifiedIdentityForProviderJobAcceptance :=
      isTrue value "requireVerifiedIdentityForProviderJobAcceptance"
    requireVerifiedIdentityForEvidenceUpload :=
      isTrue value "requireVerifiedIdentityForEvidenceUpload"
    requireEntitlementPlanForPriorityWorkflows :=
      isTrue value "requireEntitlementPlanForPriorityWorkflows"
    requiredPriorityPlan := parsePlan requiredPriorityPlan }

/-- `EntitlementRequirements`. -/
structure EntitlementRequirements where
  requiredVerificationLevel : Option ℤ := none
  requiredPlan : Option PlatformEntitlementPlan := none
  organizationId : Option String := none

/-- `checkAccessRequirements`: the field `allowed`. -/
def checkAccessRequirements (around : Surroundings) (user : TrustUser)
    (requirements : EntitlementRequirements) : TrustCall Bool := do
  let identity ← ensureIdentity around user.id
  let entitlement ← ensureEntitlement user.id
  let requiredVerificationLevel :=
    requirements.requiredVerificationLevel.getD entitlement.requiredVerificationLevel
  let organizationAllowed := !truthy requirements.organizationId || user.role = .superAdmin ||
    user.organizationId = requirements.organizationId
  let verificationAllowed :=
    decide (requiredVerificationLevel ≤ identity.identityVerificationLevel)
  let planAllowed := requirements.requiredPlan.all fun plan =>
    decide (planRank plan ≤ planRank entitlement.plan)
  return entitlement.canAccessServiceModule && organizationAllowed && verificationAllowed &&
    planAllowed

/-- `assertEnforcementAllows`. -/
def assertEnforcementAllows (around : Surroundings) (user : TrustUser) (action : EnforcedAction) :
    TrustCall PUnit := do
  let settings ← ofExcept (readEnforcementSettings (← get) user.organizationId)
  let requiresVerified := match action with
    | .openDispute => settings.requireVerifiedIdentityForDisputes
    | .evidenceUpload => settings.requireVerifiedIdentityForEvidenceUpload
    | .providerJobAcceptance => settings.requireVerifiedIdentityForProviderJobAcceptance
  let allowed ← checkAccessRequirements around user
    { requiredVerificationLevel := some (if requiresVerified then 1 else 0)
      requiredPlan :=
        if settings.requireEntitlementPlanForPriorityWorkflows then
          some settings.requiredPriorityPlan
        else none
      organizationId := user.organizationId }
  ofExcept (throwIf (!allowed) (forbidden
    "SecureZone Trust policy requires additional verification or entitlement before this action can continue."))

/-! ### What these calls leave -/

/-- The tables apart from the users and the entitlements are as they were. -/
structure SameCases (s s' : TrustStore) : Prop where
  settings : s'.settings = s.settings
  kycSubmissions : s'.kycSubmissions = s.kycSubmissions
  disputes : s'.disputes = s.disputes
  disputeMessages : s'.disputeMessages = s.disputeMessages

theorem SameCases.refl (s : TrustStore) : SameCases s s := ⟨rfl, rfl, rfl, rfl⟩

theorem SameCases.trans (s s' s'' : TrustStore) (h : SameCases s s') (h' : SameCases s' s'') :
    SameCases s s'' where
  settings := h'.settings.trans h.settings
  kycSubmissions := h'.kycSubmissions.trans h.kycSubmissions
  disputes := h'.disputes.trans h.disputes
  disputeMessages := h'.disputeMessages.trans h.disputeMessages

theorem ensureIdentity_leaves (around : Surroundings) (userId : String) :
    Leaves SameCases (ensureIdentity around userId) := by
  intro s
  unfold ensureIdentity
  rw [after_bind, show (get : TrustCall TrustStore) s = .ok s s from rfl]
  dsimp only
  rw [after_bind]
  cases hrow : s.users.find? userId with
  | none => exact SameCases.refl s
  | some user =>
    rw [orThrow_some, ofExcept_ok_run]
    dsimp only
    split
    · exact SameCases.refl s
    · by_cases htaken : hasSecureZoneId s (nextSecureZoneId around s)
      · rw [throwIf, if_pos htaken]
        exact SameCases.refl s
      · rw [throwIf, if_neg htaken]
        exact ⟨rfl, rfl, rfl, rfl⟩

theorem ensureEntitlement_leaves (userId : String) :
    Leaves SameCases (ensureEntitlement userId) := by
  intro s
  unfold ensureEntitlement
  rw [after_bind, show (get : TrustCall TrustStore) s = .ok s s from rfl]
  dsimp only
  split
  · exact SameCases.refl s
  · exact ⟨rfl, rfl, rfl, rfl⟩

theorem checkAccessRequirements_leaves (around : Surroundings) (user : TrustUser)
    (requirements : EntitlementRequirements) :
    Leaves SameCases (checkAccessRequirements around user requirements) :=
  (ensureIdentity_leaves around user.id).bind SameCases.trans fun _ =>
    (ensureEntitlement_leaves user.id).bind SameCases.trans fun _ => leaves_pure SameCases.refl _

theorem assertEnforcementAllows_leaves (around : Surroundings) (user : TrustUser)
    (action : EnforcedAction) : Leaves SameCases (assertEnforcementAllows around user action) := by
  refine Leaves.bind SameCases.trans SameCases.refl fun _ => ?_
  refine (leaves_ofExcept SameCases.refl _).bind SameCases.trans fun settings => ?_
  exact (checkAccessRequirements_leaves around user _).bind SameCases.trans
    fun _ => leaves_ofExcept SameCases.refl _

end FixZone.TrustService
