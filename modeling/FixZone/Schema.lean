import FixZone.Library.JsText

/-!
# Enumerations of the database schema

The enumerated columns of `prisma/schema.prisma` that the modelled services read
and write, and the instants of its `DateTime` columns.
-/

namespace FixZone

/-- A `DateTime`: milliseconds since the epoch. -/
abbrev Millis := ℤ

/-- `UserRole`. -/
inductive UserRole where
  | platformSuperAdmin | platformOwner | executiveSuperAdmin | technicalAdmin | operationsAdmin
  | organizationOnboardingAdmin | providerAdmin | financeBillingAdmin | billingAdmin | legalAdmin
  | assignmentAdmin | assetAdmin | assetIntelligenceAdmin | complianceAdmin | complianceAuditAdmin
  | regulatoryAdmin | securityAdmin | investigationAdmin | releaseOperationsAdmin |
      backupRecoveryAdmin
  | supportAdmin | superAdmin | orgAdmin | dispatchOfficer | provider | pendingProvider | citizen
  deriving DecidableEq, Repr

/-- The role as the database and the requests spell it. -/
def UserRole.text : UserRole → String
  | .platformSuperAdmin => "PLATFORM_SUPER_ADMIN"
  | .platformOwner => "PLATFORM_OWNER"
  | .executiveSuperAdmin => "EXECUTIVE_SUPER_ADMIN"
  | .technicalAdmin => "TECHNICAL_ADMIN"
  | .operationsAdmin => "OPERATIONS_ADMIN"
  | .organizationOnboardingAdmin => "ORGANIZATION_ONBOARDING_ADMIN"
  | .providerAdmin => "PROVIDER_ADMIN"
  | .financeBillingAdmin => "FINANCE_BILLING_ADMIN"
  | .billingAdmin => "BILLING_ADMIN"
  | .legalAdmin => "LEGAL_ADMIN"
  | .assignmentAdmin => "ASSIGNMENT_ADMIN"
  | .assetAdmin => "ASSET_ADMIN"
  | .assetIntelligenceAdmin => "ASSET_INTELLIGENCE_ADMIN"
  | .complianceAdmin => "COMPLIANCE_ADMIN"
  | .complianceAuditAdmin => "COMPLIANCE_AUDIT_ADMIN"
  | .regulatoryAdmin => "REGULATORY_ADMIN"
  | .securityAdmin => "SECURITY_ADMIN"
  | .investigationAdmin => "INVESTIGATION_ADMIN"
  | .releaseOperationsAdmin => "RELEASE_OPERATIONS_ADMIN"
  | .backupRecoveryAdmin => "BACKUP_RECOVERY_ADMIN"
  | .supportAdmin => "SUPPORT_ADMIN"
  | .superAdmin => "SUPER_ADMIN"
  | .orgAdmin => "ORG_ADMIN"
  | .dispatchOfficer => "DISPATCH_OFFICER"
  | .provider => "PROVIDER"
  | .pendingProvider => "PENDING_PROVIDER"
  | .citizen => "CITIZEN"

/-- `Object.values(UserRole)`. -/
def UserRole.all : List UserRole :=
  [.platformSuperAdmin, .platformOwner, .executiveSuperAdmin, .technicalAdmin, .operationsAdmin,
    .organizationOnboardingAdmin, .providerAdmin, .financeBillingAdmin, .billingAdmin, .legalAdmin,
    .assignmentAdmin, .assetAdmin, .assetIntelligenceAdmin, .complianceAdmin, .complianceAuditAdmin,
    .regulatoryAdmin, .securityAdmin, .investigationAdmin, .releaseOperationsAdmin,
    .backupRecoveryAdmin, .supportAdmin, .superAdmin, .orgAdmin, .dispatchOfficer, .provider,
    .pendingProvider, .citizen]

/-- The role with a text. -/
def UserRole.ofText? (text : String) : Option UserRole :=
  UserRole.all.find? fun role => role.text = text

/-- `AccountStatus`. -/
inductive AccountStatus where
  | pendingInvite | pendingApproval | active | suspended | deactivated
  deriving DecidableEq, Repr

/-- `IdentityVerificationStatus`. -/
inductive IdentityVerificationStatus where
  | unverified | phoneVerified | emailVerified | idPending | idVerified | facePending
  | faceVerified | addressPending | addressVerified | businessVerified | enterpriseVerified
  deriving DecidableEq, Repr

/-- `PrivilegedMfaEnrollmentStatus`. -/
inductive PrivilegedMfaEnrollmentStatus where
  | pending | active | disabled
  deriving DecidableEq, Repr

/-- `PrivilegedMfaPreAuthPurpose`. -/
inductive PrivilegedMfaPreAuthPurpose where
  | enrollment | challenge
  deriving DecidableEq, Repr

/-- `InvitationStatus`. -/
inductive InvitationStatus where
  | pending | accepted | declined | cancelled | revoked | expired
  deriving DecidableEq, Repr

/-- `InternalScopeType`. -/
inductive InternalScopeType where
  | platform | module | organization | jurisdiction
  deriving DecidableEq, Repr

/-- The scope type as the database and the requests spell it. -/
def InternalScopeType.text : InternalScopeType → String
  | .platform => "PLATFORM"
  | .module => "MODULE"
  | .organization => "ORGANIZATION"
  | .jurisdiction => "JURISDICTION"

/-- The scope type with a text. -/
def InternalScopeType.ofText? (text : String) : Option InternalScopeType :=
  [.platform, .module, .organization, .jurisdiction].find? fun type =>
    InternalScopeType.text type = text

/-- `InternalRoleAssignmentStatus`. -/
inductive InternalRoleAssignmentStatus where
  | active | inactive | revoked | expired | pendingApproval
  deriving DecidableEq, Repr

/-- `PrivilegedOperationType`. -/
inductive PrivilegedOperationType where
  | platformSuperAdminGrant | roleDefinitionChange | productionRestoreAuthorization
  | enterpriseFeatureEnablement | paymentConfigurationChange | highValueRefundApproval
  deriving DecidableEq, Repr

/-- `AdminScopeType`. -/
inductive AdminScopeType where
  | platform | organization | jurisdiction | module | asset | report
  deriving DecidableEq, Repr

/-- The scope type as the database and the requests spell it. -/
def AdminScopeType.text : AdminScopeType → String
  | .platform => "PLATFORM"
  | .organization => "ORGANIZATION"
  | .jurisdiction => "JURISDICTION"
  | .module => "MODULE"
  | .asset => "ASSET"
  | .report => "REPORT"

/-- The scope type with a text. -/
def AdminScopeType.ofText? (text : String) : Option AdminScopeType :=
  [.platform, .organization, .jurisdiction, .module, .asset, .report].find? fun type =>
    AdminScopeType.text type = text

/-- `DelegatedAuthorityStatus`. -/
inductive DelegatedAuthorityStatus where
  | active | suspended | revoked | expired
  deriving DecidableEq, Repr

/-- `OrganizationStatus`. -/
inductive OrganizationStatus where
  | active | suspended | archived
  deriving DecidableEq, Repr

/-- `BillingStatus`. -/
inductive BillingStatus where
  | trial | active | pastDue | suspended | cancelled
  deriving DecidableEq, Repr

/-- `SubscriptionPlan`. -/
inductive SubscriptionPlan where
  | free | demo | starter | professional | government | enterprise
  deriving DecidableEq, Repr

/-- The plan as the database and the requests spell it. -/
def SubscriptionPlan.text : SubscriptionPlan → String
  | .free => "FREE"
  | .demo => "DEMO"
  | .starter => "STARTER"
  | .professional => "PROFESSIONAL"
  | .government => "GOVERNMENT"
  | .enterprise => "ENTERPRISE"

/-- `PaymentProvider`. -/
inductive PaymentProvider where
  | paystack
  deriving DecidableEq, Repr

/-- `PaymentEnvironment`. -/
inductive PaymentEnvironment where
  | test | live
  deriving DecidableEq, Repr

/-- `PaymentTransactionStatus`. -/
inductive PaymentTransactionStatus where
  | initialized | pending | processing | paid | verified | failed | abandoned | expired | refunded
  | reviewRequired
  deriving DecidableEq, Repr

/-- `OrganizationSubscriptionStatus`. -/
inductive OrganizationSubscriptionStatus where
  | trial | active | pastDue | suspended | cancelled | expired
  deriving DecidableEq, Repr

/-- `PaymentReceiptStatus`. -/
inductive PaymentReceiptStatus where
  | issued | refunded | voided
  deriving DecidableEq, Repr

/-- `UpgradeRequestStatus`. -/
inductive UpgradeRequestStatus where
  | pending | approved | rejected | cancelled | completed
  deriving DecidableEq, Repr

/-- `ReportStatus`. -/
inductive ReportStatus where
  | triage | orgReview | pending | assigned | inProgress | completedByProvider | closed
  deriving DecidableEq, Repr

/-- The status as the API spells it. -/
def ReportStatus.text : ReportStatus → String
  | .triage => "TRIAGE"
  | .orgReview => "ORG_REVIEW"
  | .pending => "PENDING"
  | .assigned => "ASSIGNED"
  | .inProgress => "IN_PROGRESS"
  | .completedByProvider => "COMPLETED_BY_PROVIDER"
  | .closed => "CLOSED"

/-- `CompletionPolicy`. -/
inductive CompletionPolicy where
  | citizenConfirmationRequired | organizationConfirmationRequired | bothRequired
  | citizenOrOrganization | adminResolutionRequired | autoCloseAfterReviewWindow
  deriving DecidableEq, Repr

/-- The policy as the database and the settings spell it. -/
def CompletionPolicy.text : CompletionPolicy → String
  | .citizenConfirmationRequired => "CITIZEN_CONFIRMATION_REQUIRED"
  | .organizationConfirmationRequired => "ORGANIZATION_CONFIRMATION_REQUIRED"
  | .bothRequired => "BOTH_REQUIRED"
  | .citizenOrOrganization => "CITIZEN_OR_ORGANIZATION"
  | .adminResolutionRequired => "ADMIN_RESOLUTION_REQUIRED"
  | .autoCloseAfterReviewWindow => "AUTO_CLOSE_AFTER_REVIEW_WINDOW"

/-- `Object.values(CompletionPolicy)`. -/
def CompletionPolicy.all : List CompletionPolicy :=
  [.citizenConfirmationRequired, .organizationConfirmationRequired, .bothRequired,
    .citizenOrOrganization, .adminResolutionRequired, .autoCloseAfterReviewWindow]

/-- `CompletionDecision`. -/
inductive CompletionDecision where
  | pending | confirmed | verified | reworkRequested | disputed | escalated
  deriving DecidableEq, Repr

/-- The values the code writes into `Report.completionReviewState`. -/
inductive CompletionReviewState where
  | awaitingCitizenReview | awaitingOrganizationVerification | awaitingBoth
  | awaitingAdminResolution | awaitingReviewWindow | disputed | reworkRequested
  | governanceHold | closed
  deriving DecidableEq, Repr

/-- `AssignmentOutcome`. -/
inductive AssignmentOutcome where
  | rejected | timedOut
  deriving DecidableEq, Repr

end FixZone
