import FixZone.Schema

/-!
# The catalogue of internal roles

`internal-role-catalog.ts` and the permission keys of `internal-admin.types.ts`: which
permissions an internal role has, the scope it is given by default, and the enterprise
feature it waits for. The names and descriptions the catalogue shows are left out.
-/

namespace FixZone.InternalAdminService

open Library

/-- `InternalPermissionKey`. -/
inductive InternalPermissionKey where
  | internalAdminRead | internalAdminInvite | internalAdminAssignRole | internalAdminChangeScope
  | internalAdminSuspend | internalAdminRevokeSessions | internalAdminViewAudit
  | organizationReview | organizationManage | providerReview | providerManage | reportOperations
  | supportAccountAssistance | complianceAuditRead | investigationManage | assetIntelligenceManage
  | securitySessionManage | releaseReadinessManage | backupVerify | backupRestoreRequest
  | paymentPlanRead | paymentPlanManage | paymentTransactionRead | paymentReconciliationManage
  | paymentRefundRequest | paymentRefundApprove | paymentConfigurationManage
  deriving DecidableEq, Repr

/-- The key as a text. -/
def InternalPermissionKey.text : InternalPermissionKey → String
  | .internalAdminRead => "internal_admin.read"
  | .internalAdminInvite => "internal_admin.invite"
  | .internalAdminAssignRole => "internal_admin.assign_role"
  | .internalAdminChangeScope => "internal_admin.change_scope"
  | .internalAdminSuspend => "internal_admin.suspend"
  | .internalAdminRevokeSessions => "internal_admin.revoke_sessions"
  | .internalAdminViewAudit => "internal_admin.view_audit"
  | .organizationReview => "organization.review"
  | .organizationManage => "organization.manage"
  | .providerReview => "provider.review"
  | .providerManage => "provider.manage"
  | .reportOperations => "report.operations"
  | .supportAccountAssistance => "support.account_assistance"
  | .complianceAuditRead => "compliance.audit_read"
  | .investigationManage => "investigation.manage"
  | .assetIntelligenceManage => "asset_intelligence.manage"
  | .securitySessionManage => "security.session_manage"
  | .releaseReadinessManage => "release.readiness_manage"
  | .backupVerify => "backup.verify"
  | .backupRestoreRequest => "backup.restore_request"
  | .paymentPlanRead => "payment.plan_read"
  | .paymentPlanManage => "payment.plan_manage"
  | .paymentTransactionRead => "payment.transaction_read"
  | .paymentReconciliationManage => "payment.reconciliation_manage"
  | .paymentRefundRequest => "payment.refund_request"
  | .paymentRefundApprove => "payment.refund_approve"
  | .paymentConfigurationManage => "payment.configuration_manage"

/-- `internalAdminPermissionKeys`. -/
def internalAdminPermissionKeys : List InternalPermissionKey :=
  [.internalAdminRead, .internalAdminInvite, .internalAdminAssignRole, .internalAdminChangeScope,
    .internalAdminSuspend, .internalAdminRevokeSessions, .internalAdminViewAudit,
    .organizationReview, .organizationManage, .providerReview, .providerManage, .reportOperations,
    .supportAccountAssistance, .complianceAuditRead, .investigationManage, .assetIntelligenceManage,
    .securitySessionManage, .releaseReadinessManage, .backupVerify, .backupRestoreRequest,
    .paymentPlanRead, .paymentPlanManage, .paymentTransactionRead, .paymentReconciliationManage,
    .paymentRefundRequest, .paymentRefundApprove, .paymentConfigurationManage]

theorem mem_internalAdminPermissionKeys (p : InternalPermissionKey) :
    p ∈ internalAdminPermissionKeys := by
  cases p <;> decide

/-- The key with a text. -/
def InternalPermissionKey.ofText? (text : String) : Option InternalPermissionKey :=
  internalAdminPermissionKeys.find? fun p => p.text = text

theorem InternalPermissionKey.ofText?_text (p : InternalPermissionKey) :
    InternalPermissionKey.ofText? p.text = some p := by
  cases p <;> decide +kernel

/-- `InternalRoleDefinition`. -/
structure InternalRoleDefinition where
  role : UserRole
  permissions : List InternalPermissionKey
  defaultScopeType : InternalScopeType
  requiresEnterpriseFeature : Option String := none
  highRiskGrant : Bool := false
  version : ℕ := 1

/-- `internalRoleCatalog`. -/
def internalRoleCatalog : List InternalRoleDefinition :=
  [{ role := .platformSuperAdmin, permissions := internalAdminPermissionKeys
     defaultScopeType := .platform, highRiskGrant := true },
   { role := .operationsAdmin, permissions := [.reportOperations, .organizationReview]
     defaultScopeType := .module },
   { role := .organizationOnboardingAdmin, permissions := [.organizationReview, .organizationManage]
     defaultScopeType := .organization },
   { role := .providerAdmin, permissions := [.providerReview, .providerManage]
     defaultScopeType := .organization },
   { role := .financeBillingAdmin
     permissions := [.paymentPlanRead, .paymentTransactionRead, .paymentReconciliationManage,
       .paymentRefundRequest]
     defaultScopeType := .platform },
   { role := .supportAdmin, permissions := [.supportAccountAssistance, .internalAdminRead]
     defaultScopeType := .platform },
   { role := .complianceAuditAdmin, permissions := [.complianceAuditRead, .internalAdminViewAudit]
     defaultScopeType := .platform },
   { role := .securityAdmin
     permissions := [.securitySessionManage, .internalAdminRevokeSessions, .internalAdminViewAudit]
     defaultScopeType := .platform },
   { role := .investigationAdmin, permissions := [.investigationManage]
     defaultScopeType := .module, requiresEnterpriseFeature := some "investigation" },
   { role := .assetIntelligenceAdmin, permissions := [.assetIntelligenceManage]
     defaultScopeType := .module, requiresEnterpriseFeature := some "asset_intelligence" },
   { role := .releaseOperationsAdmin, permissions := [.releaseReadinessManage, .backupVerify]
     defaultScopeType := .platform },
   { role := .backupRecoveryAdmin, permissions := [.backupVerify, .backupRestoreRequest]
     defaultScopeType := .platform }]

/-- The environment variables of the process. -/
abbrev ProcessEnv := String → Option String

/-- `enterpriseFlagEnabled`. -/
def enterpriseFlagEnabled (value : Option String) : Bool :=
  value.any fun text => toLowerCase (trim text) = "true"

/-- The variable that enables an enterprise feature. -/
def featureEnvName (feature : String) : String :=
  "SECUREZONE_" ++ String.ofList (collapse
    (fun c => ('A' ≤ c && c ≤ 'Z') || ('0' ≤ c && c ≤ '9')) '_' false
    (toUpperCase feature).toList) ++ "_ENABLED"

/-- `roleDefinitionEnabled`. -/
def roleDefinitionEnabled (env : ProcessEnv) (definition : InternalRoleDefinition) : Bool :=
  match definition.requiresEnterpriseFeature with
  | none | some "" => true
  | some feature =>
    enterpriseFlagEnabled (env "SECUREZONE_ENTERPRISE_FOUNDATIONS_ENABLED") &&
      enterpriseFlagEnabled (env (featureEnvName feature))

/-- `resolveInternalRoleDefinition`. -/
def resolveInternalRoleDefinition (role : UserRole) : Option InternalRoleDefinition :=
  internalRoleCatalog.find? fun definition => definition.role = role

/-- `permissionsForRole`. -/
def permissionsForRole (env : ProcessEnv) (role : UserRole) : List InternalPermissionKey :=
  if role = .superAdmin then internalAdminPermissionKeys
  else
    match resolveInternalRoleDefinition role with
    | some definition => if roleDefinitionEnabled env definition then definition.permissions else []
    | none => []

/-! ### What the catalogue says -/

variable {env : ProcessEnv} {role : UserRole} {definition : InternalRoleDefinition}

theorem resolveInternalRoleDefinition_role
    (h : resolveInternalRoleDefinition role = some definition) :
    definition.role = role := by
  have := List.find?_some h
  simpa using this

theorem mem_of_resolveInternalRoleDefinition
    (h : resolveInternalRoleDefinition role = some definition) :
    definition ∈ internalRoleCatalog :=
  List.mem_of_find?_eq_some h

/-- No role of the catalogue is without permissions. -/
theorem permissions_ne_nil (h : definition ∈ internalRoleCatalog) :
    definition.permissions ≠ [] := by
  have hall : ∀ d ∈ internalRoleCatalog, d.permissions ≠ [] := by decide
  exact hall definition h

/-- The two roles that may grant anything have every permission. -/
theorem permissionsForRole_superAdmin (env : ProcessEnv) :
    permissionsForRole env .superAdmin = internalAdminPermissionKeys := rfl

theorem permissionsForRole_platformSuperAdmin (env : ProcessEnv) :
    permissionsForRole env .platformSuperAdmin = internalAdminPermissionKeys := rfl

/-- An enabled role has the permissions of its definition. -/
theorem permissionsForRole_of_enabled (h : resolveInternalRoleDefinition role = some definition)
    (henabled : roleDefinitionEnabled env definition = true) :
    permissionsForRole env role = definition.permissions := by
  have hrole := resolveInternalRoleDefinition_role h
  have hne : role ≠ .superAdmin := by
    rintro rfl
    have hnone : resolveInternalRoleDefinition .superAdmin = none := rfl
    rw [hnone] at h
    cases h
  unfold permissionsForRole
  rw [if_neg hne, h]
  exact if_pos henabled

end FixZone.InternalAdminService
