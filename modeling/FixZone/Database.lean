import FixZone.Library.Relational

/-!
# Tables and foreign keys of the database

The models of `prisma/schema.prisma` and its relations, with what the deletion of a row does to
the rows that refer to it: the `onDelete` of the relation, and where it has none, `SetNull` for an
optional relation and `Restrict` for a required one.
-/

namespace FixZone

open Library.Relational

namespace Database

/-- The models. -/
inductive Model where
  | organization | user | passwordResetToken | privilegedMfaEnrollment | privilegedMfaBackupCode
  | privilegedMfaPreAuthSession | kycSubmission | loginHistory | evidenceRecord | disputeCase
  | disputeMessage | userEntitlement | complianceAuditLog | permission | rolePermission | adminScope
  | delegatedAuthority | internalRoleAssignment | privilegedApprovalRequest | regulatoryCase
  | regulatoryExport | evidencePackage | disputeTimeline | disputeEvidence | disputeDecision
  | evidenceAudit | evidenceAccessLog | invitation | providerOrganization
  | organizationUpgradeRequest | paymentTransaction | organizationSubscription | paymentReceipt
  | jurisdictionZone | assetCluster | potentialAsset | assetCandidateOwner | ownershipRecommendation
  | assetClaim | assetOwnershipHistory | report | reportMessage | reportActivity |
      publicSuccessStory
  | notification | demoAuditLog | platformSetting | platformBackup
  deriving DecidableEq, Repr

/-- The columns that hold the id of another row. -/
inductive Reference where
  | parentId | organizationId | userId | enrollmentId | reviewedById | ownerUserId | uploadedById
  | openedById | againstUserId | closedById | disputeId | authorId | actorId | permissionId
  | assignedById | revokedById | requesterId | approverId | invitedById |
      acceptedUserId | providerId
  | requestingUserId | sourceTransactionId | transactionId | assignedOrganizationId | citizenId
  | assignedProviderId | reportId
  deriving DecidableEq, Repr

/-- The relations, model by model. -/
def relations : List (ForeignKey Model Reference) :=
  [⟨.organization, .parentId, .organization, .setNull⟩,
    ⟨.user, .organizationId, .organization, .setNull⟩,
    ⟨.passwordResetToken, .userId, .user, .cascade⟩,
    ⟨.privilegedMfaEnrollment, .userId, .user, .cascade⟩,
    ⟨.privilegedMfaBackupCode, .enrollmentId, .privilegedMfaEnrollment, .cascade⟩,
    ⟨.privilegedMfaPreAuthSession, .userId, .user, .cascade⟩,
    ⟨.kycSubmission, .userId, .user, .cascade⟩,
    ⟨.kycSubmission, .reviewedById, .user, .setNull⟩,
    ⟨.loginHistory, .userId, .user, .setNull⟩,
    ⟨.evidenceRecord, .ownerUserId, .user, .setNull⟩,
    ⟨.evidenceRecord, .uploadedById, .user, .setNull⟩,
    ⟨.evidenceRecord, .organizationId, .organization, .setNull⟩,
    ⟨.disputeCase, .openedById, .user, .restrict⟩,
    ⟨.disputeCase, .againstUserId, .user, .setNull⟩,
    ⟨.disputeCase, .organizationId, .organization, .setNull⟩,
    ⟨.disputeCase, .closedById, .user, .setNull⟩,
    ⟨.disputeMessage, .disputeId, .disputeCase, .cascade⟩,
    ⟨.disputeMessage, .authorId, .user, .restrict⟩,
    ⟨.userEntitlement, .userId, .user, .cascade⟩,
    ⟨.complianceAuditLog, .actorId, .user, .setNull⟩,
    ⟨.complianceAuditLog, .organizationId, .organization, .setNull⟩,
    ⟨.rolePermission, .permissionId, .permission, .cascade⟩,
    ⟨.internalRoleAssignment, .userId, .user, .cascade⟩,
    ⟨.internalRoleAssignment, .assignedById, .user, .restrict⟩,
    ⟨.internalRoleAssignment, .revokedById, .user, .setNull⟩,
    ⟨.privilegedApprovalRequest, .requesterId, .user, .restrict⟩,
    ⟨.privilegedApprovalRequest, .approverId, .user, .setNull⟩,
    ⟨.invitation, .organizationId, .organization, .setNull⟩,
    ⟨.invitation, .invitedById, .user, .restrict⟩,
    ⟨.invitation, .acceptedUserId, .user, .setNull⟩,
    ⟨.providerOrganization, .providerId, .user, .cascade⟩,
    ⟨.providerOrganization, .organizationId, .organization, .cascade⟩,
    ⟨.organizationUpgradeRequest, .organizationId, .organization, .cascade⟩,
    ⟨.paymentTransaction, .organizationId, .organization, .cascade⟩,
    ⟨.paymentTransaction, .requestingUserId, .user, .setNull⟩,
    ⟨.organizationSubscription, .organizationId, .organization, .cascade⟩,
    ⟨.organizationSubscription, .sourceTransactionId, .paymentTransaction, .setNull⟩,
    ⟨.paymentReceipt, .transactionId, .paymentTransaction, .cascade⟩,
    ⟨.paymentReceipt, .organizationId, .organization, .cascade⟩,
    ⟨.report, .organizationId, .organization, .restrict⟩,
    ⟨.report, .assignedOrganizationId, .organization, .setNull⟩,
    ⟨.report, .citizenId, .user, .restrict⟩,
    ⟨.report, .assignedProviderId, .user, .setNull⟩,
    ⟨.reportMessage, .reportId, .report, .cascade⟩,
    ⟨.reportMessage, .authorId, .user, .cascade⟩,
    ⟨.reportActivity, .reportId, .report, .cascade⟩,
    ⟨.notification, .userId, .user, .cascade⟩,
    ⟨.notification, .reportId, .report, .setNull⟩]

/-- How many cascades a model is away from one that nothing takes along. -/
def cascadeRank : Model → ℕ
  | .privilegedMfaBackupCode | .paymentReceipt => 2
  | .passwordResetToken | .privilegedMfaEnrollment | .privilegedMfaPreAuthSession | .kycSubmission
  | .disputeMessage | .userEntitlement | .rolePermission | .internalRoleAssignment
  | .providerOrganization | .organizationUpgradeRequest | .paymentTransaction
  | .organizationSubscription | .reportMessage | .reportActivity | .notification => 1
  | _ => 0

/-- The foreign keys of the database. -/
def schema : Schema Model Reference where
  foreignKeys := relations
  rank := cascadeRank
  depth := 2
  rank_le t := by cases t <;> decide
  rank_lt := by decide

/-! ### How far a deletion reaches -/

variable {δ : Model → Type} {meets : ForeignKey Model Reference → String → Bool}
  {s s' : Store String Reference δ}

/-- A model all of whose references are to models that nothing takes along. -/
def Shallow (t : Model) : Prop := ∀ fk ∈ relations, fk.table = t → ∀ fk' ∈ relations,
  fk'.table = fk.target → fk'.onDelete ≠ .cascade

instance (t : Model) : Decidable (Shallow t) :=
  inferInstanceAs (Decidable (∀ fk ∈ relations, fk.table = t → ∀ fk' ∈ relations,
    fk'.table = fk.target → fk'.onDelete ≠ .cascade))

/-- The deletion of rows of `t₀` reaches the models `reached` at most, and `t` is none of them. -/
def Frames (reached : List Model) (t₀ t : Model) : Prop :=
  t₀ ∈ reached ∧ t ∉ reached ∧
    (∀ fk ∈ relations, fk.onDelete = .cascade → fk.target ∈ reached → fk.table ∈ reached) ∧
    ∀ fk ∈ relations, fk.table = t → fk.onDelete = .setNull → fk.target ∉ reached

instance (reached : List Model) (t₀ t : Model) : Decidable (Frames reached t₀ t) :=
  inferInstanceAs (Decidable (_ ∧ _ ∧ _ ∧ _))

theorem Frames.untouched {reached : List Model} {t₀ t : Model} (hframes : Frames reached t₀ t)
    {p : Row String Reference (δ t₀) → Bool}
    (hdelete : schema.deleteMany meets t₀ p s = some s') : s' t = s t := by
  obtain ⟨hstart, ht, hclosed, hnull⟩ := hframes
  refine Schema.deleteMany_untouched hdelete (A := fun t => decide (t ∈ reached))
    (decide_eq_true hstart) (fun fk hfk hrule htarget => ?_) (decide_eq_false ht)
    fun fk hfk htable hrule => decide_eq_false (hnull fk hfk htable hrule)
  exact decide_eq_true (hclosed fk hfk hrule (of_decide_eq_true htarget))

/-- A deletion that reaches no model with a reference that restricts cannot fail. -/
theorem exists_deletion (meets : ForeignKey Model Reference → String → Bool)
    (reached : List Model) {t₀ : Model} (hreached : t₀ ∈ reached ∧
      (∀ fk ∈ relations, fk.onDelete = .cascade → fk.target ∈ reached → fk.table ∈ reached) ∧
      ∀ fk ∈ relations, fk.onDelete = .restrict → fk.target ∉ reached)
    (p : Row String Reference (δ t₀) → Bool) (s : Store String Reference δ) :
    ∃ s', schema.deleteMany meets t₀ p s = some s' := by
  obtain ⟨hstart, hclosed, hrestrict⟩ := hreached
  refine Schema.exists_deleteMany meets p s (A := fun t => decide (t ∈ reached))
    (decide_eq_true hstart) (fun fk hfk hrule htarget => ?_)
    fun fk hfk hrule => decide_eq_false (hrestrict fk hfk hrule)
  exact decide_eq_true (hclosed fk hfk hrule (of_decide_eq_true htarget))

end Database

end FixZone
