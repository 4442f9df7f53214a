import FixZone.Trust.Service
import FixZone.Library.Run
import Mathlib.Data.List.MinMax

/-!
# Verification of identities

`submitKyc` and `reviewKyc`. An approval sets the status of the submission's type, raises the
level to that of the type and adds ten to the score; a review looks neither at who made the
submission nor at the reviews before. So a run keeps what the review is for exactly when its
reviewers do (`kyc_sound_iff`).
-/

namespace FixZone.TrustService

open Library ReportService

/-! ### The calls -/

/-- `SubmitKycDto`. -/
structure SubmitKycDto where
  submissionType : KycSubmissionType
  documentUrl : Option String := none
  evidenceFileRef : Option String := none
  metadata : Option Json := none

/-- `ReviewKycDto`. -/
structure ReviewKycDto where
  status : KycSubmissionStatus
  rejectionReason : Option String := none

/-- `RolesGuard.canActivate`. -/
def canActivate (roles : List UserRole) (user : TrustUser) : Except HttpError PUnit :=
  throwIf (!roles.contains user.role)
    (forbidden ("Access denied. Required role(s): " ++ ", ".intercalate (roles.map (·.text))))

/-- The row that `submitKyc` creates. -/
def newSubmission (around : Surroundings) (user : TrustUser) (dto : SubmitKycDto) :
    KycSubmission where
  id := around.newId
  userId := user.id
  submissionType := dto.submissionType
  status := .submitted
  submittedAt := around.now
  documentUrl := trimmedOrNull dto.documentUrl
  evidenceFileRef := trimmedOrNull dto.evidenceFileRef
  metadata := dto.metadata.getD (.obj [])

/-- `submitKyc`. -/
def submitKyc (around : Surroundings) (user : TrustUser) (dto : SubmitKycDto) :
    TrustCall KycSubmission := do
  let _ ← ensureIdentity around user.id
  let s ← get
  let submission := newSubmission around user dto
  ofExcept (throwIf (s.kycSubmissions.find? submission.id).isSome constraintError)
  set { s with kycSubmissions := s.kycSubmissions.insert submission }
  return submission

/-- The status that the approval of a submission gives its user. -/
def KycSubmissionType.status : KycSubmissionType → IdentityVerificationStatus
  | .governmentId => .idVerified
  | .faceSelfie => .faceVerified
  | .addressProof => .addressVerified
  | .businessDocument | .professionalLicense => .businessVerified

/-- The level that the approval of a submission gives its user at least. -/
def KycSubmissionType.level : KycSubmissionType → ℤ
  | .governmentId => 3
  | .faceSelfie => 4
  | .addressProof => 5
  | .businessDocument | .professionalLicense => 6

/-- `applyVerificationFromKyc`. -/
def applyVerificationFromKyc (around : Surroundings) (submissionType : KycSubmissionType) :
    Patch Identity.id where
  apply user := { user with
    trustScore := min (user.trustScore + 10) 100
    identityVerificationStatus := submissionType.status
    identityVerificationLevel := max user.identityVerificationLevel submissionType.level
    idVerifiedAt := if submissionType = .governmentId then some around.now else user.idVerifiedAt
    faceVerifiedAt := if submissionType = .faceSelfie then some around.now else user.faceVerifiedAt
    addressVerifiedAt :=
      if submissionType = .addressProof then some around.now else user.addressVerifiedAt
    businessVerifiedAt :=
      if submissionType = .businessDocument ∨ submissionType = .professionalLicense then
        some around.now
      else user.businessVerifiedAt }

/-- The submission of a review, with its user. -/
def findSubmission (user : TrustUser) (id : String) (s : TrustStore) :
    Except HttpError (KycSubmission × Identity) := do
  let submission ← orThrow (s.kycSubmissions.find? id) (notFound "KYC submission not found")
  let owner ← orThrow (s.users.find? submission.userId) typeError
  assertCanAccessUser user owner
  return (submission, owner)

/-- What `reviewKyc` writes of the submission. -/
def reviewData (around : Surroundings) (user : TrustUser) (dto : ReviewKycDto) :
    Patch KycSubmission.id where
  apply submission := { submission with
    status := dto.status
    reviewedAt := some around.now
    reviewedById := some user.id
    rejectionReason :=
      if dto.status = .rejected then
        some ((trimmedOrNull dto.rejectionReason).getD "Rejected during review")
      else none }

/-- `reviewKyc`. Its writes are one transaction. -/
def reviewKyc (around : Surroundings) (user : TrustUser) (id : String) (dto : ReviewKycDto) :
    TrustCall KycSubmission := do
  let s ← get
  let (submission, owner) ← ofExcept (findSubmission user id s)
  set { s with
    kycSubmissions := s.kycSubmissions.modify id (reviewData around user dto)
    users :=
      if dto.status = KycSubmissionStatus.approved then
        s.users.modify owner.id (applyVerificationFromKyc around submission.submissionType)
      else s.users }
  return (reviewData around user dto).apply submission

/-! ### Runs -/

/-- A call of the two. -/
inductive KycRequest where
  | submitKyc (dto : SubmitKycDto)
  | reviewKyc (id : String) (dto : ReviewKycDto)

/-- A request of a user. -/
structure KycEvent where
  around : Surroundings
  user : TrustUser
  request : KycRequest

/-- The endpoint of the request, with the roles it is open to. -/
def KycEvent.call (event : KycEvent) : TrustCall KycSubmission :=
  match event.request with
  | .submitKyc dto => do
    ofExcept (canActivate [.citizen, .provider, .orgAdmin, .dispatchOfficer, .superAdmin]
      event.user)
    submitKyc event.around event.user dto
  | .reviewKyc id dto => do
    ofExcept (canActivate [.superAdmin, .orgAdmin] event.user)
    reviewKyc event.around event.user id dto

/-- An approval: the submission with its user and its type, who approved it, and whether the score
of the user rose. -/
structure Approval where
  submissionId : String
  userId : String
  submissionType : KycSubmissionType
  reviewedById : String
  raised : Bool

/-- The approval that an event makes. -/
def KycEvent.approval? (event : KycEvent) (s : TrustStore) : Option Approval :=
  match event.request with
  | .submitKyc _ => none
  | .reviewKyc id dto =>
    if [.superAdmin, UserRole.orgAdmin].contains event.user.role ∧ dto.status = .approved then
      match findSubmission event.user id s with
      | .error _ => none
      | .ok (submission, owner) => some
        { submissionId := id
          userId := owner.id
          submissionType := submission.submissionType
          reviewedById := event.user.id
          raised := decide (owner.trustScore <
            ((applyVerificationFromKyc event.around submission.submissionType).apply
              owner).trustScore) }
    else none

/-- A state of a run, with the approvals made so far. -/
structure KycState where
  store : TrustStore
  approvals : List Approval

/-- One step of a run. -/
def kycStep (event : KycEvent) (st : KycState) : KycState where
  store := after event.call st.store
  approvals := st.approvals ++ (event.approval? st.store).toList

variable {around : Surroundings} {user : TrustUser} {event : KycEvent} {s : TrustStore}
  {st : KycState} {id : String} {submission : KycSubmission} {owner : Identity}

/-! ### What a step does -/

/-- What a verification changes of a user. -/
def Identity.standing (user : Identity) : IdentityVerificationStatus × ℤ × ℤ :=
  (user.identityVerificationStatus, user.identityVerificationLevel, user.trustScore)

/-- The submissions of `s` are submissions of `s'`, by the same users and of the same types. -/
def KeepsSubmissions (s s' : TrustStore) : Prop :=
  ∀ id submission, s.kycSubmissions.find? id = some submission →
    ∃ submission', s'.kycSubmissions.find? id = some submission' ∧
      submission'.userId = submission.userId ∧
      submission'.submissionType = submission.submissionType

theorem KeepsSubmissions.refl (s : TrustStore) : KeepsSubmissions s s :=
  fun _ submission hrow => ⟨submission, hrow, rfl, rfl⟩

/-- Nobody's standing changes, and no submission is lost. -/
structure KeepsStandings (s s' : TrustStore) : Prop where
  users : ∀ k, (s'.users.find? k).map Identity.standing = (s.users.find? k).map Identity.standing
  submissions : KeepsSubmissions s s'

theorem KeepsStandings.refl (s : TrustStore) : KeepsStandings s s := ⟨fun _ => rfl, .refl s⟩

theorem ensureIdentity_users (userId k : String) :
    ((after (ensureIdentity around userId) s).users.find? k).map Identity.standing =
      (s.users.find? k).map Identity.standing := by
  unfold ensureIdentity
  rw [after_bind, show (get : TrustCall TrustStore) s = .ok s s from rfl]
  dsimp only
  rw [after_bind]
  cases hrow : s.users.find? userId with
  | none => rfl
  | some user =>
    rw [orThrow_some, ofExcept_ok_run]
    dsimp only
    split
    · rfl
    · by_cases htaken : hasSecureZoneId s (nextSecureZoneId around s)
      · rw [throwIf, if_pos htaken]
        rfl
      · rw [throwIf, if_neg htaken]
        show ((s.users.modify userId _).find? k).map Identity.standing = _
        rw [Table.find?_modify]
        split
        · rw [Option.map_map]
          rfl
        · rfl

theorem submitKyc_keeps (dto : SubmitKycDto) :
    KeepsStandings s (after (submitKyc around user dto) s) := by
  have husers := @ensureIdentity_users around s user.id
  have hcases := (ensureIdentity_leaves around user.id s).kycSubmissions
  unfold after at husers hcases
  unfold submitKyc
  rw [after_bind]
  cases hrun : ensureIdentity around user.id s with
  | error e s₁ =>
    rw [hrun] at husers hcases
    exact ⟨husers, fun id submission hrow => ⟨submission, by rw [hcases, hrow], rfl, rfl⟩⟩
  | ok identity s₁ =>
    rw [hrun] at husers hcases
    dsimp only at husers hcases ⊢
    rw [after_bind, show (get : TrustCall TrustStore) s₁ = .ok s₁ s₁ from rfl]
    dsimp only
    rw [after_bind]
    by_cases htaken : (s₁.kycSubmissions.find? (newSubmission around user dto).id).isSome
    · rw [throwIf, if_pos htaken]
      refine ⟨husers, fun id row hrow => ⟨row, ?_, rfl, rfl⟩⟩
      rw [← hcases] at hrow
      exact hrow
    · rw [throwIf, if_neg htaken]
      refine ⟨husers, fun id row hrow => ⟨row, ?_, rfl, rfl⟩⟩
      rw [← hcases] at hrow
      exact Table.find?_insert_of_some hrow

theorem canActivate_of_mem {roles : List UserRole} (h : roles.contains user.role) :
    canActivate roles user = .ok ⟨⟩ := by
  rw [canActivate, throwIf, if_neg (by rw [h]; exact Bool.noConfusion)]

theorem canActivate_of_notMem {roles : List UserRole} (h : ¬ roles.contains user.role) :
    ∃ e, canActivate roles user = .error e := by
  rw [Bool.not_eq_true] at h
  rw [canActivate, throwIf, if_pos (by rw [h]; rfl)]
  exact ⟨_, rfl⟩

/-- What follows a check, in a call. -/
theorem after_ofExcept_bind {α β : Type} (x : Except HttpError α) (f : α → TrustCall β) :
    after (do let a ← ofExcept x; f a) s = match x with
      | .ok a => after (f a) s
      | .error _ => s := by
  rw [after_bind]
  cases x <;> rfl

theorem after_reviewKyc (dto : ReviewKycDto) : after (reviewKyc around user id dto) s =
    match findSubmission user id s with
    | .error _ => s
    | .ok (submission, owner) => { s with
        kycSubmissions := s.kycSubmissions.modify id (reviewData around user dto)
        users :=
          if dto.status = KycSubmissionStatus.approved then
            s.users.modify owner.id (applyVerificationFromKyc around submission.submissionType)
          else s.users } := by
  unfold reviewKyc
  rw [after_bind, show (get : TrustCall TrustStore) s = .ok s s from rfl]
  dsimp only
  rw [after_ofExcept_bind]
  cases findSubmission user id s <;> rfl

theorem findSubmission_rows (h : findSubmission user id s = .ok (submission, owner)) :
    s.kycSubmissions.find? id = some submission ∧ s.users.find? submission.userId = some owner := by
  obtain ⟨submission', hrow, h⟩ := orThrow_bind_eq_ok.mp h
  obtain ⟨owner', howner, h⟩ := orThrow_bind_eq_ok.mp h
  obtain ⟨-, h⟩ := check_bind_eq_ok.mp h
  rw [pure_eq_ok, Prod.mk.injEq] at h
  obtain ⟨rfl, rfl⟩ := h
  exact ⟨hrow, howner⟩

theorem keepsSubmissions_review (s : TrustStore) (users : Table Identity.id)
    (dto : ReviewKycDto) : KeepsSubmissions s { s with
      kycSubmissions := s.kycSubmissions.modify id (reviewData around user dto), users } := by
  intro k row hrow
  by_cases hk : k = id
  · subst hk
    exact ⟨_, Table.find?_modify_self _ hrow, rfl, rfl⟩
  · exact ⟨row, (Table.find?_modify_of_ne _ hk).trans hrow, rfl, rfl⟩

/-- An event that approves a submission of `owner`. -/
structure Approves (event : KycEvent) (s : TrustStore) (submission : KycSubmission)
    (owner : Identity) : Prop where
  role : [.superAdmin, UserRole.orgAdmin].contains event.user.role
  request : ∃ dto : ReviewKycDto, event.request = .reviewKyc submission.id dto ∧
    dto.status = .approved
  found : findSubmission event.user submission.id s = .ok (submission, owner)

/-- The approval of such an event. -/
def approvalOf (event : KycEvent) (submission : KycSubmission) (owner : Identity) : Approval where
  submissionId := submission.id
  userId := owner.id
  submissionType := submission.submissionType
  reviewedById := event.user.id
  raised := decide (owner.trustScore <
    ((applyVerificationFromKyc event.around submission.submissionType).apply owner).trustScore)

/-- An approval raises the score exactly below the limit. -/
theorem approvalOf_raised : (approvalOf event submission owner).raised ↔
    owner.trustScore < 100 := by
  show decide (owner.trustScore < min (owner.trustScore + 10) 100) = true ↔ _
  rw [decide_eq_true_eq, lt_min_iff]
  omega

/-- What an approval makes of the state. -/
structure Approved (event : KycEvent) (st : KycState) (submission : KycSubmission)
    (owner : Identity) (st' : KycState) : Prop where
  approvals : st'.approvals = st.approvals ++ [approvalOf event submission owner]
  users : ∀ k, st'.store.users.find? k =
    if k = owner.id then
      some ((applyVerificationFromKyc event.around submission.submissionType).apply owner)
    else st.store.users.find? k
  submissions : KeepsSubmissions st.store st'.store

theorem approves_step (h : Approves event st.store submission owner) :
    Approved event st submission owner (kycStep event st) := by
  obtain ⟨dto, hrequest, happroved⟩ := h.request
  obtain ⟨hrow, howner⟩ := findSubmission_rows h.found
  have hkey := Table.key_of_find? howner
  have hstore : after event.call st.store = { st.store with
      kycSubmissions :=
        st.store.kycSubmissions.modify submission.id (reviewData event.around event.user dto)
      users := st.store.users.modify owner.id
        (applyVerificationFromKyc event.around submission.submissionType) } := by
    simp only [KycEvent.call, hrequest]
    rw [after_ofExcept_bind, canActivate_of_mem h.role]
    dsimp only
    rw [after_reviewKyc, h.found, happroved]
    rfl
  refine ⟨?_, fun k => ?_, ?_⟩
  · simp only [kycStep, KycEvent.approval?, hrequest]
    rw [if_pos ⟨h.role, happroved⟩, h.found]
    rfl
  · show (after event.call st.store).users.find? k = _
    rw [hstore]
    dsimp only
    rw [Table.find?_modify]
    by_cases hk : k = owner.id
    · rw [if_pos hk, if_pos hk, hk, hkey, howner]
      rfl
    · rw [if_neg hk, if_neg hk]
  · show KeepsSubmissions st.store (after event.call st.store)
    rw [hstore]
    exact keepsSubmissions_review st.store _ dto

/-- A step is an approval, or makes none and leaves everybody's standing. -/
theorem kycStep_cases (event : KycEvent) (st : KycState) :
    (∃ submission owner, Approves event st.store submission owner) ∨
      (kycStep event st).approvals = st.approvals ∧
        KeepsStandings st.store (kycStep event st).store := by
  unfold kycStep KycEvent.call KycEvent.approval?
  cases hrequest : event.request with
  | submitKyc dto =>
    refine .inr ⟨List.append_nil _, ?_⟩
    dsimp only
    rw [after_ofExcept_bind]
    split
    · exact submitKyc_keeps dto
    · exact .refl st.store
  | reviewKyc id dto =>
    dsimp only
    rw [after_ofExcept_bind]
    by_cases hrole : [.superAdmin, UserRole.orgAdmin].contains event.user.role
    · rw [canActivate_of_mem hrole]
      dsimp only
      rw [after_reviewKyc]
      cases hfound : findSubmission event.user id st.store with
      | error e =>
        refine .inr ⟨?_, .refl st.store⟩
        split <;> exact List.append_nil _
      | ok found =>
        obtain ⟨submission, owner⟩ := found
        have hkey := Table.key_of_find? (findSubmission_rows hfound).1
        by_cases happroved : dto.status = .approved
        · exact .inl ⟨submission, owner, hrole, ⟨dto, hkey ▸ hrequest, happroved⟩,
            hkey.symm ▸ hfound⟩
        · refine .inr ⟨?_, fun k => ?_, ?_⟩
          · rw [if_neg fun h => happroved h.2]
            exact List.append_nil _
          · dsimp only
            rw [if_neg happroved]
          · exact keepsSubmissions_review st.store _ dto
    · obtain ⟨e, hrefused⟩ := canActivate_of_notMem hrole
      rw [hrefused, if_neg fun h => hrole h.1]
      exact .inr ⟨List.append_nil _, .refl st.store⟩

/-! ### What reviews are for -/

/-- The approvals of a run are sound in a state. -/
structure KycSound (st : KycState) : Prop where
  /-- Nobody approved a submission of their own. -/
  others : ∀ a ∈ st.approvals, a.reviewedById ≠ a.userId
  /-- A submission raised the score once at most. -/
  once : ∀ id, (st.approvals.countP fun a => a.raised && a.submissionId = id) ≤ 1
  /-- No score is over 100. -/
  bounded : ∀ id user, st.store.users.find? id = some user → user.trustScore ≤ 100
  /-- The status is that of the highest approval. -/
  highest : ∀ a ∈ st.approvals,
    (∀ b ∈ st.approvals, b.userId = a.userId → b.submissionType.level ≤ a.submissionType.level) →
    ∀ user, st.store.users.find? a.userId = some user →
      user.identityVerificationStatus = a.submissionType.status

/-- A step lowers no level and no score. -/
def LowersNothing (st : KycState) (event : KycEvent) : Prop :=
  ∀ id user, st.store.users.find? id = some user →
    ∃ user', (kycStep event st).store.users.find? id = some user' ∧
      user.identityVerificationLevel ≤ user'.identityVerificationLevel ∧
      user.trustScore ≤ user'.trustScore

/-- An approval is of a submission of somebody else, which was not approved before unless the score
is at its limit, and no approval of the user is of a higher level. -/
def ReviewsWell (st : KycState) (event : KycEvent) : Prop :=
  ∀ submission owner, Approves event st.store submission owner →
    event.user.id ≠ owner.id ∧
    ((∃ a ∈ st.approvals, a.submissionId = submission.id) → owner.trustScore = 100) ∧
    ∀ a ∈ st.approvals, a.userId = owner.id →
      a.submissionType.level ≤ submission.submissionType.level

/-- What holds of the approvals in every run: their submissions are there, and the score of a user
whose approval did not raise it is at its limit. -/
structure ApprovalsRecorded (st : KycState) : Prop where
  known : ∀ a ∈ st.approvals, ∃ submission,
    st.store.kycSubmissions.find? a.submissionId = some submission ∧
      submission.userId = a.userId ∧ submission.submissionType = a.submissionType
  full : ∀ a ∈ st.approvals, a.raised = false →
    ∀ user, st.store.users.find? a.userId = some user → 100 ≤ user.trustScore

/-- Two types of one level give one status. -/
theorem status_eq_of_level_eq {t t' : KycSubmissionType} (h : t.level = t'.level) :
    t.status = t'.status := by
  cases t <;> cases t' <;> first | rfl | cases h

theorem level_eq_of_status_eq {t t' : KycSubmissionType} (h : t.status = t'.status) :
    t.level = t'.level := by
  cases t <;> cases t' <;> first | rfl | cases h

/-- A user of the state after a step was there before, and has the standing of then unless a
submission of the user was approved. -/
theorem kycStep_user {k : String} {user' : Identity}
    (hrow' : (kycStep event st).store.users.find? k = some user') :
    ∃ user, st.store.users.find? k = some user ∧
      ((∀ submission owner, Approves event st.store submission owner → k ≠ owner.id) →
        user.standing = user'.standing) := by
  obtain ⟨submission, owner, happroves⟩ | ⟨-, hkeeps⟩ := kycStep_cases event st
  · have hafter := (approves_step happroves).users k
    rw [hrow'] at hafter
    split at hafter
    · next hk =>
      have howner := (findSubmission_rows happroves.found).2
      rw [← Table.key_of_find? howner, ← hk] at howner
      exact ⟨owner, howner, fun hnone => absurd hk (hnone submission owner happroves)⟩
    · exact ⟨user', hafter.symm, fun _ => rfl⟩
  · have hmap := hkeeps.users k
    rw [hrow'] at hmap
    obtain ⟨user, hrow, hstanding⟩ := Option.map_eq_some_iff.mp hmap.symm
    exact ⟨user, hrow, fun _ => hstanding⟩

/-- A step lowers nothing while no score is over 100. -/
theorem kycStep_lowersNothing
    (hbounded : ∀ id user, st.store.users.find? id = some user → user.trustScore ≤ 100)
    (event : KycEvent) : LowersNothing st event := by
  intro id user hrow
  obtain ⟨submission, owner, happroves⟩ | ⟨-, hkeeps⟩ := kycStep_cases event st
  · have hafter := (approves_step happroves).users id
    by_cases hid : id = owner.id
    · rw [if_pos hid] at hafter
      have howner := (findSubmission_rows happroves.found).2
      rw [← Table.key_of_find? howner, ← hid, hrow] at howner
      obtain rfl := Option.some.inj howner
      have hscore := hbounded id user hrow
      exact ⟨_, hafter, le_max_left _ _, le_min (by omega) hscore⟩
    · rw [if_neg hid, hrow] at hafter
      exact ⟨user, hafter, le_rfl, le_rfl⟩
  · have hmap := hkeeps.users id
    rw [hrow] at hmap
    obtain ⟨user', hrow', hstanding⟩ := Option.map_eq_some_iff.mp hmap
    simp only [Identity.standing, Prod.mk.injEq] at hstanding
    exact ⟨user', hrow', hstanding.2.1.ge, hstanding.2.2.ge⟩

/-- The row of the user whose submission is approved, before and after. -/
theorem Approves.owner_row (h : Approves event st.store submission owner) :
    st.store.users.find? owner.id = some owner := by
  have howner := (findSubmission_rows h.found).2
  rwa [← Table.key_of_find? howner] at howner

theorem kycStep_recorded
    (hbounded : ∀ id user, st.store.users.find? id = some user → user.trustScore ≤ 100)
    (h : ApprovalsRecorded st) (event : KycEvent) : ApprovalsRecorded (kycStep event st) := by
  have hknown : KeepsSubmissions st.store (kycStep event st).store → ∀ a ∈ st.approvals,
      ∃ submission, (kycStep event st).store.kycSubmissions.find? a.submissionId =
        some submission ∧ submission.userId = a.userId ∧
          submission.submissionType = a.submissionType := by
    intro hkeeps a ha
    obtain ⟨submission, hrow, huser, htype⟩ := h.known a ha
    obtain ⟨submission', hrow', huser', htype'⟩ := hkeeps _ submission hrow
    exact ⟨submission', hrow', huser'.trans huser, htype'.trans htype⟩
  have hfull : ∀ a ∈ st.approvals, a.raised = false → ∀ user',
      (kycStep event st).store.users.find? a.userId = some user' → 100 ≤ user'.trustScore := by
    intro a ha hraised user' hrow'
    obtain ⟨user, hrow, -⟩ := kycStep_user hrow'
    obtain ⟨user'', hrow'', -, hscore⟩ := kycStep_lowersNothing hbounded event _ user hrow
    obtain rfl := Option.some.inj (hrow'.symm.trans hrow'')
    exact (h.full a ha hraised user hrow).trans hscore
  obtain ⟨submission, owner, happroves⟩ | ⟨happrovals, hkeeps⟩ := kycStep_cases event st
  · have hstep := approves_step happroves
    obtain ⟨hrow, howner⟩ := findSubmission_rows happroves.found
    refine ⟨fun a ha => ?_, fun a ha hraised user' hrow' => ?_⟩
    · rw [hstep.approvals, List.mem_append, List.mem_singleton] at ha
      obtain ha | rfl := ha
      · exact hknown hstep.submissions a ha
      · obtain ⟨submission', hrow', huser', htype'⟩ := hstep.submissions _ submission hrow
        exact ⟨submission', hrow', huser'.trans (Table.key_of_find? howner).symm, htype'⟩
    · rw [hstep.approvals, List.mem_append, List.mem_singleton] at ha
      obtain ha | rfl := ha
      · exact hfull a ha hraised user' hrow'
      · -- The score of the user did not rise, so it was at its limit.
        have hafter := hstep.users owner.id
        rw [if_pos rfl] at hafter
        obtain rfl := Option.some.inj (hrow'.symm.trans hafter)
        rw [← Bool.not_eq_true, approvalOf_raised, not_lt] at hraised
        exact le_min (hraised.trans (by omega)) le_rfl
  · refine ⟨fun a ha => ?_, fun a ha => ?_⟩ <;> rw [happrovals] at ha
    · exact hknown hkeeps.submissions a ha
    · exact hfull a ha

theorem mem_approved {st' : KycState} (h : Approved event st submission owner st') {a : Approval} :
    a ∈ st'.approvals ↔ a ∈ st.approvals ∨ a = approvalOf event submission owner := by
  rw [h.approvals, List.mem_append, List.mem_singleton]

/-- A good review leaves the approvals sound. -/
theorem kycStep_sound (hs : KycSound st) (hevent : ReviewsWell st event) :
    KycSound (kycStep event st) := by
  obtain ⟨submission, owner, happroves⟩ | ⟨happrovals, hkeeps⟩ := kycStep_cases event st
  · have hstep := approves_step happroves
    obtain ⟨hothers, honce, hhighest⟩ := hevent submission owner happroves
    refine ⟨fun a ha => ?_, fun id => ?_, fun k user' hrow' => ?_, fun a ha hmax user' hrow' => ?_⟩
    · obtain ha | rfl := (mem_approved hstep).mp ha
      · exact hs.others a ha
      · exact hothers
    · rw [hstep.approvals, List.countP_append, List.countP_singleton]
      split
      · next hnew =>
        -- Had the submission been approved before, the score could not have risen.
        rw [Bool.and_eq_true, approvalOf_raised, decide_eq_true_eq] at hnew
        obtain ⟨hbelow, rfl⟩ := hnew
        rw [List.countP_eq_zero.mpr]
        intro a ha hboth
        rw [Bool.and_eq_true, decide_eq_true_eq] at hboth
        exact absurd (honce ⟨a, ha, hboth.2⟩) hbelow.ne
      · exact hs.once id
    · rw [hstep.users] at hrow'
      split at hrow'
      · obtain rfl := Option.some.inj hrow'
        exact min_le_right _ _
      · exact hs.bounded k user' hrow'
    · rw [hstep.users] at hrow'
      have hnew := hmax _ ((mem_approved hstep).mpr (.inr rfl))
      split at hrow'
      · next hk =>
        obtain rfl := Option.some.inj hrow'
        refine status_eq_of_level_eq ?_
        obtain ha | rfl := (mem_approved hstep).mp ha
        · exact le_antisymm (hnew hk.symm) (hhighest a ha hk)
        · rfl
      · next hk =>
        obtain ha | rfl := (mem_approved hstep).mp ha
        · exact hs.highest a ha
            (fun b hb => hmax b ((mem_approved hstep).mpr (.inl hb))) user' hrow'
        · exact absurd rfl hk
  · have hstanding : ∀ k user', (kycStep event st).store.users.find? k = some user' →
        ∃ user, st.store.users.find? k = some user ∧ user.standing = user'.standing := by
      intro k user' hrow'
      have hmap := hkeeps.users k
      rw [hrow'] at hmap
      exact Option.map_eq_some_iff.mp hmap.symm
    refine ⟨?_, ?_, fun k user' hrow' => ?_, ?_⟩
    · rw [happrovals]
      exact hs.others
    · rw [happrovals]
      exact hs.once
    · obtain ⟨user, hrow, hsame⟩ := hstanding k user' hrow'
      simp only [Identity.standing, Prod.mk.injEq] at hsame
      exact hsame.2.2 ▸ hs.bounded k user hrow
    · rw [happrovals]
      intro a ha hmax user' hrow'
      obtain ⟨user, hrow, hsame⟩ := hstanding _ user' hrow'
      simp only [Identity.standing, Prod.mk.injEq] at hsame
      exact hsame.1 ▸ hs.highest a ha hmax user hrow

/-- A review that leaves the approvals sound was a good one. -/
theorem reviewsWell_of_sound (hrecorded : ApprovalsRecorded st) (hs : KycSound st)
    (hafter : KycSound (kycStep event st)) : ReviewsWell st event := by
  intro submission owner happroves
  have hstep := approves_step happroves
  obtain ⟨hrow, howner⟩ := findSubmission_rows happroves.found
  have hscore := hs.bounded owner.id owner happroves.owner_row
  refine ⟨hafter.others _ ((mem_approved hstep).mpr (.inr rfl)), ?_, fun a ha huser => ?_⟩
  · rintro ⟨a, ha, hid⟩
    by_contra hbelow
    -- The approval before raised the score, and so does this one.
    have hraised : a.raised = true := by
      by_contra hnot
      obtain ⟨submission', hrow', huser', -⟩ := hrecorded.known a ha
      rw [hid, hrow] at hrow'
      obtain rfl := Option.some.inj hrow'
      rw [huser'] at howner
      have hfull := hrecorded.full a ha (Bool.not_eq_true _ ▸ hnot) owner howner
      omega
    have hcount := hafter.once submission.id
    rw [hstep.approvals, List.countP_append, List.countP_singleton, if_pos] at hcount
    · have hpos : 0 < st.approvals.countP fun a => a.raised && a.submissionId = submission.id :=
        List.countP_pos_iff.mpr ⟨a, ha, by simp [hraised, hid]⟩
      omega
    · rw [Bool.and_eq_true, approvalOf_raised, decide_eq_true_eq]
      exact ⟨hscore.lt_of_ne hbelow, rfl⟩
  · by_contra habove
    rw [not_le] at habove
    -- The highest approval of the user is above the new one, and the status is that of the new one.
    have hmem : a ∈ st.approvals.filter fun b => b.userId = owner.id :=
      List.mem_filter.mpr ⟨ha, by simpa using huser⟩
    generalize hlevel : (fun b : Approval => b.submissionType.level) = level
    obtain ⟨top, htop⟩ := Option.ne_none_iff_exists'.mp fun hnone =>
      List.ne_nil_of_mem hmem ((@List.argmax_eq_none _ _ _ _ level _).mp hnone)
    have hle : ∀ b ∈ st.approvals, b.userId = owner.id → level b ≤ level top := fun b hb hbuser =>
      List.le_of_mem_argmax (List.mem_filter.mpr ⟨hb, decide_eq_true hbuser⟩) htop
    subst hlevel
    obtain ⟨htopmem, htopuser⟩ := List.mem_filter.mp (List.argmax_mem htop)
    rw [decide_eq_true_eq] at htopuser
    have hstatus :=
      hafter.highest top ((mem_approved hstep).mpr (.inl htopmem)) (fun b hb hbuser => by
      obtain hb | rfl := (mem_approved hstep).mp hb
      · exact hle b hb (hbuser.trans htopuser)
      · exact (habove.trans_le (hle a ha huser)).le) _ (by rw [hstep.users, if_pos htopuser])
    have hsame : submission.submissionType.level = top.submissionType.level :=
      level_eq_of_status_eq hstatus
    exact absurd ((hle a ha huser).trans_eq hsame.symm) (not_le.mpr habove)

/-- **KYC review.** In a run from a store whose scores are within the limit, the approvals are sound
in every state and no step lowers a level or a score exactly when every approval is a good one. -/
theorem kyc_sound_iff {start : TrustStore}
    (hscores : ∀ id user, start.users.find? id = some user → user.trustScore ≤ 100)
    (events : List KycEvent) :
    Throughout kycStep KycSound ⟨start, []⟩ events ∧
        Along kycStep LowersNothing ⟨start, []⟩ events ↔
      Along kycStep ReviewsWell ⟨start, []⟩ events := by
  have hrecorded : ApprovalsRecorded ⟨start, []⟩ :=
    ⟨fun _ h => absurd h List.not_mem_nil, fun _ h => absurd h List.not_mem_nil⟩
  have hsound : KycSound ⟨start, []⟩ := ⟨fun _ h => absurd h List.not_mem_nil,
    fun _ => Nat.zero_le _, hscores, fun _ h => absurd h List.not_mem_nil⟩
  have hexact :=
    throughout_iff_along_of_inv (A := ApprovalsRecorded) (I := KycSound) (Q := ReviewsWell)
    (fun st event hrec hs _ => kycStep_recorded hs.bounded hrec event)
    (fun st event hrec hs => ⟨reviewsWell_of_sound hrec hs, kycStep_sound hs⟩) hrecorded hsound
    events
  refine ⟨fun h => hexact.mp h.1, fun h => ?_⟩
  have hthroughout := hexact.mpr h
  refine ⟨hthroughout, along_iff.mpr fun pre event post hevents => ?_⟩
  exact kycStep_lowersNothing (throughout_iff.mp hthroughout pre _ hevents).bounded event

namespace Example

/-- A citizen, and the administrator of an organization. -/
def kycStore : TrustStore where
  users := ⟨[{ id := "kyc-citizen", organizationId := some "kyc-organization" },
    { id := "kyc-admin", role := .orgAdmin, organizationId := some "kyc-organization" }], by simp⟩
  entitlements := Table.empty _
  settings := Table.empty _
  kycSubmissions := Table.empty _
  disputes := Table.empty _
  disputeMessages := []

def kycCitizen : TrustUser :=
  { id := "kyc-citizen", role := .citizen, organizationId := some "kyc-organization" }

def kycAdmin : TrustUser :=
  { id := "kyc-admin", role := .orgAdmin, organizationId := some "kyc-organization" }

/-- `user` submits an identity card, and the administrator approves it `times` times. -/
def approvedTimes (user : TrustUser) (times : ℕ) : List KycEvent :=
  { around := ⟨0, 2026, "submission"⟩, user,
    request := .submitKyc ⟨.governmentId, none, none, none⟩ }
    :: List.replicate times
      { around := ⟨1, 2026, ""⟩, user := kycAdmin,
        request := .reviewKyc "submission" ⟨.approved, none⟩ }

theorem kycStore_scores (id : String) (user : Identity) (h : kycStore.users.find? id = some user) :
    user.trustScore ≤ 100 := by
  have hmem := Table.mem_of_find? h
  simp only [kycStore, List.mem_cons, List.not_mem_nil, or_false] at hmem
  obtain rfl | rfl := hmem <;> decide

end Example

open Example in
/-- The administrator approves a submission of their own, twice, and it raises the score twice. -/
theorem own_submission_approved :
    ¬ (Throughout kycStep KycSound ⟨kycStore, []⟩ (approvedTimes kycAdmin 2) ∧
      Along kycStep LowersNothing ⟨kycStore, []⟩ (approvedTimes kycAdmin 2)) := by
  rintro ⟨hsound, -⟩
  have hlast := throughout_iff.mp hsound _ [] (List.append_nil _).symm
  have happrovals : (run kycStep ⟨kycStore, []⟩ (approvedTimes kycAdmin 2)).approvals.map
      (fun a => (a.reviewedById, a.userId, a.raised)) =
        [("kyc-admin", "kyc-admin", true), ("kyc-admin", "kyc-admin", true)] := by decide +kernel
  obtain ⟨a, ha, hcolumns⟩ := List.mem_map.mp (happrovals ▸ List.mem_cons_self)
  rw [Prod.mk.injEq, Prod.mk.injEq] at hcolumns
  exact hlast.others a ha (hcolumns.1.trans hcolumns.2.1.symm)

open Example in
/-- The approval of a submission of the citizen is a good one. -/
theorem citizen_submission_approved :
    Throughout kycStep KycSound ⟨kycStore, []⟩ (approvedTimes kycCitizen 1) ∧
      Along kycStep LowersNothing ⟨kycStore, []⟩ (approvedTimes kycCitizen 1) := by
  refine (kyc_sound_iff kycStore_scores _).mpr ⟨fun submission owner h => ?_,
    fun submission owner h => ?_, trivial⟩
  · obtain ⟨dto, hrequest, -⟩ := h.request
    cases hrequest
  · obtain ⟨dto, hrequest, -⟩ := h.request
    have hfound := h.found
    rw [← (KycRequest.reviewKyc.inj hrequest).1] at hfound
    have howner : (findSubmission kycAdmin "submission"
        (run kycStep ⟨kycStore, []⟩ (approvedTimes kycCitizen 0)).store).toOption.map
          (fun found => found.2.id) = some "kyc-citizen" := by decide +kernel
    have hid : some owner.id = some "kyc-citizen" := by
      rw [← howner]
      exact (congrArg (fun x => x.toOption.map fun found => found.2.id) hfound).symm
    refine ⟨?_, ?_, fun a ha => absurd ha ?_⟩
    · rw [Option.some.inj hid]
      decide
    · rintro ⟨a, ha, -⟩
      cases ha
    · exact List.not_mem_nil

end FixZone.TrustService
