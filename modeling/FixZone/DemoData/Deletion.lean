import FixZone.DemoData.Service

/-!
# What the purge transaction deletes

`deleteTagged` is five deletions, each with the rules of the foreign keys. None of the first three
can fail. What the whole of it leaves of a row is told without its steps: a row stays as it is
exactly when it is no demo row, refers to none by a reference that is cleared or cascades, and is no
role assignment that a demo user made (`mem_deleted_iff`). And the transaction fails exactly when a
row that is no demo row refers to one by a reference that restricts (`deleteTagged_eq_none_iff`).
-/

namespace FixZone.DemoDataService

open Library Library.Relational Database

variable {meets : ForeignKey Model Reference → String → Bool} {s s' : Store}

/-! ### Demo rows -/

theorem mem_demoIds {t : Model} {id : String} : id ∈ demoIds s t ↔
    ∃ r ∈ (s t).rows, r.key = id ∧ demoEnvironmentWhere t r = true := by
  simp only [demoIds, Table.keysWhere, List.mem_map, List.mem_filter]
  constructor
  · rintro ⟨r, ⟨hr, hdemo⟩, hkey⟩
    exact ⟨r, hr, hkey, hdemo⟩
  · rintro ⟨r, hr, hkey, hdemo⟩
    exact ⟨r, ⟨hr, hdemo⟩, hkey⟩

/-- The row is a demo row exactly when its id is one of theirs. -/
theorem key_mem_demoIds {t : Model} {r : RowOf t} (hr : r ∈ (s t).rows) :
    r.key ∈ demoIds s t ↔ demoEnvironmentWhere t r = true := by
  rw [mem_demoIds]
  constructor
  · rintro ⟨r₀, hr₀, hkey, hdemo⟩
    obtain rfl := eq_of_key_eq hr₀ hr hkey
    exact hdemo
  · exact fun hdemo => ⟨r, hr, rfl, hdemo⟩

/-- Only four models have demo rows. -/
theorem tagged_of_mem_demoIds {t : Model} {id : String} (h : id ∈ demoIds s t) :
    t = .notification ∨ t = .report ∨ t = .user ∨ t = .organization := by
  obtain ⟨r, -, -, hdemo⟩ := mem_demoIds.mp h
  cases t <;> first | cases hdemo | simp

/-! ### One deletion -/

/-- The rows of `t₀` that the deletion from `s₀` asks for are the demo rows of `s`. -/
def AsksForDemo (s s₀ : Store) (t₀ : Model) (p : RowOf t₀ → Bool) : Prop :=
  ∀ t id, Schema.asked s₀ t₀ p t id = true ↔ t = t₀ ∧ id ∈ demoIds s t₀

theorem asksForDemo_where {s₀ : Store} {t₀ : Model} (hsame : s₀ t₀ = s t₀) :
    AsksForDemo s s₀ t₀ (demoEnvironmentWhere t₀) := fun t id => by
  rw [Schema.asked_iff, mem_demoIds, hsame]

theorem asksForDemo_ids {s₀ : Store} {t₀ : Model} (hsame : s₀ t₀ = s t₀) :
    AsksForDemo s s₀ t₀ (fun row => decide (row.key ∈ demoIds s t₀)) := fun t id => by
  rw [Schema.asked_iff, hsame]
  refine and_congr_right fun _ => ⟨?_, fun h => ?_⟩
  · rintro ⟨r, -, rfl, hid⟩
    exact of_decide_eq_true hid
  · obtain ⟨r, hr, hkey, -⟩ := mem_demoIds.mp h
    exact ⟨r, hr, hkey, decide_eq_true (hkey ▸ h)⟩

/-- One deletion of demo rows leaves a row as it is exactly when it is no demo row of that model and
refers to none by a reference that is cleared or cascades. -/
theorem AsksForDemo.mem_iff {s₀ s₁ : Store} {t₀ t : Model} {p : RowOf t₀ → Bool}
    (hasks : AsksForDemo s s₀ t₀ p) (hdelete : schema.deleteMany meets t₀ p s₀ = some s₁)
    (hshallow : Shallow t) {r : RowOf t} (hr : r ∈ (s₀ t).rows) : r ∈ (s₁ t).rows ↔
      ¬ (t = t₀ ∧ r.key ∈ demoIds s t₀) ∧ ∀ fk ∈ relations, fk.table = t →
        fk.onDelete ≠ .restrict → fk.target = t₀ → ∀ id, r.ref fk.column = some id →
          id ∉ demoIds s t₀ := by
  rw [Schema.mem_deleteMany_iff_of_shallow hdelete hshallow hr, ← Bool.not_eq_true, hasks]
  refine and_congr_right fun _ => forall_congr' fun fk => forall_congr' fun _ =>
    imp_congr_right fun _ => imp_congr_right fun _ => ?_
  rw [← Bool.not_eq_true, Row.refersTo_iff]
  constructor
  · exact fun h htarget id hid hdemo => h ⟨id, hid, (hasks _ _).mpr ⟨htarget, hdemo⟩⟩
  · rintro h ⟨id, hid, hasked⟩
    obtain ⟨htarget, hdemo⟩ := (hasks _ _).mp hasked
    exact h htarget id hid hdemo

/-! ### The transaction -/

/-- The first steps of the transaction, through the stores in between. -/
structure FirstSteps (meets : ForeignKey Model Reference → String → Bool)
    (s s₁ s₂ s₃ : Store) : Prop where
  notifications : schema.deleteMany meets .notification (demoEnvironmentWhere .notification) s =
    some s₁
  reports : schema.deleteMany meets .report (demoEnvironmentWhere .report) s₁ = some s₂
  assignments : schema.deleteMany meets .internalRoleAssignment
    (assignmentOf (demoIds s .user)) s₂ = some s₃

/-- All steps of the transaction. -/
structure Deletion (meets : ForeignKey Model Reference → String → Bool)
    (s s₁ s₂ s₃ s₄ s' : Store) : Prop extends FirstSteps meets s s₁ s₂ s₃ where
  users : schema.deleteMany meets .user (fun row => decide (row.key ∈ demoIds s .user)) s₃ = some s₄
  organizations : schema.deleteMany meets .organization
    (fun row => decide (row.key ∈ demoIds s .organization)) s₄ = some s'

theorem assignmentOf_nil (row : RowOf .internalRoleAssignment) : assignmentOf [] row = false := by
  simp [assignmentOf]

theorem deleteAssignments_eq_some_iff {userIds : List String} :
    (∃ n, deleteAssignments meets userIds s = some (n, s')) ↔
      schema.deleteMany meets .internalRoleAssignment (assignmentOf userIds) s = some s' := by
  unfold deleteAssignments
  split_ifs with hnone
  · simp [deleteMany]
  · rw [List.length_eq_zero_iff.mp (not_not.mp hnone),
      Schema.deleteMany_of_none meets fun row _ => assignmentOf_nil row]
    simp

theorem deleteTagged_eq_some_iff :
    (∃ deleted, deleteTagged meets s = some (deleted, s')) ↔
      ∃ s₁ s₂ s₃ s₄, Deletion meets s s₁ s₂ s₃ s₄ s' := by
  constructor
  · rintro ⟨deleted, h⟩
    simp only [deleteTagged, Option.bind_eq_bind, Option.bind_eq_some_iff, Prod.exists] at h
    obtain ⟨n₁, s₁, h₁, n₂, s₂, h₂, n₃, s₃, h₃, n₄, s₄, h₄, n₅, s₅, h₅, hend⟩ := h
    simp only [deleteMany, Option.map_eq_some_iff, Prod.mk.injEq] at h₁ h₂ h₄ h₅
    obtain ⟨_, h₁, -, rfl⟩ := h₁
    obtain ⟨_, h₂, -, rfl⟩ := h₂
    obtain ⟨_, h₄, -, rfl⟩ := h₄
    obtain ⟨_, h₅, -, rfl⟩ := h₅
    simp only [Option.pure_def, Option.some.injEq, Prod.mk.injEq] at hend
    obtain ⟨-, rfl⟩ := hend
    exact ⟨_, _, s₃, _, ⟨h₁, h₂, deleteAssignments_eq_some_iff.mp ⟨n₃, h₃⟩⟩, h₄, h₅⟩
  · rintro ⟨s₁, s₂, s₃, s₄, ⟨h₁, h₂, h₃⟩, h₄, h₅⟩
    obtain ⟨n, h₃⟩ := deleteAssignments_eq_some_iff.mpr h₃
    simp [deleteTagged, deleteMany, h₁, h₂, h₃, h₄, h₅]

theorem asks_notifications : AsksForDemo s s .notification (demoEnvironmentWhere .notification) :=
  asksForDemo_where rfl

namespace FirstSteps

variable {s₁ s₂ s₃ s₄ : Store}

/-! ### The stores in between -/

theorem report_eq (h : FirstSteps meets s s₁ s₂ s₃) : s₁ .report = s .report :=
  (show Frames [.notification] .notification .report by decide).untouched h.notifications

theorem user_eq (h : FirstSteps meets s s₁ s₂ s₃) : s₃ .user = s .user := by
  rw [(show Frames [.internalRoleAssignment] .internalRoleAssignment .user by decide).untouched
      h.assignments,
    (show Frames [.report, .reportMessage, .reportActivity] .report .user by decide).untouched
      h.reports,
    (show Frames [.notification] .notification .user by decide).untouched h.notifications]

theorem organization_eq (h : FirstSteps meets s s₁ s₂ s₃)
    (husers : schema.deleteMany meets .user (fun row => decide (row.key ∈ demoIds s .user)) s₃ =
      some s₄) : s₄ .organization = s .organization := by
  rw [(show Frames [.user, .passwordResetToken, .privilegedMfaEnrollment, .privilegedMfaBackupCode,
        .privilegedMfaPreAuthSession, .kycSubmission, .userEntitlement, .internalRoleAssignment,
        .providerOrganization, .reportMessage, .notification] .user .organization by
      decide).untouched husers,
    (show Frames [.internalRoleAssignment] .internalRoleAssignment .organization by
      decide).untouched h.assignments,
    (show Frames [.report, .reportMessage, .reportActivity] .report .organization by
      decide).untouched h.reports,
    (show Frames [.notification] .notification .organization by decide).untouched h.notifications]

theorem asks_reports (h : FirstSteps meets s s₁ s₂ s₃) :
    AsksForDemo s s₁ .report (demoEnvironmentWhere .report) := asksForDemo_where h.report_eq

theorem asks_users (h : FirstSteps meets s s₁ s₂ s₃) :
    AsksForDemo s s₃ .user (fun row => decide (row.key ∈ demoIds s .user)) :=
  asksForDemo_ids h.user_eq

theorem asks_organizations (h : FirstSteps meets s s₁ s₂ s₃)
    (husers : schema.deleteMany meets .user (fun row => decide (row.key ∈ demoIds s .user)) s₃ =
      some s₄) :
    AsksForDemo s s₄ .organization (fun row => decide (row.key ∈ demoIds s .organization)) :=
  asksForDemo_ids (h.organization_eq husers)

/-- Among the models whose references go nowhere deep, the deletion of the role assignments leaves
every row as it is but the role assignments of demo users or by them. -/
theorem mem_assignments_iff (h : FirstSteps meets s s₁ s₂ s₃) {t : Model}
    (hshallow : Shallow t) {r : RowOf t} (hr : r ∈ (s₂ t).rows) : r ∈ (s₃ t).rows ↔
      (t = .internalRoleAssignment → ∀ c ∈ [Reference.userId, .assignedById], ∀ id,
        r.ref c = some id → id ∉ demoIds s .user) := by
  have hnone : ∀ fk ∈ relations, fk.target ≠ .internalRoleAssignment := by decide
  rw [Schema.mem_deleteMany_iff_of_shallow h.assignments hshallow hr, ← Bool.not_eq_true,
    Schema.asked_iff]
  have hrefs : ∀ fk ∈ schema.foreignKeys, fk.table = t → fk.onDelete ≠ .restrict →
      r.refersTo fk (Schema.asked s₂ .internalRoleAssignment
        (assignmentOf (demoIds s .user))) = false := fun fk hfk _ _ => by
    rw [← Bool.not_eq_true, Row.refersTo_iff]
    rintro ⟨id, -, hasked⟩
    exact hnone fk hfk (Schema.asked_iff.mp hasked).1
  rw [and_iff_left hrefs, not_and]
  refine forall_congr' fun ht => ?_
  subst ht
  have hself : (∃ r₀ ∈ (s₂ .internalRoleAssignment).rows, r₀.key = r.key ∧
      assignmentOf (demoIds s .user) r₀ = true) ↔ assignmentOf (demoIds s .user) r = true := by
    constructor
    · rintro ⟨r₀, hr₀, hkey, hof⟩
      obtain rfl := eq_of_key_eq hr₀ hr hkey
      exact hof
    · exact fun hof => ⟨r, hr, rfl, hof⟩
  rw [hself]
  simp only [assignmentOf, Bool.or_eq_true, Option.any_eq_true, decide_eq_true_eq, not_or,
    not_exists, not_and, List.mem_cons, List.not_mem_nil, or_false, forall_eq_or_imp, forall_eq]

theorem shrinks (h : FirstSteps meets s s₁ s₂ s₃) : Shrinks s s₃ :=
  ((Schema.deleteMany_shrinks h.notifications).trans (Schema.deleteMany_shrinks h.reports)).trans
    (Schema.deleteMany_shrinks h.assignments)

end FirstSteps

/-- The row is no demo row, no role assignment by a demo user, and refers to no demo row by a
reference that is cleared or cascades. -/
def Stays (s : Store) (t : Model) (r : RowOf t) : Prop :=
  r.key ∉ demoIds s t ∧
    (t = .internalRoleAssignment → ∀ id, r.ref .assignedById = some id → id ∉ demoIds s .user) ∧
    ∀ fk ∈ relations, fk.table = t → fk.onDelete ≠ .restrict → ∀ id, r.ref fk.column = some id →
      id ∉ demoIds s fk.target

/-- **What the transaction leaves of a row.** -/
theorem mem_deleted_iff {deleted : Deleted} (h : deleteTagged meets s = some (deleted, s'))
    {t : Model} (hshallow : Shallow t) {r : RowOf t} (hr : r ∈ (s t).rows) :
    r ∈ (s' t).rows ↔ Stays s t r := by
  obtain ⟨s₁, s₂, s₃, s₄, hchain⟩ := deleteTagged_eq_some_iff.mp ⟨deleted, h⟩
  constructor
  · intro hr'
    have hshrink₄ := Schema.deleteMany_shrinks hchain.users
    have hshrink₃ := Schema.deleteMany_shrinks hchain.assignments
    have hshrink₂ := Schema.deleteMany_shrinks hchain.reports
    have hshrink₁ := Schema.deleteMany_shrinks hchain.notifications
    have hshrink₅ := Schema.deleteMany_shrinks hchain.organizations
    -- the row is there after every step
    have hr₄ := (hchain.shrinks.trans hshrink₄).mem_between hshrink₅ hr hr'
    have hr₃ := ((hshrink₁.trans hshrink₂).trans hshrink₃).mem_between hshrink₄ hr hr₄
    have hr₂ := (hshrink₁.trans hshrink₂).mem_between hshrink₃ hr hr₃
    have hr₁ := hshrink₁.mem_between hshrink₂ hr hr₂
    have hn := (asks_notifications.mem_iff hchain.notifications hshallow hr).mp hr₁
    have hrep := (hchain.asks_reports.mem_iff hchain.reports hshallow hr₁).mp hr₂
    have hrole := (hchain.mem_assignments_iff hshallow hr₂).mp hr₃
    have huser := (hchain.asks_users.mem_iff hchain.users hshallow hr₃).mp hr₄
    have horg :=
      ((hchain.asks_organizations hchain.users).mem_iff hchain.organizations hshallow hr₄).mp hr'
    refine ⟨fun hid => ?_, fun ht => hrole ht .assignedById (by simp), ?_⟩
    · rcases tagged_of_mem_demoIds hid with rfl | rfl | rfl | rfl
      · exact hn.1 ⟨rfl, hid⟩
      · exact hrep.1 ⟨rfl, hid⟩
      · exact huser.1 ⟨rfl, hid⟩
      · exact horg.1 ⟨rfl, hid⟩
    · intro fk hfk htable hrule id hid hdemo
      rcases tagged_of_mem_demoIds hdemo with ht | ht | ht | ht <;> rw [ht] at hdemo
      · exact hn.2 fk hfk htable hrule ht id hid hdemo
      · exact hrep.2 fk hfk htable hrule ht id hid hdemo
      · exact huser.2 fk hfk htable hrule ht id hid hdemo
      · exact horg.2 fk hfk htable hrule ht id hid hdemo
  · rintro ⟨hkey, hassigned, hrefs⟩
    -- no step takes the row or one of its references
    have hstep : ∀ t₀, ¬ (t = t₀ ∧ r.key ∈ demoIds s t₀) ∧ ∀ fk ∈ relations, fk.table = t →
        fk.onDelete ≠ .restrict → fk.target = t₀ → ∀ id, r.ref fk.column = some id →
          id ∉ demoIds s t₀ := by
      refine fun t₀ => ⟨?_, ?_⟩
      · rintro ⟨rfl, hid⟩
        exact hkey hid
      · rintro fk hfk htable hrule rfl id hid
        exact hrefs fk hfk htable hrule id hid
    have hr₁ := (asks_notifications.mem_iff hchain.notifications hshallow hr).mpr
      (hstep .notification)
    have hr₂ := (hchain.asks_reports.mem_iff hchain.reports hshallow hr₁).mpr (hstep .report)
    have hr₃ : r ∈ (s₃ t).rows := by
      refine (hchain.mem_assignments_iff hshallow hr₂).mpr fun ht => ?_
      simp only [List.mem_cons, List.not_mem_nil, or_false, forall_eq_or_imp, forall_eq]
      exact ⟨hrefs ⟨.internalRoleAssignment, .userId, .user, .cascade⟩ (by decide) ht.symm
        (by decide), hassigned ht⟩
    have hr₄ := (hchain.asks_users.mem_iff hchain.users hshallow hr₃).mpr (hstep .user)
    exact ((hchain.asks_organizations hchain.users).mem_iff hchain.organizations hshallow hr₄).mpr
      (hstep .organization)

/-- No row with the id of a demo row is left. -/
theorem key_not_mem_demoIds {deleted : Deleted} (h : deleteTagged meets s = some (deleted, s'))
    {t : Model} {r : RowOf t} (hr : r ∈ (s' t).rows) : r.key ∉ demoIds s t := by
  obtain ⟨s₁, s₂, s₃, s₄, hchain⟩ := deleteTagged_eq_some_iff.mp ⟨deleted, h⟩
  have hgone : ∀ {s₀ s₁ : Store} {t₀ : Model} {p : RowOf t₀ → Bool}, AsksForDemo s s₀ t₀ p →
      schema.deleteMany meets t₀ p s₀ = some s₁ → Shrinks s₁ s' → t = t₀ →
      r.key ∉ demoIds s t := by
    rintro s₀ s₁ t₀ p hasks hdelete hshrinks rfl hid
    obtain ⟨r₁, hr₁, hkey, -⟩ := hshrinks t r hr
    have hasked := Schema.not_asked_of_mem hdelete hr₁
    rw [hkey, (hasks t r.key).mpr ⟨rfl, hid⟩] at hasked
    cases hasked
  have hshrink₅ := Schema.deleteMany_shrinks hchain.organizations
  have hshrink₄ := (Schema.deleteMany_shrinks hchain.users).trans hshrink₅
  have hshrink₃ := (Schema.deleteMany_shrinks hchain.assignments).trans hshrink₄
  have hshrink₂ := (Schema.deleteMany_shrinks hchain.reports).trans hshrink₃
  intro hid
  rcases tagged_of_mem_demoIds hid with ht | ht | ht | ht
  · exact hgone asks_notifications hchain.notifications hshrink₂ ht hid
  · exact hgone hchain.asks_reports hchain.reports hshrink₃ ht hid
  · exact hgone hchain.asks_users hchain.users hshrink₅ ht hid
  · exact hgone (hchain.asks_organizations hchain.users) hchain.organizations
      (fun _ r hr => ⟨r, hr, rfl, rfl,
      fun _ => .inl rfl⟩) ht hid

/-! ### When the transaction fails -/

/-- A row that is no demo row refers to a demo row by a reference that restricts. The role
assignments do not count, since the transaction deletes those of the demo users and by them. -/
def Refused (s : Store) : Prop :=
  ∃ fk ∈ relations, fk.onDelete = .restrict ∧ fk.table ≠ .internalRoleAssignment ∧
    ∃ r ∈ (s fk.table).rows, r.key ∉ demoIds s fk.table ∧
      ∃ id, r.ref fk.column = some id ∧ id ∈ demoIds s fk.target

/-- The models with a reference that restricts refer to models that nothing takes along, and not to
notifications or reports. -/
theorem restricting_models {fk : ForeignKey Model Reference} (hfk : fk ∈ relations)
    (hrestrict : fk.onDelete = .restrict) : Shallow fk.table ∧ ∀ fk' ∈ relations,
      fk'.table = fk.table → fk'.target ≠ .notification ∧ fk'.target ≠ .report := by
  revert fk
  decide +kernel

/-- A reference that restricts holds a deletion of demo rows back, when the row is none of them and
no cascade takes it along. -/
theorem AsksForDemo.ref_not_mem {s₀ s₁ : Store} {t₀ : Model} {p : RowOf t₀ → Bool}
    (hasks : AsksForDemo s s₀ t₀ p) (hdelete : schema.deleteMany meets t₀ p s₀ = some s₁)
    {fk : ForeignKey Model Reference} (hfk : fk ∈ relations) (hrestrict : fk.onDelete = .restrict)
    (htarget : fk.target = t₀) {r : RowOf fk.table} (hr : r ∈ (s₀ fk.table).rows)
    (hstays : ¬ (fk.table = t₀ ∧ r.key ∈ demoIds s t₀))
    (hcascade : ∀ fk' ∈ relations, fk'.table = fk.table → fk'.onDelete = .cascade →
      fk'.target ≠ t₀) {id : String} (hid : r.ref fk.column = some id) : id ∉ demoIds s t₀ := by
  intro hdemo
  obtain ⟨hheld, -⟩ := Schema.deleteMany_eq_some.mp hdelete
  rw [← Bool.not_eq_true, Schema.held_iff] at hheld
  refine hheld ⟨fk, hfk, hrestrict, r, hr, ?_, .inl ?_⟩
  · refine Row.refersTo_iff.mpr ⟨id, hid, Schema.gone_iff.mpr (.inl ?_)⟩
    exact (hasks _ _).mpr ⟨htarget, hdemo⟩
  · rw [← Bool.not_eq_true, Schema.gone_iff, not_or]
    refine ⟨fun hasked => hstays ((hasks _ _).mp hasked), ?_⟩
    rintro ⟨fk', hfk', htable', hrule', r', hr', -, href⟩
    obtain ⟨id', -, hgone⟩ := Row.refersTo_iff.mp href
    have hshallow := (restricting_models hfk hrestrict).1 fk' hfk' htable'
    rw [Schema.gone_iff_asked hshallow, hasks] at hgone
    exact hcascade fk' hfk' htable' hrule' hgone.1

theorem Deletion.not_refused {s₁ s₂ s₃ s₄ : Store} (h : Deletion meets s s₁ s₂ s₃ s₄ s') :
    ¬ Refused s := by
  rintro ⟨fk, hfk, hrestrict, htable, r, hr, hkey, id, hid, hdemo⟩
  obtain ⟨hshallow, hno⟩ := restricting_models hfk hrestrict
  have hstays : ∀ t₀, ¬ (fk.table = t₀ ∧ r.key ∈ demoIds s t₀) := by
    rintro t₀ ⟨rfl, hin⟩
    exact hkey hin
  -- the first three steps leave the row as it is
  have hr₁ := (asks_notifications.mem_iff h.notifications hshallow hr).mpr
    ⟨hstays _, fun fk' hfk' ht _ htarget => absurd htarget (hno fk' hfk' ht).1⟩
  have hr₂ := (h.asks_reports.mem_iff h.reports hshallow hr₁).mpr
    ⟨hstays _, fun fk' hfk' ht _ htarget => absurd htarget (hno fk' hfk' ht).2⟩
  have hr₃ := (h.mem_assignments_iff hshallow hr₂).mpr fun ht => absurd ht htable
  have huserCascade : ∀ fk ∈ relations, fk.onDelete = .restrict →
      fk.table ≠ .internalRoleAssignment → ∀ fk' ∈ relations, fk'.table = fk.table →
        fk'.onDelete = .cascade → fk'.target ≠ .user := by decide +kernel
  have hmodels : ∀ fk ∈ relations, fk.onDelete = .restrict → fk.target = .user ∨
      fk = ⟨.report, .organizationId, .organization, .restrict⟩ := by decide +kernel
  rcases hmodels fk hfk hrestrict with htarget | rfl
  · rw [htarget] at hdemo
    exact h.asks_users.ref_not_mem h.users hfk hrestrict htarget hr₃ (hstays _)
      (huserCascade fk hfk hrestrict htable) hid hdemo
  · -- a report may have lost its provider, but not its organization
    obtain ⟨-, hsettle⟩ := Schema.deleteMany_eq_some.mp h.users
    have hcascade : ∀ fk' ∈ relations, fk'.table = .report → fk'.onDelete ≠ .cascade := by decide
    have hcolumn : ∀ fk' ∈ relations, fk'.table = .report → fk'.column = .organizationId →
        fk'.onDelete ≠ .setNull := by decide
    set asked := Schema.asked s₃ .user (fun row => decide (row.key ∈ demoIds s .user)) with hasked
    have hr₄ : (schema.clear _ (schema.gone s₃ asked) .report).apply r ∈ (s₄ .report).rows := by
      rw [← hsettle]
      refine Schema.mem_settle_iff.mpr ⟨r, hr₃, ?_, rfl⟩
      rw [← Bool.not_eq_true, Schema.gone_iff_asked hcascade, hasked, h.asks_users]
      exact hstays _
    refine (h.asks_organizations h.users).ref_not_mem h.organizations hfk rfl rfl hr₄ (by simp)
      (fun fk' hfk' ht hrule _ => hcascade fk' hfk' ht hrule) ?_ hdemo
    have hkept : schema.cleared (schema.gone s₃ asked) .report r .organizationId = false := by
      rw [← Bool.not_eq_true, Schema.cleared_iff]
      rintro ⟨fk', hfk', ht, hcol, hrule, -⟩
      exact hcolumn fk' hfk' ht hcol hrule
    show (if schema.cleared (schema.gone s₃ asked) .report r .organizationId then none
      else r.ref .organizationId) = some id
    rw [hkept]
    exact hid

/-- What holds a deletion of demo rows back is a reference to one of them. -/
theorem AsksForDemo.held {s₀ : Store} {t₀ : Model} {p : RowOf t₀ → Bool}
    (hasks : AsksForDemo s s₀ t₀ p) (hdelete : schema.deleteMany meets t₀ p s₀ = none) :
    ∃ fk ∈ relations, fk.onDelete = .restrict ∧ fk.target = t₀ ∧ ∃ r ∈ (s₀ fk.table).rows,
      ∃ id, r.ref fk.column = some id ∧ id ∈ demoIds s t₀ := by
  obtain ⟨fk, hfk, hrestrict, r, hr, href, -⟩ :=
    Schema.held_iff.mp (Schema.deleteMany_eq_none.mp hdelete)
  obtain ⟨id, hid, hgone⟩ := Row.refersTo_iff.mp href
  have htargets : ∀ fk ∈ relations, fk.onDelete = .restrict → ∀ fk' ∈ relations,
      fk'.table = fk.target → fk'.onDelete ≠ .cascade := by decide +kernel
  rw [Schema.gone_iff_asked (htargets fk hfk hrestrict), hasks] at hgone
  exact ⟨fk, hfk, hrestrict, hgone.1, r, hr, id, hid, hgone.2⟩

/-- A reference that restricts and that the first steps leave is one of a row that is no demo
row. -/
theorem FirstSteps.refused {s₁ s₂ s₃ : Store} (h : FirstSteps meets s s₁ s₂ s₃)
    {fk : ForeignKey Model Reference} (hfk : fk ∈ relations) (hrestrict : fk.onDelete = .restrict)
    {r₃ : RowOf fk.table} (hr₃ : r₃ ∈ (s₃ fk.table).rows) {id : String}
    (hid : r₃.ref fk.column = some id) (hdemo : id ∈ demoIds s fk.target) : Refused s := by
  obtain ⟨r, hr, hkey, href⟩ := h.shrinks.ref_before hr₃ hid
  refine ⟨fk, hfk, hrestrict, fun htable => ?_, r, hr, fun hin => ?_, id, href, hdemo⟩
  · -- the role assignments by demo users are gone
    have honly : ∀ fk ∈ relations, fk.onDelete = .restrict → fk.table = .internalRoleAssignment →
        fk = ⟨.internalRoleAssignment, .assignedById, .user, .restrict⟩ := by decide
    obtain rfl := honly fk hfk hrestrict htable
    obtain ⟨r₂, hr₂, hkey₂, href₂⟩ :=
      (Schema.deleteMany_shrinks h.assignments).ref_before hr₃ hid
    have hasked := Schema.not_asked_of_mem h.assignments hr₃
    rw [Schema.asked_iff.mpr ⟨rfl, r₂, hr₂, hkey₂, ?_⟩] at hasked
    · cases hasked
    · simp only [assignmentOf, href₂, Option.any_some, decide_eq_true hdemo, Bool.or_true]
  · -- and so are the demo reports
    have hmodels : ∀ fk ∈ relations, fk.onDelete = .restrict → fk.table ≠ .notification ∧
        fk.table ≠ .user ∧ fk.table ≠ .organization := by decide
    obtain ⟨hn, huser, horg⟩ := hmodels fk hfk hrestrict
    rcases tagged_of_mem_demoIds hin with ht | ht | ht | ht
    · exact hn ht
    · obtain ⟨r₂, hr₂, hkey₂, -⟩ := (Schema.deleteMany_shrinks h.assignments).ref_before hr₃ hid
      have hasked := Schema.not_asked_of_mem h.reports hr₂
      rw [(h.asks_reports _ _).mpr ⟨ht, ?_⟩] at hasked
      · cases hasked
      · rw [hkey₂, ← hkey, ← ht]
        exact hin
    · exact huser ht
    · exact horg ht

/-- **When the transaction fails.** -/
theorem deleteTagged_eq_none_iff : deleteTagged meets s = none ↔ Refused s := by
  constructor
  · intro hnone
    have hno : ∀ s' s₁ s₂ s₃ s₄, ¬ Deletion meets s s₁ s₂ s₃ s₄ s' := by
      intro s' s₁ s₂ s₃ s₄ h
      obtain ⟨deleted, hsome⟩ := deleteTagged_eq_some_iff.mpr ⟨s₁, s₂, s₃, s₄, h⟩
      rw [hnone] at hsome
      cases hsome
    obtain ⟨s₁, h₁⟩ := exists_deletion meets [.notification] (by decide)
      (demoEnvironmentWhere .notification) s
    obtain ⟨s₂, h₂⟩ := exists_deletion meets
      [.report, .reportMessage, .reportActivity] (by decide)
      (demoEnvironmentWhere .report) s₁
    obtain ⟨s₃, h₃⟩ := exists_deletion meets [.internalRoleAssignment] (by decide)
      (assignmentOf (demoIds s .user)) s₂
    have h : FirstSteps meets s s₁ s₂ s₃ := ⟨h₁, h₂, h₃⟩
    cases h₄ : schema.deleteMany meets .user (fun row => decide (row.key ∈ demoIds s .user)) s₃ with
    | none =>
      obtain ⟨fk, hfk, hrestrict, htarget, r₃, hr₃, id, hid, hdemo⟩ := h.asks_users.held h₄
      exact h.refused hfk hrestrict hr₃ hid (htarget ▸ hdemo)
    | some s₄ =>
      cases h₅ : schema.deleteMany meets .organization
        (fun row => decide (row.key ∈ demoIds s .organization)) s₄ with
      | none =>
        obtain ⟨fk, hfk, hrestrict, htarget, r₄, hr₄, id, hid, hdemo⟩ :=
          (h.asks_organizations h₄).held h₅
        obtain ⟨r₃, hr₃, -, href⟩ := (Schema.deleteMany_shrinks h₄).ref_before hr₄ hid
        exact h.refused hfk hrestrict hr₃ href (htarget ▸ hdemo)
      | some s' => exact absurd ⟨h, h₄, h₅⟩ (hno s' s₁ s₂ s₃ s₄)
  · intro hrefused
    cases hdelete : deleteTagged meets s with
    | none => rfl
    | some result =>
      obtain ⟨s₁, s₂, s₃, s₄, h⟩ := deleteTagged_eq_some_iff.mp ⟨result.1, hdelete⟩
      exact absurd hrefused h.not_refused

end FixZone.DemoDataService
