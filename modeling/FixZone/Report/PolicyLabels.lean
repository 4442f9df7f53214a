import FixZone.Report.CategoryPolicy
import FixZone.Report.CompletionNotices

/-!
# Where the policy of a completion comes from

Each submission of a completion resolves its policy and stores it with the name of its source,
and `resolveCompletionPolicy` takes a stored policy for an override of the report. So a
report that is submitted once more after rework keeps the policy of its first submission,
whatever has been set since, and calls it an override. The policies are resolved afresh and
labelled truthfully along a run exactly where each submission of a report that nobody has
overridden is its first (`resolves_afresh_iff`).
-/

namespace FixZone.ReportService

open Library Organization

/-! ### Runs in which policies are set -/

/-- The reports, the policies that are set for categories, and the reports whose policy was
overridden, which is recorded here only. -/
structure PolicyWorld where
  store : Store
  organizations : List ResponsibilityOrganizationProfile := []
  completionPoliciesByCategory : Option Json := none
  overridden : List String := []

/-- A request about a report, or the setting of a policy. -/
inductive PolicyEvent where
  | request (event : Event)
  | setCategoryCompletionPolicy (ctx : PolicyChangeContext) (env : Env) (user : JwtUser)
      (dto : AdminCategoryCompletionPolicyDto)

/-- The surroundings of a request, with the policies that are set. -/
def PolicyWorld.surroundings (w : PolicyWorld) (env : Env) : Env :=
  { env with
    organizations := w.organizations
    completionPoliciesByCategory := w.completionPoliciesByCategory }

/-- A request as it is made in a world. -/
def PolicyWorld.event (w : PolicyWorld) (event : Event) : Event :=
  { event with env := w.surroundings event.env }

/-- The report whose policy a request overrides. -/
def overriddenBy (cfg : Config) (s : Store) (event : Event) : Option String :=
  match event.request with
  | .call (.adminOverrideCompletionPolicy reportId policy reason) =>
    ((adminOverrideCompletionPolicy cfg s reportId policy reason event.user).toOption).map
      fun _ => reportId
  | _ => none

/-- One step. The audit log is written after the policy, so what becomes of its entry makes no
difference to the policies. -/
def policyStep (cfg : Config) (event : PolicyEvent) (w : PolicyWorld) : PolicyWorld :=
  match event with
  | .request event =>
    { w with
      store := step cfg (w.event event) w.store
      overridden := w.overridden ++ (overriddenBy cfg w.store event).toList }
  | .setCategoryCompletionPolicy ctx env user dto =>
    match setCategoryCompletionPolicy { ctx with audit := fun _ => .ok ⟨⟩ } (w.surroundings env)
      user dto with
    | .ok (_, env') =>
      { w with
        organizations := env'.organizations
        completionPoliciesByCategory := env'.completionPoliciesByCategory }
    | .error _ => w

/-! ### What is asked of a run -/

/-- The source of a policy is an override of the report. -/
def NamesOverride (source : Option String) : Prop :=
  source = some "REPORT_OVERRIDE" ∨ source = some "SUPER_ADMIN_REPORT_OVERRIDE"

/-- Only the policy of a report that was overridden is called an override. -/
def TruthfulLabels (w : PolicyWorld) : Prop :=
  ∀ id r, w.store.report? id = some r → NamesOverride r.completionPolicySource → r.id ∈ w.overridden

/-- A submission of a report that nobody has overridden records the policy that the rules yield
for it as one without a policy. -/
def RecordsAfresh (cfg : Config) (w : PolicyWorld) (event : PolicyEvent) : Prop :=
  ∀ request, event = .request request →
    ∀ r dto, SubmitsCompletion cfg w.store (w.event request) r dto → r.id ∉ w.overridden →
      ∃ policy r', resolveCompletionPolicy cfg (w.surroundings request.env)
          { r with completionPolicy := none } = some policy ∧
        (policyStep cfg event w).store.report? r.id = some r' ∧
        r'.completionPolicy = some policy.policy

/-- A report that is submitted without having been overridden has no policy yet. -/
def FirstSubmission (cfg : Config) (w : PolicyWorld) (event : PolicyEvent) : Prop :=
  ∀ request, event = .request request →
    ∀ r dto, SubmitsCompletion cfg w.store (w.event request) r dto → r.id ∉ w.overridden →
      r.completionPolicy = none

variable {cfg : Config} {env : Env} {w : PolicyWorld}

/-! ### Sources -/

/-- A report without a policy is not said to have an override. -/
theorem not_namesOverride_of_resolve {r : Report} {policy : CompletionPolicyResolution}
    (hnone : r.completionPolicy = none) (h : resolveCompletionPolicy cfg env r = some policy) :
    ¬NamesOverride (some policy.source) := by
  simp only [resolveCompletionPolicy, hnone] at h
  cases horganization : completionPolicyFromCategoryMap
      ((env.organization? r.organizationId).bind (·.profileData)) r.category with
  | none => simp [horganization] at h
  | some answer =>
    cases answer with
    | some own =>
      obtain rfl : _ = policy := by simpa [horganization] using h
      simp [NamesOverride]
    | none =>
      cases hplatform : completionPolicyFromPlatformCategory cfg env r.category with
      | none => simp [horganization, hplatform] at h
      | some answer =>
        cases answer with
        | some platform =>
          obtain rfl : _ = policy := by simpa [horganization, hplatform] using h
          simp [NamesOverride]
        | none =>
          simp only [horganization, hplatform, Option.bind_eq_bind, Option.bind_some] at h
          split at h
          · obtain rfl := Option.some.inj h
            simp [NamesOverride]
          · split at h
            · obtain rfl := Option.some.inj h
              simp [NamesOverride]
            · obtain ⟨dual, -, h⟩ := Option.bind_eq_some_iff.mp h
              split at h
              all_goals
                obtain rfl := Option.some.inj h
                simp [NamesOverride]

/-! ### What a step does to the label of a report -/

/-- The change of a report keeps its label, or is a submission or an override. -/
theorem change_completionPolicySource {s : Store} {event : Event} {call : Call} {r r' : Report}
    (hrequest : event.request = .call call) (hrow : s.report? r.id = some r)
    (h : Change cfg event.env s event.user call r r') :
    r'.id = r.id ∧ (r'.completionPolicySource = r.completionPolicySource ∨
      (∃ dto policy, SubmitsCompletion cfg s event r dto ∧
        resolveCompletionPolicy cfg event.env r = some policy ∧
        r'.completionPolicySource = some policy.source) ∨
      overriddenBy cfg s event = some r.id) := by
  cases h with
  | @submitCompletion _ dto policy hready hallowed hcompleted hpolicy =>
    refine ⟨rfl, .inr (.inl ⟨dto, policy, ?_, hpolicy.policy, rfl⟩)⟩
    exact ⟨hrequest, hrow, hcompleted, hready, hallowed, policy, hpolicy⟩
  | @adminOverrideCompletionPolicy _ policy reason hallowed hopen hpolicy =>
    refine ⟨rfl, .inr (.inr ?_)⟩
    have hread := adminOverrideCompletionPolicy_eq_ok.mpr
      ⟨r, hrow, hallowed, hopen, hpolicy, rfl⟩
    simp only [overriddenBy, hrequest, hread]
    rfl
  | @uploadReportEvidence _ _ saved => cases saved <;> exact ⟨rfl, .inl rfl⟩
  | _ => exact ⟨rfl, .inl rfl⟩

/-- The policy of an override is asked of the request, not of the settings. -/
theorem overriddenBy_event (request : Event) :
    overriddenBy cfg w.store (w.event request) = overriddenBy cfg w.store request := rfl

/-- A submission stores the policy that it resolves. -/
theorem SubmitsCompletion.stores {s : Store} {event : Event} {r : Report}
    {dto : UpdateReportStatusDto} (h : SubmitsCompletion cfg s event r dto) :
    ∃ policy r', resolveCompletionPolicy cfg event.env r = some policy ∧
      (step cfg event s).report? r.id = some r' ∧ r'.completionPolicy = some policy.policy ∧
      r'.completionPolicySource = some policy.source := by
  obtain ⟨policy, hready⟩ := h.evidence
  exact ⟨policy, _, hready.policy,
    (Change.submitCompletion h.ready h.allowed h.completed hready).takes_place h.request h.row rfl,
    rfl, rfl⟩

/-- A submission overrides nothing. -/
theorem SubmitsCompletion.overriddenBy_eq {s : Store} {event : Event} {r : Report}
    {dto : UpdateReportStatusDto} (h : SubmitsCompletion cfg s event r dto) :
    overriddenBy cfg s event = none := by
  rw [overriddenBy, h.request]

/-! ### Labels -/

/-- A request leaves the labels truthful where what it submits is submitted for the first time. -/
theorem truthfulLabels_request {request : Event} (hw : TruthfulLabels w)
    (hfirst : ∀ r dto, SubmitsCompletion cfg w.store (w.event request) r dto →
      r.id ∉ w.overridden → r.completionPolicy = none) :
    TruthfulLabels (policyStep cfg (.request request) w) := by
  refine step_forall (P := fun r => NamesOverride r.completionPolicySource →
    r.id ∈ w.overridden ++ (overriddenBy cfg w.store request).toList)
    (fun dto organizationId locationSource intakeRoute hnames => ?_)
    (fun r r' hrow hr hchange => ?_)
    (fun id r hrow hnames => List.mem_append_left _ (hw id r hrow hnames))
  · simp [NamesOverride, createdReport] at hnames
  · cases hchange with
    | call hrequest hchange =>
      obtain ⟨hid, hsource⟩ := change_completionPolicySource hrequest hrow hchange
      rw [hid]
      rcases hsource with hsame | ⟨dto, policy, hsubmits, hpolicy, hsource⟩ | hoverridden
      · rwa [hsame]
      · intro hnames
        by_cases hmem : r.id ∈ w.overridden
        · exact List.mem_append_left _ hmem
        · rw [hsource] at hnames
          exact absurd hnames
            (not_namesOverride_of_resolve (hfirst r dto hsubmits hmem) hpolicy)
      · rw [overriddenBy_event] at hoverridden
        intro _
        simp [hoverridden]
    | reassign hrequest hreassigned =>
      have hsame : r'.id = r.id ∧ r'.completionPolicySource = r.completionPolicySource := by
        cases hreassigned <;> exact ⟨rfl, rfl⟩
      rwa [hsame.1, hsame.2]

/-- From truthful labels a step goes to truthful labels exactly where what it submits is submitted
for the first time. -/
theorem truthfulLabels_step_iff (hw : TruthfulLabels w) (event : PolicyEvent) :
    TruthfulLabels (policyStep cfg event w) ↔ FirstSubmission cfg w event := by
  cases event with
  | request request =>
    constructor
    · rintro hafter _ ⟨⟩ r dto hsubmits hmem
      by_contra hpolicy
      obtain ⟨stored, hstored⟩ := Option.ne_none_iff_exists'.mp hpolicy
      obtain ⟨policy, r', hresolved, hrow, -, hsource⟩ := hsubmits.stores
      obtain rfl : ⟨stored, "REPORT_OVERRIDE"⟩ = policy := by
        simpa [resolveCompletionPolicy, hstored] using hresolved
      have hid : r'.id = r.id := id_of_report? hrow
      have hoverridden := hafter _ r' hrow (.inl hsource)
      rw [hid] at hoverridden
      rcases List.mem_append.mp hoverridden with hbefore | hnow
      · exact hmem hbefore
      · rw [← overriddenBy_event, hsubmits.overriddenBy_eq] at hnow
        exact List.not_mem_nil hnow
    · exact fun hfirst => truthfulLabels_request hw fun r dto => hfirst request rfl r dto
  | setCategoryCompletionPolicy ctx env user dto =>
    refine iff_of_true ?_ (fun _ hrequest => PolicyEvent.noConfusion hrequest)
    rw [policyStep]
    split <;> exact hw

/-- What is submitted for the first time is resolved afresh. -/
theorem FirstSubmission.recordsAfresh {event : PolicyEvent} (h : FirstSubmission cfg w event) :
    RecordsAfresh cfg w event := by
  rintro request rfl r dto hsubmits hmem
  have hnone := h request rfl r dto hsubmits hmem
  obtain ⟨policy, r', hpolicy, hrow, hstored, -⟩ := hsubmits.stores
  refine ⟨policy, r', ?_, hrow, hstored⟩
  rw [← hnone]
  exact hpolicy

/-- **Policies afresh.** Along a run from a state whose labels are truthful, every submission of a
report that nobody has overridden is resolved afresh and every label is truthful exactly where
each of these submissions is the first of its report. -/
theorem resolves_afresh_iff (cfg : Config) {w : PolicyWorld} (hw : TruthfulLabels w)
    (events : List PolicyEvent) :
    (Along (policyStep cfg) (RecordsAfresh cfg) w events ∧
      Throughout (policyStep cfg) TruthfulLabels w events) ↔
      Along (policyStep cfg) (FirstSubmission cfg) w events := by
  rw [throughout_iff_along (I := TruthfulLabels) (Q := FirstSubmission cfg)
    (fun _ event hlabels => truthfulLabels_step_iff hlabels event) hw events]
  exact ⟨And.right, fun h => ⟨h.mono fun _ _ => FirstSubmission.recordsAfresh, h⟩⟩

namespace Example

/-- A platform without reports, on which no policy is set. -/
def newPlatform : PolicyWorld where
  store := Store.empty

theorem truthfulLabels_newPlatform : TruthfulLabels newPlatform := fun _ _ h => by cases h

/-- The platform asks the organization to confirm works of lighting. -/
def lightingPolicySet : PolicyEvent :=
  .setCategoryCompletionPolicy { reportCategories := ["Lighting"] } (surroundings 7) superAdmin
    { category := "Lighting", policy := .organizationConfirmationRequired, reason := "Pilot" }

/-- The report is dispatched, and its provider starts the work. -/
def workStarted : List Event :=
  dispatched ++ [at_ 4 provider (.updateStatus "report" { status := .inProgress })]

/-- A policy is set for the category of the report before it is submitted for the first time. -/
def submittedRun : List PolicyEvent :=
  workStarted.map .request ++ [lightingPolicySet, .request resubmitted]

/-- A completion is sent back, a policy is set for its category, and it is submitted once more. -/
def resubmittedRun : List PolicyEvent :=
  reworked.map .request ++ [lightingPolicySet, .request resubmitted]

end Example

/-- Only a status update submits a completion. -/
theorem firstSubmission_of_not_completing {event : Event}
    (h : ∀ reportId dto, event.request = .call (.updateStatus reportId dto) →
      dto.status ≠ .completedByProvider) (w : PolicyWorld) :
    FirstSubmission cfg w (.request event) := by
  rintro _ ⟨⟩ r dto hsubmits -
  exact absurd hsubmits.completed (h r.id dto hsubmits.request)

open Example in
/-- The first submission records the policy that was set for the category, and names its source. -/
theorem first_submission_resolved_afresh :
    ((run (policyStep {}) newPlatform submittedRun).store.report? "report").map
        (fun r => (r.completionPolicy, r.completionPolicySource)) =
      some (some .organizationConfirmationRequired, some "PLATFORM_SERVICE_CATEGORY") ∧
    Along (policyStep {}) (RecordsAfresh {}) newPlatform submittedRun ∧
      Throughout (policyStep {}) TruthfulLabels newPlatform submittedRun := by
  refine ⟨by decide +kernel, (resolves_afresh_iff {} truthfulLabels_newPlatform _).mpr
    (along_append.mpr ⟨along_of_forall ?_ _, ?_, ?_, trivial⟩)⟩
  · have hstarted : ∀ event ∈ workStarted, ∀ reportId dto,
        event.request = .call (.updateStatus reportId dto) → dto.status ≠ .completedByProvider := by
      intro event hevent reportId dto hcall
      simp only [workStarted, dispatched, List.cons_append, List.nil_append, List.mem_cons,
        List.not_mem_nil, or_false] at hevent
      rcases hevent with rfl | rfl | rfl | rfl | rfl <;> cases hcall <;> decide
    intro event hevent
    obtain ⟨request, hrequest, rfl⟩ := List.mem_map.mp hevent
    exact firstSubmission_of_not_completing (hstarted request hrequest)
  · exact fun _ hrequest => PolicyEvent.noConfusion hrequest
  · rintro _ ⟨⟩ r dto hsubmits -
    have hfresh : ((run (policyStep {}) newPlatform
        (workStarted.map .request ++ [lightingPolicySet])).store.report? "report").map
        (·.completionPolicy) = some none := by
      decide +kernel
    have hid : "report" = r.id := (Call.updateStatus.inj (Request.call.inj hsubmits.request)).1
    have hrow := hid ▸ hsubmits.row
    rw [run_append, run_cons, run_nil, hrow] at hfresh
    exact Option.some.inj hfresh

open Example in
/-- The second submission is called an override of the report, which nobody has made. -/
theorem second_submission_labelled_override :
    ¬∀ (cfg : Config) (w : PolicyWorld) (events : List PolicyEvent), TruthfulLabels w →
      Along (policyStep cfg) (RecordsAfresh cfg) w events ∧
        Throughout (policyStep cfg) TruthfulLabels w events := by
  intro h
  obtain ⟨-, hlabels⟩ := h {} newPlatform resubmittedRun truthfulLabels_newPlatform
  have htruthful := throughout_iff.mp hlabels resubmittedRun [] (List.append_nil _).symm
  have hcolumns : ((run (policyStep {}) newPlatform resubmittedRun).store.report? "report").map
      (·.completionPolicySource) = some (some "REPORT_OVERRIDE") := by decide +kernel
  have hnobody : (run (policyStep {}) newPlatform resubmittedRun).overridden = [] := by
    decide +kernel
  obtain ⟨r, hrow, hsource⟩ := Option.map_eq_some_iff.mp hcolumns
  have hoverridden := htruthful "report" r hrow (.inl hsource)
  rw [hnobody] at hoverridden
  exact List.not_mem_nil hoverridden

end FixZone.ReportService
