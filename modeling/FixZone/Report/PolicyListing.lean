import FixZone.Library.Partial
import FixZone.Report.CategoryPolicy

/-!
# The listed completion policies

`getCategoryCompletionPolicies` shows an administrator a policy for every service category.
It looks the category up in the platform's record as `resolveCompletionPolicy` does, and
then falls back at once. The resolver goes on to the record of the environment and ends
with a default of its own for operational categories. `listed_policy_applies_iff` says for
which configurations what is shown is what applies.
-/

namespace FixZone.ReportService

open Library Organization

/-! ### The listing -/

/-- A category with its policy, as `getCategoryCompletionPolicies` lists it. -/
structure CategoryPolicyRow where
  category : String
  label : String
  policy : Option CompletionPolicy
  source : String
  fallbackPolicy : CompletionPolicy

/-- The policy an administrator is shown. -/
def CategoryPolicyRow.shown (row : CategoryPolicyRow) : CompletionPolicy :=
  row.policy.getD row.fallbackPolicy

/-- What `getCategoryCompletionPolicies` returns. -/
structure CategoryPolicyListing where
  scope : String := "PLATFORM_SERVICE_CATEGORY"
  categories : List CategoryPolicyRow
  policies : List CompletionPolicy := CompletionPolicy.all
  automatedSchedulerActive : Bool := false
  schedulerRequirement : String :=
    "Invoke the protected deadline endpoint from an approved cron " ++
    "or worker until a scheduler module is enabled."

/-- `FIXZONE_COMPLETION_POLICY`, if it is a policy. -/
def configuredPolicy (cfg : Config) : Option CompletionPolicy :=
  normalizeCompletionPolicy (cfg.completionPolicy.map Json.str)

/-- The row of a label; `none` is a `TypeError`. -/
def categoryPolicyRow (cfg : Config) (env : Env) (label : String) : Option CategoryPolicyRow := do
  let category := normalizeResponsibilityCategory label
  let policy ← policyFromCategoryRecord env.completionPoliciesByCategory category
  return {
    category
    label
    policy
    source := if policy.isSome then "PLATFORM_SERVICE_CATEGORY" else "FALLBACK"
    fallbackPolicy := (configuredPolicy cfg).getD .citizenConfirmationRequired }

/-- `getCategoryCompletionPolicies`; the service categories are those of all users. -/
def getCategoryCompletionPolicies (cfg : Config) (env : Env) (s : Store)
    (serviceCategories : List (Option Json)) (user : JwtUser) :
    Except HttpError CategoryPolicyListing := do
  user.assertSuperAdmin
  let reportCategories := (s.reports.rows.map (·.category)).filter (· ≠ "")
  let providerCategories ← orThrow (serviceCategories.mapM jsonStringList) typeError
  let categoryLabels := collectStringList cfg.locale
    (categoryCapabilityAliases.map Prod.fst ++ reportCategories ++ providerCategories.flatten)
  let categories ← orThrow (categoryLabels.mapM (categoryPolicyRow cfg env)) typeError
  return { categories }

variable {cfg : Config} {env : Env} {s : Store} {user : JwtUser}

/-- A row that is listed shows what the platform's record answers for its category. -/
theorem record_of_listed {serviceCategories : List (Option Json)} {listing : CategoryPolicyListing}
    {row : CategoryPolicyRow}
    (h : getCategoryCompletionPolicies cfg env s serviceCategories user = .ok listing)
    (hrow : row ∈ listing.categories) :
    normalizeResponsibilityCategory row.category = row.category ∧
      policyFromCategoryRecord env.completionPoliciesByCategory row.category = some row.policy ∧
      row.fallbackPolicy = (configuredPolicy cfg).getD .citizenConfirmationRequired := by
  unfold getCategoryCompletionPolicies at h
  obtain ⟨⟨⟩, -, h⟩ := bind_eq_ok.mp h
  simp only [orThrow_bind_eq_ok, pure_eq_ok] at h
  obtain ⟨_, -, categories, hcategories, rfl⟩ := h
  obtain ⟨label, -, _, hlabel, rfl⟩ :=
    (exists_mem_mapM_iff hcategories (P := fun listed => listed = row)).mp ⟨row, hrow, rfl⟩
  obtain ⟨policy, hpolicy, hlabel⟩ := Option.bind_eq_some_iff.mp hlabel
  obtain rfl := Option.some.inj hlabel
  exact ⟨normalizeResponsibilityCategory_idem label, hpolicy, rfl⟩

/-! ### What applies -/

/-- Neither the report nor its organization says anything about the policy. -/
structure NoPolicyOverride (env : Env) (report : Report) : Prop where
  own : report.completionPolicy = none
  category : completionPolicyFromCategoryMap
    ((env.organization? report.organizationId).bind (·.profileData)) report.category = some none
  profile : completionPolicyFromProfile
    ((env.organization? report.organizationId).bind (·.profileData)) = none

/-- The policy of a category that no record has one for; `none` is a `TypeError`. -/
def defaultPolicy (cfg : Config) (category : String) : Option CompletionPolicy :=
  match configuredPolicy cfg with
  | some configured => some configured
  | none => (requiresDualCompletionByDefault category).map fun dual =>
      if dual then .bothRequired else .citizenConfirmationRequired

/-- The policy of a report without overrides is what the platform has for its category. -/
theorem resolveCompletionPolicy_of_noOverride {report : Report} (h : NoPolicyOverride env report) :
    (resolveCompletionPolicy cfg env report).map (·.policy) =
      (completionPolicyFromPlatformCategory cfg env report.category).bind fun answer =>
        answer.elim (defaultPolicy cfg report.category) some := by
  unfold resolveCompletionPolicy
  simp only [h.own, h.category, h.profile]
  cases completionPolicyFromPlatformCategory cfg env report.category with
  | none => rfl
  | some answer =>
    cases answer with
    | some policy => rfl
    | none =>
      unfold defaultPolicy configuredPolicy
      cases normalizeCompletionPolicy (cfg.completionPolicy.map Json.str) with
      | some configured => rfl
      | none =>
        cases requiresDualCompletionByDefault report.category with
        | none => rfl
        | some dual => cases dual <;> rfl

/-- The configurations for which what is listed for a category applies to it. -/
structure ListingApplies (cfg : Config) (env : Env) (category : String) : Prop where
  /-- A blank category is compatible with every entry, but is looked up nowhere. -/
  blankSet : category = "" → ∀ policy,
    policyFromCategoryRecord env.completionPoliciesByCategory category = some (some policy) →
      policy = (configuredPolicy cfg).getD .bothRequired
  /-- It is an operational category too. -/
  blankUnset : category = "" →
    policyFromCategoryRecord env.completionPoliciesByCategory category = some none →
      configuredPolicy cfg ≠ none
  /-- The record of the environment has nothing to say but the fallback. -/
  environment : category ≠ "" →
    policyFromCategoryRecord env.completionPoliciesByCategory category = some none →
    ∀ policy, policyFromCategoryRecord cfg.completionCategoryPolicies category =
      some (some policy) → policy = (configuredPolicy cfg).getD .citizenConfirmationRequired
  /-- Without any setting the category is no operational one. -/
  builtIn : category ≠ "" →
    policyFromCategoryRecord env.completionPoliciesByCategory category = some none →
    (∀ policy, policyFromCategoryRecord cfg.completionCategoryPolicies category ≠
      some (some policy)) → configuredPolicy cfg = none →
      requiresDualCompletionByDefault category = some false

/-- What is shown for the blank category applies when it is the default of that category. -/
theorem listingApplies_blank_iff {policy : Option CompletionPolicy}
    (hrecord : policyFromCategoryRecord env.completionPoliciesByCategory "" = some policy) :
    defaultPolicy cfg "" =
        some (policy.getD ((configuredPolicy cfg).getD .citizenConfirmationRequired)) ↔
      ListingApplies cfg env "" := by
  have hdual : requiresDualCompletionByDefault "" = some true := by decide +kernel
  have hdefault : defaultPolicy cfg "" = some ((configuredPolicy cfg).getD .bothRequired) := by
    unfold defaultPolicy
    cases configuredPolicy cfg with
    | some configured => rfl
    | none => rw [hdual]; rfl
  rw [hdefault, Option.some.injEq]
  constructor
  · intro hshown
    refine ⟨fun _ shown hset => ?_, fun _ hunset => ?_, fun hne => absurd rfl hne,
      fun hne => absurd rfl hne⟩
    · rw [hrecord, Option.some.injEq] at hset
      rw [hset] at hshown
      exact hshown.symm
    · rw [hrecord, Option.some.injEq] at hunset
      intro hconfigured
      rw [hunset, hconfigured] at hshown
      cases hshown
  · intro h
    cases policy with
    | some shown => exact (h.blankSet rfl shown hrecord).symm
    | none =>
      obtain ⟨configured, hconfigured⟩ :=
        Option.ne_none_iff_exists'.mp (h.blankUnset rfl hrecord)
      rw [hconfigured]
      rfl

/-- The default is what is shown, unless the category is an operational one and nothing is
configured. -/
theorem defaultPolicy_eq_iff {category : String} :
    defaultPolicy cfg category =
        some ((configuredPolicy cfg).getD .citizenConfirmationRequired) ↔
      (configuredPolicy cfg = none → requiresDualCompletionByDefault category = some false) := by
  unfold defaultPolicy
  cases configuredPolicy cfg with
  | some configured => simp
  | none =>
    cases requiresDualCompletionByDefault category with
    | none => simp
    | some dual => cases dual <;> simp

/-- Where the platform's record is silent, what is shown applies exactly when the records after it
come to the same. -/
theorem listingApplies_unset_iff {category : String} (hne : category ≠ "")
    (hrecord : policyFromCategoryRecord env.completionPoliciesByCategory category = some none) :
    ((policyFromCategoryRecord cfg.completionCategoryPolicies category).getD none).elim
        (defaultPolicy cfg category) some =
        some ((configuredPolicy cfg).getD .citizenConfirmationRequired) ↔
      ListingApplies cfg env category := by
  by_cases hmapped : ∃ policy,
      policyFromCategoryRecord cfg.completionCategoryPolicies category = some (some policy)
  · obtain ⟨policy, hpolicy⟩ := hmapped
    rw [hpolicy]
    change some policy = _ ↔ _
    rw [Option.some.injEq]
    constructor
    · intro hsame
      refine ⟨fun hblank => absurd hblank hne, fun hblank => absurd hblank hne,
        fun _ _ other hother => ?_, fun _ _ hnone => absurd hpolicy (hnone policy)⟩
      rw [hpolicy, Option.some.injEq, Option.some.injEq] at hother
      exact hother.symm.trans hsame
    · intro h
      exact h.environment hne hrecord policy hpolicy
  · have hnone : (policyFromCategoryRecord cfg.completionCategoryPolicies category).getD none =
        none := by
      match hanswer : policyFromCategoryRecord cfg.completionCategoryPolicies category with
      | none | some none => rfl
      | some (some policy) => exact absurd ⟨policy, hanswer⟩ hmapped
    rw [hnone, Option.elim_none, defaultPolicy_eq_iff]
    constructor
    · intro hdefault
      refine ⟨fun hblank => absurd hblank hne, fun hblank => absurd hblank hne,
        fun _ _ policy hpolicy => absurd ⟨policy, hpolicy⟩ hmapped, fun _ _ _ => hdefault⟩
    · intro h
      exact h.builtIn hne hrecord (not_exists.mp hmapped)

/-- **What is shown is what applies.** A policy that is listed for a category is the policy of its
reports without overrides exactly when neither the record of the environment nor the default for
operational categories says otherwise; the blank category has no policy but the default. -/
theorem listed_policy_applies_iff {serviceCategories : List (Option Json)}
    {listing : CategoryPolicyListing} {row : CategoryPolicyRow} {report : Report}
    (h : getCategoryCompletionPolicies cfg env s serviceCategories user = .ok listing)
    (hrow : row ∈ listing.categories)
    (hcategory : normalizeResponsibilityCategory report.category = row.category)
    (hoverride : NoPolicyOverride env report) :
    (resolveCompletionPolicy cfg env report).map (·.policy) = some row.shown ↔
      ListingApplies cfg env row.category := by
  obtain ⟨hnormal, hrecord, hfallback⟩ := record_of_listed h hrow
  have hdefault : defaultPolicy cfg report.category = defaultPolicy cfg row.category := by
    unfold defaultPolicy requiresDualCompletionByDefault
    rw [hcategory, hnormal]
  rw [resolveCompletionPolicy_of_noOverride hoverride, hdefault, CategoryPolicyRow.shown, hfallback,
    completionPolicyFromPlatformCategory, hcategory]
  by_cases hblank : row.category = ""
  · rw [if_pos hblank, hblank]
    rw [hblank] at hrecord
    exact listingApplies_blank_iff hrecord
  · rw [if_neg hblank, hrecord]
    cases hpolicy : row.policy with
    | some policy =>
      rw [hpolicy] at hrecord
      refine iff_of_true rfl ⟨fun h => absurd h hblank, fun h => absurd h hblank,
        fun _ hunset => ?_, fun _ hunset => ?_⟩ <;>
      · rw [hrecord] at hunset
        cases hunset
    | none =>
      rw [hpolicy] at hrecord
      exact listingApplies_unset_iff hblank hrecord

namespace Example

/-- A super administrator. -/
def administrator : JwtUser := { id := "root", role := .superAdmin }

/-- A report of a category on a platform without organizations. -/
def uncommitted (category : String) : Report :=
  { id := "report", organizationId := "org", citizenId := "citizen", category }

theorem uncommitted_noOverride (category : String) :
    NoPolicyOverride {} (uncommitted category) :=
  ⟨rfl, by simp [completionPolicyFromCategoryMap, Env.organization?], rfl⟩

end Example

/-- The aliases of the service categories are listed on an empty platform. -/
theorem listed_of_alias (category : String) (shown : CompletionPolicy)
    (h : (getCategoryCompletionPolicies {} {} Store.empty [] Example.administrator).toOption.any
      fun listing => listing.categories.any fun row =>
        row.category = category ∧ row.shown = shown) :
    ∃ listing row, getCategoryCompletionPolicies {} {} Store.empty [] Example.administrator =
        .ok listing ∧ row ∈ listing.categories ∧ row.category = category ∧ row.shown = shown := by
  obtain ⟨listing, hlisting, hrows⟩ := (Option.any_eq_true _ _).mp h
  obtain ⟨row, hrow, hshown⟩ := List.any_eq_true.mp hrows
  obtain ⟨hcategory, hshown⟩ := of_decide_eq_true hshown
  refine ⟨listing, row, ?_, hrow, hcategory, hshown⟩
  cases hresult : getCategoryCompletionPolicies {} {} Store.empty [] Example.administrator with
  | ok result =>
    rw [hresult] at hlisting
    rw [Option.some.inj hlisting]
  | error e =>
    rw [hresult] at hlisting
    cases hlisting

/-- With nothing configured, waste reports have the policy that is listed for them. -/
theorem waste_policy_applies :
    (resolveCompletionPolicy {} {} (Example.uncommitted "waste")).map (·.policy) =
      some .citizenConfirmationRequired := by
  obtain ⟨listing, row, hlisting, hrow, hcategory, hshown⟩ :=
    listed_of_alias "waste" .citizenConfirmationRequired (by decide +kernel)
  rw [← hshown]
  refine (listed_policy_applies_iff hlisting hrow ?_ (Example.uncommitted_noOverride _)).mpr ?_
  · rw [hcategory]
    decide +kernel
  · rw [hcategory]
    refine ⟨fun h => ?_, fun h => ?_, fun _ _ policy h => ?_, fun _ _ _ _ => by decide +kernel⟩
    · exact absurd h (by decide)
    · exact absurd h (by decide)
    · cases h

/-- With nothing configured, citizens are shown to confirm roadworks, which need both sides. -/
theorem road_policy_differs :
    ¬ ∀ (cfg : Config) (env : Env) (s : Store) (serviceCategories : List (Option Json))
        (user : JwtUser) (listing : CategoryPolicyListing) (row : CategoryPolicyRow)
        (report : Report),
      getCategoryCompletionPolicies cfg env s serviceCategories user = .ok listing →
      row ∈ listing.categories →
      normalizeResponsibilityCategory report.category = row.category →
      NoPolicyOverride env report →
      (resolveCompletionPolicy cfg env report).map (·.policy) = some row.shown := by
  intro h
  obtain ⟨listing, row, hlisting, hrow, hcategory, hshown⟩ :=
    listed_of_alias "road" .citizenConfirmationRequired (by decide +kernel)
  have happlies := h {} {} Store.empty [] Example.administrator listing row
    (Example.uncommitted "road") hlisting hrow (by rw [hcategory]; decide +kernel)
    (Example.uncommitted_noOverride _)
  have hboth : (resolveCompletionPolicy {} {} (Example.uncommitted "road")).map (·.policy) =
      some .bothRequired := by
    decide +kernel
  rw [hboth, hshown] at happlies
  cases happlies

end FixZone.ReportService
