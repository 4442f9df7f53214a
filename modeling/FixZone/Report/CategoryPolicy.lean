import FixZone.Library.FirstAnswer
import FixZone.Report.Completion

/-!
# Completion policies of the service categories

`ReportService.setCategoryCompletionPolicy`: a super administrator sets the completion
policy of a service category, for one organization or for the whole platform. The
platform's policies are one record, from the normalized category to its policy, and a
report looks its own category up in it. The lookup does not ask for the category's own
entry: it takes the first entry of any compatible category that holds a policy. So an entry
ahead of the one that was set may hide it, and the one that was set may hide the entries
behind it; whether the policy took effect depends on the order of the record, which is the
database's.

An exception leaves the state as it was, but for the audit log: its entry is written last,
so that a log that refuses it fails a request whose policy is already stored. Of such a
request nothing is said here.
-/

namespace FixZone.ReportService

open Library Organization

/-! ### Setting a policy -/

/-- `AdminCategoryCompletionPolicyDto`. -/
structure AdminCategoryCompletionPolicyDto where
  category : String
  policy : CompletionPolicy
  organizationId : Option String := none
  reason : String

/-- What the audit log is told of a change. The previous policy is `null` where there was none,
and nothing at all where the record inherits a function under the category's name. -/
structure CategoryPolicyAudit where
  action : String
  actorUserId : String
  actorRole : UserRole
  targetType : String
  targetId : String
  category : String
  previousPolicy : Option Json
  newPolicy : CompletionPolicy
  reason : String

/-- What a change of a policy meets besides the rows it writes: the categories of the reports
and of the providers that the two queries return, the place the database gives a new key among
the entries of a record, and what becomes of an entry for the audit log. -/
structure PolicyChangeContext where
  reportCategories : List String := []
  providerServiceCategories : List (Option Json) := []
  place : String → List (String × Json) → ℕ := fun _ entries => entries.length
  audit : CategoryPolicyAudit → Except HttpError PUnit := fun _ => .ok ⟨⟩

/-- What `setCategoryCompletionPolicy` returns. -/
structure CategoryPolicyChange where
  scope : String
  organizationId : Option String := none
  category : String
  previousPolicy : Option Json
  policy : CompletionPolicy

/-- The entries of a value that is an object and no array; of any other value none. -/
def entriesOf : Option Json → List (String × Json)
  | some (.obj entries) => entries
  | _ => []

/-- `current[normalizedCategory] ?? null`. -/
def previousPolicyOf (current : List (String × Json)) (normalizedCategory : String) :
    Option Json :=
  match current.find? fun entry => entry.1 = normalizedCategory with
  | some entry => some entry.2
  | none => if normalizedCategory = "constructor" then none else some .null

/-- `assertKnownCompletionCategory`. The alias table answers for the inherited `constructor`
as well. -/
def assertKnownCompletionCategory (ctx : PolicyChangeContext) (normalizedCategory : String) :
    Except HttpError PUnit := do
  if (categoryCapabilityAliases.lookup normalizedCategory).isSome ∨
    normalizedCategory = "constructor" then
    return ⟨⟩
  if ← orThrow (ctx.reportCategories.anyM fun category =>
    categoriesCompatible (normalizeResponsibilityCategory category) normalizedCategory)
    typeError then
    return ⟨⟩
  let providerCategories ← orThrow (ctx.providerServiceCategories.mapM jsonStringList) typeError
  if ← orThrow (providerCategories.flatten.anyM fun item =>
    categoriesCompatible (normalizeResponsibilityCategory item) normalizedCategory)
    typeError then
    return ⟨⟩
  .error (badRequest "Unknown service category")

/-- `setCategoryCompletionPolicy` for an organization. -/
def setOrganizationCategoryPolicy (ctx : PolicyChangeContext) (env : Env) (user : JwtUser)
    (dto : AdminCategoryCompletionPolicyDto) (reason normalizedCategory : String) :
    Except HttpError (CategoryPolicyChange × Env) := do
  let organization ← orThrow (env.organization? (dto.organizationId.getD ""))
    (notFound "Organization not found")
  let profile := entriesOf organization.profileData
  let current := entriesOf ((Json.obj profile).field? "completionPoliciesByCategory")
  let previous := previousPolicyOf current normalizedCategory
  let current := setEntry ctx.place normalizedCategory (.str dto.policy.text) current
  let profile := setEntry ctx.place "completionPoliciesByCategory" (.obj current) profile
  ctx.audit
    { action := "Organization Category Completion Policy Updated"
      actorUserId := user.id
      actorRole := user.role
      targetType := "Organization"
      targetId := organization.id
      category := normalizedCategory
      previousPolicy := previous
      newPolicy := dto.policy
      reason }
  return (
    { scope := "ORGANIZATION_SERVICE_CATEGORY"
      organizationId := some organization.id
      category := normalizedCategory
      previousPolicy := previous
      policy := dto.policy },
    { env with organizations := env.organizations.map fun row =>
        if row.id = organization.id then { row with profileData := some (.obj profile) } else row })

/-- `setCategoryCompletionPolicy` for the platform. -/
def setPlatformCategoryPolicy (ctx : PolicyChangeContext) (env : Env) (user : JwtUser)
    (dto : AdminCategoryCompletionPolicyDto) (reason normalizedCategory : String) :
    Except HttpError (CategoryPolicyChange × Env) := do
  let current := entriesOf env.completionPoliciesByCategory
  let previous := previousPolicyOf current normalizedCategory
  let current := setEntry ctx.place normalizedCategory (.str dto.policy.text) current
  ctx.audit
    { action := "Platform Category Completion Policy Updated"
      actorUserId := user.id
      actorRole := user.role
      targetType := "PlatformSetting"
      targetId := "completionPoliciesByCategory"
      category := normalizedCategory
      previousPolicy := previous
      newPolicy := dto.policy
      reason }
  return (
    { scope := "PLATFORM_SERVICE_CATEGORY"
      category := normalizedCategory
      previousPolicy := previous
      policy := dto.policy },
    { env with completionPoliciesByCategory := some (.obj current) })

/-- `setCategoryCompletionPolicy`, with the state after it. -/
def setCategoryCompletionPolicy (ctx : PolicyChangeContext) (env : Env) (user : JwtUser)
    (dto : AdminCategoryCompletionPolicyDto) : Except HttpError (CategoryPolicyChange × Env) := do
  user.assertSuperAdmin
  let reason ← requiredGovernanceReason dto.reason
  let normalizedCategory := normalizeResponsibilityCategory dto.category
  throwIf (normalizedCategory = "") (badRequest "Category is required")
  assertKnownCompletionCategory ctx normalizedCategory
  if truthy dto.organizationId then
    setOrganizationCategoryPolicy ctx env user dto reason normalizedCategory
  else setPlatformCategoryPolicy ctx env user dto reason normalizedCategory

/-- What a successful change for the platform checked, and what it leaves. -/
structure PlatformPolicySet (ctx : PolicyChangeContext) (env : Env) (user : JwtUser)
    (dto : AdminCategoryCompletionPolicyDto) (env' : Env) : Prop where
  superAdmin : user.role = .superAdmin
  reason : trim dto.reason ≠ ""
  category : normalizeResponsibilityCategory dto.category ≠ ""
  known : assertKnownCompletionCategory ctx (normalizeResponsibilityCategory dto.category) = .ok ⟨⟩
  state : env' = { env with
    completionPoliciesByCategory := some (.obj (setEntry ctx.place
      (normalizeResponsibilityCategory dto.category) (.str dto.policy.text)
      (entriesOf env.completionPoliciesByCategory))) }

theorem platformPolicySet_of_eq_ok {ctx : PolicyChangeContext} {env : Env} {user : JwtUser}
    {dto : AdminCategoryCompletionPolicyDto} {change : CategoryPolicyChange} {env' : Env}
    (h : setCategoryCompletionPolicy ctx env user dto = .ok (change, env'))
    (hplatform : truthy dto.organizationId = false) : PlatformPolicySet ctx env user dto env' := by
  unfold setCategoryCompletionPolicy at h
  obtain ⟨⟨⟩, hrole, h⟩ := bind_eq_ok.mp h
  obtain ⟨reason, hreason, h⟩ := bind_eq_ok.mp h
  obtain ⟨hcategory, h⟩ := throwIf_bind_eq_ok.mp h
  obtain ⟨⟨⟩, hknown, h⟩ := bind_eq_ok.mp h
  rw [if_neg (by simp [hplatform]), setPlatformCategoryPolicy] at h
  obtain ⟨⟨⟩, -, h⟩ := bind_eq_ok.mp h
  have hstate := congrArg Prod.snd (pure_eq_ok.mp h)
  exact
    { superAdmin := JwtUser.assertSuperAdmin_eq_ok.mp hrole
      reason := (requiredGovernanceReason_eq_ok.mp hreason).1
      category := hcategory
      known := hknown
      state := hstate.symm }

/-! ### Looking a policy up -/

/-- What an entry of a record of policies answers for a normalized category. A comparison
may throw. -/
def entryAnswer (normalizedCategory : String) (entry : String × Json) :
    Option (Option CompletionPolicy) :=
  (categoriesCompatible (normalizeResponsibilityCategory entry.1) normalizedCategory).map
    fun compatible => if compatible then normalizeCompletionPolicy (some entry.2) else none

theorem policyFromEntries_eq_firstAnswer (normalizedCategory : String)
    (entries : List (String × Json)) :
    policyFromEntries normalizedCategory entries =
      firstAnswer (entryAnswer normalizedCategory) entries := by
  induction entries with
  | nil => rfl
  | cons entry entries ih =>
    obtain ⟨key, value⟩ := entry
    rw [policyFromEntries, firstAnswer, entryAnswer]
    cases hcompatible : categoriesCompatible (normalizeResponsibilityCategory key)
        normalizedCategory with
    | none => rfl
    | some compatible =>
      cases compatible with
      | false => simpa using ih
      | true => cases hvalue : normalizeCompletionPolicy (some value) <;> simp [ih]

theorem policyFromCategoryRecord_eq_firstAnswer (value : Option Json)
    (normalizedCategory : String) :
    policyFromCategoryRecord value normalizedCategory =
      firstAnswer (entryAnswer normalizedCategory) (entriesOf value) := by
  match value with
  | some (.obj entries) => exact policyFromEntries_eq_firstAnswer _ _
  | none | some .null | some (.bool _) | some (.num _) | some (.str _) | some (.arr _) => rfl

/-- What the policy stored under a normalized category answers. -/
theorem entryAnswer_stored {category : String}
    (hnormal : normalizeResponsibilityCategory category = category) (policy : CompletionPolicy)
    (normalizedCategory : String) :
    entryAnswer normalizedCategory (category, .str policy.text) =
      (categoriesCompatible category normalizedCategory).map fun compatible =>
        if compatible then some policy else none := by
  have hpolicy : normalizeCompletionPolicy (some (.str policy.text)) = some policy := by
    cases policy <;> decide +kernel
  rw [entryAnswer, hnormal, hpolicy]

theorem categoriesCompatible_self (category : String) :
    categoriesCompatible category category = some true := by
  unfold categoriesCompatible
  split <;> simp

/-- The organization's own maps give no policy for a category. -/
def NoOverride (organization : ResponsibilityOrganizationProfile) (category : String) : Prop :=
  ∀ policy, completionPolicyFromCategoryMap organization.profileData category ≠
    some (some policy)

theorem NoOverride.eq_some_none {organization : ResponsibilityOrganizationProfile}
    {category : String} (h : NoOverride organization category)
    (hthrows : completionPolicyFromCategoryMap organization.profileData category ≠ none) :
    completionPolicyFromCategoryMap organization.profileData category = some none := by
  match hanswer : completionPolicyFromCategoryMap organization.profileData category with
  | none => exact absurd hanswer hthrows
  | some none => rfl
  | some (some policy) => exact absurd hanswer (h policy)

theorem Env.organization?_id {env : Env} {id : String}
    {organization : ResponsibilityOrganizationProfile}
    (h : env.organization? id = some organization) :
    env.organization? organization.id = some organization := by
  have hid : organization.id = id := by simpa using List.find?_some h
  rw [hid]
  exact h

/-- The record has an entry for the category itself, and a policy in it. -/
def HasEntry (entries : List (String × Json)) (normalizedCategory : String) : Prop :=
  ∃ entry ∈ entries, normalizeResponsibilityCategory entry.1 = normalizedCategory ∧
    ∃ policy, normalizeCompletionPolicy (some entry.2) = some policy

theorem HasEntry.normal {entries : List (String × Json)} {category : String}
    (h : HasEntry entries category) : normalizeResponsibilityCategory category = category := by
  obtain ⟨entry, -, rfl, -⟩ := h
  exact normalizeResponsibilityCategory_idem entry.1

/-- The record does answer for a category that it has an entry for. -/
theorem HasEntry.not_silent {entries : List (String × Json)} {category : String}
    (h : HasEntry entries category) : ¬Silent (entryAnswer category) entries := by
  obtain ⟨entry, hmem, rfl, policy, hpolicy⟩ := h
  intro hsilent
  have hanswer := hsilent entry hmem
  simp [entryAnswer, categoriesCompatible_self, hpolicy] at hanswer

/-- A report without overrides has the policy that the platform's record gives for its
category, if it gives one, and none where it throws. -/
theorem resolveCompletionPolicy_of_record {cfg : Config} {env : Env} {report : Report}
    {organization : ResponsibilityOrganizationProfile} {out : Option CompletionPolicy}
    (horganization : env.organization? report.organizationId = some organization)
    (hreport : report.completionPolicy = none)
    (hmaps : completionPolicyFromCategoryMap organization.profileData report.category = some none)
    (hcategory : normalizeResponsibilityCategory report.category ≠ "")
    (hrecord : firstAnswer (entryAnswer (normalizeResponsibilityCategory report.category))
      (entriesOf env.completionPoliciesByCategory) = out.map some) :
    (resolveCompletionPolicy cfg env report).map (·.policy) = out := by
  rw [← policyFromCategoryRecord_eq_firstAnswer] at hrecord
  have hplatform : completionPolicyFromPlatformCategory cfg env report.category = out.map some := by
    rw [completionPolicyFromPlatformCategory, if_neg hcategory, hrecord]
    cases out <;> rfl
  unfold resolveCompletionPolicy
  simp only [hreport, horganization, Option.bind_some, hmaps, hplatform]
  cases out <;> rfl

/-- What the platform's record answers does not matter to a report that has an override, or
no category, and else matters only by its answer. -/
theorem resolveCompletionPolicy_of_same_answer {cfg : Config} {env : Env} {report : Report}
    {organization : ResponsibilityOrganizationProfile} {record : Option Json}
    (horganization : env.organization? report.organizationId = some organization)
    (h : report.completionPolicy ≠ none ∨
      completionPolicyFromCategoryMap organization.profileData report.category ≠ some none ∨
      normalizeResponsibilityCategory report.category = "" ∨
      firstAnswer (entryAnswer (normalizeResponsibilityCategory report.category))
          (entriesOf record) =
        firstAnswer (entryAnswer (normalizeResponsibilityCategory report.category))
          (entriesOf env.completionPoliciesByCategory)) :
    resolveCompletionPolicy cfg { env with completionPoliciesByCategory := record } report =
      resolveCompletionPolicy cfg env report := by
  have horganization' : Env.organization? { env with completionPoliciesByCategory := record }
      report.organizationId = some organization := horganization
  rcases h with h | h | h | h
  · obtain ⟨policy, hreport⟩ := Option.ne_none_iff_exists'.mp h
    simp only [resolveCompletionPolicy, hreport]
  · simp only [resolveCompletionPolicy, horganization, horganization', Option.bind_some]
    generalize completionPolicyFromCategoryMap organization.profileData report.category = answer
      at h
    match answer with
    | none | some (some _) => simp
    | some none => exact absurd rfl h
  · have hplatform (record : Option Json) : completionPolicyFromPlatformCategory cfg
        { env with completionPoliciesByCategory := record } report.category = some none := by
      rw [completionPolicyFromPlatformCategory, if_pos h]
      rfl
    simp only [resolveCompletionPolicy, horganization, horganization', hplatform]
  · simp only [resolveCompletionPolicy, horganization, horganization',
      completionPolicyFromPlatformCategory, policyFromCategoryRecord_eq_firstAnswer, h]

theorem completionPolicyFromCategoryMap_normalize (profileData : Option Json) (category : String) :
    completionPolicyFromCategoryMap profileData (normalizeResponsibilityCategory category) =
      completionPolicyFromCategoryMap profileData category := by
  simp only [completionPolicyFromCategoryMap, normalizeResponsibilityCategory_idem]

theorem noOverride_normalize {organization : ResponsibilityOrganizationProfile}
    {category : String} :
    NoOverride organization (normalizeResponsibilityCategory category) ↔
      NoOverride organization category := by
  simp only [NoOverride, completionPolicyFromCategoryMap_normalize]

/-! ### Where a policy takes effect -/

/-- A policy set for a category of the platform takes effect: the reports of the category
that nothing overrides have it, and the reports of any other category with an entry of its
own keep the policy they had. -/
structure TakesEffect (cfg : Config) (env env' : Env) (category : String)
    (policy : CompletionPolicy) : Prop where
  round_trip : ∀ report organization,
    env.organization? report.organizationId = some organization →
    normalizeResponsibilityCategory report.category = category →
    report.completionPolicy = none → NoOverride organization report.category →
    (resolveCompletionPolicy cfg env' report).map (·.policy) = some policy
  others_unchanged : ∀ report organization,
    env.organization? report.organizationId = some organization →
    normalizeResponsibilityCategory report.category ≠ category →
    HasEntry (entriesOf env.completionPoliciesByCategory)
      (normalizeResponsibilityCategory report.category) →
    (resolveCompletionPolicy cfg env' report).map (·.policy) =
      (resolveCompletionPolicy cfg env report).map (·.policy)

/-- The entries of the platform's record ahead of the place of a category. -/
abbrev PolicyChangeContext.ahead (ctx : PolicyChangeContext) (env : Env) (category : String) :
    List (String × Json) := aheadOf ctx.place category (entriesOf env.completionPoliciesByCategory)

/-- The entries of the platform's record from the place of a category on. -/
abbrev PolicyChangeContext.behind (ctx : PolicyChangeContext) (env : Env) (category : String) :
    List (String × Json) :=
  fromPlaceOf ctx.place category (entriesOf env.completionPoliciesByCategory)

/-- No entry stands in the way, where `ahead` are the entries ahead of the category's place
and `behind` those from it on. For an organization without an override, the entries ahead
pass the category by or the first that does not holds the very policy. Any other category
with an entry of its own, in an organization that leaves it to the platform, is stopped by
an entry ahead, or passes the category by, or had the policy already from an entry behind
(or the same exception, where the comparison throws). -/
structure Unshadowed (env : Env) (category : String) (policy : CompletionPolicy)
    (ahead behind : List (String × Json)) : Prop where
  own : ∀ organization, env.organization? organization.id = some organization →
    NoOverride organization category →
    completionPolicyFromCategoryMap organization.profileData category ≠ none ∧
      (Silent (entryAnswer category) ahead ∨ FirstStop (entryAnswer category) ahead (some policy))
  others : ∀ other, other ≠ category → other ≠ "" →
    HasEntry (entriesOf env.completionPoliciesByCategory) other →
    ∀ organization, env.organization? organization.id = some organization →
    completionPolicyFromCategoryMap organization.profileData other = some none →
    Silent (entryAnswer other) ahead → categoriesCompatible category other ≠ some false →
    FirstStop (entryAnswer other) behind ((categoriesCompatible category other).map fun _ => policy)

section Set

variable {cfg : Config} {ctx : PolicyChangeContext} {env : Env} {user : JwtUser}
  {dto : AdminCategoryCompletionPolicyDto} {env' : Env}

/-- What an entry for the category that was set answers for another one. -/
theorem entryAnswer_of_passed {category other : String}
    (hnormal : normalizeResponsibilityCategory category = category)
    (hpassed : categoriesCompatible category other = some false) (value : Json) :
    entryAnswer other (category, value) = some none := by
  rw [entryAnswer, hnormal, hpassed]
  rfl

/-- What the entry that was set answers, to a category that does not pass it by. -/
theorem entryAnswer_of_not_passed {category other : String} (policy : CompletionPolicy)
    (hnormal : normalizeResponsibilityCategory category = category)
    (hpassed : categoriesCompatible category other ≠ some false) :
    entryAnswer other (category, .str policy.text) =
      ((categoriesCompatible category other).map fun _ => policy).map some := by
  rw [entryAnswer_stored hnormal]
  match hcompatible : categoriesCompatible category other with
  | none | some true => rfl
  | some false => exact absurd hcompatible hpassed

/-- The policy a report without overrides has after the change. -/
theorem PlatformPolicySet.resolve_of_answer (h : PlatformPolicySet ctx env user dto env')
    (cfg : Config) (report : Report) {organization : ResponsibilityOrganizationProfile}
    {out : Option CompletionPolicy}
    (horganization : env.organization? report.organizationId = some organization)
    (hreport : report.completionPolicy = none)
    (hmaps : completionPolicyFromCategoryMap organization.profileData report.category = some none)
    (hcategory : normalizeResponsibilityCategory report.category ≠ "")
    (hanswer : firstAnswer (entryAnswer (normalizeResponsibilityCategory report.category))
      (setEntry ctx.place (normalizeResponsibilityCategory dto.category)
        (.str dto.policy.text) (entriesOf env.completionPoliciesByCategory)) = out.map some) :
    (resolveCompletionPolicy cfg env' report).map (·.policy) = out := by
  obtain rfl := h.state
  exact resolveCompletionPolicy_of_record horganization hreport hmaps hcategory hanswer

/-- A report of an organization, of the given category and without an override. -/
def plainReport (organization : ResponsibilityOrganizationProfile) (category : String) : Report :=
  { id := "", organizationId := organization.id, citizenId := "", category }

/-- Where the policy takes effect, no entry ahead keeps it from the category's own reports. -/
theorem PlatformPolicySet.own_of_takesEffect (h : PlatformPolicySet ctx env user dto env')
    (heffect : TakesEffect cfg env env' (normalizeResponsibilityCategory dto.category) dto.policy)
    {organization : ResponsibilityOrganizationProfile}
    (horganization : env.organization? organization.id = some organization)
    (hmaps : NoOverride organization dto.category) :
    completionPolicyFromCategoryMap organization.profileData dto.category ≠ none ∧
      (Silent (entryAnswer (normalizeResponsibilityCategory dto.category))
          (ctx.ahead env (normalizeResponsibilityCategory dto.category)) ∨
        FirstStop (entryAnswer (normalizeResponsibilityCategory dto.category))
          (ctx.ahead env (normalizeResponsibilityCategory dto.category)) (some dto.policy)) := by
  have hresolved := heffect.round_trip (plainReport organization dto.category) organization
    horganization rfl rfl hmaps
  have hthrows : completionPolicyFromCategoryMap organization.profileData dto.category ≠ none := by
    intro hthrows
    have horganization' : env'.organization? organization.id = some organization := by
      rw [h.state]
      exact horganization
    simp [resolveCompletionPolicy, plainReport, horganization', hthrows] at hresolved
  refine ⟨hthrows, or_iff_not_imp_left.mpr fun hsilent => ?_⟩
  obtain ⟨out, hout⟩ := exists_firstAnswer_eq hsilent
  have hset := firstAnswer_setEntry_of_not_silent ctx.place (.str dto.policy.text) hsilent
  have hpolicy := h.resolve_of_answer cfg (plainReport organization dto.category) horganization rfl
    (hmaps.eq_some_none hthrows) h.category (hset.trans hout)
  rw [hresolved] at hpolicy
  rw [← firstAnswer_eq_map_iff, hout, hpolicy]

/-- Where the policy takes effect, its entry keeps no other category's entry from an answer. -/
theorem PlatformPolicySet.others_of_takesEffect (h : PlatformPolicySet ctx env user dto env')
    (heffect : TakesEffect cfg env env' (normalizeResponsibilityCategory dto.category) dto.policy)
    {other : String} (hne : other ≠ normalizeResponsibilityCategory dto.category)
    (hblank : other ≠ "") (hentry : HasEntry (entriesOf env.completionPoliciesByCategory) other)
    {organization : ResponsibilityOrganizationProfile}
    (horganization : env.organization? organization.id = some organization)
    (hmaps : completionPolicyFromCategoryMap organization.profileData other = some none)
    (hsilent : Silent (entryAnswer other)
      (ctx.ahead env (normalizeResponsibilityCategory dto.category)))
    (hpassed : categoriesCompatible (normalizeResponsibilityCategory dto.category) other ≠
      some false) :
    FirstStop (entryAnswer other) (ctx.behind env (normalizeResponsibilityCategory dto.category))
      ((categoriesCompatible (normalizeResponsibilityCategory dto.category) other).map
        fun _ => dto.policy) := by
  have hcategory : normalizeResponsibilityCategory (plainReport organization other).category =
      other := hentry.normal
  obtain ⟨out, hout⟩ := exists_firstAnswer_eq hentry.not_silent
  have hbefore : (resolveCompletionPolicy cfg env (plainReport organization other)).map
      (·.policy) = out :=
    resolveCompletionPolicy_of_record horganization rfl hmaps (by rw [hcategory]; exact hblank)
      (by rw [hcategory]; exact hout)
  have hstop := entryAnswer_of_not_passed dto.policy
    (normalizeResponsibilityCategory_idem dto.category) hpassed
  have hafter : (resolveCompletionPolicy cfg env' (plainReport organization other)).map
      (·.policy) = (categoriesCompatible (normalizeResponsibilityCategory dto.category) other).map
        fun _ => dto.policy :=
    h.resolve_of_answer cfg (plainReport organization other) horganization rfl hmaps
      (by rw [hcategory]; exact hblank)
      (by rw [hcategory]; exact firstAnswer_setEntry_of_stop ctx.place hsilent hstop)
  have hunchanged := heffect.others_unchanged (plainReport organization other) organization
    horganization (by rw [hcategory]; exact hne) (by rw [hcategory]; exact hentry)
  rw [hafter, hbefore] at hunchanged
  rw [← firstAnswer_eq_map_iff, ← firstAnswer_eq_fromPlaceOf ctx.place hsilent, hout, hunchanged]

/-- Where no entry stands in the way, a report of the category without an override has the
policy. -/
theorem PlatformPolicySet.round_trip_of_unshadowed (h : PlatformPolicySet ctx env user dto env')
    (hown : Unshadowed env (normalizeResponsibilityCategory dto.category) dto.policy
      (ctx.ahead env (normalizeResponsibilityCategory dto.category))
      (ctx.behind env (normalizeResponsibilityCategory dto.category)))
    {report : Report} {organization : ResponsibilityOrganizationProfile}
    (horganization : env.organization? report.organizationId = some organization)
    (hcategory : normalizeResponsibilityCategory report.category =
      normalizeResponsibilityCategory dto.category)
    (hreport : report.completionPolicy = none) (hmaps : NoOverride organization report.category) :
    (resolveCompletionPolicy cfg env' report).map (·.policy) = some dto.policy := by
  obtain ⟨hthrows, hahead⟩ := hown.own organization (Env.organization?_id horganization)
    (by rw [← hcategory, noOverride_normalize]; exact hmaps)
  rw [← hcategory, completionPolicyFromCategoryMap_normalize] at hthrows
  refine h.resolve_of_answer cfg report horganization hreport
    (hmaps.eq_some_none hthrows) (by rw [hcategory]; exact h.category) ?_
  rw [hcategory]
  rcases hahead with hsilent | hstop
  · have hpassed : categoriesCompatible (normalizeResponsibilityCategory dto.category)
        (normalizeResponsibilityCategory dto.category) ≠ some false := by
      rw [categoriesCompatible_self]
      simp
    have hself := entryAnswer_of_not_passed dto.policy
      (normalizeResponsibilityCategory_idem dto.category) hpassed
    rw [firstAnswer_setEntry_of_stop ctx.place hsilent hself, categoriesCompatible_self]
    rfl
  · have hahead := firstAnswer_eq_map_iff.mpr hstop
    have hloud : ¬Silent (entryAnswer (normalizeResponsibilityCategory dto.category))
        (ctx.ahead env (normalizeResponsibilityCategory dto.category)) := by
      rw [← firstAnswer_eq_some_none_iff, hahead]
      simp
    rw [firstAnswer_setEntry_of_not_silent ctx.place _ hloud, hahead]

/-- Where no entry stands in the way, a report of another category with an entry of its own
keeps its policy. -/
theorem PlatformPolicySet.unchanged_of_unshadowed (h : PlatformPolicySet ctx env user dto env')
    (hown : Unshadowed env (normalizeResponsibilityCategory dto.category) dto.policy
      (ctx.ahead env (normalizeResponsibilityCategory dto.category))
      (ctx.behind env (normalizeResponsibilityCategory dto.category)))
    {report : Report} {organization : ResponsibilityOrganizationProfile}
    (horganization : env.organization? report.organizationId = some organization)
    (hcategory : normalizeResponsibilityCategory report.category ≠
      normalizeResponsibilityCategory dto.category)
    (hentry : HasEntry (entriesOf env.completionPoliciesByCategory)
      (normalizeResponsibilityCategory report.category)) :
    resolveCompletionPolicy cfg env' report = resolveCompletionPolicy cfg env report := by
  obtain rfl := h.state
  apply resolveCompletionPolicy_of_same_answer horganization
  by_contra hno
  simp only [not_or, not_not] at hno
  obtain ⟨-, hmaps, hblank, hdiffers⟩ := hno
  have hcategoryNormal := normalizeResponsibilityCategory_idem dto.category
  apply hdiffers
  rw [entriesOf]
  by_cases hsilent : Silent (entryAnswer (normalizeResponsibilityCategory report.category))
      (ctx.ahead env (normalizeResponsibilityCategory dto.category))
  · by_cases hpassed : categoriesCompatible (normalizeResponsibilityCategory dto.category)
        (normalizeResponsibilityCategory report.category) = some false
    · exact firstAnswer_setEntry_of_passed ctx.place _
        (entryAnswer_of_passed hcategoryNormal hpassed)
    · have hstop := hown.others _ hcategory hblank hentry organization
        (Env.organization?_id horganization)
        (by rw [completionPolicyFromCategoryMap_normalize]; exact hmaps) hsilent hpassed
      rw [firstAnswer_setEntry_of_stop ctx.place hsilent
          (entryAnswer_of_not_passed dto.policy hcategoryNormal hpassed),
        firstAnswer_eq_fromPlaceOf ctx.place hsilent, firstAnswer_eq_map_iff.mpr hstop]
  · rw [firstAnswer_setEntry_of_not_silent ctx.place _ hsilent,
      firstAnswer_eq_aheadOf ctx.place hsilent]

end Set

/-- After a super administrator set the policy of a category for the platform, it took effect
exactly when no entry of the record stood in the way: the lookup goes by the first entry of a
compatible category, so an entry ahead may hide the one that was set, and that one the
entries behind it. -/
theorem category_policy_takes_effect_iff {ctx : PolicyChangeContext} {env : Env} {user : JwtUser}
    {dto : AdminCategoryCompletionPolicyDto} {change : CategoryPolicyChange} {env' : Env}
    (h : setCategoryCompletionPolicy ctx env user dto = .ok (change, env'))
    (hplatform : truthy dto.organizationId = false) (cfg : Config) :
    TakesEffect cfg env env' (normalizeResponsibilityCategory dto.category) dto.policy ↔
      Unshadowed env (normalizeResponsibilityCategory dto.category) dto.policy
        (ctx.ahead env (normalizeResponsibilityCategory dto.category))
        (ctx.behind env (normalizeResponsibilityCategory dto.category)) := by
  have hset := platformPolicySet_of_eq_ok h hplatform
  constructor
  · intro heffect
    refine ⟨fun organization horganization hmaps => ?_,
      fun other hne hblank hentry organization horganization hmaps hsilent hpassed => ?_⟩
    · rw [completionPolicyFromCategoryMap_normalize]
      exact hset.own_of_takesEffect heffect horganization (noOverride_normalize.mp hmaps)
    · exact hset.others_of_takesEffect heffect hne hblank hentry horganization hmaps hsilent hpassed
  · intro hown
    refine ⟨fun report organization horganization hcategory hreport hmaps => ?_,
      fun report organization horganization hcategory hentry => ?_⟩
    · exact hset.round_trip_of_unshadowed hown horganization hcategory hreport hmaps
    · rw [hset.unchanged_of_unshadowed hown horganization hcategory hentry]

/-- A platform with one organization and the given record of policies. -/
def oneOrganization (record : Option Json) : Env :=
  { organizations := [{ id := "city" }], completionPoliciesByCategory := record }

/-- A super administrator's request that citizens confirm what is done about electricity. -/
def electricityRequest : AdminCategoryCompletionPolicyDto :=
  { category := "Electricity", policy := .citizenConfirmationRequired, reason := "Review" }

theorem electricityRequest_succeeds (record : Option Json) :
    ∃ change, setCategoryCompletionPolicy {} (oneOrganization record)
      { id := "root", role := .superAdmin } electricityRequest =
        .ok (change, oneOrganization (some (.obj (setEntry (fun _ entries => entries.length)
          "electricity" (.str "CITIZEN_CONFIRMATION_REQUIRED") (entriesOf record))))) := by
  have hcategory : normalizeResponsibilityCategory electricityRequest.category = "electricity" := by
    decide +kernel
  have hreason : requiredGovernanceReason electricityRequest.reason = .ok "Review" :=
    requiredGovernanceReason_eq_ok.mpr (by decide +kernel)
  have hknown : assertKnownCompletionCategory {} "electricity" = .ok ⟨⟩ := by
    rw [assertKnownCompletionCategory, if_pos (by decide +kernel)]
    rfl
  refine ⟨{ scope := "PLATFORM_SERVICE_CATEGORY"
            category := "electricity"
            previousPolicy := previousPolicyOf (entriesOf record) "electricity"
            policy := .citizenConfirmationRequired }, ?_⟩
  rw [setCategoryCompletionPolicy, hcategory, hreason]
  change (do
    throwIf ("electricity" = "") (badRequest "Category is required")
    assertKnownCompletionCategory {} "electricity"
    setPlatformCategoryPolicy {} (oneOrganization record) { id := "root", role := .superAdmin }
      electricityRequest "Review" "electricity") = _
  rw [throwIf_of_not (by decide), hknown]
  rfl

/-- Policies for roads and for waste, which have nothing to do with electricity. -/
def roadsAndWaste : List (String × Json) :=
  [("road", .str "BOTH_REQUIRED"), ("Waste", .str "ORGANIZATION_CONFIRMATION_REQUIRED")]

theorem electricity_policy_takes_effect : ∃ change env',
    setCategoryCompletionPolicy {} (oneOrganization (some (.obj roadsAndWaste)))
      { id := "root", role := .superAdmin } electricityRequest = .ok (change, env') ∧
    TakesEffect {} (oneOrganization (some (.obj roadsAndWaste))) env'
      (normalizeResponsibilityCategory electricityRequest.category)
      electricityRequest.policy := by
  obtain ⟨change, h⟩ := electricityRequest_succeeds (some (.obj roadsAndWaste))
  have hother : ∀ entry ∈ roadsAndWaste,
      categoriesCompatible (normalizeResponsibilityCategory entry.1)
        (normalizeResponsibilityCategory electricityRequest.category) = some false ∧
      categoriesCompatible (normalizeResponsibilityCategory electricityRequest.category)
        (normalizeResponsibilityCategory entry.1) = some false := by
    decide +kernel
  refine ⟨change, _, h, (category_policy_takes_effect_iff h rfl {}).mpr ⟨?_, ?_⟩⟩
  · intro organization horganization _
    have hmem := List.mem_of_find?_eq_some horganization
    obtain rfl : organization = { id := "city" } := by simpa [oneOrganization] using hmem
    refine ⟨by simp [completionPolicyFromCategoryMap], .inl fun entry hahead => ?_⟩
    rw [entryAnswer, (hother entry (mem_of_mem_aheadOf _ hahead)).1]
    rfl
  · rintro other - - ⟨entry, hmem, rfl, -⟩ organization - - - hcompatible
    exact absurd (hother entry hmem).2 hcompatible

/-- The platform's record has a policy for lights, whose key comes first in it. A policy for
electricity is set, and a report about electricity still has the policy for lights: both
categories ask for the electrical capability. -/
theorem light_policy_hides_electricity : ∃ change env',
    setCategoryCompletionPolicy {} (oneOrganization (some (.obj [("light", .str "BOTH_REQUIRED")])))
      { id := "root", role := .superAdmin } electricityRequest = .ok (change, env') ∧
    ¬TakesEffect {} (oneOrganization (some (.obj [("light", .str "BOTH_REQUIRED")]))) env'
      (normalizeResponsibilityCategory electricityRequest.category)
      electricityRequest.policy := by
  obtain ⟨change, h⟩ := electricityRequest_succeeds
    (some (.obj [("light", .str "BOTH_REQUIRED")]))
  refine ⟨change, _, h, fun heffect => ?_⟩
  have hpolicy := heffect.round_trip (plainReport { id := "city" } "Electricity") { id := "city" }
    (by rfl) (by rfl) (by rfl) (by intro policy; simp [completionPolicyFromCategoryMap])
  revert hpolicy
  decide +kernel

end FixZone.ReportService
