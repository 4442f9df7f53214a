import FixZone.Report.Assignment
import Mathlib.Data.List.Sort

/-!
# Recommended providers

`recommendProviders` ranks the active providers of the organization of a report, and where
there are none it ranks for a super admin all active providers of the platform. Only the
former can be assigned without the override of `assignProviderById`, so the platform-wide
list is one for assignment by hand, and `autoAssignBestProvider` refuses it
(`recommended_assignable`).
-/

namespace FixZone.DispatchAiService

open Library ReportService Organization

-- `collation` is the order of the database on names, for `orderBy: { fullName: 'asc' }`
variable (cfg : Config) (collation : String → String → Bool) (env : Env) (s : Store)

/-! ### The recommendation of a provider -/

/-- `ProviderRecommendation`. -/
structure ProviderRecommendation where
  providerId : String
  providerName : String
  fullName : String
  email : Option String
  phone : Option String
  activeJobs : ℕ
  maxActiveJobs : ℕ
  rating : ℚ
  isOnline : Bool
  isAvailable : Bool
  confidence : ℤ
  confidenceLabel : String
  specialties : List String
  coverageAreas : List String
  activeAssignments : ℕ
  score : ℤ
  reasons : List String

/-- `specialtiesFor`. -/
def specialtiesFor (name category : String) : List String :=
  let value := toLowerCase (name ++ " " ++ category)
  if includes value "drain" || includes value "water" then ["Drainage", "Water & Sanitation"]
  else if includes value "electric" || includes value "light" then
    ["Electricity", "Street Lighting"]
  else if includes value "waste" || includes value "sanitation" then
    ["Waste Management", "Environmental Sanitation"]
  else if includes value "road" || includes value "bridge" then
    ["Road & Infrastructure", "Traffic Management"]
  else ["General Municipal Services"]

/-- `coverageAreas`. -/
def coverageAreas (provider : User) (location : String) : List String :=
  if truthy provider.organizationId || provider.providerOrganizations.length > 0 then
    let area := String.ofList ((location.toList.splitOn ',').headD [])
    [if area = "" then "Assigned service zone" else area]
  else ["Platform-wide contractor pool"]

/-- The reports that a provider is assigned to and has not completed. -/
def assignedReports (provider : User) : List Report :=
  s.reports.rows.filter fun report => report.assignedProviderId = some provider.id &&
    (report.status = .assigned || report.status = .inProgress)

/-- What a number of active assignments takes from the score, and the reason given. -/
def workload (activeAssignments : ℕ) : ℤ × String :=
  if activeAssignments = 0 then (0, "No active assignments")
  else if activeAssignments ≤ 2 then (10, "Low active workload")
  else if activeAssignments ≤ 4 then (25, "Moderate active workload")
  else (40, "High active workload")

/-- The recommendation of a provider for a report. -/
def recommendation (report : Report) (provider : User) : ProviderRecommendation :=
  let activeAssignments := (assignedReports s provider).length
  let score := 100 - (workload activeAssignments).1
  { providerId := provider.id
    providerName := provider.fullName
    fullName := provider.fullName
    email := provider.email
    phone := provider.phone
    activeJobs := activeAssignments
    maxActiveJobs := 5
    rating := 42 / 10
    isOnline := true
    isAvailable := activeAssignments < 5
    confidence := max 0 (min 100 score)
    confidenceLabel := if provider.organizationId = some report.organizationId then
      "Same organization match" else "Manual assignment fallback"
    specialties := specialtiesFor provider.fullName report.category
    coverageAreas := coverageAreas provider report.location
    activeAssignments
    score
    reasons := ["Same organization", "Provider role matched", (workload activeAssignments).2] }

/-- The comparison of two recommendations: the second does not come before the first. -/
def ranksBefore (locale : LocaleOrder) (a b : ProviderRecommendation) : Bool :=
  if b.score ≠ a.score then b.score < a.score
  else if a.activeAssignments ≠ b.activeAssignments then
    a.activeAssignments < b.activeAssignments
  else locale a.fullName b.fullName

/-! ### The list -/

/-- The filter of the providers of the organization of a report. -/
def inOrganizationOf (report : Report) (provider : User) : Bool :=
  provider.role = .provider && provider.accountStatus = .active &&
    (provider.organizationId = some report.organizationId ||
      provider.providerOrganizations.any fun link =>
        link.organizationId = report.organizationId && link.active)

/-- The filter of the fallback. -/
def onPlatform (provider : User) : Bool :=
  provider.role = .provider && provider.accountStatus = .active

/-- `prisma.user.findMany` with a filter, by name. -/
def findProviders (filter : User → Bool) : List User :=
  (env.users.filter filter).insertionSort fun a b => collation a.fullName b.fullName

/-- The providers that are ranked. -/
def providersFor (report : Report) (user : JwtUser) : List User :=
  let providers := findProviders collation env (inOrganizationOf report)
  if providers.length = 0 ∧ report.organizationId ≠ "" ∧ user.role = .superAdmin then
    findProviders collation env onPlatform
  else providers

/-- What `recommendProviders` answers, with the columns of the report that it repeats. -/
structure Recommendations where
  id : String
  title : String
  category : String
  location : String
  status : ReportStatus
  organizationId : String
  totalCandidates : ℕ
  bestMatch : Option ProviderRecommendation
  recommendations : List ProviderRecommendation

/-- `rankedProviders`. -/
def rankedProviders (report : Report) (user : JwtUser) : List ProviderRecommendation :=
  ((providersFor collation env report user).map (recommendation s report)).insertionSort
    fun a b => ranksBefore cfg.locale a b

/-- `buildRecommendations`, the counts it logs apart. -/
def buildRecommendations (report : Report) (user : JwtUser) : Recommendations :=
  let ranked := rankedProviders cfg collation env s report user
  { id := report.id
    title := report.title
    category := report.category
    location := report.location
    status := report.status
    organizationId := report.organizationId
    totalCandidates := ranked.length
    bestMatch := ranked.head?
    recommendations := ranked.take 5 }

/-- `recommendProviders`. -/
def recommendProviders (reportId : String) (user : JwtUser) :
    Except HttpError Recommendations := do
  let report ← orThrow (s.report? reportId) (notFound "Report not found")
  if user.role = .superAdmin then
    return buildRecommendations cfg collation env s report user
  throwIf (user.role ≠ .orgAdmin ∧ user.role ≠ .dispatchOfficer) (forbidden "Not allowed")
  throwIf (!truthy user.organizationId) (forbidden "User has no organization access")
  throwIf (some report.organizationId ≠ user.organizationId) (forbidden "Cross-org not allowed")
  return buildRecommendations cfg collation env s report user

/-- What `autoAssignBestProvider` answers, with the actions of the assignment. -/
structure AutoAssignment where
  message : String
  recommendation : ProviderRecommendation
  actions : List Action

/-- `autoAssignBestProvider`. -/
def autoAssignBestProvider (reportId : String) (user : JwtUser) :
    Except HttpError AutoAssignment := do
  let _ ← orThrow (s.report? reportId) (notFound "Report not found")
  let recommendations ← recommendProviders cfg collation env s reportId user
  let bestMatch ← orThrow recommendations.bestMatch
    (notFound "No provider available for assignment")
  let actions ← assignProviderById cfg env s reportId bestMatch.providerId user {}
  return { message := "Best provider auto-assigned successfully", recommendation := bestMatch,
           actions }

variable {cfg collation env s} {report : Report} {reportId : String} {user : JwtUser}

/-! ### Who is recommended -/

theorem inOrganizationOf_iff {provider : User} : inOrganizationOf report provider ↔
    provider.role = .provider ∧ provider.accountStatus = .active ∧
      providerBelongsToReportOrg provider report := by
  simp [inOrganizationOf, providerBelongsToReportOrg, and_assoc]

theorem mem_findProviders_iff {filter : User → Bool} {provider : User} :
    provider ∈ findProviders collation env filter ↔ provider ∈ env.users ∧ filter provider := by
  rw [findProviders, List.mem_insertionSort, List.mem_filter]

/-- No active provider belongs to the organization of the report. -/
def NoMember (env : Env) (report : Report) : Prop :=
  ∀ provider ∈ env.users, ¬inOrganizationOf report provider

/-- The list is that of the whole platform. -/
structure PlatformWide (env : Env) (report : Report) (user : JwtUser) : Prop where
  superAdmin : user.role = .superAdmin
  noMember : NoMember env report

theorem findProviders_eq_nil_iff :
    (findProviders collation env (inOrganizationOf report)).length = 0 ↔ NoMember env report := by
  rw [List.length_eq_zero_iff, List.eq_nil_iff_forall_not_mem]
  simp only [mem_findProviders_iff, not_and]
  rfl

/-- Whoever is ranked is an active provider, and belongs to the organization of the report unless
the list is that of the whole platform. -/
theorem mem_providersFor {provider : User}
    (h : provider ∈ providersFor collation env report user) :
    provider ∈ env.users ∧ onPlatform provider ∧
      (providerBelongsToReportOrg provider report ↔ ¬PlatformWide env report user) := by
  have hactive : ∀ {other : User}, inOrganizationOf report other → onPlatform other := by
    intro other hother
    obtain ⟨hrole, hstatus, -⟩ := inOrganizationOf_iff.mp hother
    simp [onPlatform, hrole, hstatus]
  rw [providersFor] at h
  split_ifs at h with hfallback
  · obtain ⟨hempty, -, hrole⟩ := hfallback
    have hnone := findProviders_eq_nil_iff.mp hempty
    obtain ⟨hmem, honPlatform⟩ := mem_findProviders_iff.mp h
    refine ⟨hmem, honPlatform, iff_of_false (fun hbelongs => ?_) (not_not.mpr ⟨hrole, hnone⟩)⟩
    obtain ⟨hprovider, hstatus⟩ : provider.role = .provider ∧ provider.accountStatus = .active := by
      simpa [onPlatform] using honPlatform
    exact hnone provider hmem (inOrganizationOf_iff.mpr ⟨hprovider, hstatus, hbelongs⟩)
  · obtain ⟨hmem, hin⟩ := mem_findProviders_iff.mp h
    refine ⟨hmem, hactive hin, iff_of_true (inOrganizationOf_iff.mp hin).2.2 fun hwide => ?_⟩
    exact hwide.noMember provider hmem hin

/-- A recommendation is that of a provider who is ranked. -/
theorem mem_rankedProviders_iff {r : ProviderRecommendation} :
    r ∈ rankedProviders cfg collation env s report user ↔
      ∃ provider ∈ providersFor collation env report user,
        recommendation s report provider = r := by
  rw [rankedProviders, List.mem_insertionSort, List.mem_map]

/-- Who is given recommendations, and which. -/
theorem recommendProviders_eq_ok {result : Recommendations} :
    recommendProviders cfg collation env s reportId user = .ok result ↔
      ∃ report, s.report? reportId = some report ∧
        (user.role = .superAdmin ∨ (user.role = .orgAdmin ∨ user.role = .dispatchOfficer) ∧
          truthy user.organizationId ∧ some report.organizationId = user.organizationId) ∧
        buildRecommendations cfg collation env s report user = result := by
  rw [recommendProviders, orThrow_bind_eq_ok]
  refine exists_congr fun report => and_congr_right fun hreport => ?_
  by_cases hsuper : user.role = .superAdmin
  · simp [hsuper, pure_eq_ok]
  · simp only [hsuper, if_false, throwIf_bind_eq_ok, pure_eq_ok, false_or, Bool.not_eq_true',
      Bool.not_eq_false, ne_eq, not_and_or, not_not, and_assoc]

/-! ### Who can be assigned -/

/-- `assignProviderById` accepts the provider. -/
def Accepts (cfg : Config) (env : Env) (s : Store) (reportId : String) (user : JwtUser)
    (options : AssignOptions) (providerId : String) : Prop :=
  ∃ actions, assignProviderById cfg env s reportId providerId user options = .ok actions

/-- An active provider is accepted by whoever may assign the report, as a member of its
organization or by the override. -/
theorem accepts_iff {provider : User} {options : AssignOptions}
    (hreport : s.report? reportId = some report) (hpending : report.status = .pending)
    (hfree : truthy report.assignedProviderId = false)
    (hprovider : env.user? provider.id = some provider) (hactive : onPlatform provider)
    (hoperator : user.isOperator)
    (hscope : user.isSuperAdmin ∨ some report.organizationId = user.organizationId ∧
      providerBelongsToReportOrg provider report) :
    Accepts cfg env s reportId user options provider.id ↔
      providerBelongsToReportOrg provider report ∨
        options.overrideOrganizationRouting ∧ trimmed options.overrideReason ≠ "" := by
  obtain ⟨hrole, hstatus⟩ : provider.role = .provider ∧ provider.accountStatus = .active := by
    simpa [onPlatform] using hactive
  simp only [Accepts, assignProviderById_eq_ok]
  constructor
  · rintro ⟨actions, report', provider', hreport', hprovider', hallowed, -⟩
    obtain rfl := Option.some_inj.mp (hreport'.symm.trans hreport)
    obtain rfl := Option.some_inj.mp (hprovider'.symm.trans hprovider)
    exact hallowed.override
  · intro hoverride
    exact ⟨_, report, provider, hreport, hprovider,
      ⟨hoperator, hpending, hfree, hrole, hstatus, hscope, hoverride⟩, rfl⟩

/-- A provider who is recommended is accepted without the override unless the list is that of the
whole platform, and always with it. -/
theorem recommended_accepts_iff (hkeys : (env.users.map (·.id)).Nodup)
    (hreport : s.report? reportId = some report) (hpending : report.status = .pending)
    (hfree : truthy report.assignedProviderId = false) {result : Recommendations}
    (hok : recommendProviders cfg collation env s reportId user = .ok result)
    {r : ProviderRecommendation} (hr : r ∈ rankedProviders cfg collation env s report user)
    {options : AssignOptions} :
    Accepts cfg env s reportId user options r.providerId ↔ ¬PlatformWide env report user ∨
      options.overrideOrganizationRouting ∧ trimmed options.overrideReason ≠ "" := by
  obtain ⟨report', hreport', huser, -⟩ := recommendProviders_eq_ok.mp hok
  obtain rfl := Option.some_inj.mp (hreport'.symm.trans hreport)
  obtain ⟨provider, hranked, rfl⟩ := mem_rankedProviders_iff.mp hr
  obtain ⟨hmem, hactive, hbelongs⟩ := mem_providersFor hranked
  rw [← hbelongs]
  refine accepts_iff hreport hpending hfree (Table.find?_of_mem_rows hkeys hmem) hactive ?_ ?_
  · rcases huser with hrole | ⟨hrole | hrole, -⟩ <;>
      simp [JwtUser.isOperator, JwtUser.isAdmin, JwtUser.isDispatch, JwtUser.isSuperAdmin, hrole]
  · rcases huser with hrole | ⟨hrole, -, horganization⟩
    · exact .inl (by simp [JwtUser.isSuperAdmin, hrole])
    · refine .inr ⟨horganization, hbelongs.mpr fun hwide => ?_⟩
      have hsuper := hwide.superAdmin
      rcases hrole with hrole | hrole <;> rw [hrole] at hsuper <;> cases hsuper

/-- The best match is the first of the recommendations. -/
theorem bestMatch_eq (report : Report) (user : JwtUser) :
    (buildRecommendations cfg collation env s report user).bestMatch =
      (buildRecommendations cfg collation env s report user).recommendations.head? := by
  simp [buildRecommendations, List.head?_take]

theorem autoAssignBestProvider_isOk_iff {result : Recommendations}
    (hok : recommendProviders cfg collation env s reportId user = .ok result) :
    (∃ assignment, autoAssignBestProvider cfg collation env s reportId user = .ok assignment) ↔
      ∃ r, result.bestMatch = some r ∧ Accepts cfg env s reportId user {} r.providerId := by
  obtain ⟨report, hreport, -⟩ := recommendProviders_eq_ok.mp hok
  simp only [autoAssignBestProvider, orThrow_bind_eq_ok, hok, ok_bind]
  simp only [bind_eq_ok, pure_eq_ok]
  constructor
  · rintro ⟨-, -, -, r, hbest, actions, hactions, -⟩
    exact ⟨r, hbest, actions, hactions⟩
  · rintro ⟨r, hbest, actions, hactions⟩
    exact ⟨_, report, hreport, r, hbest, actions, hactions, rfl⟩

/-- **Whom the list recommends can be assigned, and the best of them automatically, but for the
list of the whole platform, whose members take the override.** -/
theorem recommended_assignable (hkeys : (env.users.map (·.id)).Nodup)
    (hreport : s.report? reportId = some report) (hpending : report.status = .pending)
    (hfree : truthy report.assignedProviderId = false) {result : Recommendations}
    (hok : recommendProviders cfg collation env s reportId user = .ok result) :
    (∀ r ∈ result.recommendations,
      Accepts cfg env s reportId user {} r.providerId ↔ ¬PlatformWide env report user) ∧
    (∀ r ∈ result.recommendations, ∀ options : AssignOptions,
      options.overrideOrganizationRouting → trimmed options.overrideReason ≠ "" →
        Accepts cfg env s reportId user options r.providerId) ∧
    ((∃ assignment, autoAssignBestProvider cfg collation env s reportId user = .ok assignment) ↔
      result.recommendations ≠ [] ∧ ¬PlatformWide env report user) := by
  obtain ⟨report', hreport', -, rfl⟩ := recommendProviders_eq_ok.mp hok
  obtain rfl := Option.some_inj.mp (hreport'.symm.trans hreport)
  have haccepts : ∀ r ∈ (buildRecommendations cfg collation env s report' user).recommendations,
      ∀ options : AssignOptions, Accepts cfg env s reportId user options r.providerId ↔
        ¬PlatformWide env report' user ∨
          options.overrideOrganizationRouting ∧ trimmed options.overrideReason ≠ "" :=
    fun r hr options => recommended_accepts_iff hkeys hreport hpending hfree hok
      (List.mem_of_mem_take hr)
  have hplain : ∀ r ∈ (buildRecommendations cfg collation env s report' user).recommendations,
      (Accepts cfg env s reportId user {} r.providerId ↔ ¬PlatformWide env report' user) := by
    intro r hr
    rw [haccepts r hr]
    simp
  refine ⟨hplain, fun r hr options hflag hreason =>
    (haccepts r hr options).mpr (.inr ⟨hflag, hreason⟩), ?_⟩
  rw [autoAssignBestProvider_isOk_iff hok, bestMatch_eq]
  constructor
  · rintro ⟨r, hbest, hr⟩
    have hmem := List.mem_of_head? hbest
    exact ⟨List.ne_nil_of_mem hmem, (hplain r hmem).mp hr⟩
  · rintro ⟨hne, hwide⟩
    obtain ⟨r, rest, hlist⟩ := List.exists_cons_of_ne_nil hne
    have hbest := congrArg List.head? hlist
    exact ⟨r, hbest, (hplain r (List.mem_of_head? hbest)).mpr hwide⟩

/-! ### Examples -/

namespace Example

/-- A pending report of the first organization. -/
def pendingReport : Report where
  id := "report-1"
  category := "Roads"
  organizationId := "org-1"
  citizenId := "citizen-1"

/-- The store with the report. -/
def pendingStore : Store :=
  { Store.empty with reports := (Table.empty Report.id).insert pendingReport }

/-- A platform whose only provider is of the organization. -/
def providerOf (organizationId : String) : Env where
  users := [{ id := "provider-1", role := .provider, organizationId := some organizationId,
              fullName := "Ama Mensah" }]

/-- A super admin. -/
def superAdmin : JwtUser := { id := "admin-1", role := .superAdmin }

/-- The recommendations for the report. -/
def recommended (env : Env) : Recommendations :=
  buildRecommendations {} (fun a b => a ≤ b) env pendingStore pendingReport superAdmin

end Example

/-- A super admin assigns the provider of the organization. -/
theorem recommended_assignable_member :
    ∃ assignment, autoAssignBestProvider {} (fun a b => a ≤ b) (Example.providerOf "org-1")
      Example.pendingStore "report-1" Example.superAdmin = .ok assignment := by
  have hok : recommendProviders {} (fun a b => a ≤ b) (Example.providerOf "org-1")
      Example.pendingStore "report-1" Example.superAdmin =
        .ok (Example.recommended (Example.providerOf "org-1")) := rfl
  have hreport : Example.pendingStore.report? "report-1" = some Example.pendingReport := rfl
  refine (recommended_assignable (by decide) hreport rfl rfl hok).2.2.mpr
    ⟨List.ne_nil_of_length_pos (by decide +kernel), fun hwide => ?_⟩
  exact hwide.noMember _ List.mem_cons_self (by decide +kernel)

/-- The provider of another organization is recommended to a super admin, and cannot be assigned
without the override. -/
theorem stranger_recommended :
    recommendProviders {} (fun a b => a ≤ b) (Example.providerOf "org-2") Example.pendingStore
        "report-1" Example.superAdmin = .ok (Example.recommended (Example.providerOf "org-2")) ∧
      (Example.recommended (Example.providerOf "org-2")).recommendations.map (·.providerId) =
        ["provider-1"] ∧
      ¬Accepts {} (Example.providerOf "org-2") Example.pendingStore "report-1" Example.superAdmin {}
        "provider-1" ∧
      ¬∃ assignment, autoAssignBestProvider {} (fun a b => a ≤ b) (Example.providerOf "org-2")
        Example.pendingStore "report-1" Example.superAdmin = .ok assignment := by
  refine ⟨by rfl, by decide +kernel, ?_, ?_⟩
  · rintro ⟨actions, hactions⟩
    have herror : (assignProviderById {} (Example.providerOf "org-2") Example.pendingStore
        "report-1" "provider-1" Example.superAdmin {}).toOption.isNone := by
      decide +kernel
    rw [hactions] at herror
    cases herror
  · rintro ⟨assignment, hassignment⟩
    have herror : (autoAssignBestProvider {} (fun a b => a ≤ b) (Example.providerOf "org-2")
        Example.pendingStore "report-1" Example.superAdmin).toOption.isNone := by
      decide +kernel
    rw [hassignment] at herror
    cases herror

end FixZone.DispatchAiService
