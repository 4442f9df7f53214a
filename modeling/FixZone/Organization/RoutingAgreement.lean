import FixZone.Library.Partial
import FixZone.Organization.Readiness

/-!
# Readiness and routing

Whether an organization is ready for routing is decided twice: by the routing checks of
`getReadiness`, and by the reasons of `serializeOrganizationCandidate` that do not depend on the
report. `getReadiness_ready_iff` and `routable_iff` say what each of them asks of the rows, and
`readiness_agrees_iff` when the two agree. The routing side also asks for an active organization
and for its maintenance module, reads more of the stored JSON, and counts the capabilities of the
providers and the categories of linked users of any role.
-/

namespace FixZone.OrganizationService

open Library Organization PlatformModulesService
open ReportService (HttpError JwtUser ResponsibilityProviderProfile RoutedReport
  ResponsibilityOrganizationProfile CandidateFacts OrganizationCandidate mandateCategoriesOf
  excludedCategoriesOf organizationActiveProviders organizationAcceptedProviders setProvider
  isActiveProvider activeProviderCapabilityIds activeMaintenanceCapabilities candidateFacts
  candidateReasons capabilitiesServe maintenanceModuleEnabled serializeOrganizationCandidate)

variable (locale : LocaleOrder) (t : Tables) (organization : OrganizationRow)

/-! ### The organization as routing includes it -/

/-- The columns of a provider that routing selects. -/
def User.profile (user : User) : ResponsibilityProviderProfile where
  id := user.id
  accountStatus := some user.accountStatus
  serviceCategories := user.serviceCategories
  coverageAreas := user.coverageAreas
  profileData := user.profileData

/-- The organization with its active provider links, its provider users and its active zones. -/
def organizationProfile : ResponsibilityOrganizationProfile where
  id := organization.id
  name := organization.name
  status := organization.status
  billingStatus := organization.billingStatus
  contactEmail := organization.contactEmail
  contactPhone := organization.contactPhone
  country := organization.country
  state := organization.state
  lga := organization.lga
  address := organization.address
  enabledModules := organization.enabledModules
  profileData := organization.profileData
  allowedReportsPerMonth := organization.allowedReportsPerMonth
  jurisdictionZones := activeZones t organization.id
  providerLinks := (t.providerOrganizations.filter fun link =>
      link.organizationId = organization.id && link.active).map fun link =>
    (t.users.find? link.providerId).map User.profile
  users := (t.users.rows.filter fun user => user.organizationId = some organization.id &&
    user.role = .provider && user.accountStatus = .active).map User.profile

/-- A user an active link ties to an organization. -/
def Linked (user : User) : Prop :=
  ∃ link ∈ t.providerOrganizations,
    link.providerId = user.id ∧ link.organizationId = organization.id ∧ link.active

/-- A provider of an organization as routing counts them: an active user who is linked to it, in
whatever role, or whose own organization it is. -/
structure RoutingProvider (user : User) : Prop where
  row : user ∈ t.users.rows
  active : user.accountStatus = .active
  linked : Linked t organization user ∨
    user.organizationId = some organization.id ∧ user.role = .provider

variable {t organization}

/-- The readiness providers are those with the role. -/
theorem mem_readinessProviders_iff {user : User} :
    user ∈ readinessProviders t organization.id ↔
      RoutingProvider t organization user ∧ user.role = .provider := by
  simp only [readinessProviders, List.mem_filter, Bool.and_eq_true, Bool.or_eq_true,
    decide_eq_true_eq, List.any_eq_true]
  constructor
  · rintro ⟨hrow, ⟨hrole, hactive⟩, hown | ⟨link, hlink, ⟨hprovider, horganization⟩, hlinked⟩⟩
    · exact ⟨⟨hrow, hactive, .inr ⟨hown, hrole⟩⟩, hrole⟩
    · exact ⟨⟨hrow, hactive, .inl ⟨link, hlink, hprovider, horganization, hlinked⟩⟩, hrole⟩
  · rintro ⟨⟨hrow, hactive, ⟨link, hlink, hprovider, horganization, hlinked⟩ | ⟨hown, -⟩⟩, hrole⟩
    · exact ⟨hrow, ⟨hrole, hactive⟩, .inr ⟨link, hlink, ⟨hprovider, horganization⟩, hlinked⟩⟩
    · exact ⟨hrow, ⟨hrole, hactive⟩, .inl hown⟩

/-- A provider that is set under its id is there, with those that were there before. -/
theorem mem_foldl_setProvider {providers l : List ResponsibilityProviderProfile}
    (hunique : ∀ p ∈ providers ++ l, ∀ q ∈ providers ++ l, p.id = q.id → p = q)
    {p : ResponsibilityProviderProfile} :
    p ∈ l.foldl setProvider providers ↔ p ∈ providers ∨ p ∈ l := by
  induction l generalizing providers with
  | nil => simp
  | cons q l ih =>
    have hset : ∀ x, x ∈ setProvider providers q ↔ x ∈ providers ∨ x = q := by
      intro x
      unfold setProvider
      split_ifs with hany
      · obtain ⟨old, hold, hid⟩ := List.any_eq_true.mp hany
        have hsame : old = q := hunique old (by simp [hold]) q (by simp) (by simpa using hid)
        subst hsame
        have hmap : (providers.map fun p => if p.id = old.id then old else p) = providers := by
          refine (List.map_congr_left fun p hp => ?_).trans (List.map_id _)
          rw [id_eq, ite_eq_right_iff]
          exact fun hid => hunique old (by simp [hold]) p (by simp [hp]) hid.symm
        rw [hmap]
        exact ⟨.inl, fun h => h.elim id (· ▸ hold)⟩
      · simp
    rw [List.foldl_cons, ih]
    · simp only [hset, List.mem_cons]
      tauto
    · intro a ha b hb
      refine hunique a ?_ b ?_
      all_goals
        simp only [List.mem_append, hset, List.mem_cons] at *
        tauto

/-- The providers a candidate counts are the routing providers of the organization. -/
theorem mem_activeProviders_iff {p : ResponsibilityProviderProfile} :
    p ∈ organizationActiveProviders (organizationProfile t organization) ↔
      ∃ user, RoutingProvider t organization user ∧ p = user.profile := by
  have hactive : ∀ user : User, isActiveProvider user.profile ↔ user.accountStatus = .active := by
    intro user
    simp [isActiveProvider, User.profile, user.id_ne]
  have hlinks : ∀ q, q ∈ ((organizationProfile t organization).providerLinks.filterMap id).filter
      isActiveProvider ↔ ∃ user ∈ t.users.rows, user.accountStatus = .active ∧
        Linked t organization user ∧ q = user.profile := by
    intro q
    simp only [organizationProfile, List.mem_filter, List.mem_filterMap, List.mem_map, id_eq,
      Bool.and_eq_true, decide_eq_true_eq]
    constructor
    · rintro ⟨⟨_, ⟨link, ⟨hlink, horganization, hlinked⟩, rfl⟩, hprovider⟩, hq⟩
      obtain ⟨user, huser, rfl⟩ := Option.map_eq_some_iff.mp hprovider
      exact ⟨user, Table.mem_of_find? huser, (hactive user).mp hq,
        ⟨link, hlink, (Table.key_of_find? huser).symm, horganization, hlinked⟩, rfl⟩
    · rintro ⟨user, hrow, hq, ⟨link, hlink, hprovider, horganization, hlinked⟩, rfl⟩
      exact ⟨⟨_, ⟨link, ⟨hlink, horganization, hlinked⟩, rfl⟩, Option.map_eq_some_iff.mpr
        ⟨user, hprovider ▸ Table.mem_rows_iff.mp hrow, rfl⟩⟩, (hactive user).mpr hq⟩
  have husers : ∀ q, q ∈ (organizationProfile t organization).users.filter isActiveProvider ↔
      ∃ user ∈ t.users.rows, user.accountStatus = .active ∧
        (user.organizationId = some organization.id ∧ user.role = .provider) ∧
          q = user.profile := by
    intro q
    simp only [organizationProfile, List.mem_filter, List.mem_map, Bool.and_eq_true,
      decide_eq_true_eq]
    constructor
    · rintro ⟨⟨user, ⟨hrow, ⟨hown, hrole⟩, hq⟩, rfl⟩, -⟩
      exact ⟨user, hrow, hq, ⟨hown, hrole⟩, rfl⟩
    · rintro ⟨user, hrow, hq, ⟨hown, hrole⟩, rfl⟩
      exact ⟨⟨user, ⟨hrow, ⟨hown, hrole⟩, hq⟩, rfl⟩, (hactive user).mpr hq⟩
  -- two rows with one id are one row, so no provider takes the place of another
  have hunique : ∀ user ∈ t.users.rows, ∀ user' ∈ t.users.rows, user.id = user'.id →
      user.profile = user'.profile := by
    intro user hrow user' hrow' hid
    have hfind := Table.mem_rows_iff.mp hrow
    rw [hid, Table.mem_rows_iff.mp hrow'] at hfind
    rw [Option.some.inj hfind]
  have hlinked : ∀ q, q ∈ organizationAcceptedProviders (organizationProfile t organization) ↔
      ∃ user ∈ t.users.rows, user.accountStatus = .active ∧
        Linked t organization user ∧ q = user.profile := by
    intro q
    unfold organizationAcceptedProviders
    rw [mem_foldl_setProvider, hlinks]
    · simp
    · intro a ha b hb hid
      simp only [List.nil_append, hlinks] at ha hb
      obtain ⟨user, hrow, -, -, rfl⟩ := ha
      obtain ⟨user', hrow', -, -, rfl⟩ := hb
      exact hunique user hrow user' hrow' hid
  unfold organizationActiveProviders
  rw [mem_foldl_setProvider, hlinked, husers]
  · constructor
    · rintro (⟨user, hrow, hq, hlink, rfl⟩ | ⟨user, hrow, hq, hown, rfl⟩)
      · exact ⟨user, ⟨hrow, hq, .inl hlink⟩, rfl⟩
      · exact ⟨user, ⟨hrow, hq, .inr hown⟩, rfl⟩
    · rintro ⟨user, ⟨hrow, hq, hlink | hown⟩, rfl⟩
      · exact .inl ⟨user, hrow, hq, hlink, rfl⟩
      · exact .inr ⟨user, hrow, hq, hown, rfl⟩
  · intro a ha b hb hid
    simp only [List.mem_append, hlinked, husers] at ha hb
    obtain ⟨user, hrow, -, -, rfl⟩ | ⟨user, hrow, -, -, rfl⟩ := ha <;>
    obtain ⟨user', hrow', -, -, rfl⟩ | ⟨user', hrow', -, -, rfl⟩ := hb <;>
    exact hunique user hrow user' hrow' hid

/-! ### What both sides read -/

/-- The entries of a list are trimmed and not blank. -/
theorem trim_of_mem_jsonStringList {value : Option Json} {texts : List String}
    (h : jsonStringList value = some texts) {text : String} (htext : text ∈ texts) :
    trim text = text ∧ text ≠ "" := by
  unfold jsonStringList ReportService.jsonStringList at h
  split at h
  · obtain ⟨items, -, h⟩ := Option.bind_eq_some_iff.mp h
    obtain rfl := Option.some.inj h
    obtain ⟨hmem, hne⟩ := List.mem_filter.mp htext
    obtain ⟨item, -, rfl⟩ := List.mem_map.mp hmem
    exact ⟨trim_trim item, by simpa using hne⟩
  · obtain rfl := Option.some.inj h
    cases htext

/-- So collecting them once more drops nothing. -/
theorem collectStringList_eq (locale : LocaleOrder) {values : List String}
    (h : ∀ text ∈ values, trim text = text ∧ text ≠ "") :
    collectStringList locale values = ReportService.collectStringList locale values := by
  have hmap : values.map trim = values :=
    (List.map_congr_left fun text htext => (h text htext).1).trans (List.map_id _)
  unfold collectStringList ReportService.collectStringList
  rw [hmap, List.filter_eq_self.mpr fun text htext => by simpa using (h text htext).2]

theorem distinctSorted_ne_nil_iff (locale : LocaleOrder) {values : List String} :
    distinctSorted locale values ≠ [] ↔ values ≠ [] := by
  simp only [ne_eq, ← List.length_eq_zero_iff, distinctSorted, List.length_insertionSort,
    List.length_reverse]
  simp

/-- Readiness and routing collect the same mandates. -/
theorem organizationMandateCategories_eq (locale : LocaleOrder) :
    organizationMandateCategories locale organization.profileData =
      mandateCategoriesOf locale (organizationProfile t organization) := by
  have hcollect : ∀ {a b c d : Option Json} {m s r u : List String},
      jsonStringList a = some m → jsonStringList b = some s → jsonStringList c = some r →
      jsonStringList d = some u → collectStringList locale (m ++ s ++ r ++ u) =
        ReportService.collectStringList locale (m ++ s ++ r ++ u) := by
    intro a b c d m s r u ha hb hc hd
    refine collectStringList_eq locale fun text htext => ?_
    simp only [List.mem_append] at htext
    rcases htext with ((htext | htext) | htext) | htext
    · exact trim_of_mem_jsonStringList ha htext
    · exact trim_of_mem_jsonStringList hb htext
    · exact trim_of_mem_jsonStringList hc htext
    · exact trim_of_mem_jsonStringList hd htext
  have hprofile : (organizationProfile t organization).profileData = organization.profileData := rfl
  unfold organizationMandateCategories mandateCategoriesOf
  rw [hprofile]
  refine Option.bind_congr fun m hm => Option.bind_congr fun s hs => Option.bind_congr fun r hr =>
    Option.bind_congr fun u hu => ?_
  exact congrArg some (hcollect hm hs hr hu)

/-! ### What readiness asks -/

variable (t organization)

/-- What both sides demand: a billing state that allows operation, a contact channel, and a
jurisdiction, which is an active zone or else an LGA or a state of the organization's own. -/
structure OpenForReview : Prop where
  billing : organization.billingStatus ≠ .suspended ∧ organization.billingStatus ≠ .cancelled
  contact : truthy organization.contactEmail ∨ truthy organization.contactPhone
  jurisdiction : activeZones t organization.id ≠ [] ∨
    (clean organization.lga).isSome ∨ (clean organization.state).isSome

/-- The profile names a mandate. -/
def NamesMandate : Prop :=
  ∃ mandates, organizationMandateCategories locale organization.profileData = some mandates ∧
    mandates ≠ []

/-- A user names a service category. -/
def NamesCategory (user : User) : Prop :=
  ∃ categories, jsonStringList user.serviceCategories = some categories ∧ categories ≠ []

/-- Nothing throws while `getReadiness` reads the stored JSON. -/
structure ReadableForReadiness : Prop where
  modules : (extractKeys organization.enabledModules).isSome
  mandates : (organizationMandateCategories locale organization.profileData).isSome
  categories : ∀ user ∈ readinessProviders t organization.id,
    (jsonStringList user.serviceCategories).isSome
  coverage : ∀ user ∈ readinessProviders t organization.id,
    (jsonStringList user.coverageAreas).isSome

/-- The organization lists a category: readiness can read it, and it names a mandate, or one of
its active users with the provider role names a service category. -/
structure ListsCategory : Prop where
  readable : ReadableForReadiness locale t organization
  named : NamesMandate locale organization ∨
    ∃ user ∈ readinessProviders t organization.id, NamesCategory user

variable {locale t organization}

/-- The jurisdiction is configured the same way on both sides, whatever the report. -/
theorem configured_iff {zones : List RoutingJurisdictionZone} {country address : Option String}
    {report : RoutingLocationInput} (hzones : zones = activeZones t organization.id) :
    (evaluateRoutingJurisdiction locale
      { country, state := organization.state, lga := organization.lga, address,
        jurisdictionZones := zones } report).configured ↔
      activeZones t organization.id ≠ [] ∨
        (clean organization.lga).isSome ∨ (clean organization.state).isSome := by
  subst hzones
  have hactive : activeRoutingJurisdictionZones (activeZones t organization.id) =
      activeZones t organization.id := by
    refine List.filter_eq_self.mpr fun zone hzone => ?_
    simp only [activeZones, List.mem_map, List.mem_filter, Bool.and_eq_true,
      decide_eq_true_eq] at hzone
    obtain ⟨row, ⟨-, -, hrow⟩, rfl⟩ := hzone
    simp [hrow]
  rw [evaluateRoutingJurisdiction_configured, Bool.or_eq_true]
  refine or_congr ?_ ?_
  · dsimp only
    rw [hactive]
    simp
  · unfold legacyFallbackZone
    dsimp only
    split
    · next h => exact iff_of_true rfl (by simpa using h)
    · next h => exact iff_of_false Bool.false_ne_true (by simpa using h)

/-- Collecting the categories of users drops nothing, so there are some when a user names one. -/
theorem collected_ne_nil_iff {users : List User} {categories : List (List String)}
    (h : (users.mapM fun user => jsonStringList user.serviceCategories) = some categories) :
    collectStringList locale categories.flatten ≠ [] ↔ ∃ user ∈ users, NamesCategory user := by
  have hentries : ∀ text ∈ categories.flatten, trim text = text ∧ text ≠ "" := by
    intro text htext
    obtain ⟨-, rfl⟩ := mapM_eq_some_iff.mp h
    obtain ⟨texts, htexts, htext⟩ := List.mem_flatten.mp htext
    obtain ⟨user, -, huser⟩ := List.mem_filterMap.mp htexts
    exact trim_of_mem_jsonStringList huser htext
  unfold NamesCategory
  rw [collectStringList_eq locale hentries, ReportService.collectStringList,
    distinctSorted_ne_nil_iff, ← exists_mem_mapM_iff h, ne_eq, List.flatten_eq_nil_iff]
  simp

theorem isSome_readinessFacts_iff :
    (readinessFacts locale t organization).isSome ↔
      ReadableForReadiness locale t organization := by
  have hmodules : (organizationModuleSummary organization.enabledModules).isSome ↔
      (extractKeys organization.enabledModules).isSome := isSome_organizationModuleSummary_iff
  constructor
  · intro h
    obtain ⟨facts, h⟩ := Option.isSome_iff_exists.mp h
    obtain ⟨summary, hsummary, h⟩ := Option.bind_eq_some_iff.mp h
    obtain ⟨categories, hcategories, h⟩ := Option.bind_eq_some_iff.mp h
    obtain ⟨coverage, hcoverage, h⟩ := Option.bind_eq_some_iff.mp h
    obtain ⟨mandates, hmandates, -⟩ := Option.bind_eq_some_iff.mp h
    exact ⟨hmodules.mp (by simp [hsummary]), by simp [hmandates],
      isSome_mapM_iff.mp (by simp [hcategories]), isSome_mapM_iff.mp (by simp [hcoverage])⟩
  · rintro ⟨hreadable, hmandates, hcategories, hcoverage⟩
    obtain ⟨summary, hsummary⟩ := Option.isSome_iff_exists.mp (hmodules.mpr hreadable)
    obtain ⟨mandates, hmandates⟩ := Option.isSome_iff_exists.mp hmandates
    obtain ⟨categories, hcategories⟩ :=
      Option.isSome_iff_exists.mp (isSome_mapM_iff.mpr hcategories)
    obtain ⟨coverage, hcoverage⟩ := Option.isSome_iff_exists.mp (isSome_mapM_iff.mpr hcoverage)
    simp [readinessFacts, hsummary, hcategories, hcoverage, hmandates]

/-- What the routing checks find in the facts. -/
theorem routingChecks_ready_of_facts {facts : ReadinessFacts}
    (h : readinessFacts locale t organization = some facts) :
    (verdictOf facts.routingChecks).ready ↔ OpenForReview t organization ∧
      (NamesMandate locale organization ∨
        ∃ user ∈ readinessProviders t organization.id, NamesCategory user) := by
  obtain ⟨summary, hsummary, h⟩ := Option.bind_eq_some_iff.mp h
  obtain ⟨categories, hcategories, h⟩ := Option.bind_eq_some_iff.mp h
  obtain ⟨coverage, -, h⟩ := Option.bind_eq_some_iff.mp h
  obtain ⟨mandates, hmandates, h⟩ := Option.bind_eq_some_iff.mp h
  obtain rfl := Option.some.inj h
  have hnames : NamesMandate locale organization ↔ mandates ≠ [] := by
    simp [NamesMandate, hmandates]
  rw [ReadinessFacts.routingChecks_ready_iff, hnames, ← collected_ne_nil_iff hcategories]
  dsimp only
  rw [configured_iff rfl]
  simp only [ReadinessFacts.contact, ReadinessFacts.billing, Bool.or_eq_true, Bool.and_eq_true,
    decide_eq_true_eq]
  constructor
  · rintro ⟨hcontact, hjurisdiction, hnamed, -, hbilling⟩
    exact ⟨⟨hbilling, hcontact, hjurisdiction⟩, hnamed⟩
  · rintro ⟨⟨hbilling, hcontact, hjurisdiction⟩, hnamed⟩
    exact ⟨hcontact, hjurisdiction, hnamed,
      organizationModuleSummary_maintenanceActive hsummary, hbilling⟩

/-- `getReadiness` reports routing ready when the organization is open for review and lists a
category. -/
theorem getReadiness_ready_iff {user : JwtUser}
    (hrow : t.organizations.find? organization.id = some organization)
    (haccess : MayAccess organization.id user) :
    (∃ readiness, getReadiness locale t organization.id user = .ok readiness ∧
        readiness.routingReadiness.ready) ↔
      OpenForReview t organization ∧ ListsCategory locale t organization := by
  simp only [getReadiness, check_bind_eq_ok, assertCanAccessOrganization_eq_ok,
    orThrow_bind_eq_ok, pure_eq_ok]
  constructor
  · rintro ⟨_, ⟨-, row, hrow', facts, hfacts, rfl⟩, hready⟩
    obtain rfl : row = organization := Option.some.inj (hrow'.symm.trans hrow)
    obtain ⟨hopen, hnamed⟩ := (routingChecks_ready_of_facts hfacts).mp hready
    exact ⟨hopen, isSome_readinessFacts_iff.mp (by simp [hfacts]), hnamed⟩
  · rintro ⟨hopen, hreadable, hnamed⟩
    obtain ⟨facts, hfacts⟩ :=
      Option.isSome_iff_exists.mp (isSome_readinessFacts_iff.mpr hreadable)
    exact ⟨_, ⟨haccess, organization, hrow, facts, hfacts, rfl⟩,
      (routingChecks_ready_of_facts hfacts).mpr ⟨hopen, hnamed⟩⟩

/-! ### What routing asks -/

/-- The reasons of a candidate that do not depend on the report. -/
def standingReasons : List String :=
  ["Organization is not active.",
    "Maintenance Services is not enabled for this organization.",
    "Organization billing status blocks dispatch.",
    "Organization contact channel is missing.",
    "Organization jurisdiction or address is missing.",
    "No mandate or inherited provider profile categories are configured."]

/-- A reason that names a category is none of them. -/
theorem not_mem_standingReasons {before : String} (category : String)
    (h : ∀ reason ∈ standingReasons, ¬ before.toList <+: reason.toList) :
    before ++ category ++ "." ∉ standingReasons := by
  intro hmem
  refine h _ hmem ?_
  rw [String.toList_append, String.toList_append, List.append_assoc]
  exact List.prefix_append _ _

/-- When a candidate has no standing reason. -/
theorem no_standingReasons_iff {profile : ResponsibilityOrganizationProfile} {category : String}
    {facts : CandidateFacts} {jurisdiction : RoutingJurisdictionMatch} :
    (∀ reason ∈ candidateReasons profile category facts jurisdiction, reason ∉ standingReasons) ↔
      profile.status = .active ∧ facts.serviceModuleReady ∧
      (profile.billingStatus ≠ .suspended ∧ profile.billingStatus ≠ .cancelled) ∧
      (truthy profile.contactEmail ∨ truthy profile.contactPhone) ∧ jurisdiction.configured ∧
      facts.categoriesConfigured := by
  have huncovered :
      "No organization mandate or provider profile covers " ++ category ++ "." ∉
        standingReasons :=
    not_mem_standingReasons category (by decide +kernel)
  have hexcluded :
      "Organization has an explicit responsibility exclusion for " ++ category ++ "." ∉
        standingReasons :=
    not_mem_standingReasons category (by decide +kernel)
  have hother {p : Prop} [Decidable p] {reason : String} (h : reason ∉ standingReasons) :
      (∀ x ∈ (if p then [reason] else []), x ∉ standingReasons) ↔ True := by
    split <;> simp [h]
  have hstanding {p : Prop} [Decidable p] {reason : String} (h : reason ∈ standingReasons) :
      (∀ x ∈ (if p then [reason] else []), x ∉ standingReasons) ↔ ¬p := by
    split <;> simp [*]
  have hcategories : (∀ x ∈ (if !facts.categoriesConfigured then
        ["No mandate or inherited provider profile categories are configured."]
      else if !facts.categoryMatched then
        ["No organization mandate or provider profile covers " ++ category ++ "."] else []),
      x ∉ standingReasons) ↔ facts.categoriesConfigured := by
    cases facts.categoriesConfigured
    · simp [standingReasons]
    · simp only [Bool.not_true, Bool.false_eq_true, if_false, iff_true]
      exact (hother huncovered).mpr trivial
  simp only [candidateReasons, List.forall_mem_append, hcategories]
  rw [hstanding (by decide), hstanding (by decide), hstanding (by decide), hstanding (by decide),
    hstanding (by decide), hother (by decide), hother hexcluded, hother (by decide)]
  simp only [not_not, not_or, Bool.not_eq_true', Bool.not_eq_false, and_true, and_assoc,
    Bool.and_eq_true, not_and]
  have hcontact : (truthy profile.contactEmail = false → truthy profile.contactPhone = true) ↔
      truthy profile.contactEmail = true ∨ truthy profile.contactPhone = true := by
    cases truthy profile.contactEmail <;> simp
  rw [hcontact]

/-- What the facts of a candidate are read from. -/
structure ReadsFrom (locale : LocaleOrder) (profile : ResponsibilityOrganizationProfile)
    (required : List String) (held listed : List (List String)) (facts : CandidateFacts) :
    Prop where
  mandates : mandateCategoriesOf locale profile = some facts.mandateCategories
  excluded : (excludedCategoriesOf locale profile).isSome
  capabilities : (organizationActiveProviders profile).mapM activeProviderCapabilityIds =
    some held
  categories : (organizationActiveProviders profile).mapM (fun provider =>
    jsonStringList provider.serviceCategories) = some listed
  coverage : ((organizationActiveProviders profile).mapM fun provider =>
    jsonStringList provider.coverageAreas).isSome
  module : maintenanceModuleEnabled profile.enabledModules = some facts.serviceModuleReady
  inherited : facts.inheritedCategories = ReportService.collectStringList locale listed.flatten
  backed : facts.explicitCapabilityProviderCount = held.countP (capabilitiesServe required)

theorem candidateFacts_readsFrom {profile : ResponsibilityOrganizationProfile} {category : String}
    {facts : CandidateFacts} (h : candidateFacts locale profile category = some facts) :
    ∃ required held listed,
      ReportService.capabilityIdsForCategory
        (ReportService.normalizeResponsibilityCategory category) = some required ∧
      ReadsFrom locale profile required held listed facts := by
  unfold candidateFacts at h
  obtain ⟨mandates, hmandates, h⟩ := Option.bind_eq_some_iff.mp h
  obtain ⟨excluded, hexcluded, h⟩ := Option.bind_eq_some_iff.mp h
  obtain ⟨required, hrequired, h⟩ := Option.bind_eq_some_iff.mp h
  obtain ⟨capabilities, hcapabilities, h⟩ := Option.bind_eq_some_iff.mp h
  obtain ⟨categories, hcategories, h⟩ := Option.bind_eq_some_iff.mp h
  obtain ⟨coverage, hcoverage, h⟩ := Option.bind_eq_some_iff.mp h
  obtain ⟨ready, hready, h⟩ := Option.bind_eq_some_iff.mp h
  dsimp only at h
  split at h <;>
  · obtain ⟨inherited, -, h⟩ := Option.bind_eq_some_iff.mp h
    obtain ⟨mandated, -, h⟩ := Option.bind_eq_some_iff.mp h
    obtain ⟨answer, -, h⟩ := Option.bind_eq_some_iff.mp h
    obtain ⟨diagnostics, -, h⟩ := Option.bind_eq_some_iff.mp h
    obtain rfl := Option.some.inj h
    exact ⟨required, capabilities, categories, hrequired, hmandates, by simp [hexcluded],
      hcapabilities, hcategories, Option.isSome_iff_exists.mpr ⟨coverage, hcoverage⟩,
      hready, rfl, rfl⟩

/-- The blank category can be compared with every other. -/
theorem isSome_someCompatible_blank (categories : List String) :
    (ReportService.someCompatible categories "").isSome := by
  unfold ReportService.someCompatible
  cases categories with
  | nil => rfl
  | cons category categories => simp [ReportService.categoriesCompatible]

/-- For the blank category the facts can be read when the stored JSON can. -/
theorem isSome_candidateFacts_blank {profile : ResponsibilityOrganizationProfile}
    (hmandates : (mandateCategoriesOf locale profile).isSome)
    (hexcluded : (excludedCategoriesOf locale profile).isSome)
    (hmodule : (maintenanceModuleEnabled profile.enabledModules).isSome)
    (hproviders : ∀ provider ∈ organizationActiveProviders profile,
      (activeProviderCapabilityIds provider).isSome ∧
      (jsonStringList provider.serviceCategories).isSome ∧
      (jsonStringList provider.coverageAreas).isSome) :
    (candidateFacts locale profile "").isSome := by
  obtain ⟨mandates, hmandates⟩ := Option.isSome_iff_exists.mp hmandates
  obtain ⟨excluded, hexcluded⟩ := Option.isSome_iff_exists.mp hexcluded
  obtain ⟨ready, hready⟩ := Option.isSome_iff_exists.mp hmodule
  obtain ⟨capabilities, hcapabilities⟩ :=
    Option.isSome_iff_exists.mp (isSome_mapM_iff.mpr fun p hp => (hproviders p hp).1)
  obtain ⟨categories, hcategories⟩ :=
    Option.isSome_iff_exists.mp (isSome_mapM_iff.mpr fun p hp => (hproviders p hp).2.1)
  obtain ⟨coverage, hcoverage⟩ :=
    Option.isSome_iff_exists.mp (isSome_mapM_iff.mpr fun p hp => (hproviders p hp).2.2)
  have hblank : ReportService.normalizeResponsibilityCategory "" = "" := by decide +kernel
  have hids : ReportService.capabilityIdsForCategory "" = some [] := rfl
  obtain ⟨mandated, hmandated⟩ := Option.isSome_iff_exists.mp (isSome_someCompatible_blank mandates)
  obtain ⟨answer, hanswer⟩ := Option.isSome_iff_exists.mp (isSome_someCompatible_blank excluded)
  unfold jsonStringList at hcategories hcoverage
  unfold candidateFacts
  simp only [hmandates, hexcluded, hblank, hids, hcapabilities, hcategories, hcoverage, hready,
    hmandated, hanswer, Option.bind_eq_bind, Option.bind_some, if_true]
  rw [isSome_bind_pure, isSome_mapM_iff]
  intro entry _
  rw [isSome_bind_pure]
  exact isSome_someCompatible_blank _

/-- A category requires maintenance capabilities only. -/
theorem mem_activeMaintenanceCapabilities {category : String} {required : List String}
    (h : ReportService.capabilityIdsForCategory category = some required) {id : String}
    (hid : id ∈ required) : id ∈ activeMaintenanceCapabilities := by
  have htable : ∀ entry ∈ ReportService.categoryCapabilityAliases, ∀ id ∈ entry.2,
      id ∈ activeMaintenanceCapabilities := by decide +kernel
  unfold ReportService.capabilityIdsForCategory at h
  split_ifs at h
  · obtain rfl := Option.some.inj h
    cases hid
  · obtain rfl := Option.some.inj h
    rw [List.mem_reverse, List.mem_dedup, List.mem_reverse, List.mem_append] at hid
    rcases hid with hdirect | hfuzzy
    · cases hlookup : ReportService.categoryCapabilityAliases.lookup category with
      | none => simp [hlookup] at hdirect
      | some ids =>
        rw [hlookup, Option.getD_some] at hdirect
        obtain ⟨before, after, htable', -⟩ := List.lookup_eq_some_iff.mp hlookup
        exact htable (category, ids) (by simp [htable']) id hdirect
    · obtain ⟨entry, hentry, hmem⟩ := List.mem_flatMap.mp hfuzzy
      exact htable entry (List.mem_of_mem_filter hentry) id hmem

/-- Capabilities that serve some category serve the blank one. -/
theorem capabilitiesServe_blank {category : String} {required held : List String}
    (h : ReportService.capabilityIdsForCategory category = some required)
    (hserve : capabilitiesServe required held) : capabilitiesServe [] held := by
  obtain ⟨id, hid, hserves⟩ := List.any_eq_true.mp hserve
  refine List.any_eq_true.mpr ⟨id, hid, ?_⟩
  split_ifs at hserves with hrequired
  · simpa using mem_activeMaintenanceCapabilities h (by simpa using hserves)
  · simpa using hserves

variable (locale t organization)

/-- A user holds a maintenance capability. -/
def HoldsCapability (user : User) : Prop :=
  ∃ held, activeProviderCapabilityIds user.profile = some held ∧ capabilitiesServe [] held

/-- The profile names a mandate, or a routing provider names a service category or holds a
maintenance capability. -/
def NamesResponsibility : Prop :=
  NamesMandate locale organization ∨
    ∃ user, RoutingProvider t organization user ∧ (NamesCategory user ∨ HoldsCapability user)

/-- The organization is active with its maintenance module enabled, and nothing throws while
routing reads the stored JSON. -/
structure InService : Prop where
  active : organization.status = .active
  module : maintenanceModuleEnabled organization.enabledModules = some true
  mandates : (organizationMandateCategories locale organization.profileData).isSome
  excluded : (excludedCategoriesOf locale (organizationProfile t organization)).isSome
  providers : ∀ user, RoutingProvider t organization user →
    (activeProviderCapabilityIds user.profile).isSome ∧
      (jsonStringList user.serviceCategories).isSome ∧ (jsonStringList user.coverageAreas).isSome

/-- For some report the organization is a candidate without a standing reason. -/
def Routable : Prop :=
  ∃ category report candidate,
    serializeOrganizationCandidate locale (organizationProfile t organization) category report =
      some candidate ∧ ∀ reason ∈ candidate.reasons, reason ∉ standingReasons

variable {locale t organization}

/-- Nothing throws on the routing side when nothing does for the blank category. -/
theorem isSome_candidateFacts_organization (h : InService locale t organization) :
    (candidateFacts locale (organizationProfile t organization) "").isSome := by
  refine isSome_candidateFacts_blank (organizationMandateCategories_eq locale ▸ h.mandates)
    h.excluded (Option.isSome_iff_exists.mpr ⟨true, h.module⟩) fun provider hprovider => ?_
  obtain ⟨user, huser, rfl⟩ := mem_activeProviders_iff.mp hprovider
  exact h.providers user huser

/-- What the facts of a candidate say, in terms of the rows. -/
theorem categoriesConfigured_iff {required : List String} {held listed : List (List String)}
    {facts : CandidateFacts}
    (h : ReadsFrom locale (organizationProfile t organization) required held listed facts) :
    facts.categoriesConfigured ↔ NamesMandate locale organization ∨
      ∃ user, RoutingProvider t organization user ∧ (NamesCategory user ∨
        ∃ held, activeProviderCapabilityIds user.profile = some held ∧
          capabilitiesServe required held) := by
  have hmandates : facts.mandateCategories ≠ [] ↔ NamesMandate locale organization := by
    simp [NamesMandate, organizationMandateCategories_eq (t := t), h.mandates]
  have hinherited : facts.inheritedCategories ≠ [] ↔
      ∃ user, RoutingProvider t organization user ∧ NamesCategory user := by
    have hlisted := exists_mem_mapM_iff h.categories (P := fun texts => texts ≠ [])
    rw [h.inherited, ReportService.collectStringList, distinctSorted_ne_nil_iff, ne_eq,
      List.flatten_eq_nil_iff]
    simp only [not_forall, exists_prop, hlisted, mem_activeProviders_iff]
    constructor
    · rintro ⟨_, ⟨user, huser, rfl⟩, texts, htexts, hne⟩
      exact ⟨user, huser, texts, htexts, hne⟩
    · rintro ⟨user, huser, texts, htexts, hne⟩
      exact ⟨_, ⟨user, huser, rfl⟩, texts, htexts, hne⟩
  have hbacked : facts.explicitCapabilityBacked ↔ ∃ user, RoutingProvider t organization user ∧
      ∃ held, activeProviderCapabilityIds user.profile = some held ∧
        capabilitiesServe required held := by
    have hheld :=
      exists_mem_mapM_iff h.capabilities (P := fun ids => capabilitiesServe required ids)
    simp only [CandidateFacts.explicitCapabilityBacked, h.backed, decide_eq_true_eq,
      List.countP_pos_iff, hheld, mem_activeProviders_iff]
    constructor
    · rintro ⟨_, ⟨user, huser, rfl⟩, ids, hids, hserve⟩
      exact ⟨user, huser, ids, hids, hserve⟩
    · rintro ⟨user, huser, ids, hids, hserve⟩
      exact ⟨_, ⟨user, huser, rfl⟩, ids, hids, hserve⟩
  rw [CandidateFacts.categoriesConfigured, Bool.or_eq_true, Bool.or_eq_true, decide_eq_true_eq,
    decide_eq_true_eq, hmandates, hinherited, hbacked]
  constructor
  · rintro ((⟨user, huser, hnames⟩ | hmandate) | ⟨user, huser, hholds⟩)
    · exact .inr ⟨user, huser, .inl hnames⟩
    · exact .inl hmandate
    · exact .inr ⟨user, huser, .inr hholds⟩
  · rintro (hmandate | ⟨user, huser, hnames | hholds⟩)
    · exact .inl (.inr hmandate)
    · exact .inl (.inl ⟨user, huser, hnames⟩)
    · exact .inr ⟨user, huser, hholds⟩

/-- Routing takes the organization for some report when it is open for review, in service, and
names what it is responsible for. -/
theorem routable_iff :
    Routable locale t organization ↔ OpenForReview t organization ∧
      InService locale t organization ∧ NamesResponsibility locale t organization := by
  have hlocality : ∀ report : RoutedReport, (evaluateRoutingJurisdiction locale
      (organizationProfile t organization).locality report.locationInput).configured ↔
        activeZones t organization.id ≠ [] ∨
          (clean organization.lga).isSome ∨ (clean organization.state).isSome :=
    fun report => configured_iff rfl
  constructor
  · rintro ⟨category, report, candidate, hcandidate, hreasons⟩
    obtain ⟨facts, hfacts, hcandidate⟩ := Option.bind_eq_some_iff.mp hcandidate
    obtain rfl := Option.some.inj hcandidate
    obtain ⟨required, held, listed, hrequired, hreads⟩ := candidateFacts_readsFrom hfacts
    obtain ⟨hactive, hready, hbilling, hcontact, hconfigured, hcategories⟩ :=
      no_standingReasons_iff.mp hreasons
    refine ⟨⟨hbilling, hcontact, (hlocality report).mp hconfigured⟩,
      ⟨hactive, hready ▸ hreads.module, ?_, hreads.excluded, fun user huser => ?_⟩, ?_⟩
    · rw [organizationMandateCategories_eq (t := t), hreads.mandates]
      rfl
    · have hprovider := mem_activeProviders_iff.mpr ⟨user, huser, rfl⟩
      exact ⟨isSome_mapM_iff.mp (by simp [hreads.capabilities]) _ hprovider,
        isSome_mapM_iff.mp (Option.isSome_iff_exists.mpr ⟨_, hreads.categories⟩) _ hprovider,
        isSome_mapM_iff.mp hreads.coverage _ hprovider⟩
    · refine ((categoriesConfigured_iff hreads).mp hcategories).imp_right ?_
      rintro ⟨user, huser, hnames | ⟨ids, hids, hserve⟩⟩
      · exact ⟨user, huser, .inl hnames⟩
      · exact ⟨user, huser, .inr ⟨ids, hids, capabilitiesServe_blank hrequired hserve⟩⟩
  · rintro ⟨hopen, hservice, hnames⟩
    obtain ⟨facts, hfacts⟩ :=
      Option.isSome_iff_exists.mp (isSome_candidateFacts_organization hservice)
    obtain ⟨required, held, listed, hrequired, hreads⟩ := candidateFacts_readsFrom hfacts
    have hblank : ReportService.normalizeResponsibilityCategory "" = "" := by decide +kernel
    obtain rfl : [] = required := by
      rw [hblank] at hrequired
      exact Option.some.inj hrequired
    have hready : facts.serviceModuleReady = true :=
      Option.some.inj (hreads.module.symm.trans hservice.module)
    refine ⟨"", { category := "" }, _, Option.bind_eq_some_iff.mpr ⟨facts, hfacts, rfl⟩,
      no_standingReasons_iff.mpr ⟨hservice.active, hready, hopen.billing, hopen.contact,
        (hlocality _).mpr hopen.jurisdiction, (categoriesConfigured_iff hreads).mpr hnames⟩⟩

/-! ### Agreement -/

variable (locale t organization)

/-- `getReadiness` reports routing ready exactly when routing has no standing reason against the
organization. -/
def ReadinessAgrees : Prop :=
  ∀ user : JwtUser, MayAccess organization.id user →
    ((∃ readiness, getReadiness locale t organization.id user = .ok readiness ∧
      readiness.routingReadiness.ready) ↔ Routable locale t organization)

/-- When the two checklists come to one answer. -/
inductive AgreesWhen : Prop where
  /-- Both refuse, for the billing state, the contact channel or the jurisdiction. -/
  | closed : ¬ OpenForReview t organization → AgreesWhen
  /-- Both accept: what readiness does not look at is in order. -/
  | listed : ListsCategory locale t organization → InService locale t organization → AgreesWhen
  /-- Both refuse: readiness finds no category, and routing finds nothing either, or finds the
  organization out of service. -/
  | unlisted : ¬ ListsCategory locale t organization →
      ¬ InService locale t organization ∨ ¬ NamesResponsibility locale t organization → AgreesWhen

variable {locale t organization}

/-- What readiness finds listed, routing finds too. -/
theorem ListsCategory.namesResponsibility (h : ListsCategory locale t organization) :
    NamesResponsibility locale t organization := by
  refine h.named.imp_right ?_
  rintro ⟨user, huser, hnames⟩
  exact ⟨user, (mem_readinessProviders_iff.mp huser).1, .inl hnames⟩

/-- **Readiness against routing.** The routing readiness of an organization agrees with the
reasons of its candidates exactly when the rows meet `AgreesWhen`. -/
theorem readiness_agrees_iff (hrow : t.organizations.find? organization.id = some organization) :
    ReadinessAgrees locale t organization ↔ AgreesWhen locale t organization := by
  constructor
  · intro hagrees
    have hsuper := hagrees { id := "super", role := .superAdmin } (.inl rfl)
    rw [getReadiness_ready_iff hrow (.inl rfl), routable_iff] at hsuper
    by_cases hopen : OpenForReview t organization
    · by_cases hlists : ListsCategory locale t organization
      · exact .listed hlists (hsuper.mp ⟨hopen, hlists⟩).2.1
      · refine .unlisted hlists (not_and_or.mp fun hroutable => ?_)
        exact hlists (hsuper.mpr ⟨hopen, hroutable⟩).2
    · exact .closed hopen
  · intro hwhen user haccess
    rw [getReadiness_ready_iff hrow haccess, routable_iff]
    cases hwhen with
    | closed hclosed => exact iff_of_false (fun h => hclosed h.1) (fun h => hclosed h.1)
    | listed hlists hservice =>
      exact and_congr_right fun _ => iff_of_true hlists ⟨hservice, hlists.namesResponsibility⟩
    | unlisted hlists hrefused =>
      exact and_congr_right fun _ => iff_of_false hlists fun h =>
        hrefused.elim (fun hno => hno h.1) fun hno => hno h.2

namespace Example

/-- An order of texts. -/
def localeOrder : LocaleOrder := fun a b => a ≤ b

/-- An organization that is responsible for the roads of Garki. -/
def roads (status : OrganizationStatus) : OrganizationRow where
  id := "roads"
  status := status
  contactEmail := some "desk@roads"
  lga := some "Garki"
  profileData := some (.obj [("mandates", .arr [.str "Road"])])
  enabledModules := some (.arr [.str "maintenance"])

/-- The tables with this one organization. -/
def roadsTables (status : OrganizationStatus) : Tables where
  organizations := (Table.empty _).insert (roads status)
  users := Table.empty _

theorem roads_row (status : OrganizationStatus) :
    (roadsTables status).organizations.find? (roads status).id = some (roads status) := rfl

theorem roads_openForReview (status : OrganizationStatus) :
    OpenForReview (roadsTables status) (roads status) := by
  refine ⟨by simp [roads], .inl (by simp [roads, truthy]), .inr (.inl ?_)⟩
  show (clean (some "Garki")).isSome
  decide +kernel

theorem roads_mandates (status : OrganizationStatus) :
    organizationMandateCategories localeOrder (roads status).profileData = some ["Road"] := by
  show organizationMandateCategories localeOrder
    (some (.obj [("mandates", .arr [.str "Road"])])) = some ["Road"]
  decide +kernel

theorem roads_listsCategory (status : OrganizationStatus) :
    ListsCategory localeOrder (roadsTables status) (roads status) := by
  refine ⟨⟨rfl, by simp [roads_mandates], ?_, ?_⟩,
    .inl ⟨["Road"], roads_mandates status, by simp⟩⟩
  · intro user huser
    cases huser
  · intro user huser
    cases huser

end Example

/-- Readiness and routing agree on an active organization with a mandate. -/
theorem roads_readiness_agrees :
    (Example.roadsTables .active).organizations.find? (Example.roads .active).id =
        some (Example.roads .active) ∧
      ReadinessAgrees Example.localeOrder (Example.roadsTables .active)
        (Example.roads .active) := by
  refine ⟨rfl, (readiness_agrees_iff (Example.roads_row .active)).mpr
    (.listed (Example.roads_listsCategory .active)
      ⟨rfl, by decide +kernel, by simp [Example.roads_mandates], by decide +kernel, ?_⟩)⟩
  rintro user ⟨hrow, -, -⟩
  cases hrow

/-- Once suspended the organization is still ready for routing, which takes it for no report. -/
theorem suspended_organization_ready :
    ¬ ∀ (locale : LocaleOrder) (t : Tables) (organization : OrganizationRow),
      t.organizations.find? organization.id = some organization →
        ReadinessAgrees locale t organization := by
  intro h
  have hrow := Example.roads_row .suspended
  have hagrees := h Example.localeOrder _ _ hrow { id := "super", role := .superAdmin } (.inl rfl)
  rw [getReadiness_ready_iff hrow (.inl rfl), routable_iff] at hagrees
  obtain ⟨-, hservice, -⟩ := hagrees.mp
    ⟨Example.roads_openForReview .suspended, Example.roads_listsCategory .suspended⟩
  have hactive := hservice.active
  cases hactive

end FixZone.OrganizationService
