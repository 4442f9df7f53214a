import FixZone.Library.Partial
import FixZone.Report.Routing

/-!
# What routing depends on

The outcome of a resolution is decided by three things about each active organization:
its id, whether it is eligible, and whether the resolver takes it for restricted. The
resolver recognises a restriction by the text of the reasons, and one of these quotes
the category of the citizen: a category that reads like an exclusion makes a restriction
of an organization that merely does not cover it. A comparison may also throw, and then
there is no outcome at all.

`routing_characterized_iff` says when the outcome is what the candidates are to decide,
and `unmatched_organization_neutral_iff` when an organization whose jurisdiction does not match
the report has no part in it.
-/

namespace FixZone.ReportService

open Library Organization

variable {locale : LocaleOrder}

/-! ### Reasons -/

/-- An exclusion is looked for in the characters of a reason, each in lower case. -/
theorem includes_exclusionText_iff (reason : String) :
    includes (toLowerCase reason) exclusionText ↔
      exclusionText.toList <:+: reason.toList.flatMap lowerChar :=
  includes_toLowerCase_iff (ne_sigma_of_not_mem (by decide +kernel))

/-- The text of a category occurs in a longer text of lower-case words as it is. -/
theorem flatMap_lowerChar_quoted (before category : String) :
    (before ++ category ++ ".").toList.flatMap lowerChar =
      before.toList.flatMap lowerChar ++ (category.toList.flatMap lowerChar ++ ['.']) := by
  rw [String.toList_append, String.toList_append, List.flatMap_append, List.flatMap_append,
    List.append_assoc]
  rfl

/-- The reason for a category that is not covered reads like an exclusion when the category does. -/
theorem includes_uncovered_iff (category : String) :
    includes (toLowerCase
      ("No organization mandate or provider profile covers " ++ category ++ ".")) exclusionText ↔
      includes (toLowerCase category) exclusionText := by
  rw [includes_exclusionText_iff, includes_exclusionText_iff, flatMap_lowerChar_quoted]
  exact infix_between_iff (by decide +kernel) (by decide +kernel) (by decide +kernel)
    (by decide +kernel)

/-- The reason for an exclusion always does. -/
theorem includes_excluded (category : String) :
    includes (toLowerCase
      ("Organization has an explicit responsibility exclusion for " ++ category ++ "."))
      exclusionText := by
  rw [includes_exclusionText_iff, flatMap_lowerChar_quoted]
  exact List.infix_append_of_infix_left (by decide +kernel)

/-- The reasons of a candidate read like an exclusion: there is one, or the category is not
covered and reads like one itself. -/
def readsExcluded (category : String) (facts : CandidateFacts) : Bool :=
  facts.explicitlyExcludedCategory ||
    (facts.categoriesConfigured && !facts.categoryMatched &&
      includes (toLowerCase category) exclusionText)

/-- Whether a reason reads like an exclusion. -/
def mentionsExclusion (reason : String) : Bool := includes (toLowerCase reason) exclusionText

theorem not_mentionsExclusion {reason : List Char}
    (h : ¬ exclusionText.toList <:+: reason.flatMap lowerChar) :
    mentionsExclusion (String.ofList reason) = false := by
  rw [← String.toList_ofList (l := reason), ← includes_exclusionText_iff] at h
  exact Bool.eq_false_iff.mpr h

theorem any_candidateReasons (organization : ResponsibilityOrganizationProfile) (category : String)
    (facts : CandidateFacts) (jurisdiction : RoutingJurisdictionMatch) :
    (candidateReasons organization category facts jurisdiction).any mentionsExclusion =
      readsExcluded category facts := by
  have hnone : mentionsExclusion "Organization is not active." = false ∧
      mentionsExclusion "Maintenance Services is not enabled for this organization." = false ∧
      mentionsExclusion "Organization billing status blocks dispatch." = false ∧
      mentionsExclusion "Organization contact channel is missing." = false ∧
      mentionsExclusion "Organization jurisdiction or address is missing." = false ∧
      mentionsExclusion "Report has no comparable textual locality for jurisdiction matching." =
        false ∧
      mentionsExclusion "No mandate or inherited provider profile categories are configured." =
        false ∧
      mentionsExclusion "Organization jurisdiction does not match the report location." =
        false := by
    refine ⟨?_, ?_, ?_, ?_, ?_, ?_, ?_, ?_⟩ <;> exact not_mentionsExclusion (by decide +kernel)
  obtain ⟨h1, h2, h3, h4, h5, h6, h7, h8⟩ := hnone
  have huncovered :
      mentionsExclusion ("No organization mandate or provider profile covers " ++ category ++ ".") =
      includes (toLowerCase category) exclusionText :=
      Bool.eq_iff_iff.mpr (includes_uncovered_iff category)
  have hexcluded : mentionsExclusion
      ("Organization has an explicit responsibility exclusion for " ++ category ++ ".") = true :=
    includes_excluded category
  -- of the nine reasons the fixed ones say nothing, whether they are given or not
  have hif {p : Prop} [Decidable p] {reason : String} (h : mentionsExclusion reason = false) :
      (if p then [reason] else []).any mentionsExclusion = false := by
    split <;> simp [h]
  simp only [candidateReasons, List.any_append, hif h1, hif h2, hif h3, hif h4, hif h5, hif h6,
    hif h8, Bool.false_or, Bool.or_false, readsExcluded]
  cases facts.categoriesConfigured <;> cases facts.categoryMatched <;>
    cases facts.explicitlyExcludedCategory <;>
    simp [h7, huncovered, hexcluded]

/-! ### Standings -/

/-- What the outcome depends on of a candidate. -/
structure Standing where
  id : String
  restricted : Bool
  eligible : Bool
  deriving DecidableEq

/-- The standing of a candidate. -/
def Standing.of (candidate : OrganizationCandidate) : Standing :=
  ⟨candidate.id, isRestricted candidate, candidate.eligible⟩

/-- The standing of an organization; `none` when a comparison throws. -/
def standing (locale : LocaleOrder) (dto : RoutedReport)
    (organization : ResponsibilityOrganizationProfile) : Option Standing :=
  (serializeOrganizationCandidate locale organization dto.category dto).map Standing.of

/-- The ids of the eligible candidates with an asset, or else of all eligible candidates. -/
def decisiveIds (assetOrganizationIds : List String) (standings : List Standing) : List String :=
  let eligible := (standings.filter (·.eligible)).map (·.id)
  let assetBacked := eligible.filter fun id => assetOrganizationIds.contains id
  if assetBacked ≠ [] then assetBacked else eligible

/-- The outcome and the routed organization for some standings. -/
def outcomeOf (assetOrganizationIds : List String) (standings : List Standing) :
    ResponsibilityOutcome × Option String :=
  if standings.any (·.restricted) then (.restrictedOrConflicted, none)
  else match decisiveIds assetOrganizationIds standings with
    | [id] => (.highConfidence, some id)
    | [] => (.unmatched, none)
    | _ :: _ :: _ => (.ambiguous, none)

/-- The outcome and the routed organization of a resolution; `none` when it throws. -/
def routed (locale : LocaleOrder) (organizations : List ResponsibilityOrganizationProfile)
    (assets : AssetTables) (dto : RoutedReport) : Option (ResponsibilityOutcome × Option String) :=
  (resolveReportResponsibility locale organizations assets dto).map fun resolution =>
    (resolution.outcome, resolution.organization)

/-- The decisive candidates of the resolver. -/
def decisiveCandidates (candidates : List OrganizationCandidate)
    (assetOrganizationIds : List String) : List OrganizationCandidate :=
  let evaluated := candidates.filter (·.eligible)
  let assetBacked := evaluated.filter fun candidate => assetOrganizationIds.contains candidate.id
  if assetBacked ≠ [] then assetBacked else evaluated

theorem map_decisiveCandidates (candidates : List OrganizationCandidate)
    (assetOrganizationIds : List String) :
    (decisiveCandidates candidates assetOrganizationIds).map (·.id) =
      decisiveIds assetOrganizationIds (candidates.map Standing.of) := by
  have heligible : ((candidates.map Standing.of).filter (·.eligible)).map (·.id) =
      (candidates.filter (·.eligible)).map (·.id) := by
    rw [List.filter_map, List.map_map]
    rfl
  have hbacked : (((candidates.filter (·.eligible)).map (·.id)).filter fun id =>
      assetOrganizationIds.contains id) =
      ((candidates.filter (·.eligible)).filter fun c => assetOrganizationIds.contains c.id).map
      (·.id) := by
    rw [List.filter_map]
    rfl
  simp only [decisiveIds, heligible, hbacked, decisiveCandidates, ne_eq, List.map_eq_nil_iff]
  split <;> rfl

/-- The resolution looks at nothing but the standings. -/
theorem resolveCandidates_eq (candidates : List OrganizationCandidate)
    (assetOrganizationIds : List String) :
    ((resolveCandidates candidates assetOrganizationIds).outcome,
        (resolveCandidates candidates assetOrganizationIds).organization) =
      outcomeOf assetOrganizationIds (candidates.map Standing.of) := by
  have hany : (candidates.map Standing.of).any (·.restricted) =
      decide (candidates.filter isRestricted ≠ []) := by
    rw [List.any_map, Bool.eq_iff_iff]
    simp [Standing.of]
  unfold resolveCandidates outcomeOf
  rw [hany, ← map_decisiveCandidates]
  by_cases hrestricted : candidates.filter isRestricted ≠ []
  · simp [hrestricted]
  · simp only [hrestricted, if_false, decide_false, Bool.false_eq_true]
    rw [← decisiveCandidates.eq_def]
    rcases decisiveCandidates candidates assetOrganizationIds with _ | ⟨candidate,
      _ | ⟨next, rest⟩⟩ <;> rfl

/-- A category other than `constructor` has a table of capabilities. -/
theorem isSome_capabilityIdsForCategory_iff {category : String} :
    (capabilityIdsForCategory category).isSome ↔ category ≠ "constructor" := by
  unfold capabilityIdsForCategory
  split_ifs with hblank hconstructor
  · simp [hblank]
  · simp [hconstructor]
  · simp [hconstructor]

/-- Two categories other than `constructor` can be compared. -/
theorem isSome_categoriesCompatible {left right : String} (hleft : left ≠ "constructor")
    (hright : right ≠ "constructor") : (categoriesCompatible left right).isSome := by
  unfold categoriesCompatible
  split_ifs
  · rfl
  · rfl
  · rfl
  · obtain ⟨leftIds, hl⟩ :=
      Option.isSome_iff_exists.mp (isSome_capabilityIdsForCategory_iff.mpr hleft)
    obtain ⟨rightIds, hr⟩ :=
      Option.isSome_iff_exists.mp (isSome_capabilityIdsForCategory_iff.mpr hright)
    simp [hl, hr]

/-- The aliases of a category can be listed, but for the one name that has no table of
capabilities. -/
theorem isSome_normalizedCategoryAliases_iff (locale : LocaleOrder) (category : String) :
    (normalizedCategoryAliases locale category).isSome ↔ category ≠ "constructor" := by
  have hselect : (normalizedCategoryAliases locale category).isSome ↔
      ((categoryCapabilityAliases.map Prod.fst).filterM fun name =>
        categoriesCompatible name category).isSome := by
    unfold normalizedCategoryAliases
    cases (categoryCapabilityAliases.map Prod.fst).filterM fun name =>
      categoriesCompatible name category <;> simp
  rw [hselect, isSome_filterM_iff]
  constructor
  · rintro h rfl
    exact absurd (h "telecom" (by decide)) (by decide +kernel)
  · intro hcategory name hname
    refine isSome_categoriesCompatible ?_ hcategory
    rintro rfl
    exact absurd hname (by decide +kernel)

/-- A result is given when the aliases can be listed. -/
theorem responsibilityResolutionResult_eq (locale : LocaleOrder) {dto : RoutedReport}
    (input : ResolutionInput) (hcategory : trim dto.category ≠ "") :
    (responsibilityResolutionResult locale dto input).map (fun resolution =>
        (resolution.outcome, resolution.organization)) =
      if normalizeResponsibilityCategory dto.category = "constructor" then none
      else some (input.outcome, input.organization) := by
  have haliases :=
    isSome_normalizedCategoryAliases_iff locale (normalizeResponsibilityCategory dto.category)
  unfold responsibilityResolutionResult responsibilityResolutionDiagnostics
  simp only [if_neg hcategory, Option.getD_some]
  by_cases hconstructor : normalizeResponsibilityCategory dto.category = "constructor"
  · rw [hconstructor] at haliases ⊢
    have hnone : normalizedCategoryAliases locale "constructor" = none := by simpa using haliases
    have htruthy : truthy (some "constructor") = true := by decide
    simp [hnone, htruthy]
  · obtain ⟨aliases, hsome⟩ := Option.isSome_iff_exists.mp (haliases.mpr hconstructor)
    split <;> simp [hsome]

/-- The active organizations a resolution looks at. -/
def activeOrganizations (organizations : List ResponsibilityOrganizationProfile) :
    List ResponsibilityOrganizationProfile :=
  organizations.filter fun organization => organization.status = .active

/-- A resolution is the outcome of the standings of the active organizations. -/
theorem routed_eq (locale : LocaleOrder) (organizations : List ResponsibilityOrganizationProfile)
    (assets : AssetTables) {dto : RoutedReport} (hcategory : trim dto.category ≠ "")
    (hlocation : hasResponsibilityLocation dto) :
    routed locale organizations assets dto =
      if normalizeResponsibilityCategory dto.category = "constructor" then none
      else ((activeOrganizations organizations).mapM (standing locale dto)).map
        (outcomeOf (assetResponsibilityOrganizationIds assets dto)) := by
  have hstandings : (activeOrganizations organizations).mapM (standing locale dto) =
      ((activeOrganizations organizations).mapM fun organization =>
        serializeOrganizationCandidate locale organization dto.category dto).map
          (List.map Standing.of) :=
    mapM_map_eq _ _
  rw [hstandings]
  unfold routed resolveReportResponsibility
  rw [if_neg hcategory, if_neg (by simp [hlocation])]
  change Option.map _ (Option.bind ((activeOrganizations organizations).mapM _) _) = _
  cases (activeOrganizations organizations).mapM fun organization =>
      serializeOrganizationCandidate locale organization dto.category dto with
  | none => simp
  | some candidates =>
    rw [Option.bind_some, responsibilityResolutionResult_eq locale _ hcategory,
      resolveCandidates_eq]
    rfl

/-! ### Standings of organizations -/

theorem standing_eq (locale : LocaleOrder) (dto : RoutedReport)
    (organization : ResponsibilityOrganizationProfile) :
    standing locale dto organization =
      (candidateFacts locale organization dto.category).map fun facts =>
        { id := organization.id
          restricted := readsExcluded dto.category facts
          eligible := (candidateReasons organization dto.category facts
            (evaluateRoutingJurisdiction locale organization.locality dto.locationInput)).isEmpty }
              := by
  unfold standing serializeOrganizationCandidate
  cases candidateFacts locale organization dto.category with
  | none => rfl
  | some facts =>
    have hrestricted := any_candidateReasons organization dto.category facts
      (evaluateRoutingJurisdiction locale organization.locality dto.locationInput)
    simp only [Option.bind_eq_bind, Option.bind_some, Option.pure_def, Option.map_some, Standing.of,
      isRestricted]
    rw [← hrestricted]
    rfl

/-- The resolver takes the organization for one that excludes the category. -/
def ReadsExcluded (locale : LocaleOrder) (category : String)
    (organization : ResponsibilityOrganizationProfile) : Prop :=
  (candidateFacts locale organization category).any (readsExcluded category)

/-- Nothing throws while the candidates of the active organizations are computed. -/
structure Comparable (locale : LocaleOrder) (organizations : List ResponsibilityOrganizationProfile)
    (category : String) : Prop where
  listed : normalizeResponsibilityCategory category ≠ "constructor"
  readable : ∀ organization ∈ activeOrganizations organizations,
    (candidateFacts locale organization category).isSome

theorem isSome_standing_iff {dto : RoutedReport}
    {organization : ResponsibilityOrganizationProfile} :
    (standing locale dto organization).isSome ↔
      (candidateFacts locale organization dto.category).isSome := by
  rw [standing_eq, Option.isSome_map]

theorem standing_restricted {dto : RoutedReport} {organization : ResponsibilityOrganizationProfile}
    {st : Standing} (h : standing locale dto organization = some st) :
    st.restricted = true ↔ ReadsExcluded locale dto.category organization := by
  rw [standing_eq] at h
  obtain ⟨facts, hfacts, rfl⟩ := Option.map_eq_some_iff.mp h
  rw [ReadsExcluded, hfacts, Option.any_some]

theorem any_restricted_iff {dto : RoutedReport}
    {organizations : List ResponsibilityOrganizationProfile} :
    (organizations.filterMap (standing locale dto)).any (·.restricted) ↔
      ∃ organization ∈ organizations, ReadsExcluded locale dto.category organization := by
  simp only [List.any_eq_true, List.mem_filterMap]
  constructor
  · rintro ⟨st, ⟨organization, hmem, hst⟩, hrestricted⟩
    exact ⟨organization, hmem, (standing_restricted hst).mp hrestricted⟩
  · rintro ⟨organization, hmem, hreads⟩
    have hsome : (standing locale dto organization).isSome := by
      rw [isSome_standing_iff]
      exact Option.isSome_of_any hreads
    obtain ⟨st, hst⟩ := Option.isSome_iff_exists.mp hsome
    exact ⟨st, ⟨organization, hmem, hst⟩, (standing_restricted hst).mpr hreads⟩

/-- Without an exception the outcome is that of the standings. -/
theorem Comparable.routed_eq {organizations : List ResponsibilityOrganizationProfile}
    {dto : RoutedReport} (h : Comparable locale organizations dto.category) (assets : AssetTables)
    (hcategory : trim dto.category ≠ "") (hlocation : hasResponsibilityLocation dto) :
    routed locale organizations assets dto =
      some (outcomeOf (assetResponsibilityOrganizationIds assets dto)
        ((activeOrganizations organizations).filterMap (standing locale dto))) := by
  have hstandings := mapM_eq_some_iff.mpr
    ⟨fun organization hmem => isSome_standing_iff.mpr (h.readable organization hmem), rfl⟩
  rw [ReportService.routed_eq locale organizations assets hcategory hlocation,
    if_neg h.listed, hstandings, Option.map_some]

/-- Otherwise there is none. -/
theorem routed_eq_none {organizations : List ResponsibilityOrganizationProfile} {dto : RoutedReport}
    (h : ¬Comparable locale organizations dto.category) (assets : AssetTables)
    (hcategory : trim dto.category ≠ "") (hlocation : hasResponsibilityLocation dto) :
    routed locale organizations assets dto = none := by
  rw [routed_eq locale organizations assets hcategory hlocation]
  split
  · rfl
  · next hlisted =>
    have hfails : ¬((activeOrganizations organizations).mapM (standing locale dto)).isSome := by
      rw [isSome_mapM_iff]
      exact fun hall =>
        h ⟨hlisted, fun organization hmem => isSome_standing_iff.mp (hall organization hmem)⟩
    rw [Option.map_eq_none_iff]
    simpa using hfails

/-- An organization whose jurisdiction does not match is not eligible. -/
theorem standing_ineligible {dto : RoutedReport} {organization : ResponsibilityOrganizationProfile}
    {st : Standing} (h : standing locale dto organization = some st) (hunmatched :
      (evaluateRoutingJurisdiction locale organization.locality dto.locationInput).matched =
        false) :
    st.eligible = false := by
  rw [standing_eq] at h
  obtain ⟨facts, -, rfl⟩ := Option.map_eq_some_iff.mp h
  simp [candidateReasons, hunmatched]

/-! ### One more organization -/

theorem outcomeOf_restricted_iff (ids : List String) (standings : List Standing) :
    (outcomeOf ids standings).1 = .restrictedOrConflicted ↔ standings.any (·.restricted) := by
  unfold outcomeOf
  split
  · next h => simp [h]
  · next h =>
    rcases decisiveIds ids standings with _ | ⟨id, _ | ⟨next, rest⟩⟩ <;> simpa using h

/-- A standing that is not eligible changes the outcome only by a restriction that was not there. -/
theorem outcomeOf_concat_iff {ids : List String} {standings : List Standing} {st : Standing}
    (hineligible : st.eligible = false) :
    outcomeOf ids (standings ++ [st]) = outcomeOf ids standings ↔
      (st.restricted → standings.any (·.restricted)) := by
  constructor
  · intro h hrestricted
    rw [← outcomeOf_restricted_iff ids, ← h, outcomeOf_restricted_iff]
    simp [hrestricted]
  · intro h
    have hany : (standings ++ [st]).any (·.restricted) = standings.any (·.restricted) := by
      rw [List.any_append]
      cases hrestricted : st.restricted <;> simp [hrestricted]
      simpa using h hrestricted
    have hdecisive : decisiveIds ids (standings ++ [st]) = decisiveIds ids standings := by
      simp [decisiveIds, hineligible]
    unfold outcomeOf
    rw [hany, hdecisive]

namespace Example

/-- An order of texts. -/
def localeOrder : LocaleOrder := fun a b => a ≤ b

/-- An organization of Garki that looks after street lights. -/
def garkiOrganization : ResponsibilityOrganizationProfile where
  id := "garki"
  contactEmail := some "desk@garki"
  jurisdictionZones := [{ lga := some "Garki" }]
  profileData := some (.obj [("mandates", .arr [.str "Lighting"])])

/-- An organization of another place that excludes them. -/
def ikejaOrganization : ResponsibilityOrganizationProfile where
  id := "ikeja"
  contactEmail := some "desk@ikeja"
  jurisdictionZones := [{ lga := some "Ikeja" }]
  profileData := some (.obj [("excludedCategories", .arr [.str "Lighting"])])

/-- A broken light in Garki. -/
def brokenLight : RoutedReport := { category := "Lighting", location := "Garki" }

/-- A report whose category reads like an exclusion. -/
def oddReport : RoutedReport :=
  { category := "Explicit responsibility exclusion", location := "Garki" }

end Example

/-- When one more organization leaves the routing of a report as it is. -/
def LeavesRouting (locale : LocaleOrder) (organizations : List ResponsibilityOrganizationProfile)
    (newcomer : ResponsibilityOrganizationProfile) (dto : RoutedReport) : Prop :=
  trim dto.category = "" ∨ hasResponsibilityLocation dto = false ∨
    ¬Comparable locale organizations dto.category ∨
    (candidateFacts locale newcomer dto.category).isSome ∧
      (ReadsExcluded locale dto.category newcomer →
        ∃ organization ∈ activeOrganizations organizations,
          ReadsExcluded locale dto.category organization)

/-- **Routing non-interference.** An active organization whose jurisdiction does not match a
report leaves the outcome and the routed organization as they are exactly when nothing about it
throws and the resolver does not take it for the only one that excludes the category. -/
theorem unmatched_organization_neutral_iff {organizations : List ResponsibilityOrganizationProfile}
    {assets : AssetTables} {dto : RoutedReport} {newcomer : ResponsibilityOrganizationProfile}
    (hactive : newcomer.status = .active)
    (hunmatched : (evaluateRoutingJurisdiction locale newcomer.locality dto.locationInput).matched =
      false) :
    routed locale (organizations ++ [newcomer]) assets dto =
      routed locale organizations assets dto ↔
      LeavesRouting locale organizations newcomer dto := by
  by_cases hcategory : trim dto.category = ""
  · simp [LeavesRouting, routed, resolveReportResponsibility, hcategory]
  by_cases hlocation : hasResponsibilityLocation dto
  · have hlist : activeOrganizations (organizations ++ [newcomer]) =
        activeOrganizations organizations ++ [newcomer] := by
      simp [activeOrganizations, hactive]
    by_cases hbase : Comparable locale organizations dto.category
    · rw [hbase.routed_eq assets hcategory hlocation]
      by_cases hnew : (candidateFacts locale newcomer dto.category).isSome
      · obtain ⟨st, hst⟩ := Option.isSome_iff_exists.mp (isSome_standing_iff.mpr hnew)
        have hboth : Comparable locale (organizations ++ [newcomer]) dto.category := by
          refine ⟨hbase.listed, fun organization hmem => ?_⟩
          rw [hlist, List.mem_append, List.mem_singleton] at hmem
          rcases hmem with hmem | rfl
          · exact hbase.readable organization hmem
          · exact hnew
        rw [hboth.routed_eq assets hcategory hlocation, hlist, List.filterMap_append,
          Option.some.injEq]
        simp only [List.filterMap_cons_some hst, List.filterMap_nil]
        rw [outcomeOf_concat_iff (standing_ineligible hst hunmatched), any_restricted_iff,
          standing_restricted hst]
        simp [LeavesRouting, hcategory, hlocation, hbase, hnew]
      · have hfails : ¬Comparable locale (organizations ++ [newcomer]) dto.category := by
          intro h
          refine hnew (h.readable newcomer ?_)
          rw [hlist]
          exact List.mem_append_right _ (List.mem_singleton_self _)
        rw [routed_eq_none hfails assets hcategory hlocation]
        simp [LeavesRouting, hcategory, hlocation, hbase, hnew]
    · have hboth : ¬Comparable locale (organizations ++ [newcomer]) dto.category := by
        intro h
        refine hbase ⟨h.listed, fun organization hmem => h.readable organization ?_⟩
        rw [hlist]
        exact List.mem_append_left _ hmem
      rw [routed_eq_none hbase assets hcategory hlocation,
        routed_eq_none hboth assets hcategory hlocation]
      simp [LeavesRouting, hbase]
  · simp [LeavesRouting, routed, resolveReportResponsibility, hcategory, hlocation]

/-- An organization of another place that excludes nothing changes nothing. -/
theorem other_place_neutral :
    routed Example.localeOrder
    ([Example.garkiOrganization] ++ [{ Example.ikejaOrganization with profileData := none }]) {}
        Example.brokenLight =
      routed Example.localeOrder [Example.garkiOrganization] {} Example.brokenLight := by
  refine (unmatched_organization_neutral_iff rfl (by decide +kernel)).mpr
    (.inr (.inr (.inr ⟨by decide +kernel, ?_⟩)))
  intro hreads
  exact absurd hreads (by unfold ReadsExcluded; decide +kernel)

/-- One that excludes the category takes the report from the organization of the place. -/
theorem other_place_restricts :
    ¬ ∀ (locale : LocaleOrder) (organizations : List ResponsibilityOrganizationProfile)
    (assets : AssetTables)
      (dto : RoutedReport) (newcomer : ResponsibilityOrganizationProfile),
        newcomer.status = .active →
      (evaluateRoutingJurisdiction locale newcomer.locality dto.locationInput).matched = false →
      routed locale (organizations ++ [newcomer]) assets dto =
        routed locale organizations assets dto := by
  intro h
  have hsame := h Example.localeOrder [Example.garkiOrganization]
    {} Example.brokenLight Example.ikejaOrganization rfl
    (by decide +kernel)
  exact absurd hsame (by decide +kernel)

/-! ### What the outcome is to be -/

/-- The organization lists an excluded category that is compatible with the given one. -/
def Excludes (locale : LocaleOrder) (category : String)
    (organization : ResponsibilityOrganizationProfile) : Prop :=
  ∃ excluded, excludedCategoriesOf locale organization = some excluded ∧ ∃ item ∈ excluded,
    categoriesCompatible (normalizeResponsibilityCategory item)
      (normalizeResponsibilityCategory category) = some true

/-- The candidate of the organization is eligible. -/
def isEligible (locale : LocaleOrder) (dto : RoutedReport)
    (organization : ResponsibilityOrganizationProfile) : Bool :=
  (serializeOrganizationCandidate locale organization dto.category dto).any (·.eligible)

/-- The eligible organizations with an asset of the report, or else all eligible organizations. -/
def decisiveOrganizations (locale : LocaleOrder)
    (organizations : List ResponsibilityOrganizationProfile)
    (assets : AssetTables) (dto : RoutedReport) : List ResponsibilityOrganizationProfile :=
  let eligible := (activeOrganizations organizations).filter (isEligible locale dto)
  let assetBacked := eligible.filter fun organization =>
    (assetResponsibilityOrganizationIds assets dto).contains organization.id
  if assetBacked.isEmpty then eligible else assetBacked

/-- The decisive organizations decide the outcome: one is routed to, several are ambiguous, none
is no match. -/
structure DecidedBy (decisive : List ResponsibilityOrganizationProfile)
    (outcome : ResponsibilityOutcome) (routedTo : Option String) : Prop where
  highConfidence : outcome = .highConfidence ↔ ∃ organization, decisive = [organization]
  routedTo : ∀ organization, decisive = [organization] → routedTo = some organization.id
  ambiguous : outcome = .ambiguous ↔ 2 ≤ decisive.length
  unmatched : outcome = .unmatched ↔ decisive = []

/-- The outcome is a restriction when an active organization excludes the category, and decided by
the decisive organizations otherwise. -/
def Characterized (locale : LocaleOrder) (organizations : List ResponsibilityOrganizationProfile)
    (assets : AssetTables) (dto : RoutedReport) : Prop :=
  ∃ outcome routedTo, routed locale organizations assets dto = some (outcome, routedTo) ∧
    (outcome = .restrictedOrConflicted ↔
      ∃ organization ∈ activeOrganizations organizations,
        Excludes locale dto.category organization) ∧
    ((¬∃ organization ∈ activeOrganizations organizations,
      Excludes locale dto.category organization) →
      DecidedBy (decisiveOrganizations locale organizations assets dto) outcome routedTo)

/-- Two of the facts, as they are read off the organization. -/
theorem candidateFacts_reads {organization : ResponsibilityOrganizationProfile} {category : String}
    {facts : CandidateFacts} (h : candidateFacts locale organization category = some facts) :
    (∃ excluded, excludedCategoriesOf locale organization = some excluded ∧
      someCompatible excluded (normalizeResponsibilityCategory category) =
        some facts.explicitlyExcludedCategory) ∧
      maintenanceModuleEnabled organization.enabledModules = some facts.serviceModuleReady := by
  unfold candidateFacts at h
  obtain ⟨mandates, -, h⟩ := Option.bind_eq_some_iff.mp h
  obtain ⟨excluded, hexcluded, h⟩ := Option.bind_eq_some_iff.mp h
  obtain ⟨required, -, h⟩ := Option.bind_eq_some_iff.mp h
  obtain ⟨capabilities, -, h⟩ := Option.bind_eq_some_iff.mp h
  obtain ⟨categories, -, h⟩ := Option.bind_eq_some_iff.mp h
  obtain ⟨coverage, -, h⟩ := Option.bind_eq_some_iff.mp h
  obtain ⟨ready, hready, h⟩ := Option.bind_eq_some_iff.mp h
  dsimp only at h
  split at h <;>
  · obtain ⟨inherited, -, h⟩ := Option.bind_eq_some_iff.mp h
    obtain ⟨mandated, -, h⟩ := Option.bind_eq_some_iff.mp h
    obtain ⟨answer, hanswer, h⟩ := Option.bind_eq_some_iff.mp h
    obtain ⟨diagnostics, -, h⟩ := Option.bind_eq_some_iff.mp h
    obtain rfl := Option.some.inj h
    exact ⟨⟨excluded, hexcluded, hanswer⟩, hready⟩

/-- What a candidate counts as an exclusion is one. -/
theorem explicitlyExcluded_iff {organization : ResponsibilityOrganizationProfile}
    {category : String}
    {facts : CandidateFacts} (h : candidateFacts locale organization category = some facts) :
    facts.explicitlyExcludedCategory ↔ Excludes locale category organization := by
  obtain ⟨excluded, hexcluded, hanswer⟩ := (candidateFacts_reads h).1
  rw [someCompatible] at hanswer
  rw [anyM_eq_some hanswer]
  simp [Excludes, hexcluded]

theorem standing_id {dto : RoutedReport} {organization : ResponsibilityOrganizationProfile}
    {st : Standing} (h : standing locale dto organization = some st) : st.id = organization.id := by
  rw [standing_eq] at h
  obtain ⟨facts, -, rfl⟩ := Option.map_eq_some_iff.mp h
  rfl

theorem map_decisiveOrganizations (locale : LocaleOrder)
    (organizations : List ResponsibilityOrganizationProfile)
    (assets : AssetTables) (dto : RoutedReport) :
    (decisiveOrganizations locale organizations assets dto).map (·.id) =
      decisiveIds (assetResponsibilityOrganizationIds assets dto)
        ((activeOrganizations organizations).filterMap (standing locale dto)) := by
  have heligible : (((activeOrganizations organizations).filterMap (standing locale dto)).filter
      (·.eligible)).map (·.id) =
      ((activeOrganizations organizations).filter (isEligible locale dto)).map (·.id) := by
    rw [map_filter_filterMap
      (h := fun organization : ResponsibilityOrganizationProfile => organization.id)
      fun organization st hst => standing_id hst]
    congr 2
    funext organization
    simp [standing, isEligible, Option.any_map, Standing.of]
  simp only [decisiveOrganizations, decisiveIds, heligible, List.filter_map, Function.comp_def,
    ne_eq, List.map_eq_nil_iff, List.isEmpty_iff]
  split_ifs <;> rfl

/-- Where nothing is restricted, the decisive organizations decide. -/
theorem decidedBy_outcomeOf {ids : List String} {standings : List Standing}
    {decisive : List ResponsibilityOrganizationProfile}
    (hdecisive : decisive.map (·.id) = decisiveIds ids standings)
    (hunrestricted : standings.any (·.restricted) = false) :
    DecidedBy decisive (outcomeOf ids standings).1 (outcomeOf ids standings).2 := by
  unfold outcomeOf
  rw [if_neg (by simp [hunrestricted]), ← hdecisive]
  rcases decisive with _ | ⟨organization, _ | ⟨next, rest⟩⟩ <;> constructor <;> simp

/-- When the outcome is what the organizations decide: nothing throws, and a category that reads
like an exclusion is excluded by somebody or covered by all who cover anything. -/
structure ReadsPlainly (locale : LocaleOrder)
    (organizations : List ResponsibilityOrganizationProfile) (category : String) : Prop where
  comparable : Comparable locale organizations category
  plain : includes (toLowerCase category) exclusionText →
    (∃ organization ∈ activeOrganizations organizations, Excludes locale category organization) ∨
      ∀ organization ∈ activeOrganizations organizations, ∀ facts,
        candidateFacts locale organization category = some facts → facts.categoriesConfigured →
          facts.categoryMatched

/-- What the resolver takes for an exclusion: one, or a category that reads like one and is not
covered. -/
theorem readsExcluded_iff {organization : ResponsibilityOrganizationProfile} {category : String}
    {facts : CandidateFacts} (h : candidateFacts locale organization category = some facts) :
    ReadsExcluded locale category organization ↔ Excludes locale category organization ∨
      facts.categoriesConfigured ∧ facts.categoryMatched = false ∧
        includes (toLowerCase category) exclusionText := by
  rw [← explicitlyExcluded_iff h, ReadsExcluded, h, Option.any_some]
  simp [readsExcluded, and_assoc]

/-- The outcome is what the organizations decide exactly when the category reads plainly. -/
theorem characterized_iff {organizations : List ResponsibilityOrganizationProfile}
    {assets : AssetTables} {dto : RoutedReport} (hcategory : trim dto.category ≠ "")
    (hlocation : hasResponsibilityLocation dto) :
    Characterized locale organizations assets dto ↔
      ReadsPlainly locale organizations dto.category := by
  constructor
  · rintro ⟨outcome, routedTo, hrouted, hrestricted, -⟩
    have hcomparable : Comparable locale organizations dto.category := by
      by_contra hno
      rw [routed_eq_none hno assets hcategory hlocation] at hrouted
      cases hrouted
    rw [hcomparable.routed_eq assets hcategory hlocation, Option.some.injEq,
      Prod.ext_iff] at hrouted
    obtain ⟨rfl, -⟩ := hrouted
    rw [outcomeOf_restricted_iff, any_restricted_iff] at hrestricted
    refine ⟨hcomparable, fun htext =>
      or_iff_not_imp_left.mpr fun hnone organization hmem facts hfacts hconfigured => ?_⟩
    by_contra huncovered
    refine hnone (hrestricted.mp
      ⟨organization, hmem, (readsExcluded_iff hfacts).mpr (.inr ⟨hconfigured, ?_, htext⟩)⟩)
    simpa using huncovered
  · rintro ⟨hcomparable, hplain⟩
    have hreads : (∃ organization ∈ activeOrganizations organizations,
        ReadsExcluded locale dto.category organization) ↔
        ∃ organization ∈ activeOrganizations organizations,
          Excludes locale dto.category organization := by
      constructor
      · rintro ⟨organization, hmem, hreads⟩
        obtain ⟨facts, hfacts⟩ :=
          Option.isSome_iff_exists.mp (hcomparable.readable organization hmem)
        rcases (readsExcluded_iff hfacts).mp hreads with hexcludes | ⟨hconfigured,
          huncovered, htext⟩
        · exact ⟨organization, hmem, hexcludes⟩
        · refine (hplain htext).resolve_right fun hcovered => ?_
          simp [hcovered organization hmem facts hfacts hconfigured] at huncovered
      · rintro ⟨organization, hmem, hexcludes⟩
        obtain ⟨facts, hfacts⟩ :=
          Option.isSome_iff_exists.mp (hcomparable.readable organization hmem)
        exact ⟨organization, hmem, (readsExcluded_iff hfacts).mpr (.inl hexcludes)⟩
    refine ⟨(outcomeOf _ _).1, (outcomeOf _ _).2, hcomparable.routed_eq assets hcategory hlocation,
      ?_, fun hnone => ?_⟩
    · rw [outcomeOf_restricted_iff, any_restricted_iff, hreads]
    · refine decidedBy_outcomeOf (map_decisiveOrganizations locale organizations assets dto) ?_
      rw [← Bool.not_eq_true, any_restricted_iff, hreads]
      exact hnone

/-! ### Order -/

/-- The organization with its zones in another order. -/
def ReorderedZones (organization other : ResponsibilityOrganizationProfile) : Prop :=
  ∃ zones, zones.Perm organization.jurisdictionZones ∧
    other = { organization with jurisdictionZones := zones }

/-- The organizations in another order, each with its zones in another order. -/
def Reordered (organizations others : List ResponsibilityOrganizationProfile) : Prop :=
  ∃ permuted, organizations.Perm permuted ∧ List.Forall₂ ReorderedZones permuted others

theorem decisiveIds_perm (ids : List String) {standings standings' : List Standing}
    (h : standings.Perm standings') : (decisiveIds ids standings).Perm
    (decisiveIds ids standings') := by
  have heligible := (h.filter (·.eligible)).map (·.id)
  have hbacked := heligible.filter fun id => ids.contains id
  have hnil : ((standings.filter (·.eligible)).map (·.id)).filter (fun id => ids.contains id) ≠ [] ↔
      ((standings'.filter (·.eligible)).map (·.id)).filter (fun id => ids.contains id) ≠ [] := by
    rw [not_iff_not, List.eq_nil_iff_length_eq_zero, List.eq_nil_iff_length_eq_zero,
      hbacked.length_eq]
  simp only [decisiveIds, hnil]
  split
  · exact hbacked
  · exact heligible

/-- The outcome does not depend on the order of the standings. -/
theorem outcomeOf_perm {ids : List String} {standings standings' : List Standing}
    (h : standings.Perm standings') :
    outcomeOf ids standings = outcomeOf ids standings' := by
  have hany : standings.any (·.restricted) = standings'.any (·.restricted) := by
    rw [Bool.eq_iff_iff]
    simp only [List.any_eq_true, h.mem_iff]
  have hdecisive := decisiveIds_perm ids h
  unfold outcomeOf
  rw [hany]
  split
  · rfl
  · rcases hids : decisiveIds ids standings with _ | ⟨id, _ | ⟨next, rest⟩⟩ <;>
      rw [hids] at hdecisive
    · rw [hdecisive.symm.eq_nil]
    · rw [List.singleton_perm.mp hdecisive]
    · have hlength := hdecisive.length_eq
      rcases hids' : decisiveIds ids standings' with _ | ⟨id', _ | ⟨next', rest'⟩⟩
      · simp [hids'] at hlength
      · simp [hids'] at hlength
      · rfl

theorem isSome_firstMatchedZone_perm {zones zones' : List RoutingJurisdictionZone}
    (h : zones.Perm zones') (locationText : String) :
    (firstMatchedZone zones locationText).isSome =
      (firstMatchedZone zones' locationText).isSome := by
  rw [Bool.eq_iff_iff]
  simp only [firstMatchedZone, List.findSome?_isSome_iff, h.mem_iff]

/-- Whether a jurisdiction is configured and matches does not depend on the order of its zones. -/
theorem evaluateRoutingJurisdiction_reordered (locale : LocaleOrder)
    (organization : RoutingOrganizationLocality)
    {zones : List RoutingJurisdictionZone} (hzones : zones.Perm organization.jurisdictionZones)
    (report : RoutingLocationInput) :
    (evaluateRoutingJurisdiction locale
    { organization with jurisdictionZones := zones } report).configured =
        (evaluateRoutingJurisdiction locale organization report).configured ∧
      (evaluateRoutingJurisdiction locale
      { organization with jurisdictionZones := zones } report).matched =
        (evaluateRoutingJurisdiction locale organization report).matched ∧
      (evaluateRoutingJurisdiction locale { organization with jurisdictionZones := zones }
          report).comparableLocationAvailable =
        (evaluateRoutingJurisdiction locale organization report).comparableLocationAvailable := by
  have hactive : (activeRoutingJurisdictionZones zones).Perm
      (activeRoutingJurisdictionZones organization.jurisdictionZones) := hzones.filter _
  have hempty : (activeRoutingJurisdictionZones zones).isEmpty =
      (activeRoutingJurisdictionZones organization.jurisdictionZones).isEmpty := by
    rw [Bool.eq_iff_iff, List.isEmpty_iff_length_eq_zero, List.isEmpty_iff_length_eq_zero,
      hactive.length_eq]
  have hlegacy : legacyFallbackZone { organization with jurisdictionZones := zones } =
      legacyFallbackZone organization := rfl
  refine ⟨?_, ?_, ?_⟩
  · rw [evaluateRoutingJurisdiction_configured, evaluateRoutingJurisdiction_configured,
      hlegacy, hempty]
  · rw [evaluateRoutingJurisdiction_matched, evaluateRoutingJurisdiction_matched, hlegacy, hempty,
      isSome_firstMatchedZone_perm hactive]
  · rw [evaluateRoutingJurisdiction_comparable, evaluateRoutingJurisdiction_comparable]

theorem standing_reordered {organization other : ResponsibilityOrganizationProfile}
    (h : ReorderedZones organization other) (dto : RoutedReport) :
    standing locale dto other = standing locale dto organization := by
  obtain ⟨zones, hzones, rfl⟩ := h
  obtain ⟨hconfigured, hmatched, hcomparable⟩ := evaluateRoutingJurisdiction_reordered locale
    organization.locality hzones dto.locationInput
  have hfacts :
      candidateFacts locale { organization with jurisdictionZones := zones } dto.category =
      candidateFacts locale organization dto.category := rfl
  have hlocality : ResponsibilityOrganizationProfile.locality
      { organization with jurisdictionZones := zones } =
      { organization.locality with jurisdictionZones := zones } := rfl
  rw [standing_eq, standing_eq, hfacts, hlocality]
  refine congrArg (Option.map · _) (funext fun facts => ?_)
  simp only [candidateReasons, hconfigured, hmatched, hcomparable]

theorem mapM_standing_reordered {organizations others : List ResponsibilityOrganizationProfile}
    (h : List.Forall₂ ReorderedZones organizations others) (dto : RoutedReport) :
    (activeOrganizations others).mapM (standing locale dto) =
      (activeOrganizations organizations).mapM (standing locale dto) := by
  induction h with
  | nil => rfl
  | @cons organization other organizations others hzones _ ih =>
    have hstanding : standing locale dto other = standing locale dto organization :=
      standing_reordered hzones dto
    have hstatus : other.status = organization.status := by
      obtain ⟨zones, -, rfl⟩ := hzones
      rfl
    unfold activeOrganizations at ih ⊢
    rw [List.filter_cons, List.filter_cons, hstatus]
    by_cases hactive : organization.status = .active
    · simp only [hactive, decide_true, if_true, List.mapM_cons, hstanding, ih]
    · simp only [hactive, decide_false, Bool.false_eq_true, if_false, ih]

/-- The order of the organizations and of their zones has no part in the routing. -/
theorem routed_reordered {organizations others : List ResponsibilityOrganizationProfile}
    (h : Reordered organizations others) (assets : AssetTables) {dto : RoutedReport}
    (hcategory : trim dto.category ≠ "") (hlocation : hasResponsibilityLocation dto) :
    routed locale others assets dto = routed locale organizations assets dto := by
  obtain ⟨permuted, hpermuted, hzones⟩ := h
  rw [routed_eq locale others assets hcategory hlocation,
    routed_eq locale organizations assets hcategory hlocation,
    mapM_standing_reordered hzones]
  split
  · rfl
  · exact map_mapM_of_perm (fun _ _ hperm => outcomeOf_perm hperm) (hpermuted.filter _).symm

/-- **Routing is order independent and characterised.** For a report with a category and a
location the outcome and the routed organization do not depend on the order of the organizations
and their zones, and are what the organizations decide, exactly when the category reads plainly. -/
theorem routing_characterized_iff {organizations : List ResponsibilityOrganizationProfile}
    {assets : AssetTables} {dto : RoutedReport} (hcategory : trim dto.category ≠ "")
    (hlocation : hasResponsibilityLocation dto) :
    ((∀ others, Reordered organizations others →
        routed locale others assets dto = routed locale organizations assets dto) ∧
      Characterized locale organizations assets dto) ↔
        ReadsPlainly locale organizations dto.category := by
  rw [characterized_iff hcategory hlocation]
  exact and_iff_right fun others h => routed_reordered h assets hcategory hlocation

/-- A broken light is routed as its organizations decide. -/
theorem broken_light_characterized :
    Characterized Example.localeOrder [Example.garkiOrganization, Example.ikejaOrganization]
    {} Example.brokenLight := by
  refine ((routing_characterized_iff (by decide +kernel) (by decide +kernel)).mpr
    ⟨⟨by decide +kernel, by decide +kernel⟩, fun htext => ?_⟩).2
  exact absurd htext (by decide +kernel)

/-- A category that reads like an exclusion is restricted though nobody excludes it. -/
theorem odd_category_restricted :
    ¬ ∀ (locale : LocaleOrder) (organizations : List ResponsibilityOrganizationProfile)
    (assets : AssetTables)
      (dto : RoutedReport), trim dto.category ≠ "" → hasResponsibilityLocation dto →
      (∀ others, Reordered organizations others →
        routed locale others assets dto = routed locale organizations assets dto) ∧
        Characterized locale organizations assets dto := by
  intro h
  obtain ⟨outcome, routedTo, hrouted, hrestricted, -⟩ :=
    (h Example.localeOrder [Example.garkiOrganization] {}
    Example.oddReport (by decide +kernel) (by decide +kernel)).2
  have hodd : routed Example.localeOrder [Example.garkiOrganization] {} Example.oddReport =
      some (.restrictedOrConflicted, none) := by
    decide +kernel
  rw [hodd, Option.some.injEq, Prod.mk.injEq] at hrouted
  obtain ⟨organization, hmem, excluded, hexcluded, item, hitem, -⟩ := hrestricted.mp hrouted.1.symm
  obtain rfl : organization = Example.garkiOrganization := List.mem_singleton.mp hmem
  have hnothing : excludedCategoriesOf Example.localeOrder Example.garkiOrganization = some [] := by
    decide +kernel
  rw [hnothing, Option.some.injEq] at hexcluded
  rw [← hexcluded] at hitem
  cases hitem

end FixZone.ReportService
