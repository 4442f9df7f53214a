import FixZone.Library.Partial
import FixZone.Report.Routing

/-!
# Which capabilities are covered

The capabilities of a provider are stored as a list in the profile, and two services read it.
`moduleProviderCapabilityCoverage` counts every assignment that is not `INACTIVE`, of every
provider; `activeProviderCapabilityIds` of the routing takes those without a status and those
whose status is `ACTIVE`, with blanks around the id stripped, of the active providers. So what
is counted is what is routed to where each counted assignment is backed by one of these
(`coverage_agrees_iff`).
-/

namespace FixZone.PlatformConfigurationService

open Library
open ReportService (ResponsibilityProviderProfile providerCapabilitiesKey isActiveProvider
  activeProviderCapabilityIds capabilityStatusActive)

/-! ### Reading the assignments -/

/-- An assignment, as `readProviderCapabilityAssignments` reads it. -/
structure CapabilityAssignment where
  id : String
  status : String
  assignedAt : Option String
  deactivatedAt : Option String
  approvalWorkflow : String

/-- `value?.toString()`: `none` is a `TypeError`, and `some none` is `undefined`. -/
def optionalText (value : Option Json) : Option (Option String) :=
  match value with
  | none | some .null => some none
  | some value => value.toText.map some

/-- One assignment. -/
def readAssignment (item : Json) : Option CapabilityAssignment := do
  let id ← optionalText (item.field? "id")
  let status ← optionalText (item.field? "status")
  let assignedAt ← optionalText (item.field? "assignedAt")
  let deactivatedAt ← optionalText (item.field? "deactivatedAt")
  let approvalWorkflow ← optionalText (item.field? "approvalWorkflow")
  return {
    id := id.getD ""
    status := if truthy status then status.getD "" else "ACTIVE"
    assignedAt
    deactivatedAt
    approvalWorkflow := approvalWorkflow.getD "placeholder" }

/-- The objects of the stored list. -/
def storedAssignments (profileData : Option Json) : List Json :=
  match profileData.bind (Json.field? providerCapabilitiesKey) with
  | some (.arr items) => items.filter Json.isObject
  | _ => []

/-- `readProviderCapabilityAssignments`. -/
def readProviderCapabilityAssignments (profileData : Option Json) :
    Option (List CapabilityAssignment) := do
  let assignments ← (storedAssignments profileData).mapM readAssignment
  return assignments.filter fun item => item.id ≠ ""

/-! ### Coverage -/

/-- A capability of the catalogue. -/
structure ProviderCapability where
  key : String
  moduleKeys : List String

/-- The ids that the loop over the providers counts for one of them. -/
def countedIds (provider : ResponsibilityProviderProfile) : Option (List String) := do
  let assignments ← readProviderCapabilityAssignments provider.profileData
  return (assignments.filter fun item => item.status ≠ "INACTIVE").map (·.id)

/-- `assignedByCapability.set(id, (assignedByCapability.get(id) ?? 0) + 1)`. -/
def countCapability (counts : List (String × ℕ)) (id : String) : List (String × ℕ) :=
  if counts.any (·.1 = id) then
    counts.map fun count => if count.1 = id then (id, count.2 + 1) else count
  else counts ++ [(id, 1)]

/-- What `moduleProviderCapabilityCoverage` returns. -/
structure CapabilityCoverage where
  moduleKey : String
  providerCount : ℕ
  catalogCount : ℕ
  requiredCapabilities : List String
  availableDefinitions : List String
  missingDefinitions : List String
  assignedByCapability : List (String × ℕ)
  missingAssignments : List String
  coveragePercent : ℕ

/-- `moduleProviderCapabilityCoverage`, for the providers that the database finds. -/
def moduleProviderCapabilityCoverage (catalog : List ProviderCapability) (moduleKey : String)
    (requiredCapabilities : List String) (providers : List ResponsibilityProviderProfile) :
    Option CapabilityCoverage := do
  let counted ← providers.mapM countedIds
  let assignedByCapability := counted.flatten.foldl countCapability []
  let defined := fun capability => catalog.any (·.key = capability)
  let missingAssignments := requiredCapabilities.filter fun capability =>
    !assignedByCapability.any (·.1 = capability)
  let required := requiredCapabilities.length
  return {
    moduleKey
    providerCount := providers.length
    catalogCount :=
      (catalog.filter fun capability => capability.moduleKeys.contains moduleKey).length
    requiredCapabilities
    availableDefinitions := requiredCapabilities.filter defined
    missingDefinitions := requiredCapabilities.filter fun capability => !defined capability
    assignedByCapability
    missingAssignments
    -- Rounded to the nearest percent, halves up.
    coveragePercent := if required = 0 then 100
      else (200 * (required - missingAssignments.length) + required) / (2 * required) }

/-! ### What is counted and what is used -/

variable (provider : ResponsibilityProviderProfile)

/-- The capability is counted for the provider. -/
def CountedFor (capability : String) : Prop := ∃ ids ∈ countedIds provider, capability ∈ ids

/-- Routing would use the capability of the provider. -/
def UsedFor (capability : String) : Prop :=
  isActiveProvider provider ∧ ∃ ids ∈ activeProviderCapabilityIds provider, capability ∈ ids

/-- The text of the id of an assignment, unless it cannot be converted. -/
def idText (item : Json) : Option String := (optionalText (item.field? "id")).map (·.getD "")

/-- Every field that `readProviderCapabilityAssignments` reads can be converted. -/
def Convertible (item : Json) : Prop :=
  ∀ name ∈ ["id", "status", "assignedAt", "deactivatedAt", "approvalWorkflow"],
    (optionalText (item.field? name)).isSome

/-- An assignment under an id that is not inactive. -/
structure NotInactive (item : Json) (id : String) : Prop where
  id_eq : idText item = some id
  id_ne : id ≠ ""
  status : optionalText (item.field? "status") ≠ some (some "INACTIVE")

/-- An assignment that routing takes under an id. -/
structure Routed (item : Json) (id : String) : Prop where
  status : capabilityStatusActive (item.field? "status")
  id_eq : (idText item).map trim = some id
  id_ne : id ≠ ""

/-- Each assignment that is counted is backed by one that routing takes, of an active provider;
where the assignments cannot all be converted, routing takes none. -/
structure Backed : Prop where
  backed : (∀ item ∈ storedAssignments provider.profileData, Convertible item) →
    ∀ item ∈ storedAssignments provider.profileData, ∀ id, NotInactive item id →
      isActiveProvider provider ∧
        ∃ other ∈ storedAssignments provider.profileData, Routed other id
  unreadable : ¬(∀ item ∈ storedAssignments provider.profileData, Convertible item) →
    isActiveProvider provider →
    (∀ item ∈ storedAssignments provider.profileData,
      capabilityStatusActive (item.field? "status") → (idText item).isSome) →
    ∀ item ∈ storedAssignments provider.profileData, ∀ id, ¬Routed item id

variable {provider}

/-! ### The two readings -/

theorem readAssignment_isSome_iff {item : Json} :
    (readAssignment item).isSome ↔ Convertible item := by
  simp only [Convertible, List.forall_mem_cons, List.not_mem_nil, false_imp_iff, implies_true,
    and_true, readAssignment]
  cases optionalText (item.field? "id") with
  | none => simp
  | some id =>
    cases optionalText (item.field? "status") with
    | none => simp
    | some status =>
      cases optionalText (item.field? "assignedAt") with
      | none => simp
      | some assignedAt =>
        cases optionalText (item.field? "deactivatedAt") with
        | none => simp
        | some deactivatedAt =>
          cases optionalText (item.field? "approvalWorkflow") <;> simp

/-- What an assignment is read as. -/
theorem readAssignment_eq_some {item : Json} {assignment : CapabilityAssignment}
    (h : readAssignment item = some assignment) :
    idText item = some assignment.id ∧
      (assignment.status = "INACTIVE" ↔
        optionalText (item.field? "status") = some (some "INACTIVE")) := by
  simp only [readAssignment, Option.bind_eq_bind, Option.bind_eq_some_iff, Option.pure_def,
    Option.some.injEq] at h
  obtain ⟨id, hid, status, hstatus, _, _, _, _, _, _, rfl⟩ := h
  refine ⟨by simp [idText, hid], ?_⟩
  rw [hstatus]
  cases status with
  | none => simp [truthy]
  | some text =>
    by_cases htext : text = ""
    · simp [truthy, htext]
    · simp [truthy, htext]

/-- A capability is counted where all assignments can be converted and one under its id is not
inactive. -/
theorem countedFor_iff {capability : String} : CountedFor provider capability ↔
    (∀ item ∈ storedAssignments provider.profileData, Convertible item) ∧
      ∃ item ∈ storedAssignments provider.profileData, NotInactive item capability := by
  simp only [← readAssignment_isSome_iff, ← isSome_mapM_iff]
  unfold CountedFor countedIds readProviderCapabilityAssignments
  cases hread : (storedAssignments provider.profileData).mapM readAssignment with
  | none => simp
  | some assignments =>
    have hsome : (∃ assignment ∈ assignments, (assignment.status ≠ "INACTIVE" ∧
        assignment.id ≠ "") ∧ assignment.id = capability) ↔
        ∃ item ∈ storedAssignments provider.profileData, NotInactive item capability := by
      rw [exists_mem_mapM_iff hread]
      refine exists_congr fun item => and_congr_right fun hitem => ?_
      constructor
      · rintro ⟨assignment, hassignment, ⟨hactive, hne⟩, rfl⟩
        obtain ⟨hid, hinactive⟩ := readAssignment_eq_some hassignment
        exact ⟨hid, hne, fun h => hactive (hinactive.mpr h)⟩
      · rintro ⟨hid, hne, hactive⟩
        obtain ⟨assignment, hassignment⟩ := Option.isSome_iff_exists.mp
          ((mapM_eq_some_iff.mp hread).1 item hitem)
        obtain ⟨hid', hinactive⟩ := readAssignment_eq_some hassignment
        obtain rfl := Option.some.inj (hid.symm.trans hid')
        exact ⟨assignment, hassignment, ⟨fun h => hactive (hinactive.mp h), hne⟩, rfl⟩
    simpa [and_assoc] using hsome

/-- Routing reads the objects of the stored list whose status it takes as active. -/
theorem activeProviderCapabilityIds_eq : activeProviderCapabilityIds provider =
    (((storedAssignments provider.profileData).filter fun item =>
      capabilityStatusActive (item.field? "status")).mapM idText).map
        fun ids => (ids.map trim).filter (· ≠ "") := by
  unfold activeProviderCapabilityIds storedAssignments
  cases provider.profileData.bind (Json.field? providerCapabilitiesKey) with
  | none => rfl
  | some value =>
    cases value with
    | arr items =>
      have hread : ∀ f : Json → Option String, (∀ item, f item = idText item) →
          ((items.filter fun item =>
            item.isObject && capabilityStatusActive (item.field? "status")).mapM f).bind
              (fun ids => some ((ids.map trim).filter (· ≠ ""))) =
          (((items.filter Json.isObject).filter fun item =>
            capabilityStatusActive (item.field? "status")).mapM idText).map
              fun ids => (ids.map trim).filter (· ≠ "") := by
        intro f hf
        obtain rfl := funext hf
        rw [List.filter_filter, Option.map_eq_bind]
        simp only [Bool.and_comm]
        rfl
      refine hread _ fun item => ?_
      unfold idText optionalText
      split <;> simp_all
    | _ => rfl

/-- A capability is used of an active provider, where the ids of the assignments that routing
takes can be converted and one of them is its own. -/
theorem usedFor_iff {capability : String} : UsedFor provider capability ↔
    isActiveProvider provider ∧
      (∀ item ∈ storedAssignments provider.profileData,
        capabilityStatusActive (item.field? "status") → (idText item).isSome) ∧
      ∃ item ∈ storedAssignments provider.profileData, Routed item capability := by
  unfold UsedFor
  refine and_congr_right fun _ => ?_
  rw [activeProviderCapabilityIds_eq]
  have hall : (∀ item ∈ storedAssignments provider.profileData,
      capabilityStatusActive (item.field? "status") → (idText item).isSome) ↔
      (((storedAssignments provider.profileData).filter fun item =>
        capabilityStatusActive (item.field? "status")).mapM idText).isSome := by
    simp [isSome_mapM_iff, List.mem_filter]
  rw [hall]
  cases hread : ((storedAssignments provider.profileData).filter fun item =>
      capabilityStatusActive (item.field? "status")).mapM idText with
  | none => simp
  | some ids =>
    have hsome : (∃ id ∈ ids, trim id = capability ∧ capability ≠ "") ↔
        ∃ item ∈ storedAssignments provider.profileData, Routed item capability := by
      rw [exists_mem_mapM_iff hread]
      constructor
      · rintro ⟨item, hitem, id, hid, htrim, hne⟩
        obtain ⟨hmem, hactive⟩ := List.mem_filter.mp hitem
        exact ⟨item, hmem, hactive, by simp [hid, htrim], hne⟩
      · rintro ⟨item, hmem, hactive, hid, hne⟩
        obtain ⟨id, hid, htrim⟩ := Option.map_eq_some_iff.mp hid
        exact ⟨item, List.mem_filter.mpr ⟨hmem, hactive⟩, id, hid, htrim, hne⟩
    rw [← hsome]
    simp only [Option.isSome_some, Option.map_some, Option.mem_some_iff, exists_eq_left',
      List.mem_filter, List.mem_map, decide_eq_true_eq, true_and]
    exact ⟨fun ⟨⟨id, hid, htrim⟩, hne⟩ => ⟨id, hid, htrim, hne⟩,
      fun ⟨id, hid, htrim, hne⟩ => ⟨⟨id, hid, htrim⟩, hne⟩⟩

/-! ### The counts -/

theorem any_countCapability (counts : List (String × ℕ)) (id capability : String) :
    (countCapability counts id).any (·.1 = capability) ↔
      counts.any (·.1 = capability) ∨ id = capability := by
  unfold countCapability
  by_cases hcounted : counts.any (·.1 = id)
  · have hkey : ∀ count : String × ℕ,
        (if count.1 = id then (id, count.2 + 1) else count).1 = count.1 := by
      intro count
      by_cases h : count.1 = id <;> simp [h]
    rw [if_pos hcounted, List.any_map]
    simp only [Function.comp_def, hkey]
    exact ⟨.inl, fun h => h.elim (fun hother => hother) fun hid => hid ▸ hcounted⟩
  · rw [if_neg hcounted]
    simp

/-- The counted capabilities are those that occur among the ids. -/
theorem any_foldl_countCapability (ids : List String) (counts : List (String × ℕ))
    (capability : String) : (ids.foldl countCapability counts).any (·.1 = capability) ↔
      counts.any (·.1 = capability) ∨ capability ∈ ids := by
  induction ids generalizing counts with
  | nil => simp
  | cons id ids ih =>
    rw [List.foldl_cons, ih, any_countCapability, List.mem_cons, or_assoc, eq_comm (a := id)]

/-- A required capability is covered where it is counted for one of the providers. -/
theorem covered_iff {catalog : List ProviderCapability} {moduleKey : String}
    {requiredCapabilities : List String} {providers : List ResponsibilityProviderProfile}
    {coverage : CapabilityCoverage}
    (hcoverage : moduleProviderCapabilityCoverage catalog moduleKey requiredCapabilities providers =
      some coverage) {capability : String} (hrequired : capability ∈ requiredCapabilities) :
    capability ∉ coverage.missingAssignments ↔
      ∃ provider ∈ providers, CountedFor provider capability := by
  unfold moduleProviderCapabilityCoverage at hcoverage
  obtain ⟨counted, hread, heq⟩ := Option.bind_eq_some_iff.mp hcoverage
  obtain rfl := Option.some.inj heq
  have hkey := any_foldl_countCapability counted.flatten [] capability
  have hcounted := exists_mem_mapM_iff hread (P := (capability ∈ ·))
  simp only [List.mem_filter, hrequired, true_and, Bool.not_eq_true', Bool.not_eq_false, hkey,
    List.any_nil, Bool.false_eq_true, false_or, List.mem_flatten, hcounted]
  rfl

/-! ### Agreement -/

/-- An assignment that routing takes is not inactive. -/
theorem Routed.notInactive {item : Json} {id : String} (h : Routed item id) :
    ∃ raw, trim raw = id ∧ NotInactive item raw := by
  obtain ⟨raw, hraw, htrim⟩ := Option.map_eq_some_iff.mp h.id_eq
  refine ⟨raw, htrim, hraw, fun hempty => h.id_ne ?_, fun hstatus => ?_⟩
  · rw [← htrim, hempty]
    rfl
  · have hactive := h.status
    unfold optionalText at hstatus
    cases hfield : item.field? "status" with
    | none => simp [hfield] at hstatus
    | some value => cases value <;> simp_all [capabilityStatusActive, Json.toText]

/-- Where every assignment can be converted, only counted ones are to be backed: those that
routing takes are counted under the id that they are backed by. -/
theorem Backed.counted (h : Backed provider)
    (hall : ∀ item ∈ storedAssignments provider.profileData, Convertible item) {capability : String}
    (hused : ∃ item ∈ storedAssignments provider.profileData, Routed item capability) :
    ∃ item ∈ storedAssignments provider.profileData, NotInactive item capability := by
  obtain ⟨item, hitem, hrouted⟩ := hused
  obtain ⟨raw, htrim, hraw⟩ := hrouted.notInactive
  obtain ⟨-, other, -, hother⟩ := h.backed hall item hitem raw hraw
  obtain ⟨text, -, htext⟩ := Option.map_eq_some_iff.mp hother.id_eq
  -- The id that it is counted under is trimmed, so it is the one that routing takes.
  have hsame : raw = capability := by rw [← htrim, ← htext, trim_trim]
  exact ⟨item, hitem, hsame ▸ hraw⟩

theorem Backed.countedFor_iff_usedFor (h : Backed provider) (capability : String) :
    CountedFor provider capability ↔ UsedFor provider capability := by
  rw [countedFor_iff, usedFor_iff]
  constructor
  · rintro ⟨hall, item, hitem, hcounted⟩
    obtain ⟨hactive, hrouted⟩ := h.backed hall item hitem capability hcounted
    refine ⟨hactive, fun item hitem _ => ?_, hrouted⟩
    have hid := hall item hitem "id" (by simp)
    simpa [idText] using hid
  · rintro ⟨hactive, hids, item, hitem, hrouted⟩
    have hall : ∀ item ∈ storedAssignments provider.profileData, Convertible item := by
      by_contra hall
      exact h.unreadable hall hactive hids item hitem capability hrouted
    exact ⟨hall, h.counted hall ⟨item, hitem, hrouted⟩⟩

/-- What is counted for a provider is what routing uses of it exactly where each counted
assignment is backed by one that routing takes. -/
theorem coverage_agrees_iff (provider : ResponsibilityProviderProfile) :
    (∀ capability, CountedFor provider capability ↔ UsedFor provider capability) ↔
      Backed provider := by
  refine ⟨fun h => ?_, Backed.countedFor_iff_usedFor⟩
  simp only [countedFor_iff, usedFor_iff] at h
  refine ⟨fun hall item hitem id hid => ?_, fun hall hactive hids item hitem id hid => ?_⟩
  · obtain ⟨hactive, -, hrouted⟩ := (h id).mp ⟨hall, item, hitem, hid⟩
    exact ⟨hactive, hrouted⟩
  · exact hall ((h id).mpr ⟨hactive, hids, item, hitem, hid⟩).1

/-- So where the counted assignments are backed, a required capability is covered exactly where
there is a provider that a report can be routed to for it. -/
theorem covered_iff_usedFor {catalog : List ProviderCapability} {moduleKey : String}
    {requiredCapabilities : List String} {providers : List ResponsibilityProviderProfile}
    {coverage : CapabilityCoverage}
    (hcoverage : moduleProviderCapabilityCoverage catalog moduleKey requiredCapabilities providers =
      some coverage) (hbacked : ∀ provider ∈ providers, Backed provider) {capability : String}
    (hrequired : capability ∈ requiredCapabilities) :
    capability ∉ coverage.missingAssignments ↔
      ∃ provider ∈ providers, UsedFor provider capability := by
  rw [covered_iff hcoverage hrequired]
  exact exists_congr fun provider => and_congr_right fun hprovider =>
    (hbacked provider hprovider).countedFor_iff_usedFor capability

/-! ### A provider that waits for approval of a capability -/

namespace Example

/-- A plumber whose capability was assigned with the status `PENDING`. -/
def pendingPlumber : ResponsibilityProviderProfile where
  id := "u-plumber"
  profileData := some (.obj [(providerCapabilitiesKey, .arr [.obj [("id", .str "plumbing"),
    ("status", .str "PENDING"), ("assignedAt", .str "2025-01-01T00:00:00.000Z"),
    ("deactivatedAt", .null), ("approvalWorkflow", .str "placeholder")]])])

/-- The capability counts as covered, and routing does not use it. -/
theorem pending_counted_unused :
    ¬∀ provider capability, CountedFor provider capability ↔ UsedFor provider capability := by
  intro h
  have hcounted : countedIds pendingPlumber = some ["plumbing"] := by decide +kernel
  have hunused : activeProviderCapabilityIds pendingPlumber = some [] := by decide +kernel
  obtain ⟨-, ids, hids, hmem⟩ := (h pendingPlumber "plumbing").mp
    ⟨["plumbing"], hcounted, List.mem_singleton.mpr rfl⟩
  rw [hunused] at hids
  obtain rfl := Option.some.inj hids
  exact absurd hmem List.not_mem_nil

end Example

end FixZone.PlatformConfigurationService
