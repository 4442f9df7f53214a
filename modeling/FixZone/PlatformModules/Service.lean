import FixZone.Report.Category
import Mathlib.Data.List.Dedup

/-!
# Platform modules

`PlatformModulesService`: the registry of the modules of the platform, the modules that an
organization has enabled, and whether a user may enter a module. One module is in production, that
of maintenance. No other is ever entered (`moduleKey_of_allowed`), every organization has it
enabled (`organizationModuleSummary_maintenanceActive`), and whoever is asked for nothing more
enters it (`evaluateAccess_maintenance`).

A summary of the modules is given by their keys. `none` is a `TypeError`, of an enabled module
that cannot be converted to text.
-/

namespace FixZone.PlatformModulesService

open Library
open ReportService (jsonStringList)

/-! ### The registry -/

/-- `PlatformModuleDefinition`, without what is only shown. -/
structure PlatformModuleDefinition where
  key : String
  activeProduction : Bool
  metadataOnly : Bool

/-- `PLATFORM_MODULES`. -/
def platformModules : List PlatformModuleDefinition :=
  [⟨"maintenance", true, false⟩, ⟨"healthcare", false, true⟩, ⟨"legal", false, true⟩,
    ⟨"architecture_engineering", false, true⟩, ⟨"ict", false, true⟩, ⟨"agriculture", false, true⟩,
    ⟨"education", false, true⟩, ⟨"security", false, true⟩, ⟨"property_facilities", false, true⟩,
    ⟨"cleaning_home", false, true⟩, ⟨"government", false, true⟩, ⟨"multi_service", false, true⟩]

/-- `ACTIVE_PRODUCTION_MODULE_KEY`. -/
def activeProductionModuleKey : String := "maintenance"

/-! ### Enabled modules -/

/-- `extractKeys`. An array is read as `jsonStringList` reads it. -/
def extractKeys (value : Option Json) : Option (List String) :=
  match value with
  | some (.arr items) => jsonStringList (some (.arr items))
  | some (.obj fields) =>
    match (Json.obj fields).field? "enabledModuleKeys", (Json.obj fields).field? "modules" with
    | some (.arr items), _ => jsonStringList (some (.arr items))
    | _, some (.arr items) => jsonStringList (some (.arr items))
    | _, _ => some [activeProductionModuleKey]
  | _ => some [activeProductionModuleKey]

/-- `normalizeEnabledModules`. -/
def normalizeEnabledModules (value : Option Json) : Option (List String) := do
  let rawKeys ← extractKeys value
  let normalized := rawKeys.filter fun key => (platformModules.map (·.key)).contains key
  let normalized := if normalized.contains activeProductionModuleKey then normalized else
    activeProductionModuleKey :: normalized
  return normalized.reverse.dedup.reverse

/-- `OrganizationModuleSummary`. -/
structure OrganizationModuleSummary where
  enabledModuleKeys : List String
  activeProductionModuleKeys : List String
  metadataOnlyModuleKeys : List String
  maintenanceActive : Bool

/-- `organizationModuleSummary`. -/
def organizationModuleSummary (value : Option Json) : Option OrganizationModuleSummary := do
  let enabledModuleKeys ← normalizeEnabledModules value
  let enabledModules := enabledModuleKeys.filterMap fun key =>
    platformModules.find? fun module => module.key = key
  return {
    enabledModuleKeys
    activeProductionModuleKeys := (enabledModules.filter (·.activeProduction)).map (·.key)
    metadataOnlyModuleKeys := (enabledModules.filter (!·.activeProduction)).map (·.key)
    maintenanceActive := enabledModuleKeys.contains activeProductionModuleKey }

/-- Whatever modules are enabled, the summary finds the maintenance module among them. -/
theorem organizationModuleSummary_maintenanceActive {value : Option Json}
    {summary : OrganizationModuleSummary} (h : organizationModuleSummary value = some summary) :
    summary.maintenanceActive = true := by
  obtain ⟨keys, hkeys, h⟩ := Option.bind_eq_some_iff.mp h
  obtain rfl := Option.some.inj h
  obtain ⟨raw, -, hkeys⟩ := Option.bind_eq_some_iff.mp hkeys
  obtain rfl := Option.some.inj hkeys
  rw [List.contains_iff_mem, List.mem_reverse, List.mem_dedup, List.mem_reverse]
  split_ifs with hmem
  · exact List.contains_iff_mem.mp hmem
  · exact List.mem_cons_self

theorem isSome_organizationModuleSummary_iff {value : Option Json} :
    (organizationModuleSummary value).isSome ↔ (extractKeys value).isSome := by
  unfold organizationModuleSummary normalizeEnabledModules
  cases extractKeys value <;> simp

/-! ### Access -/

/-- `ModuleAccessRequirement`: a list that is missing asks for as little as an empty one. -/
structure ModuleAccessRequirement where
  moduleKey : String
  requiredRoles : List UserRole := []
  requiredVerificationLevel : Option ℤ := none
  requiredSubscriptionPlans : List String := []
  requiresOrganization : Bool := false
  hiddenWhenDenied : Bool := false

/-- `ModuleAccessUser`, with the plan of the user's organization beside that of the user. -/
structure ModuleAccessUser where
  role : Option UserRole := none
  organizationId : Option String := none
  identityVerificationLevel : Option ℤ := none
  subscriptionPlan : Option String := none
  organizationSubscriptionPlan : Option String := none

/-- The states of `ModuleAccessResult`. -/
inductive ModuleAccessState where
  | allowed | locked | hidden
  deriving DecidableEq, Repr

/-- `ModuleAccessResult`. -/
structure ModuleAccessResult where
  moduleKey : String
  state : ModuleAccessState
  allowed : Bool
  visible : Bool
  reason : String
  requirements : ModuleAccessRequirement
  module : Option PlatformModuleDefinition := none

/-- `denied`. -/
def denied (requirement : ModuleAccessRequirement) (state : ModuleAccessState) (reason : String)
    (module : Option PlatformModuleDefinition) : ModuleAccessResult where
  moduleKey := requirement.moduleKey
  state := state
  allowed := false
  visible := state ≠ .hidden
  reason := reason
  requirements := requirement
  module := module

/-- The answer for a user who meets the requirement. -/
def granted (requirement : ModuleAccessRequirement) (module : PlatformModuleDefinition) :
    ModuleAccessResult where
  moduleKey := module.key
  state := .allowed
  allowed := true
  visible := true
  reason := "Access allowed."
  requirements := requirement
  module := some module

section Access

variable (enabledModules : String → Option Json) (user : ModuleAccessUser)
  (requirement : ModuleAccessRequirement)

/-- Why the organization of the user keeps the user out, if it does. -/
def organizationDenial (module : PlatformModuleDefinition) : Option (Option String) :=
  if requirement.requiresOrganization ∧ user.role ≠ some .superAdmin then
    if truthy user.organizationId then do
      let enabledModuleKeys ← normalizeEnabledModules (user.organizationId.bind enabledModules)
      return if enabledModuleKeys.contains module.key then none
        else some "This module is not enabled for the organization."
    else some (some "Organization workspace is required for this module area.")
  else some none

/-- `evaluateAccess`, where `enabledModules` looks up the column of an organization. -/
def evaluateAccess : Option ModuleAccessResult :=
  match platformModules.find? fun module => module.key = requirement.moduleKey with
  | none => some (denied requirement .hidden "Module does not exist." none)
  | some module =>
    if module.metadataOnly ∨ module.activeProduction = false then
      some (denied requirement .locked
        "This service module is metadata-only and has no active workflow yet." (some module))
    else if requirement.requiredRoles ≠ [] ∧
        ¬user.role.any (requirement.requiredRoles.contains ·) then
      some (denied requirement (if requirement.hiddenWhenDenied then .hidden else .locked)
        "User role is not allowed for this module area." (some module))
    else do
      match ← organizationDenial enabledModules user requirement module with
      | some reason => return denied requirement .locked reason (some module)
      | none =>
        let plan := user.subscriptionPlan <|> user.organizationSubscriptionPlan
        if requirement.requiredVerificationLevel.any
            (user.identityVerificationLevel.getD 0 < ·) then
          return denied requirement .locked
            "Additional identity verification will be required for this module." (some module)
        else if requirement.requiredSubscriptionPlans ≠ [] ∧
            ¬(truthy plan ∧ plan.any (requirement.requiredSubscriptionPlans.contains ·)) then
          return denied requirement .locked
            "A higher subscription entitlement will be required for this module." (some module)
        else return granted requirement module

variable {enabledModules user requirement}

/-- The module in production. -/
theorem key_of_activeProduction {module : PlatformModuleDefinition} (h : module ∈ platformModules)
    (hactive : module.activeProduction = true) : module.key = activeProductionModuleKey := by
  have hother : ∀ module ∈ platformModules.tail, module.activeProduction = false := by decide
  rcases List.mem_cons.mp h with rfl | h
  · rfl
  · rw [hother module h] at hactive
    cases hactive

/-- No other module than that of maintenance is ever entered. -/
theorem moduleKey_of_allowed {access : ModuleAccessResult}
    (h : evaluateAccess enabledModules user requirement = some access)
    (hallowed : access.allowed = true) : requirement.moduleKey = activeProductionModuleKey := by
  have hdenied : ∀ {state reason module}, access ≠ denied requirement state reason module := by
    rintro state reason module rfl
    cases hallowed
  unfold evaluateAccess at h
  split at h
  · exact absurd (Option.some.inj h).symm hdenied
  · next module hfound =>
    by_cases hmetadata : module.metadataOnly ∨ module.activeProduction = false
    · rw [if_pos hmetadata] at h
      exact absurd (Option.some.inj h).symm hdenied
    · have hkey : module.key = requirement.moduleKey := by simpa using List.find?_some hfound
      rw [← hkey]
      refine key_of_activeProduction (List.mem_of_find?_eq_some hfound) ?_
      simpa using (not_or.mp hmetadata).2

/-- Who is asked for nothing more may enter it. -/
theorem evaluateAccess_maintenance :
    evaluateAccess enabledModules user { moduleKey := activeProductionModuleKey } =
      some (granted { moduleKey := activeProductionModuleKey } ⟨"maintenance", true, false⟩) := rfl

end Access

end FixZone.PlatformModulesService
