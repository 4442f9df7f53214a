import FixZone.Organization.Readiness
import FixZone.PlatformConfiguration.CapabilityCoverage
import FixZone.Users.Service

/-!
# The service configuration of an organization

The configuration is kept in the profile of the organization as JSON of any shape, and
`mergeServiceConfiguration` fills its fields up: the result is a normal form, which merging
leaves alone (`merge_toJson`). An update lays the fields of the request over the stored ones and
merges. A field that the request has with the value `undefined` hides the stored one, so it
falls back to its default; and an ordering that is stored nowhere follows the services. Where
neither makes a difference, an update keeps what it does not set
(`update_keeps_iff`).
-/

namespace FixZone.PlatformConfigurationService

open Library
open ReportService (JwtUser HttpError forbidden notFound typeError)
open OrganizationService (OrganizationRow)
open UsersService (withField)

/-! ### Lists of services -/

/-- `ACTIVE_SERVICE_TYPE`. -/
def activeServiceType : String := "maintenance_report"

/-- `KNOWN_SERVICE_TYPES`. -/
def knownServiceTypes : List String :=
  [activeServiceType, "future_healthcare", "future_legal", "future_ict", "future_agriculture",
    "future_education", "future_security", "future_property", "property_facilities_request",
    "future_architecture_engineering", "future_cleaning_home", "future_government"]

/-- `value.map((item) => item?.toString().trim())`. -/
def serviceTexts (items : List Json) : Option (List (Option String)) :=
  items.mapM fun item => (optionalText (some item)).map (Option.map trim)

/-- The texts that are neither missing nor empty. -/
def presentTexts (texts : List (Option String)) : List String :=
  (texts.filterMap id).filter (· ≠ "")

/-- `[...new Set(items)]`. -/
def distinct (items : List String) : List String := items.reverse.dedup.reverse

/-- `items` of `normalizeEnabledServices`; `none` is a `TypeError`. -/
def serviceItems (value : Option Json) : Option (List String) :=
  match value with
  | some (.arr items) => (serviceTexts items).map presentTexts
  | _ => some [activeServiceType]

/-- `normalizeEnabledServices`. -/
def normalizeEnabledServices (value : Option Json) : Option (List String) := do
  let items ← serviceItems value
  let normalized := distinct items
  return if normalized.contains activeServiceType then normalized
    else activeServiceType :: normalized

/-! ### The configuration -/

/-- `TenantServiceConfiguration`. -/
structure TenantServiceConfiguration where
  enabledServices : List String
  defaultService : String
  serviceOrdering : List String
  serviceVisibility : List (String × Bool)
  brandingOverrides : List (String × Json) := []
  futureSlaConfiguration : List (String × Json) := []
  futureEscalationConfiguration : List (String × Json) := []
  futureAiPreferences : List (String × Json) := []
  futureDocumentRetention : List (String × Json) := []
  futureRegionalSettings : List (String × Json) := []

/-- `asRecord`. -/
def asRecord (value : Option Json) : List (String × Json) :=
  match value with
  | some (.obj fields) => fields
  | _ => []

/-- `asBooleanRecord`. -/
def asBooleanRecord (value : Option Json) : Option (List (String × Bool)) :=
  match value with
  | some (.obj fields) => some (fields.filterMap fun field =>
      match field.2 with
      | .bool entry => some (field.1, entry)
      | _ => none)
  | _ => none

/-- A list of services as JSON. -/
def servicesJson (services : List String) : Json := .arr (services.map .str)

/-- `value ?? fallback`. -/
def nullish (value : Option Json) (fallback : Json) : Json :=
  match value with
  | none | some .null => fallback
  | some value => value

/-- The properties of an object that is not read from JSON: some may be `undefined`. -/
abbrev Properties := List (String × Option Json)

namespace Properties

/-- `record[name]`. -/
def get (record : Properties) (name : String) : Option Json :=
  (record.find? fun property => property.1 = name).bind Prod.snd

/-- Whether the object has a property of its own under the name. -/
def owns (record : Properties) (name : String) : Bool := record.any (·.1 = name)

/-- `{ ...record, ...dto }`, up to the order of the properties, which nothing here reads. -/
def overlay (record : List (String × Json)) (dto : Properties) : Properties :=
  dto ++ (record.map fun field => (field.1, some field.2)).filter fun property =>
    !dto.owns property.1

end Properties

/-- A JSON object as an object. -/
def ownProperties (record : List (String × Json)) : Properties :=
  record.map fun field => (field.1, some field.2)

/-- `defaultServiceConfiguration`, whose parameter has a default value. -/
def defaultServiceConfiguration (enabledModules : Option Json) :
    Option TenantServiceConfiguration := do
  let enabledServices ← normalizeEnabledServices
    (some (enabledModules.getD (.arr [.str "maintenance"])))
  return {
    enabledServices
    defaultService := activeServiceType
    serviceOrdering := enabledServices
    serviceVisibility := enabledServices.map fun service => (service, true) }

/-- `mergeServiceConfiguration`, of a record. -/
def mergeRecord (record : Properties) (enabledModules : Option Json) :
    Option TenantServiceConfiguration := do
  let base ← defaultServiceConfiguration enabledModules
  let enabledServices ← normalizeEnabledServices
    (some (nullish (record.get "enabledServices") (servicesJson base.enabledServices)))
  let enabledServices := if enabledServices.contains activeServiceType then enabledServices
    else activeServiceType :: enabledServices
  let serviceOrdering ← normalizeEnabledServices
    (some (nullish (record.get "serviceOrdering") (servicesJson enabledServices)))
  return {
    enabledServices
    defaultService := match record.get "defaultService" with
      | some (.str service) => if service = "" then base.defaultService else service
      | _ => base.defaultService
    serviceOrdering
    serviceVisibility :=
      (asBooleanRecord (record.get "serviceVisibility")).getD base.serviceVisibility
    brandingOverrides := asRecord (record.get "brandingOverrides")
    futureSlaConfiguration := asRecord (record.get "futureSlaConfiguration")
    futureEscalationConfiguration := asRecord (record.get "futureEscalationConfiguration")
    futureAiPreferences := asRecord (record.get "futureAiPreferences")
    futureDocumentRetention := asRecord (record.get "futureDocumentRetention")
    futureRegionalSettings := asRecord (record.get "futureRegionalSettings") }

/-- `mergeServiceConfiguration`. -/
def mergeServiceConfiguration (value enabledModules : Option Json) :
    Option TenantServiceConfiguration :=
  mergeRecord (ownProperties (asRecord value)) enabledModules

/-- The configuration as it is stored. -/
def TenantServiceConfiguration.toJson (c : TenantServiceConfiguration) : Json :=
  .obj [("enabledServices", servicesJson c.enabledServices),
    ("defaultService", .str c.defaultService),
    ("serviceOrdering", servicesJson c.serviceOrdering),
    ("serviceVisibility", .obj (c.serviceVisibility.map fun entry => (entry.1, .bool entry.2))),
    ("brandingOverrides", .obj c.brandingOverrides),
    ("futureSlaConfiguration", .obj c.futureSlaConfiguration),
    ("futureEscalationConfiguration", .obj c.futureEscalationConfiguration),
    ("futureAiPreferences", .obj c.futureAiPreferences),
    ("futureDocumentRetention", .obj c.futureDocumentRetention),
    ("futureRegionalSettings", .obj c.futureRegionalSettings)]

/-! ### Validation -/

/-- An issue or a warning. -/
structure ConfigurationIssue where
  code : String
  field : String
  service : String
  message : String

/-- What the two validators return. -/
structure ConfigurationValidation where
  valid : Bool
  issues : List ConfigurationIssue
  warnings : List ConfigurationIssue
  knownServices : List String := knownServiceTypes
  guardMode : String := "non_blocking"

/-- `duplicateIssues`. -/
def duplicateIssues (field : String) (value : Option Json) : Option (List ConfigurationIssue) :=
  match value with
  | some (.arr items) => do
    let normalized ← serviceTexts items
    let duplicates := normalized.zipIdx.filter fun (item, index) =>
      normalized.idxOf item ≠ index
    return (distinct (presentTexts (duplicates.map Prod.fst))).map fun service =>
      { code := "duplicate_service"
        field, service
        message := s!"{field} contains duplicate service '{service}'." }
  | _ => some []

/-- `unknownServiceIssues`. -/
def unknownServiceIssues (field : String) (value : Option Json) :
    Option (List ConfigurationIssue) :=
  match value with
  | some (.arr items) => do
    let texts ← serviceTexts items
    return ((presentTexts texts).filter fun service => !knownServiceTypes.contains service).map
      fun service =>
        { code := "unknown_service"
          field, service
          message := s!"{field} contains unknown service '{service}'." }
  | _ => some []

/-- `missingDefaultWarnings`. -/
def missingDefaultWarnings (configuration : TenantServiceConfiguration) :
    List ConfigurationIssue :=
  if configuration.enabledServices.contains configuration.defaultService then [] else
    [{ code := "default_service_not_enabled"
       field := "defaultService"
       service := configuration.defaultService
       message := "Default service should also be enabled." }]

/-- `visibilityWarnings`. -/
def visibilityWarnings (configuration : TenantServiceConfiguration) : List ConfigurationIssue :=
  (configuration.enabledServices.filter fun service =>
    (configuration.serviceVisibility.find? (·.1 = service)).map Prod.snd ≠ some true).map
      fun service =>
        { code := "enabled_service_hidden"
          field := "serviceVisibility"
          service
          message := "Enabled service is hidden from runtime presentation. " ++
            "This is allowed but should be intentional." }

/-- `validateServiceConfigurationInput`, of a record. -/
def validateServiceConfigurationInput (raw : Properties) (enabledModules : Option Json) :
    Option ConfigurationValidation := do
  let merged ← mergeRecord raw enabledModules
  let duplicateServices ← duplicateIssues "enabledServices" (raw.get "enabledServices")
  let duplicateOrdering ← duplicateIssues "serviceOrdering" (raw.get "serviceOrdering")
  let unknownServices ← unknownServiceIssues "enabledServices" (raw.get "enabledServices")
  let unknownOrdering ← unknownServiceIssues "serviceOrdering" (raw.get "serviceOrdering")
  let issues := duplicateServices ++ duplicateOrdering ++ unknownServices ++ unknownOrdering
  return {
    valid := issues.isEmpty
    issues
    warnings := missingDefaultWarnings merged ++ visibilityWarnings merged }

/-- `validateServiceConfigurationRecord`. -/
def validateServiceConfigurationRecord (configuration : TenantServiceConfiguration) :
    Option ConfigurationValidation := do
  let unknownServices ← unknownServiceIssues "enabledServices"
    (some (servicesJson configuration.enabledServices))
  let unknownOrdering ← unknownServiceIssues "serviceOrdering"
    (some (servicesJson configuration.serviceOrdering))
  let issues := unknownServices ++ unknownOrdering
  return {
    valid := issues.isEmpty
    issues
    warnings := missingDefaultWarnings configuration ++ visibilityWarnings configuration }

/-! ### The operations -/

/-- `PROFILE_CONFIG_KEY`. -/
def profileConfigKey : String := "secureZoneServiceConfiguration"

/-- The metadata of the audit entry of an update. -/
structure ConfigurationAudit where
  action : String := "Tenant Service Configuration Updated"
  actorUserId : String
  organizationId : String
  enabledServices : List String
  defaultService : String
  serviceVisibility : List (String × Bool)
  validation : ConfigurationValidation

/-- What the operations read and write. -/
structure ConfigurationStore where
  organizations : Table OrganizationRow.id
  audits : List ConfigurationAudit := []

/-- `profileData[PROFILE_CONFIG_KEY]`. -/
def storedConfiguration (row : OrganizationRow) : Option Json :=
  (Json.obj (asRecord row.profileData)).field? profileConfigKey

/-- The enabled modules, as the client of the database gives them. -/
def storedModules (row : OrganizationRow) : Option Json := some (row.enabledModules.getD .null)

/-- `assertCanAccessOrganization`. -/
def assertCanAccessOrganization (user : JwtUser) (organizationId : String) :
    Except HttpError Unit :=
  if user.role = .superAdmin then .ok ()
  else throwIf (truthy user.organizationId = false ∨ user.organizationId ≠ some organizationId)
    (forbidden "Organization access denied")

/-- `assertCanManageOrganization`. -/
def assertCanManageOrganization (user : JwtUser) (organizationId : String) :
    Except HttpError Unit :=
  if user.role = .superAdmin then .ok ()
  else throwIf (user.role ≠ .orgAdmin ∨ user.organizationId ≠ some organizationId)
    (forbidden "Organization management denied")

/-- `requireOrganizationScope`. -/
def requireOrganizationScope (user : JwtUser) : Except HttpError String :=
  orThrow (user.organizationId.filter (· ≠ "")) (forbidden "No organization scope")

/-- The column of an organization whose configuration is stored. -/
@[simp] def configuredData (configuration : TenantServiceConfiguration) :
    Patch OrganizationRow.id where
  apply row := { row with
    profileData := some (withField row.profileData profileConfigKey configuration.toJson) }

/-- What `updateServiceConfiguration` returns. -/
structure ServiceConfigurationAnswer where
  organizationId : String
  configuration : TenantServiceConfiguration
  validation : ConfigurationValidation

/-- `updateServiceConfiguration`. -/
def updateServiceConfiguration (s : ConfigurationStore) (user : JwtUser) (organizationId : String)
    (dto : Properties) : Except HttpError (ConfigurationStore × ServiceConfigurationAnswer) := do
  assertCanManageOrganization user organizationId
  let existing ← orThrow (s.organizations.find? organizationId) (notFound "Organization not found")
  let raw := Properties.overlay (asRecord (storedConfiguration existing)) dto
  let nextConfiguration ← orThrow (mergeRecord raw (storedModules existing)) typeError
  let updated := (configuredData nextConfiguration).apply existing
  let validation ← orThrow
    (validateServiceConfigurationInput raw (storedModules existing)) typeError
  let merged ← orThrow
    (mergeServiceConfiguration (storedConfiguration updated) (storedModules updated)) typeError
  let answered ← orThrow (validateServiceConfigurationRecord merged) typeError
  return ({
    organizations := s.organizations.modify organizationId (configuredData nextConfiguration)
    audits := s.audits ++
      [{ actorUserId := user.id
         organizationId
         enabledServices := nextConfiguration.enabledServices
         defaultService := nextConfiguration.defaultService
         serviceVisibility := nextConfiguration.serviceVisibility
         validation }] },
    { organizationId := updated.id
      configuration := merged
      validation := answered })

/-- What `validateTenantConfiguration` returns. -/
structure TenantValidation where
  organizationId : String
  validation : ConfigurationValidation
  normalizedConfiguration : TenantServiceConfiguration

/-- `organizationId ?? this.requireOrganizationScope(user)`. -/
def targetOrganization (user : JwtUser) (organizationId : Option String) :
    Except HttpError String :=
  match organizationId with
  | some organizationId => .ok organizationId
  | none => requireOrganizationScope user

/-- `validateTenantConfiguration`. -/
def validateTenantConfiguration (s : ConfigurationStore) (user : JwtUser)
    (organizationId : Option String) : Except HttpError TenantValidation := do
  let targetOrganizationId ← targetOrganization user organizationId
  assertCanAccessOrganization user targetOrganizationId
  let organization ← orThrow (s.organizations.find? targetOrganizationId)
    (notFound "Organization not found")
  let rawConfiguration := asRecord (storedConfiguration organization)
  let normalizedConfiguration ← orThrow
    (mergeRecord (ownProperties rawConfiguration) (storedModules organization)) typeError
  let validation ← orThrow (validateServiceConfigurationInput (ownProperties rawConfiguration)
    (storedModules organization)) typeError
  return { organizationId := organization.id, validation, normalizedConfiguration }

/-! ### Normal forms -/

/-- A list of services that `normalizeEnabledServices` leaves alone. -/
structure NormalServices (services : List String) : Prop where
  nodup : services.Nodup
  active : activeServiceType ∈ services
  trimmed : ∀ service ∈ services, trim service = service ∧ service ≠ ""

/-- A configuration that `mergeServiceConfiguration` leaves alone. -/
structure TenantServiceConfiguration.Normal (c : TenantServiceConfiguration) : Prop where
  enabledServices : NormalServices c.enabledServices
  defaultService : c.defaultService ≠ ""
  serviceOrdering : NormalServices c.serviceOrdering

theorem mem_distinct {items : List String} {service : String} :
    service ∈ distinct items ↔ service ∈ items := by
  simp [distinct]

theorem nodup_distinct (items : List String) : (distinct items).Nodup := by
  simp [distinct, List.nodup_dedup]

theorem distinct_of_nodup {items : List String} (h : items.Nodup) : distinct items = items := by
  rw [distinct, (List.nodup_reverse.mpr h).dedup, List.reverse_reverse]

/-- The texts of the items of an array are trimmed. -/
theorem trimmed_of_serviceTexts {items : List Json} {texts : List (Option String)}
    (h : serviceTexts items = some texts) :
    ∀ service ∈ presentTexts texts, trim service = service ∧ service ≠ "" := by
  intro service hservice
  obtain ⟨hmem, hne⟩ := List.mem_filter.mp hservice
  obtain ⟨_, htext, rfl⟩ := List.mem_filterMap.mp hmem
  refine ⟨?_, of_decide_eq_true hne⟩
  obtain ⟨-, rfl⟩ := mapM_eq_some_iff.mp h
  obtain ⟨item, -, hitem⟩ := List.mem_filterMap.mp htext
  obtain ⟨text, -, htrim⟩ := Option.map_eq_some_iff.mp hitem
  obtain ⟨raw, -, rfl⟩ := Option.map_eq_some_iff.mp htrim
  exact trim_trim raw

theorem trim_activeServiceType : trim activeServiceType = activeServiceType := by decide +kernel

/-- What is normalized is normal. -/
theorem NormalServices.of_normalize {value : Option Json} {services : List String}
    (h : normalizeEnabledServices value = some services) : NormalServices services := by
  obtain ⟨items, hitems, heq⟩ := Option.bind_eq_some_iff.mp h
  have htrimmed : ∀ service ∈ items, trim service = service ∧ service ≠ "" := by
    unfold serviceItems at hitems
    split at hitems
    · obtain ⟨texts, htexts, rfl⟩ := Option.map_eq_some_iff.mp hitems
      exact trimmed_of_serviceTexts htexts
    · obtain rfl := Option.some.inj hitems
      exact List.forall_mem_singleton.mpr ⟨trim_activeServiceType, by decide⟩
  obtain rfl := Option.some.inj heq
  by_cases hactive : (distinct items).contains activeServiceType
  · rw [if_pos hactive]
    exact ⟨nodup_distinct items, List.contains_iff_mem.mp hactive,
      fun service hservice => htrimmed service (mem_distinct.mp hservice)⟩
  · rw [if_neg hactive]
    rw [List.contains_iff_mem] at hactive
    refine ⟨List.nodup_cons.mpr ⟨hactive, nodup_distinct items⟩, List.mem_cons_self,
      List.forall_mem_cons.mpr ⟨⟨trim_activeServiceType, by decide⟩, fun service hservice =>
        htrimmed service (mem_distinct.mp hservice)⟩⟩

/-- The texts of a normal list of services. -/
theorem NormalServices.serviceTexts {services : List String} (h : NormalServices services) :
    serviceTexts (services.map .str) = some (services.map some) := by
  refine mapM_eq_some_iff.mpr ⟨?_, ?_⟩
  · simp [optionalText, Json.toText]
  · rw [List.filterMap_map, ← List.filterMap_eq_map]
    refine List.filterMap_congr fun service hservice => ?_
    simp [optionalText, Json.toText, (h.trimmed service hservice).1]

/-- None of them is missing. -/
theorem NormalServices.presentTexts {services : List String} (h : NormalServices services) :
    presentTexts (services.map some) = services := by
  have hpresent : ∀ service ∈ services, decide (service ≠ "") = true :=
    fun service hservice => decide_eq_true (h.trimmed service hservice).2
  simpa [PlatformConfigurationService.presentTexts, List.filterMap_map, Function.comp_def]
    using hpresent

/-- What is normal is left alone. -/
theorem NormalServices.normalize {services : List String} (h : NormalServices services) :
    normalizeEnabledServices (some (servicesJson services)) = some services := by
  have hactive : services.contains activeServiceType := List.contains_iff_mem.mpr h.active
  simp [normalizeEnabledServices, serviceItems, servicesJson, h.serviceTexts, h.presentTexts,
    distinct_of_nodup h.nodup, h.active]

/-! ### Merging -/

variable {record : Properties} {value enabledModules : Option Json}
  {base c : TenantServiceConfiguration}

/-- The fields that are filled up. -/
structure Merged (record : Properties) (base c : TenantServiceConfiguration) : Prop where
  enabledServices : normalizeEnabledServices (some (nullish (record.get "enabledServices")
    (servicesJson base.enabledServices))) = some c.enabledServices
  defaultService : c.defaultService = match record.get "defaultService" with
    | some (.str service) => if service = "" then base.defaultService else service
    | _ => base.defaultService
  serviceOrdering : normalizeEnabledServices (some (nullish (record.get "serviceOrdering")
    (servicesJson c.enabledServices))) = some c.serviceOrdering
  serviceVisibility : c.serviceVisibility =
    (asBooleanRecord (record.get "serviceVisibility")).getD base.serviceVisibility
  brandingOverrides : c.brandingOverrides = asRecord (record.get "brandingOverrides")
  futureSlaConfiguration :
    c.futureSlaConfiguration = asRecord (record.get "futureSlaConfiguration")
  futureEscalationConfiguration :
    c.futureEscalationConfiguration = asRecord (record.get "futureEscalationConfiguration")
  futureAiPreferences : c.futureAiPreferences = asRecord (record.get "futureAiPreferences")
  futureDocumentRetention :
    c.futureDocumentRetention = asRecord (record.get "futureDocumentRetention")
  futureRegionalSettings :
    c.futureRegionalSettings = asRecord (record.get "futureRegionalSettings")

theorem mergeRecord_eq_some_iff : mergeRecord record enabledModules = some c ↔
    ∃ base, defaultServiceConfiguration enabledModules = some base ∧ Merged record base c := by
  constructor
  · intro h
    obtain ⟨base, hbase, h⟩ := Option.bind_eq_some_iff.mp h
    obtain ⟨services, hservices, h⟩ := Option.bind_eq_some_iff.mp h
    have hactive := (NormalServices.of_normalize hservices).active
    rw [← List.contains_iff_mem] at hactive
    rw [if_pos hactive] at h
    obtain ⟨ordering, hordering, h⟩ := Option.bind_eq_some_iff.mp h
    obtain rfl := Option.some.inj h
    exact ⟨base, hbase, hservices, rfl, hordering, rfl, rfl, rfl, rfl, rfl, rfl, rfl⟩
  · rintro ⟨base, hbase, h⟩
    have hactive := (NormalServices.of_normalize h.enabledServices).active
    rw [← List.contains_iff_mem] at hactive
    simp only [mergeRecord, hbase, h.enabledServices, h.serviceOrdering, hactive,
      Option.bind_eq_bind, Option.bind_some, if_true, Option.pure_def, ← h.defaultService,
      ← h.serviceVisibility, ← h.brandingOverrides, ← h.futureSlaConfiguration,
      ← h.futureEscalationConfiguration, ← h.futureAiPreferences, ← h.futureDocumentRetention,
      ← h.futureRegionalSettings]

/-- The default configuration has the services of the enabled modules, all of them visible. -/
theorem default_eq_some (h : defaultServiceConfiguration enabledModules = some base) :
    NormalServices base.enabledServices ∧
      base = { enabledServices := base.enabledServices
               defaultService := activeServiceType
               serviceOrdering := base.enabledServices
               serviceVisibility := base.enabledServices.map fun service => (service, true) } := by
  obtain ⟨services, hservices, h⟩ := Option.bind_eq_some_iff.mp h
  obtain rfl := Option.some.inj h
  exact ⟨NormalServices.of_normalize hservices, rfl⟩

/-- A merged configuration is normal. -/
theorem Merged.normal (hbase : defaultServiceConfiguration enabledModules = some base)
    (h : Merged record base c) : c.Normal := by
  refine ⟨NormalServices.of_normalize h.enabledServices, ?_,
    NormalServices.of_normalize h.serviceOrdering⟩
  have hdefault : base.defaultService ≠ "" := by
    rw [(default_eq_some hbase).2]
    exact (by decide : activeServiceType ≠ "")
  rw [h.defaultService]
  split
  · next service _ =>
    by_cases hempty : service = ""
    · rwa [if_pos hempty]
    · rwa [if_neg hempty]
  · exact hdefault

/-- Where a record has no field, the defaults stand. -/
theorem merged_nil (hbase : defaultServiceConfiguration enabledModules = some base) :
    Merged [] base base := by
  obtain ⟨hnormal, heq⟩ := default_eq_some hbase
  refine ⟨hnormal.normalize, rfl, ?_, rfl, ?_, ?_, ?_, ?_, ?_, ?_⟩
  · rw [heq]
    exact hnormal.normalize
  all_goals
    rw [heq]
    rfl

theorem asBooleanRecord_obj (entries : List (String × Bool)) :
    asBooleanRecord (some (.obj (entries.map fun entry => (entry.1, .bool entry.2)))) =
      some entries := by
  simp [asBooleanRecord, List.filterMap_map]

/-- A normal configuration is read back as it was stored. -/
theorem TenantServiceConfiguration.Normal.merged (h : c.Normal)
    (base : TenantServiceConfiguration) :
    Merged (ownProperties (asRecord (some c.toJson))) base c where
  enabledServices := h.enabledServices.normalize
  defaultService := (if_neg h.defaultService).symm
  serviceOrdering := h.serviceOrdering.normalize
  serviceVisibility := congrArg (Option.getD · base.serviceVisibility)
    (asBooleanRecord_obj c.serviceVisibility).symm
  brandingOverrides := rfl
  futureSlaConfiguration := rfl
  futureEscalationConfiguration := rfl
  futureAiPreferences := rfl
  futureDocumentRetention := rfl
  futureRegionalSettings := rfl

/-- Merging leaves a normal form alone. -/
theorem TenantServiceConfiguration.Normal.merge_toJson (h : c.Normal)
    (hbase : defaultServiceConfiguration enabledModules = some base) :
    mergeServiceConfiguration (some c.toJson) enabledModules = some c :=
  mergeRecord_eq_some_iff.mpr ⟨base, hbase, h.merged base⟩

/-! ### Fields -/

/-- The names of the fields. -/
def configurationFields : List String :=
  ["enabledServices", "defaultService", "serviceOrdering", "serviceVisibility",
    "brandingOverrides", "futureSlaConfiguration", "futureEscalationConfiguration",
    "futureAiPreferences", "futureDocumentRetention", "futureRegionalSettings"]

/-- The value of a field. -/
def TenantServiceConfiguration.field? (c : TenantServiceConfiguration) (name : String) :
    Option Json := c.toJson.field? name

/-- A field other than the ordering depends on its own value in the record. -/
theorem Merged.field?_eq {record' : Properties} {c' : TenantServiceConfiguration}
    (h : Merged record base c) (h' : Merged record' base c') {name : String}
    (hname : name ∈ configurationFields) (hordering : name ≠ "serviceOrdering")
    (hget : record.get name = record'.get name) : c.field? name = c'.field? name := by
  simp only [configurationFields, List.mem_cons, List.not_mem_nil, or_false] at hname
  rcases hname with rfl | rfl | rfl | rfl | rfl | rfl | rfl | rfl | rfl | rfl
  · have hservices := h.enabledServices
    rw [hget, h'.enabledServices] at hservices
    exact congrArg (some ∘ servicesJson) (Option.some.inj hservices).symm
  · exact congrArg (some ∘ Json.str) (by rw [h.defaultService, h'.defaultService, hget])
  · exact absurd rfl hordering
  · have hvisibility : c.serviceVisibility = c'.serviceVisibility := by
      rw [h.serviceVisibility, h'.serviceVisibility, hget]
    exact congrArg (fun entries : List (String × Bool) =>
      some (Json.obj (entries.map fun entry => (entry.1, .bool entry.2)))) hvisibility
  · exact congrArg (some ∘ Json.obj) (by rw [h.brandingOverrides, h'.brandingOverrides, hget])
  · exact congrArg (some ∘ Json.obj)
      (by rw [h.futureSlaConfiguration, h'.futureSlaConfiguration, hget])
  · exact congrArg (some ∘ Json.obj)
      (by rw [h.futureEscalationConfiguration, h'.futureEscalationConfiguration, hget])
  · exact congrArg (some ∘ Json.obj) (by rw [h.futureAiPreferences, h'.futureAiPreferences, hget])
  · exact congrArg (some ∘ Json.obj)
      (by rw [h.futureDocumentRetention, h'.futureDocumentRetention, hget])
  · exact congrArg (some ∘ Json.obj)
      (by rw [h.futureRegionalSettings, h'.futureRegionalSettings, hget])

/-- An ordering that the record has does not depend on its services. -/
theorem Merged.serviceOrdering_eq {record' : Properties} {base' c' : TenantServiceConfiguration}
    (h : Merged record base c) (h' : Merged record' base' c') {ordering : Json}
    (hget : record.get "serviceOrdering" = some ordering) (hne : ordering ≠ .null)
    (hget' : record'.get "serviceOrdering" = some ordering) :
    c.serviceOrdering = c'.serviceOrdering := by
  have hfirst := h.serviceOrdering
  have hsecond := h'.serviceOrdering
  have hread : ∀ fallback, nullish (some ordering) fallback = ordering := by
    intro fallback
    cases ordering with
    | null => exact absurd rfl hne
    | _ => rfl
  rw [hget, hread] at hfirst
  rw [hget', hread, hfirst] at hsecond
  exact Option.some.inj hsecond

/-- Without one, the services are the ordering. -/
theorem Merged.serviceOrdering_eq_enabledServices (h : Merged record base c)
    (hget : record.get "serviceOrdering" = none ∨ record.get "serviceOrdering" = some .null) :
    c.serviceOrdering = c.enabledServices := by
  have hordering := h.serviceOrdering
  have hservices := (NormalServices.of_normalize h.enabledServices).normalize
  rcases hget with hget | hget
  all_goals
    rw [hget] at hordering
    exact Option.some.inj (hordering.symm.trans hservices)

/-- Orderings agree when their fields do. -/
theorem field?_serviceOrdering_eq_iff {c' : TenantServiceConfiguration} :
    c.field? "serviceOrdering" = c'.field? "serviceOrdering" ↔
      c.serviceOrdering = c'.serviceOrdering := by
  refine ⟨fun h => ?_, fun h => congrArg (some ∘ servicesJson) h⟩
  have hlist : c.serviceOrdering.map Json.str = c'.serviceOrdering.map Json.str :=
    Json.arr.inj (Option.some.inj h)
  exact List.map_injective_iff.mpr (fun _ _ => Json.str.inj) hlist

/-! ### The overlay -/

namespace Properties

variable {stored : List (String × Json)} {dto : Properties} {name : String}

/-- A field that the request owns hides the stored one. -/
theorem get_overlay_of_owns (h : dto.owns name) : (overlay stored dto).get name = dto.get name := by
  have hfound : (dto.find? fun property => property.1 = name).isSome := by
    rwa [List.find?_isSome, ← List.any_eq_true]
  obtain ⟨property, hproperty⟩ := Option.isSome_iff_exists.mp hfound
  rw [get, get, overlay, List.find?_append, hproperty]
  rfl

/-- The others are the stored ones. -/
theorem get_overlay_of_not_owns (h : dto.owns name = false) :
    (overlay stored dto).get name = (ownProperties stored).get name := by
  have hnone : (dto.find? fun property => property.1 = name) = none := by
    rw [List.find?_eq_none]
    exact List.any_eq_false.mp h
  have hkept : ∀ property : String × Option Json,
      (!dto.owns property.1 && decide (property.1 = name)) = decide (property.1 = name) := by
    intro property
    by_cases heq : property.1 = name
    · simp [heq, h]
    · simp [heq]
  simp [get, overlay, ownProperties, hnone, List.find?_filter, hkept]

end Properties

/-! ### The validators agree -/

/-- A normal list of services has no duplicates. -/
theorem NormalServices.duplicateIssues {services : List String} (h : NormalServices services)
    (field : String) : duplicateIssues field (some (servicesJson services)) = some [] := by
  have hnodup : (services.map some).Nodup := h.nodup.map (Option.some_injective String)
  have hnone : ((services.map some).zipIdx.filter fun (item, index) =>
      (services.map some).idxOf item ≠ index) = [] := by
    rw [List.filter_eq_nil_iff]
    rintro ⟨item, index⟩ hmem
    obtain ⟨hindex, heq⟩ := List.mem_zipIdx' hmem
    have hfirst := hnodup.idxOf_getElem index hindex
    rw [← heq] at hfirst
    simp [hfirst]
  simp only [PlatformConfigurationService.duplicateIssues, servicesJson, h.serviceTexts, hnone,
    Option.bind_eq_bind, Option.bind_some]
  rfl

/-- On a normal form that was stored, both validators say the same. -/
theorem TenantServiceConfiguration.Normal.validate (h : c.Normal)
    (hbase : defaultServiceConfiguration enabledModules = some base) :
    validateServiceConfigurationInput (ownProperties (asRecord (some c.toJson))) enabledModules =
      validateServiceConfigurationRecord c := by
  have hmerged : mergeRecord (ownProperties (asRecord (some c.toJson))) enabledModules = some c :=
    h.merge_toJson hbase
  have hservices : (ownProperties (asRecord (some c.toJson))).get "enabledServices" =
      some (servicesJson c.enabledServices) := rfl
  have hordering : (ownProperties (asRecord (some c.toJson))).get "serviceOrdering" =
      some (servicesJson c.serviceOrdering) := rfl
  simp only [validateServiceConfigurationInput, validateServiceConfigurationRecord, hmerged,
    hservices, hordering, h.enabledServices.duplicateIssues, h.serviceOrdering.duplicateIssues,
    Option.bind_eq_bind, Option.bind_some, List.nil_append]

/-! ### What an update leaves -/

variable {s s' : ConfigurationStore} {user : JwtUser} {organizationId : String} {dto : Properties}
  {answer : ServiceConfigurationAnswer}

/-- The normal form of the configuration of an organization. -/
def normalForm (s : ConfigurationStore) (organizationId : String) :
    Option TenantServiceConfiguration :=
  (s.organizations.find? organizationId).bind fun row =>
    mergeServiceConfiguration (storedConfiguration row) (storedModules row)

theorem storedConfiguration_configured (c : TenantServiceConfiguration) (row : OrganizationRow) :
    storedConfiguration ((configuredData c).apply row) = some c.toJson := by
  have hothers : ∀ fields : List (String × Json), fields.find? (fun _ => false) = none := by simp
  simp [storedConfiguration, withField, asRecord, Accounts.objectRecord, Json.field?,
    List.find?_filter, hothers]

/-- What an accepted update did. -/
structure Updated (s s' : ConfigurationStore) (user : JwtUser) (organizationId : String)
    (dto : Properties) (answer : ServiceConfigurationAnswer) (existing : OrganizationRow)
    (base next : TenantServiceConfiguration) : Prop where
  manages : assertCanManageOrganization user organizationId = .ok ()
  found : s.organizations.find? organizationId = some existing
  defaults : defaultServiceConfiguration (storedModules existing) = some base
  merged : Merged (Properties.overlay (asRecord (storedConfiguration existing)) dto) base next
  organizations : s'.organizations = s.organizations.modify organizationId (configuredData next)
  organizationId : answer.organizationId = organizationId
  validation : validateServiceConfigurationRecord next = some answer.validation

theorem update_eq_ok (h : updateServiceConfiguration s user organizationId dto = .ok (s', answer)) :
    ∃ existing base next,
      Updated s s' user organizationId dto answer existing base next := by
  unfold updateServiceConfiguration at h
  obtain ⟨hmanages, h⟩ := check_bind_eq_ok.mp h
  obtain ⟨existing, hfound, h⟩ := orThrow_bind_eq_ok.mp h
  obtain ⟨next, hnext, h⟩ := orThrow_bind_eq_ok.mp h
  obtain ⟨validation, -, h⟩ := orThrow_bind_eq_ok.mp h
  obtain ⟨merged, hmerged, h⟩ := orThrow_bind_eq_ok.mp h
  obtain ⟨answered, hanswered, h⟩ := orThrow_bind_eq_ok.mp h
  obtain ⟨base, hbase, hnext⟩ := mergeRecord_eq_some_iff.mp hnext
  rw [storedConfiguration_configured] at hmerged
  have hsame : mergeServiceConfiguration (some next.toJson) (storedModules existing) = some next :=
    (hnext.normal hbase).merge_toJson hbase
  obtain rfl : next = merged := Option.some.inj (hsame.symm.trans hmerged)
  have hid : existing.id = organizationId := Table.key_of_find? hfound
  cases h
  exact ⟨existing, base, next, hmanages, hfound, hbase, hnext, rfl, hid, hanswered⟩

namespace Updated

variable {existing : OrganizationRow} {next : TenantServiceConfiguration}

/-- The organization afterwards. -/
theorem find?_after (h : Updated s s' user organizationId dto answer existing base next) :
    s'.organizations.find? organizationId = some ((configuredData next).apply existing) := by
  rw [h.organizations]
  exact Table.find?_modify_self _ h.found

/-- The new normal form is what was merged. -/
theorem normalForm_after (h : Updated s s' user organizationId dto answer existing base next) :
    normalForm s' organizationId = some next := by
  rw [normalForm, h.find?_after, Option.bind_some, storedConfiguration_configured]
  exact (h.merged.normal h.defaults).merge_toJson h.defaults

end Updated

/-- The validation of the tenant says what the update said, to whoever asks for it; and the one
who made the update may ask. -/
structure ValidatedAlike (s' : ConfigurationStore) (organizationId : String) (user : JwtUser)
    (validation : ConfigurationValidation) : Prop where
  everyone : ∀ viewer requested answer,
    validateTenantConfiguration s' viewer requested = .ok answer →
    answer.organizationId = organizationId → answer.validation = validation
  updater : organizationId ≠ "" →
    ∃ answer, validateTenantConfiguration s' user (some organizationId) = .ok answer

/-- A validation that is given is that of the record that is stored. -/
theorem validateTenant_eq_ok {viewer : JwtUser} {requested : Option String}
    {answer : TenantValidation} (h : validateTenantConfiguration s viewer requested = .ok answer) :
    ∃ organization, s.organizations.find? answer.organizationId = some organization ∧
      validateServiceConfigurationInput
        (ownProperties (asRecord (storedConfiguration organization)))
          (storedModules organization) = some answer.validation := by
  obtain ⟨target, -, h⟩ := bind_eq_ok.mp h
  obtain ⟨-, h⟩ := check_bind_eq_ok.mp h
  obtain ⟨organization, hfound, h⟩ := orThrow_bind_eq_ok.mp h
  obtain ⟨merged, -, h⟩ := orThrow_bind_eq_ok.mp h
  obtain ⟨validation, hvalidation, h⟩ := orThrow_bind_eq_ok.mp h
  have hid : organization.id = target := Table.key_of_find? hfound
  cases h
  exact ⟨organization, hid ▸ hfound, hvalidation⟩

/-- Who may manage an organization may read it. -/
theorem access_of_manage (h : assertCanManageOrganization user organizationId = .ok ())
    (hne : organizationId ≠ "") : assertCanAccessOrganization user organizationId = .ok () := by
  unfold assertCanManageOrganization at h
  unfold assertCanAccessOrganization
  by_cases hadmin : user.role = .superAdmin
  · rw [if_pos hadmin]
  · rw [if_neg hadmin] at h ⊢
    have hown : user.organizationId = some organizationId := by
      simpa using fun hother => (throwIf_eq_ok.mp h) (.inr hother)
    refine throwIf_eq_ok.mpr fun hdenied => ?_
    simp [hown, truthy, hne] at hdenied

theorem Updated.validatedAlike {existing : OrganizationRow} {next : TenantServiceConfiguration}
    (h : Updated s s' user organizationId dto answer existing base next) :
    ValidatedAlike s' organizationId user answer.validation := by
  have hnormal := h.merged.normal h.defaults
  have hvalidation : validateServiceConfigurationInput (ownProperties (asRecord
      (storedConfiguration ((configuredData next).apply existing))))
      (storedModules ((configuredData next).apply existing)) = some answer.validation := by
    rw [storedConfiguration_configured, ← h.validation]
    exact hnormal.validate h.defaults
  constructor
  · intro viewer requested tenant htenant hid
    obtain ⟨organization, hfound, hread⟩ := validateTenant_eq_ok htenant
    rw [hid, h.find?_after] at hfound
    obtain rfl := Option.some.inj hfound
    exact Option.some.inj (hread.symm.trans hvalidation)
  · intro hne
    have hmerged : mergeRecord (ownProperties (asRecord
        (storedConfiguration ((configuredData next).apply existing))))
        (storedModules ((configuredData next).apply existing)) = some next := by
      rw [storedConfiguration_configured]
      exact hnormal.merge_toJson h.defaults
    have hid : ((configuredData next).apply existing).id = organizationId :=
      Table.key_of_find? h.find?_after
    refine ⟨⟨organizationId, answer.validation, next⟩, ?_⟩
    simp only [validateTenantConfiguration, targetOrganization, ok_bind,
      access_of_manage h.manages hne, h.find?_after, orThrow_some, hmerged, hvalidation, hid]
    rfl

/-! ### What an update keeps -/

/-- The field is absent from the request, or `undefined`. -/
def Unset (dto : Properties) (name : String) : Prop :=
  dto.owns name = false ∨ dto.get name = none

/-- Every field that the request does not set keeps its value in the normal form. -/
def KeepsUnset (s s' : ConfigurationStore) (organizationId : String) (dto : Properties) : Prop :=
  ∀ previous ∈ normalForm s organizationId, ∀ next ∈ normalForm s' organizationId,
    ∀ name ∈ configurationFields, Unset dto name → next.field? name = previous.field? name

/-- The services of an update: those of the request; the default ones, where it has none or
`null` under the name; and the previous ones, where it has nothing. -/
def servicesAfter (dto : Properties) (base previous : TenantServiceConfiguration) :
    Option (List String) :=
  if dto.owns "enabledServices" then
    normalizeEnabledServices
      (some (nullish (dto.get "enabledServices") (servicesJson base.enabledServices)))
  else some previous.enabledServices

/-- What a request has as `undefined` was at its default before; and where there is no ordering
to keep, the services are in the previous ordering. -/
structure UnsetAtDefault (existing : OrganizationRow) (dto : Properties)
    (base previous : TenantServiceConfiguration) : Prop where
  defaults : ∀ name ∈ configurationFields, name ≠ "serviceOrdering" → dto.owns name →
    dto.get name = none → base.field? name = previous.field? name
  ordering : Unset dto "serviceOrdering" →
    (dto.owns "serviceOrdering" ∨ ∀ ordering ∈
      (ownProperties (asRecord (storedConfiguration existing))).get "serviceOrdering",
        ordering = .null) →
    servicesAfter dto base previous = some previous.serviceOrdering

variable {existing : OrganizationRow} {previous next : TenantServiceConfiguration}

/-- An update gives an organization the services that it is said to. -/
theorem Merged.servicesAfter_eq
    (hprevious : Merged (ownProperties (asRecord (storedConfiguration existing))) base previous)
    (hnext : Merged (Properties.overlay (asRecord (storedConfiguration existing)) dto) base next) :
    servicesAfter dto base previous = some next.enabledServices := by
  have hservices := hnext.enabledServices
  unfold servicesAfter
  cases howns : dto.owns "enabledServices" with
  | true => rwa [Properties.get_overlay_of_owns howns] at hservices
  | false =>
    rw [Properties.get_overlay_of_not_owns howns, hprevious.enabledServices] at hservices
    exact hservices

/-- A field other than the ordering is kept unless it is `undefined` and was not at its
default. -/
theorem Merged.keeps_iff (hbase : defaultServiceConfiguration enabledModules = some base)
    (hprevious : Merged (ownProperties (asRecord (storedConfiguration existing))) base previous)
    (hnext : Merged (Properties.overlay (asRecord (storedConfiguration existing)) dto) base next)
    {name : String} (hname : name ∈ configurationFields) (hordering : name ≠ "serviceOrdering")
    (hunset : Unset dto name) : next.field? name = previous.field? name ↔
      (dto.owns name → dto.get name = none → base.field? name = previous.field? name) := by
  cases howns : dto.owns name with
  | true =>
    have hundefined : dto.get name = none :=
      hunset.resolve_left (by rw [howns]; exact Bool.noConfusion)
    have hdefault : next.field? name = base.field? name :=
      hnext.field?_eq (merged_nil hbase) hname hordering
        ((Properties.get_overlay_of_owns howns).trans hundefined)
    rw [hdefault]
    exact ⟨fun h _ _ => h, fun h => h rfl hundefined⟩
  | false =>
    exact iff_of_true (hnext.field?_eq hprevious hname hordering
      (Properties.get_overlay_of_not_owns howns)) (fun h => Bool.noConfusion h)

/-- The ordering is kept unless there is none to keep and the services are not in it. -/
theorem Merged.keeps_ordering_iff
    (hprevious : Merged (ownProperties (asRecord (storedConfiguration existing))) base previous)
    (hnext : Merged (Properties.overlay (asRecord (storedConfiguration existing)) dto) base next)
    (hunset : Unset dto "serviceOrdering") :
    next.field? "serviceOrdering" = previous.field? "serviceOrdering" ↔
      ((dto.owns "serviceOrdering" ∨ ∀ ordering ∈
        (ownProperties (asRecord (storedConfiguration existing))).get "serviceOrdering",
          ordering = .null) →
        servicesAfter dto base previous = some previous.serviceOrdering) := by
  rw [field?_serviceOrdering_eq_iff, Merged.servicesAfter_eq hprevious hnext, Option.some.injEq]
  cases howns : dto.owns "serviceOrdering" with
  | true =>
    have hundefined : dto.get "serviceOrdering" = none :=
      hunset.resolve_left (by rw [howns]; exact Bool.noConfusion)
    rw [hnext.serviceOrdering_eq_enabledServices
      (.inl ((Properties.get_overlay_of_owns howns).trans hundefined))]
    exact ⟨fun h _ => h, fun h => h (.inl rfl)⟩
  | false =>
    have hget : (Properties.overlay (asRecord (storedConfiguration existing)) dto).get
        "serviceOrdering" =
          (ownProperties (asRecord (storedConfiguration existing))).get "serviceOrdering" :=
      Properties.get_overlay_of_not_owns howns
    cases hstored : (ownProperties (asRecord (storedConfiguration existing))).get
        "serviceOrdering" with
    | none =>
      rw [hnext.serviceOrdering_eq_enabledServices (.inl (hget.trans hstored))]
      exact ⟨fun h _ => h, fun h => h (.inr fun _ hnone => nomatch hnone)⟩
    | some ordering =>
      by_cases hnull : ordering = .null
      · subst hnull
        rw [hnext.serviceOrdering_eq_enabledServices (.inr (hget.trans hstored))]
        exact ⟨fun h _ => h, fun h => h (.inr fun _ hsome => (Option.some.inj hsome).symm)⟩
      · refine iff_of_true (hnext.serviceOrdering_eq hprevious (hget.trans hstored) hnull hstored)
          fun h => absurd (h.resolve_left Bool.noConfusion ordering rfl) hnull

/-- The laws of the normal form. -/
structure Stable (enabledModules : Option Json) (c : TenantServiceConfiguration) : Prop where
  idempotent : mergeServiceConfiguration (some c.toJson) enabledModules = some c
  services : c.enabledServices.Nodup ∧ activeServiceType ∈ c.enabledServices
  ordering : c.serviceOrdering.Nodup ∧ activeServiceType ∈ c.serviceOrdering

theorem stable_of_merge (h : mergeServiceConfiguration value enabledModules = some c) :
    Stable enabledModules c := by
  obtain ⟨base, hbase, h⟩ := mergeRecord_eq_some_iff.mp h
  have hnormal := h.normal hbase
  exact ⟨hnormal.merge_toJson hbase,
    ⟨hnormal.enabledServices.nodup, hnormal.enabledServices.active⟩,
    ⟨hnormal.serviceOrdering.nodup, hnormal.serviceOrdering.active⟩⟩

/-- Nothing that the update leaves unset makes a difference. -/
def UnsetHarmless (s : ConfigurationStore) (organizationId : String) (dto : Properties) : Prop :=
  ∀ existing ∈ s.organizations.find? organizationId,
    ∀ base ∈ defaultServiceConfiguration (storedModules existing),
      ∀ previous ∈ normalForm s organizationId, UnsetAtDefault existing dto base previous

/-- Merging is stable and the two validations agree; and an update keeps the fields that it does
not set exactly where what it leaves unset makes no difference. -/
theorem update_keeps_iff
    (h : updateServiceConfiguration s user organizationId dto = .ok (s', answer)) :
    ((∀ value enabledModules c,
        mergeServiceConfiguration value enabledModules = some c → Stable enabledModules c) ∧
      ValidatedAlike s' organizationId user answer.validation ∧
      KeepsUnset s s' organizationId dto) ↔ UnsetHarmless s organizationId dto := by
  obtain ⟨existing, base, next, h⟩ := update_eq_ok h
  have hprevious : ∀ previous ∈ normalForm s organizationId,
      Merged (ownProperties (asRecord (storedConfiguration existing))) base previous := by
    intro previous hprevious
    rw [normalForm, h.found] at hprevious
    obtain ⟨base', hbase, hmerged⟩ := mergeRecord_eq_some_iff.mp hprevious
    obtain rfl := Option.some.inj (hbase.symm.trans h.defaults)
    exact hmerged
  constructor
  · rintro ⟨-, -, hkeeps⟩ row hrow base' hbase previous hnormal
    obtain rfl := Option.some.inj (hrow.symm.trans h.found)
    obtain rfl := Option.some.inj (hbase.symm.trans h.defaults)
    have hkept := hkeeps previous hnormal next h.normalForm_after
    refine ⟨fun name hname hordering howns hundefined => ?_, fun hunset => ?_⟩
    · exact (Merged.keeps_iff h.defaults (hprevious previous hnormal) h.merged hname hordering
        (.inr hundefined)).mp (hkept name hname (.inr hundefined)) howns hundefined
    · exact (Merged.keeps_ordering_iff (hprevious previous hnormal) h.merged hunset).mp
        (hkept "serviceOrdering" (by simp [configurationFields]) hunset)
  · intro hharmless
    refine ⟨fun _ _ _ => stable_of_merge, h.validatedAlike, ?_⟩
    intro previous hnormal next' hnext name hname hunset
    obtain rfl := Option.some.inj (hnext.symm.trans h.normalForm_after)
    have hdefault := hharmless existing h.found base h.defaults previous hnormal
    by_cases hordering : name = "serviceOrdering"
    · subst hordering
      exact (Merged.keeps_ordering_iff (hprevious previous hnormal) h.merged hunset).mpr
        (hdefault.ordering hunset)
    · exact (Merged.keeps_iff h.defaults (hprevious previous hnormal) h.merged hname hordering
        hunset).mpr (hdefault.defaults name hname hordering)

/-! ### A request that sets the branding only -/

namespace Example

/-- The administrator of an organization. -/
def ibadanAdmin : JwtUser where
  id := "u-ibadan-admin"
  role := .orgAdmin
  organizationId := some "org-ibadan"

/-- An organization that has two services, in an order of its own. -/
def ibadan : OrganizationRow where
  id := "org-ibadan"
  profileData := some (.obj [(profileConfigKey, .obj [
    ("enabledServices", servicesJson ["maintenance_report", "future_legal"]),
    ("serviceOrdering", servicesJson ["future_legal", "maintenance_report"])])])

/-- The store that holds it. -/
def ibadanStore : ConfigurationStore where
  organizations := ⟨[ibadan], by simp⟩

/-- The body of a request that sets the branding, as the class of the request has it: the fields
that it does not set are `undefined`. -/
def brandingOnly : Properties := configurationFields.map fun name =>
  (name, if name = "brandingOverrides" then some (.obj [("logo", .str "ibadan.svg")]) else none)

/-- The branding as an object of this field alone. -/
def brandingAlone : Properties :=
  [("brandingOverrides", some (.obj [("logo", .str "ibadan.svg")]))]

/-- A request that has no other field keeps the others. -/
theorem branding_alone_keeps : ∃ s' answer,
    updateServiceConfiguration ibadanStore ibadanAdmin "org-ibadan" brandingAlone =
        .ok (s', answer) ∧
      KeepsUnset ibadanStore s' "org-ibadan" brandingAlone := by
  have hok : (updateServiceConfiguration ibadanStore ibadanAdmin "org-ibadan"
      brandingAlone).toOption.isSome := by decide +kernel
  obtain ⟨⟨s', answer⟩, hresult⟩ := Option.isSome_iff_exists.mp hok
  have h := eq_ok_of_toOption hresult
  refine ⟨s', answer, h, ((update_keeps_iff h).mpr ?_).2.2⟩
  rintro existing hexisting base - previous -
  obtain rfl := Option.some.inj hexisting
  refine ⟨fun name _ _ howns hundefined => ?_, fun _ hnone => ?_⟩
  · obtain rfl : name = "brandingOverrides" := by
      simpa [brandingAlone, Properties.owns, eq_comm] using howns
    cases hundefined
  · exact nomatch hnone.resolve_left (by decide) _ rfl

/-- One that has the others undefined takes a service away. -/
theorem branding_resets_services : ¬∀ s user organizationId dto s' answer,
    updateServiceConfiguration s user organizationId dto = .ok (s', answer) →
      KeepsUnset s s' organizationId dto := by
  intro hall
  have hresult : ((updateServiceConfiguration ibadanStore ibadanAdmin "org-ibadan"
      brandingOnly).toOption.bind fun r => normalForm r.1 "org-ibadan").map
        (·.enabledServices) = some ["maintenance_report"] := by decide +kernel
  have hbefore : (normalForm ibadanStore "org-ibadan").map (·.enabledServices) =
      some ["maintenance_report", "future_legal"] := by decide +kernel
  obtain ⟨next, hnext, hservices⟩ := Option.map_eq_some_iff.mp hresult
  obtain ⟨⟨s', answer⟩, hok, hnext⟩ := Option.bind_eq_some_iff.mp hnext
  obtain ⟨previous, hprevious, hhad⟩ := Option.map_eq_some_iff.mp hbefore
  have hkept := hall _ _ _ _ _ _ (eq_ok_of_toOption hok) previous hprevious next hnext
    "enabledServices" (by decide) (.inr rfl)
  have hsame : next.enabledServices.map Json.str = previous.enabledServices.map Json.str :=
    Json.arr.inj (Option.some.inj hkept)
  rw [hservices, hhad] at hsame
  exact absurd (congrArg List.length hsame) (by decide)

end Example

end FixZone.PlatformConfigurationService
