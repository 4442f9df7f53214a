import FixZone.Library.JsText
import Mathlib.Data.List.Sort

/-!
# Routing jurisdictions

`organization/routing-jurisdiction.ts`: whether the places an organization is
responsible for, its active jurisdiction zones or else the legacy locality of the
organization itself, occur in the location text of a report.
-/

namespace FixZone.Organization

open Library

/-- The order `localeCompare` sorts by; it depends on the locale data of the host. -/
abbrev LocaleOrder := String → String → Bool

/-- `RoutingJurisdictionZone`. -/
structure RoutingJurisdictionZone where
  id : Option String := none
  name : Option String := none
  zoneType : Option String := none
  country : Option String := none
  state : Option String := none
  lga : Option String := none
  active : Option Bool := none
  deriving DecidableEq, Repr

/-- `RoutingOrganizationLocality`. -/
structure RoutingOrganizationLocality where
  country : Option String := none
  state : Option String := none
  lga : Option String := none
  address : Option String := none
  jurisdictionZones : List RoutingJurisdictionZone := []

/-- `RoutingLocationInput`; the coordinates take no part in the matching. -/
structure RoutingLocationInput where
  location : Option String := none
  locationName : Option String := none
  locationAddress : Option String := none
  locationLandmark : Option String := none
  description : Option String := none
  title : Option String := none

/-- Where the jurisdiction of a match comes from. -/
inductive JurisdictionSource where
  | jurisdictionZone | legacyOrganizationLocality | none
  deriving DecidableEq, Repr

/-- How narrow a jurisdiction is. -/
inductive JurisdictionLevel where
  | lga | state | country | none
  deriving DecidableEq, Repr

/-- Why a jurisdiction matched or did not. -/
inductive JurisdictionReason where
  | matchedLga | matchedState | matchedCountry | noJurisdictionConfigured
  | noComparableLocationText | jurisdictionMismatch
  deriving DecidableEq, Repr

/-- `legacyFallbackSummary`. -/
structure LegacyFallback where
  active : Bool
  country : Option String
  state : Option String
  lga : Option String
  address : Option String
  deriving DecidableEq, Repr

/-- `RoutingJurisdictionMatch`. -/
structure RoutingJurisdictionMatch where
  configured : Bool
  matched : Bool
  source : JurisdictionSource
  level : JurisdictionLevel
  comparableLocationAvailable : Bool
  locationText : String
  diagnosticText : String
  jurisdictionAreas : List String
  configuredZones : List RoutingJurisdictionZone
  legacyFallback : LegacyFallback
  reason : JurisdictionReason
  deriving DecidableEq, Repr

/-! ### Text -/

/-- `clean`: the trimmed text, or nothing for a blank one. -/
def clean (value : Option String) : Option String := trimmedOrNull value

/-- `normalizeLocationText`. -/
def normalizeLocationText (values : List (Option String)) : String :=
  let joined := String.intercalate " " (values.filterMap clean)
  let lowered := (toLowerCase joined).toList
  let replaced := replaceAll "federal capital territory".toList "fct".toList 0 lowered
  let spelled := replaceAll "&".toList " and ".toList 0 replaced
  let words := collapse isLowerAlnum ' ' false spelled
  trim (String.ofList (collapse (fun c => !isJsSpace c) ' ' false words))

/-- `routingLocationText`. -/
def routingLocationText (report : RoutingLocationInput) : String :=
  normalizeLocationText
    [report.location, report.locationName, report.locationAddress, report.locationLandmark]

/-- `routingDiagnosticLocationText`. -/
def routingDiagnosticLocationText (report : RoutingLocationInput) : String :=
  normalizeLocationText
    [report.location, report.locationName, report.locationAddress, report.locationLandmark,
      report.description, report.title]

/-- The pattern `place($|\s)` at the start of a text, ASCII letters in either case. -/
def startsWithPlace : List Char → List Char → Bool
  | [], [] => true
  | [], c :: _ => isJsSpace c
  | _ :: _, [] => false
  | p :: place, c :: text => p.toLower = c.toLower && startsWithPlace place text

/-- The pattern `(^|\s)place($|\s)` somewhere in a text; the flag says whether the
text starts at such a boundary. -/
def searchPlace (place : List Char) : Bool → List Char → Bool
  | _, [] => false
  | boundary, c :: text =>
    (boundary && startsWithPlace place (c :: text)) || searchPlace place (isJsSpace c) text

/-- `containsPlace`. A normalized place has no character that `escapeRegExp` escapes. -/
def containsPlace (locationText place : String) : Bool :=
  let normalizedPlace := normalizeLocationText [some place]
  normalizedPlace ≠ "" && searchPlace normalizedPlace.toList true locationText.toList

/-! ### Zones -/

/-- `activeRoutingJurisdictionZones`. -/
def activeRoutingJurisdictionZones (zones : List RoutingJurisdictionZone) :
    List RoutingJurisdictionZone :=
  zones.filter fun zone => zone.active ≠ some false

/-- `matchZone`: the narrowest place the zone names decides. -/
def matchZone (zone : RoutingJurisdictionZone) (locationText : String) :
    Option (JurisdictionLevel × JurisdictionReason) :=
  if locationText = "" then none
  else match clean zone.lga, clean zone.state, clean zone.country with
    | some lga, _, _ => if containsPlace locationText lga then some (.lga, .matchedLga) else none
    | none, some state, _ =>
      if containsPlace locationText state then some (.state, .matchedState) else none
    | none, none, some country =>
      if containsPlace locationText country then some (.country, .matchedCountry) else none
    | none, none, none => none

/-- `firstMatchedZone`. -/
def firstMatchedZone (zones : List RoutingJurisdictionZone) (locationText : String) :
    Option (JurisdictionLevel × JurisdictionReason) :=
  zones.findSome? fun zone => matchZone zone locationText

/-- `strongestConfiguredLevel`. -/
def strongestConfiguredLevel (zones : List RoutingJurisdictionZone) : JurisdictionLevel :=
  if zones.any fun zone => (clean zone.lga).isSome then .lga
  else if zones.any fun zone => (clean zone.state).isSome then .state
  else if zones.any fun zone => (clean zone.country).isSome then .country
  else .none

/-- `Array.from(new Set(values)).sort((a, b) => a.localeCompare(b))`. -/
def distinctSorted (locale : LocaleOrder) (values : List String) : List String :=
  (values.reverse.dedup.reverse).insertionSort fun a b => locale a b

/-- `zoneJurisdictionAreas`, with its `collectStringList`. -/
def zoneJurisdictionAreas (locale : LocaleOrder) (zones : List RoutingJurisdictionZone) :
    List String :=
  distinctSorted locale
    ((zones.flatMap fun zone => [zone.lga, zone.state, zone.country]).filterMap clean)

/-- `legacyFallbackZone`: the locality of an organization that names an LGA or a state. -/
def legacyFallbackZone (organization : RoutingOrganizationLocality) :
    Option RoutingJurisdictionZone :=
  if (clean organization.lga).isSome || (clean organization.state).isSome then
    some {
      name := some "Legacy organization locality"
      zoneType := some (if (clean organization.lga).isSome then "LGA" else "STATE")
      country := clean organization.country
      state := clean organization.state
      lga := clean organization.lga
      active := some true }
  else none

/-- `legacyFallbackSummary`. -/
def legacyFallbackSummary (organization : RoutingOrganizationLocality) (active : Bool) :
    LegacyFallback where
  active := active
  country := clean organization.country
  state := clean organization.state
  lga := clean organization.lga
  address := clean organization.address

/-- The zone as the result reports it. -/
def cleanZone (zone : RoutingJurisdictionZone) : RoutingJurisdictionZone :=
  { zone with
    name := clean zone.name
    zoneType := clean zone.zoneType
    country := clean zone.country
    state := clean zone.state
    lga := clean zone.lga }

/-- Why the zones looked at matched or did not. -/
def matchReason (found : Option (JurisdictionLevel × JurisdictionReason)) (comparable : Bool) :
    JurisdictionReason :=
  match found with
  | some (_, reason) => reason
  | none => if comparable then .jurisdictionMismatch else .noComparableLocationText

/-- `evaluateRoutingJurisdiction`. -/
def evaluateRoutingJurisdiction (locale : LocaleOrder) (organization : RoutingOrganizationLocality)
    (report : RoutingLocationInput) : RoutingJurisdictionMatch :=
  let activeZones := activeRoutingJurisdictionZones organization.jurisdictionZones
  let locationText := routingLocationText report
  let diagnosticText := routingDiagnosticLocationText report
  let comparableLocationAvailable : Bool := locationText ≠ ""
  let configuredZones := activeZones.map cleanZone
  if activeZones ≠ [] then
    let found := firstMatchedZone activeZones locationText
    { configured := true
      matched := found.isSome && comparableLocationAvailable
      source := .jurisdictionZone
      level := (found.map Prod.fst).getD (strongestConfiguredLevel activeZones)
      comparableLocationAvailable, locationText, diagnosticText
      jurisdictionAreas := zoneJurisdictionAreas locale activeZones
      configuredZones
      legacyFallback := legacyFallbackSummary organization false
      reason := matchReason found comparableLocationAvailable }
  else match legacyFallbackZone organization with
    | none =>
      { configured := false
        matched := false
        source := .none
        level := .none
        comparableLocationAvailable, locationText, diagnosticText
        jurisdictionAreas := []
        configuredZones
        legacyFallback := legacyFallbackSummary organization false
        reason := .noJurisdictionConfigured }
    | some legacy =>
      let found := matchZone legacy locationText
      { configured := true
        matched := found.isSome && comparableLocationAvailable
        source := .legacyOrganizationLocality
        level := (found.map Prod.fst).getD (strongestConfiguredLevel [legacy])
        comparableLocationAvailable, locationText, diagnosticText
        jurisdictionAreas := zoneJurisdictionAreas locale [legacy]
        configuredZones
        legacyFallback := legacyFallbackSummary organization true
        reason := matchReason found comparableLocationAvailable }

variable (locale : LocaleOrder) (organization : RoutingOrganizationLocality)
  (report : RoutingLocationInput)

/-- A jurisdiction is configured by an active zone, or by the locality of the organization. -/
theorem evaluateRoutingJurisdiction_configured :
    (evaluateRoutingJurisdiction locale organization report).configured =
      (!(activeRoutingJurisdictionZones organization.jurisdictionZones).isEmpty ||
        (legacyFallbackZone organization).isSome) := by
  unfold evaluateRoutingJurisdiction
  cases hzones : activeRoutingJurisdictionZones organization.jurisdictionZones with
  | cons zone zones => simp
  | nil => cases hlegacy : legacyFallbackZone organization <;> simp

theorem evaluateRoutingJurisdiction_comparable :
    (evaluateRoutingJurisdiction locale organization report).comparableLocationAvailable =
      decide (routingLocationText report ≠ "") := by
  unfold evaluateRoutingJurisdiction
  cases hzones : activeRoutingJurisdictionZones organization.jurisdictionZones with
  | cons zone zones => simp
  | nil => cases hlegacy : legacyFallbackZone organization <;> simp

/-- It matches when an active zone does, or without one the locality of the organization. -/
theorem evaluateRoutingJurisdiction_matched :
    (evaluateRoutingJurisdiction locale organization report).matched =
      ((if (activeRoutingJurisdictionZones organization.jurisdictionZones).isEmpty then
          (legacyFallbackZone organization).any fun zone =>
          (matchZone zone (routingLocationText report)).isSome
        else (firstMatchedZone (activeRoutingJurisdictionZones organization.jurisdictionZones)
          (routingLocationText report)).isSome) && decide (routingLocationText report ≠ "")) := by
  unfold evaluateRoutingJurisdiction
  cases hzones : activeRoutingJurisdictionZones organization.jurisdictionZones with
  | cons zone zones => simp
  | nil => cases hlegacy : legacyFallbackZone organization <;> simp

end FixZone.Organization
