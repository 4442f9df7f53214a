import FixZone.Library.Run
import FixZone.Organization.PlaceMatching
import FixZone.Organization.Readiness

/-!
# Stored jurisdiction zones

`createJurisdictionZone` and `updateJurisdictionZone`, with the columns
`buildJurisdictionZoneData` makes of a request. A request that names a type has to name the place
of that type too; an update that names no type may clear that place, and no request is asked about
the places that are narrower than its type, which `matchZone` looks at first.

So the stored zones stay well formed along a run exactly when no update clears the place of the
stored type, and no zone is left with a narrower place that a report can name
(`stored_zones_wellFormed_iff`).
-/

namespace FixZone.OrganizationService

open Library Organization
open ReportService (HttpError JwtUser forbidden notFound badRequest)

/-! ### Types of zones -/

/-- The values of `zoneType`. -/
inductive ZoneType where
  | country | state | lga
  deriving DecidableEq

/-- The text in the column. -/
def ZoneType.text : ZoneType → String
  | .country => "COUNTRY"
  | .state => "STATE"
  | .lga => "LGA"

/-- The level at which a zone of the type is to match. -/
def ZoneType.level : ZoneType → JurisdictionLevel
  | .country => .country
  | .state => .state
  | .lga => .lga

/-- `JurisdictionZone`, as it is stored. -/
structure JurisdictionZoneRow where
  id : String
  organizationId : Option String
  name : String
  zoneType : String
  country : Option String := some "Nigeria"
  state : Option String := none
  lga : Option String := none
  active : Bool := true
  metadata : Option Json := none
  createdById : Option String := none

/-- What the routing reads of it. -/
def JurisdictionZoneRow.routing (row : JurisdictionZoneRow) : RoutingJurisdictionZone where
  id := some row.id
  name := some row.name
  zoneType := some row.zoneType
  country := row.country
  state := row.state
  lga := row.lga
  active := some row.active

/-- The column that defines a zone of the type. -/
def ZoneType.field (type : ZoneType) (row : JurisdictionZoneRow) : Option String :=
  match type with
  | .country => row.country
  | .state => row.state
  | .lga => row.lga

/-! ### Requests -/

/-- `CreateJurisdictionZoneDto` and `UpdateJurisdictionZoneDto`. A place is left out, `null`, or a
text; for the other fields `null` counts as left out. -/
structure JurisdictionZoneDto where
  name : Option String := none
  zoneType : Option String := none
  country : Option (Option String) := none
  state : Option (Option String) := none
  lga : Option (Option String) := none
  active : Option Bool := none
  metadata : Option Json := none

/-- The columns that a request writes. -/
structure JurisdictionZoneData where
  name : Option String
  zoneType : Option String
  country : Option String
  state : Option (Option String)
  lga : Option (Option String)
  active : Option Bool
  metadata : Option Json

/-- The type a request names, or the empty text. -/
def JurisdictionZoneDto.type (dto : JurisdictionZoneDto) : String :=
  toUpperCase (trimmed dto.zoneType)

/-- A place a request sends. -/
def sentPlace (field : Option (Option String)) : Option String := trimmedOrNull field.join

/-- `defaultJurisdictionZoneName`. -/
def defaultJurisdictionZoneName (zoneType : String) (country state lga : Option String) : String :=
  if zoneType = "LGA" ∧ lga.isSome then lga.getD ""
  else if zoneType = "STATE" ∧ state.isSome then state.getD ""
  else if zoneType = "COUNTRY" ∧ country.isSome then country.getD ""
  else "Jurisdiction"

/-- The checks of `buildJurisdictionZoneData`. -/
def checkJurisdictionZone (dto : JurisdictionZoneDto) (creating : Bool) :
    Except HttpError Unit := do
  throwIf (creating ∧ dto.type = "") (badRequest "Jurisdiction zone type is required")
  throwIf (dto.type ≠ "" ∧ dto.type ∉ ["COUNTRY", "STATE", "LGA"])
    (badRequest "Jurisdiction zone type must be COUNTRY, STATE or LGA")
  throwIf (dto.type = "COUNTRY" ∧ sentPlace dto.country = none)
    (badRequest "Country jurisdiction requires country")
  throwIf (dto.type = "STATE" ∧ sentPlace dto.state = none)
    (badRequest "State jurisdiction requires state")
  throwIf (dto.type = "LGA" ∧ sentPlace dto.lga = none)
    (badRequest "LGA jurisdiction requires LGA")

/-- The name a request writes. -/
def zoneName (dto : JurisdictionZoneDto) (creating : Bool) : Option String :=
  let default := defaultJurisdictionZoneName dto.type (sentPlace dto.country)
    (sentPlace dto.state) (sentPlace dto.lga)
  match dto.name with
  | some name => some (if trim name = "" then default else trim name)
  | none => if creating then some default else none

/-- `buildJurisdictionZoneData`. -/
def buildJurisdictionZoneData (dto : JurisdictionZoneDto) (creating : Bool) :
    Except HttpError JurisdictionZoneData := do
  checkJurisdictionZone dto creating
  return {
    name := zoneName dto creating
    zoneType := if dto.type = "" then none else some dto.type
    country := if dto.country.isSome || creating then
      some ((sentPlace dto.country).getD "Nigeria") else none
    state := if dto.state.isSome || creating then some (sentPlace dto.state) else none
    lga := if dto.lga.isSome || creating then some (sentPlace dto.lga) else none
    active := dto.active
    metadata := dto.metadata }

/-! ### Operations -/

/-- `assertCanManageJurisdictionZones`. -/
def assertCanManageJurisdictionZones (id : String) (user : JwtUser) : Except HttpError Unit :=
  throwIf (user.role ≠ .superAdmin ∧ (user.role ≠ .orgAdmin ∨ user.organizationId ≠ some id))
    (forbidden "Jurisdiction management denied")

/-- The row `jurisdictionZone.create` makes of the columns. -/
def createdZone (id : String) (data : JurisdictionZoneData) (user : JwtUser) (newId : String) :
    JurisdictionZoneRow where
  id := newId
  organizationId := some id
  name := data.name.getD ""
  zoneType := data.zoneType.getD ""
  country := some (data.country.getD "Nigeria")
  state := data.state.getD none
  lga := data.lga.getD none
  active := data.active.getD true
  metadata := data.metadata
  createdById := some user.id

/-- The columns `jurisdictionZone.update` writes. -/
@[simp] def JurisdictionZoneData.patch (data : JurisdictionZoneData) :
    Patch JurisdictionZoneRow.id where
  apply row := { row with
    name := data.name.getD row.name
    zoneType := data.zoneType.getD row.zoneType
    country := data.country <|> row.country
    state := data.state.getD row.state
    lga := data.lga.getD row.lga
    active := data.active.getD row.active
    metadata := data.metadata <|> row.metadata }

/-- What the service stores of zones. -/
abbrev Zones := Table JurisdictionZoneRow.id

/-- `createJurisdictionZone`. -/
def createJurisdictionZone (zones : Zones) (id : String) (dto : JurisdictionZoneDto)
    (user : JwtUser) (newId : String) : Except HttpError Zones := do
  assertCanManageJurisdictionZones id user
  let data ← buildJurisdictionZoneData dto true
  throwIf (zones.find? newId).isSome
    { kind := .uniqueConstraint, message := "Unique constraint failed" }
  return zones.insert (createdZone id data user newId)

/-- `updateJurisdictionZone`. -/
def updateJurisdictionZone (zones : Zones) (id zoneId : String) (dto : JurisdictionZoneDto)
    (user : JwtUser) : Except HttpError Zones := do
  assertCanManageJurisdictionZones id user
  let existing ← orThrow (zones.find? zoneId) (notFound "Jurisdiction zone not found")
  throwIf (existing.organizationId ≠ some id) (notFound "Jurisdiction zone not found")
  let data ← buildJurisdictionZoneData dto false
  return zones.modify zoneId data.patch

/-- The operations on zones. -/
inductive ZoneOperation where
  | create (dto : JurisdictionZoneDto) (newId : String)
  | update (zoneId : String) (dto : JurisdictionZoneDto)

/-- A call of one of them, for the organization `id`. -/
structure ZoneCall where
  id : String
  user : JwtUser
  operation : ZoneOperation

/-- The answer to a call. -/
def ZoneCall.answer (zones : Zones) (call : ZoneCall) : Except HttpError Zones :=
  match call.operation with
  | .create dto newId => createJurisdictionZone zones call.id dto call.user newId
  | .update zoneId dto => updateJurisdictionZone zones call.id zoneId dto call.user

/-- The zones after a call. -/
def performZone (call : ZoneCall) (zones : Zones) : Zones :=
  match call.answer zones with
  | .ok zones' => zones'
  | .error _ => zones

/-! ### Well-formed zones -/

/-- A zone has the place of its type, and matches reports at the level of its type only. -/
structure WellFormed (row : JurisdictionZoneRow) : Prop where
  defined : ∀ type : ZoneType, row.zoneType = type.text → (clean (type.field row)).isSome
  level : ∀ type : ZoneType, row.zoneType = type.text → ∀ report found,
    matchZone row.routing (routingLocationText report) = some found → found.1 = type.level

/-- The first of the places of a zone that are narrower than its type. -/
def narrowerPlace (lga state : Option String) : ZoneType → Option String
  | .lga => none
  | .state => lga
  | .country => lga.or state

/-- No report can name a place narrower than the type: there is none, or nothing is left of it when
it is normalized. -/
def NoNarrowerPlace (type : ZoneType) (lga state : Option String) : Prop :=
  ∀ place ∈ narrowerPlace lga state type, tokens (normalizeLocationText [some place]) = []

/-- What a request sends for the column of a type. -/
def ZoneType.sent (type : ZoneType) (dto : JurisdictionZoneDto) : Option (Option String) :=
  match type with
  | .country => dto.country
  | .state => dto.state
  | .lga => dto.lga

/-- The place an update leaves: the one that is sent, or else the stored one. -/
def placeAfter (sent : Option (Option String)) (stored : Option String) : Option String :=
  if sent.isSome then sentPlace sent else clean stored

/-- The type an update leaves. -/
def typeAfter (dto : JurisdictionZoneDto) (existing : JurisdictionZoneRow) : String :=
  if dto.type = "" then existing.zoneType else dto.type

/-- An update names no type and sends a blank state for a zone of a state, or a blank LGA for one
of an LGA. -/
def ClearsPlace (dto : JurisdictionZoneDto) (existing : JurisdictionZoneRow) : Prop :=
  dto.type = "" ∧ ∃ type : ZoneType, type ≠ .country ∧ existing.zoneType = type.text ∧
    (type.sent dto).isSome ∧ sentPlace (type.sent dto) = none

/-- A call that is accepted clears no place of the stored type, and leaves no narrower place that a
report can name. -/
def KeepsWellFormed (zones : Zones) (call : ZoneCall) : Prop :=
  ∀ zones', call.answer zones = .ok zones' →
    match call.operation with
    | .create dto _ => ∀ type : ZoneType, dto.type = type.text →
        NoNarrowerPlace type (sentPlace dto.lga) (sentPlace dto.state)
    | .update zoneId dto => ∀ existing, zones.find? zoneId = some existing →
        ¬ ClearsPlace dto existing ∧
          ∀ type : ZoneType, typeAfter dto existing = type.text →
            NoNarrowerPlace type (placeAfter dto.lga existing.lga)
              (placeAfter dto.state existing.state)

variable {row existing : JurisdictionZoneRow} {type : ZoneType} {dto : JurisdictionZoneDto}
  {zones zones' : Zones}

/-! ### At which level a zone matches -/

theorem ZoneType.text_injective {type type' : ZoneType} (h : type.text = type'.text) :
    type = type' := by
  cases type <;> cases type' <;> first | rfl | exact absurd h (by decide)

/-- The level of the narrowest place a zone names. -/
def namedLevel (zone : RoutingJurisdictionZone) : JurisdictionLevel :=
  if (clean zone.lga).isSome then .lga
  else if (clean zone.state).isSome then .state
  else .country

/-- A zone matches at the level of the narrowest place it names. -/
theorem level_of_matchZone {zone : RoutingJurisdictionZone} {text : String}
    {found : JurisdictionLevel × JurisdictionReason} (h : matchZone zone text = some found) :
    found.1 = namedLevel zone := by
  unfold matchZone at h
  unfold namedLevel
  split at h
  · cases h
  · split at h
    · next hlga =>
      obtain ⟨-, h⟩ := Option.ite_none_right_eq_some.mp h
      rw [← Option.some.inj h]
      simp [hlga]
    · next hlga hstate =>
      obtain ⟨-, h⟩ := Option.ite_none_right_eq_some.mp h
      rw [← Option.some.inj h]
      simp [hlga, hstate]
    · next hlga hstate hcountry =>
      obtain ⟨-, h⟩ := Option.ite_none_right_eq_some.mp h
      rw [← Option.some.inj h]
      simp [hlga, hstate]
    · cases h

/-- Some report matches a zone exactly when its narrowest place has tokens. -/
theorem exists_matchZone_iff {zone : RoutingJurisdictionZone} :
    (∃ report, (matchZone zone (routingLocationText report)).isSome) ↔
      ∃ place ∈ namedPlace zone, tokens (normalizeLocationText [some place]) ≠ [] := by
  constructor
  · rintro ⟨report, h⟩
    obtain ⟨place, hplace, hne, -⟩ := (matchZone_isSome_iff zone _).mp h
    exact ⟨place, hplace, hne⟩
  · rintro ⟨place, hplace, hne⟩
    have hmissing : clean none = none := rfl
    have hcleaned : [some place, none, none, none].filterMap clean =
        [some place].filterMap clean := by
      simp [List.filterMap_cons, hmissing]
    have htext : routingLocationText { location := some place } =
        normalizeLocationText [some place] := by
      rw [routingLocationText, normalizeLocationText, hcleaned, ← normalizeLocationText]
    refine ⟨{ location := some place }, ?_⟩
    rw [htext, matchZone_isSome_iff]
    exact ⟨place, hplace, hne, List.infix_rfl⟩

/-- The level of a zone with the place of its type is right exactly when no narrower place can be
named. -/
theorem matches_at_level_iff (hdefined : (clean (type.field row)).isSome) :
    (∀ report found, matchZone row.routing (routingLocationText report) = some found →
      found.1 = type.level) ↔ NoNarrowerPlace type (clean row.lga) (clean row.state) := by
  have hlevel : (∀ report found, matchZone row.routing (routingLocationText report) = some found →
      found.1 = type.level) ↔
      (∀ place ∈ namedPlace row.routing, tokens (normalizeLocationText [some place]) ≠ [] →
        namedLevel row.routing = type.level) := by
    constructor
    · intro h place hplace hne
      obtain ⟨report, hmatch⟩ := exists_matchZone_iff.mpr ⟨place, hplace, hne⟩
      obtain ⟨found, hfound⟩ := Option.isSome_iff_exists.mp hmatch
      rw [← level_of_matchZone hfound]
      exact h report found hfound
    · intro h report found hfound
      obtain ⟨place, hplace, hne⟩ := exists_matchZone_iff.mp
        ⟨report, Option.isSome_iff_exists.mpr ⟨found, hfound⟩⟩
      rw [level_of_matchZone hfound]
      exact h place hplace hne
  rw [hlevel]
  have hlga : row.routing.lga = row.lga := rfl
  have hstate : row.routing.state = row.state := rfl
  have hcountry : row.routing.country = row.country := rfl
  unfold NoNarrowerPlace namedPlace namedLevel
  rw [hlga, hstate, hcountry]
  obtain ⟨place, hplace⟩ := Option.isSome_iff_exists.mp hdefined
  cases type with
  | lga =>
    have hplace : clean row.lga = some place := hplace
    simp [hplace, narrowerPlace, ZoneType.level]
  | state =>
    have hplace : clean row.state = some place := hplace
    cases hnarrower : clean row.lga with
    | none => simp [hplace, narrowerPlace, ZoneType.level]
    | some lga => simp [narrowerPlace, ZoneType.level]
  | country =>
    have hplace : clean row.country = some place := hplace
    cases hnarrower : clean row.lga with
    | some lga => simp [narrowerPlace, ZoneType.level]
    | none =>
      cases hnarrow : clean row.state with
      | some state => simp [narrowerPlace, ZoneType.level]
      | none => simp [narrowerPlace, ZoneType.level]

/-- A zone is well formed exactly when it has the place of its type, and no narrower one that can
be named. -/
theorem wellFormed_iff : WellFormed row ↔ ∀ type : ZoneType, row.zoneType = type.text →
    (clean (type.field row)).isSome ∧ NoNarrowerPlace type (clean row.lga) (clean row.state) := by
  constructor
  · intro h type htype
    have hdefined := h.defined type htype
    exact ⟨hdefined, (matches_at_level_iff hdefined).mp (h.level type htype)⟩
  · intro h
    refine ⟨fun type htype => (h type htype).1, fun type htype => ?_⟩
    obtain ⟨hdefined, hnarrower⟩ := h type htype
    exact (matches_at_level_iff hdefined).mpr hnarrower

/-! ### What a request writes -/

/-- What a request that passes the checks names. -/
theorem checkJurisdictionZone_eq_ok {creating : Bool}
    (h : checkJurisdictionZone dto creating = .ok ⟨⟩) :
    ∀ type : ZoneType, dto.type = type.text → sentPlace (type.sent dto) ≠ none := by
  unfold checkJurisdictionZone at h
  obtain ⟨-, h⟩ := throwIf_bind_eq_ok.mp h
  obtain ⟨-, h⟩ := throwIf_bind_eq_ok.mp h
  obtain ⟨hcountry, h⟩ := throwIf_bind_eq_ok.mp h
  obtain ⟨hstate, h⟩ := throwIf_bind_eq_ok.mp h
  have hlga := throwIf_eq_ok.mp h
  intro type htype hnone
  cases type with
  | country => exact hcountry ⟨htype, hnone⟩
  | state => exact hstate ⟨htype, hnone⟩
  | lga => exact hlga ⟨htype, hnone⟩

/-- A place that is sent is clean. -/
theorem clean_sentPlace (field : Option (Option String)) :
    clean (sentPlace field) = sentPlace field := by
  unfold clean
  cases hsent : sentPlace field with
  | none => rfl
  | some place => exact trimmedOrNull_of_eq hsent

theorem isSome_clean_country (field : Option (Option String)) :
    (clean (some ((sentPlace field).getD "Nigeria"))).isSome := by
  have hsent := clean_sentPlace field
  cases hplace : sentPlace field with
  | none => decide
  | some place =>
    rw [hplace] at hsent
    rw [Option.getD_some, hsent, Option.isSome_some]

/-- The columns of a request that passes the checks. -/
theorem buildJurisdictionZoneData_eq_ok {data : JurisdictionZoneData} {creating : Bool}
    (h : buildJurisdictionZoneData dto creating = .ok data) :
    checkJurisdictionZone dto creating = .ok ⟨⟩ ∧
      data.zoneType = (if dto.type = "" then none else some dto.type) ∧
      data.country = (if dto.country.isSome || creating then
        some ((sentPlace dto.country).getD "Nigeria") else none) ∧
      data.state = (if dto.state.isSome || creating then some (sentPlace dto.state) else none) ∧
      data.lga = (if dto.lga.isSome || creating then some (sentPlace dto.lga) else none) := by
  obtain ⟨hcheck, h⟩ := check_bind_eq_ok.mp h
  obtain rfl := pure_eq_ok.mp h
  dsimp only
  exact ⟨hcheck, rfl, rfl, rfl, rfl⟩

/-- A zone that is created is well formed exactly when no narrower place is sent that can be
named. -/
theorem wellFormed_createdZone_iff {data : JurisdictionZoneData} {id newId : String}
    {user : JwtUser} (h : buildJurisdictionZoneData dto true = .ok data) :
    WellFormed (createdZone id data user newId) ↔ ∀ type : ZoneType, dto.type = type.text →
      NoNarrowerPlace type (sentPlace dto.lga) (sentPlace dto.state) := by
  obtain ⟨hcheck, htype, hcountry, hstate, hlga⟩ := buildJurisdictionZoneData_eq_ok h
  simp only [Bool.or_true, if_true] at hcountry hstate hlga
  have hzoneType : (createdZone id data user newId).zoneType = dto.type := by
    dsimp only [createdZone]
    rw [htype]
    split_ifs with hempty
    · rw [Option.getD_none, hempty]
    · rw [Option.getD_some]
  have hplaces : clean (createdZone id data user newId).lga = sentPlace dto.lga ∧
      clean (createdZone id data user newId).state = sentPlace dto.state := by
    dsimp only [createdZone]
    rw [hlga, hstate, Option.getD_some, Option.getD_some]
    exact ⟨clean_sentPlace _, clean_sentPlace _⟩
  rw [wellFormed_iff, hzoneType, hplaces.1, hplaces.2]
  refine forall₂_congr fun type hnamed => and_iff_right ?_
  have hsent := checkJurisdictionZone_eq_ok hcheck type hnamed
  cases type with
  | country =>
    dsimp only [ZoneType.field, createdZone]
    rw [hcountry, Option.getD_some]
    exact isSome_clean_country dto.country
  | state =>
    have hfield : clean (ZoneType.state.field (createdZone id data user newId)) =
        sentPlace dto.state := hplaces.2
    rw [hfield]
    exact Option.isSome_iff_ne_none.mpr hsent
  | lga =>
    have hfield : clean (ZoneType.lga.field (createdZone id data user newId)) =
        sentPlace dto.lga := hplaces.1
    rw [hfield]
    exact Option.isSome_iff_ne_none.mpr hsent

/-- An optional place after an update. -/
theorem clean_updated (sent : Option (Option String)) (stored : Option String) :
    clean ((if sent.isSome then some (sentPlace sent) else none).getD stored) =
      placeAfter sent stored := by
  unfold placeAfter
  split
  · rw [Option.getD_some, clean_sentPlace]
  · rw [Option.getD_none]

/-- The place of the type is there after an update exactly when the update does not clear it. -/
theorem isSome_placeAfter_iff {sent : Option (Option String)} {stored : Option String}
    (h : (clean stored).isSome) :
    (placeAfter sent stored).isSome ↔ ¬ (sent.isSome ∧ sentPlace sent = none) := by
  unfold placeAfter
  split
  · next hsent => simp [hsent, Option.isSome_iff_ne_none]
  · next hnot => simp [hnot, h]

/-- A place that is sent is there after the update. -/
theorem isSome_placeAfter_of_sent {sent : Option (Option String)} (h : sentPlace sent ≠ none)
    (stored : Option String) : (placeAfter sent stored).isSome := by
  cases sent with
  | none => exact absurd rfl h
  | some text =>
    rw [placeAfter, Option.isSome_some, if_pos rfl]
    exact Option.isSome_iff_ne_none.mpr h

/-- The country after an update: a blank one counts as Nigeria. -/
theorem isSome_updated_country {sent : Option (Option String)} {stored : Option String}
    (h : sent.isSome ∨ (clean stored).isSome) :
    (clean ((if sent.isSome then some ((sentPlace sent).getD "Nigeria") else none) <|>
      stored)).isSome := by
  split
  · exact isSome_clean_country sent
  · next hnot => exact h.resolve_left hnot

/-- What an update leaves of a zone. -/
structure Updated (dto : JurisdictionZoneDto) (existing row : JurisdictionZoneRow) : Prop where
  type : row.zoneType = typeAfter dto existing
  country : dto.country.isSome ∨ (clean existing.country).isSome → (clean row.country).isSome
  place : ∀ type : ZoneType, type ≠ .country →
    clean (type.field row) = placeAfter (type.sent dto) (type.field existing)

theorem updated_patch {data : JurisdictionZoneData}
    (h : buildJurisdictionZoneData dto false = .ok data) (existing : JurisdictionZoneRow) :
    Updated dto existing (data.patch.apply existing) := by
  obtain ⟨-, htype, hcountry, hstate, hlga⟩ := buildJurisdictionZoneData_eq_ok h
  simp only [Bool.or_false] at hcountry hstate hlga
  dsimp only [JurisdictionZoneData.patch]
  rw [htype, hcountry, hstate, hlga]
  refine ⟨?_, isSome_updated_country, fun type hne => ?_⟩
  · dsimp only
    unfold typeAfter
    split
    · rw [Option.getD_none]
    · rw [Option.getD_some]
  · cases type with
    | country => exact absurd rfl hne
    | state => exact clean_updated _ _
    | lga => exact clean_updated _ _

/-- After an update the place of the type is there exactly when the update does not clear it. -/
theorem Updated.defined_iff (h : Updated dto existing row) (hexisting : WellFormed existing)
    (hsent : ∀ type : ZoneType, dto.type = type.text → sentPlace (type.sent dto) ≠ none)
    (htype : typeAfter dto existing = type.text) :
    (clean (type.field row)).isSome ↔ ¬ (dto.type = "" ∧ type ≠ .country ∧
      (type.sent dto).isSome ∧ sentPlace (type.sent dto) = none) := by
  unfold typeAfter at htype
  split at htype
  · next hempty =>
    have hstored := hexisting.defined type htype
    by_cases hcountry : type = .country
    · subst hcountry
      exact iff_of_true (h.country (.inr hstored)) fun hclears => hclears.2.1 rfl
    · rw [h.place type hcountry, isSome_placeAfter_iff hstored]
      simp [hempty, hcountry]
  · next hnamed =>
    refine iff_of_true ?_ fun hclears => hnamed hclears.1
    have hplace := hsent type htype
    by_cases hcountry : type = .country
    · subst hcountry
      refine h.country (.inl ?_)
      cases hfield : dto.country with
      | some text => rfl
      | none =>
        rw [ZoneType.sent, hfield] at hplace
        exact absurd rfl hplace
    · rw [h.place type hcountry]
      exact isSome_placeAfter_of_sent hplace _

/-- A zone that is updated stays well formed exactly when the update does not clear the place of
its type, and leaves no narrower place that can be named. -/
theorem wellFormed_updated_iff {data : JurisdictionZoneData} (hexisting : WellFormed existing)
    (h : buildJurisdictionZoneData dto false = .ok data) :
    WellFormed (data.patch.apply existing) ↔ ¬ ClearsPlace dto existing ∧
      ∀ type : ZoneType, typeAfter dto existing = type.text →
        NoNarrowerPlace type (placeAfter dto.lga existing.lga)
          (placeAfter dto.state existing.state) := by
  have hupdated := updated_patch h existing
  have hsent := checkJurisdictionZone_eq_ok (buildJurisdictionZoneData_eq_ok h).1
  have hlga : clean (data.patch.apply existing).lga = placeAfter dto.lga existing.lga :=
    hupdated.place .lga (by decide)
  have hstate : clean (data.patch.apply existing).state = placeAfter dto.state existing.state :=
    hupdated.place .state (by decide)
  rw [wellFormed_iff, hupdated.type, hlga, hstate]
  simp only [forall_and]
  refine and_congr_left fun _ => ?_
  constructor
  · rintro hdefined ⟨hempty, type, hne, hstored, hsome, hblank⟩
    have htype : typeAfter dto existing = type.text := by rw [typeAfter, if_pos hempty, hstored]
    exact (hupdated.defined_iff hexisting hsent htype).mp (hdefined type htype)
      ⟨hempty, hne, hsome, hblank⟩
  · intro hkeeps type htype
    refine (hupdated.defined_iff hexisting hsent htype).mpr fun hclears => hkeeps ?_
    obtain ⟨hempty, hne, hsome, hblank⟩ := hclears
    rw [typeAfter, if_pos hempty] at htype
    exact ⟨hempty, type, hne, htype, hsome, hblank⟩

/-! ### Runs -/

/-- All stored zones are well formed. -/
def ZonesWellFormed (zones : Zones) : Prop := ∀ row ∈ zones.rows, WellFormed row

theorem performZone_wellFormed_iff {call : ZoneCall} (h : ZonesWellFormed zones) :
    ZonesWellFormed (performZone call zones) ↔ KeepsWellFormed zones call := by
  unfold performZone KeepsWellFormed
  cases hanswer : call.answer zones with
  | error e => exact iff_of_true h fun zones' hok => by cases hok
  | ok zones' =>
    simp only [Except.ok.injEq, forall_eq']
    unfold ZoneCall.answer at hanswer
    cases hoperation : call.operation with
    | create dto newId =>
      rw [hoperation] at hanswer
      obtain ⟨-, hanswer⟩ := check_bind_eq_ok.mp hanswer
      obtain ⟨data, hdata, hanswer⟩ := bind_eq_ok.mp hanswer
      obtain ⟨hfree, hanswer⟩ := throwIf_bind_eq_ok.mp hanswer
      rw [← pure_eq_ok.mp hanswer]
      rw [Bool.not_eq_true, Option.isSome_eq_false_iff, Option.isNone_iff_eq_none] at hfree
      have hfree' : zones.find? (createdZone call.id data call.user newId).id = none := hfree
      exact (Table.forall_rows_insert_iff h hfree').trans (wellFormed_createdZone_iff hdata)
    | update zoneId dto =>
      rw [hoperation] at hanswer
      obtain ⟨-, hanswer⟩ := check_bind_eq_ok.mp hanswer
      obtain ⟨existing, hfound, hanswer⟩ := orThrow_bind_eq_ok.mp hanswer
      obtain ⟨-, hanswer⟩ := throwIf_bind_eq_ok.mp hanswer
      obtain ⟨data, hdata, hanswer⟩ := bind_eq_ok.mp hanswer
      rw [← pure_eq_ok.mp hanswer]
      simp only [hfound, Option.some.injEq, forall_eq']
      have hexisting := h existing (Table.mem_of_find? hfound)
      exact (Table.forall_rows_modify_iff h hfound).trans
        (wellFormed_updated_iff hexisting hdata)

/-- **Stored zones.** From well-formed zones on, the zones stay well formed throughout a run exactly
when no accepted call clears the place of the stored type or leaves a narrower place that a report
can name. -/
theorem stored_zones_wellFormed_iff (zones : Zones) (h : ZonesWellFormed zones)
    (calls : List ZoneCall) :
    Throughout performZone ZonesWellFormed zones calls ↔
      Along performZone KeepsWellFormed zones calls :=
  throughout_iff_along (fun _ _ h => performZone_wellFormed_iff h) h calls

namespace Example

def superAdmin : JwtUser := { id := "zone-keeper", role := .superAdmin }

/-- A zone for Lagos is created. -/
def createsLagos : ZoneCall where
  id := "lawma"
  user := superAdmin
  operation := .create { zoneType := some "STATE", state := some (some "Lagos") } "zone"

/-- It is for Ogun from then on. -/
def movesToOgun : ZoneCall where
  id := "lawma"
  user := superAdmin
  operation := .update "zone" { state := some (some "Ogun") }

/-- A stored zone for a part of Lagos. -/
def ikeja : JurisdictionZoneRow where
  id := "ikeja"
  organizationId := some "lawma"
  name := "Ikeja"
  zoneType := "LGA"
  state := some "Lagos"
  lga := some "Ikeja"

def storedZones : Zones := ⟨[ikeja], List.nodup_singleton _⟩

theorem storedZones_wellFormed : ZonesWellFormed storedZones := by
  intro row hrow
  obtain rfl := List.mem_singleton.mp hrow
  refine wellFormed_iff.mpr fun type htype => ?_
  obtain rfl : type = .lga := ZoneType.text_injective htype.symm
  exact ⟨rfl, nofun⟩

/-- Its state is sent blank afterwards. -/
def blanksState : ZoneCall where
  id := "lawma"
  user := superAdmin
  operation := .update "zone" { state := some (some "") }

end Example

open Example in
/-- A zone for Lagos is well formed beside that for Ikeja, and so it is for Ogun. -/
theorem lagos_zone_wellFormed :
    Throughout performZone ZonesWellFormed storedZones [createsLagos, movesToOgun] := by
  refine (stored_zones_wellFormed_iff storedZones storedZones_wellFormed
    [createsLagos, movesToOgun]).mpr ⟨?_, ?_, trivial⟩
  · rintro zones' - type htype place hplace
    cases type with
    | country => exact absurd htype (by decide)
    | state => cases hplace
    | lga => cases hplace
  · rintro zones' - existing hfound
    obtain rfl := Option.some.inj hfound
    refine ⟨?_, fun type htype place hplace => ?_⟩
    · rintro ⟨-, type, hne, htype, hsent, hblank⟩
      cases type with
      | country => exact hne rfl
      | state => exact absurd hblank (by decide)
      | lga => exact absurd hsent (by decide)
    · cases type with
      | country => exact absurd htype (by decide)
      | state => cases hplace
      | lga => cases hplace

open Example in
/-- An update that sends a blank state leaves a zone of a state without one. -/
theorem blank_state_accepted :
    ¬ ∀ (zones : Zones) (calls : List ZoneCall), ZonesWellFormed zones →
      Throughout performZone ZonesWellFormed zones calls := by
  intro h
  have hlast := throughout_iff.mp (h (Table.empty _) [createsLagos, blanksState]
    (fun _ hmem => by cases hmem)) [createsLagos, blanksState] [] rfl
  have hcleared : (run performZone (Table.empty _) [createsLagos, blanksState]).rows.any
      (fun row => row.zoneType = ZoneType.state.text && row.state.isNone) = true := by
    decide +kernel
  obtain ⟨row, hmem, hrow⟩ := List.any_eq_true.mp hcleared
  rw [Bool.and_eq_true, decide_eq_true_eq, Option.isNone_iff_eq_none] at hrow
  have hdefined : (clean row.state).isSome := (hlast row hmem).defined .state hrow.1
  rw [hrow.2] at hdefined
  exact absurd hdefined (by decide)

end FixZone.OrganizationService
