import FixZone.Report.Model

/-!
# Trust in the location of evidence

`GeoTrustService` compares the location that a client sends with the one of the report and
settles on an outcome. The outcome is chosen by a cascade in which the source comes first:
a payload of the source `LEGACY` is left unassessed whatever was found out about it, and
every other payload that is too far away is recommended for review
(`completion_outcome`).

The numbers are those of the runtime. Nothing about their arithmetic is assumed, nor about the
distance of two points, so what is proved holds of floating-point numbers as of any others.
-/

namespace FixZone.GeoTrustService

open Library ReportService

/-! ### Values -/

/-- `GeoSource`. -/
inductive GeoSource where
  | deviceGps | browserGeolocation | userSelectedMap | exif | legacy | unavailable
  deriving DecidableEq, Repr

/-- `GeoCaptureMethod`. -/
inductive GeoCaptureMethod where
  | deviceSensor | browserApi | mapSelection | photoExif | legacyImport | notProvided
  deriving DecidableEq, Repr

/-- `GeoPermissionState`. -/
inductive GeoPermissionState where
  | granted | denied | prompt | unavailable | unknown
  deriving DecidableEq, Repr

/-- `GeoValidationOutcome`. -/
inductive GeoValidationOutcome where
  | valid | insufficientLocationData | invalidMetadata
  deriving DecidableEq, Repr

/-- `GeoTrustOutcome`. -/
inductive GeoTrustOutcome where
  | consistent | reviewRecommended | insufficientLocationData | invalidMetadata | legacyUnassessed
  deriving DecidableEq, Repr

/-- A member of `GEO_SOURCES`. -/
def GeoSource.ofText? : String → Option GeoSource
  | "DEVICE_GPS" => some .deviceGps
  | "BROWSER_GEOLOCATION" => some .browserGeolocation
  | "USER_SELECTED_MAP" => some .userSelectedMap
  | "EXIF" => some .exif
  | "LEGACY" => some .legacy
  | "UNAVAILABLE" => some .unavailable
  | _ => none

/-- A member of `CAPTURE_METHODS`. -/
def GeoCaptureMethod.ofText? : String → Option GeoCaptureMethod
  | "DEVICE_SENSOR" => some .deviceSensor
  | "BROWSER_API" => some .browserApi
  | "MAP_SELECTION" => some .mapSelection
  | "PHOTO_EXIF" => some .photoExif
  | "LEGACY_IMPORT" => some .legacyImport
  | "NOT_PROVIDED" => some .notProvided
  | _ => none

/-- A member of `PERMISSION_STATES`. -/
def GeoPermissionState.ofText? : String → Option GeoPermissionState
  | "GRANTED" => some .granted
  | "DENIED" => some .denied
  | "PROMPT" => some .prompt
  | "UNAVAILABLE" => some .unavailable
  | "UNKNOWN" => some .unknown
  | _ => none

/-- What the language gives: its numbers, the reading of dates, and the haversine formula of
`distanceMeters`, of the latitude and the longitude of two points. -/
structure Runtime (ν : Type) where
  ofInt : ℤ → ν
  isFinite : ν → Bool
  less : ν → ν → Bool
  add : ν → ν → ν
  text : ν → String
  /-- Milliseconds over 60000. -/
  minutes : ℤ → ν
  parseDate : String → Option Millis
  haversine : ν → ν → ν → ν → ν

/-- A value of type `unknown`. -/
inductive Unknown (ν : Type) where
  | undefined
  | null
  | bool (b : Bool)
  | number (n : ν)
  | text (s : String)
  | object

/-- An object with the metadata of a photo. -/
structure ExifInput (ν : Type) where
  latitude : Unknown ν := .undefined
  longitude : Unknown ν := .undefined
  capturedAt : Unknown ν := .undefined

/-- `GeoInput`. The metadata of the photo are there when they are an object and no array. -/
structure GeoInput (ν : Type) where
  latitude : Unknown ν := .undefined
  longitude : Unknown ν := .undefined
  accuracyMeters : Unknown ν := .undefined
  capturedAt : Unknown ν := .undefined
  source : Unknown ν := .undefined
  captureMethod : Unknown ν := .undefined
  permissionState : Unknown ν := .undefined
  exif : Option (ExifInput ν) := none

/-- `Point`. -/
structure Point (ν : Type) where
  latitude : Option ν
  longitude : Option ν
  accuracyMeters : Option ν := none

/-- The metadata of a photo, read. -/
structure Exif (ν : Type) where
  latitude : Option ν
  longitude : Option ν
  capturedAt : Option Millis

/-- `NormalizedGeoMetadata`. -/
structure NormalizedGeoMetadata (ν : Type) where
  latitude : Option ν
  longitude : Option ν
  accuracyMeters : Option ν
  capturedAt : Option Millis
  receivedAt : Millis
  source : GeoSource
  captureMethod : GeoCaptureMethod
  permissionState : GeoPermissionState
  validationOutcome : GeoValidationOutcome
  trustOutcome : GeoTrustOutcome
  distanceMeters : Option ν
  warnings : List String
  validationReasons : List String
  exif : Option (Exif ν)

variable {ν : Type} (rt : Runtime ν)

/-- `envNumber`, of what `Number` makes of the variable. -/
def envNumber (parsed : ν) (fallback : ℤ) : ν :=
  if rt.isFinite parsed && rt.less (rt.ofInt 0) parsed then parsed else rt.ofInt fallback

/-- The settings of the service. -/
structure GeoSettings (ν : Type) where
  maxAccuracyMeters : ν
  warningDistanceMeters : ν
  staleCaptureMinutes : ν
  conflictDistanceMeters : ν

/-- The settings, from the environment as numbers. -/
def geoSettings (env : String → ν) : GeoSettings ν where
  maxAccuracyMeters := envNumber rt (env "FIXZONE_GEO_MAX_ACCURACY_METERS") 10000
  warningDistanceMeters := envNumber rt (env "FIXZONE_GEO_WARNING_DISTANCE_METERS") 250
  staleCaptureMinutes := envNumber rt (env "FIXZONE_GEO_STALE_CAPTURE_MINUTES") 1440
  conflictDistanceMeters := envNumber rt (env "FIXZONE_GEO_EXIF_CONFLICT_DISTANCE_METERS") 100

/-! ### Reading the payload -/

/-- The exception for metadata. -/
def invalidMetadata (message : String) : HttpError :=
  { kind := .badRequest, message, code := some "INVALID_GEO_METADATA" }

/-- The exception for an accuracy. -/
def invalidAccuracy (message : String) : HttpError :=
  { kind := .badRequest, message, code := some "INVALID_GEO_ACCURACY" }

/-- `coordinate`. -/
def coordinate (value : Unknown ν) (min max : ℤ) (label : String) : Except HttpError (Option ν) :=
  match value with
  | .undefined | .null | .text "" => .ok none
  | .number n =>
    if !rt.isFinite n then .error (invalidMetadata (label ++ " must be a finite number."))
    else if rt.less n (rt.ofInt min) || rt.less (rt.ofInt max) n then
      .error (invalidMetadata (label ++ " is outside the valid range."))
    else .ok (some n)
  | _ => .error (invalidMetadata (label ++ " must be a finite number."))

/-- `accuracy`. -/
def accuracy (value : Unknown ν) : Except HttpError (Option ν) :=
  match value with
  | .undefined | .null | .text "" => .ok none
  | .number n =>
    if !rt.isFinite n || rt.less n (rt.ofInt 0) then
      .error (invalidAccuracy "Location accuracy must be a finite non-negative number.")
    else .ok (some n)
  | _ => .error (invalidAccuracy "Location accuracy must be a finite non-negative number.")

/-- `date`. -/
def date (value : Unknown ν) (label : String) : Except HttpError (Option Millis) :=
  match value with
  | .undefined | .null | .text "" => .ok none
  | .text s =>
    match rt.parseDate s with
    | some millis => .ok (some millis)
    | none => .error (invalidMetadata (label ++ " must be a valid ISO date string."))
  | _ => .error (invalidMetadata (label ++ " must be an ISO date string."))

/-- A value, where it is a text that a set of texts has. -/
def Unknown.member? {α : Type} (ofText? : String → Option α) : Unknown ν → Option α
  | .text s => ofText? s
  | _ => none

/-- `source`. -/
def source (value : Unknown ν) (hasCoordinates : Bool) : GeoSource :=
  (value.member? GeoSource.ofText?).getD (if hasCoordinates then .deviceGps else .unavailable)

/-- `captureMethod`. -/
def captureMethod (value : Unknown ν) (source : GeoSource) : GeoCaptureMethod :=
  (value.member? GeoCaptureMethod.ofText?).getD
    (match source with
    | .browserGeolocation => .browserApi
    | .userSelectedMap => .mapSelection
    | .exif => .photoExif
    | .legacy => .legacyImport
    | .deviceGps => .deviceSensor
    | .unavailable => .notProvided)

/-- `permissionState`. -/
def permissionState (value : Unknown ν) : GeoPermissionState :=
  (value.member? GeoPermissionState.ofText?).getD .unknown

/-- `exif`. -/
def exif (value : Option (ExifInput ν)) : Except HttpError (Option (Exif ν)) :=
  match value with
  | none => .ok none
  | some record => do
    let latitude ← coordinate rt record.latitude (-90) 90 "exif.latitude"
    let longitude ← coordinate rt record.longitude (-180) 180 "exif.longitude"
    let capturedAt ← date rt record.capturedAt "exif.capturedAt"
    return some { latitude, longitude, capturedAt }

/-- `hasCoordinates`. -/
def hasCoordinates (point : Point ν) : Bool :=
  point.latitude.any rt.isFinite && point.longitude.any rt.isFinite

/-- `distanceMeters`. -/
def distanceMeters (a b : Point ν) : Option ν :=
  if !hasCoordinates rt a || !hasCoordinates rt b then none
  else do
    let latitude ← a.latitude
    let longitude ← a.longitude
    let latitude' ← b.latitude
    let longitude' ← b.longitude
    return rt.haversine latitude longitude latitude' longitude'

/-- `[...new Set(reasons)]`. -/
def distinct (reasons : List String) : List String :=
  reasons.foldl (fun seen reason => if reason ∈ seen then seen else seen ++ [reason]) []

/-! ### The assessment -/

variable (settings : GeoSettings ν)

/-- The tolerance of a comparison with a report. -/
def tolerance (accuracyMeters : Option ν) (report : Point ν) : ν :=
  rt.add (rt.add settings.warningDistanceMeters (accuracyMeters.getD (rt.ofInt 0)))
    (report.accuracyMeters.getD (rt.ofInt 0))

/-- The warnings of `normalize`. -/
def warnings (latitude longitude accuracyMeters : Option ν) (capturedAt : Option Millis)
    (exif : Option (Exif ν)) (distance : Option ν) (report : Point ν) (receivedAt : Millis) :
    List String :=
  (if accuracyMeters.any fun meters => rt.less settings.warningDistanceMeters meters then
    ["LOW_LOCATION_ACCURACY"] else []) ++
  (if capturedAt.any fun captured =>
      rt.less settings.staleCaptureMinutes (rt.minutes |receivedAt - captured|) then
    ["CAPTURE_TIME_DISTANT_FROM_UPLOAD"] else []) ++
  (if exif.any fun photo =>
      photo.latitude.isSome && photo.longitude.isSome && latitude.isSome && longitude.isSome &&
        (distanceMeters rt ⟨latitude, longitude, none⟩ ⟨photo.latitude, photo.longitude, none⟩).any
          fun meters => rt.less settings.conflictDistanceMeters meters then
    ["DEVICE_AND_EXIF_LOCATION_CONFLICT"] else []) ++
  (if distance.any fun meters => rt.less (tolerance rt settings accuracyMeters report) meters then
    ["DISTANCE_EXCEEDS_THRESHOLD"] else [])

/-- The reasons of `normalize`. -/
def reasons (latitude longitude : Option ν) (permissionState : GeoPermissionState)
    (distance : Option ν) (report : Option (Point ν)) : List String :=
  let located := latitude.isSome && longitude.isSome
  (if located then []
    else if permissionState = .denied then ["LOCATION_PERMISSION_DENIED"]
    else ["COORDINATES_NOT_SUPPLIED"]) ++
  (if distance.isSome then []
    else if report.any (hasCoordinates rt) && !located then ["COMPLETION_LOCATION_UNAVAILABLE"]
    else if report.any (fun point => !hasCoordinates rt point) then
      ["REPORT_LOCATION_UNAVAILABLE"]
    else [])

/-- The outcome of `normalize`. -/
def trustOutcome (source : GeoSource) (reasons warnings : List String)
    (validationOutcome : GeoValidationOutcome) : GeoTrustOutcome :=
  if source = .legacy then .legacyUnassessed
  else if reasons.contains "REPORT_LOCATION_UNAVAILABLE" then .insufficientLocationData
  else if validationOutcome = .valid then
    if warnings.isEmpty then .consistent else .reviewRecommended
  else .insufficientLocationData

/-- `normalize`. -/
def normalize (input : GeoInput ν) (report : Option (Point ν)) (receivedAt : Millis) :
    Except HttpError (NormalizedGeoMetadata ν) := do
  let permission := permissionState input.permissionState
  let latitude ← coordinate rt input.latitude (-90) 90 "latitude"
  let longitude ← coordinate rt input.longitude (-180) 180 "longitude"
  throwIf (latitude.isSome ≠ longitude.isSome)
    (invalidMetadata "Latitude and longitude must be supplied together.")
  let accuracyMeters ← accuracy rt input.accuracyMeters
  throwIf (accuracyMeters.any fun meters => rt.less settings.maxAccuracyMeters meters)
    (invalidAccuracy ("Location accuracy must be " ++ rt.text settings.maxAccuracyMeters ++
      " metres or less."))
  let capturedAt ← date rt input.capturedAt "capturedAt"
  let located := latitude.isSome && longitude.isSome
  let source := source input.source located
  let photo ← exif rt input.exif
  let distance := report.bind fun point =>
    if located then distanceMeters rt ⟨latitude, longitude, none⟩ point else none
  let reasons := reasons rt latitude longitude permission distance report
  let warnings := warnings rt settings latitude longitude accuracyMeters capturedAt photo distance
    (report.getD ⟨none, none, none⟩) receivedAt
  let validationOutcome : GeoValidationOutcome :=
    if located then .valid else .insufficientLocationData
  return {
    latitude
    longitude
    accuracyMeters
    capturedAt
    receivedAt
    source
    captureMethod := captureMethod input.captureMethod source
    permissionState := permission
    validationOutcome
    trustOutcome := trustOutcome source reasons warnings validationOutcome
    distanceMeters := distance
    warnings
    validationReasons := distinct reasons
    exif := photo }

/-- `normalizeReportLocation`. -/
def normalizeReportLocation (input : GeoInput ν) (now : Millis) :
    Except HttpError (NormalizedGeoMetadata ν) :=
  normalize rt settings input none now

/-- `assessCompletion`. -/
def assessCompletion (input : GeoInput ν) (report : Point ν) (now : Millis) :
    Except HttpError (NormalizedGeoMetadata ν) :=
  normalize rt settings input (some report) now

variable {rt settings} {input : GeoInput ν} {report : Point ν} {now : Millis}
  {geo : NormalizedGeoMetadata ν}

/-! ### What is read -/

/-- A coordinate that is read is a finite number within its range. -/
theorem coordinate_eq_some {value : Unknown ν} {min max : ℤ} {label : String} {n : ν}
    (h : coordinate rt value min max label = .ok (some n)) :
    rt.isFinite n ∧ rt.less n (rt.ofInt min) = false ∧ rt.less (rt.ofInt max) n = false := by
  unfold coordinate at h
  split at h
  all_goals try cases h
  next m =>
    split at h
    · cases h
    · next hfinite =>
      split at h
      · cases h
      · next hrange =>
        cases h
        simp only [Bool.or_eq_true, not_or, Bool.not_eq_true] at hrange
        exact ⟨by simpa using hfinite, hrange⟩

/-- The metadata that `normalize` returns, part by part. -/
structure Normalized (rt : Runtime ν) (settings : GeoSettings ν) (input : GeoInput ν)
    (report : Option (Point ν)) (geo : NormalizedGeoMetadata ν) : Prop where
  latitude : coordinate rt input.latitude (-90) 90 "latitude" = .ok geo.latitude
  longitude : coordinate rt input.longitude (-180) 180 "longitude" = .ok geo.longitude
  together : geo.latitude.isSome = geo.longitude.isSome
  source : geo.source =
    source input.source (geo.latitude.isSome && geo.longitude.isSome)
  distance : geo.distanceMeters = report.bind fun point =>
    if geo.latitude.isSome && geo.longitude.isSome then
      distanceMeters rt ⟨geo.latitude, geo.longitude, none⟩ point
    else none
  warnings : geo.warnings = warnings rt settings geo.latitude geo.longitude geo.accuracyMeters
    geo.capturedAt geo.exif geo.distanceMeters (report.getD ⟨none, none, none⟩) geo.receivedAt
  outcome : geo.trustOutcome = trustOutcome geo.source
    (reasons rt geo.latitude geo.longitude geo.permissionState geo.distanceMeters report)
    geo.warnings geo.validationOutcome
  validation : geo.validationOutcome =
    if geo.latitude.isSome && geo.longitude.isSome then .valid else .insufficientLocationData

theorem normalize_eq_ok {report : Option (Point ν)}
    (h : normalize rt settings input report now = .ok geo) :
    Normalized rt settings input report geo := by
  obtain ⟨latitude, hlatitude, h⟩ := bind_eq_ok.mp h
  obtain ⟨longitude, hlongitude, h⟩ := bind_eq_ok.mp h
  obtain ⟨htogether, h⟩ := throwIf_bind_eq_ok.mp h
  obtain ⟨accuracyMeters, -, h⟩ := bind_eq_ok.mp h
  obtain ⟨-, h⟩ := throwIf_bind_eq_ok.mp h
  obtain ⟨capturedAt, -, h⟩ := bind_eq_ok.mp h
  obtain ⟨photo, -, h⟩ := bind_eq_ok.mp h
  rw [pure_eq_ok] at h
  subst h
  exact ⟨hlatitude, hlongitude, not_not.mp htogether, rfl, rfl, rfl, rfl, rfl⟩

/-- The exceptions are for the metadata or for the accuracy, and bad requests. -/
def IsGeoError (e : HttpError) : Prop :=
  e.kind = .badRequest ∧
    (e.code = some "INVALID_GEO_METADATA" ∨ e.code = some "INVALID_GEO_ACCURACY")

theorem coordinate_error {value : Unknown ν} {min max : ℤ} {label : String} {e : HttpError}
    (h : coordinate rt value min max label = .error e) : IsGeoError e := by
  unfold coordinate at h
  split at h
  all_goals try split at h
  all_goals try split at h
  all_goals cases h
  all_goals exact ⟨rfl, .inl rfl⟩

theorem accuracy_error {value : Unknown ν} {e : HttpError} (h : accuracy rt value = .error e) :
    IsGeoError e := by
  unfold accuracy at h
  split at h
  all_goals try split at h
  all_goals cases h
  all_goals exact ⟨rfl, .inr rfl⟩

theorem date_error {value : Unknown ν} {label : String} {e : HttpError}
    (h : date rt value label = .error e) : IsGeoError e := by
  unfold date at h
  split at h
  all_goals try split at h
  all_goals cases h
  all_goals exact ⟨rfl, .inl rfl⟩

/-- A sequence throws where its first part does, or where the rest does after it. -/
theorem bind_error_of {α β : Type} {x : Except HttpError α} {f : α → Except HttpError β}
    {P : HttpError → Prop} {e : HttpError} (h : (x >>= f) = .error e)
    (hx : ∀ e, x = .error e → P e) (hf : ∀ a, f a = .error e → P e) : P e := by
  cases x with
  | error e' =>
    cases h
    exact hx e rfl
  | ok a => exact hf a h

theorem throwIf_error {c : Prop} [Decidable c] {e e' : HttpError}
    (h : (throwIf c e : Except HttpError PUnit) = .error e') : e' = e := by
  unfold throwIf at h
  split at h <;> cases h
  rfl

theorem exif_error {value : Option (ExifInput ν)} {e : HttpError} (h : exif rt value = .error e) :
    IsGeoError e := by
  cases value with
  | none => cases h
  | some record =>
    refine bind_error_of h (fun _ => coordinate_error) fun _ h => ?_
    refine bind_error_of h (fun _ => coordinate_error) fun _ h => ?_
    refine bind_error_of h (fun _ => date_error) fun _ h => ?_
    cases h

/-- Whatever a payload is rejected for, the answer is a bad request with one of the two codes. -/
theorem normalize_error {report : Option (Point ν)} {e : HttpError}
    (h : normalize rt settings input report now = .error e) : IsGeoError e := by
  refine bind_error_of h (fun _ => coordinate_error) fun _ h => ?_
  refine bind_error_of h (fun _ => coordinate_error) fun _ h => ?_
  refine bind_error_of h (fun _ h => throwIf_error h ▸ ⟨rfl, .inl rfl⟩) fun _ h => ?_
  refine bind_error_of h (fun _ => accuracy_error) fun _ h => ?_
  refine bind_error_of h (fun _ h => throwIf_error h ▸ ⟨rfl, .inr rfl⟩) fun _ h => ?_
  refine bind_error_of h (fun _ => date_error) fun _ h => ?_
  refine bind_error_of h (fun _ => exif_error) fun _ h => ?_
  cases h

/-! ### The outcome -/

/-- The report and the completion are located, and too far from each other. -/
structure OutOfPlace (rt : Runtime ν) (settings : GeoSettings ν) (report : Point ν)
    (geo : NormalizedGeoMetadata ν) : Prop where
  completion : hasCoordinates rt ⟨geo.latitude, geo.longitude, none⟩
  located : hasCoordinates rt report
  apart : (distanceMeters rt ⟨geo.latitude, geo.longitude, none⟩ report).any fun meters =>
    rt.less (tolerance rt settings geo.accuracyMeters report) meters

theorem hasCoordinates_isSome {point : Point ν} (h : hasCoordinates rt point) :
    point.latitude.isSome ∧ point.longitude.isSome := by
  unfold hasCoordinates at h
  cases hlatitude : point.latitude <;> cases hlongitude : point.longitude <;>
    simp [hlatitude, hlongitude] at h ⊢

/-- A location that `normalize` returns is one of finite numbers. -/
theorem Normalized.hasCoordinates {report : Option (Point ν)}
    (h : Normalized rt settings input report geo)
    (hlocated : (geo.latitude.isSome && geo.longitude.isSome) = true) :
    hasCoordinates rt ⟨geo.latitude, geo.longitude, none⟩ := by
  obtain ⟨hsome, hsome'⟩ := Bool.and_eq_true_iff.mp hlocated
  obtain ⟨latitude, hlatitude⟩ := Option.isSome_iff_exists.mp hsome
  obtain ⟨longitude, hlongitude⟩ := Option.isSome_iff_exists.mp hsome'
  have hfinite := (coordinate_eq_some (hlatitude ▸ h.latitude)).1
  have hfinite' := (coordinate_eq_some (hlongitude ▸ h.longitude)).1
  rw [GeoTrustService.hasCoordinates, hlatitude, hlongitude, Option.any_some, Option.any_some,
    hfinite, hfinite', Bool.true_and]

theorem source_eq_legacy_iff {value : Unknown ν} {hasCoordinates : Bool} :
    source value hasCoordinates = .legacy ↔ value = .text "LEGACY" := by
  constructor
  · intro h
    unfold source at h
    cases value with
    | text s =>
      unfold Unknown.member? GeoSource.ofText? at h
      dsimp only at h
      split at h
      case h_5 => rfl
      all_goals try cases h
      cases hasCoordinates <;> cases h
    | _ => cases hasCoordinates <;> cases h
  · rintro rfl
    rfl

/-- Only the report's lack of a location gives the reason that outweighs the warnings. -/
theorem reportUnavailable_iff {latitude longitude : Option ν} {permission : GeoPermissionState}
    {distance : Option ν} {point : Point ν} :
    (reasons rt latitude longitude permission distance (some point)).contains
        "REPORT_LOCATION_UNAVAILABLE" ↔
      distance = none ∧ hasCoordinates rt point = false := by
  unfold reasons
  cases distance <;> cases hpoint : hasCoordinates rt point <;>
    by_cases hlocated : (latitude.isSome && longitude.isSome) = true <;>
    by_cases hdenied : permission = .denied <;> simp_all

/-- **The outcome of a completion.** A completion out of place is recommended for review, unless its
payload names the source `LEGACY`, which leaves it unassessed. A consistent completion has both
points and no warning. -/
theorem completion_outcome (h : assessCompletion rt settings input report now = .ok geo) :
    (OutOfPlace rt settings report geo →
      (input.source ≠ .text "LEGACY" → geo.trustOutcome = .reviewRecommended) ∧
      (input.source = .text "LEGACY" → geo.trustOutcome = .legacyUnassessed)) ∧
    (geo.trustOutcome = .consistent → hasCoordinates rt ⟨geo.latitude, geo.longitude, none⟩ ∧
      hasCoordinates rt report ∧ geo.warnings = []) := by
  have hgeo := normalize_eq_ok h
  have hoverrides := @reportUnavailable_iff _ rt geo.latitude geo.longitude geo.permissionState
    geo.distanceMeters report
  have hlegacy : geo.source = .legacy ↔ input.source = .text "LEGACY" := by
    rw [hgeo.source]
    exact source_eq_legacy_iff
  refine ⟨fun hapart => ⟨fun hsource => ?_, fun hsource => ?_⟩, fun hconsistent => ?_⟩
  · obtain ⟨hlatitude, hlongitude⟩ := hasCoordinates_isSome hapart.completion
    have hlocated : (geo.latitude.isSome && geo.longitude.isSome) = true :=
      Bool.and_eq_true_iff.mpr ⟨hlatitude, hlongitude⟩
    have hdistance : geo.distanceMeters =
        distanceMeters rt ⟨geo.latitude, geo.longitude, none⟩ report := by
      rw [hgeo.distance, Option.bind_some, if_pos hlocated]
    have hwarned : geo.warnings ≠ [] := by
      have hfar := hapart.apart
      rw [← hdistance] at hfar
      rw [hgeo.warnings, warnings, Option.getD_some, if_pos hfar]
      exact List.append_ne_nil_of_right_ne_nil _ (List.cons_ne_nil _ _)
    rw [hgeo.outcome, trustOutcome, if_neg (hlegacy.not.mpr hsource), if_neg, hgeo.validation,
      if_pos hlocated, if_pos rfl, if_neg (by simpa using hwarned)]
    rw [hoverrides, hapart.located]
    exact fun hnot => Bool.noConfusion hnot.2
  · rw [hgeo.outcome, trustOutcome, if_pos (hlegacy.mpr hsource)]
  · rw [hgeo.outcome, trustOutcome] at hconsistent
    split at hconsistent
    · cases hconsistent
    split at hconsistent
    · cases hconsistent
    next hreport =>
    split at hconsistent
    · next hvalid =>
      split at hconsistent
      · next hempty =>
        rw [hgeo.validation] at hvalid
        have hlocated : (geo.latitude.isSome && geo.longitude.isSome) = true := by
          by_contra hnot
          rw [if_neg hnot] at hvalid
          cases hvalid
        refine ⟨hgeo.hasCoordinates hlocated, ?_, List.isEmpty_iff.mp hempty⟩
        -- Without the report's location there is no distance, and then that reason is given.
        by_contra hnowhere
        rw [Bool.not_eq_true] at hnowhere
        refine hreport (hoverrides.mpr ⟨?_, hnowhere⟩)
        rw [hgeo.distance, Option.bind_some, if_pos hlocated, distanceMeters, hnowhere,
          Bool.not_false, Bool.or_true, if_pos rfl]
      · cases hconsistent
    · cases hconsistent

namespace Example

/-- Whole numbers, and a degree that is a hundred and eleven kilometres long. -/
def wholeNumbers : Runtime ℤ where
  ofInt n := n
  isFinite _ := true
  less a b := a < b
  add a b := a + b
  text n := toString n
  minutes millis := millis / 60000
  parseDate _ := none
  haversine a b c d := 111000 * (|c - a| + |d - b|)

/-- The settings where the environment names none. -/
def defaults : GeoSettings ℤ := geoSettings wholeNumbers fun _ => 0

/-- A completion a degree away from the report. -/
def degreeAway (source : String) : GeoInput ℤ where
  latitude := .number 10
  longitude := .number 7
  source := .text source

def reportPoint : Point ℤ := ⟨some 9, some 7, none⟩

/-- What is made of it. -/
def assessed (source : GeoSource) (method : GeoCaptureMethod) (outcome : GeoTrustOutcome) :
    NormalizedGeoMetadata ℤ where
  latitude := some 10
  longitude := some 7
  accuracyMeters := none
  capturedAt := none
  receivedAt := 0
  source := source
  captureMethod := method
  permissionState := .unknown
  validationOutcome := .valid
  trustOutcome := outcome
  distanceMeters := some 111000
  warnings := ["DISTANCE_EXCEEDS_THRESHOLD"]
  validationReasons := []
  exif := none

theorem outOfPlace (source : GeoSource) (method : GeoCaptureMethod) (outcome : GeoTrustOutcome) :
    OutOfPlace wholeNumbers defaults reportPoint (assessed source method outcome) where
  completion := rfl
  located := rfl
  apart := by
    show decide ((250 : ℤ) + 0 + 0 < 111000 * (|9 - 10| + |7 - 7|)) = true
    decide

end Example

open Example in
/-- A completion that is a degree away and calls its source `LEGACY` is not recommended for
review. -/
theorem legacy_out_of_place :
    assessCompletion wholeNumbers defaults (degreeAway "LEGACY") reportPoint 0 =
        .ok (assessed .legacy .legacyImport .legacyUnassessed) ∧
      OutOfPlace wholeNumbers defaults reportPoint
      (assessed .legacy .legacyImport .legacyUnassessed) ∧
      (assessed .legacy .legacyImport .legacyUnassessed).trustOutcome ≠ .reviewRecommended :=
  ⟨rfl, outOfPlace _ _ _, GeoTrustOutcome.noConfusion⟩

open Example in
/-- The same from a phone is recommended for review. -/
theorem device_out_of_place : ∃ geo,
    assessCompletion wholeNumbers defaults (degreeAway "DEVICE_GPS") reportPoint 0 = .ok geo ∧
      geo.trustOutcome = .reviewRecommended := by
  have hassessed : assessCompletion wholeNumbers defaults (degreeAway "DEVICE_GPS") reportPoint 0 =
      .ok (assessed .deviceGps .deviceSensor .reviewRecommended) := rfl
  exact ⟨_, hassessed, ((completion_outcome hassessed).1 (outOfPlace _ _ _)).1
    (by simp [degreeAway])⟩

end FixZone.GeoTrustService
