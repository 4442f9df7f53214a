import FixZone.Auth.Service

/-!
# The profile of a user

`updateMe`: a user changes the name and the fields of the profile that are theirs to change. The
phone and the email of a request have to be the stored ones, so an accepted request leaves them
alone, and of the stored profile it keeps every field that it does not write.
-/

namespace FixZone.AuthService

open Library Accounts
open ReportService (HttpError badRequest)

/-! ### Locales -/

/-- `SUPPORTED_LOCALES`. -/
def supportedLocales : List String := ["en", "ha", "yo", "ig", "fr", "ar"]

/-- `value.replace('_', '-')`, on the characters. -/
def replaceUnderscore : List Char → List Char
  | [] => []
  | '_' :: cs => '-' :: cs
  | c :: cs => c :: replaceUnderscore cs

/-- `normalizeLocale`. -/
def normalizeLocale (value : Option Json) : Option String :=
  match value with
  | some (.str text) =>
    let normalized := toLowerCase (String.ofList (replaceUnderscore (trim text).toList))
    let language := String.ofList (normalized.toList.takeWhile (· ≠ '-'))
    if normalized ≠ "" ∧ supportedLocales.contains language then some language else none
  | _ => none

def unsupportedLocale : HttpError where
  kind := .badRequest
  code := some "UNSUPPORTED_LOCALE"
  message := "Preferred locale is not supported."

/-! ### `updateMe` -/

/-- A field of a request that is a text, without blanks around it, and `null` for none. -/
def textField (dto : Json) (name : String) : Option (String × Json) :=
  match dto.field? name with
  | some (.str text) => some (name, optionalJson (trimmedOrNull (some text)))
  | _ => none

/-- The preferred language, where a request names one. -/
def languageField (dto : Json) : Except HttpError (List (String × Json)) :=
  if (dto.field? "preferredLanguage").isNone ∧ (dto.field? "preferredLocale").isNone then .ok []
  else do
    let requested := match dto.field? "preferredLocale" with
      | none | some .null => dto.field? "preferredLanguage"
      | some value => some value
    let locale ← orThrow (normalizeLocale requested) unsupportedLocale
    return [("preferredLanguage", .str locale)]

/-- The notification preferences, where they are an object. -/
def preferencesField (dto : Json) : List (String × Json) :=
  match dto.field? "notificationPreferences" with
  | some (.obj fields) => [("notificationPreferences", .obj fields)]
  | _ => []

/-- The fields of the profile that a request writes. -/
def profileFields (dto : Json) : Except HttpError (List (String × Json)) := do
  let language ← languageField dto
  return ["address", "state", "lga", "emergencyContact"].filterMap (textField dto) ++ language ++
    preferencesField dto

/-- `{ ...existingProfile, ...profileData }`. -/
def overlayProfile (profileData : Option Json) (fields : List (String × Json)) : Json :=
  .obj ((objectRecord profileData).filter (fun field => !fields.any (·.1 = field.1)) ++ fields)

/-- The columns that a request for a change of the profile writes. -/
structure ProfileUpdate where
  fullName : Option String
  fields : List (String × Json)

/-- Those columns of a user. -/
@[simp] def ProfileUpdate.patch (data : ProfileUpdate) : Patch User.id where
  apply row := { row with
    fullName := data.fullName.getD row.fullName
    profileData :=
      if data.fields.isEmpty then row.profileData
      else some (overlayProfile row.profileData data.fields) }

/-- The name of a request, where it has two characters at least. -/
def requestedName (dto : Json) : Option String :=
  match dto.field? "fullName" with
  | some (.str text) => if 2 ≤ utf16Length (trim text) then some (trim text) else none
  | _ => none

/-- Whether a contact of a request is another one than that which is stored. -/
def changesContact (dto : Json) (name : String) (normalize : String → String)
    (existing : Option String) : Bool :=
  match dto.field? name with
  | some (.str text) => trimmedOrNull (some (normalize text)) ≠
      trimmedOrNull (existing.map normalize)
  | _ => false

/-- The checks of `updateMe`, and the columns it writes after them. -/
def updateMeInput (existing : User) (dto : Json) : Except HttpError ProfileUpdate := do
  throwIf (changesContact dto "phone" (fun text => text) existing.phone)
    (badRequest "Phone changes require secure verification")
  throwIf (changesContact dto "email" toLowerCase existing.email)
    (badRequest "Email changes require secure verification")
  let fields ← profileFields dto
  throwIf ((requestedName dto).isNone ∧ fields.isEmpty)
    (badRequest "No supported profile fields provided")
  return { fullName := requestedName dto, fields }

def noLongerExists : HttpError :=
  { kind := .unauthorized, message := "User no longer exists" }

/-- `updateMe`. -/
def updateMe (s : Store) (userId : String) (dto : Json) : Except HttpError (Store × PUnit) := do
  let existing ← orThrow (s.user? userId) noLongerExists
  let data ← updateMeInput existing dto
  return (s.updateUser userId data.patch, ⟨⟩)

/-! ### What it writes -/

variable {s s' : Store} {userId : String} {dto : Json}

/-- A request that is accepted writes the row of the user. -/
theorem updateMe_eq_ok (h : updateMe s userId dto = .ok (s', ⟨⟩)) :
    ∃ existing data, s.user? userId = some existing ∧ updateMeInput existing dto = .ok data ∧
      s' = s.updateUser userId data.patch := by
  obtain ⟨existing, hfound, h⟩ := orThrow_bind_eq_ok.mp h
  obtain ⟨data, hdata, h⟩ := bind_eq_ok.mp h
  exact ⟨existing, data, hfound, hdata, (Prod.mk.inj (pure_eq_ok.mp h)).1.symm⟩

end FixZone.AuthService
