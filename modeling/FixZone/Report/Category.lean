import FixZone.Organization.RoutingJurisdiction
import FixZone.Schema

/-!
# Service categories

How `ReportService` compares the category a citizen names with the categories and
capabilities organizations and providers list. A comparison may throw: the table of
aliases is an object literal, so the name `constructor` finds the inherited
`Object` function in it, which cannot be spread. A thrown `TypeError` is `none`.
-/

namespace FixZone.ReportService

open Library Organization

/-- `ACTIVE_MAINTENANCE_CAPABILITIES`. -/
def activeMaintenanceCapabilities : List String :=
  ["electrical", "plumbing", "mechanical", "civil_works", "ict", "facilities"]

/-- `CATEGORY_CAPABILITY_ALIASES`. -/
def categoryCapabilityAliases : List (String × List String) :=
  [("telecom", ["ict", "electrical"]),
    ("telecommunications", ["ict", "electrical"]),
    ("internet", ["ict", "electrical"]),
    ("network", ["ict", "electrical"]),
    ("fibre", ["ict", "electrical"]),
    ("fiber", ["ict", "electrical"]),
    ("road", ["civil_works"]),
    ("pothole", ["civil_works"]),
    ("drainage", ["civil_works", "plumbing"]),
    ("water", ["plumbing"]),
    ("plumbing", ["plumbing"]),
    ("electrical", ["electrical"]),
    ("electricity", ["electrical"]),
    ("light", ["electrical"]),
    ("lighting", ["electrical"]),
    ("waste", ["facilities"]),
    ("cleaning", ["facilities"])]

/-- `normalizeResponsibilityCategory`. -/
def normalizeResponsibilityCategory (value : String) : String :=
  let lowered := (toLowerCase (trim value)).toList
  let spelled := replaceAll "&".toList "and".toList 0 lowered
  String.ofList (strip (· = '_') (collapse isLowerAlnum '_' false spelled))

/-- A normalized category is its own normal form. -/
theorem normalizeResponsibilityCategory_idem (value : String) :
    normalizeResponsibilityCategory (normalizeResponsibilityCategory value) =
      normalizeResponsibilityCategory value := by
  have hsep : isLowerAlnum '_' = false := by decide
  obtain ⟨spelled, hspelled⟩ : ∃ spelled, normalizeResponsibilityCategory value =
      String.ofList (strip (· = '_') (collapse isLowerAlnum '_' false spelled)) := ⟨_, rfl⟩
  generalize hcs : strip (fun c => decide (c = '_')) (collapse isLowerAlnum '_' false spelled) = cs
    at hspelled
  have hcollapsed : Collapsed isLowerAlnum '_' false cs :=
    hcs ▸ (collapsed_collapse hsep false spelled).strip hsep
  have hstrip : strip (fun c => decide (c = '_')) cs = cs := hcs ▸ strip_strip _ _
  have hchars : ∀ c ∈ cs, isJsSpace c = false ∧ lowerChar c = [c] ∧ c ≠ '&' :=
    fun c hc => lowerChar_of_isLowerAlnum (hcollapsed.mem hc)
  have htrim : trim (String.ofList cs) = String.ofList cs := by
    rw [trim, String.toList_ofList, strip_of_forall fun c hc => (hchars c hc).1]
  have hlower : (toLowerCase (String.ofList cs)).toList = cs :=
    toList_toLowerCase_ofList fun c hc => (hchars c hc).2.1
  rw [hspelled, normalizeResponsibilityCategory, htrim, hlower,
    show "&".toList = ['&'] from rfl, replaceAll_of_not_mem fun hmem => (hchars _ hmem).2.2 rfl,
    collapse_of_collapsed hcollapsed, hstrip]

/-- `capabilityIdsForCategory`. The inherited properties of the alias table whose name
a normalized category can be are those in lower case: `constructor` alone. -/
def capabilityIdsForCategory (normalizedCategory : String) : Option (List String) :=
  if normalizedCategory = "" then some []
  else if normalizedCategory = "constructor" then none
  else
    let direct := (categoryCapabilityAliases.lookup normalizedCategory).getD []
    let fuzzy := (categoryCapabilityAliases.filter fun entry =>
      includes normalizedCategory entry.1 || includes entry.1 normalizedCategory).flatMap Prod.snd
    some ((direct ++ fuzzy).reverse.dedup.reverse)

/-- `categoriesCompatible`. -/
def categoriesCompatible (left right : String) : Option Bool :=
  if left = "" || right = "" then some true
  else if left = right then some true
  else if includes left right || includes right left then some true
  else do
    let leftCapabilities ← capabilityIdsForCategory left
    let rightCapabilities ← capabilityIdsForCategory right
    return leftCapabilities.any fun item => rightCapabilities.contains item

/-- `jsonStringList`: the non-blank texts of an array, nothing for any other value. -/
def jsonStringList (value : Option Json) : Option (List String) :=
  match value with
  | some (.arr items) => do
    let texts ← items.mapM fun item =>
      match item with
      | .null => some ""
      | item => item.toText
    return (texts.map trim).filter (· ≠ "")
  | _ => some []

/-- `collectStringList`. -/
def collectStringList (locale : LocaleOrder) (values : List String) : List String :=
  distinctSorted locale values

/-- `normalizedCategoryAliases`. -/
def normalizedCategoryAliases (locale : LocaleOrder) (normalizedCategory : String) :
    Option (List String) := do
  let aliases ← (categoryCapabilityAliases.map Prod.fst).filterM fun name =>
    categoriesCompatible name normalizedCategory
  return collectStringList locale (normalizedCategory :: aliases)

end FixZone.ReportService
