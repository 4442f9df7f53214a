import FixZone.Library.Words
import FixZone.Report.Category

/-!
# What makes two categories compatible

A normalized category is its words with one underscore between any two
(`normalizeResponsibilityCategory_eq`). Two categories are compatible when one of them has no
words, when a capability serves both, or when one occurs in the other as text: the words of it
next to each other, of which the first may be the end of a longer word and the last the start of
one (`categoriesCompatible_iff`).
-/

namespace FixZone.ReportService

open Library

/-- The words of a normalized category. -/
def categoryWords (category : String) : List (List Char) := words isLowerAlnum category.toList

/-- Both categories resolve to a capability. -/
def CommonCapability (left right : String) : Prop :=
  ∃ leftCapabilities rightCapabilities, capabilityIdsForCategory left = some leftCapabilities ∧
    capabilityIdsForCategory right = some rightCapabilities ∧
      ∃ item ∈ leftCapabilities, item ∈ rightCapabilities

theorem isLowerAlnum_underscore : isLowerAlnum '_' = false := by decide

/-- A normalized category is its words put together. -/
theorem normalizeResponsibilityCategory_eq (value : String) :
    ∃ ws, Words isLowerAlnum ws ∧
      normalizeResponsibilityCategory value = String.ofList (unwords '_' ws) := by
  refine ⟨_, words_words isLowerAlnum
    (replaceAll "&".toList "and".toList 0 (toLowerCase (trim value)).toList), ?_⟩
  rw [← strip_collapse isLowerAlnum_underscore]
  rfl

section Compatible

variable {left right : String}

/-- One category occurs in another when its words occur within the other's. -/
theorem includes_iff {ps ws : List (List Char)} (hps : Words isLowerAlnum ps) (hne : ps ≠ [])
    (hws : Words isLowerAlnum ws) (hleft : left = String.ofList (unwords '_' ws))
    (hright : right = String.ofList (unwords '_' ps)) :
    includes left right ↔ OccursWithin (categoryWords right) (categoryWords left) := by
  subst hleft hright
  simp only [includes, categoryWords, String.toList_ofList, decide_eq_true_eq,
    words_unwords isLowerAlnum_underscore hps, words_unwords isLowerAlnum_underscore hws]
  exact unwords_infix_iff isLowerAlnum_underscore hps hne hws

/-- The last test of `categoriesCompatible`. -/
theorem capabilities_eq_some_true_iff :
    (do
      let leftCapabilities ← capabilityIdsForCategory left
      let rightCapabilities ← capabilityIdsForCategory right
      return leftCapabilities.any fun item => rightCapabilities.contains item : Option Bool) =
        some true ↔ CommonCapability left right := by
  cases hleft : capabilityIdsForCategory left <;>
    cases hright : capabilityIdsForCategory right <;>
    simp [CommonCapability, hleft, hright]

theorem categoriesCompatible_eq_some_true_iff :
    categoriesCompatible left right = some true ↔
      left = "" ∨ right = "" ∨ left = right ∨ includes left right ∨ includes right left ∨
        CommonCapability left right := by
  unfold categoriesCompatible
  split_ifs with hempty hequal hincludes
  · simp only [Bool.or_eq_true, decide_eq_true_eq] at hempty
    tauto
  · tauto
  · rw [Bool.or_eq_true] at hincludes
    tauto
  · rw [capabilities_eq_some_true_iff]
    simp only [Bool.or_eq_true, decide_eq_true_eq] at hempty hincludes
    tauto

/-- The tests do not tell the two categories apart. -/
theorem categoriesCompatible_comm (left right : String) :
    categoriesCompatible left right = categoriesCompatible right left := by
  have hcapabilities : (do
      let leftCapabilities ← capabilityIdsForCategory left
      let rightCapabilities ← capabilityIdsForCategory right
      return leftCapabilities.any fun item => rightCapabilities.contains item : Option Bool) = do
      let leftCapabilities ← capabilityIdsForCategory right
      let rightCapabilities ← capabilityIdsForCategory left
      return leftCapabilities.any fun item => rightCapabilities.contains item := by
    cases capabilityIdsForCategory left with
    | none => cases capabilityIdsForCategory right <;> rfl
    | some leftCapabilities =>
      cases capabilityIdsForCategory right with
      | none => rfl
      | some rightCapabilities =>
        refine congrArg some (Bool.eq_iff_iff.mpr ?_)
        simp only [List.any_eq_true, List.contains_iff_mem]
        exact ⟨fun ⟨item, h, h'⟩ => ⟨item, h', h⟩, fun ⟨item, h, h'⟩ => ⟨item, h', h⟩⟩
  unfold categoriesCompatible
  rw [hcapabilities, Bool.or_comm (decide (left = "")), Bool.or_comm (includes left right)]
  simp only [@eq_comm _ left right]

end Compatible

/-- **Compatible categories.** Two categories are compatible exactly when one of them normalizes to
nothing, they are equal, a capability serves both, or the words of one occur within those of the
other; and the order of the two makes no difference. -/
theorem categoriesCompatible_iff (a b : String) :
    (categoriesCompatible (normalizeResponsibilityCategory a) (normalizeResponsibilityCategory b) =
        some true ↔
      normalizeResponsibilityCategory a = "" ∨ normalizeResponsibilityCategory b = "" ∨
        normalizeResponsibilityCategory a = normalizeResponsibilityCategory b ∨
        CommonCapability (normalizeResponsibilityCategory a) (normalizeResponsibilityCategory b) ∨
        OccursWithin (categoryWords (normalizeResponsibilityCategory a))
          (categoryWords (normalizeResponsibilityCategory b)) ∨
        OccursWithin (categoryWords (normalizeResponsibilityCategory b))
          (categoryWords (normalizeResponsibilityCategory a))) ∧
      categoriesCompatible (normalizeResponsibilityCategory a)
          (normalizeResponsibilityCategory b) =
        categoriesCompatible (normalizeResponsibilityCategory b)
          (normalizeResponsibilityCategory a) := by
  refine ⟨?_, categoriesCompatible_comm _ _⟩
  obtain ⟨ps, hps, hleft⟩ := normalizeResponsibilityCategory_eq a
  obtain ⟨ws, hws, hright⟩ := normalizeResponsibilityCategory_eq b
  rw [categoriesCompatible_eq_some_true_iff]
  generalize normalizeResponsibilityCategory a = left at hleft ⊢
  generalize normalizeResponsibilityCategory b = right at hright ⊢
  have hempty : ∀ {vs : List (List Char)} {category : String}, Words isLowerAlnum vs →
      category = String.ofList (unwords '_' vs) → category ≠ "" → vs ≠ [] := by
    rintro vs category - rfl hne rfl
    exact hne rfl
  by_cases hl : left = ""
  · simp [hl]
  by_cases hr : right = ""
  · simp [hr]
  rw [includes_iff hws (hempty hws hright hr) hps hleft hright,
    includes_iff hps (hempty hps hleft hl) hws hright hleft]
  tauto

/-- Punctuation normalizes to nothing and is compatible with everything, and `gas` is compatible
with `gasket`, of which it is a fragment and with which it shares no capability. -/
theorem punctuation_and_fragment_compatible :
    (normalizeResponsibilityCategory "--" = "" ∧
        categoriesCompatible (normalizeResponsibilityCategory "--")
          (normalizeResponsibilityCategory "Plumbing") = some true) ∧
      categoriesCompatible (normalizeResponsibilityCategory "Gas")
          (normalizeResponsibilityCategory "Gasket") = some true ∧
        capabilityIdsForCategory (normalizeResponsibilityCategory "Gas") = some [] ∧
        ¬categoryWords (normalizeResponsibilityCategory "Gas") <:+:
          categoryWords (normalizeResponsibilityCategory "Gasket") := by
  decide +kernel

end FixZone.ReportService
