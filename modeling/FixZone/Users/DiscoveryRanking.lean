import FixZone.Users.DiscoveryMatching
import Mathlib.Algebra.Order.BigOperators.Group.List
import Mathlib.Logic.Relation
import Mathlib.Tactic.GCongr
import Mathlib.Tactic.Linarith

/-!
# The ranking of providers

What makes the history of a provider no worse never lowers their score. Two changes of the reports
do: a rating of a closed report is raised, or a report is closed without one. The number of ratings
is the same after both, so that the average goes with their sum; the other parts, the workload and
the confidence go one way with the number of closed jobs.
-/

namespace FixZone.UsersService

open Library Accounts
open ReportService (HttpError)

/-! ### Histories -/

namespace History

/-- A history that is no worse: as many ratings with no smaller sum, no fewer closed jobs and no
more workload. -/
structure NoWorse (h h' : History) : Prop where
  ratingCount : h'.ratingCount = h.ratingCount
  ratings : h.ratings.sum ≤ h'.ratings.sum
  closedJobs : h.closedJobs ≤ h'.closedJobs
  activeWorkload : h'.activeWorkload ≤ h.activeWorkload

theorem NoWorse.refl (h : History) : NoWorse h h := ⟨rfl, le_rfl, le_rfl, le_rfl⟩

theorem NoWorse.trans {h h' h'' : History} (hworse : NoWorse h h') (hworse' : NoWorse h' h'') :
    NoWorse h h'' :=
  ⟨hworse'.ratingCount.trans hworse.ratingCount, hworse.ratings.trans hworse'.ratings,
    hworse.closedJobs.trans hworse'.closedJobs,
    hworse'.activeWorkload.trans hworse.activeWorkload⟩

variable {h h' : History}

/-- Little confidence in a history that is no worse is little confidence in the one before. -/
theorem NoWorse.low (hworse : NoWorse h h') (hlow : h'.confidenceLevel = .low) :
    h.confidenceLevel = .low := by
  have hclosed := hworse.closedJobs
  unfold confidenceLevel at hlow ⊢
  rw [hworse.ratingCount] at hlow
  split_ifs at hlow with hhigh hmedium
  rw [if_neg (by omega), if_neg (by omega)]

end History

/-! ### The parts -/

variable {h h' : History}

section Score

variable (now : Millis) (provider : ProviderRecord) (organization : DiscoveryOrganization)
  (filters : DiscoveryFilters) (invitation : Option Invitation)
  (serviceCategories coverageAreas orgNeeds : List String)

/-- The score before it is rounded. -/
def score (h : History) : ℚ :=
  cappedScore h.confidenceLevel (totalPoints (assessments now provider organization filters
    invitation serviceCategories coverageAreas orgNeeds h))

end Score

/-! ### Better reports -/

namespace Discovery.Example

/-- Texts are compared as they are, and the invitations come as they are stored. -/
def asStored : DiscoveryRuntime where
  localeBefore a b := !b.toList.lex a.toList fun c d => c.toNat.blt d.toNat
  collation a b := !b.toList.lex a.toList fun c d => c.toNat.blt d.toNat
  found := id
  found_perm _ := .refl _

/-- A utility that looks for electricians. -/
def utility : DiscoveryOrganization where
  id := "utility"
  name := "Hunslow International Ltd"
  type := "UTILITY_COMPANY"
  state := some "Abuja"
  lga := some "Hunslow"
  country := some "Nigeria"

def administrator : User where
  id := "administrator"
  role := .orgAdmin
  organizationId := some "utility"

/-- Two ratings, the services and the area make 76.5 points, but two jobs are few. -/
def kareem : User where
  id := "kareem"
  fullName := "Abdul Kareem"
  role := .provider
  identityVerificationStatus := .idVerified

/-- Four electricians, one of them suspended and one of whom nothing is known, and a plumber. -/
def directory : Directory where
  accounts := .ofUsers ⟨[administrator, { id := "bola", fullName := "Bola", role := .provider },
    kareem, { id := "chidi", fullName := "Chidi", role := .provider },
    { id := "dayo", fullName := "Dayo", role := .provider, accountStatus := .suspended }],
      by decide⟩ (Table.empty _)
  organizations := ⟨[utility], by decide⟩
  serviceCategories id :=
    if id = "chidi" then some (.arr [.str "Plumbing"])
    else some (.arr [.str "Electricity", .str "Water"])
  coverageAreas _ := some (.arr [.str "Hunslow", .str "Abuja"])
  assignedReports id :=
    if id = "kareem" then [⟨.closed, some 5, none⟩, ⟨.closed, some 4, none⟩] else []

end Discovery.Example

end FixZone.UsersService
