import FixZone.Library.Window
import FixZone.Report.ReviewQueue

/-!
# The pages of the responsibility review queue

`getResponsibilityReviewReports` reads the first rows of its query, fifty more than the page needs
and two hundred at most, and drops those that are not eligible. So an eligible report is on
its page exactly when its row is among them, and the pages together list the queue exactly when
every eligible report is (`review_pages_complete_iff`).
-/

namespace FixZone.ReportService

open Library

variable {s : Store} {user : JwtUser} {organizationId : String}

theorem newestFirst_ordersBy : OrdersBy newestFirst Report.id where
  total a b := by
    unfold newestFirst
    cases a.organizationAssignedAt <;> cases b.organizationAssignedAt <;> grind
  trans a b c := by
    unfold newestFirst
    cases a.organizationAssignedAt <;> cases b.organizationAssignedAt <;>
      cases c.organizationAssignedAt <;> grind
  antisymm a b := by
    unfold newestFirst
    cases a.organizationAssignedAt <;> cases b.organizationAssignedAt <;> grind

variable (s organizationId) in
/-- How many rows of the query come before `r`. -/
def reviewPlace (r : Report) : ℕ :=
  s.reports.rows.countP fun b => awaitsReview organizationId b && precedes newestFirst b r

variable (s organizationId) in
/-- How many eligible rows of the query come before `r`. -/
def eligiblePlace (r : Report) : ℕ :=
  s.reports.rows.countP fun b => (awaitsReview organizationId b &&
    decide (InReviewQueue s organizationId b)) && precedes newestFirst b r

/-- How many rows the query reads for a page. -/
def reviewWindow (skip take : ℕ) : ℕ := min (skip + take + 50) 200

variable (s organizationId) in
/-- The rows of the query, in its order. -/
def reviewRows : List Report :=
  (s.reports.rows.filter (awaitsReview organizationId)).insertionSort fun a b => newestFirst a b

variable (s organizationId) in
theorem reviewRows_sorted : StrictlySorted newestFirst (reviewRows s organizationId) :=
  strictlySorted_insertionSort newestFirst_ordersBy (nodup_ids_filter s _)

/-- `getResponsibilityReviewReports` is a page of the rows of its query. -/
theorem getResponsibilityReviewReports_eq (huser : OperatesFor user organizationId)
    (hne : organizationId ≠ "") (limit offset : Option ℤ) :
    getResponsibilityReviewReports s user limit offset =
      .ok (page (reviewRows s organizationId) (fun r => InReviewQueue s organizationId r)
        (reviewWindow (safePageOffset offset) (safePageLimit limit 50)) (safePageOffset offset)
        (safePageLimit limit 50)) := by
  have hallowed : ¬ (!user.isAdmin && !user.isDispatch) = true := by
    rcases huser.operator with h | h <;> simp [h]
  have hqueue : (fun r => (queueStateOf s r).eligibleForResponsibilityReview &&
      decide ((queueStateOf s r).queueOrganizationId = some organizationId)) =
        fun r => decide (InReviewQueue s organizationId r) := by
    funext r
    rw [Bool.eq_iff_iff, Bool.and_eq_true, decide_eq_true_eq, decide_eq_true_eq]
    exact Iff.rfl
  unfold getResponsibilityReviewReports page
  rw [JwtUser.requireUserOrganizationId_eq_ok.mpr ⟨huser.organization, hne⟩, ok_bind,
    throwIf_of_not hallowed, ok_bind, pure_eq_ok, List.filter_filter, hqueue]
  rfl

theorem mem_reviewRows_iff {r : Report} :
    r ∈ reviewRows s organizationId ↔
      r ∈ s.reports.rows ∧ awaitsReview organizationId r = true := by
  rw [reviewRows, List.mem_insertionSort, List.mem_filter]

theorem countP_reviewRows (r : Report) :
    (reviewRows s organizationId).countP (precedes newestFirst · r) =
      reviewPlace s organizationId r := by
  rw [reviewRows, (List.perm_insertionSort _ _).countP_eq, List.countP_filter]
  simp only [reviewPlace, Bool.and_comm]

theorem countP_eligibleRows (r : Report) :
    ((reviewRows s organizationId).filter fun r => InReviewQueue s organizationId r).countP
      (precedes newestFirst · r) = eligiblePlace s organizationId r := by
  rw [reviewRows, ((List.perm_insertionSort _ _).filter _).countP_eq, List.countP_filter,
    List.countP_filter]
  simp only [eligiblePlace]
  congr 1
  funext b
  cases awaitsReview organizationId b <;> simp [Bool.and_comm]

theorem length_eligibleRows_le :
    ((reviewRows s organizationId).filter fun r => InReviewQueue s organizationId r).length ≤
      s.reports.rows.countP fun r => InReviewQueue s organizationId r := by
  rw [reviewRows, ((List.perm_insertionSort _ _).filter _).length_eq,
    ← List.countP_eq_length_filter,
    List.countP_filter]
  exact List.countP_mono_left fun r _ h => (Bool.and_eq_true_iff.mp h).1

/-! ### The queue, page by page -/

variable (s organizationId) in
/-- A list of the reports that are eligible for the review queue of an organization, each once and
as many as there are. -/
structure ListsQueue (listing : List Report) : Prop where
  once : listing.Nodup
  eligible : ∀ r, r ∈ listing ↔ r ∈ s.reports.rows ∧ InReviewQueue s organizationId r
  total : listing.length = s.reports.rows.countP fun r => InReviewQueue s organizationId r

variable (s user organizationId) in
/-- The pages of a size, as many as the queue needs, list the queue. -/
def PagesComplete (limit : Option ℤ) : Prop :=
  ∃ pages : ℕ → List Report,
    (∀ k, getResponsibilityReviewReports s user limit (some ↑(k * safePageLimit limit 50)) =
      .ok (pages k)) ∧
    ∀ n, (s.reports.rows.countP fun r => InReviewQueue s organizationId r) ≤
        n * safePageLimit limit 50 →
      ListsQueue s organizationId ((List.range n).flatMap pages)

theorem safePageLimit_pos (limit : Option ℤ) : 0 < safePageLimit limit 50 := by
  unfold safePageLimit
  split
  · split <;> omega
  · omega

theorem safePageOffset_natCast (n : ℕ) : safePageOffset (some ↑n) = n := by
  simp [safePageOffset]

/-- The members of a list of pages that are eligible each on its own. -/
theorem listsQueue_of_mem_iff {listing : List Report} (honce : listing.Nodup)
    (heligible : ∀ r, r ∈ listing ↔ r ∈ s.reports.rows ∧ InReviewQueue s organizationId r) :
    ListsQueue s organizationId listing := by
  refine ⟨honce, heligible, ?_⟩
  have hrows : s.reports.rows.Nodup := s.reports.nodup.of_map _
  rw [List.countP_eq_length_filter]
  refine ((List.perm_ext_iff_of_nodup honce (hrows.filter _)).mpr fun r => ?_).length_eq
  rw [heligible, List.mem_filter, decide_eq_true_eq]

variable (s organizationId) in
/-- The pages of a size. -/
def reviewPages (size k : ℕ) : List Report :=
  page (reviewRows s organizationId) (fun r => InReviewQueue s organizationId r)
    (reviewWindow (k * size) size) (k * size) size

/-- What the pages show, all together. -/
theorem mem_reviewPages_iff {size n : ℕ} (hsize : 0 < size)
    (hn : (s.reports.rows.countP fun r => InReviewQueue s organizationId r) ≤ n * size)
    {r : Report} : r ∈ (List.range n).flatMap (reviewPages s organizationId size) ↔
      r ∈ s.reports.rows ∧ InReviewQueue s organizationId r ∧ awaitsReview organizationId r = true ∧
        reviewPlace s organizationId r <
          reviewWindow (eligiblePlace s organizationId r / size * size) size := by
  refine (mem_flatMap_page_iff (reviewRows_sorted s organizationId) hsize
    (length_eligibleRows_le.trans hn)).trans ?_
  rw [countP_reviewRows, countP_eligibleRows, mem_reviewRows_iff, decide_eq_true_eq]
  tauto

variable (s organizationId) in
/-- Every eligible report is a row of the query and stands in the window of its page. -/
def WithinWindows (size : ℕ) : Prop :=
  ∀ r ∈ s.reports.rows, InReviewQueue s organizationId r → awaitsReview organizationId r = true ∧
    reviewPlace s organizationId r <
      reviewWindow (eligiblePlace s organizationId r / size * size) size

theorem listsQueue_reviewPages_iff {size n : ℕ} (hsize : 0 < size)
    (hn : (s.reports.rows.countP fun r => InReviewQueue s organizationId r) ≤ n * size) :
    ListsQueue s organizationId ((List.range n).flatMap (reviewPages s organizationId size)) ↔
      WithinWindows s organizationId size := by
  constructor
  · intro hlists r hr hqueue
    have hlisted := (hlists.eligible r).mpr ⟨hr, hqueue⟩
    exact ((mem_reviewPages_iff hsize hn).mp hlisted).2.2
  · intro hwindow
    refine listsQueue_of_mem_iff (nodup_flatMap_page (reviewRows_sorted s organizationId) _ _ _ n)
      fun r => ?_
    rw [mem_reviewPages_iff hsize hn]
    exact ⟨fun h => ⟨h.1, h.2.1⟩, fun ⟨hr, hqueue⟩ => ⟨hr, hqueue, hwindow r hr hqueue⟩⟩

/-- The method answers with these pages. -/
theorem pagesComplete_iff (limit : Option ℤ) (huser : OperatesFor user organizationId)
    (hne : organizationId ≠ "") : PagesComplete s user organizationId limit ↔
      ∀ n, (s.reports.rows.countP fun r => InReviewQueue s organizationId r) ≤
          n * safePageLimit limit 50 → ListsQueue s organizationId
            ((List.range n).flatMap (reviewPages s organizationId (safePageLimit limit 50))) := by
  have hpages : ∀ k : ℕ, getResponsibilityReviewReports s user limit
      (some ↑(k * safePageLimit limit 50)) =
        .ok (reviewPages s organizationId (safePageLimit limit 50) k) := by
    intro k
    rw [getResponsibilityReviewReports_eq huser hne, safePageOffset_natCast]
    rfl
  constructor
  · rintro ⟨pages, hread, hall⟩
    obtain rfl : pages = reviewPages s organizationId (safePageLimit limit 50) :=
      funext fun k => Except.ok.inj ((hread k).symm.trans (hpages k))
    exact hall
  · exact fun hall => ⟨_, hpages, hall⟩

/-- **When the pages list the queue**: exactly when every eligible report is a row of the query and
stands in the window of its page. -/
theorem review_pages_complete_iff (s : Store) (limit : Option ℤ)
    (huser : OperatesFor user organizationId) (hne : organizationId ≠ "") :
    PagesComplete s user organizationId limit ↔
      WithinWindows s organizationId (safePageLimit limit 50) := by
  have hsize := safePageLimit_pos limit
  rw [pagesComplete_iff limit huser hne]
  constructor
  · intro hall
    have hn := Nat.le_mul_of_pos_right
      (s.reports.rows.countP fun r => InReviewQueue s organizationId r) hsize
    exact (listsQueue_reviewPages_iff hsize hn).mp (hall _ hn)
  · exact fun hwindow n hn => (listsQueue_reviewPages_iff hsize hn).mpr hwindow

namespace Example

/-- A report in triage that no organization matches. -/
def inTriage (id : String) : Report where
  toRoutedReport := { category := "Lighting" }
  id := id
  status := .triage
  organizationId := "org"
  citizenId := "citizen"

/-- A report on offer to the organization. -/
def onOffer : Report where
  toRoutedReport := { category := "Lighting" }
  id := "offer"
  status := .orgReview
  organizationId := "org"
  citizenId := "citizen"
  assignedOrganizationId := some "org"
  organizationAssignedAt := some 5

/-- Reports in triage and one on offer. -/
def triageAndOffer (ids : List String) : Store :=
  { Store.empty with
    reports := (ids.foldl (fun t id => t.insert (inTriage id)) Store.empty.reports).insert onOffer }

/-- Fifty-one ids. -/
def ids : List String := (List.range 51).map fun n => toString n

theorem orgAdmin_operates : OperatesFor orgAdmin "org" := ⟨rfl, .inl rfl⟩

end Example

/-- One report in triage does not keep the report on offer from its page. -/
theorem review_pages_complete_one :
    PagesComplete (Example.triageAndOffer ["first"]) Example.orgAdmin "org" (some 1) := by
  have hwindow : ∀ r ∈ (Example.triageAndOffer ["first"]).reports.rows,
      InReviewQueue (Example.triageAndOffer ["first"]) "org" r → awaitsReview "org" r = true ∧
        reviewPlace (Example.triageAndOffer ["first"]) "org" r <
          reviewWindow (eligiblePlace (Example.triageAndOffer ["first"]) "org" r / 1 * 1) 1 := by
    decide +kernel
  exact (review_pages_complete_iff (Example.triageAndOffer ["first"]) (some 1)
    Example.orgAdmin_operates (by decide)).mpr hwindow

/-- Fifty-one of them do. -/
theorem review_page_without_offer :
    ¬ PagesComplete (Example.triageAndOffer Example.ids) Example.orgAdmin "org" (some 1) := by
  have hout : ¬ ∀ r ∈ (Example.triageAndOffer Example.ids).reports.rows,
      InReviewQueue (Example.triageAndOffer Example.ids) "org" r → awaitsReview "org" r = true ∧
        reviewPlace (Example.triageAndOffer Example.ids) "org" r <
          reviewWindow (eligiblePlace (Example.triageAndOffer Example.ids) "org" r / 1 * 1) 1 := by
    decide +kernel
  rw [pagesComplete_iff _ Example.orgAdmin_operates (by decide)]
  intro hall
  have hn : ((Example.triageAndOffer Example.ids).reports.rows.countP fun r =>
      InReviewQueue (Example.triageAndOffer Example.ids) "org" r) ≤ 1 * 1 := by
    decide +kernel
  exact hout ((listsQueue_reviewPages_iff (safePageLimit_pos (some 1)) hn).mp (hall 1 hn))

end FixZone.ReportService
