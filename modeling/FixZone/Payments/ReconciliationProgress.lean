import FixZone.Library.Run
import FixZone.Payments.Reconciliation

/-!
# How far reconciliation gets

Every call of `reconcilePending` takes the oldest of the stale transactions, and one that it
cannot settle is among the oldest again at the next call. So the calls work the stale
transactions off in batches (`Progress`), in which those that stay open take up places, and
`reconciliation_reaches_iff` says when they look at all of them: within as many calls as there
are batches, and at all.
-/

namespace FixZone.PaymentsService

open Library ReportService

variable {retrieve : Retrieve} {s s' : Store} {t u : PaymentTransaction} {now olderThan : Millis}

/-! ### The queue -/

theorem oldestFirst_ordersBy : OrdersBy oldestFirst PaymentTransaction.id where
  total a b := by
    unfold oldestFirst
    grind
  trans a b c := by
    unfold oldestFirst
    grind
  antisymm a b := by
    unfold oldestFirst
    grind

theorem staleTransactions_sorted (s : Store) (olderThan : Millis) :
    StrictlySorted oldestFirst (staleTransactions s olderThan) :=
  strictlySorted_insertionSort oldestFirst_ordersBy
    (s.transactions.nodup.sublist (List.filter_sublist.map _))

theorem mem_staleTransactions : t ∈ staleTransactions s olderThan ↔
    t ∈ s.transactions.rows ∧ t.isOpen = true ∧ t.createdAt ≤ olderThan := by
  simp [staleTransactions, List.mem_insertionSort]

theorem precedes_congr {a a' b b' : PaymentTransaction} (ha : SameTerms a a')
    (hb : SameTerms b b') : precedes oldestFirst a' b' = precedes oldestFirst a b := by
  unfold precedes oldestFirst
  rw [ha.createdAt, hb.createdAt, ha.id, hb.id]

/-- The transactions that have become stale since come last. -/
theorem staleTransactions_later {before : Millis} (h : before ≤ olderThan) :
    staleTransactions s olderThan = staleTransactions s before ++
      (staleTransactions s olderThan).filter fun t => before < t.createdAt := by
  refine (staleTransactions_sorted s olderThan).eq_of_mem_iff ?_ fun t => ?_
  · refine List.pairwise_append.mpr ⟨staleTransactions_sorted s before,
      (staleTransactions_sorted s olderThan).sublist List.filter_sublist, fun a ha b hb => ?_⟩
    have hold := (mem_staleTransactions.mp ha).2.2
    have hnew : before < b.createdAt := by simpa using (List.mem_filter.mp hb).2
    have hlt : a.createdAt < b.createdAt := hold.trans_lt hnew
    have hback : ¬ b.createdAt < a.createdAt := hlt.le.not_gt
    simp [precedes, oldestFirst, hlt, hback, hlt.ne']
  · rw [List.mem_append, List.mem_filter, mem_staleTransactions, mem_staleTransactions,
      decide_eq_true_eq]
    constructor
    · rintro ⟨hrow, hopen, hstale⟩
      by_cases hold : t.createdAt ≤ before
      · exact .inl ⟨hrow, hopen, hold⟩
      · exact .inr ⟨⟨hrow, hopen, hstale⟩, not_le.mp hold⟩
    · rintro (⟨hrow, hopen, hold⟩ | ⟨hall, -⟩)
      · exact ⟨hrow, hopen, hold.trans h⟩
      · exact hall

/-! ### Calls -/

section Calls

variable (retrieve) (settings : ReconciliationSettings) (limit : Option ℕ)

/-- What a call looks at. -/
def candidates (s : Store) (now : Millis) : List PaymentTransaction :=
  (staleTransactions s (settings.olderThan now)).take (settings.batch limit)

/-- The store after a call by a user who may reconcile. -/
def reconcile (now : Millis) (s : Store) : Store :=
  match reconcilePending retrieve settings (.ok ⟨⟩) limit now s with
  | .ok (s', _) => s'
  | .error _ => s

/-- Every transaction that is stale at `first` is looked at in one of the calls. -/
def LooksAtAll (s : Store) (first : Millis) (calls : List Millis) : Prop :=
  ∀ t ∈ staleTransactions s (settings.olderThan first), ∃ before now after,
    calls = before ++ now :: after ∧
      ∃ c ∈ candidates settings limit (run (reconcile retrieve settings limit) s before) now,
        c.id = t.id

/-- How many batches there are of the transactions that are stale at `first`. -/
def batches (s : Store) (first : Millis) : ℕ :=
  ((staleTransactions s (settings.olderThan first)).length + settings.batch limit - 1) /
    settings.batch limit

/-- As many calls as there are batches, whenever they are made, look at all of them. -/
def ReachedInTime (s : Store) (first : Millis) : Prop :=
  ∀ calls : List Millis, (∀ now ∈ calls, first ≤ now) →
    calls.length = batches settings limit s first → LooksAtAll retrieve settings limit s first calls

/-- Some number of calls looks at all of them. -/
def ReachedAtLast (s : Store) (first : Millis) : Prop :=
  ∃ calls : List Millis, (∀ now ∈ calls, first ≤ now) ∧
    LooksAtAll retrieve settings limit s first calls

end Calls

variable {settings : ReconciliationSettings} {limit : Option ℕ}

theorem reconcile_eq (now : Millis) (s : Store) : reconcile retrieve settings limit now s =
    (candidates settings limit s now).foldl (look retrieve now) s := by
  have hfold : ∀ (cs : List PaymentTransaction) (before : Store × ReconciliationCounts),
      (cs.foldl (reconcileCandidate retrieve now) before).1 =
        cs.foldl (look retrieve now) before.1 := by
    intro cs
    induction cs with
    | nil => exact fun before => rfl
    | cons c cs ih =>
      intro before
      have hround : (reconcileCandidate retrieve now before c).1 =
          look retrieve now before.1 c := by
        unfold look reconcileCandidate
        dsimp only
        split <;> rfl
      rw [List.foldl_cons, List.foldl_cons, ih, hround]
  exact hfold _ (s, _)

theorem candidates_lookedAt (h : Independent s) (hretrieve : AnswersAsked retrieve) :
    (∀ c ∈ candidates settings limit s now, c.isOpen) ∧
      ∃ f, LookedAt retrieve (candidates settings limit s now) s
        (reconcile retrieve settings limit now s) f := by
  have hmem : ∀ c ∈ candidates settings limit s now, c ∈ s.transactions.rows ∧ c.isOpen :=
    fun c hc =>
      have hstale := mem_staleTransactions.mp (List.mem_of_mem_take hc)
      ⟨hstale.1, hstale.2.1⟩
  have hnodup : (candidates settings limit s now).Nodup :=
    (staleTransactions_sorted s _).nodup.sublist (List.take_sublist _ _)
  rw [reconcile_eq]
  exact ⟨fun c hc => (hmem c hc).2, exists_lookedAt_foldl h hretrieve (fun c hc => (hmem c hc).1)
    (fun c hc => (hmem c hc).2) hnodup⟩

/-! ### Progress -/

/-- How far the calls have got: of the transactions that were stale in `s₀`, those of `queue` are
left, in their order, with their terms and with what becomes of them. -/
structure Progress (retrieve : Retrieve) (olderThan : Millis) (s₀ s : Store)
    (queue : List PaymentTransaction) (f : PaymentTransaction → PaymentTransaction) : Prop where
  independent : Independent s
  rows : s.transactions.rows = s₀.transactions.rows.map f
  terms : ∀ t, SameTerms t (f t)
  queue_eq : staleTransactions s olderThan = queue.map f
  stays : ∀ t ∈ queue, staysOpen retrieve s (f t) = staysOpen retrieve s₀ t

variable {s₀ : Store} {queue : List PaymentTransaction}
  {f : PaymentTransaction → PaymentTransaction}

theorem Progress.start (h : Independent s₀) :
    Progress retrieve olderThan s₀ s₀ (staleTransactions s₀ olderThan) id :=
  ⟨h, by simp, SameTerms.refl, by simp, fun _ _ => rfl⟩

theorem Progress.nodup_map (h : Progress retrieve olderThan s₀ s queue f) :
    (queue.map f).Nodup := h.queue_eq ▸ (staleTransactions_sorted s olderThan).nodup

theorem Progress.nodup (h : Progress retrieve olderThan s₀ s queue f) : queue.Nodup :=
  h.nodup_map.of_map f

/-- A call takes as many of the transactions that are left as a batch has places. -/
theorem Progress.mem_candidates_iff (h : Progress retrieve olderThan s₀ s queue f)
    (hnow : olderThan ≤ settings.olderThan now) (ht : t ∈ queue) :
    f t ∈ candidates settings limit s now ↔ t ∈ queue.take (settings.batch limit) := by
  have hstale : f t ∈ staleTransactions s olderThan := h.queue_eq ▸ List.mem_map_of_mem ht
  have hnew : f t ∉ (staleTransactions s (settings.olderThan now)).filter fun t =>
      olderThan < t.createdAt := by
    intro hmem
    have hlater : olderThan < (f t).createdAt := by simpa using (List.mem_filter.mp hmem).2
    exact absurd (mem_staleTransactions.mp hstale).2.2 hlater.not_ge
  rw [candidates, staleTransactions_later hnow, List.take_append, List.mem_append,
    or_iff_left fun hmem => hnew (List.mem_of_mem_take hmem), h.queue_eq, ← List.map_take]
  constructor
  · intro hmem
    obtain ⟨u, hu, hsame⟩ := List.mem_map.mp hmem
    rwa [← List.inj_on_of_nodup_map h.nodup_map (List.mem_of_mem_take hu) ht hsame]
  · exact fun hmem => List.mem_map_of_mem hmem

/-- **What a call does to the queue**: one batch. -/
theorem Progress.reconcile (h : Progress retrieve olderThan s₀ s queue f)
    (hretrieve : AnswersAsked retrieve) (hnow : olderThan ≤ settings.olderThan now) :
    ∃ g, Progress retrieve olderThan s₀ (reconcile retrieve settings limit now s)
      (afterBatch (staysOpen retrieve s₀) (settings.batch limit) queue) g := by
  obtain ⟨hopens, g, hlooked⟩ :=
    @candidates_lookedAt retrieve s now settings limit h.independent hretrieve
  have hterms : ∀ t, SameTerms t ((g ∘ f) t) := fun t => (h.terms t).trans (hlooked.terms (f t))
  have hstale : ∀ t ∈ queue, f t ∈ staleTransactions s olderThan := fun t ht =>
    h.queue_eq ▸ List.mem_map_of_mem ht
  have hrow : ∀ t ∈ queue, f t ∈ s.transactions.rows := fun t ht =>
    (mem_staleTransactions.mp (hstale t ht)).1
  -- a transaction of the queue is open after the call unless it was taken and does not stay
  have hopen : ∀ t ∈ queue, (g (f t)).isOpen = true ↔
      (t ∈ queue.take (settings.batch limit) → staysOpen retrieve s₀ t = true) := fun t ht => by
    by_cases htaken : t ∈ queue.take (settings.batch limit)
    · rw [hlooked.opens (f t) ((h.mem_candidates_iff hnow ht).mpr htaken), h.stays t ht]
      exact ⟨fun hstays _ => hstays, fun hstays => hstays htaken⟩
    · have hsame := hlooked.others (f t) (hrow t ht) fun hmem =>
        htaken ((h.mem_candidates_iff hnow ht).mp hmem)
      rw [hsame]
      exact iff_of_true (mem_staleTransactions.mp (hstale t ht)).2.1 fun hmem => absurd hmem htaken
  refine ⟨g ∘ f, h.independent.lookedAt hlooked hopens, ?_, hterms, ?_, fun t ht => ?_⟩
  · rw [hlooked.rows, h.rows, List.map_map]
  · have hsorted : StrictlySorted oldestFirst
        ((afterBatch (staysOpen retrieve s₀) (settings.batch limit) queue).map (g ∘ f)) := by
      have hold := staleTransactions_sorted s olderThan
      rw [h.queue_eq] at hold
      refine List.pairwise_map.mpr (((List.pairwise_map.mp hold).sublist
        (afterBatch_sublist queue)).imp fun {a b} hab => ?_)
      rwa [precedes_congr (h.terms a) (h.terms b), ← precedes_congr (hterms a) (hterms b)] at hab
    refine (staleTransactions_sorted _ olderThan).eq_of_mem_iff hsorted fun x => ?_
    rw [mem_staleTransactions, hlooked.rows, List.mem_map, List.mem_map]
    constructor
    · rintro ⟨⟨r, hr, rfl⟩, hstill, hold⟩
      rw [(hlooked.terms r).createdAt] at hold
      have hleft : r ∈ queue.map f := h.queue_eq ▸
        mem_staleTransactions.mpr ⟨hr, hlooked.isOpen_of hopens hr hstill, hold⟩
      obtain ⟨t, ht, rfl⟩ := List.mem_map.mp hleft
      exact ⟨t, (mem_afterBatch_iff h.nodup).mpr ⟨ht, (hopen t ht).mp hstill⟩, rfl⟩
    · rintro ⟨t, ht, rfl⟩
      obtain ⟨hmem, hstays⟩ := (mem_afterBatch_iff h.nodup).mp ht
      refine ⟨⟨f t, hrow t hmem, rfl⟩, (hopen t hmem).mpr hstays, ?_⟩
      rw [(hterms t).createdAt, ← (h.terms t).createdAt]
      exact (mem_staleTransactions.mp (hstale t hmem)).2.2
  · obtain ⟨hmem, hstays⟩ := (mem_afterBatch_iff h.nodup).mp ht
    rw [Function.comp_apply, hlooked.stays (f t) (hrow t hmem)
      (mem_staleTransactions.mp (hstale t hmem)).2.1 ((hopen t hmem).mpr hstays), h.stays t hmem]

/-- What a call looks at, of the transactions that were stale at the start. -/
theorem Progress.exists_candidate_iff (h : Progress retrieve olderThan s₀ s queue f)
    (hnow : olderThan ≤ settings.olderThan now)
    (ht : t ∈ staleTransactions s₀ olderThan)
    (hsub : queue.Sublist (staleTransactions s₀ olderThan)) :
    (∃ c ∈ candidates settings limit s now, c.id = t.id) ↔
      t ∈ queue.take (settings.batch limit) := by
  constructor
  · rintro ⟨c, hc, hid⟩
    have hstale := mem_staleTransactions.mp (List.mem_of_mem_take hc)
    have hrow := hstale.1
    rw [h.rows] at hrow
    obtain ⟨r, hr, rfl⟩ := List.mem_map.mp hrow
    obtain rfl : r = t :=
      eq_of_id_eq hr (mem_staleTransactions.mp ht).1 ((h.terms r).id.symm.trans hid)
    have hold : (f r).createdAt ≤ olderThan := by
      rw [(h.terms r).createdAt]
      exact (mem_staleTransactions.mp ht).2.2
    have hleft : f r ∈ queue.map f :=
      h.queue_eq ▸ mem_staleTransactions.mpr ⟨hstale.1, hstale.2.1, hold⟩
    obtain ⟨u, hu, hsame⟩ := List.mem_map.mp hleft
    have hid' : u.id = r.id := by rw [← (h.terms u).id, hsame, (h.terms r).id]
    obtain rfl : u = r := eq_of_id_eq (mem_staleTransactions.mp (hsub.subset hu)).1 hr hid'
    exact (h.mem_candidates_iff hnow hu).mp hc
  · intro hmem
    exact ⟨f t, (h.mem_candidates_iff hnow (List.mem_of_mem_take hmem)).mpr hmem, (h.terms t).id⟩

/-- **What some calls do to the queue**: as many batches. -/
theorem exists_progress_run (h : Independent s₀) (hretrieve : AnswersAsked retrieve)
    {calls : List Millis} (hcalls : ∀ now ∈ calls, olderThan ≤ settings.olderThan now) :
    ∃ g, Progress retrieve olderThan s₀ (run (reconcile retrieve settings limit) s₀ calls)
      (afterBatches (staysOpen retrieve s₀) (settings.batch limit)
        (staleTransactions s₀ olderThan) calls.length) g := by
  induction calls using List.reverseRecOn with
  | nil => exact ⟨id, Progress.start h⟩
  | append_singleton calls now ih =>
    obtain ⟨f, hprogress⟩ := ih fun now hmem => hcalls now (List.mem_append_left _ hmem)
    have hnow := hcalls now (List.mem_append_right _ (List.mem_singleton_self now))
    rw [run_append, run_cons, run_nil, List.length_append, List.length_singleton]
    exact hprogress.reconcile hretrieve hnow

/-- **What some calls look at**: all that was stale at the start, exactly when as many batches get
to the end of the queue. -/
theorem looksAtAll_iff (h : Independent s) (hretrieve : AnswersAsked retrieve) {first : Millis}
    {calls : List Millis} (hcalls : ∀ now ∈ calls, first ≤ now) :
    LooksAtAll retrieve settings limit s first calls ↔
      (staleTransactions s (settings.olderThan first)).length ≤
        reached (staysOpen retrieve s) (settings.batch limit)
          (staleTransactions s (settings.olderThan first)) calls.length := by
  rw [← forall_taken_iff (staleTransactions_sorted s _).nodup]
  refine forall₂_congr fun t ht => ?_
  have hlater : ∀ now ∈ calls, settings.olderThan first ≤ settings.olderThan now :=
    fun now hmem => sub_le_sub_right (hcalls now hmem) _
  have hround : ∀ before now after, calls = before ++ now :: after →
      ((∃ c ∈ candidates settings limit (run (PaymentsService.reconcile retrieve settings limit) s
        before) now, c.id = t.id) ↔
        t ∈ (afterBatches (staysOpen retrieve s) (settings.batch limit)
          (staleTransactions s (settings.olderThan first)) before.length).take
            (settings.batch limit)) := by
    rintro before now after rfl
    obtain ⟨f, hprogress⟩ := @exists_progress_run retrieve _ settings limit s h hretrieve before
      fun now hmem => hlater now (List.mem_append_left _ hmem)
    exact hprogress.exists_candidate_iff
      (hlater now (List.mem_append_right _ List.mem_cons_self)) ht (afterBatches_sublist _ _)
  constructor
  · rintro ⟨before, now, after, hsplit, hlooked⟩
    refine ⟨before.length, ?_, (hround before now after hsplit).mp hlooked⟩
    rw [hsplit, List.length_append, List.length_cons]
    omega
  · rintro ⟨m, hm, htaken⟩
    have hsplit : calls = calls.take m ++ calls[m] :: calls.drop (m + 1) := by
      rw [← List.drop_eq_getElem_cons hm, List.take_append_drop]
    refine ⟨calls.take m, calls[m], calls.drop (m + 1), hsplit, (hround _ _ _ hsplit).mpr ?_⟩
    rwa [List.length_take_of_le hm.le]

theorem batch_pos (settings : ReconciliationSettings) (limit : Option ℕ) :
    0 < settings.batch limit := by
  unfold ReconciliationSettings.batch
  omega

theorem reachedInTime_iff (h : Independent s) (hretrieve : AnswersAsked retrieve) (first : Millis) :
    ReachedInTime retrieve settings limit s first ↔
      (staleTransactions s (settings.olderThan first)).length ≤
        reached (staysOpen retrieve s) (settings.batch limit)
          (staleTransactions s (settings.olderThan first)) (batches settings limit s first) := by
  constructor
  · intro hreached
    have hcalls : ∀ now ∈ List.replicate (batches settings limit s first) first, first ≤ now :=
      fun now hmem => (List.eq_of_mem_replicate hmem).ge
    have hall := (looksAtAll_iff h hretrieve hcalls).mp (hreached _ hcalls List.length_replicate)
    rwa [List.length_replicate] at hall
  · intro hle calls hcalls hlength
    exact (looksAtAll_iff h hretrieve hcalls).mpr (hlength ▸ hle)

theorem reachedAtLast_iff (h : Independent s) (hretrieve : AnswersAsked retrieve) (first : Millis) :
    ReachedAtLast retrieve settings limit s first ↔
      (staleTransactions s (settings.olderThan first)).dropLast.countP (staysOpen retrieve s) <
        settings.batch limit := by
  rw [← exists_length_le_reached_iff (batch_pos settings limit)]
  constructor
  · rintro ⟨calls, hcalls, hall⟩
    exact ⟨_, (looksAtAll_iff h hretrieve hcalls).mp hall⟩
  · rintro ⟨n, hle⟩
    have hcalls : ∀ now ∈ List.replicate n first, first ≤ now :=
      fun now hmem => (List.eq_of_mem_replicate hmem).ge
    refine ⟨List.replicate n first, hcalls, (looksAtAll_iff h hretrieve hcalls).mpr ?_⟩
    rwa [List.length_replicate]

/-- **How far reconciliation gets.** As many calls as there are batches of the stale transactions
look at each of them exactly when the places that those which stay open take up again leave
enough for the others; and any number of calls does exactly when fewer of them stay open
before the last one than a batch has places. -/
theorem reconciliation_reaches_iff (h : Independent s) (hretrieve : AnswersAsked retrieve)
    (settings : ReconciliationSettings) (limit : Option ℕ) (first : Millis) :
    (ReachedInTime retrieve settings limit s first ↔
      (staleTransactions s (settings.olderThan first)).length ≤
        reached (staysOpen retrieve s) (settings.batch limit)
          (staleTransactions s (settings.olderThan first)) (batches settings limit s first)) ∧
      (ReachedAtLast retrieve settings limit s first ↔
        (staleTransactions s (settings.olderThan first)).dropLast.countP (staysOpen retrieve s) <
          settings.batch limit) :=
  ⟨reachedInTime_iff h hretrieve first, reachedAtLast_iff h hretrieve first⟩

namespace Example

/-- A payment that the provider does not know. -/
def unknownPayment : PaymentTransaction where
  id := "first"
  organizationId := "reconciled"
  internalReference := "fz_organiza_0001"
  planCode := .starter
  amountMinor := 500000
  currency := "NGN"
  status := .pending

/-- A payment that was made, a little later. -/
def madePayment : PaymentTransaction where
  id := "second"
  organizationId := "reconciled"
  internalReference := "fz_organiza_0002"
  planCode := .starter
  amountMinor := 500000
  currency := "NGN"
  status := .pending
  createdAt := 1

def twoPending : Store where
  organizations := ⟨[{ id := "reconciled" }], by simp⟩
  transactions := ⟨[unknownPayment, madePayment], by decide⟩
  subscriptions := Table.empty _
  receipts := Table.empty _
  upgradeRequests := []
  users := []
  notifications := []

/-- The provider fails to verify the first one and reports the second one paid. -/
def provider : Retrieve := fun reference =>
  if reference = "fz_organiza_0002" then
    .ok { providerReference := reference, internalReference := reference, status := .paid
          amountMinor := some 500000, currency := "NGN" }
  else .error (.badGateway "PAYSTACK_PROVIDER_ERROR" "Payment provider request failed.")

theorem independent_twoPending : Independent twoPending where
  references := by decide +kernel
  numbers := by decide +kernel

theorem answersAsked_provider : AnswersAsked provider := by
  intro reference trusted h
  unfold provider at h
  split at h
  · obtain rfl := Except.ok.inj h
    exact ⟨rfl, rfl⟩
  · cases h

end Example

open Example in
/-- A batch of two gets to both. -/
theorem both_reached :
    ReachedInTime provider {} (some 2) twoPending 2000000 :=
  (reconciliation_reaches_iff independent_twoPending answersAsked_provider {}
  (some 2) 2000000).1.mpr
    (by decide +kernel)

open Example in
/-- **One payment that the provider fails to verify keeps another from ever being looked at.** -/
theorem paid_payment_starves :
    ¬ ReachedInTime provider {} (some 1) twoPending 2000000 ∧
      ¬ ReachedAtLast provider {} (some 1) twoPending 2000000 := by
  constructor
  · rw [reachedInTime_iff independent_twoPending answersAsked_provider]
    decide +kernel
  · rw [reachedAtLast_iff independent_twoPending answersAsked_provider]
    decide +kernel

end FixZone.PaymentsService
