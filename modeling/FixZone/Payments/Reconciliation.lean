import FixZone.Library.Batches
import FixZone.Library.Window
import FixZone.Payments.Fulfilment

/-!
# Reconciliation

`reconcilePending` asks the provider about the oldest of the transactions that are neither paid
nor given up, and processes what it says. What is said here of one of them (`look_spec`): it
leaves the transactions that are open, or it stays one of them, which depends on what the
provider says and on whether the payment can be fulfilled, and not on the other transactions.
-/

namespace FixZone.PaymentsService

open Library ReportService

/-! ### The operation -/

/-- The settings of reconciliation, as numbers. -/
structure ReconciliationSettings where
  batchSize : ℤ := 25
  minAgeMinutes : ℤ := 30

/-- `batchSize`. -/
def ReconciliationSettings.batch (settings : ReconciliationSettings) (limit : Option ℕ) : ℕ :=
  (min (max 1 ((limit.map Int.ofNat).getD settings.batchSize)) 100).toNat

/-- `olderThan`. -/
def ReconciliationSettings.olderThan (settings : ReconciliationSettings) (now : Millis) : Millis :=
  now - max 1 settings.minAgeMinutes * 60000

/-- A transaction that is neither paid nor given up. -/
def PaymentTransaction.isOpen (t : PaymentTransaction) : Bool :=
  t.status = .initialized || t.status = .pending || t.status = .processing

/-- `orderBy: [{ createdAt: 'asc' }, { id: 'asc' }]`. -/
def oldestFirst (a b : PaymentTransaction) : Bool :=
  a.createdAt < b.createdAt || (a.createdAt = b.createdAt && a.id ≤ b.id)

/-- The open transactions that are not newer than an instant, the oldest first. -/
def staleTransactions (s : Store) (olderThan : Millis) : List PaymentTransaction :=
  (s.transactions.rows.filter fun t => t.isOpen && t.createdAt ≤ olderThan).insertionSort
    fun a b => oldestFirst a b

/-- The reference the provider is asked about. -/
def PaymentTransaction.askedReference (t : PaymentTransaction) : String :=
  t.providerReference.getD t.internalReference

/-- What `reconcilePending` counts. -/
structure ReconciliationCounts where
  scanned : ℕ := 0
  recovered : ℕ := 0
  reviewRequired : ℕ := 0
  providerFailed : ℕ := 0

/-- What `reconcilePending` counts of a transaction that was processed. -/
def ReconciliationCounts.count (counts : ReconciliationCounts) (result : PaymentTransaction) :
    ReconciliationCounts :=
  { counts with
    recovered := if result.settled then counts.recovered + 1 else counts.recovered
    reviewRequired :=
      if result.status = .reviewRequired then counts.reviewRequired + 1
      else counts.reviewRequired }

/-- `retrieveTransactionStatus` of the provider, by the reference. -/
abbrev Retrieve := String → Except PaymentError NormalizedProviderTransaction

variable (retrieve : Retrieve)

/-- A round of the loop of `reconcilePending`: what throws in it is counted and leaves the store. -/
def reconcileCandidate (now : Millis) (before : Store × ReconciliationCounts)
    (candidate : PaymentTransaction) : Store × ReconciliationCounts :=
  let processed := do
    let trusted ← retrieve candidate.askedReference
    processTrustedProviderTransaction now before.1 { trusted }
  match processed with
  | .ok (s', result) => (s', before.2.count result)
  | .error _ => (before.1, { before.2 with providerFailed := before.2.providerFailed + 1 })

/-- `reconcilePending`. `permission` is the verdict of `assertPermission`. The audit log is left
out. -/
def reconcilePending (settings : ReconciliationSettings) (permission : Except PaymentError PUnit)
    (limit : Option ℕ) (now : Millis) (s : Store) :
    Except PaymentError (Store × ReconciliationCounts) := do
  permission
  let candidates := (staleTransactions s (settings.olderThan now)).take (settings.batch limit)
  return candidates.foldl (reconcileCandidate retrieve now) (s, { scanned := candidates.length })

/-! ### One transaction -/

/-- Whether `fulfillPayment` goes through. -/
def canFulfil (s : Store) (t : PaymentTransaction) : Bool :=
  (resolveActivePlan t.planCode.text).isOk && (s.organization? t.organizationId).isSome &&
    !receiptNumberTaken s t

/-- Whether a transaction is still open when it has been looked at: the provider does not answer, or
it reports a payment that cannot be fulfilled, or neither a payment nor its end. -/
def staysOpen (s : Store) (t : PaymentTransaction) : Bool :=
  match retrieve t.askedReference with
  | .error _ => true
  | .ok trusted =>
    (paymentMismatch t trusted).isNone &&
      if trusted.status = .paid then !canFulfil s t else failedStatus trusted.status = .processing

/-- The columns that nothing in a reconciliation writes. -/
structure SameTerms (t t' : PaymentTransaction) : Prop where
  id : t'.id = t.id
  createdAt : t'.createdAt = t.createdAt
  organizationId : t'.organizationId = t.organizationId
  internalReference : t'.internalReference = t.internalReference
  providerReference : t'.providerReference = t.providerReference
  planCode : t'.planCode = t.planCode
  amountMinor : t'.amountMinor = t.amountMinor
  currency : t'.currency = t.currency

theorem SameTerms.refl (t : PaymentTransaction) : SameTerms t t :=
  ⟨rfl, rfl, rfl, rfl, rfl, rfl, rfl, rfl⟩

theorem SameTerms.trans {t t' t'' : PaymentTransaction} (h : SameTerms t t')
    (h' : SameTerms t' t'') : SameTerms t t'' where
  id := h'.id.trans h.id
  createdAt := h'.createdAt.trans h.createdAt
  organizationId := h'.organizationId.trans h.organizationId
  internalReference := h'.internalReference.trans h.internalReference
  providerReference := h'.providerReference.trans h.providerReference
  planCode := h'.planCode.trans h.planCode
  amountMinor := h'.amountMinor.trans h.amountMinor
  currency := h'.currency.trans h.currency

/-- The provider answers about the transaction it was asked about; its two references are one. -/
def AnswersAsked : Prop :=
  ∀ reference trusted, retrieve reference = .ok trusted →
    trusted.internalReference = reference ∧ trusted.providerReference = reference

/-- The open transactions do not get in each other's way. -/
structure Independent (s : Store) : Prop where
  /-- What the provider is asked about is the reference of one transaction. -/
  references : ∀ t ∈ s.transactions.rows, t.isOpen → ∀ u ∈ s.transactions.rows,
    u.internalReference = t.askedReference ∨ u.providerReference = some t.askedReference →
      u.id = t.id
  /-- No two of them get the same receipt number. -/
  numbers : ∀ t ∈ s.transactions.rows, ∀ u ∈ s.transactions.rows, t.isOpen → u.isOpen →
    receiptNumber t.internalReference = receiptNumber u.internalReference → t.id = u.id

variable {retrieve} {s s' : Store} {t u : PaymentTransaction} {now : Millis}

theorem eq_of_id_eq (ht : t ∈ s.transactions.rows) (hu : u ∈ s.transactions.rows)
    (h : t.id = u.id) : t = u := by
  have hfound := Table.mem_rows_iff.mp ht
  rw [h, Table.mem_rows_iff.mp hu] at hfound
  exact (Option.some.inj hfound).symm

/-- What the provider says of an open transaction is about that one. -/
theorem Independent.existing (h : Independent s) (hretrieve : AnswersAsked retrieve)
    (ht : t ∈ s.transactions.rows) (hopen : t.isOpen) {trusted : NormalizedProviderTransaction}
    (hanswer : retrieve t.askedReference = .ok trusted) :
    existingTransaction s trusted = some t := by
  obtain ⟨hinternal, hprovider⟩ := hretrieve _ _ hanswer
  have hself : t.internalReference = t.askedReference ∨
      t.providerReference = some t.askedReference := by
    unfold PaymentTransaction.askedReference
    cases t.providerReference with
    | none => exact .inl rfl
    | some reference => exact .inr rfl
  unfold existingTransaction
  rw [hinternal, hprovider]
  cases hfound : s.transactions.rows.find? fun transaction =>
      transaction.internalReference = t.askedReference ||
        transaction.providerReference = some t.askedReference with
  | none =>
    have hnone := List.find?_eq_none.mp hfound t ht
    simp only [Bool.or_eq_true, decide_eq_true_eq] at hnone
    exact absurd hself hnone
  | some u =>
    have hmatches := List.find?_some hfound
    simp only [Bool.or_eq_true, decide_eq_true_eq] at hmatches
    have hmem := List.mem_of_find?_eq_some hfound
    exact congrArg some (eq_of_id_eq hmem ht (h.references t ht hopen u hmem hmatches))

theorem settled_of_isOpen (hopen : t.isOpen) : t.settled = false := by
  unfold PaymentTransaction.isOpen at hopen
  unfold PaymentTransaction.settled
  cases hstatus : t.status <;> simp_all

/-- The store after a round of the loop. -/
def look (retrieve : Retrieve) (now : Millis) (s : Store) (t : PaymentTransaction) : Store :=
  (reconcileCandidate retrieve now (s, {}) t).1

theorem canFulfil_iff {notice : Notice} : canFulfil s t = true ↔
    ∃ result, fulfillPayment now s t notice = .ok result := by
  have hparts : canFulfil s t = true ↔ ∃ plan organization,
      resolveActivePlan t.planCode.text = .ok plan ∧
        s.organization? t.organizationId = some organization ∧
          receiptNumberTaken s t = false := by
    unfold canFulfil
    cases resolveActivePlan t.planCode.text <;> cases s.organization? t.organizationId <;>
      simp [Except.isOk, Except.toBool]
  rw [hparts]
  constructor
  · rintro ⟨plan, organization, hplan, horganization, hnumber⟩
    exact ⟨_, fulfillPayment_eq_ok_iff.mpr
      ⟨plan, organization, hplan, horganization, hnumber, rfl⟩⟩
  · rintro ⟨result, hok⟩
    obtain ⟨plan, organization, hplan, horganization, hnumber, -⟩ := fulfillPayment_eq_ok_iff.mp hok
    exact ⟨plan, organization, hplan, horganization, hnumber⟩

/-- **What a round does to an open transaction.** -/
theorem look_cases (h : Independent s) (hretrieve : AnswersAsked retrieve)
    (ht : t ∈ s.transactions.rows) (hopen : t.isOpen) :
    (look retrieve now s t = s ∧ staysOpen retrieve s t = true) ∨
      (∃ data : Patch PaymentTransaction.id, look retrieve now s t = s.updateTransaction t.id data ∧
        (∀ u, SameTerms u (data.apply u)) ∧ (data.apply t).isOpen = staysOpen retrieve s t) ∨
      (staysOpen retrieve s t = false ∧ ∃ notice plan organization,
        s.organization? t.organizationId = some organization ∧
          look retrieve now s t = fulfilledStore now s t notice plan organization) := by
  unfold look reconcileCandidate staysOpen
  cases hanswer : retrieve t.askedReference with
  | error e => exact .inl ⟨rfl, rfl⟩
  | ok trusted =>
    have hprocess : processTrustedProviderTransaction now s { trusted } =
        settleTransaction now s t { trusted } := by
      rw [processTrustedProviderTransaction, h.existing hretrieve ht hopen hanswer, orThrow_some,
        ok_bind]
    rw [ok_bind, hprocess, settleTransaction, settled_of_isOpen hopen]
    dsimp only
    cases hmismatch : paymentMismatch t trusted with
    | some mismatch =>
      refine .inr (.inl ⟨reviewData now { trusted } mismatch, rfl, ?_, rfl⟩)
      exact fun u => ⟨rfl, rfl, rfl, rfl, rfl, rfl, rfl, rfl⟩
    | none =>
      by_cases hpaid : trusted.status = .paid
      · simp only [Bool.false_eq_true, if_false, hpaid, if_true, Option.isNone_none, Bool.true_and]
        cases hfulfil : fulfillPayment now s t { trusted } with
        | ok result =>
          have hcan : canFulfil s t = true := canFulfil_iff.mpr ⟨result, hfulfil⟩
          obtain ⟨plan, organization, -, horganization, -, hresult⟩ :=
            fulfillPayment_eq_ok_iff.mp hfulfil
          refine .inr (.inr ⟨by rw [hcan]; rfl, { trusted }, plan, organization, horganization, ?_⟩)
          exact congrArg Prod.fst hresult
        | error e =>
          have hcannot : canFulfil s t = false := by
            rw [Bool.eq_false_iff]
            intro hcan
            obtain ⟨result, hok⟩ := canFulfil_iff.mp hcan
            rw [hfulfil] at hok
            cases hok
          exact .inl ⟨rfl, by rw [hcannot]; rfl⟩
      · simp only [Bool.false_eq_true, if_false, hpaid, Option.isNone_none, Bool.true_and]
        refine .inr (.inl ⟨unpaidData now { trusted }, rfl, ?_, ?_⟩)
        · exact fun u => ⟨rfl, rfl, rfl, rfl, rfl, rfl, rfl, rfl⟩
        · unfold PaymentTransaction.isOpen unpaidData failedStatus
          dsimp only
          split_ifs <;> rfl

/-! ### Several transactions -/

/-- What looking at the transactions `cs` makes of the rows: the others stay as they are, these are
open or not as was said, and what is still open would stay open or not as before. -/
structure LookedAt (retrieve : Retrieve) (cs : List PaymentTransaction) (s s' : Store)
    (f : PaymentTransaction → PaymentTransaction) : Prop where
  rows : s'.transactions.rows = s.transactions.rows.map f
  terms : ∀ t, SameTerms t (f t)
  others : ∀ t ∈ s.transactions.rows, t ∉ cs → f t = t
  opens : ∀ t ∈ cs, (f t).isOpen = staysOpen retrieve s t
  stays : ∀ t ∈ s.transactions.rows, t.isOpen → (f t).isOpen →
    staysOpen retrieve s' (f t) = staysOpen retrieve s t

theorem askedReference_eq (h : SameTerms t u) : u.askedReference = t.askedReference := by
  unfold PaymentTransaction.askedReference
  rw [h.providerReference, h.internalReference]

/-- Whether a transaction stays open is a matter of its terms, and of the payment being one that can
be fulfilled. -/
theorem staysOpen_congr (h : SameTerms t u) (hcan : canFulfil s' u = canFulfil s t) :
    staysOpen retrieve s' u = staysOpen retrieve s t := by
  have hmismatch : ∀ trusted, paymentMismatch u trusted = paymentMismatch t trusted :=
    fun trusted => by
    unfold paymentMismatch
    rw [h.amountMinor, h.currency, h.internalReference, h.providerReference]
  unfold staysOpen
  rw [askedReference_eq h, hcan]
  simp only [hmismatch]

theorem canFulfil_congr (h : SameTerms t u)
    (horganizations : (s'.organization? t.organizationId).isSome =
      (s.organization? t.organizationId).isSome)
    (hnumber : receiptNumberTaken s' u = receiptNumberTaken s t) :
    canFulfil s' u = canFulfil s t := by
  unfold canFulfil
  rw [h.planCode, h.organizationId, horganizations, hnumber]

/-- A row that is added or is there takes no number but its own. -/
theorem any_upsert {receipts : Table PaymentReceipt.transactionId} {receipt : PaymentReceipt}
    {p : PaymentReceipt → Bool} (hp : p receipt = false) :
    (receipts.upsert receipt { apply := id }).rows.any p = receipts.rows.any p := by
  unfold Table.upsert
  split
  · have hsame : Table.patchAt receipt.transactionId
        (⟨id, fun _ => rfl⟩ : Patch PaymentReceipt.transactionId) = id := by
      funext row
      unfold Table.patchAt
      split <;> rfl
    show (receipts.rows.map _).any p = _
    rw [hsame, List.map_id]
  · unfold Table.insert
    split
    · rfl
    · rw [List.any_append, List.any_cons, hp]
      simp

/-- The receipt of another transaction takes no number but its own. -/
theorem receiptNumberTaken_fulfilledStore {u' : PaymentTransaction} {notice : Notice}
    {plan : CommercialPlan} {organization : Organization} (h : SameTerms u u') (hne : u.id ≠ t.id)
    (hnumber : receiptNumber t.internalReference ≠ receiptNumber u.internalReference) :
    receiptNumberTaken (fulfilledStore now s t notice plan organization) u' =
      receiptNumberTaken s u := by
  have hreceipt : (fulfilledStore now s t notice plan organization).receipts.find? u.id =
      s.receipts.find? u.id := (Table.find?_upsert _ _ _ _).trans (if_neg hne)
  unfold receiptNumberTaken
  rw [h.id, h.internalReference, hreceipt]
  congr 1
  exact any_upsert (decide_eq_false hnumber)

/-- What happens to one transaction. -/
theorem exists_lookedAt_look (h : Independent s) (hretrieve : AnswersAsked retrieve)
    (ht : t ∈ s.transactions.rows) (hopen : t.isOpen) :
    ∃ f, LookedAt retrieve [t] s (look retrieve now s t) f := by
  rcases @look_cases retrieve s t now h hretrieve ht hopen with
    ⟨hsame, hstays⟩ | ⟨data, hlook, hterms, hstays⟩ |
    ⟨hstays, notice, plan, organization, horganization, hlook⟩
  · refine ⟨id, by rw [hsame, List.map_id], SameTerms.refl, fun _ _ _ => rfl, fun c hc => ?_, ?_⟩
    · obtain rfl := List.mem_singleton.mp hc
      rw [hstays]
      exact hopen
    · rw [hsame]
      exact fun _ _ _ _ => rfl
  · have hterms' : ∀ u, SameTerms u (Table.patchAt t.id data u) := fun u => by
      unfold Table.patchAt
      split
      · exact hterms u
      · exact SameTerms.refl u
    refine ⟨Table.patchAt t.id data, by rw [hlook]; rfl, hterms', fun u hu hnot => ?_,
      fun c hc => ?_, fun u _ _ _ => ?_⟩
    · have hne : u.id ≠ t.id := fun hid => hnot (List.mem_singleton.mpr (eq_of_id_eq hu ht hid))
      exact if_neg hne
    · obtain rfl := List.mem_singleton.mp hc
      rw [Table.patchAt, if_pos rfl, hstays]
    · rw [hlook]
      refine staysOpen_congr (hterms' u) (canFulfil_congr (hterms' u) rfl ?_)
      unfold receiptNumberTaken
      rw [(hterms' u).id, (hterms' u).internalReference]
      rfl
  · have hterms' : ∀ u, SameTerms u (Table.patchAt t.id (paidData now notice) u) := fun u => by
      unfold Table.patchAt
      split <;> exact ⟨rfl, rfl, rfl, rfl, rfl, rfl, rfl, rfl⟩
    refine ⟨Table.patchAt t.id (paidData now notice), by rw [hlook]; rfl, hterms',
      fun u hu hnot => ?_, fun c hc => ?_, fun u hu huopen hstill => ?_⟩
    · have hne : u.id ≠ t.id := fun hid => hnot (List.mem_singleton.mpr (eq_of_id_eq hu ht hid))
      exact if_neg hne
    · obtain rfl := List.mem_singleton.mp hc
      rw [Table.patchAt, if_pos rfl, hstays]
      rfl
    · have hne : u.id ≠ t.id := by
        intro hid
        rw [Table.patchAt, if_pos hid] at hstill
        cases hstill
      have hnumber : receiptNumber t.internalReference ≠ receiptNumber u.internalReference :=
        fun hsame => hne (h.numbers t ht u hu hopen huopen hsame).symm
      rw [hlook]
      refine staysOpen_congr (hterms' u) (canFulfil_congr (hterms' u) ?_
        (receiptNumberTaken_fulfilledStore (hterms' u) hne hnumber))
      rw [Store.organization?, fulfilledStore, Table.find?_modify]
      split
      · exact Option.isSome_map
      · rfl

variable {cs : List PaymentTransaction} {f : PaymentTransaction → PaymentTransaction}

/-- What is open after a look was open before. -/
theorem LookedAt.isOpen_of (h : LookedAt retrieve cs s s' f) (hopens : ∀ c ∈ cs, c.isOpen)
    (ht : t ∈ s.transactions.rows) (hstill : (f t).isOpen) : t.isOpen := by
  by_cases hmem : t ∈ cs
  · exact hopens t hmem
  · rwa [h.others t ht hmem] at hstill

theorem Independent.lookedAt (h : Independent s) (hlooked : LookedAt retrieve cs s s' f)
    (hopens : ∀ c ∈ cs, c.isOpen) : Independent s' where
  references := by
    rw [hlooked.rows]
    simp only [List.forall_mem_map]
    intro t ht hopen u hu hmatches
    rw [askedReference_eq (hlooked.terms t), (hlooked.terms u).internalReference,
      (hlooked.terms u).providerReference] at hmatches
    rw [(hlooked.terms u).id, (hlooked.terms t).id]
    exact h.references t ht (hlooked.isOpen_of hopens ht hopen) u hu hmatches
  numbers := by
    rw [hlooked.rows]
    simp only [List.forall_mem_map]
    intro t ht u hu hopen hopen' hsame
    rw [(hlooked.terms t).internalReference, (hlooked.terms u).internalReference] at hsame
    rw [(hlooked.terms t).id, (hlooked.terms u).id]
    exact h.numbers t ht u hu (hlooked.isOpen_of hopens ht hopen)
      (hlooked.isOpen_of hopens hu hopen') hsame

/-- Looking at one transaction and then at others. -/
theorem LookedAt.cons {s'' : Store} {c : PaymentTransaction}
    {g : PaymentTransaction → PaymentTransaction} (hfirst : LookedAt retrieve [c] s s' f)
    (hrest : LookedAt retrieve cs s' s'' g) (hmem : ∀ t ∈ c :: cs, t ∈ s.transactions.rows)
    (hopens : ∀ t ∈ c :: cs, t.isOpen) (hnot : c ∉ cs) :
    LookedAt retrieve (c :: cs) s s'' (g ∘ f) := by
  obtain ⟨hc, hcs⟩ := List.forall_mem_cons.mp hmem
  obtain ⟨hopen, hopens⟩ := List.forall_mem_cons.mp hopens
  have hrow : ∀ t ∈ s.transactions.rows, f t ∈ s'.transactions.rows := fun t ht => by
    rw [hfirst.rows]
    exact List.mem_map_of_mem ht
  have hfixed : ∀ t ∈ s.transactions.rows, t ≠ c → f t = t := fun t ht hne =>
    hfirst.others t ht fun heq => hne (List.mem_singleton.mp heq)
  -- the row of `c` is not one of those that are looked at later
  have hapart : f c ∉ cs := fun hmem => by
    have hsame := eq_of_id_eq (hcs _ hmem) hc (hfirst.terms c).id
    rw [hsame] at hmem
    exact hnot hmem
  constructor
  · rw [hrest.rows, hfirst.rows, List.map_map]
  · exact fun t => (hfirst.terms t).trans (hrest.terms (f t))
  · intro t ht hother
    obtain ⟨hne, hout⟩ := not_or.mp (mt List.mem_cons.mpr hother)
    have hsame := hfixed t ht hne
    have hkept := hrest.others (f t) (hrow t ht) (by rwa [hsame])
    exact hkept.trans hsame
  · intro t ht
    rcases List.mem_cons.mp ht with rfl | ht
    · rw [Function.comp_apply, hrest.others (f t) (hrow t hc) hapart]
      exact hfirst.opens t (List.mem_singleton_self t)
    · have hne : t ≠ c := fun heq => hnot (heq ▸ ht)
      have hsame := hfixed t (hcs t ht) hne
      have hstays := hfirst.stays t (hcs t ht) (hopens t ht) (by rw [hsame]; exact hopens t ht)
      rw [hsame] at hstays
      rw [Function.comp_apply, hsame, hrest.opens t ht, hstays]
  · intro t ht htopen hstill
    have hbetween : (f t).isOpen := hrest.isOpen_of hopens (hrow t ht) hstill
    rw [Function.comp_apply, hrest.stays (f t) (hrow t ht) hbetween hstill,
      hfirst.stays t ht htopen hbetween]

/-- **What happens to several transactions**, one after the other. -/
theorem exists_lookedAt_foldl (h : Independent s) (hretrieve : AnswersAsked retrieve)
    (hmem : ∀ c ∈ cs, c ∈ s.transactions.rows) (hopens : ∀ c ∈ cs, c.isOpen) (hnodup : cs.Nodup) :
    ∃ f, LookedAt retrieve cs s (cs.foldl (look retrieve now) s) f := by
  induction cs generalizing s with
  | nil => exact ⟨id, by simp, SameTerms.refl, fun _ _ _ => rfl, by simp, fun _ _ _ _ => rfl⟩
  | cons c cs ih =>
    obtain ⟨hc, hcs⟩ := List.forall_mem_cons.mp hmem
    obtain ⟨hopen, hrest⟩ := List.forall_mem_cons.mp hopens
    obtain ⟨hnot, hnodup⟩ := List.nodup_cons.mp hnodup
    obtain ⟨f, hfirst⟩ := @exists_lookedAt_look retrieve s c now h hretrieve hc hopen
    have hopen' : ∀ c' ∈ [c], c'.isOpen := by simpa using hopen
    -- the transactions that come after `c` are untouched by the look at it
    have hcs' : ∀ c' ∈ cs, c' ∈ (look retrieve now s c).transactions.rows := fun c' hc' => by
      have hsame : f c' = c' :=
        hfirst.others c' (hcs c' hc') fun heq => hnot (List.mem_singleton.mp heq ▸ hc')
      rw [hfirst.rows, ← hsame]
      exact List.mem_map_of_mem (hcs c' hc')
    obtain ⟨g, hlater⟩ := ih (h.lookedAt hfirst hopen') hcs' hrest hnodup
    exact ⟨g ∘ f, hfirst.cons hlater hmem hopens hnot⟩

end FixZone.PaymentsService
