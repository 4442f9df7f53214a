import FixZone.Trust.Service
import FixZone.Library.Run

/-!
# Disputes

`createDispute`, `assignDispute`, `updateDisputeStatus`, `escalateDispute` and
`escalateOverdueDisputes`, and the columns that stamp a dispute closed. A change of the
status writes the stamp with it. An escalation sets a status of its own and leaves the
stamp alone, so it is `escalateDispute` of a closed dispute, and nothing else, that parts
the two (`stamped_iff`).
-/

namespace FixZone.TrustService

open Library ReportService

/-! ### The calls -/

/-- The status as the messages spell it. -/
def DisputeStatus.text : DisputeStatus → String
  | .open => "OPEN"
  | .underReview => "UNDER_REVIEW"
  | .awaitingClientResponse => "AWAITING_CLIENT_RESPONSE"
  | .awaitingProviderResponse => "AWAITING_PROVIDER_RESPONSE"
  | .resolved => "RESOLVED"
  | .rejected => "REJECTED"
  | .escalated => "ESCALATED"
  | .closed => "CLOSED"

/-- `terminalStatuses.includes`. -/
def DisputeStatus.isTerminal (status : DisputeStatus) : Bool :=
  [.resolved, .rejected, DisputeStatus.closed].contains status

/-- `CreateDisputeDto`. -/
structure CreateDisputeDto where
  relatedEntityType : String
  relatedEntityId : String
  againstUserId : Option String := none
  title : String
  description : String
  priority : Option DisputePriority := none
  metadata : Option Json := none

/-- `UpdateDisputeStatusDto`. -/
structure UpdateDisputeStatusDto where
  status : DisputeStatus
  resolutionSummary : Option String := none

/-- `AssignDisputeDto`. -/
structure AssignDisputeDto where
  assignedAdminId : String
  note : Option String := none

/-- `nextCaseNumber`. -/
def nextCaseNumber (around : Surroundings) (s : TrustStore) : String :=
  let start := "SZ-CASE-" ++ toString around.year ++ "-"
  let count := s.disputes.rows.countP fun dispute =>
    start.toList.isPrefixOf dispute.caseNumber.toList
  start ++ padded 6 (count + 1)

/-- Whether the constraints of the database let a dispute in: its id and its case number are free,
and the user it is against exists. -/
def TrustStore.admits (s : TrustStore) (dispute : DisputeCase) : Bool :=
  (s.disputes.find? dispute.id).isNone &&
    s.disputes.rows.all (fun row => row.caseNumber ≠ dispute.caseNumber) &&
    dispute.againstUserId.all fun userId => (s.users.find? userId).isSome

/-- `createDispute`. -/
def createDispute (around : Surroundings) (user : TrustUser) (dto : CreateDisputeDto) :
    TrustCall DisputeCase := do
  assertEnforcementAllows around user .openDispute
  let entitlement ← ensureEntitlement user.id
  ofExcept (throwIf (!entitlement.canOpenDispute)
    (forbidden "Dispute access is not enabled for this account"))
  let s ← get
  let dispute : DisputeCase :=
    { id := around.newId
      caseNumber := nextCaseNumber around s
      openedById := user.id
      againstUserId := trimmedOrNull dto.againstUserId
      organizationId := user.organizationId
      relatedEntityType := trim dto.relatedEntityType
      relatedEntityId := trim dto.relatedEntityId
      title := trim dto.title
      description := trim dto.description
      priority := dto.priority.getD .medium
      createdAt := around.now }
  ofExcept (throwIf (!s.admits dispute) constraintError)
  let message : DisputeMessage :=
    { disputeId := dispute.id, authorId := user.id, message := trim dto.description
      metadata := dto.metadata.getD (.obj []) }
  set { s with
    disputes := s.disputes.insert dispute, disputeMessages := s.disputeMessages ++ [message] }
  return dispute

/-- The dispute of an administrator's call. -/
def findDispute (user : TrustUser) (id : String) (s : TrustStore) : Except HttpError DisputeCase :=
  do
  let dispute ← orThrow (s.disputes.find? id) (notFound "Dispute not found")
  throwIf (!canAdminAccess user dispute.organizationId)
    (forbidden "Dispute is outside your organization scope")
  return dispute

/-- Write a dispute, and a message about it if there is one. -/
def writeDispute (id : String) (data : Patch DisputeCase.id) (message : Option DisputeMessage) :
    TrustCall PUnit :=
  modify fun s => { s with
    disputes := s.disputes.modify id data
    disputeMessages := s.disputeMessages ++ message.toList }

/-- What `updateDisputeStatus` writes. -/
def statusData (around : Surroundings) (user : TrustUser) (dto : UpdateDisputeStatusDto) :
    Patch DisputeCase.id where
  apply dispute := { dispute with
    status := dto.status
    resolutionSummary := trimmedOrNull dto.resolutionSummary
    closedAt := if dto.status.isTerminal then some around.now else none
    closedById := if dto.status.isTerminal then some user.id else none }

/-- `updateDisputeStatus`. -/
def updateDisputeStatus (around : Surroundings) (user : TrustUser) (id : String)
    (dto : UpdateDisputeStatusDto) : TrustCall DisputeCase := do
  let dispute ← ofExcept (findDispute user id (← get))
  writeDispute id (statusData around user dto)
    ((trimmedOrNull dto.resolutionSummary).map fun message =>
      { disputeId := id, authorId := user.id, message
        metadata := .obj [("systemType", .str "STATUS_NOTE"), ("status", .str dto.status.text)] })
  return (statusData around user dto).apply dispute

/-- What `assignDispute` writes. -/
def assignData (assignee : Identity) : Patch DisputeCase.id where
  apply dispute := { dispute with assignedAdminId := some assignee.id }

/-- The administrator a dispute is given to. -/
def findAssignee (user : TrustUser) (assignedAdminId : String) (s : TrustStore) :
    Except HttpError Identity := do
  let assignee ← orThrow ((s.users.find? assignedAdminId).filter fun row => isAdminRole row.role)
    (notFound "Admin assignee not found")
  throwIf (assignee.accountStatus ≠ .active) (forbidden "Admin assignee is not active")
  throwIf (!canAdminAccess user assignee.organizationId)
    (forbidden "Assignee is outside your organization scope")
  return assignee

/-- `assignDispute`. -/
def assignDispute (user : TrustUser) (id : String) (dto : AssignDisputeDto) :
    TrustCall DisputeCase := do
  let dispute ← ofExcept (findDispute user id (← get))
  let assignee ← ofExcept (findAssignee user dto.assignedAdminId (← get))
  writeDispute id (assignData assignee)
    ((trimmedOrNull dto.note).map fun message =>
      { disputeId := id, authorId := user.id, message
        metadata := .obj
          [("systemType", .str "ASSIGNMENT_NOTE"), ("assignedAdminId", .str assignee.id)] })
  return (assignData assignee).apply dispute

/-- What `escalateDispute` writes. -/
def escalationData (around : Surroundings) : Patch DisputeCase.id where
  apply dispute := { dispute with status := .escalated, escalatedAt := some around.now }

/-- `escalateDispute`. -/
def escalateDispute (around : Surroundings) (user : TrustUser) (id : String) :
    TrustCall DisputeCase := do
  let dispute ← ofExcept (findDispute user id (← get))
  writeDispute id (escalationData around) (some
    { disputeId := id, authorId := user.id
      message := "This dispute has been escalated for priority review."
      metadata := .obj [("systemType", .str "ESCALATION")] })
  return (escalationData around).apply dispute

/-- The condition of the disputes that `escalateOverdueDisputes` takes. -/
def overdue (around : Surroundings) (user : TrustUser) (dispute : DisputeCase) : Bool :=
  (user.role = .superAdmin ||
      dispute.organizationId = some (user.organizationId.getD "__none__")) &&
    [.open, DisputeStatus.underReview].contains dispute.status &&
    ([.high, DisputePriority.urgent].contains dispute.priority ||
      decide (dispute.createdAt < around.now - 48 * 60 * 60 * 1000))

/-- `escalateOverdueDisputes`. -/
def escalateOverdueDisputes (around : Surroundings) (user : TrustUser) : TrustCall ℕ := do
  ofExcept (throwIf (!isAdminRole user.role) (forbidden "Dispute escalation is admin-only"))
  let disputes := (((← get).disputes.rows.filter (overdue around user)).take 100).map (·.id)
  disputes.forM fun id => do
    let _ ← escalateDispute around user id
  return disputes.length

/-! ### Runs -/

/-- A call of the five, or what other services make of the accounts, the entitlements and the
settings in the meantime. -/
inductive DisputeRequest where
  | createDispute (dto : CreateDisputeDto)
  | assignDispute (id : String) (dto : AssignDisputeDto)
  | updateDisputeStatus (id : String) (dto : UpdateDisputeStatusDto)
  | escalateDispute (id : String)
  | escalateOverdueDisputes
  | elsewhere (users : Table Identity.id) (entitlements : Table UserEntitlement.userId)
      (settings : Table PlatformSetting.key)

/-- A request of a user. -/
structure DisputeEvent where
  around : Surroundings
  user : TrustUser
  request : DisputeRequest

/-- One step of a run. -/
def disputeStep (event : DisputeEvent) (s : TrustStore) : TrustStore :=
  match event.request with
  | .createDispute dto => after (createDispute event.around event.user dto) s
  | .assignDispute id dto => after (assignDispute event.user id dto) s
  | .updateDisputeStatus id dto => after (updateDisputeStatus event.around event.user id dto) s
  | .escalateDispute id => after (escalateDispute event.around event.user id) s
  | .escalateOverdueDisputes => after (escalateOverdueDisputes event.around event.user) s
  | .elsewhere users entitlements settings => { s with users, entitlements, settings }

variable {around : Surroundings} {user : TrustUser} {s s' : TrustStore} {id k : String}

/-! ### What the calls leave of a dispute -/

theorem get_run (s : TrustStore) : (get : TrustCall TrustStore) s = .ok s s := rfl

theorem findDispute_eq_ok {dispute : DisputeCase} : findDispute user id s = .ok dispute ↔
    s.disputes.find? id = some dispute ∧ canAdminAccess user dispute.organizationId := by
  unfold findDispute
  rw [orThrow_bind_eq_ok]
  constructor
  · rintro ⟨dispute', hrow, h⟩
    rw [throwIf_bind_eq_ok, pure_eq_ok] at h
    obtain ⟨haccess, rfl⟩ := h
    exact ⟨hrow, by simpa using haccess⟩
  · rintro ⟨hrow, haccess⟩
    exact ⟨dispute, hrow, throwIf_bind_eq_ok.mpr ⟨by simpa using haccess, rfl⟩⟩

/-- A call that finds its dispute goes on, and one that does not leaves everything. -/
theorem after_findDispute_bind {α : Type} (f : DisputeCase → TrustCall α) :
    after (do let dispute ← ofExcept (findDispute user id (← get)); f dispute) s =
      match findDispute user id s with
      | .ok dispute => after (f dispute) s
      | .error _ => s := by
  rw [after_bind, get_run]
  dsimp only
  rw [after_bind]
  cases findDispute user id s <;> rfl

theorem after_escalateDispute : (after (escalateDispute around user id) s).disputes =
    match findDispute user id s with
    | .ok _ => s.disputes.modify id (escalationData around)
    | .error _ => s.disputes := by
  unfold escalateDispute
  rw [after_findDispute_bind]
  cases findDispute user id s <;> rfl

theorem after_updateDisputeStatus {dto : UpdateDisputeStatusDto} :
    (after (updateDisputeStatus around user id dto) s).disputes =
      match findDispute user id s with
      | .ok _ => s.disputes.modify id (statusData around user dto)
      | .error _ => s.disputes := by
  unfold updateDisputeStatus
  rw [after_findDispute_bind]
  cases findDispute user id s <;> rfl

theorem after_assignDispute {dto : AssignDisputeDto} :
    (after (assignDispute user id dto) s).disputes = s.disputes ∨
      ∃ assignee, (after (assignDispute user id dto) s).disputes =
        s.disputes.modify id (assignData assignee) := by
  unfold assignDispute
  rw [after_findDispute_bind]
  cases findDispute user id s with
  | error e => exact .inl rfl
  | ok dispute =>
    dsimp only
    rw [after_bind, get_run]
    dsimp only
    rw [after_bind]
    cases findAssignee user dto.assignedAdminId s with
    | error e => exact .inl rfl
    | ok assignee => exact .inr ⟨assignee, rfl⟩

/-- A dispute is only ever created open. -/
theorem after_createDispute {dto : CreateDisputeDto} :
    (after (createDispute around user dto) s).disputes = s.disputes ∨
      ∃ dispute, (after (createDispute around user dto) s).disputes =
          s.disputes.insert dispute ∧ s.disputes.find? dispute.id = none ∧
        dispute.status = .open ∧ dispute.closedAt = none := by
  have hallows := (assertEnforcementAllows_leaves around user .openDispute s).disputes
  unfold after at hallows
  unfold createDispute
  rw [after_bind]
  cases hrun : assertEnforcementAllows around user .openDispute s with
  | error e s₁ =>
    rw [hrun] at hallows
    exact .inl hallows
  | ok _ s₁ =>
    rw [hrun] at hallows
    dsimp only at hallows ⊢
    have hentitlement := (ensureEntitlement_leaves user.id s₁).disputes
    unfold after at hentitlement
    rw [after_bind]
    cases hrun₁ : ensureEntitlement user.id s₁ with
    | error e s₂ =>
      rw [hrun₁] at hentitlement
      exact .inl (hentitlement.trans hallows)
    | ok entitlement s₂ =>
      rw [hrun₁] at hentitlement
      dsimp only at hentitlement ⊢
      rw [← hallows, ← hentitlement, after_bind]
      by_cases hopens : (!entitlement.canOpenDispute) = true
      · rw [throwIf, if_pos hopens]
        exact .inl rfl
      · rw [throwIf, if_neg hopens, ofExcept_ok_run]
        dsimp only
        rw [after_bind, get_run]
        dsimp only
        generalize hnew : DisputeCase.mk _ _ _ _ _ _ _ _ _ _ _ _ _ _ _ _ _ = dispute
        rw [after_bind]
        by_cases hadmits : (!s₂.admits dispute) = true
        · rw [throwIf, if_pos hadmits]
          exact .inl rfl
        · rw [throwIf, if_neg hadmits]
          refine .inr ⟨dispute, rfl, ?_, by rw [← hnew], by rw [← hnew]⟩
          have hfree : s₂.admits dispute := by simpa using hadmits
          simp only [TrustStore.admits, Bool.and_eq_true, Option.isNone_iff_eq_none] at hfree
          exact hfree.1.1

/-- Every dispute is as it was, or was not closed and has been escalated. -/
def EscalatesOpen (around : Surroundings) (s s' : TrustStore) : Prop :=
  ∀ k, s'.disputes.find? k = s.disputes.find? k ∨
    ∃ dispute, s.disputes.find? k = some dispute ∧ dispute.status.isTerminal = false ∧
      s'.disputes.find? k = some ((escalationData around).apply dispute)

theorem EscalatesOpen.refl (s : TrustStore) : EscalatesOpen around s s := fun _ => .inl rfl

theorem EscalatesOpen.trans {s'' : TrustStore} (h : EscalatesOpen around s s')
    (h' : EscalatesOpen around s' s'') : EscalatesOpen around s s'' := by
  intro k
  obtain hsame | ⟨dispute, hrow, hopen, hrow'⟩ := h k
  · rw [← hsame]
    exact h' k
  · obtain hsame' | ⟨dispute', hrow'', -, hlast⟩ := h' k
    · exact .inr ⟨dispute, hrow, hopen, hsame'.trans hrow'⟩
    · -- Escalating twice in one pass is escalating once.
      obtain rfl := Option.some.inj (hrow'.symm.trans hrow'')
      exact .inr ⟨dispute, hrow, hopen, hlast⟩

/-- No dispute of the list is closed. -/
def NoneTerminal (ids : List String) (s : TrustStore) : Prop :=
  ∀ k ∈ ids, ∀ dispute, s.disputes.find? k = some dispute → dispute.status.isTerminal = false

theorem EscalatesOpen.noneTerminal {ids : List String} (h : EscalatesOpen around s s')
    (hs : NoneTerminal ids s) : NoneTerminal ids s' := by
  intro k hk dispute' hrow'
  obtain hsame | ⟨dispute, hrow, -, hafter⟩ := h k
  · exact hs k hk dispute' (hsame.symm.trans hrow')
  · obtain rfl := Option.some.inj (hafter.symm.trans hrow')
    rfl

theorem escalateDispute_escalatesOpen (h : ∀ dispute, findDispute user id s = .ok dispute →
    dispute.status.isTerminal = false) :
    EscalatesOpen around s (after (escalateDispute around user id) s) := by
  intro k
  rw [after_escalateDispute]
  cases hfound : findDispute user id s with
  | error e => exact .inl rfl
  | ok dispute =>
    dsimp only
    obtain ⟨hrow, -⟩ := findDispute_eq_ok.mp hfound
    by_cases hk : k = id
    · subst hk
      exact .inr ⟨dispute, hrow, h dispute hfound, Table.find?_modify_self _ hrow⟩
    · exact .inl (Table.find?_modify_of_ne _ hk)

/-- A pass over the overdue disputes escalates none that is closed. -/
theorem escalateOverdueDisputes_escalatesOpen :
    EscalatesOpen around s (after (escalateOverdueDisputes around user) s) := by
  unfold escalateOverdueDisputes
  rw [after_bind]
  by_cases hadmin : (!isAdminRole user.role) = true
  · rw [throwIf, if_pos hadmin]
    exact .refl s
  rw [throwIf, if_neg hadmin, ofExcept_ok_run]
  dsimp only
  rw [after_bind, get_run]
  dsimp only
  generalize hids :
    ((s.disputes.rows.filter (overdue around user)).take 100).map (·.id) = ids
  -- The disputes that are read are open or under review, and stay not closed during the pass.
  have hopen : NoneTerminal ids s := by
    intro k hk dispute hrow
    rw [← hids] at hk
    obtain ⟨row, hmem, rfl⟩ := List.mem_map.mp hk
    obtain ⟨hrows, hoverdue⟩ := List.mem_filter.mp (List.mem_of_mem_take hmem)
    obtain rfl := Option.some.inj (hrow.symm.trans (Table.mem_rows_iff.mp hrows))
    simp only [overdue, Bool.and_eq_true, List.contains_eq_mem, List.mem_cons, List.not_mem_nil,
      or_false, decide_eq_true_eq] at hoverdue
    obtain ⟨⟨-, hstatus | hstatus⟩, -⟩ := hoverdue <;> rw [hstatus] <;> rfl
  have hpass : Leaves (fun s s' => NoneTerminal ids s →
      EscalatesOpen around s s' ∧ NoneTerminal ids s') (ids.forM fun id => do
        let _ ← escalateDispute around user id) := by
    refine Leaves.forM (fun s hs => ⟨.refl s, hs⟩) ?_ ids fun k hk => ?_
    · intro s s' s'' h h' hs
      obtain ⟨hfirst, hs'⟩ := h hs
      obtain ⟨hrest, hs''⟩ := h' hs'
      exact ⟨hfirst.trans hrest, hs''⟩
    · intro t ht
      have hround := @escalateDispute_escalatesOpen around user t k
        fun dispute hfound => ht k hk dispute (findDispute_eq_ok.mp hfound).1
      rw [after_bind_pure]
      exact ⟨hround, hround.noneTerminal ht⟩
  rw [after_bind_pure]
  exact (hpass s hopen).1

/-! ### The stamp of a closed dispute -/

/-- Both columns of the stamp are there exactly when the dispute is closed. -/
def Stamped (s : TrustStore) : Prop :=
  ∀ id dispute, s.disputes.find? id = some dispute →
    (dispute.closedAt.isSome ∧ dispute.closedById.isSome ↔ dispute.status.isTerminal)

/-- A closed dispute that is no longer closed was updated by `updateDisputeStatus`. -/
def ReopenedByUpdate (s : TrustStore) (event : DisputeEvent) : Prop :=
  ∀ id dispute dispute', s.disputes.find? id = some dispute →
    (disputeStep event s).disputes.find? id = some dispute' →
    dispute.status.isTerminal → dispute'.status.isTerminal = false →
    ∃ dto, event.request = .updateDisputeStatus id dto

/-- No dispute that is closed is escalated by `escalateDispute`. -/
def EscalatesNoClosed (s : TrustStore) (event : DisputeEvent) : Prop :=
  ∀ id dispute, event.request = .escalateDispute id → s.disputes.find? id = some dispute →
    canAdminAccess event.user dispute.organizationId → dispute.status.isTerminal = false

/-- What a step makes of a dispute. -/
inductive DisputeChange (event : DisputeEvent) (id : String) (dispute : DisputeCase) :
    DisputeCase → Prop where
  | same : DisputeChange event id dispute dispute
  | assigned (assignee : Identity) :
      DisputeChange event id dispute ((assignData assignee).apply dispute)
  | updated (dto : UpdateDisputeStatusDto) : event.request = .updateDisputeStatus id dto →
      DisputeChange event id dispute ((statusData event.around event.user dto).apply dispute)
  | escalated : (event.request = .escalateDispute id ∧
        canAdminAccess event.user dispute.organizationId ∨ dispute.status.isTerminal = false) →
      DisputeChange event id dispute ((escalationData event.around).apply dispute)

/-- A dispute after a step is a new one, which is open, or comes of one before it. -/
theorem disputeStep_change {event : DisputeEvent} {dispute' : DisputeCase}
    (hrow' : (disputeStep event s).disputes.find? k = some dispute') :
    (dispute'.status = .open ∧ dispute'.closedAt = none) ∧ s.disputes.find? k = none ∨
      ∃ dispute, s.disputes.find? k = some dispute ∧ DisputeChange event k dispute dispute' := by
  unfold disputeStep at hrow'
  cases hrequest : event.request with
  | createDispute dto =>
    simp only [hrequest] at hrow'
    obtain hsame | ⟨dispute, hinsert, hfree, hnew⟩ :=
      @after_createDispute event.around event.user s dto
    · rw [hsame] at hrow'
      exact .inr ⟨dispute', hrow', .same⟩
    · rw [hinsert, Table.find?_insert_of_free hfree] at hrow'
      split at hrow'
      · next hk =>
        obtain rfl := Option.some.inj hrow'
        exact .inl ⟨hnew, hk ▸ hfree⟩
      · exact .inr ⟨dispute', hrow', .same⟩
  | assignDispute id dto =>
    simp only [hrequest] at hrow'
    obtain hsame | ⟨assignee, hassigned⟩ :=
      @after_assignDispute event.user s id dto
    · rw [hsame] at hrow'
      exact .inr ⟨dispute', hrow', .same⟩
    · rw [hassigned] at hrow'
      obtain ⟨dispute, hrow, rfl | ⟨-, rfl⟩⟩ := Table.find?_modify_cases hrow'
      · exact .inr ⟨_, hrow, .same⟩
      · exact .inr ⟨dispute, hrow, .assigned assignee⟩
  | updateDisputeStatus id dto =>
    simp only [hrequest] at hrow'
    rw [after_updateDisputeStatus] at hrow'
    cases hfound : findDispute event.user id s with
    | error e =>
      rw [hfound] at hrow'
      exact .inr ⟨dispute', hrow', .same⟩
    | ok dispute =>
      rw [hfound] at hrow'
      obtain ⟨dispute, hrow, rfl | ⟨rfl, rfl⟩⟩ := Table.find?_modify_cases hrow'
      · exact .inr ⟨_, hrow, .same⟩
      · exact .inr ⟨dispute, hrow, .updated dto hrequest⟩
  | escalateDispute id =>
    simp only [hrequest] at hrow'
    rw [after_escalateDispute] at hrow'
    cases hfound : findDispute event.user id s with
    | error e =>
      rw [hfound] at hrow'
      exact .inr ⟨dispute', hrow', .same⟩
    | ok found =>
      rw [hfound] at hrow'
      obtain ⟨dispute, hrow, rfl | ⟨rfl, rfl⟩⟩ := Table.find?_modify_cases hrow'
      · exact .inr ⟨_, hrow, .same⟩
      · obtain ⟨hrow₁, haccess⟩ := findDispute_eq_ok.mp hfound
        obtain rfl := Option.some.inj (hrow.symm.trans hrow₁)
        exact .inr ⟨dispute, hrow, .escalated (.inl ⟨hrequest, haccess⟩)⟩
  | escalateOverdueDisputes =>
    simp only [hrequest] at hrow'
    obtain hsame | ⟨dispute, hrow, hopen, hafter⟩ :=
      @escalateOverdueDisputes_escalatesOpen event.around event.user s k
    · rw [hsame] at hrow'
      exact .inr ⟨dispute', hrow', .same⟩
    · obtain rfl := Option.some.inj (hafter.symm.trans hrow')
      exact .inr ⟨dispute, hrow, .escalated (.inr hopen)⟩
  | elsewhere users entitlements settings =>
    simp only [hrequest] at hrow'
    exact .inr ⟨dispute', hrow', .same⟩

/-- Where closed disputes are not escalated, a step keeps the stamps. -/
theorem disputeStep_stamped {event : DisputeEvent} (hs : Stamped s)
    (hevent : EscalatesNoClosed s event) : Stamped (disputeStep event s) := by
  intro id dispute' hrow'
  obtain ⟨⟨hopen, hclosed⟩, -⟩ | ⟨dispute, hrow, hchange⟩ := disputeStep_change hrow'
  · rw [hopen, hclosed]
    simp [DisputeStatus.isTerminal]
  have hstamp := hs id dispute hrow
  cases hchange with
  | same => exact hstamp
  | assigned assignee => exact hstamp
  | updated dto hrequest =>
    cases hterminal : dto.status.isTerminal <;> simp [statusData, hterminal]
  | escalated hwhy =>
    -- The stamp is the old one, and the dispute was not closed.
    have hopen : dispute.status.isTerminal = false := by
      obtain ⟨hrequest, haccess⟩ | hopen := hwhy
      · exact hevent id dispute hrequest hrow haccess
      · exact hopen
    rw [hopen] at hstamp
    exact hstamp

/-- An escalation of a closed dispute leaves a stamp on one that is not. -/
theorem escalatesNoClosed_of_stamped {event : DisputeEvent} (hs : Stamped s)
    (hafter : Stamped (disputeStep event s)) : EscalatesNoClosed s event := by
  intro id dispute hrequest hrow haccess
  have hfound : findDispute event.user id s = .ok dispute := findDispute_eq_ok.mpr ⟨hrow, haccess⟩
  have hrow' : (disputeStep event s).disputes.find? id =
      some ((escalationData event.around).apply dispute) := by
    simp only [disputeStep, hrequest]
    rw [after_escalateDispute, hfound]
    exact Table.find?_modify_self _ hrow
  have hstamp' := hafter id _ hrow'
  cases hterminal : dispute.status.isTerminal with
  | false => rfl
  | true =>
    have hstamp := (hs id dispute hrow).mpr hterminal
    exact absurd (hstamp'.mp hstamp) Bool.false_ne_true

theorem reopenedByUpdate_of_escalatesNoClosed {event : DisputeEvent}
    (hevent : EscalatesNoClosed s event) : ReopenedByUpdate s event := by
  intro id dispute dispute' hrow hrow' hterminal hopen
  obtain ⟨-, hnone⟩ | ⟨dispute, hrow₁, hchange⟩ := disputeStep_change hrow'
  · rw [hrow] at hnone
    cases hnone
  obtain rfl := Option.some.inj (hrow.symm.trans hrow₁)
  cases hchange with
  | same =>
    rw [hterminal] at hopen
    cases hopen
  | assigned assignee => exact absurd (hterminal.symm.trans hopen) Bool.noConfusion
  | updated dto hrequest => exact ⟨dto, hrequest⟩
  | escalated hwhy =>
    obtain ⟨hrequest, haccess⟩ | hopen := hwhy
    · exact absurd (hterminal.symm.trans (hevent id dispute hrequest hrow haccess)) Bool.noConfusion
    · exact absurd (hterminal.symm.trans hopen) Bool.noConfusion

/-- The store before the first dispute. -/
def TrustStore.noDisputes (users : Table Identity.id) (entitlements : Table UserEntitlement.userId)
    (settings : Table PlatformSetting.key) : TrustStore where
  users := users
  entitlements := entitlements
  settings := settings
  kycSubmissions := Table.empty _
  disputes := Table.empty _
  disputeMessages := []

/-- **The closure stamp.** In a run from a store without disputes, both columns are there exactly on
the closed disputes in every state, and closed disputes are reopened by `updateDisputeStatus` alone,
exactly when no call of `escalateDispute` reaches a closed one. -/
theorem stamped_iff (users : Table Identity.id) (entitlements : Table UserEntitlement.userId)
    (settings : Table PlatformSetting.key) (events : List DisputeEvent) :
    Throughout disputeStep Stamped (.noDisputes users entitlements settings) events ∧
        Along disputeStep ReopenedByUpdate (.noDisputes users entitlements settings) events ↔
      Along disputeStep EscalatesNoClosed (.noDisputes users entitlements settings) events := by
  have hstart : Stamped (.noDisputes users entitlements settings) := fun _ _ h => by cases h
  rw [throughout_iff_along (Q := EscalatesNoClosed) (fun s event hs =>
    ⟨escalatesNoClosed_of_stamped hs, disputeStep_stamped hs⟩) hstart events]
  exact ⟨And.left, fun h => ⟨h, h.mono fun _ _ => reopenedByUpdate_of_escalatesNoClosed⟩⟩

namespace Example

/-- An administrator of the platform. -/
def platformAdmin : TrustUser := { id := "platform-admin", role := .superAdmin }

/-- The store with the administrator alone. -/
def quietStore : TrustStore :=
  .noDisputes ⟨[{ id := "platform-admin", role := .superAdmin }], by simp⟩ (Table.empty _)
    (Table.empty _)

/-- A dispute about a report. -/
def unpaidWork : CreateDisputeDto where
  relatedEntityType := "REPORT"
  relatedEntityId := "report"
  title := "Unpaid"
  description := "The work was not paid for."

/-- The dispute is opened, resolved and then escalated. -/
def escalatedLate : List DisputeEvent :=
  [.createDispute unpaidWork, .updateDisputeStatus "dispute" { status := .resolved },
    .escalateDispute "dispute"].map fun request =>
      { around := { now := 0, year := 2026, newId := "dispute" }, user := platformAdmin, request }

end Example

open Example in
/-- An escalation of a resolved dispute takes it out of the closed statuses, and leaves its stamp. -/
theorem escalation_reopens :
    ¬ (Throughout disputeStep Stamped quietStore escalatedLate ∧
      Along disputeStep ReopenedByUpdate quietStore escalatedLate) := by
  rintro ⟨hstamped, -⟩
  have hlast := throughout_iff.mp hstamped escalatedLate [] (List.append_nil _).symm
  have hrow : ((run disputeStep quietStore escalatedLate).disputes.find? "dispute").map
      (fun dispute => (dispute.status, dispute.closedAt, dispute.closedById)) =
        some (.escalated, some 0, some "platform-admin") := by decide +kernel
  obtain ⟨dispute, hfound, hcolumns⟩ := Option.map_eq_some_iff.mp hrow
  have hstamp := hlast "dispute" dispute hfound
  rw [Prod.mk.injEq, Prod.mk.injEq] at hcolumns
  obtain ⟨hstatus, hclosedAt, hclosedById⟩ := hcolumns
  rw [hstatus, hclosedAt, hclosedById] at hstamp
  exact absurd (hstamp.mp ⟨rfl, rfl⟩) Bool.false_ne_true

end FixZone.TrustService
