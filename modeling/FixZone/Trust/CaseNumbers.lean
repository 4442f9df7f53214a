import FixZone.Trust.Disputes
import FixZone.Library.Numbering
import FixZone.Library.Protocol

/-!
# The numbers of dispute cases

`createDispute` counts the cases of the year, and asks the database for a case with the next
number. Between the two other calls make their steps, so the number may be taken by then; the
column is unique, and the database turns the case down. So the numbers of a year are `000001`,
`000002`, and so on, each given once and none left out, however the calls interleave; and a call
that has counted gets its case exactly when no case of that year was filed since
(`case_filed_iff`). One that comes too late is not tried again: its user is told of an error.
-/

namespace FixZone.TrustService

open Library ReportService

/-! ### The steps of `createDispute` -/

/-- The numbers of cases. -/
def caseNumbers : Numbering ℕ String := yearNumbers "SZ-CASE-" 6

/-- The numbers of the cases that are filed. -/
def filedNumbers (s : TrustStore) : List String := s.disputes.rows.map (·.caseNumber)

/-- What `createDispute` does before it counts. -/
def mayOpenDispute (around : Surroundings) (user : TrustUser) : TrustCall PUnit := do
  assertEnforcementAllows around user .openDispute
  let entitlement ← ensureEntitlement user.id
  ofExcept (throwIf (!entitlement.canOpenDispute)
    (forbidden "Dispute access is not enabled for this account"))

/-- The dispute that `createDispute` asks the database for. -/
def newDispute (around : Surroundings) (user : TrustUser) (dto : CreateDisputeDto)
    (caseNumber : String) : DisputeCase where
  id := around.newId
  caseNumber := caseNumber
  openedById := user.id
  againstUserId := trimmedOrNull dto.againstUserId
  organizationId := user.organizationId
  relatedEntityType := trim dto.relatedEntityType
  relatedEntityId := trim dto.relatedEntityId
  title := trim dto.title
  description := trim dto.description
  priority := dto.priority.getD .medium
  createdAt := around.now

/-- The store with a dispute that the database lets in, and the first message about it. -/
def TrustStore.withDispute (s : TrustStore) (dispute : DisputeCase) (metadata : Json) :
    TrustStore :=
  { s with
    disputes := s.disputes.insert dispute
    disputeMessages := s.disputeMessages ++
      [{ disputeId := dispute.id, authorId := dispute.openedById, message := dispute.description,
         metadata }] }

/-- What `createDispute` does with the number it found. -/
def fileDispute (around : Surroundings) (user : TrustUser) (dto : CreateDisputeDto)
    (caseNumber : String) : TrustCall DisputeCase := do
  let s ← get
  let dispute := newDispute around user dto caseNumber
  ofExcept (throwIf (!s.admits dispute) constraintError)
  set (s.withDispute dispute (dto.metadata.getD (.obj [])))
  return dispute

/-- A call of the dispute service that is under way. -/
inductive DisputeCall where
  | opens (user : TrustUser) (dto : CreateDisputeDto)
  | counts (user : TrustUser) (dto : CreateDisputeDto)
  | files (user : TrustUser) (dto : CreateDisputeDto) (caseNumber : String)
  | request (user : TrustUser) (request : DisputeRequest)

/-- Go on with what a step found, or return its error. -/
def resumes {α : Type} (result : EStateM.Result HttpError TrustStore α)
    (go : α → Next DisputeCall (Option (Except HttpError DisputeCase))) :
    TrustStore × Next DisputeCall (Option (Except HttpError DisputeCase)) :=
  match result with
  | .ok a s => (s, go a)
  | .error error s => (s, .returns (some (.error error)))

/-- The calls of the dispute service side by side. Those that create a dispute make three steps and
return it or an error. -/
def disputeProtocol : Protocol TrustStore (TrustUser × DisputeRequest) DisputeCall Surroundings
    (Option (Except HttpError DisputeCase)) where
  init
    | (user, .createDispute dto) => .opens user dto
    | (user, request) => .request user request
  advance around call s :=
    match call with
    | .opens user dto => resumes (mayOpenDispute around user s) fun _ => .goesOn (.counts user dto)
    | .counts user dto => (s, .goesOn (.files user dto (nextCaseNumber around s)))
    | .files user dto caseNumber =>
      resumes (fileDispute around user dto caseNumber s) fun dispute =>
        .returns (some (.ok dispute))
    | .request user request => (disputeStep ⟨around, user, request⟩ s, .returns none)

variable {around : Surroundings} {user : TrustUser} {s s' : TrustStore} {dto : CreateDisputeDto}

/-- Made one after another, the steps are `createDispute`. -/
theorem createDispute_eq : createDispute around user dto = (do
    mayOpenDispute around user
    fileDispute around user dto (nextCaseNumber around (← get))) := by
  unfold createDispute mayOpenDispute fileDispute newDispute
  simp only [bind_assoc]
  rfl

theorem nextCaseNumber_eq :
    nextCaseNumber around s = caseNumbers.next around.year (filedNumbers s) := by
  unfold Numbering.next Numbering.counted filedNumbers
  rw [List.countP_map]
  rfl

/-! ### What a step files -/

/-- The numbers are the same. -/
def SameNumbers (s s' : TrustStore) : Prop := filedNumbers s' = filedNumbers s

theorem SameNumbers.refl (s : TrustStore) : SameNumbers s s := rfl

theorem SameNumbers.trans (s s' s'' : TrustStore) (h : SameNumbers s s') (h' : SameNumbers s' s'') :
    SameNumbers s s'' :=
  Eq.trans h' h

theorem SameNumbers.of_disputes (h : s'.disputes = s.disputes) : SameNumbers s s' := by
  unfold SameNumbers filedNumbers
  rw [h]

/-- No change of a dispute changes its number. -/
theorem SameNumbers.of_modify {id : String} {data : Patch DisputeCase.id}
    (h : s'.disputes = s.disputes.modify id data)
    (hdata : ∀ dispute, (data.apply dispute).caseNumber = dispute.caseNumber) :
    SameNumbers s s' := by
  unfold SameNumbers filedNumbers
  rw [h, Table.modify, List.map_map]
  refine List.map_congr_left fun dispute _ => ?_
  unfold Function.comp Table.patchAt
  split
  · exact hdata dispute
  · rfl

theorem mayOpenDispute_leaves (around : Surroundings) (user : TrustUser) :
    Leaves SameCases (mayOpenDispute around user) :=
  (assertEnforcementAllows_leaves around user .openDispute).bind SameCases.trans fun _ =>
    (ensureEntitlement_leaves user.id).bind SameCases.trans fun _ =>
      leaves_ofExcept SameCases.refl _

theorem escalateDispute_leaves (around : Surroundings) (user : TrustUser) (id : String) :
    Leaves SameNumbers (escalateDispute around user id) := by
  intro s
  have hafter := @after_escalateDispute around user s id
  split at hafter
  · exact .of_modify hafter fun _ => rfl
  · exact .of_disputes hafter

theorem escalateOverdueDisputes_leaves (around : Surroundings) (user : TrustUser) :
    Leaves SameNumbers (escalateOverdueDisputes around user) := by
  unfold escalateOverdueDisputes
  refine (leaves_ofExcept SameNumbers.refl _).bind SameNumbers.trans fun _ => ?_
  refine Leaves.bind SameNumbers.trans SameNumbers.refl fun s => ?_
  refine Leaves.bind SameNumbers.trans ?_ fun _ => leaves_pure SameNumbers.refl _
  exact Leaves.forM SameNumbers.refl SameNumbers.trans _ fun id _ =>
    (escalateDispute_leaves around user id).bind SameNumbers.trans fun _ =>
      leaves_pure SameNumbers.refl _

/-- A request that creates no dispute files no case. -/
theorem disputeStep_sameNumbers {request : DisputeRequest}
    (h : ∀ dto, request ≠ .createDispute dto) :
    SameNumbers s (disputeStep ⟨around, user, request⟩ s) := by
  cases request with
  | createDispute dto => exact absurd rfl (h dto)
  | assignDispute id dto =>
    obtain hsame | ⟨assignee, hmodify⟩ := @after_assignDispute user s id dto
    · exact .of_disputes hsame
    · exact .of_modify hmodify fun _ => rfl
  | updateDisputeStatus id dto =>
    have hafter := @after_updateDisputeStatus around user s id dto
    split at hafter
    · exact .of_modify hafter fun _ => rfl
    · exact .of_disputes hafter
  | escalateDispute id => exact escalateDispute_leaves around user id s
  | escalateOverdueDisputes => exact escalateOverdueDisputes_leaves around user s
  | elsewhere users entitlements settings => exact .refl s

/-- When the database files a case. -/
theorem admits_newDispute_iff {caseNumber : String} :
    s.admits (newDispute around user dto caseNumber) ↔
      (s.disputes.find? around.newId).isNone ∧ caseNumber ∉ filedNumbers s ∧
        (trimmedOrNull dto.againstUserId).all fun userId => (s.users.find? userId).isSome := by
  simp only [TrustStore.admits, Bool.and_eq_true, List.all_eq_true, decide_eq_true_eq, filedNumbers,
    List.mem_map, not_exists, not_and, and_assoc]
  exact Iff.rfl

theorem fileDispute_run {caseNumber : String} : fileDispute around user dto caseNumber s =
    if s.admits (newDispute around user dto caseNumber) then
      .ok (newDispute around user dto caseNumber)
        (s.withDispute (newDispute around user dto caseNumber) (dto.metadata.getD (.obj [])))
    else .error constraintError s := by
  unfold fileDispute
  rw [bind_run, get_run]
  dsimp only
  rw [bind_run]
  by_cases hadmits : s.admits (newDispute around user dto caseNumber)
  · rw [throwIf, if_neg (by simp [hadmits]), if_pos hadmits]
    rfl
  · rw [throwIf, if_pos (by simp [hadmits]), if_neg hadmits]
    rfl

theorem filedNumbers_withDispute {dispute : DisputeCase} {metadata : Json}
    (h : (s.disputes.find? dispute.id).isNone) :
    filedNumbers (s.withDispute dispute metadata) = filedNumbers s ++ [dispute.caseNumber] := by
  unfold filedNumbers TrustStore.withDispute
  dsimp only
  rw [Table.rows_insert_of_free (Option.isNone_iff_eq_none.mp h), List.map_append]
  rfl

/-! ### Numbers under way -/

/-- What is known of a call: the number that it holds was the next of its year when it was found. -/
def Reserves (call : DisputeCall) (s : TrustStore) : Prop :=
  match call with
  | .files _ _ caseNumber => ∃ year n, caseNumber = caseNumbers.name year n ∧
      n ≤ caseNumbers.counted year (filedNumbers s)
  | .request _ request => ∀ dto, request ≠ .createDispute dto
  | .opens _ _ | .counts _ _ => True

/-- A step files nothing, or the next case of a year. -/
theorem advance_numbers {call : DisputeCall} (hs : caseNumbers.Gapless (filedNumbers s))
    (hcall : Reserves call s) :
    filedNumbers (disputeProtocol.advance around call s).1 = filedNumbers s ∨
      ∃ year, filedNumbers (disputeProtocol.advance around call s).1 =
        filedNumbers s ++ [caseNumbers.next year (filedNumbers s)] := by
  cases call with
  | opens user dto =>
    have hleaves := (mayOpenDispute_leaves around user s).disputes
    unfold after at hleaves
    change filedNumbers (resumes (mayOpenDispute around user s) _).1 = _ ∨ _
    cases hrun : mayOpenDispute around user s with
    | ok _ s' => exact .inl (SameNumbers.of_disputes (by rwa [hrun] at hleaves))
    | error _ s' => exact .inl (SameNumbers.of_disputes (by rwa [hrun] at hleaves))
  | counts user dto => exact .inl rfl
  | request user request => exact .inl (disputeStep_sameNumbers hcall)
  | files user dto caseNumber =>
    change filedNumbers (resumes (fileDispute around user dto caseNumber s) _).1 = _ ∨
      ∃ year, filedNumbers (resumes (fileDispute around user dto caseNumber s) _).1 = _
    rw [fileDispute_run]
    split_ifs with hadmits
    · obtain ⟨year, n, rfl, hn⟩ := hcall
      obtain ⟨hid, hfree, -⟩ := admits_newDispute_iff.mp hadmits
      obtain rfl := (hs.free_iff hn).mp hfree
      exact .inr ⟨year, filedNumbers_withDispute hid⟩
    · exact .inl rfl

theorem advance_gapless {call : DisputeCall} (hs : caseNumbers.Gapless (filedNumbers s))
    (hcall : Reserves call s) :
    caseNumbers.Gapless (filedNumbers (disputeProtocol.advance around call s).1) := by
  obtain hsame | ⟨year, hnext⟩ := advance_numbers hs hcall
  · rwa [hsame]
  · rw [hnext]
    exact hs.append_next year

/-- The numbers that are held stay next or are taken. -/
theorem Reserves.advance {call call' : DisputeCall} (hs : caseNumbers.Gapless (filedNumbers s))
    (hcall : Reserves call s) (h : Reserves call' s) :
    Reserves call' (disputeProtocol.advance around call s).1 := by
  cases call' with
  | opens user dto => trivial
  | counts user dto => trivial
  | request user request => exact h
  | files user dto caseNumber =>
    obtain ⟨year, n, hname, hn⟩ := h
    refine ⟨year, n, hname, ?_⟩
    obtain hsame | ⟨year', hnext⟩ := advance_numbers hs hcall
    · rwa [hsame]
    · rw [hnext, Numbering.counted_append]
      omega

/-- A call that goes on holds the number that it has just found, if it holds one. -/
theorem reserves_of_goesOn {call call' : DisputeCall}
    (h : (disputeProtocol.advance around call s).2 = .goesOn call') :
    Reserves call' (disputeProtocol.advance around call s).1 := by
  cases call with
  | opens user dto =>
    change (resumes (mayOpenDispute around user s) _).2 = _ at h
    cases hrun : mayOpenDispute around user s with
    | ok _ s' =>
      rw [hrun] at h
      cases h
      trivial
    | error _ s' =>
      rw [hrun] at h
      cases h
  | counts user dto =>
    cases h
    exact ⟨around.year, _, nextCaseNumber_eq, le_rfl⟩
  | files user dto caseNumber =>
    change (resumes (fileDispute around user dto caseNumber s) _).2 = _ at h
    rw [fileDispute_run] at h
    split_ifs at h <;> cases h
  | request user request => cases h

variable {ι : Type} [DecidableEq ι]

theorem reserves_init (request : TrustUser × DisputeRequest) (s : TrustStore) :
    Reserves (disputeProtocol.init request) s := by
  obtain ⟨user, request⟩ := request
  cases request with
  | createDispute dto => trivial
  | assignDispute id dto => exact fun _ h => by cases h
  | updateDisputeStatus id dto => exact fun _ h => by cases h
  | escalateDispute id => exact fun _ h => by cases h
  | escalateOverdueDisputes => exact fun _ h => by cases h
  | elsewhere users entitlements settings => exact fun _ h => by cases h

/-- In every interleaving the numbers have no gap, and every number that is held was the next. -/
theorem run_meets {st : Calls TrustStore ι DisputeCall}
    (h : st.Meets (fun s => caseNumbers.Gapless (filedNumbers s)) Reserves)
    (turns : List (Turn ι (TrustUser × DisputeRequest) Surroundings)) :
    (run disputeProtocol.step st turns).Meets (fun s => caseNumbers.Gapless (filedNumbers s))
      Reserves :=
  h.run disputeProtocol (fun request s _ => reserves_init request s)
    (fun _ _ _ hs hcall => advance_gapless hs hcall)
    (fun _ _ _ _ _ _ hnext => reserves_of_goesOn hnext)
    (fun _ _ _ hs hcall _ h => Reserves.advance hs hcall h) turns

/-- The state before the first call. -/
def disputesBegin (users : Table Identity.id) (entitlements : Table UserEntitlement.userId)
    (settings : Table PlatformSetting.key) : Calls TrustStore ι DisputeCall :=
  .quiet (.noDisputes users entitlements settings)

/-- **Case numbers.** In every interleaving of calls, the numbers of each year are its first ones,
each once. A call that has counted holds the next number of the year. When it has its turn again,
whatever the others did in the meantime, the database files the case under this number exactly when
no case of that year was filed since, its id is new and the user it is against exists. It is turned
down otherwise, and nothing is changed. -/
theorem case_filed_iff (users : Table Identity.id) (entitlements : Table UserEntitlement.userId)
    (settings : Table PlatformSetting.key)
    (turns others : List (Turn ι (TrustUser × DisputeRequest) Surroundings)) {i : ι}
    {user : TrustUser} {dto : CreateDisputeDto} (counting filing : Surroundings)
    {st st' : Calls TrustStore ι DisputeCall}
    (hst : run disputeProtocol.step (disputesBegin users entitlements settings) turns = st)
    (hcounts : st.running i = some (.counts user dto))
    (hothers : ∀ turn ∈ others, ∀ input, turn ≠ .advance i input)
    (hst' : run disputeProtocol.step st (.advance i counting :: others) = st') :
    caseNumbers.Gapless (filedNumbers st'.state) ∧ (filedNumbers st'.state).Nodup ∧
      ∃ caseNumber, caseNumber = caseNumbers.next counting.year (filedNumbers st.state) ∧
        st'.running i = some (.files user dto caseNumber) ∧
        disputeProtocol.advance filing (.files user dto caseNumber) st'.state =
          if caseNumbers.counted counting.year (filedNumbers st'.state) =
                caseNumbers.counted counting.year (filedNumbers st.state) ∧
              (st'.state.disputes.find? filing.newId).isNone ∧
              (trimmedOrNull dto.againstUserId).all
                fun userId => (st'.state.users.find? userId).isSome then
            (st'.state.withDispute (newDispute filing user dto caseNumber)
                (dto.metadata.getD (.obj [])),
              .returns (some (.ok (newDispute filing user dto caseNumber))))
          else (st'.state, .returns (some (.error constraintError))) := by
  have hbegin : (disputesBegin users entitlements settings : Calls TrustStore ι DisputeCall).Meets
      (fun s => caseNumbers.Gapless (filedNumbers s)) Reserves := Calls.quiet_meets .nil
  have hmeets := run_meets hbegin turns
  rw [hst] at hmeets
  have hmeets' := run_meets hmeets (.advance i counting :: others)
  rw [hst'] at hmeets'
  have hcounted : (disputeProtocol.step (.advance i counting) st).running i =
      some (.files user dto (nextCaseNumber counting st.state)) := by
    rw [disputeProtocol.step_of_advances ⟨rfl, hcounts⟩]
    exact Function.update_self ..
  have hholds : st'.running i = some (.files user dto (nextCaseNumber counting st.state)) := by
    have hwaits := disputeProtocol.run_waits hothers hcounted
    rwa [← hst']
  rw [nextCaseNumber_eq] at hholds
  refine ⟨hmeets'.state, hmeets'.state.nodup, _, rfl, hholds, ?_⟩
  have hle : caseNumbers.counted counting.year (filedNumbers st.state) ≤
      caseNumbers.counted counting.year (filedNumbers st'.state) := by
    obtain ⟨year, n, hname, hn⟩ := hmeets'.calls i _ hholds
    obtain ⟨rfl, rfl⟩ := Numbering.eq_of_name_eq hname
    exact hn
  change resumes (fileDispute filing user dto _ st'.state) _ = _
  rw [fileDispute_run]
  have hadmits : st'.state.admits (newDispute filing user dto
      (caseNumbers.next counting.year (filedNumbers st.state))) ↔
      caseNumbers.counted counting.year (filedNumbers st'.state) =
          caseNumbers.counted counting.year (filedNumbers st.state) ∧
        (st'.state.disputes.find? filing.newId).isNone ∧
        (trimmedOrNull dto.againstUserId).all
          fun userId => (st'.state.users.find? userId).isSome := by
    rw [admits_newDispute_iff, Numbering.next, hmeets'.state.free_iff hle]
    tauto
  by_cases hfiles : st'.state.admits (newDispute filing user dto
      (caseNumbers.next counting.year (filedNumbers st.state)))
  · rw [if_pos hfiles, if_pos (hadmits.mp hfiles)]
    rfl
  · rw [if_neg hfiles, if_neg (mt hadmits.mpr hfiles)]
    rfl

namespace Example

/-- What the calls find, with the id of a row that one of them creates. -/
def inJuly (newId : String) : Surroundings := { now := 1783000000000, year := 2026, newId }

/-- Two administrators are about to count the cases. -/
def bothOpen : List (Turn Bool (TrustUser × DisputeRequest) Surroundings) :=
  [.start false (platformAdmin, .createDispute unpaidWork),
    .start true (platformAdmin, .createDispute unpaidWork),
    .advance false (inJuly "first"), .advance true (inJuly "second")]

def opened : Calls TrustStore Bool DisputeCall :=
  run disputeProtocol.step (.quiet quietStore) bothOpen

/-- The second counts and files a case after the first has counted. -/
def secondFiles : List (Turn Bool (TrustUser × DisputeRequest) Surroundings) :=
  [.advance true (inJuly "second"), .advance true (inJuly "second")]

def overtaken : Calls TrustStore Bool DisputeCall :=
  run disputeProtocol.step opened (.advance false (inJuly "first") :: secondFiles)

end Example

open Example in
/-- The first comes too late. -/
theorem case_filed_too_late : ∃ caseNumber,
    overtaken.running false = some (.files platformAdmin unpaidWork caseNumber) ∧
      disputeProtocol.advance (inJuly "first") (.files platformAdmin unpaidWork caseNumber)
        overtaken.state = (overtaken.state, .returns (some (.error constraintError))) := by
  have hothers : ∀ turn ∈ secondFiles, ∀ input, turn ≠ .advance false input := by
    rintro turn hturn input rfl
    simp [secondFiles] at hturn
  obtain ⟨-, -, caseNumber, -, hholds, hadvance⟩ :=
    case_filed_iff _ _ _ bothOpen secondFiles (inJuly "first") (inJuly "first")
      (show _ = opened from rfl) (show opened.running false = some (.counts _ _) from rfl) hothers
      (show _ = overtaken from rfl)
  refine ⟨caseNumber, hholds, hadvance.trans (if_neg fun h => ?_)⟩
  have htaken : caseNumbers.counted 2026 (filedNumbers overtaken.state) ≠
      caseNumbers.counted 2026 (filedNumbers opened.state) := by
    decide +kernel
  exact htaken h.1

end FixZone.TrustService
