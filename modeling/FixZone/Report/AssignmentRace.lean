import FixZone.Report.ActiveWork
import FixZone.Report.Jobs

/-!
# Races for an assignment

`assignProviderById`, `cancelAssignment`, `rejectAssignment` and a provider's
`updateStatus` check the report as they read it, and write it by its id alone. Here any
number of them run as jobs, and the history of each report tells how it changed hands.

Two things go wrong: a second assignment that read the report before the first was
written replaces it, and a provider's status change that was read before the report was
taken from the provider is written all the same. `assignment_races_iff` says that nothing
else does: a run in which neither happens, and no other, keeps all reports consistent.
-/

namespace FixZone.ReportService

open Library Organization

/-! ### The race -/

/-- How a report changes hands: to a provider, or back to nobody. Of an assignment the history
tells in which period its call read the report, the number of assignments made before. -/
inductive Handover where
  | assigned (providerId : String) (period : ℕ)
  | released
  deriving DecidableEq

namespace Handover

/-- Who has the report afterwards. -/
def provider : Handover → Option String
  | assigned providerId _ => some providerId
  | released => none

/-- The period of an assignment. -/
def period? : Handover → Option ℕ
  | assigned _ period => some period
  | released => none

/-- The periods of the assignments in a history. -/
def periods (history : List Handover) : List ℕ := history.filterMap period?

/-- Who has a report that `providerId` had before. -/
def holder (providerId : Option String) (history : List Handover) : Option String :=
  (history.getLast?.map provider).getD providerId

@[simp] theorem periods_append (hs hs' : List Handover) :
    periods (hs ++ hs') = periods hs ++ periods hs' :=
  List.filterMap_append

@[simp] theorem holder_nil (providerId : Option String) : holder providerId [] = providerId := rfl

@[simp] theorem holder_concat (providerId : Option String) (hs : List Handover) (h : Handover) :
    holder providerId (hs ++ [h]) = h.provider := by
  simp [holder]

theorem holder_eq_iff {providerId : String} {hs : List Handover} :
    holder (some providerId) hs = some providerId ↔
      ∀ h ∈ hs.getLast?, h.provider = some providerId := by
  unfold holder
  cases hs.getLast? <;> simp

theorem periods_eq_nil_iff {hs : List Handover} : periods hs = [] ↔ ∀ h ∈ hs, h = released := by
  simp only [periods, List.filterMap_eq_nil_iff]
  refine forall₂_congr fun h _ => ?_
  cases h <;> simp [period?]

/-- One more assignment is the only one of its period when its call has read all the others. -/
theorem nodup_periods_concat_iff {hs : List Handover} {seen : ℕ}
    (h : periods hs = List.range (periods hs).length) :
    (periods hs ++ [(periods (hs.take seen)).length]).Nodup ↔ ∀ x ∈ hs.drop seen, x = released := by
  have hlength : (periods hs).length =
      (periods (hs.take seen)).length + (periods (hs.drop seen)).length := by
    rw [← List.length_append, ← periods_append, List.take_append_drop]
  rw [← periods_eq_nil_iff, ← List.length_eq_zero_iff, h, List.nodup_append]
  simp only [List.nodup_range, List.nodup_singleton, List.mem_range, List.mem_singleton,
    ne_eq, true_and]
  constructor
  · intro hfresh
    by_contra hne
    exact hfresh _ (by omega) _ rfl rfl
  · rintro hnone a ha _ rfl rfl
    omega

/-- Then it takes the next period. -/
theorem range_periods_concat {hs : List Handover} {seen : ℕ}
    (h : periods hs = List.range (periods hs).length)
    (hnodup : (periods hs ++ [(periods (hs.take seen)).length]).Nodup) :
    periods hs ++ [(periods (hs.take seen)).length] = List.range ((periods hs).length + 1) := by
  have hnone := periods_eq_nil_iff.mpr ((nodup_periods_concat_iff h).mp hnodup)
  have htake : periods (hs.take seen) = periods hs := by
    conv_rhs => rw [← List.take_append_drop seen hs, periods_append, hnone, List.append_nil]
  rw [htake, List.range_succ, ← h]

end Handover

/-- The store, and how its reports changed hands since the race began. -/
structure Race where
  store : Store
  history : String → List Handover

/-- The calls that race for a report. -/
inductive Races (user : JwtUser) : Call → Prop where
  | assignProviderById {reportId providerId : String} {options : AssignOptions} :
      Races user (.assignProviderById reportId providerId options)
  | cancelAssignment {reportId : String} {reason : Option String} :
      Races user (.cancelAssignment reportId reason)
  | rejectAssignment {reportId reason : String} : Races user (.rejectAssignment reportId reason)
  | updateStatus {reportId : String} {dto : UpdateReportStatusDto} : user.isProvider →
      Races user (.updateStatus reportId dto)

/-- A call that races. -/
structure RaceJob extends CallJob where
  races : Races user call

/-- The status a call asks for. -/
def CallJob.asks (job : CallJob) : Option ReportStatus :=
  match job.call with
  | .updateStatus _ dto => some dto.status
  | _ => none

/-- The report that an update names. -/
def Action.target : Action → String
  | .update reportId _ _ _ => reportId
  | .create report _ => report.id
  | .emit _ | .throw _ => ""

/-- The report as an update finds it, and as it leaves it. -/
def Action.change? (s : Store) : Action → Option (Report × Report)
  | .update reportId status data _ =>
    ((s.report? reportId).filter fun r => status.all (· = r.status)).map fun r => (r, data.apply r)
  | .create _ _ | .emit _ | .throw _ => none

/-- A write to come, and how often its report had changed hands when it was decided. -/
structure RaceWrite extends PendingAction where
  seen : ℕ

namespace RaceWrite

variable (w : RaceWrite)

/-- The write gives the report the status that the call asked for. -/
def IsWork (r' : Report) : Prop := w.job.asks = some r'.status

instance (r' : Report) : Decidable (w.IsWork r') := inferInstanceAs (Decidable (_ = _))

/-- How the report changes hands by the write. -/
def handover (history : List Handover) (r' : Report) : Handover :=
  match r'.assignedProviderId with
  | some providerId => .assigned providerId (Handover.periods (history.take w.seen)).length
  | none => .released

/-- The history after the write. -/
def record (race : Race) : String → List Handover :=
  match w.action.change? race.store with
  | none => race.history
  | some (r, r') =>
    if w.IsWork r' then race.history
    else Function.update race.history r.id
      (race.history r.id ++ [w.handover (race.history r.id) r'])

end RaceWrite

/-- The racing calls as jobs. -/
def raceJobs (cfg : Config) : Jobs Race RaceJob RaceWrite Empty where
  read job race :=
    (job.read cfg race.store).map fun w => { w with seen := (race.history w.action.target).length }
  write w race := { store := (w.outcome race.store).store, history := w.record race }
  goesOn w race := (w.outcome race.store).error = none
  event e := e.elim

@[simp] theorem raceJobs_write_history (cfg : Config) (w : RaceWrite) (race : Race) :
    ((raceJobs cfg).write w race).history = w.record race := rfl

/-! ### What a race keeps, and when -/

/-- Who works on a report has it, and nobody has a report that waits. -/
structure ConsistentReport (r : Report) : Prop where
  active : ActiveHasProvider r
  pending : r.status = .pending → r.assignedProviderId = none

/-- Every report is consistent. -/
def Consistent (s : Store) : Prop := ∀ id r, s.report? id = some r → ConsistentReport r

/-- Of the assignments that read a report in the same period at most one succeeded. -/
def AtMostOne (history : String → List Handover) : Prop :=
  ∀ id, (Handover.periods (history id)).Nodup

variable {cfg : Config} {race : Race} {st : Workers Race ℕ RaceWrite} {move : Move ℕ RaceJob Empty}

/-- A status change takes effect only while the report is assigned to the provider who made it. -/
def OwnWork (st : Workers Race ℕ RaceWrite) (move : Move ℕ RaceJob Empty) : Prop :=
  ∀ i w todo r r', Jobs.Writes st move i w todo → w.action.change? st.state.store = some (r, r') →
    w.IsWork r' →
    r.assignedProviderId = some w.job.user.id

/-- How a report changed hands since a write was decided. -/
def RaceWrite.since (w : RaceWrite) (race : Race) (reportId : String) : List Handover :=
  (race.history reportId).drop w.seen

/-- The calls take turns: between the reading and the write of an assignment nobody assigns the
report, and if it changes hands between the reading and the write of a provider's status change,
the provider has it last. -/
structure TakesTurn (st : Workers Race ℕ RaceWrite) (move : Move ℕ RaceJob Empty) : Prop where
  assignment : ∀ i w todo r r', Jobs.Writes st move i w todo →
    w.action.change? st.state.store = some (r, r') →
    ¬w.IsWork r' → r'.assignedProviderId ≠ none → ∀ h ∈ w.since st.state r.id, h = .released
  work : ∀ i w todo r r', Jobs.Writes st move i w todo →
    w.action.change? st.state.store = some (r, r') → w.IsWork r' →
    ∀ h ∈ (w.since st.state r.id).getLast?, h.provider = some w.job.user.id

/-! ### What the calls write -/

theorem change?_update {s : Store} {reportId : String} {data : Patch Report.id}
    {effects : Report → List Effect} {r r' : Report} :
    Action.change? s (.update reportId none data effects) = some (r, r') ↔
      s.report? reportId = some r ∧ data.apply r = r' := by
  simp [Action.change?]

theorem change?_spec {s : Store} {action : Action} {r r' : Report}
    (h : action.change? s = some (r, r')) :
    action.target = r.id ∧ s.report? r.id = some r ∧ r'.id = r.id := by
  cases action with
  | update reportId status data effects =>
    obtain ⟨x, hx, hpair⟩ := Option.map_eq_some_iff.mp h
    obtain ⟨rfl, rfl⟩ := Prod.mk.inj hpair
    have hrow := (Option.filter_eq_some_iff.mp hx).1
    have hid := id_of_report? hrow
    exact ⟨hid.symm, hid.symm ▸ hrow, data.key_apply x⟩
  | create _ _ | emit _ | throw _ => cases h

/-- The writes of a race: a provider works on the report, it is assigned, it is released, or the
call throws. -/
inductive Writing (job : CallJob) : Action → Prop where
  | works {reportId : String} {data : Patch Report.id} {effects : Report → List Effect}
      {next : ReportStatus} :
      job.asks = some next → isActive next → (∀ r, (data.apply r).status = next) →
      (∀ r, (data.apply r).assignedProviderId = r.assignedProviderId) →
      Writing job (.update reportId none data effects)
  | assigns {reportId providerId : String} {data : Patch Report.id}
      {effects : Report → List Effect} :
      job.asks = none → (∀ r, (data.apply r).status = .assigned) →
      (∀ r, (data.apply r).assignedProviderId = some providerId) →
        Writing job (.update reportId none data effects)
  | releases {reportId : String} {data : Patch Report.id} {effects : Report → List Effect} :
      job.asks ≠ some .pending → (∀ r, (data.apply r).status = .pending) →
      (∀ r, (data.apply r).assignedProviderId = none) →
        Writing job (.update reportId none data effects)
  | throws {error : HttpError} : Writing job (.throw error)

theorem writing_of_expireAndRefuse {env : Env} {s : Store} {user : JwtUser} {job : CallJob}
    {action : Action} (hasks : job.asks ≠ some .pending) (h : action ∈ expireAndRefuse env s user) :
    Writing job action := by
  rcases List.mem_append.mp h with h | h
  · obtain ⟨r, -, rfl⟩ := List.mem_map.mp h
    exact .releases hasks (fun _ => rfl) (fun _ => rfl)
  · rw [List.mem_singleton.mp h]
    exact .throws

/-- A provider may ask for a status in which it works on the report. -/
theorem TransitionAllowed.of_provider {user : JwtUser} {r : Report} {next : ReportStatus}
    (h : TransitionAllowed user r next) (hprovider : user.isProvider) :
    r.assignedProviderId = some user.id ∧ isActive next := by
  have hrole : user.role = .provider := by simpa [JwtUser.isProvider] using hprovider
  rcases h.authority with ⟨-, hown, hnext⟩ | ⟨hadmin, -⟩ | hadmin
  · exact ⟨hown, by rcases hnext with rfl | rfl <;> rfl⟩
  · simp [hrole] at hadmin
  · simp [hrole] at hadmin

/-- What a racing call writes, and whose report it is when a provider is going to work on it. -/
theorem Races.writing {env : Env} {s : Store} {user : JwtUser} {call : Call} {actions : List Action}
    {action : Action}
    (hraces : Races user call) (hread : readCall cfg env s user call = .ok actions)
    (haction : action ∈ actions) :
    Writing ⟨env, user, call⟩ action ∧
      ∀ r r', action.change? s = some (r, r') → CallJob.asks ⟨env, user, call⟩ = some r'.status →
        r.assignedProviderId = some user.id := by
  cases hraces with
  | assignProviderById =>
    obtain ⟨_, _, -, -, -, rfl⟩ := assignProviderById_eq_ok.mp hread
    rw [List.mem_singleton.mp haction]
    exact ⟨.assigns rfl (fun _ => rfl) (fun _ => rfl), fun _ _ _ hasks => by cases hasks⟩
  | cancelAssignment =>
    obtain ⟨_, -, -, rfl⟩ := cancelAssignment_eq_ok.mp hread
    rw [List.mem_singleton.mp haction]
    exact ⟨.releases (by simp [CallJob.asks]) (fun _ => rfl) (fun _ => rfl), fun _ _ _ hasks =>
      by cases hasks⟩
  | rejectAssignment =>
    refine ⟨?_, fun _ _ _ hasks => by cases hasks⟩
    obtain ⟨_, -, -, ⟨-, rfl⟩ | ⟨-, -, rfl⟩⟩ := rejectAssignment_eq_ok.mp hread
    · exact writing_of_expireAndRefuse (by simp [CallJob.asks]) haction
    · rw [List.mem_singleton.mp haction]
      exact .releases (by simp [CallJob.asks]) (fun _ => rfl) (fun _ => rfl)
  | @updateStatus reportId dto hprovider =>
    obtain ⟨report, hrow, ⟨-, -, hlate, rfl⟩ | ⟨-, -, hallowed, hupdate⟩⟩ :=
      updateStatus_eq_ok.mp hread
    · have hstart : dto.status = .inProgress := by
        simp only [startsLate, Bool.and_eq_true, decide_eq_true_eq] at hlate
        exact hlate.1.2
      refine ⟨writing_of_expireAndRefuse (by simp [CallJob.asks, hstart]) haction,
        fun r r' hchange hasks => ?_⟩
      rcases List.mem_append.mp haction with haction | haction
      · obtain ⟨_, -, rfl⟩ := List.mem_map.mp haction
        obtain ⟨-, rfl⟩ := change?_update.mp hchange
        simp [CallJob.asks, hstart] at hasks
      · rw [List.mem_singleton.mp haction] at hchange
        cases hchange
    · obtain ⟨hown, hactive⟩ := hallowed.of_provider hprovider
      have hsame {data : Patch Report.id} {effects : Report → List Effect} {r r' : Report}
          (hchange : Action.change? s (.update reportId none data effects) = some (r, r')) :
          r.assignedProviderId = some user.id := by
        cases hrow.symm.trans (change?_update.mp hchange).1
        exact hown
      rcases (statusUpdate_eq_ok (id_of_report? hrow)).mp hupdate with
        ⟨-, rfl⟩ | ⟨hnext, policy, -, rfl⟩
      · rw [List.mem_singleton.mp haction]
        exact ⟨.works rfl hactive (fun _ => rfl) (fun _ => rfl), fun r r' hchange _ =>
          hsame hchange⟩
      · rw [List.mem_singleton.mp haction]
        exact ⟨.works rfl hactive (fun _ => rfl) (fun _ => rfl), fun r r' hchange _ =>
          hsame hchange⟩

/-! ### Pending writes -/

/-- A write to come is one of a racing call, and if it is work, its provider had the report when
it was decided. -/
structure Fits (w : RaceWrite) (race : Race) : Prop where
  writing : Writing w.job w.action
  seen : w.seen ≤ (race.history w.action.target).length
  provider : ∀ r r', w.action.change? race.store = some (r, r') → w.IsWork r' →
    r.assignedProviderId = Handover.holder (some w.job.user.id) (w.since race r.id)

/-- All writes to come fit. -/
def FitAll (todo : List RaceWrite) (race : Race) : Prop := ∀ w ∈ todo, Fits w race

/-- A write that has just been decided fits. -/
theorem fits_of_read (job : RaceJob) {w : RaceWrite} (h : w ∈ (raceJobs cfg).read job race) :
    Fits w race := by
  obtain ⟨v, hv, rfl⟩ := List.mem_map.mp h
  obtain ⟨hjob, actions, hread, haction⟩ := CallJob.mem_read hv
  obtain ⟨hwriting, hown⟩ := job.races.writing hread haction
  refine ⟨hjob ▸ hwriting, le_rfl, fun r r' hchange hwork => ?_⟩
  have hr : r.assignedProviderId = some v.job.user.id := hjob ▸ hown r r' hchange (hjob ▸ hwork)
  simp [RaceWrite.since, (change?_spec hchange).1, hr]

/-- What a write does to a report: it leaves the provider and the history alone, or both tell of
the same handover. -/
theorem record_cases (w : RaceWrite) {race : Race} {r r' : Report}
    (hchange : w.action.change? race.store = some (r, r')) :
    (w.IsWork r' ∧ w.record race = race.history) ∨
      ¬w.IsWork r' ∧ w.record race =
        Function.update race.history r.id
        (race.history r.id ++ [w.handover (race.history r.id) r']) := by
  unfold RaceWrite.record
  rw [hchange]
  by_cases hwork : w.IsWork r'
  · exact .inl ⟨hwork, if_pos hwork⟩
  · exact .inr ⟨hwork, if_neg hwork⟩

@[simp] theorem handover_provider (w : RaceWrite) (history : List Handover) (r' : Report) :
    (w.handover history r').provider = r'.assignedProviderId := by
  unfold RaceWrite.handover
  cases r'.assignedProviderId <;> rfl

/-- Work leaves the report to its provider. -/
theorem Writing.of_work {job : CallJob} {action : Action} {s : Store} {r r' : Report}
    (h : Writing job action)
    (hchange : action.change? s = some (r, r')) (hwork : job.asks = some r'.status) :
    isActive r'.status ∧ r'.assignedProviderId = r.assignedProviderId := by
  cases h with
  | works hasks hactive hstatus hprovider =>
    obtain ⟨-, rfl⟩ := change?_update.mp hchange
    rw [hstatus, hprovider]
    exact ⟨hactive, rfl⟩
  | assigns hasks => simp [hasks] at hwork
  | releases hasks hstatus =>
    obtain ⟨-, rfl⟩ := change?_update.mp hchange
    exact absurd hwork (hstatus r ▸ hasks)
  | throws => cases hchange

/-- Work over one row is work over any. -/
theorem Writing.work_again {job : CallJob} {action : Action} {s s' : Store} {r r' x : Report}
    (h : Writing job action)
    (hchange : action.change? s = some (r, r')) (hwork : job.asks = some r'.status)
    (hx : s'.report? r.id = some x) :
    ∃ x', action.change? s' = some (x, x') ∧ job.asks = some x'.status := by
  have hid := (change?_spec hchange).1
  cases h with
  | works hasks _ hstatus =>
    obtain rfl : _ = r.id := hid
    exact ⟨_, change?_update.mpr ⟨hx, rfl⟩, by rw [hstatus, hasks]⟩
  | assigns hasks => simp [hasks] at hwork
  | releases hasks hstatus =>
    obtain ⟨-, rfl⟩ := change?_update.mp hchange
    exact absurd hwork (hstatus r ▸ hasks)
  | throws => cases hchange

/-- Other writes assign the report or release it. -/
theorem Writing.of_not_work {job : CallJob} {action : Action} {s : Store} {r r' : Report}
    (h : Writing job action)
    (hchange : action.change? s = some (r, r')) (hwork : job.asks ≠ some r'.status) :
    r'.status = .assigned ∧ r'.assignedProviderId ≠ none ∨ r'.status = .pending ∧
      r'.assignedProviderId = none := by
  cases h with
  | works hasks _ hstatus =>
    obtain ⟨-, rfl⟩ := change?_update.mp hchange
    exact absurd (hstatus r ▸ hasks) hwork
  | assigns _ hstatus hprovider =>
    obtain ⟨-, rfl⟩ := change?_update.mp hchange
    exact .inl ⟨hstatus r, by simp [hprovider]⟩
  | releases _ hstatus hprovider =>
    obtain ⟨-, rfl⟩ := change?_update.mp hchange
    exact .inr ⟨hstatus r, hprovider r⟩
  | throws => cases hchange

/-- A write changes the row it finds and no other, or nothing at all. -/
theorem write_cases (cfg : Config) (race : Race) {w : RaceWrite} (h : Writing w.job w.action) :
    w.action.change? race.store = none ∧ (raceJobs cfg).write w race = race ∨
      ∃ r r', w.action.change? race.store = some (r, r') ∧
        ∀ id, ((raceJobs cfg).write w race).store.report? id =
          if r.id = id then some r' else race.store.report? id := by
  obtain ⟨⟨job, action⟩, seen⟩ := w
  have hupdate {reportId : String} {data : Patch Report.id} {effects : Report → List Effect}
      (haction : action = .update reportId none data effects) :
      action.change? race.store = none ∧ (raceJobs cfg).write ⟨⟨job, action⟩, seen⟩ race = race ∨
        ∃ r r', action.change? race.store = some (r, r') ∧
          ∀ id, ((raceJobs cfg).write ⟨⟨job, action⟩, seen⟩ race).store.report? id =
            if r.id = id then some r' else race.store.report? id := by
    subst haction
    cases hrow : race.store.report? reportId with
    | none =>
      refine .inl ⟨by simp [Action.change?, hrow], ?_⟩
      simp [raceJobs, PendingAction.outcome, perform, hrow, RaceWrite.record, Action.change?]
    | some r =>
      obtain rfl := id_of_report? hrow
      refine .inr ⟨r, data.apply r, change?_update.mpr ⟨hrow, rfl⟩, fun id => ?_⟩
      split
      · next hid =>
        subst hid
        exact perform_update_report? job.env data effects hrow rfl
      · next hid => exact perform_update_report?_of_ne job.env none data effects hid
  cases h with
  | works | assigns | releases => exact hupdate rfl
  | throws => exact .inl ⟨rfl, rfl⟩

/-- A history only grows. -/
theorem exists_record_eq_append (w : RaceWrite) (race : Race) (id : String) :
    ∃ new, w.record race id = race.history id ++ new := by
  cases hchange : w.action.change? race.store with
  | none => exact ⟨[], by simp [RaceWrite.record, hchange]⟩
  | some change =>
    obtain ⟨r, r'⟩ := change
    rcases record_cases w hchange with ⟨-, hrecord⟩ | ⟨-, hrecord⟩
    · exact ⟨[], by simp [hrecord]⟩
    · by_cases hid : id = r.id
      · subst hid
        exact ⟨_, by rw [hrecord, Function.update_self]⟩
      · exact ⟨[], by rw [hrecord, Function.update_of_ne hid, List.append_nil]⟩

/-- The history of a report changes with the report only. -/
theorem record_of_ne {w : RaceWrite} {r r' : Report} {id : String}
    (hchange : w.action.change? race.store = some (r, r')) (hid : r.id ≠ id) :
    w.record race id = race.history id := by
  rcases record_cases w hchange with ⟨-, hrecord⟩ | ⟨-, hrecord⟩
  · rw [hrecord]
  · rw [hrecord, Function.update_of_ne (Ne.symm hid)]

/-- Who has a report according to its history still has it according to the history after a write. -/
theorem holder_record {w : RaceWrite} {providerId : Option String} {seen : ℕ} {r r' : Report}
    (hw : Writing w.job w.action) (hchange : w.action.change? race.store = some (r, r'))
    (hseen : seen ≤ (race.history r.id).length)
    (h : r.assignedProviderId = Handover.holder providerId ((race.history r.id).drop seen)) :
    r'.assignedProviderId = Handover.holder providerId ((w.record race r.id).drop seen) := by
  rcases record_cases w hchange with ⟨hwork, hrecord⟩ | ⟨-, hrecord⟩
  · rw [hrecord, (hw.of_work hchange hwork).2, h]
  · rw [hrecord, Function.update_self, List.drop_append_of_le_length hseen, Handover.holder_concat,
      handover_provider]

/-- What fits still fits after the write of another. -/
theorem Fits.write {v w : RaceWrite} (hv : Fits v race) (hw : Writing w.job w.action) :
    Fits v ((raceJobs cfg).write w race) := by
  obtain ⟨hwriting, hseen, hprovider⟩ := hv
  obtain ⟨-, hsame⟩ | ⟨r, r', hchange, hrows⟩ := write_cases cfg race hw
  · rw [hsame]
    exact ⟨hwriting, hseen, hprovider⟩
  refine ⟨hwriting, ?_, fun y y' hy hwork => ?_⟩
  · obtain ⟨new, hnew⟩ := exists_record_eq_append w race v.action.target
    have hrecord : ((raceJobs cfg).write w race).history v.action.target =
      race.history v.action.target ++ new := hnew
    rw [hrecord, List.length_append]
    exact Nat.le_add_right_of_le hseen
  · have hrow := (change?_spec hy).2.1
    rw [hrows] at hrow
    by_cases hid : r.id = y.id
    · rw [if_pos hid] at hrow
      obtain rfl := Option.some.inj hrow
      have hold : race.store.report? r'.id = some r := hid ▸ (change?_spec hchange).2.1
      obtain ⟨x', hx, hxwork⟩ := hwriting.work_again hy hwork hold
      have hr := hprovider r x' hx hxwork
      have hseen : v.seen ≤ (race.history r.id).length := (change?_spec hx).1 ▸ hseen
      have hr' := holder_record hw hchange hseen hr
      rwa [hid] at hr'
    · rw [if_neg hid] at hrow
      obtain ⟨y'', hy', hwork'⟩ := hwriting.work_again hy hwork hrow
      have hsame : ((raceJobs cfg).write w race).history y.id = race.history y.id :=
        record_of_ne hchange hid
      rw [RaceWrite.since, hsame]
      exact hprovider y y'' hy' hwork'

/-! ### Runs -/

/-- What holds between the moves of a race that keeps its reports consistent. -/
structure Sound (st : Workers Race ℕ RaceWrite) : Prop where
  consistent : Consistent st.state.store
  periods : ∀ id, Handover.periods (st.state.history id) =
    List.range (Handover.periods (st.state.history id)).length
  fits : ∀ i, FitAll (st.pending i) st.state

theorem Sound.atMostOne (h : Sound st) : AtMostOne st.state.history := by
  intro id
  rw [h.periods id]
  exact List.nodup_range

/-- The move changes no report. -/
def ChangesNothing (st : Workers Race ℕ RaceWrite) (move : Move ℕ RaceJob Empty) : Prop :=
  ∀ i w todo r r', Jobs.Writes st move i w todo → w.action.change? st.state.store ≠ some (r, r')

/-- Only a write that finds its report changes the state. -/
theorem Sound.state_of_changesNothing (h : Sound st) (hnothing : ChangesNothing st move) :
    ((raceJobs cfg).step move st).state = st.state := by
  obtain ⟨e, -⟩ | ⟨i, job, -, -, hstep⟩ | ⟨i, w, todo, hwrites⟩ | hstep :=
    (raceJobs cfg).step_cases st move
  · exact e.elim
  · rw [hstep]
  · have hfits := h.fits i w (by simp [hwrites.pending])
    obtain ⟨-, hsame⟩ | ⟨r, r', hchange, -⟩ := write_cases cfg st.state hfits.writing
    · rw [hwrites.step, hsame]
    · exact absurd hchange (hnothing i w todo r r' hwrites)
  · rw [hstep]

/-- One move keeps the reports consistent, and is no late status change. -/
def KeepsReports (cfg : Config) (st : Workers Race ℕ RaceWrite)
    (move : Move ℕ RaceJob Empty) : Prop :=
  (Consistent ((raceJobs cfg).step move st).state.store ∧
    AtMostOne ((raceJobs cfg).step move st).state.history) ∧
    OwnWork st move

/-- A consistent report in place of another. -/
theorem consistent_write {w : RaceWrite} {r r' : Report} (hs : Consistent race.store)
    (hrows : ∀ id, ((raceJobs cfg).write w race).store.report? id =
      if r.id = id then some r' else race.store.report? id)
    (hr' : ConsistentReport r') : Consistent ((raceJobs cfg).write w race).store := by
  intro id y hy
  rw [hrows] at hy
  split at hy
  · obtain rfl := Option.some.inj hy
    exact hr'
  · exact hs id y hy

/-- Work leaves consistent reports exactly when its provider is the last to have the report. -/
theorem work_keeps_iff {w : RaceWrite} {r r' : Report} (hs : Consistent race.store)
    (hatMostOne : AtMostOne race.history) (hfits : Fits w race)
    (hchange : w.action.change? race.store = some (r, r'))
    (hrows : ∀ id, ((raceJobs cfg).write w race).store.report? id =
      if r.id = id then some r' else race.store.report? id)
    (hwork : w.IsWork r') :
    ((Consistent ((raceJobs cfg).write w race).store ∧ AtMostOne (w.record race)) ∧
        r.assignedProviderId = some w.job.user.id) ↔
      ∀ h ∈ (w.since race r.id).getLast?, h.provider = some w.job.user.id := by
  rw [← Handover.holder_eq_iff, ← hfits.provider r r' hchange hwork]
  constructor
  · rintro ⟨-, hown⟩
    exact hown
  · intro hown
    obtain ⟨hactive, hprovider⟩ := hfits.writing.of_work hchange hwork
    have hrecord : w.record race = race.history := by
      rcases record_cases w hchange with ⟨-, hrecord⟩ | ⟨hno, -⟩
      · exact hrecord
      · exact absurd hwork hno
    refine ⟨⟨consistent_write hs hrows ⟨fun _ => by simp [hprovider, hown], fun hpending => ?_⟩,
      ?_⟩, hown⟩
    · simp [hpending, isActive] at hactive
    · rw [hrecord]
      exact hatMostOne

/-- The periods of a handover that is written. -/
theorem periods_handover (w : RaceWrite) (history : List Handover) (r' : Report) :
    Handover.periods [w.handover history r'] =
      if r'.assignedProviderId = none then [] else
      [(Handover.periods (history.take w.seen)).length] := by
  cases hprovider : r'.assignedProviderId <;>
    simp [RaceWrite.handover, hprovider, Handover.periods, Handover.period?]

/-- What changes hands leaves consistent reports, of an assignment exactly when nobody else has
assigned the report since its call has read it. -/
theorem handover_keeps_iff {w : RaceWrite} {r r' : Report} (hs : Consistent race.store)
    (hperiods : ∀ id, Handover.periods (race.history id) =
      List.range (Handover.periods (race.history id)).length) (hfits : Fits w race)
    (hchange : w.action.change? race.store = some (r, r'))
    (hrows : ∀ id, ((raceJobs cfg).write w race).store.report? id =
      if r.id = id then some r' else race.store.report? id)
    (hwork : ¬w.IsWork r') :
    Consistent ((raceJobs cfg).write w race).store ∧ AtMostOne (w.record race) ↔
      (r'.assignedProviderId ≠ none → ∀ h ∈ w.since race r.id, h = .released) := by
  have hconsistent : Consistent ((raceJobs cfg).write w race).store := by
    refine consistent_write hs hrows ?_
    rcases hfits.writing.of_not_work hchange hwork with ⟨hstatus, hprovider⟩ | ⟨hstatus, hprovider⟩
    · exact ⟨fun _ => hprovider, fun hpending => by simp [hstatus] at hpending⟩
    · exact ⟨fun hactive => by simp [hstatus, isActive] at hactive, fun _ => hprovider⟩
  have hrecord : w.record race =
      Function.update race.history r.id
        (race.history r.id ++ [w.handover (race.history r.id) r']) := by
    rcases record_cases w hchange with ⟨hyes, -⟩ | ⟨-, hrecord⟩
    · exact absurd hyes hwork
    · exact hrecord
  have hatMostOne : AtMostOne (w.record race) ↔
      (Handover.periods (race.history r.id ++ [w.handover (race.history r.id) r'])).Nodup := by
    constructor
    · intro h
      simpa only [hrecord, Function.update_self] using h r.id
    · intro h id
      rw [hrecord]
      by_cases hid : id = r.id
      · subst hid
        simpa only [Function.update_self] using h
      · rw [Function.update_of_ne hid, hperiods id]
        exact List.nodup_range
  rw [and_iff_right hconsistent, hatMostOne, Handover.periods_append, periods_handover]
  split
  · next hnone =>
    rw [List.append_nil, hperiods r.id]
    simp [List.nodup_range, hnone]
  · next hsome =>
    rw [Handover.nodup_periods_concat_iff (hperiods r.id)]
    exact ⟨fun h _ => h, fun h => h hsome⟩

/-- What is said of the write of a move is said of its one write. -/
theorem forall_writes_iff {i : ℕ} {w : RaceWrite} {todo : List RaceWrite} {r r' : Report}
    (hwrites : Jobs.Writes st move i w todo)
    (hchange : w.action.change? st.state.store = some (r, r'))
    {p : RaceWrite → Report → Report → Prop} :
    (∀ i w todo r r', Jobs.Writes st move i w todo →
      w.action.change? st.state.store = some (r, r') → p w r r') ↔
      p w r r' := by
  constructor
  · intro h
    exact h i w todo r r' hwrites hchange
  · rintro h i' w' todo' y y' hwrites' hchange'
    obtain ⟨-, rfl, -⟩ := hwrites.unique hwrites'
    cases hchange.symm.trans hchange'
    exact h

/-- From a sound state a move keeps the reports consistent exactly when it takes its turn. -/
theorem keepsReports_iff (h : Sound st) : KeepsReports cfg st move ↔ TakesTurn st move := by
  by_cases hnothing : ChangesNothing st move
  · rw [KeepsReports, h.state_of_changesNothing hnothing]
    constructor
    · intro _
      exact ⟨fun i w todo r r' hwrites hchange => absurd hchange (hnothing i w todo r r' hwrites),
        fun i w todo r r' hwrites hchange => absurd hchange (hnothing i w todo r r' hwrites)⟩
    · intro _
      exact ⟨⟨h.consistent, h.atMostOne⟩,
        fun i w todo r r' hwrites hchange => absurd hchange (hnothing i w todo r r' hwrites)⟩
  · unfold ChangesNothing at hnothing
    push Not at hnothing
    obtain ⟨i, w, todo, r, r', hwrites, hchange⟩ := hnothing
    have hfits := h.fits i w (by simp [hwrites.pending])
    have hrows : ∀ id, ((raceJobs cfg).write w st.state).store.report? id =
        if r.id = id then some r' else st.state.store.report? id := by
      obtain ⟨hnone, -⟩ | ⟨y, y', hchange', hrows⟩ := write_cases cfg st.state hfits.writing
      · simp [hchange] at hnone
      · cases hchange.symm.trans hchange'
        exact hrows
    have hown : OwnWork st move ↔ (w.IsWork r' → r.assignedProviderId = some w.job.user.id) :=
      forall_writes_iff hwrites hchange
        (p := fun w r r' => w.IsWork r' → r.assignedProviderId = some w.job.user.id)
    have hturn : TakesTurn st move ↔
        (¬w.IsWork r' → r'.assignedProviderId ≠ none → ∀ x ∈ w.since st.state r.id, x = .released) ∧
          (w.IsWork r' → ∀ x ∈ (w.since st.state r.id).getLast?,
            x.provider = some w.job.user.id) := by
      rw [← forall_writes_iff hwrites hchange (p := fun w r r' =>
          ¬w.IsWork r' → r'.assignedProviderId ≠ none → ∀ x ∈ w.since st.state r.id, x = .released),
        ← forall_writes_iff hwrites hchange (p := fun w r r' =>
          w.IsWork r' → ∀ x ∈ (w.since st.state r.id).getLast?, x.provider = some w.job.user.id)]
      exact ⟨fun ⟨h1, h2⟩ => ⟨h1, h2⟩, fun ⟨h1, h2⟩ => ⟨h1, h2⟩⟩
    rw [KeepsReports, hown, hturn, hwrites.step]
    by_cases hwork : w.IsWork r'
    · have hkeeps := work_keeps_iff h.consistent h.atMostOne hfits hchange hrows hwork
      simpa [hwork] using hkeeps
    · have hkeeps := handover_keeps_iff h.consistent h.periods hfits hchange hrows hwork
      simpa [hwork] using hkeeps

/-- Where at most one assignment of each period succeeded, a write leaves the periods in order. -/
theorem periods_record {w : RaceWrite} {r r' : Report}
    (hperiods : ∀ id, Handover.periods (race.history id) =
      List.range (Handover.periods (race.history id)).length)
    (hchange : w.action.change? race.store = some (r, r')) (hatMostOne : AtMostOne (w.record race))
    (id : String) :
    Handover.periods (w.record race id) = List.range
    (Handover.periods (w.record race id)).length := by
  rcases record_cases w hchange with ⟨-, hrecord⟩ | ⟨-, hrecord⟩
  · rw [hrecord]
    exact hperiods id
  · by_cases hid : id = r.id
    · subst hid
      have hnodup := hatMostOne r.id
      rw [hrecord, Function.update_self, Handover.periods_append, periods_handover] at hnodup ⊢
      split at hnodup
      · next hnone => simpa [hnone] using hperiods r.id
      · next hsome => simpa [hsome] using Handover.range_periods_concat (hperiods r.id) hnodup
    · rw [hrecord, Function.update_of_ne hid]
      exact hperiods id

/-- A move that keeps the reports consistent leads to a sound state. -/
theorem Sound.step (h : Sound st) (hkeeps : KeepsReports cfg st move) :
    Sound ((raceJobs cfg).step move st) := by
  refine ⟨hkeeps.1.1, ?_, ?_⟩
  · by_cases hnothing : ChangesNothing st move
    · rw [h.state_of_changesNothing hnothing]
      exact h.periods
    · unfold ChangesNothing at hnothing
      push Not at hnothing
      obtain ⟨i, w, todo, r, r', hwrites, hchange⟩ := hnothing
      have hatMostOne := hkeeps.1.2
      rw [hwrites.step] at hatMostOne ⊢
      exact periods_record h.periods hchange hatMostOne
  · refine Jobs.step_valid (V := FitAll) (fun _ w hw => by cases hw) ?_ ?_ ?_ ?_ h.fits
    · rintro i job - w hw
      exact fits_of_read job hw
    · exact fun e => e.elim
    · intro i w todo hwrites v hv
      exact (h.fits i v (by simp [hwrites.pending, hv])).write
        (h.fits i w (by simp [hwrites.pending])).writing
    · intro i w todo hwrites j _ v hv
      exact (h.fits j v hv).write (h.fits i w (by simp [hwrites.pending])).writing

/-- The reports are consistent in a state of the race, and no two assignments succeeded that read
the same. -/
def ReportsKept (st : Workers Race ℕ RaceWrite) : Prop :=
  Consistent st.state.store ∧ AtMostOne st.state.history

/-- The workers before a race. -/
def raceFrom (s : Store) : Workers Race ℕ RaceWrite := Workers.idle ⟨s, fun _ => []⟩

theorem sound_raceFrom {s : Store} (hs : Consistent s) : Sound (raceFrom s) :=
  ⟨hs, fun _ => rfl, fun _ _ hw => by cases hw⟩

/-- **Races for an assignment.** In every interleaving of assignments, cancellations, rejections
and status changes of providers the reports stay consistent, at most one of the assignments that
read a report in the same period succeeds, and no provider's status change comes too late, exactly
when the reports are consistent at the start and each call takes its turn. -/
theorem assignment_races_iff (cfg : Config) (s : Store) (moves : List (Move ℕ RaceJob Empty)) :
    Throughout (raceJobs cfg).step ReportsKept (raceFrom s) moves ∧
        Along (raceJobs cfg).step OwnWork (raceFrom s) moves ↔
      Consistent s ∧ Along (raceJobs cfg).step TakesTurn (raceFrom s) moves := by
  have hstart : ReportsKept (raceFrom s) ↔ Consistent s := and_iff_left fun _ => List.nodup_nil
  rw [throughout_iff_steps, hstart, and_assoc, ← along_and]
  refine and_congr_right fun hs => ?_
  exact along_congr_of_inv (I := Sound) (fun _ _ h hkeeps => h.step hkeeps)
    (fun _ _ h => keepsReports_iff h) (sound_raceFrom hs) moves

/-- The provider starts work, and the organization cancels the assignment. -/
def lateStart : List (Move ℕ RaceJob Empty) :=
  [.read 0 ⟨⟨Example.surroundings 4, Example.provider,
    .updateStatus "report" { status := .inProgress }⟩,
      .updateStatus rfl⟩,
    .read 1 ⟨⟨Example.surroundings 5, Example.orgAdmin, .cancelAssignment "report" none⟩,
    .cancelAssignment⟩, .write 1, .write 0]

theorem consistent_dispatchedStore : Consistent dispatchedStore := by
  have hrows : dispatchedStore.reports.rows.map (fun r => (r.status, r.assignedProviderId)) =
      [(.assigned, some "provider")] := by
    decide +kernel
  intro id r hr
  have hmem := List.mem_map_of_mem (f := fun r : Report => (r.status, r.assignedProviderId))
    (Table.mem_of_find? hr)
  rw [hrows, List.mem_singleton, Prod.mk.injEq] at hmem
  exact ⟨fun _ => by simp [hmem.2], fun hpending => by simp [hmem.1] at hpending⟩

/-- A report that is taken from its provider before the provider's start is written is left
without one. -/
theorem cancelled_report_in_progress :
    ¬ ∀ (cfg : Config) (s : Store) (moves : List (Move ℕ RaceJob Empty)), Consistent s →
      Throughout (raceJobs cfg).step ReportsKept (raceFrom s) moves ∧
        Along (raceJobs cfg).step OwnWork (raceFrom s) moves := by
  intro h
  have hrun := throughout_iff.mp
    (h {} dispatchedStore lateStart consistent_dispatchedStore).1 lateStart [] (by simp)
  have hstarted :
    ((run (raceJobs {}).step (raceFrom dispatchedStore) lateStart).state.store.report? "report").map
      (fun r => (r.status, r.assignedProviderId)) = some (.inProgress, none) := by
    decide +kernel
  obtain ⟨r, hr, hcolumns⟩ := Option.map_eq_some_iff.mp hstarted
  simp only [Prod.mk.injEq] at hcolumns
  exact (hrun.1 _ r hr).active (by simp [hcolumns.1, isActive]) hcolumns.2

end FixZone.ReportService
