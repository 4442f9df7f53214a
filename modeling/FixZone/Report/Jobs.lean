import FixZone.Library.Interleaving
import FixZone.Report.Service

/-!
# Calls that overlap

A call of the service reads and then writes, and nothing keeps other calls out between.
`callJobs` runs calls as jobs: reading is `readCall`, and each action it returns is a
write of its own. Run alone, a job does what `execute` does (`run_alone`); what jobs do
to each other is the subject of the modules that use them.
-/

namespace FixZone.ReportService

open Library

/-- A call with the user who makes it and the surroundings it is made in. -/
structure CallJob where
  env : Env
  user : JwtUser
  call : Call

/-- A write that a call has yet to make. -/
structure PendingAction where
  job : CallJob
  action : Action

/-- What a call is going to write, if it does not throw before. -/
def CallJob.read (cfg : Config) (job : CallJob) (s : Store) : List PendingAction :=
  match readCall cfg job.env s job.user job.call with
  | .ok actions => actions.map (PendingAction.mk job)
  | .error _ => []

/-- What a write leaves behind. -/
def PendingAction.outcome (w : PendingAction) (s : Store) : Outcome := perform w.job.env s w.action

/-- Calls as jobs, and whole requests as events among them. A call that throws ends. -/
def callJobs (cfg : Config) : Jobs Store CallJob PendingAction Event where
  read := CallJob.read cfg
  write w s := (w.outcome s).store
  goesOn w s := (w.outcome s).error = none
  event := step cfg

variable {cfg : Config} {s : Store} {job : CallJob} {ι : Type} [DecidableEq ι]
  {st : Workers Store ι PendingAction} {i : ι}

theorem CallJob.read_ok (job : CallJob) {actions : List Action}
    (h : readCall cfg job.env s job.user job.call = .ok actions) :
    job.read cfg s = actions.map (PendingAction.mk job) := by
  simp only [CallJob.read, h]

/-- A write to come is an action that the call has decided on. -/
theorem CallJob.mem_read {w : PendingAction} (h : w ∈ job.read cfg s) :
    w.job = job ∧ ∃ actions, readCall cfg job.env s job.user job.call = .ok actions ∧
      w.action ∈ actions := by
  unfold CallJob.read at h
  split at h
  · next actions hread =>
    obtain ⟨action, haction, rfl⟩ := List.mem_map.mp h
    exact ⟨rfl, actions, hread, haction⟩
  · cases h

/-- The writes of an idle worker change nothing. -/
theorem run_writes_nil (n : ℕ) (h : st.pending i = []) :
    run (callJobs cfg).step st (List.replicate n (.write i)) = st := by
  induction n with
  | zero => rfl
  | succ n ih => rw [List.replicate_succ, run_cons, Jobs.step_write_nil _ h, ih]

/-- The writes of one worker are those of `performAll`. -/
theorem run_writes {actions : List Action} (h : st.pending i = actions.map (PendingAction.mk job)) :
    (run (callJobs cfg).step st (List.replicate actions.length (.write i))).state =
      (performAll job.env actions st.state).store := by
  induction actions generalizing st with
  | nil => rfl
  | cons action actions ih =>
    have hwrites : Jobs.Writes st (.write i : Move ι CallJob Event) i ⟨job, action⟩
        (actions.map (PendingAction.mk job)) :=
      ⟨rfl, h⟩
    rw [List.length_cons, List.replicate_succ, run_cons, hwrites.step, performAll, Outcome.andThen]
    cases herror : (perform job.env st.state action).error with
    | none =>
      have hremaining : (callJobs cfg).remaining ⟨job, action⟩
          (actions.map (PendingAction.mk job)) st.state =
          actions.map (PendingAction.mk job) := by
        simp [Jobs.remaining, callJobs, PendingAction.outcome, herror]
      exact ih (by simp [hremaining])
    | some e =>
      have hremaining : (callJobs cfg).remaining ⟨job, action⟩
          (actions.map (PendingAction.mk job)) st.state = [] := by
        simp [Jobs.remaining, callJobs, PendingAction.outcome, herror]
      rw [run_writes_nil _ (by simp [hremaining])]
      rfl

/-- A call that no other overlaps does what it does on its own. -/
theorem run_alone (h : st.pending i = []) :
    (run (callJobs cfg).step st
    (.read i job :: List.replicate (job.read cfg st.state).length (.write i))).state =
      (execute cfg job.env st.state job.user job.call).store := by
  rw [run_cons, Jobs.step_read _ job h, execute]
  cases hread : readCall cfg job.env st.state job.user job.call with
  | error e => simp [CallJob.read, hread, commit]
  | ok actions =>
    rw [CallJob.read_ok job hread, List.length_map, commit]
    exact run_writes (by simp [callJobs, CallJob.read_ok job hread])

/-- The last write of a worker, an update of the report `id`. -/
theorem step_update {id : String} {data : Patch Report.id} {effects : Report → List Effect}
    {r : Report} (hpending : st.pending i = [⟨job, .update id none data effects⟩])
    (hrow : st.state.report? id = some r) :
    ((callJobs cfg).step (.write i) st).state.report? id = some (data.apply r) ∧
      ((callJobs cfg).step (.write i) st).pending = Function.update st.pending i [] := by
  have hwrites : Jobs.Writes st (.write i : Move ι CallJob Event) i
      ⟨job, .update id none data effects⟩ [] :=
    ⟨rfl, hpending⟩
  rw [hwrites.step, Jobs.remaining_nil]
  exact ⟨perform_update_report? job.env data effects hrow rfl, rfl⟩

end FixZone.ReportService
