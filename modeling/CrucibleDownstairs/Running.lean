import CrucibleDownstairs.QueueSteps
import CrucibleDownstairs.WorkerPass

namespace CrucibleDownstairs

/-!
# No job is left in progress without its worker

`in_progress` is the only call that marks a job `InProgress`, and it hands the job's
id to the worker that called it; `do_work` answers that job and `complete_work`
takes it out of the queue.  A job in progress is skipped by every later
`in_progress`, so a job its worker walked away from would stay in the queue for good.

In every reachable state, whatever the interleaving of the tasks, every job in
progress in a registered queue is the current job of the worker of a connection
whose tasks serve the queue's connection, or that worker has returned because the
dependency assertion of `get_ready_job` failed or the write of its ack failed.  No
other way out of the loop leaves a job behind: the owner and id assertions never
fire on a registered queue, and a refused work lock means the queue is no longer
registered.
-/

/-- The job a worker has started and not yet completed. -/
def Worker.job : Worker → Option Nat
  | .working jobId _ => some jobId
  | .acking jobId _ _ => some jobId
  | .completing jobId _ _ => some jobId
  | _ => none

/--
How the worker returns leaving its job in progress: the dependency assertion of
`get_ready_job` fails, or `fw.send` of the ack does.
-/
def Worker.Stranded (worker : Worker) : Prop :=
  worker = .finished (.error (.downstairs (.panic .readyJobDependencyUnmet))) ∨
    worker = .finished (.error .frameWrite)

/-- Job `k` of the queue is in progress. -/
def Work.Running (w : Work) (k : Nat) : Prop :=
  ∃ job, w.active.lookup k = some job ∧ job.state = .inProgress

/-- Every job in progress in `w'` was in progress in `w`. -/
def Work.NoneStarted (w w' : Work) : Prop :=
  ∀ k, w'.Running k → w.Running k

/-- The tasks serve `c`, and their worker is on job `k` or has returned leaving its job in progress. -/
def Spawned.Tends (spawned : Spawned) (c : UpstairsConnection) (k : Nat) : Prop :=
  spawned.upstairsConnection = c ∧ (spawned.worker.job = some k ∨ spawned.worker.Stranded)

/-- The tasks of some connection tend job `k` of the queue of `c`. -/
def Tended (connections : List Connection) (c : UpstairsConnection) (k : Nat) : Prop :=
  Served connections (·.Tends c k)

namespace Spawned

variable {spawned : Spawned} {c : UpstairsConnection} {k : Nat}

/-- Tasks whose worker holds job `j` tend only `j`. -/
theorem Tends.eq_job (tends : spawned.Tends c k) {j : Nat} (current : spawned.worker.job = some j) :
    k = j := by
  rcases tends.2 with holds | stopped | stopped
  · exact Option.some.inj (holds.symm.trans current)
  all_goals simp [stopped, Worker.job] at current

/-- Tasks whose worker holds no job and is still running tend nothing. -/
theorem not_tends (idle : spawned.worker.job = none)
    (live : ¬ spawned.worker.Stranded) : ¬ spawned.Tends c k := by
  rintro ⟨-, holds | stopped⟩
  · rw [idle] at holds
    cases holds
  · exact live stopped

end Spawned

/-! ## Queues -/

namespace Work

variable {w : Work} {d k : Nat}

theorem running_addWork {job : DownstairsWork} (running : (w.addWork d job).Running k) :
    k = d ∧ job.state = .inProgress ∨ k ≠ d ∧ w.Running k := by
  obtain ⟨stored, found, state⟩ := running
  rw [lookup_addWork] at found
  split_ifs at found with same
  · cases found
    exact .inl ⟨same, state⟩
  · exact .inr ⟨same, stored, found, state⟩

theorem running_completeWork {isFlush : Bool} (running : (w.completeWork d isFlush).Running k) :
    k ≠ d ∧ w.Running k := by
  obtain ⟨stored, found, state⟩ := running
  rw [lookup_completeWork] at found
  split_ifs at found with same
  exact ⟨same, stored, found, state⟩

/-- `in_progress` starts at most the scanned job, and then returns it. -/
theorem running_inProgress (running : (w.inProgress d).1.Running k) :
    w.Running k ∨ k = d ∧ ∃ job, w.active.lookup d = some job ∧
      (w.inProgress d).2 = some (job.dsId, job.upstairsConnection) := by
  rcases inProgress_cases w d with ⟨same, -⟩ | ⟨job, -, -, parked, -⟩ |
      ⟨job, found, -, -, started, returned⟩
  · exact .inl (same ▸ running)
  · rcases running_addWork (parked ▸ running) with ⟨-, depWait⟩ | ⟨-, old⟩
    · cases depWait
    · exact .inl old
  · rcases running_addWork (started ▸ running) with ⟨same, -⟩ | ⟨-, old⟩
    · exact .inr ⟨same, job, found, returned⟩
    · exact .inl old

theorem not_running_new : ¬ new.Running k := by
  simp [Running]

/-- Adding a job starts nothing: it is added `New`. -/
theorem noneStarted_addWork (c : UpstairsConnection) (work : IOop) :
    w.NoneStarted (w.addWork d ⟨c, d, work, .new⟩) := by
  intro k running
  rcases running_addWork running with ⟨-, isNew⟩ | ⟨-, old⟩
  · cases isNew
  · exact old

/-- A job in progress under its own id is handed to `do_work`, or fails the dependency assertion. -/
theorem getReadyJob_running {job : DownstairsWork} (found : w.active.lookup k = some job)
    (running : job.state = .inProgress) (stored : job.dsId = k) :
    w.getReadyJob k = .ok (some job) ∨ w.getReadyJob k = .error .readyJobDependencyUnmet := by
  simp only [getReadyJob, found, running, stored, ne_eq, not_true_eq_false, ↓reduceIte]
  split_ifs
  · exact .inl rfl
  · exact .inr rfl

end Work

/-- A registered entry is the one its connection's work lock grants. -/
theorem RegistryInv.workLock_of_lookup {ds : Downstairs} (inv : RegistryInv ds) {uuid : Uuid}
    {entry : ActiveUpstairs} (found : ds.activeUpstairs.lookup uuid = some entry) :
    ds.workLock entry.upstairsConnection = .ok entry :=
  Downstairs.workLock_eq_ok.mpr ⟨(inv.keyed uuid entry found).symm ▸ found, rfl⟩

/-- `do_work` under a granted lock panics exactly when `get_ready_job` does. -/
theorem Downstairs.doWork_of_getReadyJob_error {ds : Downstairs} {c : UpstairsConnection}
    {entry : ActiveUpstairs} (lock : ds.workLock c = .ok entry) {jobId : Nat} {site : Panic}
    (failed : entry.work.getReadyJob jobId = .error site) (injectError : Bool)
    (readReply : Except CrucibleError (List ReadResponse)) (writeReply : Except CrucibleError Unit) :
    (ds.doWork c jobId injectError readReply writeReply).2 = .error (.panic site) := by
  simp [Downstairs.doWork, lock, failed]

/-! ## One step of the worker -/

/--
What the worker's step from `spawned` to `spawned'`, taking the downstairs from `ds`
to `ds'`, leaves in progress: every job in progress in a queue of `ds'` is tended by
`spawned'`, or was in progress in the same queue of `ds` and not tended by `spawned`.
-/
def WorkerKeeps (ds ds' : Downstairs) (spawned spawned' : Spawned) : Prop :=
  ∀ uuid entry', ds'.activeUpstairs.lookup uuid = some entry' → ∀ k, entry'.work.Running k →
    spawned'.Tends entry'.upstairsConnection k ∨
    ∃ entry, ds.activeUpstairs.lookup uuid = some entry ∧
      entry'.upstairsConnection = entry.upstairsConnection ∧ entry.work.Running k ∧
      ¬ spawned.Tends entry.upstairsConnection k

namespace WorkerKeeps

variable {ds : Downstairs} {spawned : Spawned}

/-- A step that leaves the queues alone and keeps tending what was tended. -/
theorem of_tends {spawned' : Spawned}
    (tends : ∀ c k, spawned.Tends c k → spawned'.Tends c k) : WorkerKeeps ds ds spawned spawned' := by
  intro uuid entry' found k running
  by_cases tended : spawned.Tends entry'.upstairsConnection k
  · exact .inl (tends _ _ tended)
  · exact .inr ⟨entry', found, rfl, running, tended⟩

/-- A worker that holds no job and leaves the queues alone keeps every job tended as before. -/
theorem idle {spawned' : Spawned} (idle : spawned.worker.job = none)
    (live : ¬ spawned.worker.Stranded) : WorkerKeeps ds ds spawned spawned' :=
  of_tends fun _ _ tends => absurd tends (Spawned.not_tends idle live)

/-- `in_progress` starts at most the scanned job, and the worker then holds it. -/
theorem inProgress (inv : RegistryInv ds) {dsId : Nat} {rest : List Nat}
    (scanning : spawned.worker = .scanning (dsId :: rest)) {worker' : Worker}
    (started : ∀ jobId, (ds.inProgress spawned.upstairsConnection dsId).2 = .ok (some jobId) →
      worker' = .working jobId rest) :
    WorkerKeeps ds (ds.inProgress spawned.upstairsConnection dsId).1 spawned
      { spawned with worker := worker' } := by
  have untended : ∀ c k, ¬ spawned.Tends c k := fun _ _ =>
    Spawned.not_tends (by simp [scanning, Worker.job]) (by simp [scanning, Worker.Stranded])
  intro uuid entry' found k running
  rcases Downstairs.withWork_lookup found with old | ⟨entry, stored, mine, rfl⟩
  · exact .inr ⟨entry', old, rfl, running, untended _ _⟩
  rcases Work.running_inProgress running with old | ⟨rfl, job, jobFound, returned⟩
  · exact .inr ⟨entry, stored, rfl, old, untended _ _⟩
  · obtain ⟨sameId, owner, -⟩ := inv.owned uuid entry stored k job jobFound
    have answered : ds.inProgress spawned.upstairsConnection k = (_, .ok (some job.dsId)) :=
      Downstairs.inProgress_of_workLock (mine ▸ inv.workLock_of_lookup stored)
        (Prod.ext rfl (by rw [returned, owner, mine]))
    refine .inl ⟨mine.symm, .inl ?_⟩
    simp [started job.dsId (by rw [answered]), sameId, Worker.job]

/-- `do_work` on the worker's job in progress answers it, or fails the dependency assertion. -/
theorem doWork (inv : RegistryInv ds) {jobId : Nat} {rest : List Nat}
    (working : spawned.worker = .working jobId rest) {injectError : Bool}
    {readReply : Except CrucibleError (List ReadResponse)} {writeReply : Except CrucibleError Unit}
    {worker' : Worker}
    (answered : ∀ m, (ds.doWork spawned.upstairsConnection jobId injectError readReply
      writeReply).2 = .ok (some m) → worker' = .acking jobId m rest)
    (failed : ∀ fault, (ds.doWork spawned.upstairsConnection jobId injectError readReply
      writeReply).2 = .error fault → worker' = .finished (.error (.downstairs fault))) :
    WorkerKeeps ds (ds.doWork spawned.upstairsConnection jobId injectError readReply
      writeReply).1 spawned { spawned with worker := worker' } := by
  intro uuid entry' found k running
  rw [(Downstairs.doWork_activeUpstairs ..).1] at found
  by_cases tended : spawned.Tends entry'.upstairsConnection k
  · have same : k = jobId := tended.eq_job (by simp [working, Worker.job])
    subst same
    have lock := tended.1 ▸ inv.workLock_of_lookup found
    obtain ⟨job, jobFound, state⟩ := running
    obtain ⟨stored, -, -⟩ := inv.owned uuid entry' found k job jobFound
    refine .inl ⟨tended.1, ?_⟩
    rcases Work.getReadyJob_running jobFound state stored with ready | unmet
    · obtain ⟨m, done, -⟩ := Downstairs.doWork_ack lock ready injectError readReply writeReply
      exact .inl (by simp [answered m done, Worker.job])
    · exact .inr (.inl (failed _ (Downstairs.doWork_of_getReadyJob_error lock unmet ..)))
  · exact .inr ⟨entry', found, rfl, running, tended⟩

/-- `complete_work` takes the worker's job out of its queue, and nothing else. -/
theorem completeWork (inv : RegistryInv ds) {jobId : Nat} {m : Message} {rest : List Nat}
    (completing : spawned.worker = .completing jobId m rest) (worker' : Worker) :
    WorkerKeeps ds (ds.completeWork spawned.upstairsConnection jobId m).1 spawned
      { spawned with worker := worker' } := by
  have current : spawned.worker.job = some jobId := by simp [completing, Worker.job]
  intro uuid entry' found k running
  cases lock : ds.workLock spawned.upstairsConnection with
  | error fault =>
      simp only [Downstairs.completeWork, Downstairs.withWork, lock] at found
      refine .inr ⟨entry', found, rfl, running, fun tended => ?_⟩
      have granted := inv.workLock_of_lookup found
      rw [← tended.1, lock] at granted
      cases granted
  | ok entry =>
      obtain ⟨stored, mine⟩ := Downstairs.workLock_eq_ok.mp lock
      rw [Downstairs.completeWork_of_workLock lock, Downstairs.lookup_setWork] at found
      split_ifs at found with same
      · cases found
        obtain ⟨other, old⟩ := Work.running_completeWork running
        exact .inr ⟨entry, by rw [same, mine]; exact stored, rfl, old,
          fun tended => other (tended.eq_job current)⟩
      · refine .inr ⟨entry', found, rfl, running, fun tended => same ?_⟩
        rw [← inv.keyed uuid entry' found, ← tended.1, mine]

end WorkerKeeps

namespace Connection

variable {conn : Connection} {tx : Nat} {ds : Downstairs} {replies : RegionReplies}
  {effect : Effect}

/-- The worker's step keeps every job in progress tended, by itself or as before. -/
theorem workStep_keeps (inv : RegistryInv ds) (stepped : conn.workStep ds replies = some effect) :
    ∃ spawned spawned', conn.spawned = some spawned ∧ effect.connection.spawned = some spawned' ∧
      WorkerKeeps ds effect.ds spawned spawned' := by
  unfold workStep moveWorker at stepped
  split at stepped
  · cases stepped
  next spawned found =>
  refine ⟨spawned, ?_⟩
  split at stepped
  case h_5 =>
    cases stepped
    exact ⟨_, found, rfl, .inProgress inv ‹_› fun _ started => by simp only [started]⟩
  case h_6 =>
    cases stepped
    exact ⟨_, found, rfl, .doWork inv ‹_› (fun _ done => by simp only [done])
      fun _ failed => by simp only [failed]⟩
  case h_7 jobId m rest acking =>
    have current : spawned.worker.job = some jobId := by simp [acking, Worker.job]
    split_ifs at stepped
    · cases stepped
      exact ⟨_, found, rfl, .of_tends fun _ _ tends => ⟨tends.1, .inr (.inr rfl)⟩⟩
    · cases stepped
      exact ⟨_, found, rfl, .of_tends fun _ _ tends =>
        ⟨tends.1, .inl (by simp [tends.eq_job current, Worker.job])⟩⟩
  case h_8 =>
    cases stepped
    exact ⟨_, found, rfl, .completeWork inv ‹_› _⟩
  all_goals
    (repeat' split at stepped) <;> cases stepped <;>
      exact ⟨_, found, rfl, .idle (by simp [*, Worker.job]) (by simp [*, Worker.Stranded])⟩

/-- Steps of the other tasks leave the worker, and the connection its tasks serve, alone. -/
theorem step_spawned {readOnly encrypted : Bool} (connInv : ConnectionInv readOnly encrypted conn)
    {task : Task} (notWork : task ≠ .work) (stepped : conn.step tx ds replies task = some effect)
    {spawned : Spawned} (found : conn.spawned = some spawned) :
    ∃ spawned', effect.connection.spawned = some spawned' ∧
      spawned'.upstairsConnection = spawned.upstairsConnection ∧ spawned'.worker = spawned.worker := by
  have notNegotiating : ∀ negotiated c, conn.supervisor ≠ .negotiating negotiated c :=
    fun negotiated c negotiating => by simp [connInv.quiet negotiated c negotiating] at found
  have worker := (step_worker notWork stepped).resolve_right
    fun ⟨⟨negotiated, c, negotiating⟩, _⟩ => notNegotiating negotiated c negotiating
  have served : effect.connection.spawned.map (·.upstairsConnection) =
      some spawned.upstairsConnection := by
    rcases step_cases stepped with ⟨-, -, follows | ⟨-, negotiated, negotiating⟩⟩ |
      ⟨negotiated, c, -, -, negotiating, -⟩
    · simp [follows.handedOff, found]
    · exact absurd negotiating (notNegotiating negotiated none)
    · exact absurd negotiating (notNegotiating negotiated c)
  rw [found] at worker
  obtain ⟨spawned', stored, sameWorker⟩ := Option.map_eq_some'.mp worker
  rw [stored] at served
  exact ⟨spawned', stored, Option.some.inj served, sameWorker⟩

end Connection

/-! ## The invariant -/

/-- Every job in progress in a registered queue is tended by a connection serving the queue's connection. -/
def RunningTended (s : System) : Prop :=
  ∀ uuid entry, s.ds.activeUpstairs.lookup uuid = some entry →
    ∀ k, entry.work.Running k → Tended s.connections entry.upstairsConnection k

namespace RunningTended

variable {s s' : System}

theorem init (readOnly encrypted returnErrors : Bool) (repairAddress : Nat) :
    RunningTended (System.init readOnly encrypted returnErrors repairAddress) :=
  fun _ _ found => by simp [System.init, Downstairs.new] at found

theorem accept (tended : RunningTended s) (inbound : List Message) (hungUp : Bool) :
    RunningTended ⟨s.ds, s.connections ++ [Connection.accepted inbound hungUp]⟩ :=
  fun uuid entry found k running => (tended uuid entry found k running).accept _

/-- Every step of a connection's tasks keeps every job in progress tended. -/
theorem step (tended : RunningTended s) (registry : RegistryInv s.ds) (system : SystemInv s)
    {g : Nat} {task : Task} {replies : RegionReplies}
    (stepped : s.step (.step g task replies) = some s') : RunningTended s' := by
  obtain ⟨conn, effect, found, taken, rfl⟩ := System.step_eq_some stepped
  intro uuid entry' found' k running
  by_cases work : task = .work
  · subst work
    obtain ⟨spawned, spawned', stored, stored', keeps⟩ := Connection.workStep_keeps registry taken
    rcases keeps uuid entry' found' k running with tends | ⟨entry, old, same, wasRunning, untended⟩
    · exact Served.own found stored' tends
    · rw [same]
      refine Served.step (tended uuid entry old k wasRunning) found fun other held tends => ?_
      rw [stored] at held
      cases held
      exact absurd tends untended
  · have reflexive : ∀ w : Work, w.NoneStarted w := fun _ _ => id
    have evolves : s.ds.Evolves Work.NoneStarted effect.ds :=
      (Connection.step_evolves reflexive (fun _ c _ work => Work.noneStarted_addWork c work)
        work taken).elim id fun ⟨_, _, set, _⟩ => set ▸ .withWork reflexive fun _ _ => id
    rcases evolves uuid entry' found' with fresh | ⟨entry, old, same, noneStarted⟩
    · exact absurd (fresh ▸ running) Work.not_running_new
    · rw [same]
      refine Served.step (tended uuid entry old k (noneStarted k running)) found
        fun spawned held tends => ?_
      obtain ⟨spawned', stored', sameConnection, sameWorker⟩ :=
        Connection.step_spawned (system.connections g conn found) work taken held
      exact ⟨spawned', stored', by rw [Spawned.Tends, sameConnection, sameWorker]; exact tends⟩

end RunningTended

/-- Every reachable state keeps every job in progress tended. -/
theorem Reachable.runningTended {s : System} (reach : Reachable s) : RunningTended s := by
  induction reach with
  | init readOnly encrypted returnErrors repairAddress =>
      exact .init readOnly encrypted returnErrors repairAddress
  | step action reached stepped tended =>
      cases action with
      | accept inbound hungUp =>
          cases stepped
          exact tended.accept inbound hungUp
      | step g task replies => exact tended.step reached.registryInv reached.systemInv stepped

/--
No job is left in progress without its worker.  In every reachable state, whatever
the interleaving of the tasks, every job in progress in a registered queue is the
current job of the worker of a connection whose tasks serve the queue's connection,
or that worker has returned because the dependency assertion of `get_ready_job`
failed or the write of its ack failed.
-/
theorem running_jobs_tended {s : System} (reach : Reachable s) :
    ∀ uuid entry, s.ds.activeUpstairs.lookup uuid = some entry →
      ∀ k job, entry.work.active.lookup k = some job → job.state = .inProgress →
        ∃ conn ∈ s.connections, ∃ spawned, conn.spawned = some spawned ∧
          spawned.upstairsConnection = entry.upstairsConnection ∧
          (spawned.worker.job = some k ∨
            spawned.worker = .finished (.error (.downstairs (.panic .readyJobDependencyUnmet))) ∨
            spawned.worker = .finished (.error .frameWrite)) :=
  fun uuid entry found k job stored running =>
    reach.runningTended uuid entry found k ⟨job, stored, running⟩

/-- The run `threeJobQueue`, with its worker then started on the first job. -/
def threeJobStarted : List Action :=
  threeJobQueue ++ List.replicate 4 (.step 0 .work RegionReplies.healthy)

theorem running_jobs_tended_threeJobStarted :
    ((System.replay threeJobStarted).ds.activeUpstairs.entries.map fun entry =>
        (entry.2.work.active.entries.filter fun job => job.2.state = .inProgress).map (·.1)) =
      [[1000]] ∧
    ((System.replay threeJobStarted).connections.map fun conn =>
        conn.spawned.map (·.worker.job)) = [some (some 1000)] ∧
    ∀ uuid entry, (System.replay threeJobStarted).ds.activeUpstairs.lookup uuid = some entry →
      ∀ k job, entry.work.active.lookup k = some job → job.state = .inProgress →
        ∃ conn ∈ (System.replay threeJobStarted).connections, ∃ spawned,
          conn.spawned = some spawned ∧ spawned.upstairsConnection = entry.upstairsConnection ∧
          (spawned.worker.job = some k ∨
            spawned.worker = .finished (.error (.downstairs (.panic .readyJobDependencyUnmet))) ∨
            spawned.worker = .finished (.error .frameWrite)) :=
  ⟨by decide, by decide, running_jobs_tended (Reachable.replay threeJobStarted)⟩

end CrucibleDownstairs
