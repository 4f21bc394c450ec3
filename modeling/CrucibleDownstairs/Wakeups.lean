import CrucibleDownstairs.Running

namespace CrucibleDownstairs

/-!
# No notification is lost

`pf_task` sends a notification on the job channel after `proc_frame` queues a job,
and `do_work_task`, woken by one, lists the waiting jobs of its queue with
`new_work` and offers each id to `in_progress` in turn.  During the lap the worker
does not look at the queue again: a job queued meanwhile is picked up only because
its own notification is still in the channel when the lap ends.

In every reachable state, whatever the interleaving of the tasks, every job of a
registered queue that no `in_progress` has looked at yet (still `New`) will be
looked at: some connection whose tasks serve the queue's connection has a
notification waiting in its job channel, or its worker has been woken and has not
listed the queue yet, or the job's id is among those its worker still has to offer
to `in_progress` in this lap, or that worker has returned.
-/

/-- The ids the worker still has to offer to `in_progress` in this lap. -/
def Worker.pending : Worker → List Nat
  | .scanning ids => ids
  | .working _ rest => rest
  | .acking _ _ rest => rest
  | .completing _ _ rest => rest
  | _ => []

/-- The worker will offer job `k` to `in_progress` before it waits again, unless it returns. -/
def Worker.WillSee (worker : Worker) (k : Nat) : Prop :=
  worker = .woken ∨ worker = .listing ∨ k ∈ worker.pending ∨ ∃ result, worker = .finished result

/-- Job `k` of the queue is still `New`: no `in_progress` has looked at it. -/
def Work.Unscanned (w : Work) (k : Nat) : Prop :=
  ∃ job, w.active.lookup k = some job ∧ job.state = .new

/-- Every job still `New` in `w'` was `New` in `w`. -/
def Work.NoneQueued (w w' : Work) : Prop :=
  ∀ k, w'.Unscanned k → w.Unscanned k

/-- The tasks serve `c`, and a notification waits for their worker or it will see job `k`. -/
def Spawned.Notices (spawned : Spawned) (c : UpstairsConnection) (k : Nat) : Prop :=
  spawned.upstairsConnection = c ∧ (0 < spawned.jobTokens ∨ spawned.worker.WillSee k)

/-- The tasks after a step of another task: the same connection and worker, and no fewer notifications. -/
structure Spawned.Grows (spawned spawned' : Spawned) : Prop where
  upstairsConnection : spawned'.upstairsConnection = spawned.upstairsConnection
  worker : spawned'.worker = spawned.worker
  jobTokens : spawned.jobTokens ≤ spawned'.jobTokens

/-- The tasks of some connection notice job `k` of the queue of `c`. -/
def Noticed (connections : List Connection) (c : UpstairsConnection) (k : Nat) : Prop :=
  Served connections (·.Notices c k)

/-! ## Workers and their tasks -/

/-- A worker that moves on to the rest of its scan, or returns, still sees what is left. -/
theorem Worker.willSee_of_next {worker : Worker} {rest : List Nat} {k : Nat}
    (next : (∃ result, worker = .finished result) ∨ worker.pending = rest) (member : k ∈ rest) :
    worker.WillSee k :=
  next.elim (fun returned => .inr (.inr (.inr returned)))
    fun pending => .inr (.inr (.inl (pending ▸ member)))

namespace Spawned

variable {spawned spawned' : Spawned} {c : UpstairsConnection} {k : Nat}

theorem Notices.grow (notices : spawned.Notices c k) (grows : spawned.Grows spawned') :
    spawned'.Notices c k := by
  obtain ⟨mine, seen⟩ := notices
  refine ⟨grows.upstairsConnection.trans mine, ?_⟩
  rw [grows.worker]
  exact seen.imp_left fun waiting => Nat.lt_of_lt_of_le waiting grows.jobTokens

theorem Grows.refl (spawned : Spawned) : spawned.Grows spawned := ⟨rfl, rfl, le_refl _⟩

theorem afterFrame_jobTokens_le (spawned : Spawned) (result : Except ConnectionError Bool)
    {tokens : Nat} (le : tokens ≤ spawned.jobTokens) :
    tokens ≤ (spawned.afterFrame result).jobTokens := by
  unfold afterFrame
  split
  · exact le
  · exact le
  · split
    · exact le
    · exact Nat.le_succ_of_le le

/-- Once a job is queued, `pf_task`'s notification is in the channel, or the worker has returned. -/
theorem afterFrame_notices (spawned : Spawned) (k : Nat) :
    (spawned.afterFrame (.ok true)).Notices spawned.upstairsConnection k := by
  simp only [afterFrame]
  split
  · next result returned => exact ⟨rfl, .inr (.inr (.inr (.inr ⟨result, returned⟩)))⟩
  · exact ⟨rfl, .inl (Nat.succ_pos _)⟩

end Spawned

/-! ## Queues -/

namespace Work

variable {w : Work} {d k : Nat}

theorem unscanned_addWork {job : DownstairsWork} (unscanned : (w.addWork d job).Unscanned k) :
    k = d ∧ job.state = .new ∨ k ≠ d ∧ w.Unscanned k := by
  obtain ⟨stored, found, state⟩ := unscanned
  rw [lookup_addWork] at found
  split_ifs at found with same
  · cases found
    exact .inl ⟨same, state⟩
  · exact .inr ⟨same, stored, found, state⟩

theorem unscanned_completeWork {isFlush : Bool} (unscanned : (w.completeWork d isFlush).Unscanned k) :
    w.Unscanned k := by
  obtain ⟨stored, found, state⟩ := unscanned
  rw [lookup_completeWork] at found
  split_ifs at found
  exact ⟨stored, found, state⟩

/-- `in_progress` changes only the job it looks at. -/
theorem inProgress_lookup_ne (w : Work) (other : k ≠ d) :
    (w.inProgress d).1.active.lookup k = w.active.lookup k := by
  rcases inProgress_cases w d with ⟨same, -⟩ | ⟨job, -, -, moved, -⟩ | ⟨job, -, -, -, moved, -⟩
  · rw [same]
  all_goals rw [moved, lookup_addWork, if_neg other]

/-- `in_progress` leaves no job it looked at `New`, and no other job changes. -/
theorem unscanned_inProgress (unscanned : (w.inProgress d).1.Unscanned k) :
    k ≠ d ∧ w.Unscanned k := by
  obtain ⟨job, found, isNew⟩ := unscanned
  by_cases same : k = d
  · subst same
    exfalso
    unfold inProgress at found
    split at found
    · next absent => simp [absent] at found
    · next old stored =>
        split_ifs at found with waiting outstanding wasNew
        · simp [AList.lookup_insert] at found
          simp [← found] at isNew
        · simp only [stored, Option.some.injEq] at found
          exact wasNew (found ▸ isNew)
        · simp [AList.lookup_insert] at found
          simp [← found] at isNew
        · simp only [stored, Option.some.injEq] at found
          exact waiting (.inl (found ▸ isNew))
  · have kept := inProgress_lookup_ne w same
    exact ⟨same, job, kept ▸ found, isNew⟩

theorem not_unscanned_new : ¬ new.Unscanned k := by
  simp [Unscanned]

/-- `new_work` on a queue whose jobs are its owner's lists every job still `New`. -/
theorem Owned.mem_newWork {c : UpstairsConnection} {readOnly : Bool} (owned : w.Owned c readOnly)
    (unscanned : w.Unscanned k) : ∃ ids, w.newWork c = .ok ids ∧ k ∈ ids := by
  obtain ⟨job, found, isNew⟩ := unscanned
  refine ⟨_, owned.newWork_eq, (List.perm_insertionSort _ _).mem_iff.mpr ?_⟩
  refine List.mem_map.mpr ⟨job, List.mem_filter.mpr ⟨?_, by simp [Waiting, isNew]⟩,
    (owned k job found).1⟩
  exact List.mem_map.mpr ⟨⟨k, job⟩, AList.mem_lookup_iff.mp found, rfl⟩

end Work

/-- `new_work` on a registered queue lists every job still `New`. -/
theorem RegistryInv.newWork_lists {ds : Downstairs} (inv : RegistryInv ds) {uuid : Uuid}
    {entry : ActiveUpstairs} (found : ds.activeUpstairs.lookup uuid = some entry) {k : Nat}
    (unscanned : entry.work.Unscanned k) :
    ∃ ids, (ds.newWork entry.upstairsConnection).2 = .ok ids ∧ k ∈ ids := by
  obtain ⟨ids, listed, member⟩ := (inv.owned uuid entry found).mem_newWork unscanned
  exact ⟨ids, by simp [Downstairs.newWork, inv.workLock_of_lookup found, listed], member⟩

/-- `add_work` queues one `New` job, in the locked queue, exactly when it succeeds. -/
theorem Downstairs.addWork_unscanned {ds : Downstairs} {c : UpstairsConnection} {dsId : Nat}
    {work : IOop} {uuid : Uuid} {entry' : ActiveUpstairs}
    (found : (ds.addWork c dsId work).1.activeUpstairs.lookup uuid = some entry') {k : Nat}
    (unscanned : entry'.work.Unscanned k) :
    (entry'.upstairsConnection = c ∧ (ds.addWork c dsId work).2 = .ok ()) ∨
    ∃ entry, ds.activeUpstairs.lookup uuid = some entry ∧
      entry'.upstairsConnection = entry.upstairsConnection ∧ entry.work.Unscanned k := by
  unfold Downstairs.addWork at found ⊢
  split_ifs at found ⊢
  · exact .inr ⟨entry', found, rfl, unscanned⟩
  cases lock : ds.workLock c with
  | error fault =>
      simp only [Downstairs.withWork, lock] at found
      exact .inr ⟨entry', found, rfl, unscanned⟩
  | ok entry =>
      obtain ⟨stored, mine⟩ := workLock_eq_ok.mp lock
      rw [withWork_of_workLock lock] at found ⊢
      rw [lookup_setWork] at found
      split_ifs at found with same
      · cases found
        rcases Work.unscanned_addWork unscanned with ⟨-, -⟩ | ⟨-, old⟩
        · exact .inl ⟨mine, rfl⟩
        · exact .inr ⟨entry, by rw [same, mine]; exact stored, rfl, old⟩
      · exact .inr ⟨entry', found, rfl, unscanned⟩

/-- `proc_frame` queues at most one `New` job, for its own connection, and then asks to notify. -/
theorem procFrame_unscanned (ds : Downstairs) (c : UpstairsConnection) (replies : RegionReplies)
    (m : Message) {uuid : Uuid} {entry' : ActiveUpstairs}
    (found : (procFrame ds c replies m).1.activeUpstairs.lookup uuid = some entry') {k : Nat}
    (unscanned : entry'.work.Unscanned k) :
    (entry'.upstairsConnection = c ∧ (procFrame ds c replies m).2.2 = .ok true) ∨
    ∃ entry, ds.activeUpstairs.lookup uuid = some entry ∧
      entry'.upstairsConnection = entry.upstairsConnection ∧ entry.work.Unscanned k := by
  rcases procFrame_registry ds c replies m with ⟨upstairsId, sessionId, jobId, work, submitted⟩ |
    same
  · rw [submitted] at found ⊢
    unfold submit at found ⊢
    split_ifs at found ⊢
    · exact .inr ⟨entry', found, rfl, unscanned⟩
    · exact .inr ⟨entry', found, rfl, unscanned⟩
    · refine (Downstairs.addWork_unscanned found unscanned).imp_left fun ⟨mine, added⟩ => ⟨mine, ?_⟩
      simp only [added]
  · exact .inr ⟨entry', same ▸ found, rfl, unscanned⟩

/-! ## One step of the worker -/

/--
What the worker's step from `spawned` to `spawned'`, taking the downstairs from `ds`
to `ds'`, does to the jobs still `New`: each one in a queue of `ds'` was `New` in the
same queue of `ds`, and `spawned'` notices it if `spawned` did.
-/
def WorkerNotices (ds ds' : Downstairs) (spawned spawned' : Spawned) : Prop :=
  ∀ uuid entry', ds'.activeUpstairs.lookup uuid = some entry' → ∀ k, entry'.work.Unscanned k →
    ∃ entry, ds.activeUpstairs.lookup uuid = some entry ∧
      entry'.upstairsConnection = entry.upstairsConnection ∧ entry.work.Unscanned k ∧
      (spawned.Notices entry.upstairsConnection k → spawned'.Notices entry.upstairsConnection k)

namespace WorkerNotices

variable {ds ds' : Downstairs} {spawned : Spawned}

/-- A step that leaves the registry alone and keeps noticing every registered `New` job. -/
theorem of_registered {spawned' : Spawned} (same : ds'.activeUpstairs = ds.activeUpstairs)
    (keeps : ∀ uuid entry k, ds.activeUpstairs.lookup uuid = some entry → entry.work.Unscanned k →
      spawned.Notices entry.upstairsConnection k → spawned'.Notices entry.upstairsConnection k) :
    WorkerNotices ds ds' spawned spawned' := fun uuid entry' found k unscanned =>
  ⟨entry', same ▸ found, rfl, unscanned, keeps uuid entry' k (same ▸ found) unscanned⟩

/-- A worker in its lap that leaves the registry alone moves on to the rest of its scan. -/
theorem moveOn (same : ds'.activeUpstairs = ds.activeUpstairs) {rest : List Nat}
    (pending : ∀ k, spawned.worker.WillSee k → k ∈ rest) {worker' : Worker}
    (next : (∃ result, worker' = .finished result) ∨ worker'.pending = rest) :
    WorkerNotices ds ds' spawned { spawned with worker := worker' } :=
  of_registered same fun _ _ k _ _ notices =>
    ⟨notices.1, notices.2.imp_right fun seen => Worker.willSee_of_next next (pending k seen)⟩

/-- `in_progress` takes the scanned job off the list of jobs still `New`, and the worker moves on. -/
theorem inProgress (inv : RegistryInv ds) {dsId : Nat} {rest : List Nat}
    (scanning : spawned.worker = .scanning (dsId :: rest)) {worker' : Worker}
    (next : (∃ result, worker' = .finished result) ∨ worker'.pending = rest)
    (failed : ∀ fault, (ds.inProgress spawned.upstairsConnection dsId).2 = .error fault →
      ∃ result, worker' = .finished result) :
    WorkerNotices ds (ds.inProgress spawned.upstairsConnection dsId).1 spawned
      { spawned with worker := worker' } := by
  have moves : ∀ c k, k ≠ dsId → spawned.Notices c k → { spawned with worker := worker' }.Notices c k :=
    fun c k other notices => ⟨notices.1, notices.2.imp_right fun seen =>
      Worker.willSee_of_next next (by simpa [scanning, Worker.WillSee, Worker.pending, other] using seen)⟩
  intro uuid entry' found k unscanned
  cases lock : ds.workLock spawned.upstairsConnection with
  | error fault =>
      have returned := failed fault (by simp [Downstairs.inProgress, Downstairs.withWork, lock])
      simp only [Downstairs.inProgress, Downstairs.withWork, lock] at found
      exact ⟨entry', found, rfl, unscanned, fun notices => ⟨notices.1, .inr (.inr (.inr (.inr returned)))⟩⟩
  | ok entry =>
      obtain ⟨stored, mine⟩ := Downstairs.workLock_eq_ok.mp lock
      simp only [Downstairs.inProgress, Downstairs.withWork_of_workLock lock,
        Downstairs.lookup_setWork] at found
      split_ifs at found with same
      · cases found
        obtain ⟨other, old⟩ := Work.unscanned_inProgress unscanned
        exact ⟨entry, by rw [same, mine]; exact stored, rfl, old, moves _ k other⟩
      · refine ⟨entry', found, rfl, unscanned, fun notices => (same ?_).elim⟩
        rw [← inv.keyed uuid entry' found, ← notices.1, mine]

/-- `complete_work` takes a job out of the queue, and the worker moves on. -/
theorem completeWork {jobId : Nat} {m : Message} {rest : List Nat}
    (completing : spawned.worker = .completing jobId m rest) {worker' : Worker}
    (next : (∃ result, worker' = .finished result) ∨ worker'.pending = rest) :
    WorkerNotices ds (ds.completeWork spawned.upstairsConnection jobId m).1 spawned
      { spawned with worker := worker' } := by
  have moves : ∀ c k, spawned.Notices c k → { spawned with worker := worker' }.Notices c k :=
    fun c k notices => ⟨notices.1, notices.2.imp_right fun seen =>
      Worker.willSee_of_next next (by simpa [completing, Worker.WillSee, Worker.pending] using seen)⟩
  intro uuid entry' found k unscanned
  rcases Downstairs.withWork_lookup found with old | ⟨entry, stored, -, rfl⟩
  · exact ⟨entry', old, rfl, unscanned, moves _ k⟩
  · exact ⟨entry, stored, rfl, Work.unscanned_completeWork unscanned, moves _ k⟩

end WorkerNotices

namespace Connection

variable {conn : Connection} {tx : Nat} {ds : Downstairs} {replies : RegionReplies}
  {effect : Effect}

/-- The worker's step keeps noticing what it noticed, and queues nothing. -/
theorem workStep_notices (inv : RegistryInv ds) (stepped : conn.workStep ds replies = some effect) :
    ∃ spawned spawned', conn.spawned = some spawned ∧ effect.connection.spawned = some spawned' ∧
      WorkerNotices ds effect.ds spawned spawned' := by
  unfold workStep moveWorker at stepped
  split at stepped
  · cases stepped
  next spawned found =>
  refine ⟨spawned, ?_⟩
  split at stepped
  case h_1 =>
    split_ifs at stepped
    all_goals cases stepped
    · exact ⟨_, found, rfl, .of_registered rfl fun _ _ _ _ _ notices => ⟨notices.1, .inr (.inl rfl)⟩⟩
    · exact ⟨_, found, rfl, .of_registered rfl fun _ _ _ _ _ notices =>
        ⟨notices.1, .inr (.inr (.inr (.inr ⟨_, rfl⟩)))⟩⟩
  case h_2 =>
    cases stepped
    refine ⟨_, found, rfl, .of_registered rfl fun uuid entry k registered _ notices =>
      ⟨notices.1, .inr (.inr (.inl ?_))⟩⟩
    have active : ds.isActive spawned.upstairsConnection = true :=
      notices.1 ▸ Downstairs.isActive_of_workLock (inv.workLock_of_lookup registered)
    simp [active]
  case h_3 =>
    cases stepped
    refine ⟨_, found, rfl, .of_registered rfl fun uuid entry k registered unscanned notices =>
      ⟨notices.1, .inr (.inr (.inr (.inl ?_)))⟩⟩
    obtain ⟨ids, listed, member⟩ := inv.newWork_lists registered unscanned
    rw [← notices.1] at listed
    simp [listed, Worker.pending, (List.perm_insertionSort _ _).mem_iff, member]
  case h_4 scanning =>
    cases stepped
    exact ⟨_, found, rfl, .moveOn rfl (fun k seen => by
      simp [scanning, Worker.WillSee, Worker.pending] at seen) (.inr rfl)⟩
  case h_5 scanning =>
    cases stepped
    refine ⟨_, found, rfl, .inProgress inv scanning ?_ fun fault failed => ?_⟩
    · split <;> simp [Worker.pending]
    · simp only [failed]
      exact ⟨_, rfl⟩
  case h_6 jobId rest working =>
    cases stepped
    refine ⟨_, found, rfl, .moveOn (Downstairs.doWork_activeUpstairs ..).1 (fun k seen => by
      simpa [working, Worker.WillSee, Worker.pending] using seen) ?_⟩
    split <;> simp [Worker.pending]
  case h_7 jobId m rest acking =>
    have kept : ∀ k, spawned.worker.WillSee k → k ∈ rest := fun k seen => by
      simpa [acking, Worker.WillSee, Worker.pending] using seen
    split_ifs at stepped
    · cases stepped
      exact ⟨_, found, rfl, .moveOn rfl kept (.inl ⟨_, rfl⟩)⟩
    · cases stepped
      exact ⟨_, found, rfl, .moveOn rfl kept (.inr rfl)⟩
  case h_8 completing =>
    cases stepped
    refine ⟨_, found, rfl, .completeWork completing ?_⟩
    split <;> simp [Worker.pending]
  case h_9 => cases stepped

/--
A step of `pf_task` queues at most one `New` job, for the connection its tasks serve,
and then notifies the worker (or finds it returned); its tasks keep what they noticed.
-/
theorem dispatchStep_notices (stepped : conn.dispatchStep ds replies = some effect) :
    ∃ spawned spawned', conn.spawned = some spawned ∧ effect.connection.spawned = some spawned' ∧
      spawned.Grows spawned' ∧
      ∀ uuid entry', effect.ds.activeUpstairs.lookup uuid = some entry' → ∀ k,
        entry'.work.Unscanned k →
        spawned'.Notices entry'.upstairsConnection k ∨
        ∃ entry, ds.activeUpstairs.lookup uuid = some entry ∧
          entry'.upstairsConnection = entry.upstairsConnection ∧ entry.work.Unscanned k := by
  unfold dispatchStep at stepped
  split at stepped
  · cases stepped
  next spawned found =>
  repeat' split at stepped
  all_goals cases stepped
  all_goals first
    | exact ⟨spawned, _, found, rfl, ⟨rfl, rfl, le_refl _⟩,
        fun uuid entry' found' k unscanned => .inr ⟨entry', found', rfl, unscanned⟩⟩
    | refine ⟨spawned, _, found, rfl, ⟨by simp, by simp, Spawned.afterFrame_jobTokens_le _ _ (le_refl _)⟩,
        fun uuid entry' found' k unscanned =>
          (procFrame_unscanned ds _ replies _ found' unscanned).imp_left fun ⟨mine, queued⟩ => ?_⟩
      rw [queued, mine]
      exact Spawned.afterFrame_notices _ k

/--
A step of another task but the worker and the dispatcher keeps the connection its
tasks serve, its worker and its notifications, unless it is a negotiation turn.
-/
theorem step_grows {task : Task} (notWork : task ≠ .work) (notDispatch : task ≠ .dispatch)
    (stepped : conn.step tx ds replies task = some effect) :
    (∃ negotiated c, conn.supervisor = .negotiating negotiated c) ∨
      ∀ spawned, conn.spawned = some spawned →
        ∃ spawned', effect.connection.spawned = some spawned' ∧ spawned.Grows spawned' := by
  cases task
  case work => exact absurd rfl notWork
  case dispatch => exact absurd rfl notDispatch
  case read =>
    simp only [step, readStep] at stepped
    split at stepped
    · next negotiated recorded _ _ negotiating _ => exact .inl ⟨negotiated, recorded, negotiating⟩
    all_goals
      repeat' split at stepped
      all_goals cases stepped
    all_goals refine .inr fun spawned found => ?_
    all_goals first
      | exact ⟨spawned, found, .refl spawned⟩
      | (simp only [setSpawned_spawned, Option.some.injEq, exists_eq_left']
         simp_all only [Option.some.injEq]
         exact ⟨rfl, rfl, le_refl _⟩)
  all_goals
    simp only [step, evictedStep, timeoutStep, taskEndedStep] at stepped
    repeat' split at stepped
    all_goals cases stepped
    all_goals exact .inr fun spawned found => ⟨spawned, found, .refl spawned⟩

end Connection

/-! ## The invariant -/

/-- Every job still `New` in a registered queue is noticed by a connection serving the queue's connection. -/
def NewNoticed (s : System) : Prop :=
  ∀ uuid entry, s.ds.activeUpstairs.lookup uuid = some entry →
    ∀ k, entry.work.Unscanned k → Noticed s.connections entry.upstairsConnection k

namespace NewNoticed

variable {s s' : System}

theorem init (readOnly encrypted returnErrors : Bool) (repairAddress : Nat) :
    NewNoticed (System.init readOnly encrypted returnErrors repairAddress) :=
  fun _ _ found => by simp [System.init, Downstairs.new] at found

theorem accept (noticed : NewNoticed s) (inbound : List Message) (hungUp : Bool) :
    NewNoticed ⟨s.ds, s.connections ++ [Connection.accepted inbound hungUp]⟩ :=
  fun uuid entry found k unscanned => (noticed uuid entry found k unscanned).accept _

/-- Every step of a connection's tasks keeps every `New` job noticed. -/
theorem step (noticed : NewNoticed s) (registry : RegistryInv s.ds) (system : SystemInv s)
    {g : Nat} {task : Task} {replies : RegionReplies}
    (stepped : s.step (.step g task replies) = some s') : NewNoticed s' := by
  obtain ⟨conn, effect, found, taken, rfl⟩ := System.step_eq_some stepped
  intro uuid entry' found' k unscanned
  by_cases work : task = .work
  · subst work
    obtain ⟨spawned, spawned', stored, stored', notices⟩ := Connection.workStep_notices registry taken
    obtain ⟨entry, old, same, wasUnscanned, keep⟩ := notices uuid entry' found' k unscanned
    rw [same]
    refine Served.step (noticed uuid entry old k wasUnscanned) found fun other held seen => ?_
    rw [stored] at held
    cases held
    exact ⟨spawned', stored', keep seen⟩
  by_cases dispatch : task = .dispatch
  · subst dispatch
    obtain ⟨spawned, spawned', stored, stored', grows, queued⟩ :=
      Connection.dispatchStep_notices taken
    rcases queued uuid entry' found' k unscanned with own | ⟨entry, old, same, wasUnscanned⟩
    · exact Served.own found stored' own
    · rw [same]
      refine Served.step (noticed uuid entry old k wasUnscanned) found fun other held seen => ?_
      rw [stored] at held
      cases held
      exact ⟨spawned', stored', seen.grow grows⟩
  · have reflexive : ∀ w : Work, w.NoneQueued w := fun _ _ => id
    have evolves : s.ds.Evolves Work.NoneQueued effect.ds :=
      (Connection.step_evolves_of_ne reflexive work dispatch taken).elim id
        fun ⟨_, _, set, _⟩ => set ▸ .withWork reflexive fun _ _ => id
    rcases evolves uuid entry' found' with fresh | ⟨entry, old, same, noneQueued⟩
    · exact absurd (fresh ▸ unscanned) Work.not_unscanned_new
    · rw [same]
      refine Served.step (noticed uuid entry old k (noneQueued k unscanned)) found
        fun spawned held seen => ?_
      rcases Connection.step_grows work dispatch taken with ⟨negotiated, c, negotiating⟩ | grows
      · simp [(system.connections g conn found).quiet negotiated c negotiating] at held
      · obtain ⟨spawned', stored', grown⟩ := grows spawned held
        exact ⟨spawned', stored', seen.grow grown⟩

end NewNoticed

/-- Every reachable state keeps every `New` job noticed. -/
theorem Reachable.newNoticed {s : System} (reach : Reachable s) : NewNoticed s := by
  induction reach with
  | init readOnly encrypted returnErrors repairAddress =>
      exact .init readOnly encrypted returnErrors repairAddress
  | step action reached stepped noticed =>
      cases action with
      | accept inbound hungUp =>
          cases stepped
          exact noticed.accept inbound hungUp
      | step g task replies => exact noticed.step reached.registryInv reached.systemInv stepped

/--
No notification is lost.  In every reachable state, whatever the interleaving of the
tasks, every job still `New` in a registered queue will be offered to `in_progress`:
some connection whose tasks serve the queue's connection has a notification waiting
in its job channel, or its worker has been woken and has not yet listed the queue, or
the job's id is among those its worker has still to offer in this lap, or that worker
has returned.
-/
theorem new_jobs_noticed {s : System} (reach : Reachable s) :
    ∀ uuid entry, s.ds.activeUpstairs.lookup uuid = some entry →
      ∀ k job, entry.work.active.lookup k = some job → job.state = .new →
        ∃ conn ∈ s.connections, ∃ spawned, conn.spawned = some spawned ∧
          spawned.upstairsConnection = entry.upstairsConnection ∧
          (0 < spawned.jobTokens ∨ spawned.worker = .woken ∨ spawned.worker = .listing ∨
            k ∈ spawned.worker.pending ∨ ∃ result, spawned.worker = .finished result) :=
  fun uuid entry found k job stored isNew =>
    reach.newNoticed uuid entry found k ⟨job, stored, isNew⟩

/-- One write queued, its notification taken, and the queue listed: the job is still `New`. -/
def oneJobListed : List Action :=
  [.accept [.hereIAm 1 1 1 1 false false, .promoteToActive 1 1 1, .regionInfoPlease,
      .lastFlush 0, .write 1 1 1000 [] []] false] ++
    List.replicate 5 (.step 0 .read RegionReplies.healthy) ++
    [.step 0 .dispatch RegionReplies.healthy] ++
    List.replicate 3 (.step 0 .work RegionReplies.healthy)

theorem new_jobs_noticed_oneJobListed :
    ((System.replay oneJobListed).ds.activeUpstairs.entries.map fun entry =>
        (entry.2.work.active.entries.filter fun job => job.2.state = .new).map (·.1)) =
      [[1000]] ∧
    ((System.replay oneJobListed).connections.map fun conn =>
        conn.spawned.map fun spawned => (spawned.jobTokens, spawned.worker)) =
      [some (0, .scanning [1000])] ∧
    ∀ uuid entry, (System.replay oneJobListed).ds.activeUpstairs.lookup uuid = some entry →
      ∀ k job, entry.work.active.lookup k = some job → job.state = .new →
        ∃ conn ∈ (System.replay oneJobListed).connections, ∃ spawned,
          conn.spawned = some spawned ∧ spawned.upstairsConnection = entry.upstairsConnection ∧
          (0 < spawned.jobTokens ∨ spawned.worker = .woken ∨ spawned.worker = .listing ∨
            k ∈ spawned.worker.pending ∨ ∃ result, spawned.worker = .finished result) :=
  ⟨by decide, by decide, new_jobs_noticed (Reachable.replay oneJobListed)⟩

end CrucibleDownstairs
