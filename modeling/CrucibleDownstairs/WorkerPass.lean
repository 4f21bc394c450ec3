import CrucibleDownstairs.Steps

namespace CrucibleDownstairs

/-!
# One lap of the worker

On each notification `do_work_task` asks `new_work` for the waiting jobs, sorts
their ids, and for each id in turn calls `in_progress`, `do_work`, writes the ack,
and calls `complete_work`.  Its comment gives the reason for the order: the
dependencies are always in order of job id, so taking the lowest id first needs
the fewest laps through the list.

This module proves the strong form of that remark.  When every queued job is
waiting and depends only on lower ids that are still queued or already satisfied,
and every job lies above the flush horizon, one lap of the worker alone starts,
executes, acks and completes every job, writing the acks in increasing id order,
and leaves the queue empty.  The invariant of the lap is `Work.Drainable`: it holds
of the queue at each point where the worker takes the next id, because that id
is the least one still queued.
-/

namespace Work

/--
What one lap needs of a queue: every job is waiting, every dependency is a lower
id that is still queued or already satisfied, and every job lies above the flush
horizon and above every id completed since.
-/
structure Drainable (w : Work) : Prop where
  waiting : ∀ entry ∈ w.active.entries, Waiting entry.2
  depsBelow : ∀ entry ∈ w.active.entries, ∀ dep ∈ entry.2.work.deps,
    dep < entry.1 ∧ ((w.active.lookup dep).isSome ∨ w.Satisfied dep)
  aboveHorizon : ∀ entry ∈ w.active.entries,
    w.lastFlush < entry.1 ∧ ∀ e ∈ w.completed, e < entry.1

instance (w : Work) : Decidable w.Drainable :=
  decidable_of_iff ((∀ entry ∈ w.active.entries, Waiting entry.2) ∧
      (∀ entry ∈ w.active.entries, ∀ dep ∈ entry.2.work.deps,
        dep < entry.1 ∧ ((w.active.lookup dep).isSome ∨ w.Satisfied dep)) ∧
      ∀ entry ∈ w.active.entries, w.lastFlush < entry.1 ∧ ∀ e ∈ w.completed, e < entry.1)
    ⟨fun ⟨waiting, depsBelow, aboveHorizon⟩ => ⟨waiting, depsBelow, aboveHorizon⟩,
      fun ⟨waiting, depsBelow, aboveHorizon⟩ => ⟨waiting, depsBelow, aboveHorizon⟩⟩

/-- A job stored under an id is an entry of the queue. -/
theorem mem_entries_of_lookup {w : Work} {d : Nat} {job : DownstairsWork}
    (found : w.active.lookup d = some job) : (⟨d, job⟩ : Σ _ : Nat, DownstairsWork) ∈ w.active.entries :=
  AList.mem_lookup_iff.mp found

/-- Queuing a job under an id and then completing it leaves every other id as it was. -/
theorem lookup_addWork_completeWork (w : Work) (d : Nat) (dsw : DownstairsWork) (isFlush : Bool)
    (e : Nat) : ((w.addWork d dsw).completeWork d isFlush).active.lookup e =
      if e = d then none else w.active.lookup e := by
  rw [lookup_completeWork, lookup_addWork]
  split_ifs <;> rfl

/-- A queue none of whose ids holds a job has no jobs. -/
theorem jobs_eq_zero {w : Work} (empty : ∀ d, (w.active.lookup d).isSome = false) : w.jobs = 0 :=
  List.length_eq_zero.mpr (List.eq_nil_iff_forall_not_mem.mpr fun d member => by
    simpa [empty d] using AList.lookup_isSome.mpr (AList.mem_keys.mp member))

namespace Drainable

variable {w : Work} {d : Nat} {job : DownstairsWork}

/-- The least queued id has every dependency satisfied. -/
theorem ready_of_least (drainable : w.Drainable) (found : w.active.lookup d = some job)
    (least : ∀ e, (w.active.lookup e).isSome → d ≤ e) :
    ∀ dep ∈ job.work.deps, w.Satisfied dep := by
  intro dep member
  obtain ⟨below, queued | satisfied⟩ :=
    drainable.depsBelow _ (mem_entries_of_lookup found) dep member
  · exact absurd (least dep queued) (Nat.not_le.mpr below)
  · exact satisfied

/--
Starting and completing the least queued job keeps the queue drainable: its id
becomes satisfied, and a flush moves the horizon only up to it.
-/
theorem finish_least (drainable : w.Drainable) (found : w.active.lookup d = some job)
    (least : ∀ e, (w.active.lookup e).isSome → d ≤ e) :
    ((w.addWork d { job with state := .inProgress }).completeWork d job.work.isFlush).Drainable := by
  set finished := (w.addWork d { job with state := .inProgress }).completeWork d job.work.isFlush
  have lookupFinished := lookup_addWork_completeWork w d { job with state := .inProgress }
    job.work.isFlush
  have started : (w.addWork d { job with state := .inProgress }).active.lookup d =
      some { job with state := .inProgress } := by
    rw [lookup_addWork, if_pos rfl]
  have horizon := drainable.aboveHorizon _ (mem_entries_of_lookup found)
  have stillQueued : ∀ {entry : Σ _ : Nat, DownstairsWork}, entry ∈ finished.active.entries →
      entry.1 ≠ d ∧ w.active.lookup entry.1 = some entry.2 := by
    intro entry member
    have stored := AList.mem_lookup_iff.mpr member
    rw [lookupFinished] at stored
    split_ifs at stored with same
    · exact absurd stored (Option.not_mem_none _)
    · exact ⟨same, stored⟩
  have above : ∀ {entry : Σ _ : Nat, DownstairsWork}, entry ∈ finished.active.entries →
      d < entry.1 := fun member =>
    Nat.lt_of_le_of_ne (least _ (by rw [(stillQueued member).2]; rfl))
      (Ne.symm (stillQueued member).1)
  -- what the completion does to the horizon and to `completed`
  have satisfiedAfter : ∀ dep, (dep = d ∨ w.Satisfied dep) → finished.Satisfied dep := by
    intro dep reached
    cases flush : job.work.isFlush
    · simp only [finished, flush, completeWork_nonFlush started, Satisfied, addWork_lastFlush,
        addWork_completed, List.mem_append, List.mem_singleton] at reached ⊢
      tauto
    · simp only [finished, flush, completeWork_flush started, Satisfied,
        List.not_mem_nil, or_false] at reached ⊢
      rcases reached with rfl | below | completedBefore
      · exact Nat.le_refl _
      · exact Nat.le_of_lt (Nat.lt_of_le_of_lt below horizon.1)
      · exact Nat.le_of_lt (horizon.2 _ completedBefore)
  refine ⟨fun entry member => ?_, fun entry member dep depMember => ?_, fun entry member => ?_⟩
  · exact drainable.waiting _ (mem_entries_of_lookup (stillQueued member).2)
  · obtain ⟨below, queued | satisfied⟩ :=
      drainable.depsBelow _ (mem_entries_of_lookup (stillQueued member).2) dep depMember
    · refine ⟨below, ?_⟩
      by_cases same : dep = d
      · exact .inr (satisfiedAfter dep (.inl same))
      · rw [lookupFinished, if_neg same]
        exact .inl queued
    · exact ⟨below, .inr (satisfiedAfter dep (.inr satisfied))⟩
  · have later := above member
    have before := drainable.aboveHorizon _ (mem_entries_of_lookup (stillQueued member).2)
    cases flush : job.work.isFlush
    · simp only [finished, flush, completeWork_nonFlush started, addWork_lastFlush,
        addWork_completed, List.mem_append, List.mem_singleton]
      exact ⟨before.1, fun e completedAfter => completedAfter.elim (before.2 e) (· ▸ later)⟩
    · simp only [finished, flush, completeWork_flush started, List.not_mem_nil]
      exact ⟨later, fun _ => False.elim⟩

/-- `in_progress` starts the least queued job of a drainable queue and returns it. -/
theorem inProgress_least {owner : UpstairsConnection} {readOnly : Bool}
    (drainable : w.Drainable) (owned : w.Owned owner readOnly)
    (found : w.active.lookup d = some job) (least : ∀ e, (w.active.lookup e).isSome → d ≤ e) :
    w.inProgress d = (w.addWork d { job with state := .inProgress }, some (d, owner)) := by
  obtain ⟨stored, mine, -⟩ := owned d job found
  rw [inProgress_of_ready found (drainable.waiting _ (mem_entries_of_lookup found))
    (drainable.ready_of_least found least), stored, mine]

/-- The started job passes every assertion of `get_ready_job`. -/
theorem getReadyJob_least {owner : UpstairsConnection} {readOnly : Bool}
    (drainable : w.Drainable) (owned : w.Owned owner readOnly)
    (found : w.active.lookup d = some job) (least : ∀ e, (w.active.lookup e).isSome → d ≤ e) :
    (w.addWork d { job with state := .inProgress }).getReadyJob d =
      .ok (some { job with state := .inProgress }) :=
  getReadyJob_of_lookup (by rw [lookup_addWork, if_pos rfl]) rfl (owned d job found).1
    (drainable.ready_of_least found least : ∀ dep ∈ job.work.deps, w.Satisfied dep)

/-- Over a drainable queue of its owner's jobs, `new_work` lists every queued id, in order. -/
theorem newWork_eq {owner : UpstairsConnection} {readOnly : Bool} (drainable : w.Drainable)
    (owned : w.Owned owner readOnly) :
    w.newWork owner = .ok (w.active.keys.insertionSort (· ≤ ·)) := by
  have allWaiting : w.jobList.filter (fun job => decide (Waiting job)) = w.jobList :=
    List.filter_eq_self.mpr fun job member => by
      obtain ⟨entry, queued, rfl⟩ := List.mem_map.mp member
      exact decide_eq_true (drainable.waiting entry queued)
  have storedIds : w.jobList.map (·.dsId) = w.active.keys :=
    (List.map_map _ _ _).trans (List.map_congr_left fun entry member =>
      (owned entry.1 entry.2 (AList.mem_lookup_iff.mpr member)).1)
  rw [owned.newWork_eq, allWaiting, storedIds]

end Drainable

end Work

/-- The job id an ack answers; `none` for every other frame. -/
def Message.ackId : Message → Option Nat
  | .readResponse _ _ jobId _ => some jobId
  | .writeAck _ _ jobId _ => some jobId
  | .writeUnwrittenAck _ _ jobId _ => some jobId
  | .flushAck _ _ jobId _ => some jobId
  | _ => none

namespace Downstairs

variable {ds : Downstairs} {c : UpstairsConnection} {entry : ActiveUpstairs}

/-- `in_progress` under a granted lock: the queue's answer, with the owner found active. -/
theorem inProgress_of_workLock (lock : ds.workLock c = .ok entry) {d jobId : Nat} {work : Work}
    (started : entry.work.inProgress d = (work, some (jobId, c))) :
    ds.inProgress c d = (ds.setWork entry work, .ok (some jobId)) := by
  have active := (workLock_eq_ok.mp lock).2 ▸ isActive_setWork ds entry work
  simp [inProgress, withWork_of_workLock lock, started, active]

/-- `do_work` on a ready job always builds the ack of that job, of the job's kind. -/
theorem doWork_ack (lock : ds.workLock c = .ok entry) {jobId : Nat} {job : DownstairsWork}
    (ready : entry.work.getReadyJob jobId = .ok (some job)) (injectError : Bool)
    (readReply : Except CrucibleError (List ReadResponse)) (writeReply : Except CrucibleError Unit) :
    ∃ m, (ds.doWork c jobId injectError readReply writeReply).2 = .ok (some m) ∧
      m.ackId = some job.dsId ∧ m.isFlushAck = job.work.isFlush := by
  obtain ⟨owner, dsId, work, state⟩ := job
  cases work <;> simp [doWork, lock, ready, Message.ackId, Message.isFlushAck, IOop.isFlush]

/-- `complete_work` under a granted lock stores the completed queue back. -/
theorem completeWork_of_workLock (lock : ds.workLock c = .ok entry) (d : Nat) (m : Message) :
    ds.completeWork c d m =
      (ds.setWork entry (entry.work.completeWork d m.isFlushAck), .ok ()) :=
  withWork_of_workLock lock _

end Downstairs

namespace Connection

/--
The worker alone takes one step per element of the list, every other task
standing still; `none` as soon as it cannot move.
-/
def workRun (conn : Connection) (ds : Downstairs) :
    List RegionReplies → Option (Connection × Downstairs)
  | [] => some (conn, ds)
  | replies :: rest =>
      (conn.workStep ds replies).bind fun effect => effect.connection.workRun effect.ds rest

@[simp] theorem setSpawned_setSpawned (conn : Connection) (spawned next : Spawned) :
    (conn.setSpawned spawned).setSpawned next = conn.setSpawned next := rfl

variable {conn : Connection} {spawned : Spawned} {ds : Downstairs} {entry : ActiveUpstairs}
  {d : Nat} {job : DownstairsWork}

/--
One pass of the loop body of `do_work_task` on the least queued id: `in_progress`
starts the job, `do_work` answers it, the ack is written, when its write does not
fail, and `complete_work` removes the job from the queue.
-/
theorem workRun_visit {readOnly : Bool} (conn : Connection) (spawned : Spawned) (rest : List Nat)
    (lock : ds.workLock spawned.upstairsConnection = .ok entry)
    (owned : entry.work.Owned spawned.upstairsConnection readOnly)
    (drainable : entry.work.Drainable) (found : entry.work.active.lookup d = some job)
    (least : ∀ e, (entry.work.active.lookup e).isSome → d ≤ e)
    (r₁ r₂ r₃ r₄ : RegionReplies) (delivered : r₃.ackWriteFails = false)
    (replies : List RegionReplies) :
    ∃ ds' m, (conn.setSpawned { spawned with worker := .scanning (d :: rest) }).workRun ds
        (r₁ :: r₂ :: r₃ :: r₄ :: replies) =
      ({ conn with written := conn.written ++ [m] }.setSpawned
        { spawned with worker := .scanning rest }).workRun ds' replies ∧
      m.ackId = some d ∧
      ds'.activeUpstairs = (ds.setWork entry ((entry.work.addWork d
        { job with state := .inProgress }).completeWork d job.work.isFlush)).activeUpstairs := by
  have inProgress :=
    Downstairs.inProgress_of_workLock lock (drainable.inProgress_least owned found least)
  have lock₁ := Downstairs.workLock_setWork lock (entry.work.addWork d { job with state := .inProgress })
  obtain ⟨m, acked, ackId, isFlush⟩ := Downstairs.doWork_ack lock₁
    (drainable.getReadyJob_least owned found least) r₂.injectError r₂.readReply r₂.writeReply
  have lock₂ := (Downstairs.workLock_congr (Downstairs.doWork_activeUpstairs _
    spawned.upstairsConnection d r₂.injectError r₂.readReply r₂.writeReply).1 _).trans lock₁
  simp only [workRun, workStep, setSpawned_spawned, moveWorker, inProgress, acked,
    Downstairs.completeWork_of_workLock lock₂, Option.some_bind, setSpawned_setSpawned,
    setSpawned_written, delivered, Bool.false_eq_true, ite_false]
  refine ⟨_, m, rfl, (owned d job found).1 ▸ ackId, ?_⟩
  simp only [Downstairs.setWork, (Downstairs.doWork_activeUpstairs _ _ _ _ _ _).1, isFlush,
    AList.insert_insert]

/--
From `scanning ids`, where `ids` are the queued ids in increasing order, the worker
visits every id, writes one ack per id in that order, and comes back to wait with
the queue empty.
-/
theorem workRun_scanning {readOnly : Bool} (conn : Connection) (spawned : Spawned) (ids : List Nat)
    (replies : List RegionReplies)
    (lock : ds.workLock spawned.upstairsConnection = .ok entry)
    (owned : entry.work.Owned spawned.upstairsConnection readOnly)
    (drainable : entry.work.Drainable) (sorted : ids.Sorted (· < ·))
    (listed : ∀ d, d ∈ ids ↔ (entry.work.active.lookup d).isSome)
    (enough : replies.length = 4 * ids.length + 1)
    (delivered : ∀ r ∈ replies, r.ackWriteFails = false) :
    ∃ ds' work' acks,
      (conn.setSpawned { spawned with worker := .scanning ids }).workRun ds replies =
        some ({ conn with written := conn.written ++ acks }.setSpawned
          { spawned with worker := .waiting }, ds') ∧
      acks.map Message.ackId = ids.map some ∧
      (∀ uuid, ds'.activeUpstairs.lookup uuid =
        (ds.setWork entry work').activeUpstairs.lookup uuid) ∧
      work'.jobs = 0 := by
  induction ids generalizing conn ds entry replies with
  | nil =>
      obtain ⟨found, mine⟩ := Downstairs.workLock_eq_ok.mp lock
      obtain ⟨r, rfl⟩ := List.length_eq_one.mp enough
      refine ⟨ds, entry.work, [], ?_, rfl, fun uuid => ?_, Work.jobs_eq_zero fun d => ?_⟩
      · simp only [workRun, workStep, setSpawned_spawned, moveWorker, Option.some_bind,
          setSpawned_setSpawned, List.append_nil]
      · rw [Downstairs.lookup_setWork]
        split_ifs with same
        · rw [same, mine, found, ← mine]
        · rfl
      · simpa using (listed d).not.mp (List.not_mem_nil d)
  | cons d rest inductionHypothesis =>
      rcases replies with _ | ⟨r₁, _ | ⟨r₂, _ | ⟨r₃, _ | ⟨r₄, replies⟩⟩⟩⟩
      all_goals simp only [List.length_cons, List.length_nil] at enough
      any_goals omega
      obtain ⟨job, found⟩ := Option.isSome_iff_exists.mp ((listed d).mp (List.mem_cons_self _ _))
      have least : ∀ e, (entry.work.active.lookup e).isSome → d ≤ e := fun e queued =>
        (List.mem_cons.mp ((listed e).mpr queued)).elim (fun same => same ▸ le_refl d)
          fun later => le_of_lt (List.rel_of_sorted_cons sorted e later)
      obtain ⟨ds₁, m, visited, acked, registry₁⟩ :=
        workRun_visit conn spawned rest lock owned drainable found least r₁ r₂ r₃ r₄
          (delivered r₃ (by simp)) replies
      have owned₁ := owned.inProgress d
      rw [drainable.inProgress_least owned found least] at owned₁
      have listed₁ : ∀ e, e ∈ rest ↔ (((entry.work.addWork d { job with state := .inProgress }).completeWork
          d job.work.isFlush).active.lookup e).isSome := by
        intro e
        rw [Work.lookup_addWork_completeWork]
        split_ifs with same
        · subst same
          simpa using fun later => lt_irrefl e (List.rel_of_sorted_cons sorted e later)
        · simpa [same] using listed e
      obtain ⟨ds', work', acks, ran, acksIds, registry, emptied⟩ :=
        inductionHypothesis { conn with written := conn.written ++ [m] } replies
          ((Downstairs.workLock_congr registry₁ _).trans (Downstairs.workLock_setWork lock _))
          (owned₁.completeWork d job.work.isFlush) (drainable.finish_least found least)
          sorted.of_cons listed₁ (by simp at enough ⊢; omega)
          fun r member => delivered r (by simp [member])
      refine ⟨ds', work', m :: acks, ?_, by simp [acked, acksIds], fun uuid => ?_, emptied⟩
      · rw [visited, ran]
        simp
      · rw [registry, Downstairs.lookup_setWork, Downstairs.lookup_setWork,
          registry₁, Downstairs.lookup_setWork]
        split_ifs <;> rfl

/--
A notified worker whose connection is active and whose queue is drainable lists
every queued id, visits them all in increasing order and comes back to wait: one
ack per job, written in id order, and an empty queue.
-/
theorem workRun_lap {readOnly : Bool} (found : conn.spawned = some spawned)
    (waiting : spawned.worker = .waiting) (notified : 0 < spawned.jobTokens)
    (lock : ds.workLock spawned.upstairsConnection = .ok entry)
    (owned : entry.work.Owned spawned.upstairsConnection readOnly)
    (drainable : entry.work.Drainable) (replies : List RegionReplies)
    (enough : replies.length = 4 * entry.work.jobs + 4)
    (delivered : ∀ r ∈ replies, r.ackWriteFails = false) :
    ∃ ds' work' acks, conn.workRun ds replies =
        some ({ conn with written := conn.written ++ acks }.setSpawned
          { spawned with jobTokens := spawned.jobTokens - 1, worker := .waiting }, ds') ∧
      acks.map Message.ackId = (entry.work.active.keys.insertionSort (· ≤ ·)).map some ∧
      (∀ uuid, ds'.activeUpstairs.lookup uuid =
        (ds.setWork entry work').activeUpstairs.lookup uuid) ∧
      work'.jobs = 0 := by
  rcases replies with _ | ⟨r₁, _ | ⟨r₂, _ | ⟨r₃, replies⟩⟩⟩
  all_goals simp only [List.length_cons, List.length_nil] at enough
  any_goals omega
  have ids := List.sorted_insertionSort (· ≤ ·) entry.work.active.keys
  have listing : ds.newWork spawned.upstairsConnection =
      (ds, .ok (entry.work.active.keys.insertionSort (· ≤ ·))) := by
    simp [Downstairs.newWork, lock, drainable.newWork_eq owned]
  have scanned := workRun_scanning conn { spawned with jobTokens := spawned.jobTokens - 1 } _
    replies lock owned drainable
    (ids.lt_of_le ((List.perm_insertionSort _ _).nodup_iff.mpr entry.work.active.keys_nodup))
    (fun d => (List.perm_insertionSort _ _).mem_iff.trans AList.lookup_isSome.symm)
    (by rw [List.length_insertionSort]; unfold Work.jobs at enough; omega)
    fun r member => delivered r (by simp [member])
  simpa only [workRun, workStep, found, waiting, notified, moveWorker, Downstairs.isActive_of_workLock lock,
    listing, ids.insertionSort_eq, Option.some_bind, setSpawned_spawned, setSpawned_setSpawned,
    if_true] using scanned

end Connection

/-- Storing back the value a list already holds leaves it unchanged. -/
theorem List.set_of_getElem? {α : Type} {l : List α} {i : Nat} {a : α} (found : l[i]? = some a) :
    l.set i a = l :=
  List.ext_getElem? fun j => by
    rw [List.getElem?_set]
    split_ifs with same bound
    · rw [← same, found]
    · exact absurd (List.getElem?_eq_some_iff.mp found).1 bound
    · rfl

/-- Steps of one connection's worker alone, taken in the whole system. -/
theorem System.run_work {s : System} {g : Nat} {conn : Connection}
    (found : s.connections[g]? = some conn) (replies : List RegionReplies) :
    s.run (replies.map (.step g .work)) =
      (conn.workRun s.ds replies).map fun ran => ⟨ran.2, s.connections.set g ran.1⟩ := by
  induction replies generalizing s conn with
  | nil =>
      simp [System.run, Connection.workRun, List.set_of_getElem? found]
  | cons replies rest inductionHypothesis =>
      simp only [List.map_cons, System.run, System.step, found, Connection.step,
        Connection.workRun]
      cases stepped : conn.workStep s.ds replies with
      | none => rfl
      | some effect =>
          have bound := (List.getElem?_eq_some_iff.mp found).1
          simp only [Option.map_some', Option.some_bind, (Connection.workStep_cases stepped).1,
            deliver]
          have moved : (System.mk effect.ds (s.connections.set g effect.connection)).connections[g]? =
              some effect.connection := List.getElem?_set_self bound
          rw [inductionHypothesis moved]
          simp [List.set_set]

/--
A connection that negotiates and sends a write, a flush depending on it, and a
write depending on both; its reader forwards each frame and its dispatcher queues
the three jobs, notifying the worker three times.
-/
def threeJobQueue : List Action :=
  [.accept [.hereIAm 1 1 1 1 false false, .promoteToActive 1 1 1, .regionInfoPlease,
      .lastFlush 0, .write 1 1 1000 [] [], .flush 1 1 1001 [1000] 1 1 none,
      .write 1 1 1002 [1000, 1001] []] false] ++
    List.replicate 7 (.step 0 .read RegionReplies.healthy) ++
    List.replicate 3 (.step 0 .dispatch RegionReplies.healthy)

end CrucibleDownstairs
