import CrucibleDownstairs.Steps

namespace CrucibleDownstairs

/-!
# What the region log can hold

`regionLog` records every call that changes the region.  The job calls,
`region_write` and `region_flush`, are made only by `do_work`, under the work lock
of the worker's connection and after checking that the job's owner is still
active; on a read-only region no write job is ever queued, because `add_work`
refuses it before taking the lock.  The repair frames of `proc_frame` call the
region with neither check (`staleRepairFrame`), and a read-write promotion
reopens every extent.

`Moves` says once how a step can change the downstairs: by calls of the registry
layer, or by one repair call.  Every task's step is shown to move the downstairs
so, and `RegionLogInv` is preserved by every move, so it holds in every reachable
state of the system of connections, whatever the interleaving.
-/

namespace RegionCall

/-- `region_write` and `region_flush`, the calls `do_work` makes for a job. -/
def isJob : RegionCall → Bool
  | .regionWrite .. => true
  | .regionFlush .. => true
  | _ => false

/-- The calls the repair frames of `proc_frame` make. -/
def isRepair : RegionCall → Bool
  | .regionFlushExtent .. => true
  | .closeExtent _ => true
  | .repairExtent .. => true
  | .reopenExtent _ => true
  | _ => false

/-- `region_write`, the call that writes the blocks of a job. -/
def isWrite : RegionCall → Bool
  | .regionWrite .. => true
  | _ => false

end RegionCall

/-- What the region log of every reachable downstairs holds. -/
structure RegionLogInv (ds : Downstairs) : Prop where
  /-- Every job call was made for a connection that was active at that moment. -/
  jobActive : ∀ m ∈ ds.regionLog, m.call.isJob = true → m.wasActive = true
  /-- A read-only region never receives a `region_write`. -/
  readOnlyUnwritten : ds.readOnly = true → ∀ m ∈ ds.regionLog, m.call.isWrite = false

/-- How one step can change the downstairs: calls of the registry layer, or one repair call. -/
inductive Moves (ds : Downstairs) : Downstairs → Prop where
  | calls (ops : List DsOp) : Moves ds (DsOp.run ops ds)
  | repair (c : UpstairsConnection) {call : RegionCall} (repairing : call.isRepair = true) :
      Moves ds (ds.logRegion c call)

namespace Moves

theorem refl (ds : Downstairs) : Moves ds ds := .calls []

theorem op (op : DsOp) (ds : Downstairs) : Moves ds (op.apply ds) := .calls [op]

end Moves

namespace Downstairs

variable {ds : Downstairs} {c : UpstairsConnection}

@[simp] theorem withWork_regionLog {operation : Work → Work × α} :
    (ds.withWork c operation).1.regionLog = ds.regionLog := by
  unfold withWork
  split <;> rfl

@[simp] theorem register_regionLog (tx : Nat) : (ds.register c tx).regionLog = ds.regionLog := rfl

@[simp] theorem clearActive_regionLog : (ds.clearActive c).1.regionLog = ds.regionLog := by
  unfold clearActive
  split <;> rfl

/-- A promotion logs nothing, or, on a read-write region, the reopening of every extent. -/
theorem promoteToActive_regionLog (ds : Downstairs) (c : UpstairsConnection) (tx : Nat)
    (reply : Except CrucibleError Unit) :
    (ds.promoteToActive c tx reply).1.regionLog = ds.regionLog ∨
      ds.readOnly = false ∧ ∃ wasActive, (ds.promoteToActive c tx reply).1.regionLog =
        ds.regionLog ++ [⟨c, wasActive, .reopenAllExtents⟩] := by
  unfold promoteToActive
  split
  · split <;> exact .inl rfl
  · next readWrite =>
      split
      · exact .inr ⟨by simpa using readWrite, _, rfl⟩
      · split
        · exact .inl rfl
        · exact .inr ⟨by simpa using readWrite, _, rfl⟩
      · exact .inl rfl

end Downstairs

namespace RegionLogInv

variable {ds ds' : Downstairs}

theorem new (readOnly encrypted returnErrors : Bool) (repairAddress : Nat) :
    RegionLogInv (Downstairs.new readOnly encrypted returnErrors repairAddress) :=
  ⟨fun _ member => absurd member (List.not_mem_nil _),
    fun _ _ member => absurd member (List.not_mem_nil _)⟩

/-- A call that logs nothing and keeps the flags keeps the invariant. -/
theorem of_regionLog_eq (log : RegionLogInv ds) (same : ds'.regionLog = ds.regionLog)
    (flag : ds'.readOnly = ds.readOnly) : RegionLogInv ds' :=
  ⟨same ▸ log.jobActive, flag ▸ same ▸ log.readOnlyUnwritten⟩

/-- Appending one call keeps the invariant if it is no job call of an inactive
connection and no write of a read-only region. -/
theorem append (log : RegionLogInv ds) {m : RegionMutation}
    (fenced : m.call.isJob = true → m.wasActive = true)
    (unwritten : ds.readOnly = true → m.call.isWrite = false) :
    RegionLogInv { ds with regionLog := ds.regionLog ++ [m] } := by
  refine ⟨fun m' member => ?_, fun readOnly m' member => ?_⟩ <;>
    rcases List.mem_append.mp member with old | added
  · exact log.jobActive m' old
  · exact (List.mem_singleton.mp added) ▸ fenced
  · exact log.readOnlyUnwritten readOnly m' old
  · exact (List.mem_singleton.mp added) ▸ unwritten readOnly

theorem logRegion (log : RegionLogInv ds) {c : UpstairsConnection} {call : RegionCall}
    (fenced : call.isJob = true → ds.isActive c = true)
    (unwritten : ds.readOnly = true → call.isWrite = false) :
    RegionLogInv (ds.logRegion c call) :=
  log.append fenced unwritten

/-- The region call of `do_work`, made under the lock of an active connection. -/
theorem guardedRegionCall (log : RegionLogInv ds) {c owner : UpstairsConnection}
    {injectError : Bool} {call : RegionCall} {reply : Except CrucibleError α}
    (active : ds.isActive c = true) (unwritten : ds.readOnly = true → call.isWrite = false) :
    RegionLogInv (ds.guardedRegionCall c owner injectError call reply).1 := by
  unfold Downstairs.guardedRegionCall
  split_ifs <;> first | exact log | exact log.logRegion (fun _ => active) unwritten

/--
`do_work` keeps the invariant: its job call is made under the work lock, and a
write job never sits in the queue of a read-only region.
-/
theorem doWork (log : RegionLogInv ds) (inv : RegistryInv ds) (c : UpstairsConnection)
    (jobId : Nat) (injectError : Bool) (readReply : Except CrucibleError (List ReadResponse))
    (writeReply : Except CrucibleError Unit) :
    RegionLogInv (ds.doWork c jobId injectError readReply writeReply).1 := by
  unfold Downstairs.doWork
  split
  · exact log
  · next entry lock =>
      have active := Downstairs.isActive_of_workLock lock
      obtain ⟨stored, mine⟩ := Downstairs.workLock_eq_ok.mp lock
      split
      · exact log
      · exact log
      · next job ready =>
          have noWrite := ((mine ▸ inv.owned _ _ stored) jobId job
            (Work.lookup_of_getReadyJob ready).1).2.2
          split
          · exact log
          all_goals
            refine log.guardedRegionCall active fun readOnly => ?_
            first
              | rfl
              | rename_i kind
                simp [kind, IOop.isWrite] at noWrite
                exact absurd readOnly (by simp [noWrite])

/-- Every call of the registry layer keeps the invariant. -/
theorem apply (log : RegionLogInv ds) (inv : RegistryInv ds) (op : DsOp) :
    RegionLogInv (op.apply ds) := by
  have flag := (DsOp.apply_flags op ds).1
  cases op with
  | promoteToActive c tx reopenReply =>
      rcases Downstairs.promoteToActive_regionLog ds c tx reopenReply with
        same | ⟨readWrite, wasActive, appended⟩
      · exact log.of_regionLog_eq same flag
      · refine ⟨fun m member => ?_, fun readOnly => ?_⟩
        · simp only [DsOp.apply, appended, List.mem_append, List.mem_singleton] at member
          rcases member with old | rfl
          · exact log.jobActive m old
          · exact fun reopen => by simp [RegionCall.isJob] at reopen
        · simp [DsOp.apply, readWrite] at flag readOnly
          simp [flag] at readOnly
  | clearActive c => exact log.of_regionLog_eq (by simp [DsOp.apply]) flag
  | addWork c dsId work =>
      refine log.of_regionLog_eq ?_ flag
      simp only [DsOp.apply, Downstairs.addWork]
      split_ifs <;> simp
  | inProgress c dsId =>
      exact log.of_regionLog_eq (by simp [DsOp.apply, Downstairs.inProgress]) flag
  | doWork c jobId injectError readReply writeReply =>
      exact log.doWork inv c jobId injectError readReply writeReply
  | completeWork c dsId m =>
      exact log.of_regionLog_eq (by simp [DsOp.apply, Downstairs.completeWork]) flag
  | setLastFlush c lastFlushNumber =>
      exact log.of_regionLog_eq (by simp [DsOp.apply, Downstairs.setLastFlush]) flag

/-- Every move of a step keeps the invariant. -/
theorem moves (log : RegionLogInv ds) (inv : RegistryInv ds) (moved : Moves ds ds') :
    RegionLogInv ds' := by
  cases moved with
  | calls ops =>
      induction ops generalizing ds with
      | nil => exact log
      | cons op rest inductionHypothesis =>
          exact inductionHypothesis (log.apply inv op) (inv.apply op)
  | repair c repairing =>
      have notJob : ∀ {call : RegionCall}, call.isRepair = true →
          call.isJob = false ∧ call.isWrite = false := by
        intro call
        cases call <;> simp [RegionCall.isRepair, RegionCall.isJob, RegionCall.isWrite]
      exact log.append (fun job => absurd job (by simp [(notJob repairing).1]))
        fun _ => (notJob repairing).2

end RegionLogInv

/-! ## How each task moves the downstairs -/

/-- A negotiation frame moves the downstairs only by a promotion or a `LastFlush`. -/
theorem negotiate_moves (ds : Downstairs) (tx negotiated : Nat)
    (upstairsConnection : Option UpstairsConnection) (replies : RegionReplies) (m : Message) :
    Moves ds (negotiate ds tx negotiated upstairsConnection replies m).ds := by
  cases m <;> dsimp only [negotiate] <;> (repeat' split) <;>
    first
      | exact .refl ds
      | exact .op (.promoteToActive _ _ _) ds
      | exact .op (.setLastFlush _ _) ds

/-- The end of the stream clears the connection's entry, if it is active. -/
theorem disconnect_moves (ds : Downstairs) (c : UpstairsConnection) :
    Moves ds (disconnect ds c).1 := by
  unfold disconnect
  split
  · exact .refl ds
  · split_ifs
    · exact .op (.clearActive c) ds
    · exact .refl ds

/-- `proc_frame` queues a job or makes one repair call. -/
theorem procFrame_moves (ds : Downstairs) (c : UpstairsConnection) (replies : RegionReplies)
    (m : Message) : Moves ds (procFrame ds c replies m).1 := by
  cases m <;> dsimp only [procFrame, submit] <;> (repeat' split) <;>
    first
      | exact .refl ds
      | exact .op (.addWork _ _ _) ds
      | exact .repair c rfl

namespace Connection

variable {conn : Connection} {tx : Nat} {ds : Downstairs} {replies : RegionReplies}
  {effect : Effect}

/-- Every step of every task moves the downstairs by calls of the registry layer or one
repair call. -/
theorem step_moves {task : Task} (stepped : conn.step tx ds replies task = some effect) :
    Moves ds effect.ds := by
  cases task <;>
    simp only [step, readStep, evictedStep, timeoutStep, taskEndedStep, dispatchStep, workStep,
      moveWorker] at stepped <;>
    (repeat' split at stepped) <;>
    first
      | (cases stepped; done)
      | (cases stepped; exact .refl ds)
      | (cases stepped; exact negotiate_moves ..)
      | (cases stepped; exact disconnect_moves ..)
      | (cases stepped; exact procFrame_moves ..)
      | (cases stepped; exact .op (.inProgress _ _) ds)
      | (cases stepped; exact .op (.doWork _ _ _ _ _) ds)
      | (cases stepped; exact .op (.completeWork _ _ _) ds)

end Connection

/-- Every reachable state of the system keeps the region log invariant. -/
theorem Reachable.regionLogInv {s : System} (reach : Reachable s) : RegionLogInv s.ds := by
  induction reach with
  | init readOnly encrypted returnErrors repairAddress =>
      exact RegionLogInv.new readOnly encrypted returnErrors repairAddress
  | step action reach stepped log =>
      cases action with
      | accept inbound hungUp =>
          cases stepped
          exact log
      | step g task replies =>
          obtain ⟨conn, effect, -, taken, rfl⟩ := System.step_eq_some stepped
          exact log.moves reach.registryInv (Connection.step_moves taken)

/--
Job IO is fenced, and a read-only region never receives a job's write: in every
reachable state, whatever the interleaving of the connections' tasks, every
`region_write` and `region_flush` in the region log was made for a connection that
was active at that moment, and a read-only region's log holds no `region_write`.
-/
theorem regionLog_jobCalls {s : System} (reach : Reachable s) :
    (∀ m ∈ s.ds.regionLog, m.call.isJob = true → m.wasActive = true) ∧
    (s.ds.readOnly = true → ∀ m ∈ s.ds.regionLog, m.call.isWrite = false) :=
  ⟨reach.regionLogInv.jobActive, reach.regionLogInv.readOnlyUnwritten⟩

/--
A read-only connection that negotiates and sends a flush and a write: `add_work`
refuses the write, which ends the dispatcher, and the worker executes the flush.
-/
def readOnlyFlush : List Action :=
  [.accept [.hereIAm 1 1 1 1 true false, .promoteToActive 1 1 1, .regionInfoPlease,
      .lastFlush 0, .flush 1 1 1000 [] 1 1 none, .write 1 1 1001 [] []] false] ++
    List.replicate 6 (.step 0 .read RegionReplies.healthy) ++
    List.replicate 2 (.step 0 .dispatch RegionReplies.healthy) ++
    List.replicate 7 (.step 0 .work RegionReplies.healthy)

theorem readOnlyFlush_jobCalls :
    ∃ s, (System.init true false false 0).run readOnlyFlush = some s ∧
      s.ds.regionLog.map (·.call) = [.regionFlush 1 1 none 1000] ∧
      (∀ m ∈ s.ds.regionLog, m.call.isJob = true → m.wasActive = true) ∧
      (s.ds.readOnly = true → ∀ m ∈ s.ds.regionLog, m.call.isWrite = false) :=
  ⟨_, rfl, rfl, regionLog_jobCalls ((Reachable.init true false false 0).run readOnlyFlush rfl)⟩

end CrucibleDownstairs
