import CrucibleDownstairs.QueueSteps
import CrucibleDownstairs.WorkerPass

namespace CrucibleDownstairs

/-!
# Acks go out before a job counts as done

`do_work_task` writes a job's ack on the frame writer before it calls
`complete_work`, and `complete_work` is what takes the job out of the queue and
records it as done: in `completed`, or, for a flush, as the new `last_flush`.
The `LastFlush` step of negotiation sets `last_flush` and answers `LastFlushAck`
in the same turn.

So in every reachable state, whatever the interleaving of the tasks, every id a
queue counts as done has been acknowledged to the upstairs, on a connection whose
tasks serve the queue's connection: each id in `completed` by an ack that is not
a `FlushAck`, and `last_flush`, unless still 0, by a `FlushAck` or by the
`LastFlushAck` of negotiation.  A job whose dependencies the queue sees as
satisfied depends only on jobs whose completion the upstairs was told of.
-/

/-- Job `d` was acknowledged on a connection whose tasks serve `c`, by a `FlushAck` exactly when `flush`. -/
def Acked (connections : List Connection) (c : UpstairsConnection) (d : Nat) (flush : Bool) :
    Prop :=
  ∃ conn ∈ connections, conn.spawned.map (·.upstairsConnection) = some c ∧
    ∃ m ∈ conn.written, m.ackId = some d ∧ m.isFlushAck = flush

/--
What the queue `w` of connection `c` counts as done was acknowledged: every id in
`completed`, and `last_flush` unless it is still 0.
-/
def DoneAcked (connections : List Connection) (c : UpstairsConnection) (w : Work) : Prop :=
  (∀ d ∈ w.completed, Acked connections c d false) ∧
  (w.lastFlush = 0 ∨ Acked connections c w.lastFlush true ∨
    ∃ conn ∈ connections, conn.spawned.map (·.upstairsConnection) = some c ∧
      .lastFlushAck w.lastFlush ∈ conn.written)

/-- The job and ack a worker holds after `do_work`, and whether it has written the ack. -/
def Worker.ack : Worker → Option (Nat × Message × Bool)
  | .acking jobId m _ => some (jobId, m, false)
  | .completing jobId m _ => some (jobId, m, true)
  | _ => none

namespace Connection

/-- The job and ack the connection's worker holds. -/
def workerAck (conn : Connection) : Option (Nat × Message × Bool) :=
  conn.spawned.bind (·.worker.ack)

/-- The ack a worker holds is for its job, and once written it is in the stream. -/
def AckHeld (conn : Connection) : Prop :=
  ∀ jobId m written, conn.workerAck = some (jobId, m, written) →
    m.ackId = some jobId ∧ (written = true → m ∈ conn.written)

end Connection

/-! ## Connections that only grow -/

/-- Every connection of `connections` is in `connections'`, with more frames, serving the same connection. -/
def Grows (connections connections' : List Connection) : Prop :=
  ∀ conn ∈ connections, ∃ conn' ∈ connections', conn.written ⊆ conn'.written ∧
    ∀ c, conn.spawned.map (·.upstairsConnection) = some c →
      conn'.spawned.map (·.upstairsConnection) = some c

section

variable {connections connections' : List Connection} {c : UpstairsConnection}

theorem Acked.mono (grows : Grows connections connections') {d : Nat} {flush : Bool}
    (acked : Acked connections c d flush) : Acked connections' c d flush := by
  obtain ⟨conn, member, serves, m, written, ack⟩ := acked
  obtain ⟨conn', member', grown, kept⟩ := grows conn member
  exact ⟨conn', member', kept c serves, m, grown written, ack⟩

/-- A queue with the same completed list and flush horizon counts the same jobs as done. -/
theorem DoneAcked.transfer (grows : Grows connections connections') {w w' : Work}
    (done : DoneAcked connections c w) (completed : w'.completed = w.completed)
    (lastFlush : w'.lastFlush = w.lastFlush) : DoneAcked connections' c w' := by
  obtain ⟨listed, horizon⟩ := done
  refine ⟨fun d member => (listed d (completed ▸ member)).mono grows, ?_⟩
  rw [lastFlush]
  refine horizon.imp_right (Or.imp (·.mono grows) ?_)
  rintro ⟨conn, member, serves, acked⟩
  obtain ⟨conn', member', grown, kept⟩ := grows conn member
  exact ⟨conn', member', kept c serves, grown acked⟩

/-- A fresh queue counts nothing as done. -/
theorem DoneAcked.new : DoneAcked connections c Work.new :=
  ⟨by simp, .inl rfl⟩

/-- Completing an acknowledged job keeps what the queue counts as done acknowledged. -/
theorem DoneAcked.completeWork {w : Work} (done : DoneAcked connections c w) {d : Nat}
    {flush : Bool} (acked : Acked connections c d flush) :
    DoneAcked connections c (w.completeWork d flush) := by
  unfold Work.completeWork
  split
  · exact done
  · cases flush
    · refine ⟨fun d' member => ?_, done.2⟩
      rcases List.mem_append.mp member with old | added
      · exact done.1 d' old
      · exact (List.mem_singleton.mp added) ▸ acked
    · exact ⟨by simp, .inr (.inl acked)⟩

/-- The `LastFlush` turn keeps it, having answered `LastFlushAck`. -/
theorem DoneAcked.setLastFlush {w : Work} (done : DoneAcked connections c w) {n : Nat}
    (answered : ∃ conn ∈ connections, conn.spawned.map (·.upstairsConnection) = some c ∧
      .lastFlushAck n ∈ conn.written) :
    DoneAcked connections c { w with lastFlush := n } :=
  ⟨done.1, .inr (.inr answered)⟩

end

/-! ## Calls that keep what is done -/

/-- Two queues count the same jobs as done: the same completed list and flush horizon. -/
def Work.SameDone (w w' : Work) : Prop :=
  w'.completed = w.completed ∧ w'.lastFlush = w.lastFlush

namespace Downstairs

variable {ds : Downstairs} {c : UpstairsConnection}

/-- The ack `do_work` builds carries the id of the job it ran. -/
theorem doWork_ackId {jobId : Nat} {injectError : Bool}
    {readReply : Except CrucibleError (List ReadResponse)} {writeReply : Except CrucibleError Unit}
    {m : Message} (done : (ds.doWork c jobId injectError readReply writeReply).2 = .ok (some m)) :
    m.ackId = some jobId := by
  unfold doWork at done
  split at done
  · cases done
  · split at done
    · cases done
    · cases done
    · next job ready =>
        have sameId : job.dsId = jobId := by
          unfold Work.getReadyJob at ready
          split at ready
          · cases ready
          · split_ifs at ready with _ mismatch
            cases ready
            exact (not_not.mp mismatch).symm
        split at done <;> cases done <;> simp [Message.ackId, sameId]

end Downstairs

/-! ## One step of a connection -/

namespace Connection

variable {conn : Connection} {tx : Nat} {ds : Downstairs} {replies : RegionReplies}
  {effect : Effect}

theorem workerAck_eq (conn : Connection) :
    conn.workerAck = (conn.spawned.map (·.worker)).bind Worker.ack := by
  unfold workerAck
  cases conn.spawned <;> rfl

/-- A step that leaves the worker alone, or starts it, keeps its ack held. -/
theorem AckHeld.of_worker {conn' : Connection} (held : conn.AckHeld)
    (grown : conn.written ⊆ conn'.written)
    (worker : conn'.spawned.map (·.worker) = conn.spawned.map (·.worker) ∨
      conn'.spawned.map (·.worker) = some .waiting) : conn'.AckHeld := by
  intro jobId m written holding
  rw [workerAck_eq] at holding
  rcases worker with same | waiting
  · rw [same, ← workerAck_eq] at holding
    exact (held jobId m written holding).imp_right fun member sent => grown (member sent)
  · rw [waiting] at holding
    cases holding

/-- The worker's step keeps its ack held: `do_work` builds it for the job, and the next step writes it. -/
theorem workStep_ackHeld (held : conn.AckHeld) (stepped : conn.workStep ds replies = some effect) :
    effect.connection.AckHeld := by
  unfold workStep moveWorker at stepped
  split at stepped
  · cases stepped
  · next spawned found =>
      split at stepped
      all_goals
        repeat' split at stepped
        all_goals cases stepped
      all_goals first
        | intro jobId m written holding
          simp only [workerAck, setSpawned_spawned, Option.bind_some] at holding
          (repeat' split at holding) <;> first
            | (simp [Worker.ack] at holding; done)
            | cases holding
              exact ⟨Downstairs.doWork_ackId (by assumption), nofun⟩
        | intro jobId m written holding
          simp only [workerAck, setSpawned_spawned, Option.bind_some, Worker.ack,
            Option.some.injEq, Prod.mk.injEq] at holding
          obtain ⟨rfl, rfl, rfl⟩ := holding
          refine ⟨(held _ _ false (by simp [workerAck, found, Worker.ack, *])).1, fun _ => ?_⟩
          simp

/-- What a step does to what the queues count as done. -/
theorem step_done {task : Task} (stepped : conn.step tx ds replies task = some effect) :
    ds.Evolves Work.SameDone effect.ds ∨
    (∃ spawned jobId m rest, conn.spawned = some spawned ∧
      spawned.worker = .completing jobId m rest ∧ effect.connection.written = conn.written ∧
      effect.connection.spawned.map (·.upstairsConnection) = some spawned.upstairsConnection ∧
      effect.ds = (ds.completeWork spawned.upstairsConnection jobId m).1) ∨
    ∃ c n, effect.ds = (ds.setLastFlush c n).1 ∧ .lastFlushAck n ∈ effect.connection.written ∧
      effect.connection.spawned.map (·.upstairsConnection) = some c := by
  have reflexive : ∀ w : Work, w.SameDone w := fun _ => ⟨rfl, rfl⟩
  by_cases work : task = .work
  · subst work
    exact (workStep_evolves reflexive (fun w _ => ⟨w.inProgress_completed _, w.inProgress_lastFlush _⟩)
      stepped).imp_right .inl
  · exact (step_evolves reflexive (fun _ _ _ _ => ⟨rfl, rfl⟩) work stepped).imp_right .inr

end Connection

/-! ## The invariant -/

/-- What every reachable state keeps about acks and completed jobs. -/
structure AckOrderInv (s : System) : Prop where
  /-- Every worker's ack is for its job, and in the stream once written. -/
  held : ∀ conn ∈ s.connections, conn.AckHeld
  /-- What every queue counts as done was acknowledged on a connection serving it. -/
  done : ∀ uuid entry, s.ds.activeUpstairs.lookup uuid = some entry →
    DoneAcked s.connections entry.upstairsConnection entry.work

/-- The connection a signal reaches keeps its frames, its tasks and its held ack. -/
theorem Connection.AckHeld.signal {conn : Connection} (held : conn.AckHeld) (c : UpstairsConnection) :
    (conn.signal c).AckHeld := by
  simpa [Connection.AckHeld, Connection.workerAck] using held

/-- A step writes more on the stepping connection and keeps the connection its tasks serve. -/
theorem Connection.step_extends {readOnly encrypted : Bool} {conn : Connection}
    (connInv : ConnectionInv readOnly encrypted conn) {tx : Nat} {ds : Downstairs}
    {replies : RegionReplies} {task : Task} {effect : Effect}
    (taken : conn.step tx ds replies task = some effect) :
    conn.written <+: effect.connection.written ∧
      ∀ c, conn.spawned.map (·.upstairsConnection) = some c →
        effect.connection.spawned.map (·.upstairsConnection) = some c := by
  rcases Connection.step_cases taken with ⟨-, -, follows | ⟨nonempty, _, unset⟩⟩ |
    ⟨negotiated, recorded, m, rest, negotiating, -, rfl⟩
  · exact ⟨follows.written, fun c serves => follows.handedOff.trans serves⟩
  · exact (connInv.not_evictedUnset nonempty unset).elim
  · refine ⟨by simp [Connection.negotiateStep], fun c serves => ?_⟩
    simp [connInv.quiet _ _ negotiating] at serves

/-- After a step every connection is still there, with more frames, serving the same connection. -/
theorem Grows.step {s : System} (system : SystemInv s) {g : Nat} {conn : Connection}
    {task : Task} {replies : RegionReplies} {effect : Effect} (found : s.connections[g]? = some conn)
    (taken : conn.step g s.ds replies task = some effect) :
    Grows s.connections (deliver (s.connections.set g effect.connection) effect.signal) := by
  have grownOwn := Connection.step_extends (system.connections g conn found) taken
  intro old oldMember
  obtain ⟨h, oldStored⟩ := List.mem_iff_getElem?.mp oldMember
  obtain ⟨conn', stored, atG, elsewhere⟩ := deliver_frames g effect.connection effect.signal oldStored
  refine ⟨conn', List.mem_iff_getElem?.mpr ⟨h, stored⟩, ?_⟩
  by_cases same : h = g
  · subst same
    rw [found] at oldStored
    cases oldStored
    rw [(atG rfl).1, (atG rfl).2]
    exact ⟨grownOwn.1.subset, grownOwn.2⟩
  · rw [(elsewhere same).1, (elsewhere same).2]
    exact ⟨List.Subset.refl _, fun _ => id⟩

namespace AckOrderInv

variable {s s' : System}

theorem init (readOnly encrypted returnErrors : Bool) (repairAddress : Nat) :
    AckOrderInv (System.init readOnly encrypted returnErrors repairAddress) where
  held := fun _ member => by simp [System.init] at member
  done := fun _ _ found => by simp [System.init, Downstairs.new] at found

theorem accept (inv : AckOrderInv s) (inbound : List Message) (hungUp : Bool) :
    AckOrderInv ⟨s.ds, s.connections ++ [Connection.accepted inbound hungUp]⟩ := by
  have grows : Grows s.connections (s.connections ++ [Connection.accepted inbound hungUp]) :=
    fun conn member => ⟨conn, List.mem_append_left _ member, List.Subset.refl _, fun _ => id⟩
  refine ⟨fun conn member => ?_, fun uuid entry found => ?_⟩
  · rcases List.mem_append.mp member with old | added
    · exact inv.held conn old
    · rw [List.mem_singleton.mp added]
      intro jobId m written holding
      simp [Connection.workerAck, Connection.accepted] at holding
  · exact (inv.done uuid entry found).transfer grows rfl rfl

/-- Every step of a connection's tasks keeps the invariant. -/
theorem step (inv : AckOrderInv s) (system : SystemInv s) {g : Nat} {task : Task}
    {replies : RegionReplies} (stepped : s.step (.step g task replies) = some s') :
    AckOrderInv s' := by
  obtain ⟨conn, effect, found, taken, rfl⟩ := System.step_eq_some stepped
  have connInv := system.connections g conn found
  have member : conn ∈ s.connections := List.mem_iff_getElem?.mpr ⟨g, found⟩
  have grownOwn := Connection.step_extends connInv taken
  have grows := Grows.step system found taken
  have delivered : ∀ h conn', (deliver (s.connections.set g effect.connection)
      effect.signal)[h]? = some conn' → ∃ base, (h = g ∧ base = effect.connection ∨
        h ≠ g ∧ s.connections[h]? = some base) ∧
        conn'.written = base.written ∧ conn'.spawned = base.spawned ∧
        (base.AckHeld → conn'.AckHeld) := by
    intro h conn' stored
    obtain ⟨base, origin, reached⟩ := getElem?_deliver stored
    refine ⟨base, origin, ?_⟩
    rcases reached with rfl | ⟨c, -, rfl⟩
    · exact ⟨rfl, rfl, id⟩
    · exact ⟨by simp, by simp, (·.signal c)⟩
  -- the stepping connection's worker keeps its ack held
  have heldOwn : effect.connection.AckHeld := by
    by_cases work : task = .work
    · subst work
      exact Connection.workStep_ackHeld (inv.held conn member) taken
    · exact (inv.held conn member).of_worker grownOwn.1.subset
        ((Connection.step_worker work taken).imp_right And.right)
  -- the stepping connection as it stands in the new list
  obtain ⟨own, ownStored⟩ : ∃ own, (deliver (s.connections.set g effect.connection)
      effect.signal)[g]? = some own := by
    have bound : g < (deliver (s.connections.set g effect.connection) effect.signal).length := by
      have : g < s.connections.length := (List.getElem?_eq_some_iff.mp found).1
      cases effect.signal <;> simpa [deliver] using this
    exact ⟨_, List.getElem?_eq_getElem bound⟩
  obtain ⟨ownBase, ownOrigin, ownWritten, ownSpawned, -⟩ := delivered g own ownStored
  have ownBaseEq : ownBase = effect.connection := by
    rcases ownOrigin with ⟨-, rfl⟩ | ⟨different, -⟩
    · rfl
    · exact absurd rfl different
  subst ownBaseEq
  have ownMember := List.mem_iff_getElem?.mpr ⟨g, ownStored⟩
  refine ⟨fun conn' member' => ?_, fun uuid entry' found' => ?_⟩
  · obtain ⟨h, stored⟩ := List.mem_iff_getElem?.mp member'
    obtain ⟨base, origin, -, -, keep⟩ := delivered h conn' stored
    rcases origin with ⟨-, rfl⟩ | ⟨-, baseStored⟩
    · exact keep heldOwn
    · exact keep (inv.held base (List.mem_iff_getElem?.mpr ⟨h, baseStored⟩))
  · rcases Connection.step_done taken with keeps | ⟨spawned, jobId, m, rest, stored, completing,
      sameWritten, serves, completed⟩ | ⟨c, n, set, answered, servesNew⟩
    · rcases keeps uuid entry' found' with fresh | ⟨entry, old, sameConnection,
        sameCompleted, sameLastFlush⟩
      · exact fresh ▸ .new
      · rw [sameConnection]
        exact (inv.done uuid entry old).transfer grows sameCompleted sameLastFlush
    · rw [completed] at found'
      rcases Downstairs.withWork_lookup found' with old | ⟨entry, old, mine, rfl⟩
      · exact (inv.done uuid entry' old).transfer grows rfl rfl
      · have holding : conn.workerAck = some (jobId, m, true) := by
          simp [Connection.workerAck, stored, completing, Worker.ack]
        obtain ⟨ackId, written⟩ := inv.held conn member jobId m true holding
        have acked : Acked (deliver (s.connections.set g effect.connection) effect.signal)
            entry.upstairsConnection jobId m.isFlushAck :=
          ⟨own, ownMember, by rw [ownSpawned, serves, mine],
            m, by rw [ownWritten, sameWritten]; exact written rfl, ackId, rfl⟩
        exact ((inv.done uuid entry old).transfer grows rfl rfl).completeWork acked
    · rw [set] at found'
      rcases Downstairs.withWork_lookup found' with old | ⟨entry, old, mine, rfl⟩
      · exact (inv.done uuid entry' old).transfer grows rfl rfl
      · refine ((inv.done uuid entry old).transfer grows rfl rfl).setLastFlush
          ⟨own, ownMember, ?_, ?_⟩
        · rw [ownSpawned, servesNew, mine]
        · rw [ownWritten]
          exact answered

end AckOrderInv

/-- Every reachable state keeps the ack-order invariant. -/
theorem Reachable.ackOrderInv {s : System} (reach : Reachable s) : AckOrderInv s := by
  induction reach with
  | init readOnly encrypted returnErrors repairAddress =>
      exact AckOrderInv.init readOnly encrypted returnErrors repairAddress
  | step action reached stepped inv =>
      cases action with
      | accept inbound hungUp =>
          cases stepped
          exact inv.accept inbound hungUp
      | step g task replies => exact inv.step reached.systemInv stepped

/--
The queue counts a job as done only after its ack went out.  In every reachable
state, whatever the interleaving of the tasks, for every registered entry: each id
in `completed` was acknowledged, by an ack that is not a `FlushAck`, on a
connection whose tasks serve the entry's connection; and `last_flush` is 0, or was
acknowledged there by a `FlushAck`, or is the value a `LastFlushAck` answered.
-/
theorem completed_jobs_acked_first {s : System} (reach : Reachable s) :
    ∀ uuid entry, s.ds.activeUpstairs.lookup uuid = some entry →
      (∀ d ∈ entry.work.completed, Acked s.connections entry.upstairsConnection d false) ∧
      (entry.work.lastFlush = 0 ∨ Acked s.connections entry.upstairsConnection entry.work.lastFlush true ∨
        ∃ conn ∈ s.connections, conn.spawned.map (·.upstairsConnection) = some entry.upstairsConnection ∧
          .lastFlushAck entry.work.lastFlush ∈ conn.written) :=
  reach.ackOrderInv.done

/-- The run `threeJobQueue` followed by one lap of its worker. -/
def threeJobLap : List Action :=
  threeJobQueue ++ List.replicate 16 (.step 0 .work RegionReplies.healthy)

theorem completed_jobs_acked_first_threeJobLap :
    ((System.replay threeJobLap).ds.activeUpstairs.entries.map fun entry =>
        (entry.2.work.completed, entry.2.work.lastFlush)) = [([1002], 1001)] ∧
    ∀ uuid entry, (System.replay threeJobLap).ds.activeUpstairs.lookup uuid = some entry →
      (∀ d ∈ entry.work.completed,
        Acked (System.replay threeJobLap).connections entry.upstairsConnection d false) ∧
      (entry.work.lastFlush = 0 ∨
        Acked (System.replay threeJobLap).connections entry.upstairsConnection
          entry.work.lastFlush true ∨
        ∃ conn ∈ (System.replay threeJobLap).connections,
          conn.spawned.map (·.upstairsConnection) = some entry.upstairsConnection ∧
          .lastFlushAck entry.work.lastFlush ∈ conn.written) :=
  ⟨by decide, completed_jobs_acked_first (Reachable.replay threeJobLap)⟩

end CrucibleDownstairs
