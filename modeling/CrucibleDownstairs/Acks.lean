import CrucibleDownstairs.Handshake

namespace CrucibleDownstairs

/-!
# Where the acks go

Each connection's frame writer is shared by `proc`, `resp_loop`, the dispatcher and
the worker.  Only the worker writes acks, and it builds each one in `do_work` from
the job's owner, under the work lock of the connection it was handed.  Every job
of a locked queue is owned by the entry's connection, so every ack a connection
writes is addressed to the upstairs id and session id negotiated on that same
connection, and no ack is written before the connection's tasks are spawned.

The stream is read as one list, `Connection.outbox`: the frames written followed
by the ack the worker holds between `do_work` and the write.  Every step only
appends to it, and the session it is addressed to is set once, when `resp_loop`
spawns the tasks.
-/

namespace Message

/-- The upstairs id and session id an ack is addressed to; `none` for every other frame. -/
def ackSession : Message → Option (Uuid × Uuid)
  | .readResponse upstairsId sessionId _ _ => some (upstairsId, sessionId)
  | .writeAck upstairsId sessionId _ _ => some (upstairsId, sessionId)
  | .writeUnwrittenAck upstairsId sessionId _ _ => some (upstairsId, sessionId)
  | .flushAck upstairsId sessionId _ _ => some (upstairsId, sessionId)
  | _ => none

end Message

/-- The ack the worker holds between `do_work` and writing it. -/
def Worker.pendingAck : Worker → Option Message
  | .acking _ m _ => some m
  | _ => none

namespace Connection

/-- The frames written, followed by the ack the worker is about to write. -/
def outbox (conn : Connection) : List Message :=
  conn.written ++ (conn.spawned.bind (·.worker.pendingAck)).toList

/-- The upstairs id and session id of the connection the spawned tasks were handed. -/
def session (conn : Connection) : Option (Uuid × Uuid) :=
  conn.spawned.map fun spawned =>
    (spawned.upstairsConnection.upstairsId, spawned.upstairsConnection.sessionId)

/-- Every ack in the outbox is addressed to the connection's own session. -/
def AcksAddressed (conn : Connection) : Prop :=
  ∀ m ∈ conn.outbox, m.ackSession = none ∨ m.ackSession = conn.session

end Connection

/-! ## Frames that are not acks -/

/-- The replies `proc` and `proc_frame` write themselves: negotiation answers and repair replies. -/
def Message.IsProcReply : Message → Prop
  | .imok | .yesItsMe .. | .youAreNowActive .. | .uuidMismatch _ | .readOnlyMismatch _
  | .encryptedMismatch _ | .regionInfo _ | .lastFlushAck _ | .extentVersions ..
  | .repairAckId _ | .extentError .. => True
  | _ => False

/-- None of `proc`'s replies is an ack. -/
theorem Message.IsProcReply.ackSession {m : Message} (reply : m.IsProcReply) :
    m.ackSession = none := by
  cases m <;> first | rfl | cases reply

/-- Every frame a negotiation turn writes is one of `proc`'s replies. -/
theorem negotiate_written_reply (ds : Downstairs) (tx negotiated : Nat)
    (upstairsConnection : Option UpstairsConnection) (replies : RegionReplies) (m : Message) :
    ∀ m' ∈ (negotiate ds tx negotiated upstairsConnection replies m).written, m'.IsProcReply := by
  unfold negotiate
  split <;> (try dsimp only) <;> (repeat' split) <;> intro m' member <;>
    simp only [List.mem_singleton, List.not_mem_nil] at member <;> (subst member; trivial)

/-- Every frame `proc_frame` writes is a `UuidMismatch` or a repair reply. -/
theorem procFrame_written_reply (ds : Downstairs) (c : UpstairsConnection)
    (replies : RegionReplies) (m : Message) :
    ∀ m' ∈ (procFrame ds c replies m).2.1, m'.IsProcReply := by
  unfold procFrame
  split <;> (try dsimp only [submit, repairReply]) <;> (repeat' split) <;> intro m' member <;>
    simp only [List.mem_singleton, List.not_mem_nil] at member <;> (subst member; trivial)

/-- An ack `do_work` builds is addressed to the connection whose lock it took. -/
theorem Downstairs.doWork_ackSession {ds : Downstairs} (inv : RegistryInv ds)
    {c : UpstairsConnection} {jobId : Nat} {injectError : Bool}
    {readReply : Except CrucibleError (List ReadResponse)} {writeReply : Except CrucibleError Unit}
    {m : Message} (done : (ds.doWork c jobId injectError readReply writeReply).2 = .ok (some m)) :
    m.ackSession = some (c.upstairsId, c.sessionId) := by
  unfold doWork at done
  split at done
  · cases done
  · next entry lock =>
      obtain ⟨stored, mine⟩ := workLock_eq_ok.mp lock
      split at done
      · cases done
      · cases done
      · next job ready =>
          have owner := ((inv.owned _ _ stored) jobId job
            (Work.lookup_of_getReadyJob ready).1).2.1
          rw [mine] at owner
          split at done <;> cases done <;> simp [Message.ackSession, owner]

namespace Connection

variable {conn : Connection} {tx : Nat} {ds : Downstairs} {replies : RegionReplies}
  {effect : Effect} {m : Message}

@[simp] theorem outbox_setSpawned (spawned : Spawned) :
    (conn.setSpawned spawned).outbox = conn.written ++ spawned.worker.pendingAck.toList := rfl

/-- Moving the negotiator on adds nothing to the outbox: spawning starts a waiting worker. -/
theorem mem_outbox_moveTo {next : Supervisor} (member : m ∈ (conn.moveTo next).outbox) :
    m ∈ conn.outbox := by
  cases next <;> simp_all [moveTo, outbox, Spawned.start, Worker.pendingAck]

/-- What the negotiator's steps add: no ack. -/
theorem readStep_outbox
    (quiet : ∀ negotiated c, conn.supervisor = .negotiating negotiated c → conn.spawned = none)
    (stepped : conn.readStep tx ds replies = some effect) (member : m ∈ effect.connection.outbox) :
    m ∈ conn.outbox ∨ m.ackSession = none := by
  unfold readStep at stepped
  split at stepped
  · next negotiated c m' rest supervisor _ =>
      cases stepped
      have unspawned := quiet _ _ supervisor
      have read := mem_outbox_moveTo member
      simp only [outbox, unspawned, Option.none_bind, Option.toList_none, List.append_nil,
        List.mem_append] at read
      exact read.imp (by simp [outbox, unspawned])
        fun written => (negotiate_written_reply ds tx negotiated c replies m' m written).ackSession
  all_goals
    repeat' split at stepped
    all_goals
      cases stepped <;> first
        | exact .inl (mem_outbox_moveTo member)
        | exact .inl (by simpa [outbox] using mem_outbox_moveTo member)
        | simp only [outbox, List.mem_append, List.mem_singleton] at member
          rcases member with (old | rfl) | pending
          · exact .inl (List.mem_append_left _ old)
          · exact .inr rfl
          · exact .inl (List.mem_append_right _ pending)
        | exact .inl (by simpa [outbox, *] using member)

@[simp] theorem Spawned.afterFrame_worker (spawned : Spawned) (result : Except ConnectionError Bool) :
    (spawned.afterFrame result).worker = spawned.worker := by
  unfold Spawned.afterFrame
  repeat' split
  all_goals rfl

/-- The dispatcher adds what `proc_frame` writes, never an ack. -/
theorem dispatchStep_outbox (stepped : conn.dispatchStep ds replies = some effect)
    (member : m ∈ effect.connection.outbox) : m ∈ conn.outbox ∨ m.ackSession = none := by
  unfold dispatchStep at stepped
  split at stepped
  · cases stepped
  · next spawned found =>
      have pending : m ∈ spawned.worker.pendingAck.toList → m ∈ conn.outbox := fun held =>
        List.mem_append_right _ (by rw [found]; exact held)
      by_cases busy : spawned.dispatcher.isSome = true
      · rw [if_pos busy] at stepped
        cases stepped
      rw [if_neg busy] at stepped
      split at stepped
      · next frame rest _ =>
          obtain rfl := Option.some.inj stepped
          simp only [outbox_setSpawned, Spawned.afterFrame_worker, List.mem_append] at member
          rcases member with (old | written) | held
          · exact .inl (List.mem_append_left _ old)
          · exact .inr (procFrame_written_reply ds _ replies frame m written).ackSession
          · exact .inl (pending held)
      · split at stepped
        · cases stepped
        · obtain rfl := Option.some.inj stepped
          simp only [outbox_setSpawned, List.mem_append] at member
          exact .inl (member.elim (List.mem_append_left _) pending)

/-- The worker adds only the ack `do_work` built under its connection's lock. -/
theorem workStep_outbox (inv : RegistryInv ds) (stepped : conn.workStep ds replies = some effect)
    (member : m ∈ effect.connection.outbox) : m ∈ conn.outbox ∨ m.ackSession = conn.session := by
  unfold workStep moveWorker at stepped
  split at stepped
  · cases stepped
  · next spawned found =>
      have written : m ∈ conn.written → m ∈ conn.outbox := List.mem_append_left _
      have session : conn.session =
          some (spawned.upstairsConnection.upstairsId, spawned.upstairsConnection.sessionId) := by
        rw [session, found]
        rfl
      split at stepped
      all_goals
        repeat' split at stepped
        all_goals
          cases stepped <;>
            simp only [outbox_setSpawned, List.mem_append] at member
      all_goals (repeat' split at member) <;>
        simp only [Worker.pendingAck, Option.toList, List.not_mem_nil, or_false,
          List.mem_singleton] at member
      all_goals first
        | exact .inl (written member)
        | rcases member with old | rfl
          · exact .inl (written old)
          first
            | exact .inr ((Downstairs.doWork_ackSession inv ‹_›).trans session.symm)
            | exact .inl (List.mem_append_right _ (by rw [found]; simp [Worker.pendingAck, *]))

/-- What any step adds to the outbox: no ack, or an ack addressed to the connection's session. -/
theorem step_outbox
    (quiet : ∀ negotiated c, conn.supervisor = .negotiating negotiated c → conn.spawned = none)
    (inv : RegistryInv ds) {task : Task} (stepped : conn.step tx ds replies task = some effect)
    (member : m ∈ effect.connection.outbox) :
    m ∈ conn.outbox ∨ m.ackSession = none ∨ m.ackSession = conn.session := by
  cases task
  case read => exact (readStep_outbox quiet stepped member).imp_right .inl
  case dispatch => exact (dispatchStep_outbox stepped member).imp_right .inl
  case work => exact (workStep_outbox inv stepped member).imp_right .inr
  all_goals
    simp only [step, evictedStep, timeoutStep, taskEndedStep] at stepped
    repeat' split at stepped
    all_goals
      cases stepped <;>
        have told := mem_outbox_moveTo member <;>
        simp only [outbox, List.mem_append, List.mem_singleton] at told
  all_goals first
    | exact .inl (told.elim (List.mem_append_left _) (List.mem_append_right _))
    | rcases told with (old | rfl) | pending
      · exact .inl (List.mem_append_left _ old)
      · exact .inr (.inl rfl)
      · exact .inl (List.mem_append_right _ pending)

/-- The session of the connection is kept by every step, or was not set yet. -/
theorem step_session
    (quiet : ∀ negotiated c, conn.supervisor = .negotiating negotiated c → conn.spawned = none)
    {task : Task} (stepped : conn.step tx ds replies task = some effect) :
    effect.connection.session = conn.session ∨ conn.session = none := by
  rcases step_cases stepped with ⟨-, -, follows | ⟨-, negotiated, supervisor⟩⟩ |
    ⟨negotiated, c, -, -, supervisor, -, -⟩
  · left
    have handedOff := congrArg (Option.map fun c : UpstairsConnection =>
      (c.upstairsId, c.sessionId)) follows.handedOff
    simpa only [Option.map_map] using handedOff
  · exact .inr (by simp [session, quiet _ _ supervisor])
  · exact .inr (by simp [session, quiet _ _ supervisor])

/-- Every step keeps the acks of the connection addressed to its session. -/
theorem AcksAddressed.step (acks : conn.AcksAddressed)
    (quiet : ∀ negotiated c, conn.supervisor = .negotiating negotiated c → conn.spawned = none)
    (inv : RegistryInv ds) {task : Task} (stepped : conn.step tx ds replies task = some effect) :
    effect.connection.AcksAddressed := by
  intro m member
  have added := step_outbox quiet inv stepped member
  rcases step_session quiet stepped with same | unset
  · rw [same]
    exact added.elim (acks m) id
  · -- before the tasks are spawned the outbox holds no ack
    refine .inl ?_
    rcases added with old | none | own
    · exact (acks m old).elim id (·.trans unset)
    · exact none
    · exact own.trans unset

/-- A terminate signal leaves the frame writer and the spawned tasks alone. -/
theorem AcksAddressed.signal (acks : conn.AcksAddressed) (c : UpstairsConnection) :
    (conn.signal c).AcksAddressed := by
  simpa [AcksAddressed, outbox, session] using acks

end Connection

/-- In every reachable state every connection's acks are addressed to its own session. -/
theorem Reachable.acksAddressed {s : System} (reach : Reachable s) :
    ∀ conn ∈ s.connections, conn.AcksAddressed := by
  induction reach with
  | init => simp [System.init]
  | step action reach stepped addressed =>
      cases action with
      | accept inbound hungUp =>
          cases stepped
          intro conn member
          rcases List.mem_append.mp member with old | fresh
          · exact addressed conn old
          · rw [List.mem_singleton.mp fresh]
            simp [Connection.AcksAddressed, Connection.outbox, Connection.accepted]
      | step g task replies =>
          obtain ⟨conn, effect, found, taken, rfl⟩ := System.step_eq_some stepped
          intro conn' member
          obtain ⟨h, stored⟩ := List.mem_iff_getElem?.mp member
          obtain ⟨base, origin, delivered⟩ := getElem?_deliver stored
          have addressedBase : base.AcksAddressed := by
            rcases origin with ⟨-, rfl⟩ | ⟨-, old⟩
            · exact (addressed conn (List.mem_iff_getElem?.mpr ⟨g, found⟩)).step
                (reach.systemInv.connections g conn found).quiet reach.registryInv taken
            · exact addressed base (List.mem_iff_getElem?.mpr ⟨h, old⟩)
          rcases delivered with rfl | ⟨c, -, rfl⟩
          · exact addressedBase
          · exact addressedBase.signal c

/--
Every ack reaches the session negotiated on its own connection.  In every reachable
state, whatever the interleaving of the tasks, each `ReadResponse`, `WriteAck`,
`WriteUnwrittenAck` or `FlushAck` a connection has written carries the upstairs id
and session id of the connection its tasks were handed at the end of negotiation;
a connection whose tasks were never spawned has written no ack.
-/
theorem acks_addressed_to_own_session {s : System} (reach : Reachable s) :
    ∀ conn ∈ s.connections, ∀ m ∈ conn.written, ∀ ids, m.ackSession = some ids →
      ∃ spawned, conn.spawned = some spawned ∧
        ids = (spawned.upstairsConnection.upstairsId, spawned.upstairsConnection.sessionId) := by
  intro conn member m written ids addressed
  rcases reach.acksAddressed conn member m (List.mem_append_left _ written) with none | own
  · rw [addressed] at none
    cases none
  · rw [addressed, Connection.session] at own
    obtain ⟨spawned, stored, same⟩ := Option.map_eq_some'.mp own.symm
    exact ⟨spawned, stored, same.symm⟩

theorem acks_addressed_to_own_session_sameTripleTakeover :
    ((System.replay sameTripleTakeover).connections.map fun conn =>
        conn.written.filterMap Message.ackSession) = [[(1, 1)], []] ∧
    ∀ conn ∈ (System.replay sameTripleTakeover).connections, ∀ m ∈ conn.written, ∀ ids,
      m.ackSession = some ids → ∃ spawned, conn.spawned = some spawned ∧
        ids = (spawned.upstairsConnection.upstairsId, spawned.upstairsConnection.sessionId) :=
  ⟨by decide, acks_addressed_to_own_session (Reachable.replay sameTripleTakeover)⟩

end CrucibleDownstairs
