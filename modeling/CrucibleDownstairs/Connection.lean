import CrucibleDownstairs.Fencing

namespace CrucibleDownstairs

/-!
# The tasks serving a connection

Each accepted connection is served by a group of tasks: `proc` negotiates and
then runs `resp_loop`, which spawns the dispatcher `pf_task` (running
`proc_frame` on every frame it is forwarded) and the worker `do_work_task`.  The
tasks of all connections run concurrently.  A step of the model is one task
making one `Downstairs` call under the mutex, together with the channel and
frame-writer operations that follow it before the task's next call, so every
interleaving of the tasks' calls is a sequence of steps.

The channels are explicit: the capacity-one terminate channel that `proc`
registers on promotion, the dispatcher's frame channel, and the worker's job
notifications, whose values the worker never reads, so only their number is
kept.  The last two have 200 slots in the source and are unbounded here: a send
never waits for room.  Frames written on a connection's frame writer are
recorded in order.  Writes on the frame writer are assumed to succeed, except
the worker's write of an ack, which may fail at any of its steps; so a turn of
negotiation is one step with its reply.  The region's replies and the failure of
the ack write are inputs of each step, and the timeouts of `proc` and
`resp_loop` may fire at any step, which also covers a frame that fails to decode.
-/

/-- Why a connection task returned an error: one of its `bail!`s, or an error passed on by `?`. -/
inductive ConnectionError where
  /-- An error or a panic of a `Downstairs` call. -/
  | downstairs (fault : Fault)
  /-- An error of a region call made by the task itself. -/
  | region (error : CrucibleError)
  /-- A send on a channel whose receiving task has returned. -/
  | channelClosed
  /-- An error of a write on the frame writer, passed on by `?`. -/
  | frameWrite
  /-- A panic of `upstairs_connection.unwrap()`, or of the `assert!` after negotiation. -/
  | upstairsConnectionUnwrap
  /-- Bails with "did not negotiate a protocol". -/
  | didNotNegotiate
  /-- Bails with "Received connect out of order {}". -/
  | connectOutOfOrder (negotiated : Nat)
  /-- Bails with "expected version 1, got {}". -/
  | expectedVersion (version : Nat)
  /-- Bails with "closing connection due to read-only mismatch". -/
  | readOnlyMismatch
  /-- Bails with "closing connection due to encryption mismatch". -/
  | encryptionMismatch
  /-- Bails with "Received activate out of order {}". -/
  | activateOutOfOrder (negotiated : Nat)
  /-- Bails with "Upstairs connection expected upstairs_id:{} session_id:{} received ...". -/
  | connectionExpected (upstairsId sessionId receivedUpstairsId receivedSessionId : Uuid)
  /-- Bails with "Received RegionInfo out of order {}". -/
  | regionInfoOutOfOrder (negotiated : Nat)
  /-- Bails with "Received LastFlush out of order {}". -/
  | lastFlushOutOfOrder (negotiated : Nat)
  /-- Bails with "Received ExtentVersions out of order {}". -/
  | extentVersionsOutOfOrder (negotiated : Nat)
  /-- Bails with "inactivity timeout". -/
  | inactivityTimeout
  /-- Bails with "do_work_task task has ended: {:?}". -/
  | doWorkTaskEnded
  /-- Bails with "pf task ended: {:?}". -/
  | pfTaskEnded
  /-- Bails with "unexpected frame {:?}" in `proc_frame`. -/
  | unexpectedFrame (m : Message)
  deriving Repr, DecidableEq

/-- The negotiator: the loop of `proc`, then `resp_loop`, then returned. -/
inductive Supervisor where
  /-- The negotiation loop of `proc`, with its counter and the connection it recorded. -/
  | negotiating (negotiated : Nat) (upstairsConnection : Option UpstairsConnection)
  /-- The loop of `resp_loop` for the negotiated connection. -/
  | responding (upstairsConnection : UpstairsConnection)
  /-- The task has returned, dropping the terminate receiver. -/
  | returned (result : Except ConnectionError Unit)
  deriving Repr, DecidableEq

/-- The capacity-one terminate channel created by `proc`. -/
structure TerminateChannel where
  /-- Messages sent and not yet received. -/
  buffer : List UpstairsConnection
  /-- How many messages the channel has accepted over the whole run. -/
  accepted : Nat
  deriving Repr, DecidableEq

/-- The worker `do_work_task`, at each of the points where it waits. -/
inductive Worker where
  /-- Waiting in `job_channel_rx.recv()`. -/
  | waiting
  /-- Woken by a notification; `is_active` is asked next. -/
  | woken
  /-- Active; `new_work` is called next. -/
  | listing
  /-- Going through the listed ids; `in_progress` is called on the first one next. -/
  | scanning (ids : List Nat)
  /-- A job has been started; `do_work` is called next. -/
  | working (jobId : Nat) (rest : List Nat)
  /-- The ack `m` is written on the frame writer next. -/
  | acking (jobId : Nat) (m : Message) (rest : List Nat)
  /-- The ack has been written; `complete_work` is called next. -/
  | completing (jobId : Nat) (m : Message) (rest : List Nat)
  /-- The task has returned. -/
  | finished (result : Except ConnectionError Unit)
  deriving Repr, DecidableEq

/-- The dispatcher `pf_task` and the worker `do_work_task` that `resp_loop` spawns. -/
structure Spawned where
  /-- The negotiated connection both tasks were given. -/
  upstairsConnection : UpstairsConnection
  /-- Frames in `message_channel` that `pf_task` has not taken yet. -/
  dispatch : List Message
  /-- The result of `pf_task` once it has returned. -/
  dispatcher : Option (Except ConnectionError Unit)
  /-- Notifications in `job_channel`. -/
  jobTokens : Nat
  worker : Worker
  deriving Repr, DecidableEq

/-- The tasks as `resp_loop` spawns them. -/
def Spawned.start (upstairsConnection : UpstairsConnection) : Spawned where
  upstairsConnection := upstairsConnection
  dispatch := []
  dispatcher := none
  jobTokens := 0
  worker := .waiting

/-- One accepted connection and the tasks serving it. -/
structure Connection where
  /-- Frames the upstairs has sent that no task has read yet. -/
  inbound : List Message
  /-- Whether the upstairs closes the stream after them. -/
  hungUp : Bool
  supervisor : Supervisor
  terminate : TerminateChannel
  spawned : Option Spawned
  /-- Frames written on the connection's frame writer, oldest first. -/
  written : List Message
  /-- Every frame `proc` read while negotiating, oldest first (ghost state). -/
  negotiationLog : List Message

/-- A connection as `proc_stream` starts serving it. -/
def Connection.accepted (inbound : List Message) (hungUp : Bool) : Connection where
  inbound := inbound
  hungUp := hungUp
  supervisor := .negotiating 0 none
  terminate := ⟨[], 0⟩
  spawned := none
  written := []
  negotiationLog := []

/--
The region's replies to the calls of one step, the draws of the test flag, and
whether the worker's write of an ack fails.
-/
structure RegionReplies where
  reopenAllExtents : Except CrucibleError Unit
  regionDef : RegionDefinition
  /-- Flush numbers, generation numbers and dirty bits, or the first error among them. -/
  extentVersions : Except CrucibleError (List Nat × List Nat × List Bool)
  /-- Whether `extents.get_mut` finds the extent to close. -/
  extentFound : Bool
  /-- The reply of the repair call of `proc_frame`. -/
  repair : Except CrucibleError Unit
  /-- The `random()` draws of the test flag `return_errors`. -/
  injectError : Bool
  readReply : Except CrucibleError (List ReadResponse)
  writeReply : Except CrucibleError Unit
  /-- Whether `fw.send(&m)` of the worker's ack fails, as once the upstairs has gone away. -/
  ackWriteFails : Bool

/-- A region that answers every call successfully. -/
def RegionReplies.healthy : RegionReplies where
  reopenAllExtents := .ok ()
  regionDef := ⟨512, 10, 10⟩
  extentVersions := .ok ([], [], [])
  extentFound := true
  repair := .ok ()
  injectError := false
  readReply := .ok []
  writeReply := .ok ()
  ackWriteFails := false

/-! ## Negotiation and frame handling -/

/-- The counter value at which `proc` accepts a negotiation frame. -/
def Message.negotiationStep : Message → Option Nat
  | .hereIAm .. => some 0
  | .promoteToActive .. => some 1
  | .regionInfoPlease => some 2
  | .lastFlush _ => some 3
  | .extentVersionsPlease => some 3
  | _ => none

namespace Message

@[simp] theorem negotiationStep_hereIAm (version : Nat) (upstairsId sessionId : Uuid) (gen : Nat)
    (readOnly encrypted : Bool) :
    (hereIAm version upstairsId sessionId gen readOnly encrypted).negotiationStep = some 0 := rfl

@[simp] theorem negotiationStep_promoteToActive (upstairsId sessionId : Uuid) (gen : Nat) :
    (promoteToActive upstairsId sessionId gen).negotiationStep = some 1 := rfl

@[simp] theorem negotiationStep_regionInfoPlease : regionInfoPlease.negotiationStep = some 2 := rfl

@[simp] theorem negotiationStep_lastFlush (lastFlushNumber : Nat) :
    (lastFlush lastFlushNumber).negotiationStep = some 3 := rfl

@[simp] theorem negotiationStep_extentVersionsPlease :
    extentVersionsPlease.negotiationStep = some 3 := rfl

end Message

/-- What `proc` does with one frame: the new state, the frames written, where it
goes next, and the terminate signal a promotion sent. -/
structure Negotiation where
  ds : Downstairs
  written : List Message
  next : Supervisor
  signal : Option (Nat × UpstairsConnection)

/--
One turn of the negotiation loop of `proc`, run by connection `tx` with counter
`negotiated`, on the frame it read.  Reaching the counter 4 leaves the loop for
`resp_loop`, after the `assert!` that a connection was recorded.
-/
def negotiate (ds : Downstairs) (tx negotiated : Nat)
    (upstairsConnection : Option UpstairsConnection) (replies : RegionReplies) :
    Message → Negotiation
  | .ruok => ⟨ds, [.imok], .negotiating negotiated upstairsConnection, none⟩
  | .hereIAm version upstairsId sessionId gen readOnly encrypted =>
      if negotiated ≠ 0 then ⟨ds, [], .returned (.error (.connectOutOfOrder negotiated)), none⟩
      else if version ≠ 1 then ⟨ds, [], .returned (.error (.expectedVersion version)), none⟩
      else if ds.readOnly ≠ readOnly then
        ⟨ds, [.readOnlyMismatch ds.readOnly], .returned (.error .readOnlyMismatch), none⟩
      else if ds.encrypted ≠ encrypted then
        ⟨ds, [.encryptedMismatch ds.encrypted], .returned (.error .encryptionMismatch), none⟩
      else
        ⟨ds, [.yesItsMe 1 ds.repairAddress],
          .negotiating 1 (some ⟨upstairsId, sessionId, gen⟩), none⟩
  | .promoteToActive upstairsId sessionId gen =>
      if negotiated ≠ 1 then ⟨ds, [], .returned (.error (.activateOutOfOrder negotiated)), none⟩
      else
        match upstairsConnection with
        | none => ⟨ds, [], .returned (.error .upstairsConnectionUnwrap), none⟩
        | some current =>
            if current.upstairsId = upstairsId ∧ current.sessionId = sessionId then
              let promoted :=
                ds.promoteToActive { current with gen := gen } tx replies.reopenAllExtents
              match promoted.2.1 with
              | .error fault =>
                  ⟨promoted.1, [], .returned (.error (.downstairs fault)), promoted.2.2⟩
              | .ok () =>
                  ⟨promoted.1, [.youAreNowActive upstairsId sessionId gen],
                    .negotiating 2 (some { current with gen := gen }), promoted.2.2⟩
            else
              ⟨ds, [.uuidMismatch current.upstairsId],
                .returned (.error (.connectionExpected current.upstairsId current.sessionId
                  upstairsId sessionId)), none⟩
  | .regionInfoPlease =>
      if negotiated ≠ 2 then ⟨ds, [], .returned (.error (.regionInfoOutOfOrder negotiated)), none⟩
      else ⟨ds, [.regionInfo replies.regionDef], .negotiating 3 upstairsConnection, none⟩
  | .lastFlush lastFlushNumber =>
      if negotiated ≠ 3 then ⟨ds, [], .returned (.error (.lastFlushOutOfOrder negotiated)), none⟩
      else
        match upstairsConnection with
        | none => ⟨ds, [], .returned (.error .upstairsConnectionUnwrap), none⟩
        | some current =>
            let set := ds.setLastFlush current lastFlushNumber
            match set.2 with
            | .error fault => ⟨set.1, [], .returned (.error (.downstairs fault)), none⟩
            | .ok () => ⟨set.1, [.lastFlushAck lastFlushNumber], .responding current, none⟩
  | .extentVersionsPlease =>
      if negotiated ≠ 3 then
        ⟨ds, [], .returned (.error (.extentVersionsOutOfOrder negotiated)), none⟩
      else
        match replies.extentVersions with
        | .error error => ⟨ds, [], .returned (.error (.region error)), none⟩
        | .ok (flushNumbers, genNumbers, dirtyBits) =>
            ⟨ds, [.extentVersions genNumbers flushNumbers dirtyBits],
              match upstairsConnection with
              | none => .returned (.error .upstairsConnectionUnwrap)
              | some current => .responding current, none⟩
  | _ => ⟨ds, [], .negotiating negotiated upstairsConnection, none⟩

/--
The end-of-stream arm of `proc` and `resp_loop`, under one hold of the mutex:
count the connection's jobs, which fails if it is not active, then clear its
entry if it is active.
-/
def disconnect (ds : Downstairs) (upstairsConnection : UpstairsConnection) :
    Downstairs × Except ConnectionError Unit :=
  match ds.jobs upstairsConnection with
  | .error fault => (ds, .error (.downstairs fault))
  | .ok _ =>
      if ds.isActive upstairsConnection then
        let cleared := ds.clearActive upstairsConnection
        (cleared.1,
          match cleared.2 with
          | .error fault => .error (.downstairs fault)
          | .ok () => .ok ())
      else (ds, .ok ())

/--
The four IO arms of `proc_frame`: check the frame's ids against the connection,
then queue the job.  `true` means a job id is to be sent to the worker.
-/
def submit (ds : Downstairs) (upstairsConnection : UpstairsConnection)
    (upstairsId sessionId : Uuid) (jobId : Nat) (work : IOop) :
    Downstairs × List Message × Except ConnectionError Bool :=
  if upstairsConnection.upstairsId ≠ upstairsId then
    (ds, [.uuidMismatch upstairsConnection.upstairsId], .ok false)
  else if upstairsConnection.sessionId ≠ sessionId then
    (ds, [.uuidMismatch upstairsConnection.sessionId], .ok false)
  else
    let added := ds.addWork upstairsConnection jobId work
    (added.1, [],
      match added.2 with
      | .error fault => .error (.downstairs fault)
      | .ok () => .ok true)

/-- The reply to a repair frame: an ack, or the region's error. -/
def repairReply (repairId extentId : Nat) : Except CrucibleError Unit → Message
  | .ok () => .repairAckId repairId
  | .error error => .extentError repairId extentId error

/--
`proc_frame` for the negotiated connection: the new state, the frames written,
and whether a job was queued, or the error that ends `pf_task`.  The repair
arms call the region without asking whether the connection is still active.
-/
def procFrame (ds : Downstairs) (upstairsConnection : UpstairsConnection)
    (replies : RegionReplies) : Message → Downstairs × List Message × Except ConnectionError Bool
  | .write upstairsId sessionId jobId dependencies writes =>
      submit ds upstairsConnection upstairsId sessionId jobId (.write dependencies writes)
  | .flush upstairsId sessionId jobId dependencies flushNumber genNumber snapshotDetails =>
      submit ds upstairsConnection upstairsId sessionId jobId
        (.flush dependencies flushNumber genNumber snapshotDetails)
  | .writeUnwritten upstairsId sessionId jobId dependencies writes =>
      submit ds upstairsConnection upstairsId sessionId jobId (.writeUnwritten dependencies writes)
  | .readRequest upstairsId sessionId jobId dependencies requests =>
      submit ds upstairsConnection upstairsId sessionId jobId (.read dependencies requests)
  | .extentFlush repairId extentId _ flushNumber genNumber =>
      (ds.logRegion upstairsConnection (.regionFlushExtent extentId flushNumber genNumber repairId),
        [repairReply repairId extentId replies.repair], .ok false)
  | .extentClose repairId extentId =>
      if replies.extentFound then
        (ds.logRegion upstairsConnection (.closeExtent extentId),
          match replies.repair with
          | .error error => ([], .error (.region error))
          | .ok () => ([.repairAckId repairId], .ok false))
      else (ds, [.extentError repairId extentId .invalidExtent], .ok false)
  | .extentRepair repairId extentId _ sourceRepairAddress _ =>
      (ds.logRegion upstairsConnection (.repairExtent extentId sourceRepairAddress),
        [repairReply repairId extentId replies.repair], .ok false)
  | .extentReopen repairId extentId =>
      (ds.logRegion upstairsConnection (.reopenExtent extentId),
        [repairReply repairId extentId replies.repair], .ok false)
  | m => (ds, [], .error (.unexpectedFrame m))

/--
The end of `proc_frame` in `pf_task`: a queued job id is sent to the worker,
which fails once the worker has returned, and an error ends the task.
-/
def Spawned.afterFrame (spawned : Spawned) : Except ConnectionError Bool → Spawned
  | .error error => { spawned with dispatcher := some (.error error) }
  | .ok false => spawned
  | .ok true =>
      match spawned.worker with
      | .finished _ => { spawned with dispatcher := some (.error .channelClosed) }
      | _ => { spawned with jobTokens := spawned.jobTokens + 1 }

@[simp] theorem Spawned.afterFrame_upstairsConnection (spawned : Spawned)
    (result : Except ConnectionError Bool) :
    (spawned.afterFrame result).upstairsConnection = spawned.upstairsConnection := by
  unfold Spawned.afterFrame
  repeat' split
  all_goals rfl

/-! ## The steps of one connection's tasks -/

/-- The task that takes the next step, and the branch of its `select!`. -/
inductive Task where
  /-- `proc` or `resp_loop` reads the next frame, or the end of the stream. -/
  | read
  /-- `proc` or `resp_loop` takes the terminate signal. -/
  | evicted
  /-- `proc` or `resp_loop` times out. -/
  | timeout
  /-- `resp_loop` sees that `do_work_task` has returned. -/
  | workerEnded
  /-- `resp_loop` sees that `pf_task` has returned. -/
  | dispatcherEnded
  /-- `pf_task` takes its next frame, or returns once its channel is closed and empty. -/
  | dispatch
  /-- `do_work_task` takes its next step. -/
  | work
  deriving Repr, DecidableEq

/--
What one step did: the new downstairs, the new state of the connection, and the
terminate signal a promotion sent, as the channel's connection and the message.
-/
structure Effect where
  ds : Downstairs
  connection : Connection
  signal : Option (Nat × UpstairsConnection)

namespace Connection

/-- Move the negotiator on; entering `resp_loop` spawns the dispatcher and the worker. -/
def moveTo (conn : Connection) : Supervisor → Connection
  | .responding c => { conn with supervisor := .responding c, spawned := some (Spawned.start c) }
  | next => { conn with supervisor := next }

/-- The terminate receiver lives as long as `proc`, which holds it. -/
def listening (conn : Connection) : Bool :=
  match conn.supervisor with
  | .returned _ => false
  | _ => true

/--
`block_on(terminate_sender.send(c))` in a promotion: the message is buffered
while the receiver lives, and the send fails, which is only logged, once it is gone.
-/
def signal (conn : Connection) (c : UpstairsConnection) : Connection :=
  if conn.listening then
    { conn with terminate := ⟨conn.terminate.buffer ++ [c], conn.terminate.accepted + 1⟩ }
  else conn

/-- Store a new state of the spawned tasks. -/
def setSpawned (conn : Connection) (spawned : Spawned) : Connection :=
  { conn with spawned := some spawned }

@[simp] theorem moveTo_supervisor (conn : Connection) (next : Supervisor) :
    (conn.moveTo next).supervisor = next := by
  cases next <;> rfl

@[simp] theorem moveTo_terminate (conn : Connection) (next : Supervisor) :
    (conn.moveTo next).terminate = conn.terminate := by
  cases next <;> rfl

@[simp] theorem moveTo_inbound (conn : Connection) (next : Supervisor) :
    (conn.moveTo next).inbound = conn.inbound := by
  cases next <;> rfl

@[simp] theorem moveTo_written (conn : Connection) (next : Supervisor) :
    (conn.moveTo next).written = conn.written := by
  cases next <;> rfl

@[simp] theorem moveTo_negotiationLog (conn : Connection) (next : Supervisor) :
    (conn.moveTo next).negotiationLog = conn.negotiationLog := by
  cases next <;> rfl

@[simp] theorem moveTo_negotiating_spawned (conn : Connection) (n : Nat)
    (c : Option UpstairsConnection) : (conn.moveTo (.negotiating n c)).spawned = conn.spawned :=
  rfl

@[simp] theorem moveTo_responding_spawned (conn : Connection) (c : UpstairsConnection) :
    (conn.moveTo (.responding c)).spawned = some (Spawned.start c) := rfl

@[simp] theorem moveTo_returned_spawned (conn : Connection) (result : Except ConnectionError Unit) :
    (conn.moveTo (.returned result)).spawned = conn.spawned := rfl

@[simp] theorem setSpawned_supervisor (conn : Connection) (spawned : Spawned) :
    (conn.setSpawned spawned).supervisor = conn.supervisor := rfl

@[simp] theorem setSpawned_terminate (conn : Connection) (spawned : Spawned) :
    (conn.setSpawned spawned).terminate = conn.terminate := rfl

@[simp] theorem setSpawned_written (conn : Connection) (spawned : Spawned) :
    (conn.setSpawned spawned).written = conn.written := rfl

@[simp] theorem setSpawned_negotiationLog (conn : Connection) (spawned : Spawned) :
    (conn.setSpawned spawned).negotiationLog = conn.negotiationLog := rfl

@[simp] theorem setSpawned_spawned (conn : Connection) (spawned : Spawned) :
    (conn.setSpawned spawned).spawned = some spawned := rfl

@[simp] theorem signal_supervisor (conn : Connection) (c : UpstairsConnection) :
    (conn.signal c).supervisor = conn.supervisor := by
  unfold signal
  split <;> rfl

@[simp] theorem signal_written (conn : Connection) (c : UpstairsConnection) :
    (conn.signal c).written = conn.written := by
  unfold signal
  split <;> rfl

@[simp] theorem signal_negotiationLog (conn : Connection) (c : UpstairsConnection) :
    (conn.signal c).negotiationLog = conn.negotiationLog := by
  unfold signal
  split <;> rfl

@[simp] theorem signal_spawned (conn : Connection) (c : UpstairsConnection) :
    (conn.signal c).spawned = conn.spawned := by
  unfold signal
  split <;> rfl

/-- A signal adds one message to a live channel and leaves a closed one alone. -/
theorem signal_terminate (conn : Connection) (c : UpstairsConnection) :
    (conn.signal c).terminate =
      if conn.listening then ⟨conn.terminate.buffer ++ [c], conn.terminate.accepted + 1⟩
      else conn.terminate := by
  unfold signal
  split <;> rfl

/-- `proc`, as connection `tx`, reads frame `m`, followed by `rest`, while negotiating. -/
def negotiateStep (conn : Connection) (tx : Nat) (ds : Downstairs) (replies : RegionReplies)
    (negotiated : Nat) (upstairsConnection : Option UpstairsConnection) (m : Message)
    (rest : List Message) : Effect :=
  let n := negotiate ds tx negotiated upstairsConnection replies m
  let read : Connection :=
    { conn with
      inbound := rest
      written := conn.written ++ n.written
      negotiationLog := conn.negotiationLog ++ [m] }
  ⟨n.ds, read.moveTo n.next, n.signal⟩

/-- `proc` or `resp_loop`, as connection `tx`, reads the next frame or the end of the stream. -/
def readStep (conn : Connection) (tx : Nat) (ds : Downstairs) (replies : RegionReplies) :
    Option Effect :=
  match conn.supervisor, conn.inbound with
  | .negotiating negotiated upstairsConnection, m :: rest =>
      some (conn.negotiateStep tx ds replies negotiated upstairsConnection m rest)
  | .negotiating _ none, [] =>
      if conn.hungUp then some ⟨ds, conn.moveTo (.returned (.ok ())), none⟩ else none
  | .negotiating _ (some c), [] =>
      if conn.hungUp then
        some ⟨(disconnect ds c).1, conn.moveTo (.returned (disconnect ds c).2), none⟩
      else none
  | .responding _, m :: rest =>
      if m = .ruok then
        some ⟨ds, { conn with inbound := rest, written := conn.written ++ [.imok] }, none⟩
      else
        match conn.spawned with
        | none => none
        | some spawned =>
            if spawned.dispatcher.isNone then
              some ⟨ds, { conn with inbound := rest }.setSpawned
                { spawned with dispatch := spawned.dispatch ++ [m] }, none⟩
            else some ⟨ds, { conn with inbound := rest }.moveTo (.returned (.error .channelClosed)),
              none⟩
  | .responding c, [] =>
      if conn.hungUp then
        some ⟨(disconnect ds c).1, conn.moveTo (.returned (disconnect ds c).2), none⟩
      else none
  | .returned _, _ => none

/-- `proc` or `resp_loop` takes the terminate signal, tells the upstairs, and returns. -/
def evictedStep (conn : Connection) (ds : Downstairs) : Option Effect :=
  match conn.terminate.buffer with
  | [] => none
  | next :: rest =>
      let took : Connection := { conn with terminate := { conn.terminate with buffer := rest } }
      match conn.supervisor with
      | .negotiating _ none =>
          some ⟨ds, took.moveTo (.returned (.error .upstairsConnectionUnwrap)), none⟩
      | .negotiating _ (some _) | .responding _ =>
          let told : Connection := { took with
            written := conn.written ++
              [.youAreNoLongerActive next.upstairsId next.sessionId next.gen] }
          some ⟨ds, told.moveTo (.returned (.ok ())), none⟩
      | .returned _ => none

/-- The timeout of `proc` or of `resp_loop` fires. -/
def timeoutStep (conn : Connection) (ds : Downstairs) : Option Effect :=
  match conn.supervisor with
  | .negotiating _ _ => some ⟨ds, conn.moveTo (.returned (.error .didNotNegotiate)), none⟩
  | .responding _ => some ⟨ds, conn.moveTo (.returned (.error .inactivityTimeout)), none⟩
  | .returned _ => none

/-- `resp_loop` sees that the worker (`worker`) or the dispatcher has returned. -/
def taskEndedStep (conn : Connection) (ds : Downstairs) (worker : Bool) : Option Effect :=
  match conn.supervisor, conn.spawned with
  | .responding _, some spawned =>
      if worker then
        match spawned.worker with
        | .finished _ => some ⟨ds, conn.moveTo (.returned (.error .doWorkTaskEnded)), none⟩
        | _ => none
      else if spawned.dispatcher.isSome then
        some ⟨ds, conn.moveTo (.returned (.error .pfTaskEnded)), none⟩
      else none
  | _, _ => none

/--
`pf_task` runs `proc_frame` on its next frame, or returns once `resp_loop` has
returned, dropping the channel's sender, and the channel is empty.
-/
def dispatchStep (conn : Connection) (ds : Downstairs) (replies : RegionReplies) :
    Option Effect :=
  match conn.spawned with
  | none => none
  | some spawned =>
      if spawned.dispatcher.isSome then none
      else
        match spawned.dispatch with
        | m :: rest =>
            let handled := procFrame ds spawned.upstairsConnection replies m
            some ⟨handled.1, { conn with written := conn.written ++ handled.2.1 }.setSpawned
              ({ spawned with dispatch := rest }.afterFrame handled.2.2), none⟩
        | [] =>
            if conn.listening then none
            else some ⟨ds, conn.setSpawned { spawned with dispatcher := some (.ok ()) }, none⟩

/-- Move the worker to its next point after a call that left the downstairs as `ds`. -/
def moveWorker (conn : Connection) (spawned : Spawned) (ds : Downstairs) (worker : Worker) :
    Option Effect :=
  some ⟨ds, conn.setSpawned { spawned with worker := worker }, none⟩

/--
`do_work_task` takes its next step.  It returns once the job channel is closed,
which happens when `resp_loop` and `pf_task` have both dropped their senders, and
with an error when a call fails or the write of an ack fails, leaving that job in
progress.
-/
def workStep (conn : Connection) (ds : Downstairs) (replies : RegionReplies) : Option Effect :=
  match conn.spawned with
  | none => none
  | some spawned =>
      let c := spawned.upstairsConnection
      match spawned.worker with
      | .waiting =>
          if 0 < spawned.jobTokens then
            some ⟨ds, conn.setSpawned
              { spawned with jobTokens := spawned.jobTokens - 1, worker := .woken }, none⟩
          else if !conn.listening && spawned.dispatcher.isSome then
            conn.moveWorker spawned ds (.finished (.ok ()))
          else none
      | .woken => conn.moveWorker spawned ds (if ds.isActive c then .listing else .waiting)
      | .listing =>
          conn.moveWorker spawned ds
            (match (ds.newWork c).2 with
              | .ok ids => .scanning (ids.insertionSort (· ≤ ·))
              | .error (.panic site) => .finished (.error (.downstairs (.panic site)))
              | .error (.error _) => .waiting)
      | .scanning [] => conn.moveWorker spawned ds .waiting
      | .scanning (dsId :: rest) =>
          let started := ds.inProgress c dsId
          conn.moveWorker spawned started.1
            (match started.2 with
              | .error fault => .finished (.error (.downstairs fault))
              | .ok none => .scanning rest
              | .ok (some jobId) => .working jobId rest)
      | .working jobId rest =>
          let done := ds.doWork c jobId replies.injectError replies.readReply replies.writeReply
          conn.moveWorker spawned done.1
            (match done.2 with
              | .error fault => .finished (.error (.downstairs fault))
              | .ok none => .scanning rest
              | .ok (some m) => .acking jobId m rest)
      | .acking jobId m rest =>
          if replies.ackWriteFails then conn.moveWorker spawned ds (.finished (.error .frameWrite))
          else
            some ⟨ds, { conn with written := conn.written ++ [m] }.setSpawned
              { spawned with worker := .completing jobId m rest }, none⟩
      | .completing jobId m rest =>
          let completed := ds.completeWork c jobId m
          conn.moveWorker spawned completed.1
            (match completed.2 with
              | .error fault => .finished (.error (.downstairs fault))
              | .ok () => .scanning rest)
      | .finished _ => none

/-- One step of the task `task` of connection `tx`; `none` when that task cannot move. -/
def step (conn : Connection) (tx : Nat) (ds : Downstairs) (replies : RegionReplies) :
    Task → Option Effect
  | .read => conn.readStep tx ds replies
  | .evicted => conn.evictedStep ds
  | .timeout => conn.timeoutStep ds
  | .workerEnded => conn.taskEndedStep ds true
  | .dispatcherEnded => conn.taskEndedStep ds false
  | .dispatch => conn.dispatchStep ds replies
  | .work => conn.workStep ds replies

end Connection

/-! ## The whole downstairs -/

/-- The downstairs with every connection accepted so far, indexed in order of acceptance. -/
structure System where
  ds : Downstairs
  connections : List Connection

/-- A freshly started downstairs with no connection. -/
def System.init (readOnly encrypted returnErrors : Bool) (repairAddress : Nat) : System :=
  ⟨Downstairs.new readOnly encrypted returnErrors repairAddress, []⟩

/-- A step of the whole system: a new connection, or a step of one connection's tasks. -/
inductive Action where
  | accept (inbound : List Message) (hungUp : Bool)
  | step (g : Nat) (task : Task) (replies : RegionReplies)

/-- Deliver a promotion's terminate signal to the connection whose channel it used. -/
def deliver (connections : List Connection) : Option (Nat × UpstairsConnection) → List Connection
  | none => connections
  | some (tx, c) => connections.modify (·.signal c) tx

namespace System

/-- One step; `none` when the chosen task cannot move. -/
def step (s : System) : Action → Option System
  | .accept inbound hungUp => some ⟨s.ds, s.connections ++ [Connection.accepted inbound hungUp]⟩
  | .step g task replies =>
      match s.connections[g]? with
      | none => none
      | some conn =>
          (conn.step g s.ds replies task).map fun effect =>
            ⟨effect.ds, deliver (s.connections.set g effect.connection) effect.signal⟩

/-- Replay a sequence of steps; `none` as soon as one cannot be taken. -/
def run (s : System) : List Action → Option System
  | [] => some s
  | action :: rest => (s.step action).bind fun next => next.run rest

end System

/-- The states of the downstairs reachable from a fresh start. -/
inductive Reachable : System → Prop where
  | init (readOnly encrypted returnErrors : Bool) (repairAddress : Nat) :
      Reachable (System.init readOnly encrypted returnErrors repairAddress)
  | step {s s' : System} (action : Action) :
      Reachable s → s.step action = some s' → Reachable s'

/-- Every state a replay reaches is reachable. -/
theorem Reachable.run {s s' : System} (reach : Reachable s) (actions : List Action)
    (ran : s.run actions = some s') : Reachable s' := by
  induction actions generalizing s with
  | nil =>
      cases ran
      exact reach
  | cons action rest inductionHypothesis =>
      simp only [System.run, Option.bind_eq_some] at ran
      obtain ⟨next, stepped, ran⟩ := ran
      exact inductionHypothesis (.step action reach stepped) ran

/-- The state a replay from a fresh read-write downstairs reaches, or the fresh state
if one of its steps cannot be taken. -/
def System.replay (actions : List Action) : System :=
  ((System.init false false false 0).run actions).getD (System.init false false false 0)

/-- Every replayed state is reachable. -/
theorem Reachable.replay (actions : List Action) : Reachable (System.replay actions) := by
  unfold System.replay
  cases ran : (System.init false false false 0).run actions with
  | none => exact .init false false false 0
  | some s => exact (Reachable.init false false false 0).run actions ran

/-! ## Two connections presenting the same triple -/

/--
A run in which a second connection presents the triple `(1, 1, 1)` that the first
one negotiated.  The first connection queues job 999 and its worker is woken; the
second takes over, queues job 1000 through its own dispatcher, and only then do the
first connection's worker and, after it, the second's run.
-/
def sameTripleTakeover : List Action :=
  let healthy := RegionReplies.healthy
  [.accept [.hereIAm 1 1 1 1 false false, .promoteToActive 1 1 1, .regionInfoPlease,
      .lastFlush 0, .write 1 1 999 [] []] true,
    .step 0 .read healthy, .step 0 .read healthy, .step 0 .read healthy, .step 0 .read healthy,
    .step 0 .read healthy, .step 0 .dispatch healthy, .step 0 .work healthy,
    .accept [.hereIAm 1 1 1 1 false false, .promoteToActive 1 1 1, .regionInfoPlease,
      .lastFlush 0, .write 1 1 1000 [] []] false,
    .step 1 .read healthy, .step 1 .read healthy, .step 1 .read healthy, .step 1 .read healthy,
    .step 1 .read healthy, .step 1 .dispatch healthy,
    .step 0 .work healthy, .step 0 .work healthy, .step 0 .work healthy, .step 0 .work healthy,
    .step 0 .work healthy, .step 0 .work healthy,
    .step 1 .work healthy, .step 1 .work healthy, .step 1 .work healthy, .step 1 .work healthy]

/--
After the run above the registry holds the second connection's entry (terminate
channel 1), yet the first connection's worker has executed job 1000, queued by the
second connection's dispatcher, and written its ack on the first connection's
frame writer, while the second connection never acks it.  When the first
connection then reads the end of its stream, its disconnect path clears the
entry of the second connection, which is still serving in `resp_loop`.
-/
theorem sameTripleTakeover_crossesSessions :
    ((System.init false false false 0).run sameTripleTakeover).map
        (fun s => (s.ds.activeUpstairs.entries.map fun entry =>
            (entry.2.upstairsConnection, entry.2.terminateSender),
          s.connections.map (·.written))) =
      some ([(⟨1, 1, 1⟩, 1)],
        [[.yesItsMe 1 0, .youAreNowActive 1 1 1, .regionInfo ⟨512, 10, 10⟩, .lastFlushAck 0,
            .writeAck 1 1 1000 (.ok ())],
          [.yesItsMe 1 0, .youAreNowActive 1 1 1, .regionInfo ⟨512, 10, 10⟩, .lastFlushAck 0]]) ∧
    ((System.init false false false 0).run
        (sameTripleTakeover ++ [.step 0 .read RegionReplies.healthy])).map
        (fun s => (s.ds.activeConnections, s.connections.map (·.supervisor))) =
      some ([], [.returned (.ok ()), .responding ⟨1, 1, 1⟩]) := by
  decide

/-! ## A repair frame left in the dispatcher's channel -/

/--
A run in which the first connection forwards an `ExtentFlush` to its dispatcher,
a second connection of the same upstairs with a higher generation takes over,
and the first connection's `resp_loop` takes the terminate signal and returns
before its dispatcher handles the frame.
-/
def staleRepairFrame : List Action :=
  let healthy := RegionReplies.healthy
  [.accept [.hereIAm 1 1 1 1 false false, .promoteToActive 1 1 1, .regionInfoPlease,
      .lastFlush 0, .extentFlush 7 0 0 1 1] false,
    .step 0 .read healthy, .step 0 .read healthy, .step 0 .read healthy, .step 0 .read healthy,
    .step 0 .read healthy,
    .accept [.hereIAm 1 1 2 2 false false, .promoteToActive 1 2 2] false,
    .step 1 .read healthy, .step 1 .read healthy,
    .step 0 .evicted healthy, .step 0 .dispatch healthy]

/--
The dispatcher of the evicted connection still flushes the extent: the region log
ends with a `region_flush_extent` made for connection `(1, 1, 1)` while it was not
active, after its `resp_loop` has returned and the second connection has become
the only registered one.
-/
theorem staleRepairFrame_mutatesRegion :
    ((System.init false false false 0).run staleRepairFrame).map
        (fun s => (s.ds.activeConnections, s.connections.map (·.supervisor), s.ds.regionLog)) =
      some ([⟨1, 2, 2⟩], [.returned (.ok ()), .negotiating 2 (some ⟨1, 2, 2⟩)],
        [⟨⟨1, 1, 1⟩, true, .reopenAllExtents⟩, ⟨⟨1, 2, 2⟩, true, .reopenAllExtents⟩,
          ⟨⟨1, 1, 1⟩, false, .regionFlushExtent 0 1 1 7⟩]) := by
  decide
end CrucibleDownstairs
