import CrucibleDownstairs.Work

namespace CrucibleDownstairs

/-!
# The downstairs and its session registry

`Downstairs` holds the registry `active_upstairs`, keyed by upstairs id, whose
entries carry the active connection, its `Work` and the sending half of the
connection's terminate channel.  Each method below is one call made while
holding the `Downstairs` mutex, so it is atomic with respect to every other task.

The region storage engine is opaque to the core: its replies are inputs of the
methods that call it, and the calls that change it are recorded in
`regionLog`, each with the connection being served and whether that connection
was active when the call was made.  Statistics and logging do not change this
state.  The test flag `lossy`, which pauses the worker and makes it skip listed
jobs at random while `resp_loop` renotifies it every five seconds, is taken as off.
-/

/-- One registry entry: the active connection, its queue and its eviction channel. -/
structure ActiveUpstairs where
  upstairsConnection : UpstairsConnection
  work : Work
  /-- The terminate channel of the connection task that registered this entry. -/
  terminateSender : Nat

/-- The registry `HashMap<Uuid, ActiveUpstairs>`. -/
abbrev Registry := AList (fun _ : Uuid => ActiveUpstairs)

/-- A region call that changes the region. -/
inductive RegionCall where
  | regionWrite (writes : List Write) (jobId : Nat) (onlyIfUnwritten : Bool)
  | regionFlush (flushNumber genNumber : Nat) (snapshotDetails : Option String) (jobId : Nat)
  | regionFlushExtent (extentId flushNumber genNumber repairId : Nat)
  | closeExtent (extentId : Nat)
  | repairExtent (extentId sourceRepairAddress : Nat)
  | reopenExtent (extentId : Nat)
  | reopenAllExtents
  deriving Repr, DecidableEq

/-- A region mutation with the connection it served and whether it was active. -/
structure RegionMutation where
  connection : UpstairsConnection
  wasActive : Bool
  call : RegionCall
  deriving Repr, DecidableEq

/-- The process-wide state behind the `Downstairs` mutex. -/
structure Downstairs where
  activeUpstairs : Registry
  readOnly : Bool
  encrypted : Bool
  returnErrors : Bool
  repairAddress : Nat
  regionLog : List RegionMutation

/-- Errors returned through `anyhow` by the methods of `Downstairs`. -/
inductive DsError where
  /-- `bail!(CrucibleError::...)`, or a region error propagated by `?`. -/
  | crucible (error : CrucibleError)
  /-- `"Current gen {} is > requested gen of {}"`. -/
  | currentGenGreater (current requested : Nat)
  /-- `"Same gen, but UUIDs {:?} don't match {:?}"`. -/
  | sameGenUuidsDontMatch (current requested : UpstairsConnection)
  deriving Repr, DecidableEq

/-- How a call can fail: an error returned to the caller, or a panic. -/
inductive Fault where
  | error (error : DsError)
  | panic (site : Panic)
  deriving Repr, DecidableEq

/-- The failure of every call made for a connection that is not the active one. -/
def upstairsInactive : Fault := .error (.crucible .upstairsInactive)

namespace Downstairs

/-- `Downstairs::new`: no active upstairs and an untouched region. -/
def new (readOnly encrypted returnErrors : Bool) (repairAddress : Nat) : Downstairs where
  activeUpstairs := ∅
  readOnly := readOnly
  encrypted := encrypted
  returnErrors := returnErrors
  repairAddress := repairAddress
  regionLog := []

/-- `Downstairs::is_active`: the entry under the connection's upstairs id is exactly it. -/
def isActive (ds : Downstairs) (connection : UpstairsConnection) : Bool :=
  match ds.activeUpstairs.lookup connection.upstairsId with
  | some activeUpstairs => activeUpstairs.upstairsConnection == connection
  | none => false

/-- `Downstairs::active_upstairs`: the registered connections. -/
def activeConnections (ds : Downstairs) : List UpstairsConnection :=
  ds.activeUpstairs.entries.map (·.2.upstairsConnection)

/-- `Downstairs::work_lock`: the entry of a connection, only if it matches exactly. -/
def workLock (ds : Downstairs) (upstairsConnection : UpstairsConnection) :
    Except Fault ActiveUpstairs :=
  match ds.activeUpstairs.lookup upstairsConnection.upstairsId with
  | none => .error upstairsInactive
  | some activeUpstairs =>
      if activeUpstairs.upstairsConnection ≠ upstairsConnection then .error upstairsInactive
      else .ok activeUpstairs

/-- Store a changed queue back into the entry it was locked from. -/
def setWork (ds : Downstairs) (entry : ActiveUpstairs) (work : Work) : Downstairs :=
  { ds with
    activeUpstairs :=
      ds.activeUpstairs.insert entry.upstairsConnection.upstairsId ({ entry with work := work }) }

/-- Run a queue operation under the work lock of a connection. -/
def withWork (ds : Downstairs) (upstairsConnection : UpstairsConnection)
    (operation : Work → Work × α) : Downstairs × Except Fault α :=
  match ds.workLock upstairsConnection with
  | .error fault => (ds, .error fault)
  | .ok activeUpstairs =>
      (ds.setWork activeUpstairs (operation activeUpstairs.work).1,
        .ok (operation activeUpstairs.work).2)

/-- Record a region mutation made on behalf of a connection. -/
def logRegion (ds : Downstairs) (connection : UpstairsConnection) (call : RegionCall) :
    Downstairs :=
  { ds with regionLog := ds.regionLog ++ [⟨connection, ds.isActive connection, call⟩] }

/-- `Downstairs::jobs`: reads the queue length under the work lock. -/
def jobs (ds : Downstairs) (upstairsConnection : UpstairsConnection) : Except Fault Nat :=
  (ds.workLock upstairsConnection).map fun activeUpstairs => activeUpstairs.work.jobs

/-- `Downstairs::new_work`. -/
def newWork (ds : Downstairs) (upstairsConnection : UpstairsConnection) :
    Downstairs × Except Fault (List Nat) :=
  match ds.workLock upstairsConnection with
  | .error fault => (ds, .error fault)
  | .ok activeUpstairs =>
      match activeUpstairs.work.newWork upstairsConnection with
      | .error site => (ds, .error (.panic site))
      | .ok ids => (ds, .ok ids)

/-- `Downstairs::add_work`: refuse writes on a read-only region, then queue the job. -/
def addWork (ds : Downstairs) (upstairsConnection : UpstairsConnection) (dsId : Nat)
    (work : IOop) : Downstairs × Except Fault Unit :=
  if ds.readOnly ∧ work.isWrite then
    (ds, .error (.error (.crucible .modifyingReadOnlyRegion)))
  else
    ds.withWork upstairsConnection fun queue =>
      (queue.addWork dsId ⟨upstairsConnection, dsId, work, .new⟩, ())

/-- `Downstairs::in_progress`: panics if the started job's owner is not active. -/
def inProgress (ds : Downstairs) (upstairsConnection : UpstairsConnection) (dsId : Nat) :
    Downstairs × Except Fault (Option Nat) :=
  let locked := ds.withWork upstairsConnection fun work => work.inProgress dsId
  (locked.1,
    match locked.2 with
    | .error fault => .error fault
    | .ok none => .ok none
    | .ok (some (jobId, owner)) =>
        if locked.1.isActive owner then .ok (some jobId)
        else .error (.panic .nonActiveConnectionJob))

/--
The guarded region call of `do_work`: an injected test error, `UpstairsInactive`
if the job's owner is no longer active, or the region's reply.
-/
def guardedRegionCall (ds : Downstairs) (upstairsConnection owner : UpstairsConnection)
    (injectError : Bool) (call : RegionCall) (reply : Except CrucibleError α) :
    Downstairs × Except CrucibleError α :=
  if ds.returnErrors ∧ injectError then (ds, .error (.genericError "test error"))
  else if ¬ ds.isActive owner then (ds, .error .upstairsInactive)
  else (ds.logRegion upstairsConnection call, reply)

/--
`Downstairs::do_work`: read the ready job and perform its region call, building
the ack.  `injectError` is the outcome of the `random()` draws of the test flag
`return_errors`; `readReply` and `writeReply` are the region's replies.
-/
def doWork (ds : Downstairs) (upstairsConnection : UpstairsConnection) (jobId : Nat)
    (injectError : Bool) (readReply : Except CrucibleError (List ReadResponse))
    (writeReply : Except CrucibleError Unit) : Downstairs × Except Fault (Option Message) :=
  match ds.workLock upstairsConnection with
  | .error fault => (ds, .error fault)
  | .ok activeUpstairs =>
      match activeUpstairs.work.getReadyJob jobId with
      | .error site => (ds, .error (.panic site))
      | .ok none => (ds, .ok none)
      | .ok (some job) =>
          let owner := job.upstairsConnection
          match job.work with
          | .read _ _ =>
              let responses :=
                if ds.returnErrors ∧ injectError then .error (.genericError "test error")
                else if ¬ ds.isActive owner then .error .upstairsInactive
                else readReply
              (ds, .ok (some (.readResponse owner.upstairsId owner.sessionId job.dsId responses)))
          | .writeUnwritten _ writes =>
              let called := ds.guardedRegionCall upstairsConnection owner injectError
                (.regionWrite writes jobId true) writeReply
              (called.1, .ok (some
                (.writeUnwrittenAck owner.upstairsId owner.sessionId job.dsId called.2)))
          | .write _ writes =>
              let called := ds.guardedRegionCall upstairsConnection owner injectError
                (.regionWrite writes jobId false) writeReply
              (called.1, .ok (some (.writeAck owner.upstairsId owner.sessionId job.dsId called.2)))
          | .flush _ flushNumber genNumber snapshotDetails =>
              let called := ds.guardedRegionCall upstairsConnection owner injectError
                (.regionFlush flushNumber genNumber snapshotDetails jobId) writeReply
              (called.1, .ok (some (.flushAck owner.upstairsId owner.sessionId job.dsId called.2)))

/-- `Downstairs::complete_work`: a `FlushAck` completes a flush. -/
def completeWork (ds : Downstairs) (upstairsConnection : UpstairsConnection) (dsId : Nat)
    (m : Message) : Downstairs × Except Fault Unit :=
  ds.withWork upstairsConnection fun work => (work.completeWork dsId m.isFlushAck, ())

/-- The `LastFlush` step of negotiation: set the flush horizon under the work lock. -/
def setLastFlush (ds : Downstairs) (upstairsConnection : UpstairsConnection)
    (lastFlushNumber : Nat) : Downstairs × Except Fault Unit :=
  ds.withWork upstairsConnection fun work => ({ work with lastFlush := lastFlushNumber }, ())

/-- `Downstairs::clear_active`: clear the queue and drop the entry. -/
def clearActive (ds : Downstairs) (upstairsConnection : UpstairsConnection) :
    Downstairs × Except Fault Unit :=
  match ds.workLock upstairsConnection with
  | .error fault => (ds, .error fault)
  | .ok activeUpstairs =>
      let cleared := ds.setWork activeUpstairs activeUpstairs.work.clear
      ({ cleared with
          activeUpstairs := cleared.activeUpstairs.erase upstairsConnection.upstairsId },
        .ok ())

/-- The entry a promotion installs: the new connection with an empty queue. -/
def freshEntry (upstairsConnection : UpstairsConnection) (tx : Nat) : ActiveUpstairs where
  upstairsConnection := upstairsConnection
  work := Work.new
  terminateSender := tx

/-- Insert the entry of a promoted connection, replacing any entry under its id. -/
def register (ds : Downstairs) (upstairsConnection : UpstairsConnection) (tx : Nat) :
    Downstairs :=
  { ds with activeUpstairs :=
      ds.activeUpstairs.insert upstairsConnection.upstairsId (freshEntry upstairsConnection tx) }

/-- `self.region.reopen_all_extents()?` after a read-write promotion. -/
def reopenAllExtents (ds : Downstairs) (upstairsConnection : UpstairsConnection)
    (reply : Except CrucibleError Unit) : Downstairs × Except Fault Unit :=
  (ds.logRegion upstairsConnection .reopenAllExtents,
    match reply with
    | .error error => .error (.error (.crucible error))
    | .ok () => .ok ())

/--
Whether a read-write promotion may replace the current connection: a higher
`gen`, or the identical connection at the same `gen`.
-/
def takeoverCheck (current requested : UpstairsConnection) : Except Fault Unit :=
  match compare requested.gen current.gen with
  | .lt => .error (.error (.currentGenGreater current.gen requested.gen))
  | .eq =>
      if current ≠ requested then .error (.error (.sameGenUuidsDontMatch current requested))
      else .ok ()
  | .gt => .ok ()

/--
`Downstairs::promote_to_active`.  Returns the new state, the result, and the
terminate signal sent, if any, as the evicted entry's channel and the message.
Read-only: evict the entry under the same upstairs id, if any, and insert.
Read-write: with no entry insert; with one entry apply the generation check,
then evict it and insert; the region's extents are reopened after insertion.
-/
def promoteToActive (ds : Downstairs) (upstairsConnection : UpstairsConnection) (tx : Nat)
    (reopenReply : Except CrucibleError Unit) :
    Downstairs × Except Fault Unit × Option (Nat × UpstairsConnection) :=
  if ds.readOnly then
    match ds.activeUpstairs.lookup upstairsConnection.upstairsId with
    | some activeUpstairs =>
        (ds.register upstairsConnection tx, .ok (),
          some (activeUpstairs.terminateSender, upstairsConnection))
    | none => (ds.register upstairsConnection tx, .ok (), none)
  else
    match ds.activeUpstairs.entries with
    | [] =>
        let reopened :=
          (ds.register upstairsConnection tx).reopenAllExtents upstairsConnection reopenReply
        (reopened.1, reopened.2, none)
    | [⟨uuid, current⟩] =>
        match takeoverCheck current.upstairsConnection upstairsConnection with
        | .error fault => (ds, .error fault, none)
        | .ok () =>
            let evicted : Downstairs := { ds with activeUpstairs := ds.activeUpstairs.erase uuid }
            let reopened := (evicted.register upstairsConnection tx).reopenAllExtents
              upstairsConnection reopenReply
            (reopened.1, reopened.2, some (current.terminateSender, upstairsConnection))
    | _ => (ds, .error (.panic .moreThanOneActiveUpstairs), none)

/-! ## Spec lemmas -/

@[simp] theorem setWork_readOnly (ds : Downstairs) (entry : ActiveUpstairs) (work : Work) :
    (ds.setWork entry work).readOnly = ds.readOnly := rfl

@[simp] theorem setWork_regionLog (ds : Downstairs) (entry : ActiveUpstairs) (work : Work) :
    (ds.setWork entry work).regionLog = ds.regionLog := rfl

@[simp] theorem register_readOnly (ds : Downstairs) (c : UpstairsConnection) (tx : Nat) :
    (ds.register c tx).readOnly = ds.readOnly := rfl

@[simp] theorem logRegion_activeUpstairs (ds : Downstairs) (c : UpstairsConnection)
    (call : RegionCall) : (ds.logRegion c call).activeUpstairs = ds.activeUpstairs := rfl

@[simp] theorem logRegion_readOnly (ds : Downstairs) (c : UpstairsConnection)
    (call : RegionCall) : (ds.logRegion c call).readOnly = ds.readOnly := rfl

@[simp] theorem reopenAllExtents_activeUpstairs (ds : Downstairs) (c : UpstairsConnection)
    (reply : Except CrucibleError Unit) :
    (ds.reopenAllExtents c reply).1.activeUpstairs = ds.activeUpstairs := rfl

@[simp] theorem reopenAllExtents_readOnly (ds : Downstairs) (c : UpstairsConnection)
    (reply : Except CrucibleError Unit) :
    (ds.reopenAllExtents c reply).1.readOnly = ds.readOnly := rfl

@[simp] theorem guardedRegionCall_activeUpstairs (ds : Downstairs)
    (c owner : UpstairsConnection) (injectError : Bool) (call : RegionCall)
    (reply : Except CrucibleError α) :
    (ds.guardedRegionCall c owner injectError call reply).1.activeUpstairs =
      ds.activeUpstairs := by
  unfold guardedRegionCall
  split_ifs <;> rfl

@[simp] theorem guardedRegionCall_readOnly (ds : Downstairs)
    (c owner : UpstairsConnection) (injectError : Bool) (call : RegionCall)
    (reply : Except CrucibleError α) :
    (ds.guardedRegionCall c owner injectError call reply).1.readOnly = ds.readOnly := by
  unfold guardedRegionCall
  split_ifs <;> rfl

@[simp] theorem withWork_readOnly {ds : Downstairs} {c : UpstairsConnection}
    {operation : Work → Work × α} : (ds.withWork c operation).1.readOnly = ds.readOnly := by
  unfold withWork
  split <;> rfl

@[simp] theorem guardedRegionCall_encrypted (ds : Downstairs)
    (c owner : UpstairsConnection) (injectError : Bool) (call : RegionCall)
    (reply : Except CrucibleError α) :
    (ds.guardedRegionCall c owner injectError call reply).1.encrypted = ds.encrypted := by
  unfold guardedRegionCall
  split_ifs <;> rfl

@[simp] theorem withWork_encrypted {ds : Downstairs} {c : UpstairsConnection}
    {operation : Work → Work × α} : (ds.withWork c operation).1.encrypted = ds.encrypted := by
  unfold withWork
  split <;> rfl

/-- Storing a queue changes only the entry it came from. -/
theorem lookup_setWork (ds : Downstairs) (entry : ActiveUpstairs) (work : Work) (uuid : Uuid) :
    (ds.setWork entry work).activeUpstairs.lookup uuid =
      if uuid = entry.upstairsConnection.upstairsId then some { entry with work := work }
      else ds.activeUpstairs.lookup uuid := by
  split_ifs with same
  · subst same
    exact AList.lookup_insert _
  · exact AList.lookup_insert_ne same

/-- Registering a connection installs its fresh entry and nothing else. -/
theorem lookup_register (ds : Downstairs) (c : UpstairsConnection) (tx : Nat) (uuid : Uuid) :
    (ds.register c tx).activeUpstairs.lookup uuid =
      if uuid = c.upstairsId then some (freshEntry c tx) else ds.activeUpstairs.lookup uuid := by
  split_ifs with same
  · subst same
    exact AList.lookup_insert _
  · exact AList.lookup_insert_ne same

/-- The work lock is granted exactly for the registered connection. -/
theorem workLock_eq_ok {ds : Downstairs} {c : UpstairsConnection} {entry : ActiveUpstairs} :
    ds.workLock c = .ok entry ↔
      ds.activeUpstairs.lookup c.upstairsId = some entry ∧ entry.upstairsConnection = c := by
  unfold workLock
  cases found : ds.activeUpstairs.lookup c.upstairsId with
  | none => simp
  | some registered =>
      by_cases same : registered.upstairsConnection = c
      · simp only [same, ne_eq, not_true_eq_false, ↓reduceIte, Except.ok.injEq,
          Option.some.injEq]
        constructor
        · rintro rfl
          exact ⟨rfl, same⟩
        · exact And.left
      · simp only [same, ne_eq, not_false_eq_true, ↓reduceIte, reduceCtorEq, false_iff,
          not_and, Option.some.injEq]
        rintro rfl
        exact same

/-- The work lock only ever fails with `UpstairsInactive`. -/
theorem workLock_eq_error {ds : Downstairs} {c : UpstairsConnection} {fault : Fault}
    (lock : ds.workLock c = .error fault) : fault = upstairsInactive := by
  unfold workLock at lock
  split at lock
  · cases lock
    rfl
  · split at lock <;> cases lock
    rfl

/-- A connection is active exactly when its entry is registered under its id. -/
theorem isActive_eq_true {ds : Downstairs} {c : UpstairsConnection} :
    ds.isActive c = true ↔
      ∃ entry, ds.activeUpstairs.lookup c.upstairsId = some entry ∧
        entry.upstairsConnection = c := by
  unfold isActive
  cases ds.activeUpstairs.lookup c.upstairsId <;> simp

/-- The work lock fails, with `UpstairsInactive`, exactly for inactive connections. -/
theorem workLock_of_isActive_false {ds : Downstairs} {c : UpstairsConnection}
    (inactive : ds.isActive c = false) : ds.workLock c = .error upstairsInactive := by
  cases lock : ds.workLock c with
  | error fault =>
      rw [workLock_eq_error lock]
  | ok entry =>
      have := isActive_eq_true.mpr ⟨entry, workLock_eq_ok.mp lock⟩
      simp_all

/-- A refused takeover is an error returned to the caller, never a panic. -/
theorem takeoverCheck_eq_error {current requested : UpstairsConnection} {fault : Fault}
    (checked : takeoverCheck current requested = .error fault) : ∃ error, fault = .error error := by
  unfold takeoverCheck at checked
  split at checked
  · cases checked
    exact ⟨_, rfl⟩
  · split at checked <;> cases checked
    exact ⟨_, rfl⟩
  · cases checked

/-- After storing a queue, the entry's connection is still active. -/
theorem isActive_setWork (ds : Downstairs) (entry : ActiveUpstairs) (work : Work) :
    (ds.setWork entry work).isActive entry.upstairsConnection = true :=
  isActive_eq_true.mpr ⟨{ entry with work := work }, by rw [lookup_setWork, if_pos rfl], rfl⟩

/-- Storing a queue changes no connection's activity. -/
theorem isActive_setWork_eq {ds : Downstairs} {entry : ActiveUpstairs} (work : Work)
    (found : ds.activeUpstairs.lookup entry.upstairsConnection.upstairsId = some entry)
    (c : UpstairsConnection) : (ds.setWork entry work).isActive c = ds.isActive c := by
  unfold isActive
  rw [lookup_setWork]
  split_ifs with same
  · rw [← same] at found
    rw [found]
  · rfl

/-- A queue operation changes no connection's activity. -/
theorem isActive_withWork {ds : Downstairs} {owner : UpstairsConnection}
    {operation : Work → Work × α} (c : UpstairsConnection) :
    (ds.withWork owner operation).1.isActive c = ds.isActive c := by
  unfold withWork
  split
  · rfl
  · next entry lock =>
      obtain ⟨found, rfl⟩ := workLock_eq_ok.mp lock
      exact isActive_setWork_eq _ found c

/-- Registering another connection never makes a connection active. -/
theorem isActive_register_of_ne {ds : Downstairs} {promoted c : UpstairsConnection} (tx : Nat)
    (other : promoted ≠ c) (active : (ds.register promoted tx).isActive c = true) :
    ds.isActive c = true := by
  obtain ⟨entry, found, rfl⟩ := isActive_eq_true.mp active
  rw [lookup_register] at found
  split_ifs at found
  · cases found
    exact absurd rfl other
  · exact isActive_eq_true.mpr ⟨entry, found, rfl⟩

/-- Dropping an entry never makes a connection active. -/
theorem isActive_of_erase {ds : Downstairs} {uuid : Uuid} {c : UpstairsConnection}
    (active : ({ ds with activeUpstairs := ds.activeUpstairs.erase uuid } : Downstairs).isActive c
      = true) : ds.isActive c = true := by
  obtain ⟨entry, found, rfl⟩ := isActive_eq_true.mp active
  by_cases same : entry.upstairsConnection.upstairsId = uuid
  · rw [same] at found
    simp [AList.lookup_erase] at found
  · exact isActive_eq_true.mpr ⟨entry, by rwa [AList.lookup_erase_ne same] at found, rfl⟩

/-- Storing a queue into a locked entry keeps the lock granted, on the new queue. -/
theorem workLock_setWork {ds : Downstairs} {c : UpstairsConnection} {entry : ActiveUpstairs}
    (lock : ds.workLock c = .ok entry) (work : Work) :
    (ds.setWork entry work).workLock c = .ok { entry with work := work } := by
  obtain ⟨-, rfl⟩ := workLock_eq_ok.mp lock
  exact workLock_eq_ok.mpr ⟨by rw [lookup_setWork, if_pos rfl], rfl⟩

/-- Whether the lock is granted, and on what, depends only on the registry. -/
theorem workLock_congr {ds ds' : Downstairs} (same : ds'.activeUpstairs = ds.activeUpstairs)
    (c : UpstairsConnection) : ds'.workLock c = ds.workLock c := by
  simp [workLock, same]

/-- Under a granted lock a queue operation runs on the entry's queue and stores it back. -/
theorem withWork_of_workLock {ds : Downstairs} {c : UpstairsConnection} {entry : ActiveUpstairs}
    (lock : ds.workLock c = .ok entry) (operation : Work → Work × α) :
    ds.withWork c operation =
      (ds.setWork entry (operation entry.work).1, .ok (operation entry.work).2) := by
  simp [withWork, lock]

/-- A granted work lock means the connection is active. -/
theorem isActive_of_workLock {ds : Downstairs} {c : UpstairsConnection}
    {entry : ActiveUpstairs} (lock : ds.workLock c = .ok entry) : ds.isActive c = true :=
  isActive_eq_true.mpr ⟨entry, workLock_eq_ok.mp lock⟩

end Downstairs

end CrucibleDownstairs
