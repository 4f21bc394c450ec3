import Mathlib.Data.List.AList

namespace CrucibleDownstairs

/-!
# Wire data of the downstairs

The values the downstairs exchanges with an upstairs and keeps in its queue:
connection identities, IO operations, queued jobs and protocol frames.  Byte
payloads and addresses are kept as plain data because the core only copies them
between frames and region calls; identities are compared only for equality.
-/

/-- A `Uuid` is compared only for equality, so any type with equality serves. -/
abbrev Uuid := Nat

/-- `Result` values carried in acks are compared when replaying runs. -/
instance instDecidableEqExcept {ε α : Type} [DecidableEq ε] [DecidableEq α] :
    DecidableEq (Except ε α)
  | .error first, .error second =>
      if same : first = second then isTrue (same ▸ rfl)
      else isFalse fun equal => by cases equal; exact same rfl
  | .ok first, .ok second =>
      if same : first = second then isTrue (same ▸ rfl)
      else isFalse fun equal => by cases equal; exact same rfl
  | .error _, .ok _ => isFalse fun equal => by cases equal
  | .ok _, .error _ => isFalse fun equal => by cases equal

/-- Identity of one upstairs session: equal only when all three fields match. -/
structure UpstairsConnection where
  upstairsId : Uuid
  sessionId : Uuid
  gen : Nat
  deriving Repr, DecidableEq

/-- The `CrucibleError` values the downstairs produces or forwards. -/
inductive CrucibleError where
  | upstairsInactive
  | modifyingReadOnlyRegion
  | invalidExtent
  | offsetInvalid
  | genericError (message : String)
  /-- A failure reported by the region storage engine itself. -/
  | ioError (code : Nat)
  deriving Repr, DecidableEq

/-- One block read request: extent and block offset within it. -/
structure ReadRequest where
  eid : Nat
  offset : Nat
  deriving Repr, DecidableEq

/-- One block write: extent, block offset and the block's bytes. -/
structure Write where
  eid : Nat
  offset : Nat
  data : List UInt8
  deriving Repr, DecidableEq

/-- One block read back from the region. -/
structure ReadResponse where
  eid : Nat
  offset : Nat
  data : List UInt8
  deriving Repr, DecidableEq

/-- Region geometry as reported by `Region::def`. -/
structure RegionDefinition where
  blockSize : Nat
  extentSize : Nat
  extentCount : Nat
  deriving Repr, DecidableEq

/-- The four IO operations a job can carry, each with its dependency list. -/
inductive IOop where
  | read (dependencies : List Nat) (requests : List ReadRequest)
  | write (dependencies : List Nat) (writes : List Write)
  | writeUnwritten (dependencies : List Nat) (writes : List Write)
  | flush (dependencies : List Nat) (flushNumber genNumber : Nat)
      (snapshotDetails : Option String)
  deriving Repr, DecidableEq

namespace IOop

/-- `IOop::deps`: the job ids this operation waits for. -/
def deps : IOop → List Nat
  | .read dependencies _ => dependencies
  | .write dependencies _ => dependencies
  | .writeUnwritten dependencies _ => dependencies
  | .flush dependencies _ _ _ => dependencies

/-- The operations `add_work` refuses on a read-only region. -/
def isWrite : IOop → Bool
  | .write .. => true
  | .writeUnwritten .. => true
  | .read .. => false
  | .flush .. => false

/-- Flush jobs are the ones whose completion moves the flush horizon. -/
def isFlush : IOop → Bool
  | .flush .. => true
  | _ => false

end IOop

/-- Life cycle of a queued job; `done` and `error` are never entered. -/
inductive WorkState where
  | new
  | depWait
  | inProgress
  | done
  | error
  deriving Repr, DecidableEq

/-- A job in flight, owned by the connection that submitted it. -/
structure DownstairsWork where
  upstairsConnection : UpstairsConnection
  dsId : Nat
  work : IOop
  state : WorkState
  deriving Repr, DecidableEq

/-- Protocol frames exchanged between an upstairs and the downstairs. -/
inductive Message where
  | ruok
  | imok
  | hereIAm (version : Nat) (upstairsId sessionId : Uuid) (gen : Nat)
      (readOnly encrypted : Bool)
  | yesItsMe (version : Nat) (repairAddr : Nat)
  | promoteToActive (upstairsId sessionId : Uuid) (gen : Nat)
  | youAreNowActive (upstairsId sessionId : Uuid) (gen : Nat)
  | youAreNoLongerActive (newUpstairsId newSessionId : Uuid) (newGen : Nat)
  | uuidMismatch (expectedId : Uuid)
  | readOnlyMismatch (expected : Bool)
  | encryptedMismatch (expected : Bool)
  | regionInfoPlease
  | regionInfo (regionDef : RegionDefinition)
  | lastFlush (lastFlushNumber : Nat)
  | lastFlushAck (lastFlushNumber : Nat)
  | extentVersionsPlease
  | extentVersions (genNumbers flushNumbers : List Nat) (dirtyBits : List Bool)
  | write (upstairsId sessionId : Uuid) (jobId : Nat) (dependencies : List Nat)
      (writes : List Write)
  | writeUnwritten (upstairsId sessionId : Uuid) (jobId : Nat)
      (dependencies : List Nat) (writes : List Write)
  | flush (upstairsId sessionId : Uuid) (jobId : Nat) (dependencies : List Nat)
      (flushNumber genNumber : Nat) (snapshotDetails : Option String)
  | readRequest (upstairsId sessionId : Uuid) (jobId : Nat)
      (dependencies : List Nat) (requests : List ReadRequest)
  | writeAck (upstairsId sessionId : Uuid) (jobId : Nat)
      (result : Except CrucibleError Unit)
  | writeUnwrittenAck (upstairsId sessionId : Uuid) (jobId : Nat)
      (result : Except CrucibleError Unit)
  | flushAck (upstairsId sessionId : Uuid) (jobId : Nat)
      (result : Except CrucibleError Unit)
  | readResponse (upstairsId sessionId : Uuid) (jobId : Nat)
      (responses : Except CrucibleError (List ReadResponse))
  | extentFlush (repairId extentId clientId flushNumber genNumber : Nat)
  | extentClose (repairId extentId : Nat)
  | extentRepair (repairId extentId sourceClientId sourceRepairAddress : Nat)
      (destClients : List Nat)
  | extentReopen (repairId extentId : Nat)
  | repairAckId (repairId : Nat)
  | extentError (repairId extentId : Nat) (error : CrucibleError)
  deriving Repr, DecidableEq

namespace Message

/-- `matches!(m, Message::FlushAck { .. })`: the test `complete_work` applies. -/
def isFlushAck : Message → Bool
  | .flushAck .. => true
  | _ => false

end Message

/-- The `panic!` and `assert!` sites of the core, each a fatal task failure. -/
inductive Panic where
  /-- `panic!("Old Upstairs Job in new_work!")` in `Work::new_work`. -/
  | oldUpstairsJobInNewWork
  /-- `panic!("Don't return a job for a non-active connection!")`. -/
  | nonActiveConnectionJob
  /-- `panic!("More than one currently active upstairs! ...")`. -/
  | moreThanOneActiveUpstairs
  /-- `assert_eq!(job.state, WorkState::InProgress)` in `get_ready_job`. -/
  | readyJobNotInProgress
  /-- `assert_eq!(job_id, job.ds_id)` in `get_ready_job`. -/
  | readyJobIdMismatch
  /-- `assert!(last_flush_satisfied || complete_satisfied)` in `get_ready_job`. -/
  | readyJobDependencyUnmet
  deriving Repr, DecidableEq

end CrucibleDownstairs
