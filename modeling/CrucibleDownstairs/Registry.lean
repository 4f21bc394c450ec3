import CrucibleDownstairs.Downstairs

namespace CrucibleDownstairs

/-!
# Invariants of the session registry

Runs of the `Downstairs` alone: from `Downstairs::new`, any sequence of the
methods the connection tasks call, with any arguments, any region replies and
any outcome of the test-error draws.  The registry keeps at most one read-write
owner, stores each entry under its own upstairs id, and only ever holds jobs of
the entry's own connection; a read-write owner is only replaced by the same
connection or by one with a higher generation.
-/

/-- One call on the downstairs made under its mutex, with all of its inputs. -/
inductive DsOp where
  | promoteToActive (c : UpstairsConnection) (tx : Nat) (reopenReply : Except CrucibleError Unit)
  | clearActive (c : UpstairsConnection)
  | addWork (c : UpstairsConnection) (dsId : Nat) (work : IOop)
  | inProgress (c : UpstairsConnection) (dsId : Nat)
  | doWork (c : UpstairsConnection) (jobId : Nat) (injectError : Bool)
      (readReply : Except CrucibleError (List ReadResponse))
      (writeReply : Except CrucibleError Unit)
  | completeWork (c : UpstairsConnection) (dsId : Nat) (m : Message)
  | setLastFlush (c : UpstairsConnection) (lastFlushNumber : Nat)

namespace DsOp

/-- The state after the call, whatever it returned. -/
def apply : DsOp → Downstairs → Downstairs
  | .promoteToActive c tx reopenReply, ds => (ds.promoteToActive c tx reopenReply).1
  | .clearActive c, ds => (ds.clearActive c).1
  | .addWork c dsId work, ds => (ds.addWork c dsId work).1
  | .inProgress c dsId, ds => (ds.inProgress c dsId).1
  | .doWork c jobId injectError readReply writeReply, ds =>
      (ds.doWork c jobId injectError readReply writeReply).1
  | .completeWork c dsId m, ds => (ds.completeWork c dsId m).1
  | .setLastFlush c lastFlushNumber, ds => (ds.setLastFlush c lastFlushNumber).1

/-- The state after a sequence of calls. -/
def run : List DsOp → Downstairs → Downstairs
  | [], ds => ds
  | op :: ops, ds => run ops (op.apply ds)

end DsOp

/-- States reachable from `Downstairs::new` by any sequence of calls. -/
inductive DsReachable : Downstairs → Prop where
  | new (readOnly encrypted returnErrors : Bool) (repairAddress : Nat) :
      DsReachable (Downstairs.new readOnly encrypted returnErrors repairAddress)
  | step {ds : Downstairs} (op : DsOp) : DsReachable ds → DsReachable (op.apply ds)

namespace Work

/--
Every job of a queue is stored under its own id and owned by `owner`, and is not
a write when the region is read-only.
-/
def Owned (w : Work) (owner : UpstairsConnection) (readOnly : Bool) : Prop :=
  ∀ d job, w.active.lookup d = some job →
    job.dsId = d ∧ job.upstairsConnection = owner ∧ (readOnly = true → job.work.isWrite = false)

theorem owned_new (owner : UpstairsConnection) (readOnly : Bool) :
    new.Owned owner readOnly := by
  simp [Owned]

theorem Owned.addWork {w : Work} {owner : UpstairsConnection} {readOnly : Bool}
    (owned : w.Owned owner readOnly) {d : Nat} {op : IOop}
    (allowed : readOnly = true → op.isWrite = false) :
    (w.addWork d ⟨owner, d, op, .new⟩).Owned owner readOnly := by
  intro e job found
  rw [lookup_addWork] at found
  split_ifs at found with same
  · cases found
    exact ⟨same.symm, rfl, allowed⟩
  · exact owned e job found

theorem Owned.inProgress {w : Work} {owner : UpstairsConnection} {readOnly : Bool}
    (owned : w.Owned owner readOnly) (d : Nat) :
    (w.inProgress d).1.Owned owner readOnly := by
  rcases inProgress_cases w d with ⟨same, -⟩ | ⟨job, found, -, moved, -⟩ |
      ⟨job, found, -, -, moved, -⟩
  · rw [same]
    exact owned
  all_goals
    rw [moved]
    intro e other otherFound
    rw [lookup_addWork] at otherFound
    split_ifs at otherFound with sameKey
    · cases otherFound
      exact sameKey ▸ owned d job found
    · exact owned e other otherFound

theorem Owned.completeWork {w : Work} {owner : UpstairsConnection} {readOnly : Bool}
    (owned : w.Owned owner readOnly) (d : Nat) (isFlush : Bool) :
    (w.completeWork d isFlush).Owned owner readOnly := by
  intro e job found
  rw [lookup_completeWork] at found
  split_ifs at found
  exact owned e job found

/-- A queue whose jobs are its owner's never makes `new_work` panic: it lists the waiting ids. -/
theorem Owned.newWork_eq {w : Work} {owner : UpstairsConnection} {readOnly : Bool}
    (owned : w.Owned owner readOnly) : w.newWork owner =
      .ok (((w.jobList.filter fun job => decide (Waiting job)).map (·.dsId)).insertionSort (· ≤ ·)) := by
  have mine : w.jobList.any (fun job => job.upstairsConnection != owner) = false := by
    simp only [List.any_eq_false, bne_iff_ne, ne_eq, not_not]
    intro job member
    obtain ⟨⟨key, stored⟩, entry, rfl⟩ := List.mem_map.mp member
    exact (owned key stored (AList.mem_lookup_iff.mpr entry)).2.1
  simp only [newWork, mine]
  rfl

theorem Owned.newWork_ok {w : Work} {owner : UpstairsConnection} {readOnly : Bool}
    (owned : w.Owned owner readOnly) : ∃ ids, w.newWork owner = .ok ids :=
  ⟨_, owned.newWork_eq⟩

/-- A queue whose jobs sit under their own ids never fails the id assertion. -/
theorem Owned.getReadyJob_ne {w : Work} {owner : UpstairsConnection} {readOnly : Bool}
    (owned : w.Owned owner readOnly) (jobId : Nat) :
    w.getReadyJob jobId ≠ .error .readyJobIdMismatch := by
  unfold getReadyJob
  cases found : w.active.lookup jobId with
  | none => simp
  | some job =>
      have stored := (owned jobId job found).1
      simp only [stored, ne_eq, not_true_eq_false, ↓reduceIte]
      split_ifs <;> simp

end Work

namespace Downstairs

/-- `do_work` touches only the region log. -/
theorem doWork_activeUpstairs (ds : Downstairs) (c : UpstairsConnection) (jobId : Nat)
    (injectError : Bool) (readReply : Except CrucibleError (List ReadResponse))
    (writeReply : Except CrucibleError Unit) :
    (ds.doWork c jobId injectError readReply writeReply).1.activeUpstairs = ds.activeUpstairs ∧
      (ds.doWork c jobId injectError readReply writeReply).1.readOnly = ds.readOnly ∧
      (ds.doWork c jobId injectError readReply writeReply).1.encrypted = ds.encrypted := by
  unfold doWork
  repeat' split
  all_goals simp

end Downstairs

/-- The registry invariant of every reachable downstairs. -/
structure RegistryInv (ds : Downstairs) : Prop where
  /-- A read-write region has at most one active upstairs. -/
  single : ds.readOnly = false → ds.activeUpstairs.keys.length ≤ 1
  /-- Every entry is stored under its connection's upstairs id. -/
  keyed : ∀ uuid entry, ds.activeUpstairs.lookup uuid = some entry →
    entry.upstairsConnection.upstairsId = uuid
  /-- Every queue holds only its connection's jobs, each under its own id, and no
  writes on a read-only region. -/
  owned : ∀ uuid entry, ds.activeUpstairs.lookup uuid = some entry →
    entry.work.Owned entry.upstairsConnection ds.readOnly

namespace RegistryInv

variable {ds : Downstairs}

theorem new (readOnly encrypted returnErrors : Bool) (repairAddress : Nat) :
    RegistryInv (Downstairs.new readOnly encrypted returnErrors repairAddress) where
  single := by simp [Downstairs.new]
  keyed := by simp [Downstairs.new]
  owned := by simp [Downstairs.new]

theorem setWork (inv : RegistryInv ds) {entry : ActiveUpstairs}
    (found : ds.activeUpstairs.lookup entry.upstairsConnection.upstairsId = some entry)
    {work : Work} (owned : work.Owned entry.upstairsConnection ds.readOnly) :
    RegistryInv (ds.setWork entry work) where
  single := by
    intro readWrite
    have member : entry.upstairsConnection.upstairsId ∈ ds.activeUpstairs.keys :=
      AList.mem_keys.mp (AList.lookup_isSome.mp (by simp [found]))
    have erased := List.length_erase_of_mem member
    have positive := List.length_pos_of_mem member
    have bound := inv.single readWrite
    simp only [Downstairs.setWork, AList.keys_insert, List.length_cons, erased]
    omega
  keyed := by
    intro uuid other otherFound
    rw [Downstairs.lookup_setWork] at otherFound
    split_ifs at otherFound with same
    · cases otherFound
      exact same.symm
    · exact inv.keyed uuid other otherFound
  owned := by
    intro uuid other otherFound
    rw [Downstairs.lookup_setWork] at otherFound
    split_ifs at otherFound
    · cases otherFound
      exact owned
    · exact inv.owned uuid other otherFound

theorem withWork (inv : RegistryInv ds) {c : UpstairsConnection} {operation : Work → Work × α}
    (preserves : ∀ work : Work, work.Owned c ds.readOnly → (operation work).1.Owned c ds.readOnly) :
    RegistryInv (ds.withWork c operation).1 := by
  unfold Downstairs.withWork
  cases lock : ds.workLock c with
  | error => exact inv
  | ok entry =>
      obtain ⟨found, rfl⟩ := Downstairs.workLock_eq_ok.mp lock
      exact inv.setWork found (preserves _ (inv.owned _ entry found))

theorem erase (inv : RegistryInv ds) (uuid : Uuid) :
    RegistryInv { ds with activeUpstairs := ds.activeUpstairs.erase uuid } where
  single := fun readWrite => by
    simp only [AList.keys_erase]
    exact (List.length_erase_le _ _).trans (inv.single readWrite)
  keyed := by
    intro key entry found
    by_cases same : key = uuid
    · rw [same, AList.lookup_erase] at found
      cases found
    · exact inv.keyed key entry (by rwa [AList.lookup_erase_ne same] at found)
  owned := by
    intro key entry found
    by_cases same : key = uuid
    · rw [same, AList.lookup_erase] at found
      cases found
    · exact inv.owned key entry (by rwa [AList.lookup_erase_ne same] at found)

theorem register (inv : RegistryInv ds) (c : UpstairsConnection) (tx : Nat)
    (vacant : ds.readOnly = false → ds.activeUpstairs.keys = []) :
    RegistryInv (ds.register c tx) where
  single := fun readWrite => by
    simp [Downstairs.register, AList.keys_insert, vacant readWrite]
  keyed := by
    intro uuid entry found
    rw [Downstairs.lookup_register] at found
    split_ifs at found with same
    · cases found
      exact same.symm
    · exact inv.keyed uuid entry found
  owned := by
    intro uuid entry found
    rw [Downstairs.lookup_register] at found
    split_ifs at found
    · cases found
      exact Work.owned_new c _
    · exact inv.owned uuid entry found

theorem logRegion (inv : RegistryInv ds) (c : UpstairsConnection) (call : RegionCall) :
    RegistryInv (ds.logRegion c call) :=
  ⟨inv.single, inv.keyed, inv.owned⟩

theorem promoteToActive (inv : RegistryInv ds) (c : UpstairsConnection) (tx : Nat)
    (reopenReply : Except CrucibleError Unit) :
    RegistryInv (ds.promoteToActive c tx reopenReply).1 := by
  unfold Downstairs.promoteToActive
  split
  · split <;> exact inv.register c tx (by simp_all)
  · split
    · next vacant =>
        exact (inv.register c tx fun _ => by simp [AList.keys, List.keys, vacant]).logRegion _ _
    · next uuid current only =>
        split
        · exact inv
        · have keys : ds.activeUpstairs.keys = [uuid] := by simp [AList.keys, List.keys, only]
          exact ((inv.erase uuid).register c tx fun _ => by
            simp [AList.keys_erase, keys]).logRegion _ _
    · exact inv

theorem clearActive (inv : RegistryInv ds) (c : UpstairsConnection) :
    RegistryInv (ds.clearActive c).1 := by
  unfold Downstairs.clearActive
  cases lock : ds.workLock c with
  | error => exact inv
  | ok entry =>
      obtain ⟨found, rfl⟩ := Downstairs.workLock_eq_ok.mp lock
      exact (inv.setWork found (by simp [Work.Owned])).erase _

/-- Every call keeps the registry invariant. -/
theorem apply (inv : RegistryInv ds) (op : DsOp) : RegistryInv (op.apply ds) := by
  cases op with
  | promoteToActive c tx reopenReply => exact inv.promoteToActive c tx reopenReply
  | clearActive c => exact inv.clearActive c
  | addWork c dsId work =>
      simp only [DsOp.apply, Downstairs.addWork]
      split_ifs with refused
      · exact inv
      · exact inv.withWork fun queue owned => owned.addWork fun readOnly => by
          simpa [readOnly] using refused
  | inProgress c dsId =>
      exact inv.withWork fun queue owned => owned.inProgress dsId
  | doWork c jobId injectError readReply writeReply =>
      obtain ⟨same, sameMode, -⟩ :=
        Downstairs.doWork_activeUpstairs ds c jobId injectError readReply writeReply
      simp only [DsOp.apply]
      exact ⟨fun readWrite => same ▸ inv.single (sameMode ▸ readWrite),
        fun uuid entry found => inv.keyed uuid entry (same ▸ found),
        fun uuid entry found => sameMode ▸ inv.owned uuid entry (same ▸ found)⟩
  | completeWork c dsId m =>
      exact inv.withWork fun queue owned => owned.completeWork dsId _
  | setLastFlush c lastFlushNumber =>
      exact inv.withWork fun queue owned => owned

end RegistryInv

namespace RegistryInv

variable {ds : Downstairs}

/-- `new_work` never finds a job of another connection. -/
theorem newWork_ne (inv : RegistryInv ds) (c : UpstairsConnection) :
    (ds.newWork c).2 ≠ .error (.panic .oldUpstairsJobInNewWork) := by
  unfold Downstairs.newWork
  cases lock : ds.workLock c with
  | error fault =>
      rw [Downstairs.workLock_eq_error lock]
      simp [upstairsInactive]
  | ok entry =>
      obtain ⟨found, rfl⟩ := Downstairs.workLock_eq_ok.mp lock
      obtain ⟨ids, listed⟩ := (inv.owned _ entry found).newWork_ok
      simp [listed]

/-- The job `in_progress` starts is always owned by an active connection. -/
theorem inProgress_ne (inv : RegistryInv ds) (c : UpstairsConnection) (dsId : Nat) :
    (ds.inProgress c dsId).2 ≠ .error (.panic .nonActiveConnectionJob) := by
  unfold Downstairs.inProgress Downstairs.withWork
  cases lock : ds.workLock c with
  | error fault =>
      rw [Downstairs.workLock_eq_error lock]
      simp [upstairsInactive]
  | ok entry =>
      obtain ⟨found, rfl⟩ := Downstairs.workLock_eq_ok.mp lock
      cases returned : (entry.work.inProgress dsId).2 with
      | none => simp [returned]
      | some started =>
          obtain ⟨job, jobFound, -, owner⟩ := Work.inProgress_returned returned
          have mine := ((inv.owned _ entry found) dsId job jobFound).2.1
          simp [returned, owner, mine, Downstairs.isActive_setWork]

/-- A read-write promotion never finds more than one active upstairs. -/
theorem promoteToActive_ne (inv : RegistryInv ds) (c : UpstairsConnection) (tx : Nat)
    (reopenReply : Except CrucibleError Unit) :
    (ds.promoteToActive c tx reopenReply).2.1 ≠ .error (.panic .moreThanOneActiveUpstairs) := by
  unfold Downstairs.promoteToActive
  split
  · split <;> simp
  · next readWrite =>
      have bound := inv.single (by simpa using readWrite)
      simp only [AList.keys, List.keys, List.length_map] at bound
      split
      · cases reopenReply <;> simp [Downstairs.reopenAllExtents]
      · split
        · next fault checked =>
            obtain ⟨error, rfl⟩ := Downstairs.takeoverCheck_eq_error checked
            simp
        · cases reopenReply <;> simp [Downstairs.reopenAllExtents]
      · next notEmpty notSingle =>
          rcases entries : ds.activeUpstairs.entries with _ | ⟨⟨uuid, current⟩, _ | ⟨_, _⟩⟩
          · exact absurd entries notEmpty
          · exact absurd entries (notSingle uuid current)
          · simp [entries] at bound

/-- The id assertion of `get_ready_job` never fails in `do_work`. -/
theorem doWork_ne (inv : RegistryInv ds) (c : UpstairsConnection) (jobId : Nat)
    (injectError : Bool) (readReply : Except CrucibleError (List ReadResponse))
    (writeReply : Except CrucibleError Unit) :
    (ds.doWork c jobId injectError readReply writeReply).2 ≠
      .error (.panic .readyJobIdMismatch) := by
  unfold Downstairs.doWork
  cases lock : ds.workLock c with
  | error fault =>
      rw [Downstairs.workLock_eq_error lock]
      simp [upstairsInactive]
  | ok entry =>
      obtain ⟨found, rfl⟩ := Downstairs.workLock_eq_ok.mp lock
      have never := (inv.owned _ entry found).getReadyJob_ne jobId
      simp only
      split
      · next site failed =>
          simp only [ne_eq, Except.error.injEq, Fault.panic.injEq]
          rintro rfl
          exact never failed
      · simp
      · split <;> simp

end RegistryInv

/-- The registry invariant holds in every reachable state. -/
theorem registryInv_of_reachable {ds : Downstairs} (reach : DsReachable ds) :
    RegistryInv ds := by
  induction reach with
  | new readOnly encrypted returnErrors repairAddress =>
      exact RegistryInv.new readOnly encrypted returnErrors repairAddress
  | step op _ inv => exact inv.apply op

/--
In every reachable state the registry invariant holds: at most one entry on a
read-write region, every entry under its own upstairs id, every queued job under
its own id and owned by its entry's connection, and no write queued on a
read-only region.  Hence `new_work`, `Downstairs::in_progress`,
`promote_to_active` and the id assertion of `get_ready_job` never panic.
-/
theorem registry_invariant {ds : Downstairs} (reach : DsReachable ds) :
    RegistryInv ds ∧
    (∀ c, (ds.newWork c).2 ≠ .error (.panic .oldUpstairsJobInNewWork)) ∧
    (∀ c dsId, (ds.inProgress c dsId).2 ≠ .error (.panic .nonActiveConnectionJob)) ∧
    (∀ c tx reopenReply,
      (ds.promoteToActive c tx reopenReply).2.1 ≠ .error (.panic .moreThanOneActiveUpstairs)) ∧
    (∀ c jobId injectError readReply writeReply,
      (ds.doWork c jobId injectError readReply writeReply).2 ≠
        .error (.panic .readyJobIdMismatch)) :=
  have inv := registryInv_of_reachable reach
  ⟨inv, inv.newWork_ne, inv.inProgress_ne, inv.promoteToActive_ne, inv.doWork_ne⟩

/-- A read-write downstairs after one promotion and one queued write. -/
def promotedSample : Downstairs :=
  (DsOp.addWork ⟨1, 1, 1⟩ 1000 (.write [] [])).apply
    ((DsOp.promoteToActive ⟨1, 1, 1⟩ 0 (.ok ())).apply (Downstairs.new false false false 0))

/-- The registry invariant at a reachable state with a queued job. -/
theorem registry_invariant_promotedSample :
    RegistryInv promotedSample ∧
    (∀ c, (promotedSample.newWork c).2 ≠ .error (.panic .oldUpstairsJobInNewWork)) ∧
    (∀ c dsId, (promotedSample.inProgress c dsId).2 ≠ .error (.panic .nonActiveConnectionJob)) ∧
    (∀ c tx reopenReply, (promotedSample.promoteToActive c tx reopenReply).2.1 ≠
      .error (.panic .moreThanOneActiveUpstairs)) ∧
    (∀ c jobId injectError readReply writeReply,
      (promotedSample.doWork c jobId injectError readReply writeReply).2 ≠
        .error (.panic .readyJobIdMismatch)) :=
  registry_invariant (.step _ (.step _ (.new false false false 0)))

end CrucibleDownstairs
