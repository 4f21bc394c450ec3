import CrucibleDownstairs.Registry

namespace CrucibleDownstairs

/-!
# Fencing by generation, and isolation of sessions

On a read-write region the registered connection is only ever replaced by the
same connection or by one with a strictly higher generation, so along any stretch
of a run in which the registry is never empty the generation only grows.  Every
call a connection task makes for a connection reaches the registry only through
the work lock: for a connection that is not the registered one it fails and
changes nothing, and otherwise it changes only that connection's entry.
-/

namespace Downstairs

/-- A connection is registered exactly when some entry holds it. -/
theorem mem_activeConnections {ds : Downstairs} {c : UpstairsConnection} :
    c ∈ ds.activeConnections ↔
      ∃ uuid entry, ds.activeUpstairs.lookup uuid = some entry ∧
        entry.upstairsConnection = c := by
  simp only [activeConnections, List.mem_map, Sigma.exists]
  constructor
  · rintro ⟨uuid, entry, member, rfl⟩
    exact ⟨uuid, entry, AList.mem_lookup_iff.mpr member, rfl⟩
  · rintro ⟨uuid, entry, found, rfl⟩
    exact ⟨uuid, entry, AList.mem_lookup_iff.mp found, rfl⟩

/-- Storing a queue registers no new connection. -/
theorem mem_activeConnections_setWork {ds : Downstairs} {entry : ActiveUpstairs}
    {work : Work} {c : UpstairsConnection}
    (found : ds.activeUpstairs.lookup entry.upstairsConnection.upstairsId = some entry)
    (registered : c ∈ (ds.setWork entry work).activeConnections) : c ∈ ds.activeConnections := by
  obtain ⟨uuid, other, otherFound, rfl⟩ := mem_activeConnections.mp registered
  rw [lookup_setWork] at otherFound
  split_ifs at otherFound
  · cases otherFound
    exact mem_activeConnections.mpr ⟨_, entry, found, rfl⟩
  · exact mem_activeConnections.mpr ⟨uuid, other, otherFound, rfl⟩

/-- Queue operations register no new connection. -/
theorem mem_activeConnections_withWork {ds : Downstairs} {c owner : UpstairsConnection}
    {operation : Work → Work × α}
    (registered : c ∈ (ds.withWork owner operation).1.activeConnections) :
    c ∈ ds.activeConnections := by
  unfold withWork at registered
  split at registered
  · exact registered
  · next entry lock =>
      obtain ⟨found, rfl⟩ := workLock_eq_ok.mp lock
      exact mem_activeConnections_setWork found registered

/-- An allowed takeover is by the same connection or a higher generation. -/
theorem takeoverCheck_eq_ok {current requested : UpstairsConnection}
    (checked : takeoverCheck current requested = .ok ()) :
    requested = current ∨ current.gen < requested.gen := by
  unfold takeoverCheck at checked
  split at checked
  · cases checked
  · next equal =>
      split at checked
      · cases checked
      · next same => exact .inl (not_not.mp same).symm
  · next greater => exact .inr (compare_gt_iff_gt.mp greater)

/--
Whether `promote_to_active` of `c` gets past its checks and registers `c`: always on
a read-only downstairs; on a read-write one when no upstairs is active, or when the
one active upstairs passes the takeover check.
-/
def promotionRegisters (ds : Downstairs) (c : UpstairsConnection) : Bool :=
  ds.readOnly || match ds.activeUpstairs.entries with
    | [] => true
    | [⟨_, current⟩] => (takeoverCheck current.upstairsConnection c).isOk
    | _ => false

/-- A promotion refused by its checks changes nothing. -/
theorem promoteToActive_of_refused {ds : Downstairs} {c : UpstairsConnection} {tx : Nat}
    {reopenReply : Except CrucibleError Unit} (refused : ds.promotionRegisters c = false) :
    (ds.promoteToActive c tx reopenReply).1 = ds := by
  rw [promotionRegisters, Bool.or_eq_false_iff] at refused
  obtain ⟨readWrite, refused⟩ := refused
  rw [promoteToActive, if_neg (by simp [readWrite])]
  split
  · next empty => simp [empty] at refused
  · next uuid current single =>
      simp only [single] at refused
      split
      · rfl
      · next checked => simp [checked, Except.isOk, Except.toBool] at refused
  · rfl

end Downstairs

namespace DsOp

/-- No call changes whether the region is read-only or encrypted. -/
theorem apply_flags (op : DsOp) (ds : Downstairs) :
    (op.apply ds).readOnly = ds.readOnly ∧ (op.apply ds).encrypted = ds.encrypted := by
  cases op with
  | promoteToActive c tx reopenReply =>
      simp only [apply, Downstairs.promoteToActive]
      split
      · split <;> exact ⟨rfl, rfl⟩
      · split
        · exact ⟨rfl, rfl⟩
        · split <;> exact ⟨rfl, rfl⟩
        · exact ⟨rfl, rfl⟩
  | clearActive c =>
      simp only [apply, Downstairs.clearActive]
      split <;> exact ⟨rfl, rfl⟩
  | addWork c dsId work =>
      simp only [apply, Downstairs.addWork]
      split_ifs
      · exact ⟨rfl, rfl⟩
      · exact ⟨Downstairs.withWork_readOnly, Downstairs.withWork_encrypted⟩
  | inProgress c dsId => exact ⟨Downstairs.withWork_readOnly, Downstairs.withWork_encrypted⟩
  | doWork c jobId injectError readReply writeReply =>
      exact (Downstairs.doWork_activeUpstairs ds c jobId injectError readReply writeReply).2
  | completeWork c dsId m => exact ⟨Downstairs.withWork_readOnly, Downstairs.withWork_encrypted⟩
  | setLastFlush c lastFlushNumber =>
      exact ⟨Downstairs.withWork_readOnly, Downstairs.withWork_encrypted⟩

end DsOp

namespace RegistryInv

variable {ds : Downstairs}

/-- On a read-write region all registered connections are one. -/
theorem registered_unique (inv : RegistryInv ds) (readWrite : ds.readOnly = false)
    {first second : UpstairsConnection} (firstRegistered : first ∈ ds.activeConnections)
    (secondRegistered : second ∈ ds.activeConnections) : first = second := by
  have bound := inv.single readWrite
  simp only [AList.keys, List.keys, List.length_map] at bound
  simp only [Downstairs.activeConnections] at firstRegistered secondRegistered
  rcases entries : ds.activeUpstairs.entries with _ | ⟨only, _ | ⟨_, _⟩⟩
  · simp [entries] at firstRegistered
  · simp only [entries, List.map_cons, List.map_nil, List.mem_singleton] at *
    rw [firstRegistered, secondRegistered]
  · simp [entries] at bound

/--
One call on a read-write region either keeps the registered connection or
replaces it by one with a strictly higher generation.
-/
theorem registered_step (inv : RegistryInv ds) (readWrite : ds.readOnly = false) (op : DsOp)
    {current next : UpstairsConnection} (registered : current ∈ ds.activeConnections)
    (registeredAfter : next ∈ (op.apply ds).activeConnections) :
    next = current ∨ current.gen < next.gen := by
  have kept : next ∈ ds.activeConnections → next = current ∨ current.gen < next.gen :=
    fun old => .inl (inv.registered_unique readWrite old registered)
  cases op with
  | promoteToActive c tx reopenReply =>
      simp only [DsOp.apply] at registeredAfter
      unfold Downstairs.promoteToActive at registeredAfter
      simp only [readWrite, Bool.false_eq_true, ↓reduceIte] at registeredAfter
      split at registeredAfter
      · next vacant =>
          simp [Downstairs.activeConnections, vacant] at registered
      · next uuid entry only =>
          split at registeredAfter
          · exact kept registeredAfter
          · next checked =>
              obtain ⟨other, otherEntry, otherFound, rfl⟩ :=
                Downstairs.mem_activeConnections.mp registeredAfter
              simp only [Downstairs.reopenAllExtents_activeUpstairs] at otherFound
              rw [Downstairs.lookup_register] at otherFound
              split_ifs at otherFound with same
              · cases otherFound
                have isCurrent : current = entry.upstairsConnection := by
                  simpa [Downstairs.activeConnections, only] using registered
                exact isCurrent ▸ Downstairs.takeoverCheck_eq_ok checked
              · have erased : (ds.activeUpstairs.erase uuid).lookup other = none := by
                  rw [AList.lookup_eq_none, AList.mem_erase, AList.mem_keys]
                  simp [AList.keys, List.keys, only]
                simp [erased] at otherFound
      · exact kept registeredAfter
  | clearActive c =>
      simp only [DsOp.apply] at registeredAfter
      unfold Downstairs.clearActive at registeredAfter
      split at registeredAfter
      · exact kept registeredAfter
      · next entry lock =>
          obtain ⟨found, rfl⟩ := Downstairs.workLock_eq_ok.mp lock
          obtain ⟨uuid, other, otherFound, rfl⟩ :=
            Downstairs.mem_activeConnections.mp registeredAfter
          by_cases same : uuid = entry.upstairsConnection.upstairsId
          · rw [same] at otherFound
            simp [AList.lookup_erase] at otherFound
          · rw [AList.lookup_erase_ne same] at otherFound
            exact kept (Downstairs.mem_activeConnections_setWork found
              (Downstairs.mem_activeConnections.mpr ⟨uuid, other, otherFound, rfl⟩))
  | addWork c dsId work =>
      simp only [DsOp.apply] at registeredAfter
      unfold Downstairs.addWork at registeredAfter
      split_ifs at registeredAfter
      · exact kept registeredAfter
      · exact kept (Downstairs.mem_activeConnections_withWork registeredAfter)
  | inProgress c dsId =>
      exact kept (Downstairs.mem_activeConnections_withWork registeredAfter)
  | doWork c jobId injectError readReply writeReply =>
      have same := (Downstairs.doWork_activeUpstairs ds c jobId injectError readReply writeReply).1
      exact kept (by simpa [DsOp.apply, Downstairs.activeConnections, same] using registeredAfter)
  | completeWork c dsId m =>
      exact kept (Downstairs.mem_activeConnections_withWork registeredAfter)
  | setLastFlush c lastFlushNumber =>
      exact kept (Downstairs.mem_activeConnections_withWork registeredAfter)

end RegistryInv

/-- Generations never go down along a run that never empties the registry. -/
theorem registered_run {ds : Downstairs} (reach : DsReachable ds)
    (readWrite : ds.readOnly = false) (ops : List DsOp)
    (occupied : ∀ k ≤ ops.length, (DsOp.run (ops.take k) ds).activeConnections ≠ [])
    {current next : UpstairsConnection} (registered : current ∈ ds.activeConnections)
    (registeredAfter : next ∈ (DsOp.run ops ds).activeConnections) :
    next = current ∨ current.gen < next.gen := by
  induction ops generalizing ds current with
  | nil =>
      exact .inl ((registryInv_of_reachable reach).registered_unique readWrite
        registeredAfter registered)
  | cons op rest inductionHypothesis =>
      obtain ⟨middle, middleRegistered⟩ :=
        List.exists_mem_of_ne_nil _ (occupied 1 (by simp))
      have step := (registryInv_of_reachable reach).registered_step readWrite op registered
        middleRegistered
      have later := inductionHypothesis (reach.step op)
        ((DsOp.apply_flags op ds).1.trans readWrite)
        (fun k bound => occupied (k + 1) (by simpa using bound)) middleRegistered
        registeredAfter
      rcases step with rfl | rising <;> rcases later with rfl | risingLater
      · exact .inl rfl
      · exact .inr risingLater
      · exact .inr rising
      · exact .inr (rising.trans risingLater)

/--
On a read-write region, along any stretch of a run in which the registry is never
empty, the registered connection at the end is the one at the start or has a
strictly higher generation; and while a connection is registered, a promotion
succeeds only for that same connection or for a strictly higher generation.
-/
theorem registered_gen_increases {ds : Downstairs} (reach : DsReachable ds)
    (readWrite : ds.readOnly = false) :
    (∀ ops : List DsOp,
      (∀ k ≤ ops.length, (DsOp.run (ops.take k) ds).activeConnections ≠ []) →
      ∀ current ∈ ds.activeConnections, ∀ next ∈ (DsOp.run ops ds).activeConnections,
        next = current ∨ current.gen < next.gen) ∧
    (∀ current ∈ ds.activeConnections, ∀ c tx reopenReply,
      (ds.promoteToActive c tx reopenReply).2.1 = .ok () →
        c = current ∨ current.gen < c.gen) := by
  refine ⟨fun ops occupied current registered next registeredAfter =>
    registered_run reach readWrite ops occupied registered registeredAfter, ?_⟩
  intro current registered c tx reopenReply succeeded
  unfold Downstairs.promoteToActive at succeeded
  simp only [readWrite, Bool.false_eq_true, ↓reduceIte] at succeeded
  split at succeeded
  · next vacant =>
      simp [Downstairs.activeConnections, vacant] at registered
  · next uuid entry only =>
      have isCurrent : current = entry.upstairsConnection := by
        simpa [Downstairs.activeConnections, only] using registered
      split at succeeded
      · cases succeeded
      · next checked => exact isCurrent ▸ Downstairs.takeoverCheck_eq_ok checked
  · cases succeeded

/-- The fencing statement at a read-write downstairs with one active upstairs. -/
theorem registered_gen_increases_promotedSample :
    (∀ ops : List DsOp,
      (∀ k ≤ ops.length, (DsOp.run (ops.take k) promotedSample).activeConnections ≠ []) →
      ∀ current ∈ promotedSample.activeConnections,
      ∀ next ∈ (DsOp.run ops promotedSample).activeConnections,
        next = current ∨ current.gen < next.gen) ∧
    (∀ current ∈ promotedSample.activeConnections, ∀ c tx reopenReply,
      (promotedSample.promoteToActive c tx reopenReply).2.1 = .ok () →
        c = current ∨ current.gen < c.gen) :=
  registered_gen_increases (.step _ (.step _ (.new false false false 0))) rfl

/-! ## Calls made with a connection -/

/-- A call a connection task makes on the downstairs with its own connection. -/
inductive WorkCall where
  | jobs
  | newWork
  | addWork (dsId : Nat) (work : IOop)
  | inProgress (dsId : Nat)
  | doWork (jobId : Nat) (injectError : Bool)
      (readReply : Except CrucibleError (List ReadResponse))
      (writeReply : Except CrucibleError Unit)
  | completeWork (dsId : Nat) (m : Message)
  | clearActive

namespace WorkCall

/-- Make the call with connection `c`, keeping the new state and whether it failed. -/
def run : WorkCall → Downstairs → UpstairsConnection → Downstairs × Except Fault Unit
  | .jobs, ds, c => (ds, (ds.jobs c).map fun _ => ())
  | .newWork, ds, c => ((ds.newWork c).1, (ds.newWork c).2.map fun _ => ())
  | .addWork dsId work, ds, c => ds.addWork c dsId work
  | .inProgress dsId, ds, c => ((ds.inProgress c dsId).1, (ds.inProgress c dsId).2.map fun _ => ())
  | .doWork jobId injectError readReply writeReply, ds, c =>
      ((ds.doWork c jobId injectError readReply writeReply).1,
        (ds.doWork c jobId injectError readReply writeReply).2.map fun _ => ())
  | .completeWork dsId m, ds, c => ds.completeWork c dsId m
  | .clearActive, ds, c => ds.clearActive c

/--
The error of a call for a connection that is not the registered one: the
read-only check of `add_work` comes before the work lock.
-/
def refusal : WorkCall → Downstairs → Fault
  | .addWork _ work, ds =>
      if ds.readOnly ∧ work.isWrite then .error (.crucible .modifyingReadOnlyRegion)
      else upstairsInactive
  | _, _ => upstairsInactive

/-- A call for an inactive connection fails with its refusal and changes nothing. -/
theorem run_of_inactive {ds : Downstairs} {c : UpstairsConnection}
    (inactive : ds.isActive c = false) (call : WorkCall) :
    call.run ds c = (ds, .error (call.refusal ds)) := by
  have lock := Downstairs.workLock_of_isActive_false inactive
  cases call with
  | addWork dsId work =>
      simp only [run, refusal, Downstairs.addWork]
      split_ifs
      · rfl
      · simp [Downstairs.withWork, lock]
  | inProgress dsId =>
      simp [run, refusal, Downstairs.inProgress, Downstairs.withWork, lock, Except.map]
  | _ =>
      simp [run, refusal, Downstairs.jobs, Downstairs.newWork, Downstairs.doWork,
        Downstairs.completeWork, Downstairs.clearActive, Downstairs.withWork, lock, Except.map]

/--
The registry after a call: unchanged, or the caller's entry with a new queue, or,
after `clear_active`, without the caller's entry.
-/
theorem lookup_run (call : WorkCall) (ds : Downstairs) (c : UpstairsConnection) (uuid : Uuid) :
    (call.run ds c).1.activeUpstairs.lookup uuid = ds.activeUpstairs.lookup uuid ∨
      uuid = c.upstairsId ∧ ((call.run ds c).1.activeUpstairs.lookup uuid = none ∨
        ∃ entry work, ds.activeUpstairs.lookup uuid = some entry ∧
          (call.run ds c).1.activeUpstairs.lookup uuid = some { entry with work := work }) := by
  have viaWork : ∀ {α} (operation : Work → Work × α),
      (ds.withWork c operation).1.activeUpstairs.lookup uuid = ds.activeUpstairs.lookup uuid ∨
        uuid = c.upstairsId ∧ ((ds.withWork c operation).1.activeUpstairs.lookup uuid = none ∨
          ∃ entry work, ds.activeUpstairs.lookup uuid = some entry ∧
            (ds.withWork c operation).1.activeUpstairs.lookup uuid =
              some { entry with work := work }) := by
    intro α operation
    unfold Downstairs.withWork
    split
    · exact .inl rfl
    · next entry lock =>
        obtain ⟨found, rfl⟩ := Downstairs.workLock_eq_ok.mp lock
        rw [Downstairs.lookup_setWork]
        split_ifs with same
        · exact .inr ⟨same, .inr ⟨entry, _, same ▸ found, rfl⟩⟩
        · exact .inl rfl
  cases call with
  | jobs => exact .inl rfl
  | newWork =>
      left
      simp only [run, Downstairs.newWork]
      split
      · rfl
      · split <;> rfl
  | addWork dsId work =>
      simp only [run, Downstairs.addWork]
      split_ifs
      · exact .inl rfl
      · exact viaWork _
  | inProgress dsId => exact viaWork _
  | doWork jobId injectError readReply writeReply =>
      left
      simp only [run]
      rw [(Downstairs.doWork_activeUpstairs ds c jobId injectError readReply writeReply).1]
  | completeWork dsId m => exact viaWork _
  | clearActive =>
      simp only [run, Downstairs.clearActive]
      split
      · exact .inl rfl
      · next entry lock =>
          obtain ⟨found, rfl⟩ := Downstairs.workLock_eq_ok.mp lock
          by_cases same : uuid = entry.upstairsConnection.upstairsId
          · rw [same]
            exact .inr ⟨rfl, .inl (AList.lookup_erase _ _)⟩
          · left
            simp only
            rw [AList.lookup_erase_ne same, Downstairs.lookup_setWork, if_neg same]

/-- A call changes no connection's activity, except `clear_active` removing its own. -/
theorem isActive_run_le (call : WorkCall) (ds : Downstairs) (c other : UpstairsConnection)
    (active : (call.run ds c).1.isActive other = true) : ds.isActive other = true := by
  obtain ⟨entry, found, rfl⟩ := Downstairs.isActive_eq_true.mp active
  rcases lookup_run call ds c entry.upstairsConnection.upstairsId with same | ⟨-, gone | ⟨old, work, oldFound, replaced⟩⟩
  · exact Downstairs.isActive_eq_true.mpr ⟨entry, same ▸ found, rfl⟩
  · simp [gone] at found
  · rw [replaced] at found
    cases found
    exact Downstairs.isActive_eq_true.mpr ⟨old, oldFound, rfl⟩

end WorkCall

namespace DsOp

/-- The call is a promotion of exactly this connection. -/
def Promotes : DsOp → UpstairsConnection → Prop
  | .promoteToActive promoted _ _, c => promoted = c
  | _, _ => False

/-- Only a promotion of the connection itself can make an inactive connection active. -/
theorem isActive_apply_le {op : DsOp} {ds : Downstairs} {c : UpstairsConnection}
    (other : ¬ op.Promotes c) (active : (op.apply ds).isActive c = true) :
    ds.isActive c = true := by
  cases op with
  | promoteToActive promoted tx reopenReply =>
      simp only [Promotes] at other
      simp only [apply, Downstairs.promoteToActive] at active
      split at active
      · split at active <;> exact Downstairs.isActive_register_of_ne tx other active
      · split at active
        · exact Downstairs.isActive_register_of_ne tx other active
        · split at active
          · exact active
          · exact Downstairs.isActive_of_erase (Downstairs.isActive_register_of_ne tx other active)
        · exact active
  | clearActive owner => exact WorkCall.isActive_run_le .clearActive ds owner c active
  | addWork owner dsId work => exact WorkCall.isActive_run_le (.addWork dsId work) ds owner c active
  | inProgress owner dsId => exact WorkCall.isActive_run_le (.inProgress dsId) ds owner c active
  | doWork owner jobId injectError readReply writeReply =>
      exact WorkCall.isActive_run_le (.doWork jobId injectError readReply writeReply) ds owner c
        active
  | completeWork owner dsId m =>
      exact WorkCall.isActive_run_le (.completeWork dsId m) ds owner c active
  | setLastFlush owner lastFlushNumber =>
      rw [apply, Downstairs.setLastFlush, Downstairs.isActive_withWork] at active
      exact active

/-- Whether the call is a promotion of `c` that gets past its checks. -/
def registers : DsOp → Downstairs → UpstairsConnection → Bool
  | .promoteToActive promoted _ _, ds, c => decide (promoted = c) && ds.promotionRegisters c
  | _, _, _ => false

/-- Whether some call of the run registers `c`, each at the state it is made in. -/
def registersAlong (c : UpstairsConnection) : List DsOp → Downstairs → Bool
  | [], _ => false
  | op :: ops, ds => op.registers ds c || registersAlong c ops (op.apply ds)

/-- A call that does not register an inactive connection leaves it inactive. -/
theorem isActive_apply_of_unregistered {op : DsOp} {ds : Downstairs} {c : UpstairsConnection}
    (inactive : ds.isActive c = false) (unregistered : op.registers ds c = false) :
    (op.apply ds).isActive c = false := by
  by_cases promotes : op.Promotes c
  case pos =>
    obtain ⟨promoted, tx, reopenReply⟩ := op
    all_goals simp only [Promotes] at promotes
    subst promotes
    simp only [registers, decide_True, Bool.true_and] at unregistered
    rw [apply, Downstairs.promoteToActive_of_refused unregistered]
    exact inactive
  case neg =>
    cases active : (op.apply ds).isActive c
    · rfl
    · simp [isActive_apply_le promotes active] at inactive

/-- An inactive connection stays inactive along every run in which no call registers it. -/
theorem isActive_run_of_unregistered {c : UpstairsConnection} (ops : List DsOp) :
    ∀ {ds : Downstairs}, ds.isActive c = false → registersAlong c ops ds = false →
      (run ops ds).isActive c = false := by
  induction ops with
  | nil => exact fun inactive _ => inactive
  | cons op rest step =>
      intro ds inactive unregistered
      rw [registersAlong, Bool.or_eq_false_iff] at unregistered
      exact step (isActive_apply_of_unregistered inactive unregistered.1) unregistered.2

end DsOp

/-- Session `1` at generation `1`, evicted by the takeover of session `2` at generation `2`. -/
def evictedSample : Downstairs :=
  (DsOp.promoteToActive ⟨1, 2, 2⟩ 1 (.ok ())).apply
    ((DsOp.promoteToActive ⟨1, 1, 1⟩ 0 (.ok ())).apply (Downstairs.new false false false 0))

/-- A read-write promotion on an empty registry whose extents fail to reopen. -/
def failedPromotion : Downstairs × Except Fault Unit × Option (Nat × UpstairsConnection) :=
  (Downstairs.new false false false 0).promoteToActive ⟨1, 1, 1⟩ 0 (.error (.ioError 5))

/-- A read-write takeover from session `1` whose extents fail to reopen. -/
def failedTakeover : Downstairs × Except Fault Unit × Option (Nat × UpstairsConnection) :=
  ((Downstairs.new false false false 0).register ⟨1, 1, 1⟩ 0).promoteToActive ⟨1, 2, 2⟩ 1
    (.error (.ioError 5))

/--
A read-write promotion whose `reopen_all_extents` fails returns `Err` after
registering the connection; when it takes over from an incumbent it has also
signalled the incumbent and dropped its entry.
-/
theorem promoteToActive_error_changes_registry :
    failedPromotion.2.1 = .error (.error (.crucible (.ioError 5))) ∧
      (Downstairs.new false false false 0).activeConnections = [] ∧
      failedPromotion.1.activeConnections = [⟨1, 1, 1⟩] ∧
    failedTakeover.2.1 = .error (.error (.crucible (.ioError 5))) ∧
      ((Downstairs.new false false false 0).register ⟨1, 1, 1⟩ 0).activeConnections =
        [⟨1, 1, 1⟩] ∧
      failedTakeover.2.2 = some (0, ⟨1, 2, 2⟩) ∧
      failedTakeover.1.activeConnections = [⟨1, 2, 2⟩] := by
  decide

end CrucibleDownstairs
