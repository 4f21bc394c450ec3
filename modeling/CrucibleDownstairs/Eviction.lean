import CrucibleDownstairs.Acks

namespace CrucibleDownstairs

/-!
# Eviction notices

When a promotion takes over from a registered connection, `promote_to_active`
sends the promoted `UpstairsConnection` on the evicted connection's terminate
channel, and the evicted `proc` or `resp_loop` passes it on to its upstairs as
`YouAreNoLongerActive` before returning.  The notice is all the old upstairs
learns of the takeover.

Every notice a connection writes comes after the `YouAreNowActive` with which the
same connection reported its own promotion, and names a connection that was
allowed to take over from that promotion: on a read-write region the same triple
or a strictly greater generation, on a read-only region the same upstairs id.  No
frame written after a notice is another notice.

A registered entry's connection is the one its channel's `proc` reported in
`YouAreNowActive`, as long as that `proc` runs; a signal is sent only to such an
entry, with a connection `takeover_check` (or, read-only, the shared upstairs id)
allowed; and the notice is written from the signal.
-/

/--
The takeovers `promote_to_active` allows of `evicting` over `evicted`: on a
read-only region the same upstairs id; on a read-write region the same triple, or
a strictly greater generation.
-/
def Supersedes : Bool → UpstairsConnection → UpstairsConnection → Prop
  | true, evicted, evicting => evicting.upstairsId = evicted.upstairsId
  | false, evicted, evicting => evicting = evicted ∨ evicted.gen < evicting.gen

instance : ∀ readOnly evicted evicting, Decidable (Supersedes readOnly evicted evicting)
  | true, _, _ => inferInstanceAs (Decidable (_ = _))
  | false, _, _ => inferInstanceAs (Decidable (_ ∨ _))

/-- Whether a frame is the `YouAreNoLongerActive` notice. -/
def Message.isNotice : Message → Bool
  | .youAreNoLongerActive .. => true
  | _ => false

/-- An ack is no notice. -/
theorem Message.isNotice_of_ackSession {m : Message} {ids : Uuid × Uuid}
    (ack : m.ackSession = some ids) : m.isNotice = false := by
  cases m <;> first | rfl | cases ack

/-- The ack the connection's worker holds between `do_work` and writing it. -/
def Connection.heldAck (conn : Connection) : Option Message :=
  conn.spawned.bind (·.worker.pendingAck)

/-! ## Promotions -/

namespace Downstairs

/-- After a promotion every entry is the promoted connection's fresh entry or was there before. -/
theorem promoteToActive_entry {ds : Downstairs} {c : UpstairsConnection} {tx : Nat}
    {reply : Except CrucibleError Unit} {uuid : Uuid} {entry' : ActiveUpstairs}
    (found : (ds.promoteToActive c tx reply).1.activeUpstairs.lookup uuid = some entry') :
    entry' = freshEntry c tx ∨ ds.activeUpstairs.lookup uuid = some entry' := by
  rcases promoteToActive_cases ds c tx reply with ⟨same, -⟩ | ⟨same, -⟩ | ⟨old, current, -, same, -⟩
  · exact .inr (same ▸ found)
  · rw [same, lookup_register] at found
    split_ifs at found
    · exact .inl (Option.some.inj found).symm
    · exact .inr found
  · rw [same, lookup_register] at found
    split_ifs at found
    · exact .inl (Option.some.inj found).symm
    · by_cases dropped : uuid = old
      · rw [dropped, AList.lookup_erase] at found
        cases found
      · rw [AList.lookup_erase_ne dropped] at found
        exact .inr found

/-- A promotion sends the promoted connection to the channel of an entry it may take over from. -/
theorem promoteToActive_signal_supersedes {ds : Downstairs} (inv : RegistryInv ds)
    {c : UpstairsConnection} {tx target : Nat} {reply : Except CrucibleError Unit}
    {message : UpstairsConnection}
    (signalled : (ds.promoteToActive c tx reply).2.2 = some (target, message)) :
    message = c ∧ ∃ uuid entry, ds.activeUpstairs.lookup uuid = some entry ∧
      entry.terminateSender = target ∧ Supersedes ds.readOnly entry.upstairsConnection c := by
  unfold promoteToActive at signalled
  split at signalled
  · next readOnly =>
      split at signalled
      · next entry found =>
          cases signalled
          refine ⟨rfl, _, entry, found, rfl, ?_⟩
          rw [readOnly]
          exact (inv.keyed _ _ found).symm
      · cases signalled
  · next readWrite =>
      split at signalled
      · cases signalled
      · next uuid current only =>
          split at signalled
          · cases signalled
          · next checked =>
              cases signalled
              refine ⟨rfl, uuid, current, by simp [lookup_of_entries_eq_singleton only], rfl, ?_⟩
              rw [Bool.not_eq_true] at readWrite
              rw [readWrite]
              exact takeoverCheck_eq_ok checked
      · cases signalled

end Downstairs

/-! ## Frames written by a turn -/

/-- None of `proc`'s replies is a notice. -/
theorem Message.IsProcReply.isNotice {m : Message} (reply : m.IsProcReply) :
    m.isNotice = false := by
  cases m <;> first | rfl | cases reply

/--
A negotiation turn keeps every entry it leaves, or registers an entry on the
channel `tx` of its own connection, which it reports in `YouAreNowActive` unless
`proc` returns.
-/
theorem negotiate_entries {ds : Downstairs} {tx negotiated : Nat}
    {recorded : Option UpstairsConnection} {replies : RegionReplies} {m : Message} {uuid : Uuid}
    {entry' : ActiveUpstairs}
    (found : (negotiate ds tx negotiated recorded replies m).ds.activeUpstairs.lookup uuid =
      some entry') :
    (∃ entry, ds.activeUpstairs.lookup uuid = some entry ∧
      entry'.upstairsConnection = entry.upstairsConnection ∧
      entry'.terminateSender = entry.terminateSender) ∨
    entry'.terminateSender = tx ∧
      ((∃ result, (negotiate ds tx negotiated recorded replies m).next = .returned result) ∨
        .youAreNowActive entry'.upstairsConnection.upstairsId entry'.upstairsConnection.sessionId
          entry'.upstairsConnection.gen ∈ (negotiate ds tx negotiated recorded replies m).written) := by
  generalize turnDef : negotiate ds tx negotiated recorded replies m = turn at found ⊢
  have kept : turn.ds = ds → ∃ entry, ds.activeUpstairs.lookup uuid = some entry ∧
      entry'.upstairsConnection = entry.upstairsConnection ∧
      entry'.terminateSender = entry.terminateSender := fun same =>
    ⟨entry', same ▸ found, rfl, rfl⟩
  cases m <;> dsimp only [negotiate] at turnDef
  case promoteToActive upstairsId sessionId gen =>
    split_ifs at turnDef
    · exact .inl (kept (by rw [← turnDef]))
    split at turnDef
    · exact .inl (kept (by rw [← turnDef]))
    · next current =>
        split_ifs at turnDef with sameIds
        · split at turnDef <;> subst turnDef <;>
            rcases Downstairs.promoteToActive_entry found with rfl | old
          · exact .inr ⟨rfl, .inl ⟨_, rfl⟩⟩
          · exact .inl ⟨entry', old, rfl, rfl⟩
          · exact .inr ⟨rfl, .inr (by simp [Downstairs.freshEntry, sameIds.1, sameIds.2])⟩
          · exact .inl ⟨entry', old, rfl, rfl⟩
        · exact .inl (kept (by rw [← turnDef]))
  case lastFlush lastFlushNumber =>
    split_ifs at turnDef
    · exact .inl (kept (by rw [← turnDef]))
    split at turnDef
    · exact .inl (kept (by rw [← turnDef]))
    · next current =>
        subst turnDef
        have settles := Downstairs.Settles.setLastFlush ds current lastFlushNumber
        split at found <;> exact .inl (settles.entries _ _ found)
  all_goals
    repeat' split at turnDef
    all_goals exact .inl (kept (by rw [← turnDef]))

/-! ## One step of a connection -/

namespace Connection

/--
A step that leaves the terminate channel alone, does not bring a returned `proc`
back, appends only frames that are no notice, and holds no ack but the one it
held or one that is no notice.
-/
structure Appends (conn conn' : Connection) : Prop where
  terminate : conn'.terminate = conn.terminate
  noRevival : conn'.listening = true → conn.listening = true
  written : ∃ extra, conn'.written = conn.written ++ extra ∧ ∀ m ∈ extra, m.isNotice = false
  held : ∀ m, conn'.heldAck = some m → conn.heldAck = some m ∨ m.isNotice = false

variable {conn : Connection} {tx : Nat} {ds : Downstairs} {replies : RegionReplies}
  {effect : Effect}

/-- A negotiator that moves on holds no new ack: spawning starts a waiting worker. -/
theorem heldAck_of_moveTo {next : Supervisor} {m : Message}
    (held : (conn.moveTo next).heldAck = some m) : conn.heldAck = some m := by
  cases next <;> simp_all [moveTo, heldAck, Spawned.start, Worker.pendingAck]

/-- Storing a new state of the spawned tasks appends nothing. -/
theorem Appends.setSpawned {next : Spawned}
    (held : ∀ m, next.worker.pendingAck = some m → conn.heldAck = some m ∨ m.isNotice = false) :
    conn.Appends (conn.setSpawned next) :=
  ⟨rfl, id, ⟨[], by simp, by simp⟩, held⟩

/-- Returning, with the same channel, frames and tasks, appends nothing. -/
theorem Appends.returned {conn' : Connection} (terminate : conn'.terminate = conn.terminate)
    (written : conn'.written = conn.written) (spawned : conn'.spawned = conn.spawned)
    (result : Except ConnectionError Unit) : conn.Appends (conn'.moveTo (.returned result)) :=
  ⟨by simp [terminate], by simp [Connection.listening], ⟨[], by simp [written], by simp⟩,
    fun m held => .inl (by simpa [heldAck, moveTo, spawned] using held)⟩

/-- Reading a frame appends negotiation replies or `Imok`. -/
theorem readStep_appends (stepped : conn.readStep tx ds replies = some effect) :
    conn.Appends effect.connection := by
  unfold readStep at stepped
  split at stepped
  · next negotiated recorded m rest supervisor _ =>
      cases stepped
      exact ⟨by simp [negotiateStep], fun _ => by simp [Connection.listening, supervisor],
        ⟨_, by simp [negotiateStep], fun m' written =>
          (negotiate_written_reply ds tx negotiated recorded replies m m' written).isNotice⟩,
        fun m' held => by
          simp only [negotiateStep] at held
          have kept := heldAck_of_moveTo held
          exact .inl kept⟩
  all_goals
    repeat' split at stepped
    all_goals cases stepped
  all_goals first
    | exact Appends.returned (by rfl) (by rfl) (by rfl) _
    | exact ⟨rfl, id, ⟨[.imok], rfl, by simp [Message.isNotice]⟩, fun m held => .inl held⟩
    | exact ⟨rfl, id, ⟨[], by simp, by simp⟩,
        fun m held => .inl (by simpa [heldAck, ‹conn.spawned = some _›] using held)⟩

/-- A step of the dispatcher appends what `proc_frame` writes. -/
theorem dispatchStep_appends (stepped : conn.dispatchStep ds replies = some effect) :
    conn.Appends effect.connection := by
  unfold dispatchStep at stepped
  split at stepped
  · cases stepped
  · next spawned found =>
      have same : ∀ {next : Spawned}, next.worker = spawned.worker →
          ∀ m, next.worker.pendingAck = some m → conn.heldAck = some m ∨ m.isNotice = false :=
        fun sameWorker m held => .inl (by simpa [heldAck, found, sameWorker] using held)
      by_cases busy : spawned.dispatcher.isSome = true
      · rw [if_pos busy] at stepped
        cases stepped
      rw [if_neg busy] at stepped
      split at stepped
      · next frame rest _ =>
          obtain rfl := Option.some.inj stepped
          exact ⟨rfl, id, ⟨_, rfl, fun m' written =>
            (procFrame_written_reply ds _ replies frame m' written).isNotice⟩,
            same (Spawned.afterFrame_worker _ _)⟩
      · split at stepped
        · cases stepped
        · obtain rfl := Option.some.inj stepped
          exact Appends.setSpawned (same rfl)

/-- A step of the worker appends only the ack it held. -/
theorem workStep_appends (quietHeld : ∀ m, conn.heldAck = some m → m.isNotice = false)
    (inv : RegistryInv ds) (stepped : conn.workStep ds replies = some effect) :
    conn.Appends effect.connection := by
  unfold workStep moveWorker at stepped
  split at stepped
  · cases stepped
  · next spawned found =>
      split at stepped
      all_goals
        repeat' split at stepped
        all_goals cases stepped
      all_goals first
        | exact Appends.setSpawned fun m held => by
            (repeat' split at held) <;> first
              | (simp [Worker.pendingAck] at held; done)
              | cases held
                exact .inr (Message.isNotice_of_ackSession (Downstairs.doWork_ackSession inv
                  (by assumption)))
        | exact ⟨rfl, id, ⟨[_], rfl, by
            simpa using quietHeld _ (by simp [heldAck, found, Worker.pendingAck, *])⟩,
            fun m held => by simp [heldAck, Worker.pendingAck] at held⟩

/--
Taking the terminate signal removes the first message and returns; a `proc` that
recorded a connection first writes the notice for it.
-/
theorem evictedStep_notice (stepped : conn.evictedStep ds = some effect) :
    ∃ next rest, conn.terminate.buffer = next :: rest ∧
      effect.connection.terminate.buffer = rest ∧ effect.connection.listening = false ∧
      effect.connection.heldAck = conn.heldAck ∧
      (effect.connection.written = conn.written ∨ conn.listening = true ∧
        effect.connection.written =
          conn.written ++ [.youAreNoLongerActive next.upstairsId next.sessionId next.gen]) := by
  unfold evictedStep at stepped
  split at stepped
  · cases stepped
  · next next rest buffer =>
      split at stepped
      · cases stepped
        exact ⟨next, rest, buffer, by simp, by simp [listening], by simp [heldAck, moveTo],
          .inl (by simp)⟩
      all_goals first
        | cases stepped
          exact ⟨next, rest, buffer, by simp, by simp [listening], by simp [heldAck, moveTo],
            .inr ⟨by simp [listening, *], by simp⟩⟩
        | cases stepped

/-- Every step appends, or takes the terminate signal. -/
theorem step_appends (quietHeld : ∀ m, conn.heldAck = some m → m.isNotice = false)
    (inv : RegistryInv ds) {task : Task} (stepped : conn.step tx ds replies task = some effect) :
    conn.Appends effect.connection ∨ task = .evicted ∧ conn.evictedStep ds = some effect := by
  cases task
  case read => exact .inl (readStep_appends stepped)
  case evicted => exact .inr ⟨rfl, stepped⟩
  case dispatch => exact .inl (dispatchStep_appends stepped)
  case work => exact .inl (workStep_appends quietHeld inv stepped)
  all_goals
    simp only [step, timeoutStep, taskEndedStep] at stepped
    repeat' split at stepped
    all_goals cases stepped
    all_goals exact .inl (Appends.returned (by rfl) (by rfl) (by rfl) _)

/--
After a step every entry was there before, with its connection and channel, or
is registered on the stepping connection's channel and reported in its
`YouAreNowActive` while its `proc` runs.
-/
theorem step_entries {task : Task} (stepped : conn.step tx ds replies task = some effect)
    {uuid : Uuid} {entry' : ActiveUpstairs}
    (found : effect.ds.activeUpstairs.lookup uuid = some entry') :
    (∃ entry, ds.activeUpstairs.lookup uuid = some entry ∧
      entry'.upstairsConnection = entry.upstairsConnection ∧
      entry'.terminateSender = entry.terminateSender) ∨
    entry'.terminateSender = tx ∧ (effect.connection.listening = true →
      .youAreNowActive entry'.upstairsConnection.upstairsId entry'.upstairsConnection.sessionId
        entry'.upstairsConnection.gen ∈ effect.connection.written) := by
  rcases step_cases stepped with ⟨-, settles, -⟩ | ⟨negotiated, recorded, m, rest, -, -, rfl⟩
  · exact .inl (settles.entries _ _ found)
  · refine (negotiate_entries found).imp_right fun ⟨mine, reported⟩ => ⟨mine, fun live => ?_⟩
    simp only [negotiateStep, moveTo_written, List.mem_append] at live ⊢
    rcases reported with ⟨result, returned⟩ | written
    · simp [negotiateStep, returned, listening] at live
    · exact .inr written

end Connection

/-! ## The invariant -/

/-- What the frames and the terminate channel of every connection keep, for the region's flag. -/
structure NoticeInv (readOnly : Bool) (conn : Connection) : Prop where
  /-- Every message in the channel may take over from a promotion the connection reported. -/
  buffered : ∀ c ∈ conn.terminate.buffer, ∃ promoted,
    .youAreNowActive promoted.upstairsId promoted.sessionId promoted.gen ∈ conn.written ∧
      Supersedes readOnly promoted c
  /-- The ack the worker holds is no notice. -/
  held : ∀ m, conn.heldAck = some m → m.isNotice = false
  /-- A connection whose `proc` still runs has written no notice. -/
  silent : conn.listening = true → ∀ m ∈ conn.written, m.isNotice = false
  /-- Every notice follows the report of a promotion it may take over from, and is the last. -/
  noticed : ∀ pre evicting post, conn.written =
      pre ++ .youAreNoLongerActive evicting.upstairsId evicting.sessionId evicting.gen :: post →
    (∃ promoted, .youAreNowActive promoted.upstairsId promoted.sessionId promoted.gen ∈ pre ∧
      Supersedes readOnly promoted evicting) ∧ ∀ m ∈ post, m.isNotice = false

/-- Frames appended after a notice leave it where it was. -/
theorem append_eq_notice {written extra pre post : List Message} {notice : Message}
    (isNotice : notice.isNotice = true) (quiet : ∀ m ∈ extra, m.isNotice = false)
    (split : written ++ extra = pre ++ notice :: post) :
    ∃ post₀, written = pre ++ notice :: post₀ ∧ post = post₀ ++ extra := by
  rcases List.append_eq_append_iff.mp split with ⟨middle, -, inExtra⟩ | ⟨middle, rfl, later⟩
  · have := quiet notice (by simp [inExtra])
    simp [isNotice] at this
  · rcases middle with _ | ⟨first, middle⟩
    · rw [List.nil_append] at later
      have := quiet notice (by simp [← later])
      simp [isNotice] at this
    · simp only [List.cons_append, List.cons.injEq] at later
      obtain ⟨rfl, rfl⟩ := later
      exact ⟨middle, rfl, rfl⟩

namespace NoticeInv

variable {readOnly : Bool} {conn conn' : Connection}

theorem accepted (inbound : List Message) (hungUp : Bool) :
    NoticeInv readOnly (Connection.accepted inbound hungUp) where
  buffered := by simp [Connection.accepted]
  held := by simp [Connection.accepted, Connection.heldAck]
  silent := by simp [Connection.accepted]
  noticed := by simp [Connection.accepted]

/-- A step that appends keeps the invariant. -/
theorem appends (inv : NoticeInv readOnly conn) (appends : conn.Appends conn') :
    NoticeInv readOnly conn' := by
  obtain ⟨terminate, noRevival, ⟨extra, written, quiet⟩, held⟩ := appends
  refine ⟨fun c member => ?_, fun m member => ?_, fun live m member => ?_, ?_⟩
  · obtain ⟨promoted, reported, supersedes⟩ := inv.buffered c (terminate ▸ member)
    exact ⟨promoted, written ▸ List.mem_append_left _ reported, supersedes⟩
  · exact (held m member).elim (inv.held m) id
  · rw [written, List.mem_append] at member
    exact member.elim (inv.silent (noRevival live) m) (quiet m)
  · intro pre evicting post split
    obtain ⟨post₀, old, rfl⟩ := append_eq_notice (by rfl) quiet (written ▸ split)
    obtain ⟨reported, last⟩ := inv.noticed pre evicting post₀ old
    refine ⟨reported, fun m member => ?_⟩
    rw [List.mem_append] at member
    exact member.elim (last m) (quiet m)

/-- Taking the terminate signal keeps the invariant. -/
theorem evicted (inv : NoticeInv readOnly conn) {ds : Downstairs} {effect : Effect}
    (stepped : conn.evictedStep ds = some effect) : NoticeInv readOnly effect.connection := by
  obtain ⟨next, rest, buffer, buffer', returned, held, written⟩ :=
    Connection.evictedStep_notice stepped
  have grown : conn.written <+: effect.connection.written := by
    rcases written with same | ⟨-, appended⟩
    · exact same ▸ List.prefix_refl _
    · exact appended ▸ List.prefix_append _ _
  refine ⟨fun c member => ?_, fun m member => inv.held m (held ▸ member), by simp [returned], ?_⟩
  · obtain ⟨promoted, reported, supersedes⟩ :=
      inv.buffered c (by rw [buffer]; exact List.mem_cons_of_mem _ (buffer' ▸ member))
    exact ⟨promoted, grown.subset reported, supersedes⟩
  · intro pre evicting post split
    rcases written with same | ⟨live, appended⟩
    · exact inv.noticed pre evicting post (same ▸ split)
    · rw [appended] at split
      have quiet := inv.silent live
      obtain ⟨rfl, same, rfl⟩ := (List.append_cons_inj_of_not_mem
        (fun member => by simpa [Message.isNotice] using quiet _ member)
        (List.not_mem_nil _)).mp split
      simp only [Message.youAreNoLongerActive.injEq] at same
      obtain ⟨promoted, reported, supersedes⟩ := inv.buffered next (by simp [buffer])
      have : evicting = next := by
        cases evicting
        cases next
        simp_all
      exact ⟨⟨promoted, reported, this ▸ supersedes⟩, by simp⟩

/-- A signal justified by a promotion the connection reported keeps the invariant. -/
theorem signal (inv : NoticeInv readOnly conn) (c : UpstairsConnection)
    (justified : conn.listening = true → ∃ promoted,
      .youAreNowActive promoted.upstairsId promoted.sessionId promoted.gen ∈ conn.written ∧
        Supersedes readOnly promoted c) :
    NoticeInv readOnly (conn.signal c) := by
  unfold Connection.signal
  split
  · next live =>
      refine ⟨fun c' member => ?_, inv.held, inv.silent, inv.noticed⟩
      rcases List.mem_append.mp member with old | added
      · exact inv.buffered c' old
      · rw [List.mem_singleton.mp added]
        exact justified live
  · exact inv

end NoticeInv

/-- What every reachable state keeps about eviction notices. -/
structure EvictionInv (s : System) : Prop where
  /-- Every connection keeps its notice invariant, for the region's flag. -/
  connections : ∀ (g : Nat) conn, s.connections[g]? = some conn → NoticeInv s.ds.readOnly conn
  /-- A registered entry's connection was reported by its channel's `proc`, while that runs. -/
  registered : ∀ uuid entry, s.ds.activeUpstairs.lookup uuid = some entry →
    ∀ holder, s.connections[entry.terminateSender]? = some holder → holder.listening = true →
      .youAreNowActive entry.upstairsConnection.upstairsId entry.upstairsConnection.sessionId
        entry.upstairsConnection.gen ∈ holder.written

namespace EvictionInv

variable {s s' : System}

theorem init (readOnly encrypted returnErrors : Bool) (repairAddress : Nat) :
    EvictionInv (System.init readOnly encrypted returnErrors repairAddress) where
  connections := fun _ _ found => by simp [System.init] at found
  registered := fun _ _ found => by simp [System.init, Downstairs.new] at found

theorem accept (inv : EvictionInv s) (system : SystemInv s) (inbound : List Message)
    (hungUp : Bool) :
    EvictionInv ⟨s.ds, s.connections ++ [Connection.accepted inbound hungUp]⟩ where
  connections := by
    intro g conn found
    rw [List.getElem?_append] at found
    split_ifs at found
    · exact inv.connections g conn found
    · rcases position : g - s.connections.length with _ | later
      · simp only [position, List.getElem?_cons_zero, Option.some.injEq] at found
        exact found ▸ NoticeInv.accepted inbound hungUp
      · simp [position] at found
  registered := by
    intro uuid entry found holder stored
    obtain ⟨old, oldStored, -⟩ := system.registered uuid entry found
    rw [List.getElem?_append_left (List.getElem?_eq_some_iff.mp oldStored).1] at stored
    exact inv.registered uuid entry found holder stored

/-- Every step of a connection's tasks keeps the invariant. -/
theorem step (inv : EvictionInv s) (system : SystemInv s) (registry : RegistryInv s.ds)
    {g : Nat} {task : Task} {replies : RegionReplies}
    (stepped : s.step (.step g task replies) = some s') : EvictionInv s' := by
  obtain ⟨conn, effect, found, taken, rfl⟩ := System.step_eq_some stepped
  have flag : effect.ds.readOnly = s.ds.readOnly := (Connection.step_flags taken).1
  have own := inv.connections g conn found
  -- the stepping connection either appends or takes the signal
  have stepping : conn.Appends effect.connection ∨
      NoticeInv s.ds.readOnly effect.connection ∧ effect.connection.listening = false := by
    rcases Connection.step_appends own.held registry taken with appends | ⟨rfl, evicted⟩
    · exact .inl appends
    · obtain ⟨-, -, -, -, returned, -⟩ := Connection.evictedStep_notice evicted
      exact .inr ⟨own.evicted evicted, returned⟩
  have ownInv : NoticeInv s.ds.readOnly effect.connection :=
    stepping.elim own.appends (·.1)
  have stillListening : effect.connection.listening = true → conn.listening = true ∧
      conn.written <+: effect.connection.written := by
    intro live
    rcases stepping with appends | ⟨-, returned⟩
    · obtain ⟨extra, written, -⟩ := appends.written
      exact ⟨appends.noRevival live, written ▸ List.prefix_append _ _⟩
    · simp [returned] at live
  -- a signal reaches a registered connection other than the stepping one
  have justified : ∀ h c, effect.signal = some (h, c) → ∀ base, s.connections[h]? = some base →
      base.listening = true → ∃ promoted,
        .youAreNowActive promoted.upstairsId promoted.sessionId promoted.gen ∈ base.written ∧
          Supersedes s.ds.readOnly promoted c := by
    intro h c signalled base stored live
    obtain ⟨-, -, -, signalNone | ⟨-, -, promoted, -, promotedSignal⟩⟩ :=
      (system.connections g conn found).step taken rfl rfl
    · simp [signalNone.1] at signalled
    · rw [promotedSignal] at signalled
      obtain ⟨rfl, uuid, entry, registeredEntry, rfl, supersedes⟩ :=
        Downstairs.promoteToActive_signal_supersedes registry signalled
      exact ⟨entry.upstairsConnection, inv.registered uuid entry registeredEntry base stored live,
        supersedes⟩
  refine ⟨fun h conn' stored => ?_, fun uuid entry' registeredEntry holder stored live => ?_⟩
  · rw [flag]
    obtain ⟨base, origin, delivered⟩ := getElem?_deliver stored
    have baseInv : NoticeInv s.ds.readOnly base := by
      rcases origin with ⟨-, rfl⟩ | ⟨-, old⟩
      · exact ownInv
      · exact inv.connections h base old
    rcases delivered with rfl | ⟨c, signalled, rfl⟩
    · exact baseInv
    · obtain ⟨other, -⟩ := system.signal_target found taken signalled
      rcases origin with ⟨same, -⟩ | ⟨-, old⟩
      · exact absurd same other
      · exact baseInv.signal c (justified h c signalled base old)
  · obtain ⟨base, origin, delivered⟩ := getElem?_deliver stored
    have live' : base.listening = true := by
      rcases delivered with rfl | ⟨c, -, rfl⟩
      · exact live
      · simpa [Connection.listening] using live
    have written : holder.written = base.written := by
      rcases delivered with rfl | ⟨c, -, rfl⟩ <;> simp
    rw [written]
    rcases Connection.step_entries taken registeredEntry with
      ⟨entry, old, sameConnection, sameSender⟩ | ⟨mine, reported⟩
    · rw [sameConnection]
      rw [sameSender] at origin
      rcases origin with ⟨rfl, rfl⟩ | ⟨-, oldStored⟩
      · obtain ⟨wasLive, grown⟩ := stillListening live'
        exact grown.subset (inv.registered uuid entry old conn found wasLive)
      · exact inv.registered uuid entry old base oldStored live'
    · rw [mine] at origin
      rcases origin with ⟨-, rfl⟩ | ⟨different, -⟩
      · exact reported live'
      · exact absurd rfl different

end EvictionInv

/-- Every reachable state keeps the eviction invariant. -/
theorem Reachable.evictionInv {s : System} (reach : Reachable s) : EvictionInv s := by
  induction reach with
  | init readOnly encrypted returnErrors repairAddress =>
      exact EvictionInv.init readOnly encrypted returnErrors repairAddress
  | step action reached stepped inv =>
      cases action with
      | accept inbound hungUp =>
          cases stepped
          exact inv.accept reached.systemInv inbound hungUp
      | step g task replies => exact inv.step reached.systemInv reached.registryInv stepped

/--
Every eviction notice names a connection allowed to take over from the one the
evicted connection reported.  In every reachable state, whatever the interleaving
of the tasks, each `YouAreNoLongerActive` a connection has written comes after a
`YouAreNowActive` on the same connection whose triple it supersedes: on a
read-write region the same triple or a strictly greater generation, on a
read-only region the same upstairs id; and no notice follows it.
-/
theorem eviction_notice_names_successor {s : System} (reach : Reachable s) :
    ∀ conn ∈ s.connections, ∀ pre evicting post, conn.written =
        pre ++ .youAreNoLongerActive evicting.upstairsId evicting.sessionId evicting.gen :: post →
      (∃ promoted, .youAreNowActive promoted.upstairsId promoted.sessionId promoted.gen ∈ pre ∧
        Supersedes s.ds.readOnly promoted evicting) ∧ ∀ m ∈ post, m.isNotice = false := by
  intro conn member
  obtain ⟨g, found⟩ := List.mem_iff_getElem?.mp member
  exact (reach.evictionInv.connections g conn found).noticed

theorem eviction_notice_names_successor_staleRepairFrame :
    (System.replay staleRepairFrame).connections.map (·.written.filter (·.isNotice)) =
      [[.youAreNoLongerActive 1 2 2], []] ∧
    ∀ conn ∈ (System.replay staleRepairFrame).connections, ∀ pre evicting post, conn.written =
        pre ++ .youAreNoLongerActive evicting.upstairsId evicting.sessionId evicting.gen :: post →
      (∃ promoted, .youAreNowActive promoted.upstairsId promoted.sessionId promoted.gen ∈ pre ∧
        Supersedes (System.replay staleRepairFrame).ds.readOnly promoted evicting) ∧
        ∀ m ∈ post, m.isNotice = false :=
  ⟨by decide, eviction_notice_names_successor (Reachable.replay staleRepairFrame)⟩

end CrucibleDownstairs
