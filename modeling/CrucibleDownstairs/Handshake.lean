import CrucibleDownstairs.Steps

namespace CrucibleDownstairs

/-!
# Negotiation and the terminate channels

Two invariants of every reachable state of the system of connections.

The counter `negotiated` of `proc` determines exactly which negotiation frames it
has accepted, in which order, and for which connection: `HereIAm` with version 1
and the node's flags, `PromoteToActive` for the same ids, answered by
`YouAreNowActive` only when `promote_to_active` succeeded, `RegionInfoPlease`,
and `LastFlush` or `ExtentVersionsPlease`.  So the tasks `resp_loop` spawns are
given exactly the promoted connection, and no `unwrap` of the recorded
connection can fail.

Each terminate channel accepts at most one message.  A `proc` registers its
channel once, when its counter is 1, and a promotion signals an entry only as it
drops or replaces it; so a registered channel has accepted nothing, and the
synchronous send of `promote_to_active`, made while holding the mutex, always
finds the buffer empty.
-/

/-! ## The accepted handshake -/

/-- The negotiation frames among the frames `proc` read, oldest first. -/
def Connection.negotiationFrames (conn : Connection) : List Message :=
  conn.negotiationLog.filter fun m => m.negotiationStep.isSome

/--
The first three handshake frames of a connection that said hello with generation
`hello` and was promoted as `c`.
-/
def handshakeFrames (readOnly encrypted : Bool) (hello : Nat) (c : UpstairsConnection) :
    List Message :=
  [.hereIAm 1 c.upstairsId c.sessionId hello readOnly encrypted,
    .promoteToActive c.upstairsId c.sessionId c.gen, .regionInfoPlease]

/-- The frames that end negotiation. -/
def Message.EndsNegotiation (m : Message) : Prop :=
  m = .extentVersionsPlease ∨ ∃ lastFlushNumber, m = .lastFlush lastFlushNumber

/--
What `proc` has accepted at counter `negotiated` with recorded connection `c`: the
first `negotiated` frames of the handshake, in order, and once past the promotion
the `YouAreNowActive` reply that only a successful `promote_to_active` produces.
-/
def Handshake (readOnly encrypted : Bool) (frames written : List Message) (negotiated : Nat) :
    Option UpstairsConnection → Prop
  | none => negotiated = 0 ∧ frames = []
  | some c => 1 ≤ negotiated ∧ negotiated ≤ 4 ∧
      (2 ≤ negotiated → .youAreNowActive c.upstairsId c.sessionId c.gen ∈ written) ∧
      ∃ hello last, (negotiated = 4 → last.EndsNegotiation) ∧
        frames = (handshakeFrames readOnly encrypted hello c ++ [last]).take negotiated

/-- What the negotiator has established in each of its states. -/
def Negotiated (readOnly encrypted : Bool) (frames written : List Message) : Supervisor → Prop
  | .negotiating negotiated c => Handshake readOnly encrypted frames written negotiated c
  | .responding c => Handshake readOnly encrypted frames written 4 (some c)
  | .returned result => result ≠ .error .upstairsConnectionUnwrap

section

variable {readOnly encrypted : Bool} {frames written written' : List Message} {negotiated : Nat}
  {c : Option UpstairsConnection}

theorem Handshake.mono (handshake : Handshake readOnly encrypted frames written negotiated c)
    (longer : written <+: written') :
    Handshake readOnly encrypted frames written' negotiated c := by
  cases c with
  | none => exact handshake
  | some c =>
      obtain ⟨low, high, active, rest⟩ := handshake
      exact ⟨low, high, fun promoted => longer.subset (active promoted), rest⟩

theorem Negotiated.mono {supervisor : Supervisor}
    (negotiated : Negotiated readOnly encrypted frames written supervisor)
    (longer : written <+: written') : Negotiated readOnly encrypted frames written' supervisor := by
  cases supervisor with
  | returned => exact negotiated
  | _ =>
      simp only [Negotiated] at negotiated ⊢
      exact negotiated.mono longer

/-- A handshake past hello has recorded its connection. -/
theorem Handshake.recorded (handshake : Handshake readOnly encrypted frames written negotiated none) :
    negotiated = 0 :=
  handshake.1

/-- A frame that is not a negotiation frame leaves the handshake where it was. -/
theorem Handshake.ignore (handshake : Handshake readOnly encrypted frames written negotiated c)
    {m : Message} (ignored : m.negotiationStep = none) (more : List Message) :
    Negotiated readOnly encrypted (frames ++ [m].filter fun m => m.negotiationStep.isSome)
      (written ++ more) (.negotiating negotiated c) := by
  simp only [Negotiated, List.filter, ignored, Option.isSome_none, List.append_nil]
  exact handshake.mono (List.prefix_append _ _)

/-- A frame that ends negotiation completes a handshake at 3. -/
theorem Handshake.finish {current : UpstairsConnection}
    (handshake : Handshake readOnly encrypted frames written 3 (some current)) {last : Message}
    (ends : last.EndsNegotiation) (more : List Message) :
    Handshake readOnly encrypted (frames ++ [last].filter fun m => m.negotiationStep.isSome)
      (written ++ more) 4 (some current) := by
  obtain ⟨-, -, active, hello, unseen, -, accepted⟩ := handshake
  have kept : [last].filter (fun m => m.negotiationStep.isSome) = [last] := by
    rcases ends with rfl | ⟨lastFlushNumber, rfl⟩ <;> rfl
  refine ⟨by omega, le_refl 4, fun _ => List.mem_append_left _ (active (by omega)), hello, last,
    fun _ => ends, ?_⟩
  simp [kept, accepted, handshakeFrames]

/--
One negotiation turn keeps the handshake: the next state of `proc` has accepted
the frames read so far, and it never returns by an unwrap panic.
-/
theorem Handshake.turn (handshake : Handshake readOnly encrypted frames written negotiated c)
    {ds : Downstairs} (readOnlyFlag : ds.readOnly = readOnly)
    (encryptedFlag : ds.encrypted = encrypted) (tx : Nat) (replies : RegionReplies)
    (m : Message) :
    Negotiated readOnly encrypted (frames ++ [m].filter fun m => m.negotiationStep.isSome)
      (written ++ (negotiate ds tx negotiated c replies m).written)
      (negotiate ds tx negotiated c replies m).next := by
  cases m
  case hereIAm version upstairsId sessionId gen frameReadOnly frameEncrypted =>
    obtain ⟨-, -, ⟨rfl, rfl, sameReadOnly, sameEncrypted, next⟩ | ⟨-, error, next, noPanic⟩⟩ :=
      negotiate_hereIAm ds tx negotiated c replies version upstairsId sessionId gen frameReadOnly
        frameEncrypted
    · rw [next]
      cases c with
      | some current => exact absurd handshake.1 (by omega)
      | none =>
          refine ⟨le_refl 1, by omega, by omega, gen, .regionInfoPlease, by omega, ?_⟩
          simp [handshake.2, handshakeFrames, sameReadOnly, sameEncrypted, readOnlyFlag,
            encryptedFlag]
    · rw [next]
      exact fun same => noPanic (Except.error.inj same)
  case promoteToActive upstairsId sessionId gen =>
    dsimp only [negotiate]
    split_ifs with outOfOrder
    · simp [Negotiated]
    obtain rfl : negotiated = 1 := not_not.mp outOfOrder
    cases c with
    | none => exact absurd handshake.1 (by omega)
    | some current =>
        obtain ⟨-, -, -, hello, last, -, accepted⟩ := handshake
        dsimp only
        split_ifs with sameIds
        · split
          · simp [Negotiated]
          · obtain ⟨rfl, rfl⟩ := sameIds
            refine ⟨by omega, by omega, fun _ => by simp, hello, last, by omega, ?_⟩
            simp [accepted, handshakeFrames]
        · simp [Negotiated]
  case regionInfoPlease =>
    dsimp only [negotiate]
    split_ifs with outOfOrder
    · simp [Negotiated]
    obtain rfl : negotiated = 2 := not_not.mp outOfOrder
    cases c with
    | none => exact absurd handshake.1 (by omega)
    | some current =>
        obtain ⟨-, -, active, hello, last, -, accepted⟩ := handshake
        refine ⟨by omega, by omega, fun _ => List.mem_append_left _ (active (le_refl 2)), hello, last,
          by omega, ?_⟩
        simp [accepted, handshakeFrames]
  case lastFlush lastFlushNumber =>
    dsimp only [negotiate]
    split_ifs with outOfOrder
    · simp [Negotiated]
    obtain rfl : negotiated = 3 := not_not.mp outOfOrder
    cases c with
    | none => exact absurd handshake.1 (by omega)
    | some current =>
        dsimp only
        split
        · simp [Negotiated]
        · exact handshake.finish (.inr ⟨lastFlushNumber, rfl⟩) _
  case extentVersionsPlease =>
    dsimp only [negotiate]
    split_ifs with outOfOrder
    · simp [Negotiated]
    obtain rfl : negotiated = 3 := not_not.mp outOfOrder
    cases c with
    | none => exact absurd handshake.1 (by omega)
    | some current =>
        dsimp only
        split
        · simp [Negotiated]
        · exact handshake.finish (.inl rfl) _
  all_goals exact handshake.ignore (by rfl) _

end

/-! ## What each frame does to `proc` -/

/-- The checks `proc` makes on a negotiation frame besides its order. -/
def Message.Passes (ds : Downstairs) (c : Option UpstairsConnection) : Message → Prop
  | .hereIAm version _ _ _ readOnly encrypted =>
      version = 1 ∧ readOnly = ds.readOnly ∧ encrypted = ds.encrypted
  | .promoteToActive upstairsId sessionId _ =>
      ∃ current, c = some current ∧ current.upstairsId = upstairsId ∧
        current.sessionId = sessionId
  | _ => True

variable {ds : Downstairs} {tx negotiated : Nat} {c : Option UpstairsConnection}
  {replies : RegionReplies}

/-- Any frame other than a negotiation frame or `Ruok` is dropped, changing nothing. -/
theorem negotiate_ignored {m : Message} (ignored : m.negotiationStep = none)
    (notRuok : m ≠ .ruok) :
    negotiate ds tx negotiated c replies m = ⟨ds, [], .negotiating negotiated c, none⟩ := by
  cases m <;> first | exact Option.noConfusion ignored | exact absurd rfl notRuok | rfl

/--
A negotiation frame out of order, or failing its version, flag or identity
check, ends `proc` with an error.
-/
theorem negotiate_refused {m : Message} {step : Nat} (negotiation : m.negotiationStep = some step)
    (refused : step ≠ negotiated ∨ ¬ m.Passes ds c) :
    ∃ error, (negotiate ds tx negotiated c replies m).next = .returned (.error error) := by
  cases m
  case hereIAm version upstairsId sessionId gen readOnly encrypted =>
    obtain rfl := Option.some.inj negotiation
    obtain ⟨-, -, ⟨rfl, rfl, sameReadOnly, sameEncrypted, -⟩ | ⟨-, error, next, -⟩⟩ :=
      negotiate_hereIAm ds tx negotiated c replies version upstairsId sessionId gen readOnly encrypted
    · simp [Message.Passes, sameReadOnly, sameEncrypted] at refused
    · exact ⟨error, next⟩
  case promoteToActive upstairsId sessionId gen =>
    obtain rfl := Option.some.inj negotiation
    dsimp only [negotiate]
    split_ifs with outOfOrder
    · exact ⟨_, rfl⟩
    split
    · exact ⟨_, rfl⟩
    · next current =>
        split_ifs with sameIds
        · simp only [Message.Passes, not_exists, not_and] at refused
          rcases refused with wrongStep | failed
          · exact absurd (not_not.mp outOfOrder).symm wrongStep
          · exact absurd sameIds.2 (failed current rfl sameIds.1)
        · exact ⟨_, rfl⟩
  case regionInfoPlease =>
    obtain rfl := Option.some.inj negotiation
    dsimp only [negotiate]
    split_ifs with outOfOrder
    · exact ⟨_, rfl⟩
    · exact absurd (not_not.mp outOfOrder).symm (refused.resolve_right fun failed => failed trivial)
  case lastFlush lastFlushNumber =>
    obtain rfl := Option.some.inj negotiation
    dsimp only [negotiate]
    split_ifs with outOfOrder
    · exact ⟨_, rfl⟩
    · exact absurd (not_not.mp outOfOrder).symm (refused.resolve_right fun failed => failed trivial)
  case extentVersionsPlease =>
    obtain rfl := Option.some.inj negotiation
    dsimp only [negotiate]
    split_ifs with outOfOrder
    · exact ⟨_, rfl⟩
    · exact absurd (not_not.mp outOfOrder).symm (refused.resolve_right fun failed => failed trivial)
  all_goals exact Option.noConfusion negotiation

/--
`proc` moves past `PromoteToActive` only when `promote_to_active` succeeded, and
the connection it records is the one that call registered: the recorded ids with
the generation of the frame.
-/
theorem negotiate_promoted {upstairsId sessionId gen : Nat} {promoted : UpstairsConnection}
    (accepted : (negotiate ds tx negotiated c replies (.promoteToActive upstairsId sessionId gen)).next
      = .negotiating 2 (some promoted)) :
    promoted = ⟨upstairsId, sessionId, gen⟩ ∧
      (∃ current, c = some current ∧ current.upstairsId = upstairsId ∧
        current.sessionId = sessionId) ∧
      (ds.promoteToActive promoted tx replies.reopenAllExtents).2.1 = .ok () ∧
      (negotiate ds tx negotiated c replies (.promoteToActive upstairsId sessionId gen)).ds =
        (ds.promoteToActive promoted tx replies.reopenAllExtents).1 := by
  dsimp only [negotiate] at accepted ⊢
  split_ifs at accepted ⊢
  split at accepted
  · cases accepted
  · next current =>
      split_ifs at accepted ⊢ with sameIds
      split at accepted
      · cases accepted
      · next promotedOk =>
          obtain ⟨rfl, rfl⟩ := sameIds
          cases accepted
          exact ⟨rfl, ⟨current, rfl, rfl, rfl⟩, promotedOk, by simp [promotedOk]⟩

/--
`proc` reads a pending frame while negotiating: the frame is consumed and logged;
`Ruok` is answered; another frame outside the handshake changes nothing; a
negotiation frame out of order or failing its checks ends `proc` with an error;
and `PromoteToActive` moves it on only when `promote_to_active` succeeded, for the
recorded ids with the frame's generation.
-/
theorem Connection.readStep_negotiating {conn : Connection} {m : Message} {rest : List Message}
    (negotiating : conn.supervisor = .negotiating negotiated c) (pending : conn.inbound = m :: rest) :
    ∃ effect, conn.readStep tx ds replies = some effect ∧
      effect.connection.inbound = rest ∧
      effect.connection.negotiationLog = conn.negotiationLog ++ [m] ∧
      (m = .ruok → effect.ds = ds ∧ effect.connection.written = conn.written ++ [.imok] ∧
        effect.connection.supervisor = .negotiating negotiated c ∧ effect.signal = none) ∧
      (m.negotiationStep = none → m ≠ .ruok → effect.ds = ds ∧
        effect.connection.written = conn.written ∧
        effect.connection.supervisor = .negotiating negotiated c ∧ effect.signal = none) ∧
      (∀ step, m.negotiationStep = some step → (step ≠ negotiated ∨ ¬ m.Passes ds c) →
        ∃ error, effect.connection.supervisor = .returned (.error error)) ∧
      (∀ upstairsId sessionId gen promoted, m = .promoteToActive upstairsId sessionId gen →
        effect.connection.supervisor = .negotiating 2 (some promoted) →
        promoted = ⟨upstairsId, sessionId, gen⟩ ∧
        (∃ current, c = some current ∧ current.upstairsId = upstairsId ∧
          current.sessionId = sessionId) ∧
        (ds.promoteToActive promoted tx replies.reopenAllExtents).2.1 = .ok () ∧
        effect.ds = (ds.promoteToActive promoted tx replies.reopenAllExtents).1) := by
  refine ⟨conn.negotiateStep tx ds replies negotiated c m rest,
    by simp only [Connection.readStep, negotiating, pending], Connection.moveTo_inbound _ _,
    Connection.moveTo_negotiationLog _ _, ?ruok, ?ignored, ?refused, ?promoted⟩
  case ruok =>
    rintro rfl
    exact ⟨rfl, rfl, rfl, rfl⟩
  case ignored =>
    intro ignored notRuok
    simp only [Connection.negotiateStep, negotiate_ignored ignored notRuok,
      Connection.moveTo_written, Connection.moveTo_supervisor, List.append_nil, and_self]
  case refused =>
    intro step negotiation refused
    obtain ⟨error, next⟩ : ∃ error, (negotiate ds tx negotiated c replies m).next =
        .returned (.error error) := negotiate_refused negotiation refused
    exact ⟨error, (Connection.moveTo_supervisor _ _).trans next⟩
  case promoted =>
    rintro upstairsId sessionId gen promoted rfl accepted
    simp only [Connection.negotiateStep, Connection.moveTo_supervisor] at accepted
    exact negotiate_promoted accepted

/-! ## The invariant of each connection -/

/-- What holds of every connection in every reachable state. -/
structure ConnectionInv (readOnly encrypted : Bool) (conn : Connection) : Prop where
  /-- The negotiator has accepted exactly the handshake its state says. -/
  negotiated : Negotiated readOnly encrypted conn.negotiationFrames conn.written conn.supervisor
  /-- The spawned tasks were given the connection of a complete handshake. -/
  handedOff : ∀ spawned, conn.spawned = some spawned →
    Handshake readOnly encrypted conn.negotiationFrames conn.written 4
      (some spawned.upstairsConnection)
  /-- Nothing is spawned while negotiating. -/
  quiet : ∀ negotiated c, conn.supervisor = .negotiating negotiated c → conn.spawned = none
  /-- `resp_loop` serves the connection its tasks were given. -/
  responding : ∀ c, conn.supervisor = .responding c →
    conn.spawned.map (·.upstairsConnection) = some c
  /-- A channel that may still be registered has accepted nothing. -/
  fresh : conn.MayPromote → conn.terminate.accepted = 0
  /-- The channel accepts at most one message. -/
  atMostOne : conn.terminate.accepted ≤ 1
  /-- The buffer holds only accepted messages. -/
  buffered : conn.terminate.buffer.length ≤ conn.terminate.accepted

namespace Connection

variable {conn conn' : Connection}

theorem Follows.negotiationFrames (follows : conn.Follows conn') :
    conn'.negotiationFrames = conn.negotiationFrames := by
  simp [Connection.negotiationFrames, follows.negotiationLog]

theorem Follows.mayPromote (follows : conn.Follows conn') (may : conn'.MayPromote) :
    conn.MayPromote := by
  rcases follows.supervisor with same | ⟨result, returned, -⟩
  · rwa [MayPromote, same] at may
  · simp [MayPromote, returned, Supervisor.MayPromote] at may

end Connection

namespace ConnectionInv

variable {readOnly encrypted : Bool} {conn conn' : Connection}

theorem accepted (inbound : List Message) (hungUp : Bool) :
    ConnectionInv readOnly encrypted (Connection.accepted inbound hungUp) where
  negotiated := ⟨rfl, rfl⟩
  handedOff := fun _ spawned => by cases spawned
  quiet := fun _ _ _ => rfl
  responding := fun _ responding => by cases responding
  fresh := fun _ => rfl
  atMostOne := Nat.zero_le 1
  buffered := le_refl 0

/-- A step that follows keeps the invariant. -/
theorem follows (inv : ConnectionInv readOnly encrypted conn) (follows : conn.Follows conn') :
    ConnectionInv readOnly encrypted conn' where
  negotiated := by
    rw [follows.negotiationFrames]
    rcases follows.supervisor with same | ⟨result, returned, noPanic⟩
    · exact same ▸ inv.negotiated.mono follows.written
    · exact returned ▸ noPanic
  handedOff := by
    intro spawned' found'
    have handed := follows.handedOff
    rw [found'] at handed
    obtain ⟨spawned, found, same⟩ := Option.map_eq_some'.mp handed.symm
    have same : spawned.upstairsConnection = spawned'.upstairsConnection := same
    rw [follows.negotiationFrames, ← same]
    exact (inv.handedOff spawned found).mono follows.written
  quiet := by
    intro negotiated c negotiating
    rcases follows.supervisor with same | ⟨result, returned, -⟩
    · have none := follows.handedOff
      rw [inv.quiet negotiated c (same ▸ negotiating)] at none
      exact Option.map_eq_none'.mp none
    · rw [returned] at negotiating
      cases negotiating
  responding := by
    intro c responding
    rcases follows.supervisor with same | ⟨result, returned, -⟩
    · rw [follows.handedOff]
      exact inv.responding c (same ▸ responding)
    · rw [returned] at responding
      cases responding
  fresh := fun may => follows.accepted ▸ inv.fresh (follows.mayPromote may)
  atMostOne := follows.accepted ▸ inv.atMostOne
  buffered := follows.accepted ▸ follows.buffer.trans inv.buffered

/-- Reading a frame while negotiating keeps the invariant. -/
theorem negotiateStep (inv : ConnectionInv readOnly encrypted conn) {negotiated : Nat}
    {c : Option UpstairsConnection} (negotiating : conn.supervisor = .negotiating negotiated c)
    {ds : Downstairs} (readOnlyFlag : ds.readOnly = readOnly)
    (encryptedFlag : ds.encrypted = encrypted) (tx : Nat) (replies : RegionReplies)
    (m : Message) (rest : List Message) :
    ConnectionInv readOnly encrypted
      (conn.negotiateStep tx ds replies negotiated c m rest).connection := by
  have handshake : Handshake readOnly encrypted conn.negotiationFrames conn.written negotiated c := by
    simpa [Negotiated, negotiating] using inv.negotiated
  have turn := handshake.turn readOnlyFlag encryptedFlag tx replies m
  have may := @negotiate_mayPromote ds tx negotiated c replies m
  have unspawned := inv.quiet negotiated c negotiating
  unfold Connection.negotiateStep
  generalize negotiate ds tx negotiated c replies m = n at turn may ⊢
  obtain ⟨nds, nwritten, next, signal⟩ := n
  dsimp only
  have fresh : ((Supervisor.MayPromote next) → conn.terminate.accepted = 0) := fun nextMay =>
    inv.fresh (by simpa [Connection.MayPromote, negotiating, Supervisor.MayPromote] using may nextMay)
  cases next with
  | negotiating negotiated' c' =>
      refine ⟨?_, by simp [unspawned], fun _ _ _ => by simp [unspawned], ?_, ?_, ?_, ?_⟩
      · simpa [Connection.negotiationFrames, List.filter_append] using turn
      · intro _ responding
        simp at responding
      · simpa [Connection.MayPromote] using fresh
      all_goals first | simpa using inv.atMostOne | simpa using inv.buffered
  | responding c' =>
      refine ⟨?_, ?_, ?_, ?_, ?_, ?_, ?_⟩
      · simpa [Connection.negotiationFrames, List.filter_append] using turn
      · simpa [Connection.negotiationFrames, List.filter_append, Spawned.start] using turn
      · intro _ _ negotiating'
        simp at negotiating'
      · intro _ responding
        simp only [Connection.moveTo_supervisor, Supervisor.responding.injEq] at responding
        simp [responding, Spawned.start]
      · intro nextMay
        simp [Connection.MayPromote, Supervisor.MayPromote] at nextMay
      all_goals first | simpa using inv.atMostOne | simpa using inv.buffered
  | returned result =>
      refine ⟨?_, by simp [unspawned], ?_, ?_, ?_, ?_, ?_⟩
      · simpa [Connection.negotiationFrames, List.filter_append] using turn
      · intro _ _ negotiating'
        simp at negotiating'
      · intro _ responding
        simp at responding
      · intro nextMay
        simp [Connection.MayPromote, Supervisor.MayPromote] at nextMay
      all_goals first | simpa using inv.atMostOne | simpa using inv.buffered

/-- A registered channel that has accepted nothing may take one signal. -/
theorem signal (inv : ConnectionInv readOnly encrypted conn)
    (unused : conn.terminate.accepted = 0) (promoted : ¬ conn.MayPromote) (c : UpstairsConnection) :
    ConnectionInv readOnly encrypted (conn.signal c) where
  negotiated := by simpa [Connection.negotiationFrames] using inv.negotiated
  handedOff := by simpa [Connection.negotiationFrames] using inv.handedOff
  quiet := by simpa using inv.quiet
  responding := by simpa using inv.responding
  fresh := fun may => absurd (by simpa [Connection.MayPromote] using may) promoted
  atMostOne := by
    rw [Connection.signal_terminate]
    split <;> simp [unused]
  buffered := by
    have empty := inv.buffered
    rw [unused] at empty
    rw [Connection.signal_terminate]
    split <;> simp_all

/-- With its invariant, a connection never takes the signal with no connection recorded. -/
theorem not_evictedUnset (inv : ConnectionInv readOnly encrypted conn)
    (nonempty : conn.terminate.buffer ≠ []) {negotiated : Nat}
    (unset : conn.supervisor = .negotiating negotiated none) : False := by
  have accepted : conn.terminate.accepted ≠ 0 := by
    have := inv.buffered
    have : 0 < conn.terminate.buffer.length := List.length_pos.mpr nonempty
    omega
  have handshake := inv.negotiated
  simp only [unset, Negotiated, Handshake] at handshake
  exact accepted (inv.fresh (by simp [Connection.MayPromote, unset, Supervisor.MayPromote,
    handshake.1]))

/--
One step of a connection keeps its invariant, keeps its channel's count, never
lets it promote again once it cannot, and either registers nobody or is the
promotion of a connection that could promote before the step and cannot after.
-/
theorem step (inv : ConnectionInv readOnly encrypted conn) {tx : Nat} {ds : Downstairs}
    {replies : RegionReplies} {task : Task} {effect : Effect}
    (stepped : conn.step tx ds replies task = some effect)
    (readOnlyFlag : ds.readOnly = readOnly) (encryptedFlag : ds.encrypted = encrypted) :
    ConnectionInv readOnly encrypted effect.connection ∧
    effect.connection.terminate.accepted = conn.terminate.accepted ∧
    (effect.connection.MayPromote → conn.MayPromote) ∧
    ((effect.signal = none ∧ ds.Settles effect.ds) ∨
      (conn.MayPromote ∧ ¬ effect.connection.MayPromote ∧
        ∃ promoted, effect.ds = (ds.promoteToActive promoted tx replies.reopenAllExtents).1 ∧
          effect.signal = (ds.promoteToActive promoted tx replies.reopenAllExtents).2.2)) := by
  rcases Connection.step_cases stepped with ⟨signal, settles, follows | ⟨nonempty, _, unset⟩⟩ |
    ⟨negotiated, c, m, rest, negotiating, -, rfl⟩
  · exact ⟨inv.follows follows, follows.accepted, follows.mayPromote, .inl ⟨signal, settles⟩⟩
  · exact (inv.not_evictedUnset nonempty unset).elim
  · refine ⟨inv.negotiateStep negotiating readOnlyFlag encryptedFlag tx replies m rest,
      by simp [Connection.negotiateStep], fun may => ?_, ?_⟩
    · have := negotiate_mayPromote (by simpa [Connection.negotiateStep, Connection.MayPromote]
        using may)
      simpa [Connection.MayPromote, negotiating, Supervisor.MayPromote] using this
    · rcases negotiate_registry ds tx negotiated c replies m with
        registersNobody | ⟨rfl, cannot, promoted, promotedDs, promotedSignal⟩
      · exact .inl registersNobody
      · exact .inr ⟨by simp [Connection.MayPromote, negotiating, Supervisor.MayPromote],
          by simpa [Connection.negotiateStep, Connection.MayPromote] using cannot,
          promoted, promotedDs, promotedSignal⟩

end ConnectionInv

/-! ## The invariant of the whole system -/

/-- What holds in every reachable state of the system of connections. -/
structure SystemInv (s : System) : Prop where
  /-- Every connection keeps its invariant, for the flags of the region. -/
  connections : ∀ (g : Nat) conn, s.connections[g]? = some conn →
    ConnectionInv s.ds.readOnly s.ds.encrypted conn
  /-- No two entries share a terminate channel. -/
  sendersUnique : ∀ uuid₁ uuid₂ entry₁ entry₂,
    s.ds.activeUpstairs.lookup uuid₁ = some entry₁ →
    s.ds.activeUpstairs.lookup uuid₂ = some entry₂ →
    entry₁.terminateSender = entry₂.terminateSender → uuid₁ = uuid₂
  /-- A registered channel belongs to a connection past its promotion, and has accepted nothing. -/
  registered : ∀ uuid entry, s.ds.activeUpstairs.lookup uuid = some entry →
    ∃ conn, s.connections[entry.terminateSender]? = some conn ∧
      conn.terminate.accepted = 0 ∧ ¬ conn.MayPromote

namespace SystemInv

theorem init (readOnly encrypted returnErrors : Bool) (repairAddress : Nat) :
    SystemInv (System.init readOnly encrypted returnErrors repairAddress) where
  connections := fun _ _ found => by simp [System.init] at found
  sendersUnique := fun _ _ _ _ found => by simp [System.init, Downstairs.new] at found
  registered := fun _ _ found => by simp [System.init, Downstairs.new] at found

variable {s : System}

/-- Accepting a connection keeps the invariant. -/
theorem accept (inv : SystemInv s) (inbound : List Message) (hungUp : Bool) :
    SystemInv ⟨s.ds, s.connections ++ [Connection.accepted inbound hungUp]⟩ where
  connections := by
    intro g conn found
    rw [List.getElem?_append] at found
    split_ifs at found
    · exact inv.connections g conn found
    · rcases position : g - s.connections.length with _ | later
      · simp only [position, List.getElem?_cons_zero, Option.some.injEq] at found
        exact found ▸ ConnectionInv.accepted inbound hungUp
      · simp [position] at found
  sendersUnique := inv.sendersUnique
  registered := by
    intro uuid entry found
    obtain ⟨conn, stored, unused, promoted⟩ := inv.registered uuid entry found
    refine ⟨conn, ?_, unused, promoted⟩
    rw [List.getElem?_append_left (List.getElem?_eq_some_iff.mp stored).1]
    exact stored

/-- A connection that may still promote holds no registered terminate channel. -/
theorem sender_ne_of_mayPromote (inv : SystemInv s) {g : Nat} {conn : Connection}
    (found : s.connections[g]? = some conn) (may : conn.MayPromote) {uuid : Uuid}
    {entry : ActiveUpstairs} (registeredEntry : s.ds.activeUpstairs.lookup uuid = some entry) :
    entry.terminateSender ≠ g := by
  intro same
  obtain ⟨holder, stored, -, promotedBefore⟩ := inv.registered uuid entry registeredEntry
  rw [same, found] at stored
  cases stored
  exact promotedBefore may

/-- A signal sent by a step reaches a registered connection other than the stepping one. -/
theorem signal_target (inv : SystemInv s) {g : Nat} {conn : Connection} {task : Task}
    {replies : RegionReplies} {effect : Effect} (found : s.connections[g]? = some conn)
    (stepped : conn.step g s.ds replies task = some effect) {h : Nat} {c : UpstairsConnection}
    (signalled : effect.signal = some (h, c)) :
    h ≠ g ∧ ∃ holder, s.connections[h]? = some holder ∧ holder.terminate.accepted = 0 ∧
      ¬ holder.MayPromote := by
  obtain ⟨-, -, -, signalNone | ⟨may, -, promoted, -, promotedSignal⟩⟩ :=
    (inv.connections g conn found).step stepped rfl rfl
  · simp [signalNone.1] at signalled
  · rw [promotedSignal] at signalled
    obtain ⟨uuid, entry, registeredEntry, rfl⟩ :=
      Downstairs.promoteToActive_signal_registered signalled
    obtain ⟨holder, stored, unused, promotedBefore⟩ := inv.registered uuid entry registeredEntry
    exact ⟨inv.sender_ne_of_mayPromote found may registeredEntry, holder, stored, unused,
      promotedBefore⟩

/-- After a step, every connection, the signalled one included, keeps its invariant. -/
theorem connections_after (inv : SystemInv s) {g : Nat} {conn : Connection} {task : Task}
    {replies : RegionReplies} {effect : Effect} (found : s.connections[g]? = some conn)
    (stepped : conn.step g s.ds replies task = some effect)
    (stepInv : ConnectionInv s.ds.readOnly s.ds.encrypted effect.connection) (h : Nat)
    (conn' : Connection)
    (found' : (deliver (s.connections.set g effect.connection) effect.signal)[h]? = some conn') :
    ConnectionInv s.ds.readOnly s.ds.encrypted conn' := by
  obtain ⟨base, which, reached⟩ := getElem?_deliver found'
  rcases reached with rfl | ⟨c, signalled, rfl⟩
  · rcases which with ⟨-, rfl⟩ | ⟨-, stored⟩
    · exact stepInv
    · exact inv.connections h _ stored
  · obtain ⟨notG, holder, stored, unused, promotedBefore⟩ :=
      inv.signal_target found stepped signalled
    rcases which with ⟨atG, -⟩ | ⟨-, stored'⟩
    · exact absurd atG notG
    · obtain rfl : holder = base := Option.some.inj (stored.symm.trans stored')
      exact (inv.connections h _ stored).signal unused promotedBefore c

/-- A step of a connection's tasks keeps the invariant. -/
theorem step (inv : SystemInv s) {g : Nat} {conn : Connection} {task : Task}
    {replies : RegionReplies} {effect : Effect} (found : s.connections[g]? = some conn)
    (stepped : conn.step g s.ds replies task = some effect) :
    SystemInv ⟨effect.ds, deliver (s.connections.set g effect.connection) effect.signal⟩ := by
  obtain ⟨readOnlyKept, encryptedKept⟩ := Connection.step_flags stepped
  have connInv := inv.connections g conn found
  obtain ⟨stepInv, acceptedKept, mayKept, effectCases⟩ := connInv.step stepped rfl rfl
  have bound : g < s.connections.length := (List.getElem?_eq_some_iff.mp found).1
  have connections := inv.connections_after found stepped stepInv
  rw [← readOnlyKept, ← encryptedKept] at connections
  rcases effectCases with ⟨signalNone, settles⟩ |
    ⟨may, cannot, promoted, promotedDs, promotedSignal⟩
  · refine ⟨connections, ?_, ?_⟩
    · intro uuid₁ uuid₂ entry₁ entry₂ found₁ found₂ sameSender
      obtain ⟨old₁, oldFound₁, -, sender₁⟩ := settles.entries uuid₁ entry₁ found₁
      obtain ⟨old₂, oldFound₂, -, sender₂⟩ := settles.entries uuid₂ entry₂ found₂
      exact inv.sendersUnique uuid₁ uuid₂ old₁ old₂ oldFound₁ oldFound₂
        (sender₁ ▸ sender₂ ▸ sameSender)
    · intro uuid entry' found'
      obtain ⟨old, oldFound, -, sender⟩ := settles.entries uuid entry' found'
      obtain ⟨holder, stored, unused, promotedBefore⟩ := inv.registered uuid old oldFound
      rw [sender, getElem?_deliver_of_ne (fun c => by simp [signalNone]) bound]
      split_ifs with atG
      · rw [atG, found] at stored
        cases stored
        exact ⟨effect.connection, rfl, acceptedKept.trans unused,
          fun may => promotedBefore (mayKept may)⟩
      · exact ⟨holder, stored, unused, promotedBefore⟩
  · refine ⟨connections, ?_, ?_⟩
    · intro uuid₁ uuid₂ entry₁ entry₂ found₁ found₂ sameSender
      rw [promotedDs] at found₁ found₂
      rcases Downstairs.promoteToActive_lookup found₁ with ⟨new₁, at₁⟩ | ⟨old₁, -⟩ <;>
        rcases Downstairs.promoteToActive_lookup found₂ with ⟨new₂, at₂⟩ | ⟨old₂, -⟩
      · exact at₁.trans at₂.symm
      · exact absurd (sameSender ▸ new₁) (inv.sender_ne_of_mayPromote found may old₂)
      · exact absurd (sameSender.symm ▸ new₂) (inv.sender_ne_of_mayPromote found may old₁)
      · exact inv.sendersUnique uuid₁ uuid₂ entry₁ entry₂ old₁ old₂ sameSender
    · intro uuid entry' found'
      rw [promotedDs] at found'
      rcases Downstairs.promoteToActive_lookup found' with ⟨newSender, -⟩ | ⟨old, away⟩
      · rw [newSender, getElem?_deliver_of_ne
          (fun c signalled => (inv.signal_target found stepped signalled).1 rfl) bound, if_pos rfl]
        exact ⟨effect.connection, rfl, acceptedKept.trans (connInv.fresh may), cannot⟩
      · obtain ⟨holder, stored, unused, promotedBefore⟩ := inv.registered uuid entry' old
        have unreached : ∀ c, effect.signal ≠ some (entry'.terminateSender, c) := by
          intro c signalled
          rw [promotedSignal] at signalled
          obtain ⟨signalledUuid, signalledEntry, differs, signalledFound, signalledSender⟩ :=
            away _ _ signalled
          exact differs (inv.sendersUnique _ _ _ _ signalledFound old signalledSender)
        rw [getElem?_deliver_of_ne unreached bound, if_neg (inv.sender_ne_of_mayPromote found may old)]
        exact ⟨holder, stored, unused, promotedBefore⟩

end SystemInv

/-- Every reachable state keeps the system invariant. -/
theorem Reachable.systemInv {s : System} (reach : Reachable s) : SystemInv s := by
  induction reach with
  | init readOnly encrypted returnErrors repairAddress =>
      exact .init readOnly encrypted returnErrors repairAddress
  | step action _ stepped inv =>
      cases action with
      | accept inbound hungUp =>
          cases stepped
          exact inv.accept inbound hungUp
      | step g task replies =>
          obtain ⟨conn, effect, found, taken, rfl⟩ := System.step_eq_some stepped
          exact inv.step found taken

/-! ## The terminate channels -/

/--
Every terminate channel accepts at most one message, and every signal a step
sends goes to a connection whose buffer is empty: the synchronous send that
`promote_to_active` makes while holding the mutex never waits.
-/
theorem terminate_accepts_at_most_one {s : System} (reach : Reachable s) :
    (∀ conn ∈ s.connections, conn.terminate.accepted ≤ 1) ∧
    ∀ (g : Nat) conn task replies effect, s.connections[g]? = some conn →
      conn.step g s.ds replies task = some effect →
      ∀ target message, effect.signal = some (target, message) →
        ∃ receiver, s.connections[target]? = some receiver ∧ receiver.terminate.buffer = [] := by
  have inv := reach.systemInv
  refine ⟨fun conn member => ?_, fun g conn task replies effect found stepped target message
    signalled => ?_⟩
  · obtain ⟨g, found⟩ := List.mem_iff_getElem?.mp member
    exact (inv.connections g conn found).atMostOne
  · obtain ⟨-, receiver, stored, unused, -⟩ := inv.signal_target found stepped signalled
    have buffered := (inv.connections target receiver stored).buffered
    rw [unused, Nat.le_zero, List.length_eq_zero] at buffered
    exact ⟨receiver, stored, buffered⟩

theorem terminate_accepts_at_most_one_staleRepairFrame :
    (∀ conn ∈ (System.replay staleRepairFrame).connections, conn.terminate.accepted ≤ 1) ∧
    ∀ (g : Nat) conn task replies effect, (System.replay staleRepairFrame).connections[g]? = some conn →
      conn.step g (System.replay staleRepairFrame).ds replies task = some effect →
      ∀ target message, effect.signal = some (target, message) →
        ∃ receiver, (System.replay staleRepairFrame).connections[target]? = some receiver ∧
          receiver.terminate.buffer = [] :=
  terminate_accepts_at_most_one (Reachable.replay staleRepairFrame)

/-! ## The handshake of every connection -/

/--
The complete handshake for connection `c`: the negotiation frames were exactly
`HereIAm`, `PromoteToActive` for `c`, `RegionInfoPlease` and a frame ending
negotiation, and `promote_to_active` succeeded.
-/
def Connection.CompletedHandshake (readOnly encrypted : Bool) (conn : Connection)
    (c : UpstairsConnection) : Prop :=
  ∃ hello last, last.EndsNegotiation ∧
    conn.negotiationFrames = handshakeFrames readOnly encrypted hello c ++ [last] ∧
    .youAreNowActive c.upstairsId c.sessionId c.gen ∈ conn.written

theorem Handshake.completed {readOnly encrypted : Bool} {conn : Connection} {c : UpstairsConnection}
    (handshake : Handshake readOnly encrypted conn.negotiationFrames conn.written 4 (some c)) :
    conn.CompletedHandshake readOnly encrypted c := by
  obtain ⟨-, -, active, hello, last, ends, frames⟩ := handshake
  exact ⟨hello, last, ends rfl,
    frames.trans (List.take_of_length_le (by simp [handshakeFrames])), active (by decide)⟩

/-- Once `proc` or `resp_loop` has returned, no step brings it back. -/
theorem Connection.step_returned {conn : Connection} {tx : Nat} {ds : Downstairs}
    {replies : RegionReplies} {task : Task} {effect : Effect} {result : Except ConnectionError Unit}
    (returned : conn.supervisor = .returned result)
    (stepped : conn.step tx ds replies task = some effect) :
    ∃ result', effect.connection.supervisor = .returned result' := by
  rcases Connection.step_cases stepped with
    ⟨-, -, follows | ⟨-, negotiated, negotiating⟩⟩ | ⟨negotiated, c, m, rest, negotiating, -⟩
  · rcases follows.supervisor with same | ⟨result', returned', -⟩
    · exact ⟨result, same.trans returned⟩
    · exact ⟨result', returned'⟩
  all_goals simp [returned] at negotiating

/--
What `proc` accepts, over every run.  A connection reaches `resp_loop` only
after the complete handshake for the connection it hands on, and its tasks are
given that connection; no unwrap of the recorded connection fails; a returned
`proc` stays returned.  Frame by frame, as the system runs `proc`'s read of a
pending frame while negotiating: the read can always be taken and consumes the
frame; `Ruok` is answered, other frames outside the handshake change nothing, a
negotiation frame out of order or failing its checks ends `proc` with an error,
and `PromoteToActive` moves it on only when `promote_to_active` succeeded for the
frame's ids and generation.
-/
theorem proc_negotiates_handshake {s : System} (reach : Reachable s) :
    (∀ conn ∈ s.connections, ∀ c, conn.supervisor = .responding c →
      conn.CompletedHandshake s.ds.readOnly s.ds.encrypted c ∧
        conn.spawned.map (·.upstairsConnection) = some c) ∧
    (∀ conn ∈ s.connections, ∀ spawned, conn.spawned = some spawned →
      conn.CompletedHandshake s.ds.readOnly s.ds.encrypted spawned.upstairsConnection) ∧
    (∀ conn ∈ s.connections, conn.supervisor ≠ .returned (.error .upstairsConnectionUnwrap)) ∧
    (∀ (conn : Connection) tx ds replies task effect result,
      conn.supervisor = .returned result → conn.step tx ds replies task = some effect →
        ∃ result', effect.connection.supervisor = .returned result') ∧
    (∀ g conn negotiated c (m : Message) rest replies, s.connections[g]? = some conn →
      conn.supervisor = .negotiating negotiated c → conn.inbound = m :: rest →
      ∃ effect : Effect, s.step (.step g .read replies) =
          some ⟨effect.ds, deliver (s.connections.set g effect.connection) effect.signal⟩ ∧
        effect.connection.inbound = rest ∧
        effect.connection.negotiationLog = conn.negotiationLog ++ [m] ∧
        (m = .ruok → effect.ds = s.ds ∧ effect.connection.written = conn.written ++ [.imok] ∧
          effect.connection.supervisor = .negotiating negotiated c ∧ effect.signal = none) ∧
        (m.negotiationStep = none → m ≠ .ruok → effect.ds = s.ds ∧
          effect.connection.written = conn.written ∧
          effect.connection.supervisor = .negotiating negotiated c ∧ effect.signal = none) ∧
        (∀ step, m.negotiationStep = some step → (step ≠ negotiated ∨ ¬ m.Passes s.ds c) →
          ∃ error, effect.connection.supervisor = .returned (.error error)) ∧
        (∀ upstairsId sessionId gen promoted, m = .promoteToActive upstairsId sessionId gen →
          effect.connection.supervisor = .negotiating 2 (some promoted) →
          promoted = ⟨upstairsId, sessionId, gen⟩ ∧
          (∃ current, c = some current ∧ current.upstairsId = upstairsId ∧
            current.sessionId = sessionId) ∧
          (s.ds.promoteToActive promoted g replies.reopenAllExtents).2.1 = .ok () ∧
          effect.ds = (s.ds.promoteToActive promoted g replies.reopenAllExtents).1)) := by
  have connInv : ∀ conn ∈ s.connections, ConnectionInv s.ds.readOnly s.ds.encrypted conn :=
    fun conn member => by
      obtain ⟨g, found⟩ := List.mem_iff_getElem?.mp member
      exact reach.systemInv.connections g conn found
  refine ⟨fun conn member c responding => ?_, fun conn member spawned found =>
      ((connInv conn member).handedOff spawned found).completed,
    fun conn member returned => ?_, fun _ _ _ _ _ _ _ => Connection.step_returned,
    fun g conn negotiated c m rest replies found negotiating pending => ?_⟩
  · have negotiated := (connInv conn member).negotiated
    rw [responding] at negotiated
    exact ⟨Handshake.completed negotiated, (connInv conn member).responding c responding⟩
  · have negotiated := (connInv conn member).negotiated
    rw [returned] at negotiated
    exact negotiated rfl
  · obtain ⟨effect, stepped, facts⟩ : ∃ effect, conn.readStep g s.ds replies = some effect ∧ _ :=
      Connection.readStep_negotiating negotiating pending
    exact ⟨effect, by simp only [System.step, found, Connection.step, stepped, Option.map_some'], facts⟩

theorem proc_negotiates_handshake_staleRepairFrame :
    (∀ conn ∈ (System.replay staleRepairFrame).connections, ∀ c, conn.supervisor = .responding c →
      conn.CompletedHandshake (System.replay staleRepairFrame).ds.readOnly
          (System.replay staleRepairFrame).ds.encrypted c ∧
        conn.spawned.map (·.upstairsConnection) = some c) ∧
    (∀ conn ∈ (System.replay staleRepairFrame).connections, ∀ spawned, conn.spawned = some spawned →
      conn.CompletedHandshake (System.replay staleRepairFrame).ds.readOnly
        (System.replay staleRepairFrame).ds.encrypted spawned.upstairsConnection) ∧
    (∀ conn ∈ (System.replay staleRepairFrame).connections,
      conn.supervisor ≠ .returned (.error .upstairsConnectionUnwrap)) ∧
    (∀ (conn : Connection) tx ds replies task effect result,
      conn.supervisor = .returned result → conn.step tx ds replies task = some effect →
        ∃ result', effect.connection.supervisor = .returned result') ∧
    (∀ g conn negotiated c (m : Message) rest replies, (System.replay staleRepairFrame).connections[g]? = some conn →
      conn.supervisor = .negotiating negotiated c → conn.inbound = m :: rest →
      ∃ effect : Effect, (System.replay staleRepairFrame).step (.step g .read replies) =
          some ⟨effect.ds, deliver ((System.replay staleRepairFrame).connections.set g effect.connection) effect.signal⟩ ∧
        effect.connection.inbound = rest ∧
        effect.connection.negotiationLog = conn.negotiationLog ++ [m] ∧
        (m = .ruok → effect.ds = (System.replay staleRepairFrame).ds ∧ effect.connection.written = conn.written ++ [.imok] ∧
          effect.connection.supervisor = .negotiating negotiated c ∧ effect.signal = none) ∧
        (m.negotiationStep = none → m ≠ .ruok → effect.ds = (System.replay staleRepairFrame).ds ∧
          effect.connection.written = conn.written ∧
          effect.connection.supervisor = .negotiating negotiated c ∧ effect.signal = none) ∧
        (∀ step, m.negotiationStep = some step → (step ≠ negotiated ∨ ¬ m.Passes (System.replay staleRepairFrame).ds c) →
          ∃ error, effect.connection.supervisor = .returned (.error error)) ∧
        (∀ upstairsId sessionId gen promoted, m = .promoteToActive upstairsId sessionId gen →
          effect.connection.supervisor = .negotiating 2 (some promoted) →
          promoted = ⟨upstairsId, sessionId, gen⟩ ∧
          (∃ current, c = some current ∧ current.upstairsId = upstairsId ∧
            current.sessionId = sessionId) ∧
          ((System.replay staleRepairFrame).ds.promoteToActive promoted g replies.reopenAllExtents).2.1 = .ok () ∧
          effect.ds = ((System.replay staleRepairFrame).ds.promoteToActive promoted g replies.reopenAllExtents).1)) :=
  proc_negotiates_handshake (Reachable.replay staleRepairFrame)

end CrucibleDownstairs
