import CrucibleDownstairs.Connection

namespace CrucibleDownstairs

/-!
# What one step of a connection's tasks can do

A step either reads a frame during negotiation, which may promote the connection,
or makes calls that register nobody: queue operations, a disconnect, or a region
call.  `Connection.step_cases` says this once, and the invariants of the whole
downstairs are derived from it.  Every change of the downstairs is a sequence of
calls of the registry layer or a region call, so the registry invariant holds in
every reachable state of the system of connections.
-/

namespace DsOp

/-- A sequence of calls keeps both flags of the region. -/
theorem run_flags (ops : List DsOp) (ds : Downstairs) :
    (run ops ds).readOnly = ds.readOnly ∧ (run ops ds).encrypted = ds.encrypted := by
  induction ops generalizing ds with
  | nil => exact ⟨rfl, rfl⟩
  | cons op rest inductionHypothesis =>
      obtain ⟨readOnly, encrypted⟩ := inductionHypothesis (op.apply ds)
      exact ⟨readOnly.trans (apply_flags op ds).1, encrypted.trans (apply_flags op ds).2⟩

/-- A sequence of calls keeps the registry invariant. -/
theorem run_registryInv {ds : Downstairs} (inv : RegistryInv ds) (ops : List DsOp) :
    RegistryInv (run ops ds) := by
  induction ops generalizing ds with
  | nil => exact inv
  | cons op rest inductionHypothesis => exact inductionHypothesis (inv.apply op)

end DsOp

namespace Downstairs

/-- A registry holding the single entry `⟨uuid, entry⟩`. -/
theorem lookup_of_entries_eq_singleton {registry : Registry} {uuid : Uuid}
    {entry : ActiveUpstairs} (only : registry.entries = [⟨uuid, entry⟩]) (key : Uuid) :
    registry.lookup key = if key = uuid then some entry else none := by
  by_cases same : key = uuid
  · subst same
    simp [AList.lookup, only]
  · simp [AList.lookup, only, same, Ne.symm same]

/-- `new_work` only reads the downstairs. -/
theorem newWork_fst (ds : Downstairs) (c : UpstairsConnection) : (ds.newWork c).1 = ds := by
  unfold newWork
  split
  · rfl
  · split <;> rfl

/--
The downstairs after calls that register nobody: it is reached by calls of the
registry layer or by one region call, and every entry it holds was there before,
with the same connection and terminate channel.
-/
structure Settles (ds ds' : Downstairs) : Prop where
  moves : (∃ ops : List DsOp, ds' = DsOp.run ops ds) ∨ ∃ c call, ds' = ds.logRegion c call
  entries : ∀ uuid entry', ds'.activeUpstairs.lookup uuid = some entry' →
    ∃ entry, ds.activeUpstairs.lookup uuid = some entry ∧
      entry'.upstairsConnection = entry.upstairsConnection ∧
      entry'.terminateSender = entry.terminateSender

namespace Settles

theorem refl (ds : Downstairs) : ds.Settles ds :=
  ⟨.inl ⟨[], rfl⟩, fun _ entry found => ⟨entry, found, rfl, rfl⟩⟩

theorem logRegion (ds : Downstairs) (c : UpstairsConnection) (call : RegionCall) :
    ds.Settles (ds.logRegion c call) :=
  ⟨.inr ⟨c, call, rfl⟩, fun _ entry found => ⟨entry, found, rfl, rfl⟩⟩

/-- A call a connection task makes with its own connection registers nobody. -/
theorem workCall (call : WorkCall) (ds : Downstairs) (c : UpstairsConnection) :
    ds.Settles (call.run ds c).1 where
  moves := by
    left
    cases call with
    | jobs => exact ⟨[], rfl⟩
    | newWork => exact ⟨[], newWork_fst ds c⟩
    | addWork dsId work => exact ⟨[.addWork c dsId work], rfl⟩
    | inProgress dsId => exact ⟨[.inProgress c dsId], rfl⟩
    | doWork jobId injectError readReply writeReply =>
        exact ⟨[.doWork c jobId injectError readReply writeReply], rfl⟩
    | completeWork dsId m => exact ⟨[.completeWork c dsId m], rfl⟩
    | clearActive => exact ⟨[.clearActive c], rfl⟩
  entries := by
    intro uuid entry' found
    rcases WorkCall.lookup_run call ds c uuid with same | ⟨-, gone | ⟨entry, work, old, replaced⟩⟩
    · exact ⟨entry', same ▸ found, rfl, rfl⟩
    · simp [gone] at found
    · rw [replaced] at found
      cases found
      exact ⟨entry, old, rfl, rfl⟩

/-- The `LastFlush` step registers nobody. -/
theorem setLastFlush (ds : Downstairs) (c : UpstairsConnection) (lastFlushNumber : Nat) :
    ds.Settles (ds.setLastFlush c lastFlushNumber).1 where
  moves := .inl ⟨[.setLastFlush c lastFlushNumber], rfl⟩
  entries := by
    intro uuid entry' found
    unfold Downstairs.setLastFlush withWork at found
    split at found
    · exact ⟨entry', found, rfl, rfl⟩
    · next entry lock =>
        obtain ⟨locked, rfl⟩ := workLock_eq_ok.mp lock
        rw [lookup_setWork] at found
        split_ifs at found with same
        · cases found
          exact ⟨entry, same ▸ locked, rfl, rfl⟩
        · exact ⟨entry', found, rfl, rfl⟩

/-- Settling keeps both flags of the region. -/
theorem flags {ds ds' : Downstairs} (settles : ds.Settles ds') :
    ds'.readOnly = ds.readOnly ∧ ds'.encrypted = ds.encrypted := by
  rcases settles.moves with ⟨ops, rfl⟩ | ⟨c, call, rfl⟩
  · exact DsOp.run_flags ops ds
  · exact ⟨rfl, rfl⟩

/-- Settling keeps the registry invariant. -/
theorem registryInv {ds ds' : Downstairs} (settles : ds.Settles ds') (inv : RegistryInv ds) :
    RegistryInv ds' := by
  rcases settles.moves with ⟨ops, rfl⟩ | ⟨c, call, rfl⟩
  · exact DsOp.run_registryInv inv ops
  · exact inv.logRegion c call

end Settles

/--
The three shapes of a promotion: nothing changes; the connection is registered
under its id, signalling the entry it replaces; or the single read-write entry is
signalled and dropped and the connection registered in its place.
-/
theorem promoteToActive_cases (ds : Downstairs) (c : UpstairsConnection) (tx : Nat)
    (reply : Except CrucibleError Unit) :
    ((ds.promoteToActive c tx reply).1.activeUpstairs = ds.activeUpstairs ∧
      (ds.promoteToActive c tx reply).2.2 = none) ∨
    ((ds.promoteToActive c tx reply).1.activeUpstairs = (ds.register c tx).activeUpstairs ∧
      (ds.promoteToActive c tx reply).2.2 =
        (ds.activeUpstairs.lookup c.upstairsId).map fun entry => (entry.terminateSender, c)) ∨
    ∃ uuid current, ds.activeUpstairs.entries = [⟨uuid, current⟩] ∧
      (ds.promoteToActive c tx reply).1.activeUpstairs =
        (({ ds with activeUpstairs := ds.activeUpstairs.erase uuid } : Downstairs).register
          c tx).activeUpstairs ∧
      (ds.promoteToActive c tx reply).2.2 = some (current.terminateSender, c) := by
  unfold promoteToActive
  split
  · right; left
    split <;> simp_all
  · split
    · next vacant =>
        right; left
        have absent : ds.activeUpstairs.lookup c.upstairsId = none := by
          simp [AList.lookup, vacant]
        simp [absent]
    · next uuid current only =>
        split
        · exact .inl ⟨rfl, rfl⟩
        · exact .inr (.inr ⟨uuid, current, only, rfl, rfl⟩)
    · exact .inl ⟨rfl, rfl⟩

/-- A promotion signals only the channel of an entry registered before it. -/
theorem promoteToActive_signal_registered {ds : Downstairs} {c : UpstairsConnection}
    {tx target : Nat} {reply : Except CrucibleError Unit} {message : UpstairsConnection}
    (signalled : (ds.promoteToActive c tx reply).2.2 = some (target, message)) :
    ∃ uuid entry, ds.activeUpstairs.lookup uuid = some entry ∧ entry.terminateSender = target := by
  rcases promoteToActive_cases ds c tx reply with ⟨-, none⟩ | ⟨-, some⟩ | ⟨uuid, current, only, -, some⟩
  · simp [none] at signalled
  · rw [some] at signalled
    obtain ⟨entry, found, sent⟩ := Option.map_eq_some'.mp signalled
    exact ⟨_, entry, found, (Prod.mk.inj sent).1⟩
  · rw [some] at signalled
    cases signalled
    exact ⟨uuid, current, by simp [lookup_of_entries_eq_singleton only], rfl⟩

/--
After a promotion every entry is the promoted connection's, on channel `tx`, or
an entry that was there before, stored away from the entry whose channel the
promotion signalled.
-/
theorem promoteToActive_lookup {ds : Downstairs} {c : UpstairsConnection} {tx : Nat}
    {reply : Except CrucibleError Unit} {uuid : Uuid} {entry' : ActiveUpstairs}
    (found : (ds.promoteToActive c tx reply).1.activeUpstairs.lookup uuid = some entry') :
    entry'.terminateSender = tx ∧ uuid = c.upstairsId ∨
    ds.activeUpstairs.lookup uuid = some entry' ∧
      ∀ target message, (ds.promoteToActive c tx reply).2.2 = some (target, message) →
        ∃ signalled entry, signalled ≠ uuid ∧ ds.activeUpstairs.lookup signalled = some entry ∧
          entry.terminateSender = target := by
  rcases promoteToActive_cases ds c tx reply with ⟨same, none⟩ | ⟨same, some⟩ |
    ⟨old, current, only, same, some⟩
  · rw [same] at found
    exact .inr ⟨found, fun _ _ signalled => by simp [none] at signalled⟩
  · rw [same, lookup_register] at found
    split_ifs at found with isNew
    · cases found
      exact .inl ⟨rfl, isNew⟩
    · refine .inr ⟨found, fun target message signalled => ?_⟩
      rw [some] at signalled
      obtain ⟨entry, replaced, sent⟩ := Option.map_eq_some'.mp signalled
      exact ⟨c.upstairsId, entry, Ne.symm isNew, replaced, (Prod.mk.inj sent).1⟩
  · rw [same, lookup_register] at found
    split_ifs at found with isNew
    · cases found
      exact .inl ⟨rfl, isNew⟩
    · by_cases dropped : uuid = old
      · rw [dropped, AList.lookup_erase] at found
        cases found
      · rw [AList.lookup_erase_ne dropped, lookup_of_entries_eq_singleton only,
          if_neg dropped] at found
        cases found

end Downstairs

/-! ## One connection's step -/

/-- `proc` can still call `promote_to_active`: its counter has not passed 1. -/
def Supervisor.MayPromote : Supervisor → Prop
  | .negotiating negotiated _ => negotiated ≤ 1
  | _ => False

/-- The connection's `proc` can still promote it. -/
def Connection.MayPromote (conn : Connection) : Prop :=
  conn.supervisor.MayPromote

/--
`HereIAm` changes neither the downstairs nor any channel: `proc` moves to 1 with
the hello's ids once every check passes, and returns with an error otherwise.
-/
theorem negotiate_hereIAm (ds : Downstairs) (tx negotiated : Nat)
    (upstairsConnection : Option UpstairsConnection) (replies : RegionReplies) (version : Nat)
    (upstairsId sessionId : Uuid) (gen : Nat) (readOnly encrypted : Bool) :
    (negotiate ds tx negotiated upstairsConnection replies
        (.hereIAm version upstairsId sessionId gen readOnly encrypted)).ds = ds ∧
    (negotiate ds tx negotiated upstairsConnection replies
        (.hereIAm version upstairsId sessionId gen readOnly encrypted)).signal = none ∧
    ((negotiated = 0 ∧ version = 1 ∧ readOnly = ds.readOnly ∧ encrypted = ds.encrypted ∧
        (negotiate ds tx negotiated upstairsConnection replies
          (.hereIAm version upstairsId sessionId gen readOnly encrypted)).next =
          .negotiating 1 (some ⟨upstairsId, sessionId, gen⟩)) ∨
      (¬ (negotiated = 0 ∧ version = 1 ∧ readOnly = ds.readOnly ∧ encrypted = ds.encrypted) ∧
        ∃ error, (negotiate ds tx negotiated upstairsConnection replies
          (.hereIAm version upstairsId sessionId gen readOnly encrypted)).next =
            .returned (.error error) ∧ error ≠ .upstairsConnectionUnwrap)) := by
  generalize turnDef : negotiate ds tx negotiated upstairsConnection replies
    (.hereIAm version upstairsId sessionId gen readOnly encrypted) = turn
  dsimp only [negotiate] at turnDef
  by_cases outOfOrder : negotiated ≠ 0
  · rw [if_pos outOfOrder] at turnDef
    subst turnDef
    exact ⟨rfl, rfl, .inr ⟨fun accepted => outOfOrder accepted.1, _, rfl, nofun⟩⟩
  rw [if_neg outOfOrder] at turnDef
  by_cases badVersion : version ≠ 1
  · rw [if_pos badVersion] at turnDef
    subst turnDef
    exact ⟨rfl, rfl, .inr ⟨fun accepted => badVersion accepted.2.1, _, rfl, nofun⟩⟩
  rw [if_neg badVersion] at turnDef
  by_cases readOnlyMismatch : ds.readOnly ≠ readOnly
  · rw [if_pos readOnlyMismatch] at turnDef
    subst turnDef
    exact ⟨rfl, rfl, .inr ⟨fun accepted => readOnlyMismatch accepted.2.2.1.symm, _, rfl, nofun⟩⟩
  rw [if_neg readOnlyMismatch] at turnDef
  by_cases encryptedMismatch : ds.encrypted ≠ encrypted
  · rw [if_pos encryptedMismatch] at turnDef
    subst turnDef
    exact ⟨rfl, rfl, .inr ⟨fun accepted => encryptedMismatch accepted.2.2.2.symm, _, rfl, nofun⟩⟩
  rw [if_neg encryptedMismatch] at turnDef
  subst turnDef
  exact ⟨rfl, rfl, .inl ⟨not_not.mp outOfOrder, not_not.mp badVersion,
    (not_not.mp readOnlyMismatch).symm, (not_not.mp encryptedMismatch).symm, rfl⟩⟩

/-- Only a `proc` that could promote before a frame can promote after it. -/
theorem negotiate_mayPromote {ds : Downstairs} {tx negotiated : Nat}
    {upstairsConnection : Option UpstairsConnection} {replies : RegionReplies} {m : Message}
    (may : (negotiate ds tx negotiated upstairsConnection replies m).next.MayPromote) :
    negotiated ≤ 1 := by
  cases m
  case hereIAm version upstairsId sessionId gen readOnly encrypted =>
    obtain ⟨-, -, ⟨fresh, -⟩ | ⟨-, error, returned, -⟩⟩ :=
      negotiate_hereIAm ds tx negotiated upstairsConnection replies version upstairsId sessionId gen
        readOnly encrypted
    · omega
    · rw [returned] at may
      exact may.elim
  case promoteToActive =>
    dsimp only [negotiate] at may
    split_ifs at may with outOfOrder
    · exact may.elim
    · exact (not_not.mp outOfOrder).le
  case regionInfoPlease =>
    dsimp only [negotiate] at may
    split_ifs at may
    · exact may.elim
    · simp [Supervisor.MayPromote] at may
  case lastFlush =>
    dsimp only [negotiate] at may
    split_ifs at may
    · exact may.elim
    · (repeat' split at may) <;> exact may.elim
  case extentVersionsPlease =>
    dsimp only [negotiate] at may
    split_ifs at may
    · exact may.elim
    · (repeat' split at may) <;> exact may.elim
  all_goals exact may

/--
A frame read during negotiation registers nobody, unless it is the promotion
made at counter 1, after which `proc` can never promote again.
-/
theorem negotiate_registry (ds : Downstairs) (tx negotiated : Nat)
    (upstairsConnection : Option UpstairsConnection) (replies : RegionReplies) (m : Message) :
    ((negotiate ds tx negotiated upstairsConnection replies m).signal = none ∧
      ds.Settles (negotiate ds tx negotiated upstairsConnection replies m).ds) ∨
    (negotiated = 1 ∧ ¬ (negotiate ds tx negotiated upstairsConnection replies m).next.MayPromote ∧
      ∃ promoted, (negotiate ds tx negotiated upstairsConnection replies m).ds =
          (ds.promoteToActive promoted tx replies.reopenAllExtents).1 ∧
        (negotiate ds tx negotiated upstairsConnection replies m).signal =
          (ds.promoteToActive promoted tx replies.reopenAllExtents).2.2) := by
  cases m
  case hereIAm version upstairsId sessionId gen readOnly encrypted =>
    obtain ⟨kept, silent, -⟩ := negotiate_hereIAm ds tx negotiated upstairsConnection replies version
      upstairsId sessionId gen readOnly encrypted
    exact .inl ⟨silent, by rw [kept]; exact .refl ds⟩
  case promoteToActive upstairsId sessionId gen =>
    generalize turnDef : negotiate ds tx negotiated upstairsConnection replies
      (.promoteToActive upstairsId sessionId gen) = turn
    dsimp only [negotiate] at turnDef
    by_cases inOrder : negotiated = 1
    · rw [if_neg (not_not.mpr inOrder)] at turnDef
      rcases upstairsConnection with _ | current
      · subst turnDef
        exact .inl ⟨rfl, .refl ds⟩
      · dsimp only at turnDef
        split_ifs at turnDef
        · subst turnDef
          split
          · exact .inr ⟨inOrder, not_false, _, rfl, rfl⟩
          · exact .inr ⟨inOrder, by simp [Supervisor.MayPromote], _, rfl, rfl⟩
        · subst turnDef
          exact .inl ⟨rfl, .refl ds⟩
    · rw [if_pos inOrder] at turnDef
      subst turnDef
      exact .inl ⟨rfl, .refl ds⟩
  case lastFlush lastFlushNumber =>
    dsimp only [negotiate]
    split_ifs
    · exact .inl ⟨rfl, .refl ds⟩
    · split
      · exact .inl ⟨rfl, .refl ds⟩
      · split <;> exact .inl ⟨rfl, .setLastFlush ds _ lastFlushNumber⟩
  case regionInfoPlease =>
    dsimp only [negotiate]
    split_ifs <;> exact .inl ⟨rfl, .refl ds⟩
  case extentVersionsPlease =>
    dsimp only [negotiate]
    split_ifs
    · exact .inl ⟨rfl, .refl ds⟩
    · split <;> exact .inl ⟨rfl, .refl ds⟩
  all_goals exact .inl ⟨rfl, .refl ds⟩

/-- The end-of-stream arm registers nobody and returns no unwrap panic. -/
theorem disconnect_settles (ds : Downstairs) (c : UpstairsConnection) :
    ds.Settles (disconnect ds c).1 ∧ (disconnect ds c).2 ≠ .error .upstairsConnectionUnwrap := by
  unfold disconnect
  split
  · exact ⟨.refl ds, by simp⟩
  · split_ifs
    · refine ⟨.workCall .clearActive ds c, ?_⟩
      dsimp only
      split <;> simp
    · exact ⟨.refl ds, by simp⟩

/-- `proc_frame` registers nobody. -/
theorem procFrame_settles (ds : Downstairs) (c : UpstairsConnection) (replies : RegionReplies)
    (m : Message) : ds.Settles (procFrame ds c replies m).1 := by
  have submitted : ∀ upstairsId sessionId jobId work,
      ds.Settles (submit ds c upstairsId sessionId jobId work).1 := by
    intro upstairsId sessionId jobId work
    unfold submit
    split_ifs
    · exact .refl ds
    · exact .refl ds
    · exact .workCall (.addWork jobId work) ds c
  cases m <;> dsimp only [procFrame]
  all_goals first
    | exact submitted _ _ _ _
    | exact .logRegion ds c _
    | exact .refl ds
    | split_ifs
      · exact .logRegion ds c _
      · exact .refl ds

namespace Connection

/--
A step that reads no negotiation frame: the negotiation log and the connection
handed to the spawned tasks are kept, frames are only appended, the negotiator
stays where it is or returns without an unwrap panic, and the terminate channel
only gives up messages.
-/
structure Follows (conn conn' : Connection) : Prop where
  negotiationLog : conn'.negotiationLog = conn.negotiationLog
  written : conn.written <+: conn'.written
  handedOff :
    conn'.spawned.map (·.upstairsConnection) = conn.spawned.map (·.upstairsConnection)
  supervisor : conn'.supervisor = conn.supervisor ∨
    ∃ result, conn'.supervisor = .returned result ∧ result ≠ .error .upstairsConnectionUnwrap
  accepted : conn'.terminate.accepted = conn.terminate.accepted
  buffer : conn'.terminate.buffer.length ≤ conn.terminate.buffer.length

/-- Returning, other than by an unwrap panic, follows. -/
theorem Follows.returned (conn : Connection) {result : Except ConnectionError Unit}
    (noPanic : result ≠ .error .upstairsConnectionUnwrap) :
    conn.Follows (conn.moveTo (.returned result)) :=
  ⟨by simp, by simp, by simp, .inr ⟨result, by simp, noPanic⟩, by simp, by simp⟩

/-- Moving the spawned tasks on, with the same connection, follows. -/
theorem Follows.setSpawned {conn : Connection} {spawned next : Spawned}
    (found : conn.spawned = some spawned)
    (same : next.upstairsConnection = spawned.upstairsConnection) :
    conn.Follows (conn.setSpawned next) :=
  ⟨rfl, List.prefix_refl _, by simp [found, same], .inl rfl, rfl, le_refl _⟩

variable {conn : Connection} {tx : Nat} {ds : Downstairs} {replies : RegionReplies}
  {effect : Effect}

/-- Reading a frame either negotiates or follows, registering nobody. -/
theorem readStep_cases (stepped : conn.readStep tx ds replies = some effect) :
    (effect.signal = none ∧ ds.Settles effect.ds ∧ conn.Follows effect.connection) ∨
    ∃ negotiated upstairsConnection m rest,
      conn.supervisor = .negotiating negotiated upstairsConnection ∧ conn.inbound = m :: rest ∧
      effect = conn.negotiateStep tx ds replies negotiated upstairsConnection m rest := by
  unfold readStep at stepped
  split at stepped
  · next negotiated upstairsConnection m rest supervisor inbound =>
      cases stepped
      exact .inr ⟨negotiated, upstairsConnection, m, rest, supervisor, inbound, rfl⟩
  · split_ifs at stepped
    cases stepped
    exact .inl ⟨rfl, .refl ds, .returned conn (by simp)⟩
  · next c _ _ =>
      split_ifs at stepped
      cases stepped
      obtain ⟨settles, noPanic⟩ := disconnect_settles ds c
      exact .inl ⟨rfl, settles, .returned conn noPanic⟩
  · split_ifs at stepped
    · cases stepped
      exact .inl ⟨rfl, .refl ds, rfl, List.prefix_append _ _, rfl, .inl rfl, rfl, le_refl _⟩
    · split at stepped
      · cases stepped
      · next spawned found =>
          split_ifs at stepped
          · cases stepped
            exact .inl ⟨rfl, .refl ds, rfl, List.prefix_refl _, by simp [found], .inl rfl, rfl,
              le_refl _⟩
          · cases stepped
            exact .inl ⟨rfl, .refl ds, by simp, by simp, by simp,
              .inr ⟨.error .channelClosed, by simp, by simp⟩, by simp, by simp⟩
  · next c _ _ =>
      split_ifs at stepped
      cases stepped
      obtain ⟨settles, noPanic⟩ := disconnect_settles ds c
      exact .inl ⟨rfl, settles, .returned conn noPanic⟩
  · cases stepped

/-- Taking the terminate signal follows, except for the unwrap of an unset connection. -/
theorem evictedStep_cases (stepped : conn.evictedStep ds = some effect) :
    effect.signal = none ∧ ds.Settles effect.ds ∧ (conn.Follows effect.connection ∨
      conn.terminate.buffer ≠ [] ∧ ∃ negotiated, conn.supervisor = .negotiating negotiated none) := by
  unfold evictedStep at stepped
  split at stepped
  · cases stepped
  · next next rest buffer =>
      split at stepped
      · next negotiated supervisor =>
          cases stepped
          exact ⟨rfl, .refl ds, .inr ⟨by simp [buffer], negotiated, supervisor⟩⟩
      all_goals first
        | cases stepped
          exact ⟨rfl, .refl ds, .inl ⟨by simp, by simp, by simp,
            .inr ⟨.ok (), by simp, by simp⟩, by simp, by simp [buffer]⟩⟩
        | cases stepped

/-- A timeout follows. -/
theorem timeoutStep_cases (stepped : conn.timeoutStep ds = some effect) :
    effect.signal = none ∧ ds.Settles effect.ds ∧ conn.Follows effect.connection := by
  unfold timeoutStep at stepped
  split at stepped
  all_goals first
    | cases stepped
      exact ⟨rfl, .refl ds, .returned conn (by simp)⟩
    | cases stepped

/-- Noticing that a spawned task returned follows. -/
theorem taskEndedStep_cases {worker : Bool} (stepped : conn.taskEndedStep ds worker = some effect) :
    effect.signal = none ∧ ds.Settles effect.ds ∧ conn.Follows effect.connection := by
  unfold taskEndedStep at stepped
  split at stepped
  · split_ifs at stepped
    · split at stepped
      · cases stepped
        exact ⟨rfl, .refl ds, .returned conn (by simp)⟩
      · cases stepped
    · cases stepped
      exact ⟨rfl, .refl ds, .returned conn (by simp)⟩
  · cases stepped

/-- A step of the dispatcher follows, registering nobody. -/
theorem dispatchStep_cases (stepped : conn.dispatchStep ds replies = some effect) :
    effect.signal = none ∧ ds.Settles effect.ds ∧ conn.Follows effect.connection := by
  unfold dispatchStep at stepped
  split at stepped
  · cases stepped
  · next spawned found =>
      split_ifs at stepped
      all_goals
        split at stepped
        all_goals first
          | cases stepped
            exact ⟨rfl, procFrame_settles .., rfl, List.prefix_append _ _, by simp [found],
              .inl rfl, rfl, le_refl _⟩
          | cases stepped
            exact ⟨rfl, .refl ds, .setSpawned found rfl⟩
          | cases stepped

/-- A step of the worker follows, registering nobody. -/
theorem workStep_cases (stepped : conn.workStep ds replies = some effect) :
    effect.signal = none ∧ ds.Settles effect.ds ∧ conn.Follows effect.connection := by
  unfold workStep at stepped
  split at stepped
  · cases stepped
  · next spawned found =>
      have moved : ∀ {ds' : Downstairs} {worker : Worker}, ds.Settles ds' →
          conn.moveWorker spawned ds' worker = some effect →
          effect.signal = none ∧ ds.Settles effect.ds ∧ conn.Follows effect.connection := by
        rintro ds' worker settles ⟨⟩
        exact ⟨rfl, settles, .setSpawned found rfl⟩
      split at stepped
      · split_ifs at stepped
        · cases stepped
          exact ⟨rfl, .refl ds, .setSpawned found rfl⟩
        · exact moved (.refl ds) stepped
      · exact moved (.refl ds) stepped
      · exact moved (.refl ds) stepped
      · exact moved (.refl ds) stepped
      · exact moved (.workCall (.inProgress _) ds _) stepped
      · exact moved (.workCall (.doWork _ _ _ _) ds _) stepped
      · split_ifs at stepped
        · exact moved (.refl ds) stepped
        · cases stepped
          exact ⟨rfl, .refl ds, rfl, List.prefix_append _ _, by simp [found], .inl rfl, rfl, le_refl _⟩
      · exact moved (.workCall (.completeWork _ _) ds _) stepped
      · cases stepped

/--
What one step of a connection's tasks can do: read a negotiation frame, or
register nobody and follow (taking the terminate signal with no connection
recorded is the one other move).
-/
theorem step_cases {task : Task} (stepped : conn.step tx ds replies task = some effect) :
    (effect.signal = none ∧ ds.Settles effect.ds ∧ (conn.Follows effect.connection ∨
      conn.terminate.buffer ≠ [] ∧ ∃ negotiated, conn.supervisor = .negotiating negotiated none)) ∨
    ∃ negotiated upstairsConnection m rest,
      conn.supervisor = .negotiating negotiated upstairsConnection ∧ conn.inbound = m :: rest ∧
      effect = conn.negotiateStep tx ds replies negotiated upstairsConnection m rest := by
  have following : ∀ {effect : Effect},
      (effect.signal = none ∧ ds.Settles effect.ds ∧ conn.Follows effect.connection) →
      effect.signal = none ∧ ds.Settles effect.ds ∧ (conn.Follows effect.connection ∨
        conn.terminate.buffer ≠ [] ∧ ∃ negotiated, conn.supervisor = .negotiating negotiated none) :=
    fun ⟨signal, settles, follows⟩ => ⟨signal, settles, .inl follows⟩
  cases task with
  | read => exact (readStep_cases stepped).imp_left following
  | evicted => exact .inl (evictedStep_cases stepped)
  | timeout => exact .inl (following (timeoutStep_cases stepped))
  | workerEnded => exact .inl (following (taskEndedStep_cases stepped))
  | dispatcherEnded => exact .inl (following (taskEndedStep_cases stepped))
  | dispatch => exact .inl (following (dispatchStep_cases stepped))
  | work => exact .inl (following (workStep_cases stepped))

/-- Every step keeps both flags of the region. -/
theorem step_flags {task : Task} (stepped : conn.step tx ds replies task = some effect) :
    effect.ds.readOnly = ds.readOnly ∧ effect.ds.encrypted = ds.encrypted := by
  rcases step_cases stepped with ⟨-, settles, -⟩ |
    ⟨negotiated, upstairsConnection, m, rest, -, -, rfl⟩
  · exact settles.flags
  · rcases negotiate_registry ds tx negotiated upstairsConnection replies m with
      ⟨-, settles⟩ | ⟨-, -, promoted, promotedDs, -⟩
    · exact settles.flags
    · simp only [negotiateStep, promotedDs]
      exact DsOp.apply_flags (.promoteToActive _ _ _) ds

/-- Every step keeps the registry invariant. -/
theorem step_registryInv {task : Task} (stepped : conn.step tx ds replies task = some effect)
    (inv : RegistryInv ds) : RegistryInv effect.ds := by
  rcases step_cases stepped with ⟨-, settles, -⟩ |
    ⟨negotiated, upstairsConnection, m, rest, -, -, rfl⟩
  · exact settles.registryInv inv
  · rcases negotiate_registry ds tx negotiated upstairsConnection replies m with
      ⟨-, settles⟩ | ⟨-, -, promoted, promotedDs, -⟩
    · exact settles.registryInv inv
    · simp only [negotiateStep, promotedDs]
      exact inv.promoteToActive _ _ _

end Connection

/-! ## Steps of the whole system -/

/-- A step of a connection's tasks, taken in the whole system. -/
theorem System.step_eq_some {s s' : System} {g : Nat} {task : Task} {replies : RegionReplies}
    (stepped : s.step (.step g task replies) = some s') :
    ∃ conn effect, s.connections[g]? = some conn ∧ conn.step g s.ds replies task = some effect ∧
      s' = ⟨effect.ds, deliver (s.connections.set g effect.connection) effect.signal⟩ := by
  simp only [System.step] at stepped
  split at stepped
  · cases stepped
  · next conn found =>
      obtain ⟨effect, taken, rfl⟩ := Option.map_eq_some'.mp stepped
      exact ⟨conn, effect, found, taken, rfl⟩

/--
After connection `g` moves to `updated` and a signal is delivered, each
connection is the updated one or an untouched one, possibly signalled.
-/
theorem getElem?_deliver {connections : List Connection} {g h : Nat} {updated conn' : Connection}
    {signal : Option (Nat × UpstairsConnection)}
    (found : (deliver (connections.set g updated) signal)[h]? = some conn') :
    ∃ base, (h = g ∧ base = updated ∨ h ≠ g ∧ connections[h]? = some base) ∧
      (conn' = base ∨ ∃ c, signal = some (h, c) ∧ conn' = base.signal c) := by
  have set : ∀ base, (connections.set g updated)[h]? = some base →
      h = g ∧ base = updated ∨ h ≠ g ∧ connections[h]? = some base := by
    intro base stored
    rw [List.getElem?_set] at stored
    split_ifs at stored with same
    · cases stored
      exact .inl ⟨same.symm, rfl⟩
    · exact .inr ⟨Ne.symm same, stored⟩
  cases signal with
  | none => exact ⟨conn', set conn' found, .inl rfl⟩
  | some sent =>
      obtain ⟨tx, c⟩ := sent
      simp only [deliver, List.getElem?_modify] at found
      obtain ⟨base, stored, rfl⟩ := Option.map_eq_some'.mp found
      refine ⟨base, set base stored, ?_⟩
      split_ifs with same
      · exact .inr ⟨c, by rw [same], rfl⟩
      · exact .inl rfl

/-- A connection the signal does not reach is the updated one, or untouched. -/
theorem getElem?_deliver_of_ne {connections : List Connection} {g h : Nat}
    {updated : Connection} {signal : Option (Nat × UpstairsConnection)}
    (unreached : ∀ c, signal ≠ some (h, c)) (bound : g < connections.length) :
    (deliver (connections.set g updated) signal)[h]? =
      if h = g then some updated else connections[h]? := by
  have set : (connections.set g updated)[h]? = if h = g then some updated else connections[h]? := by
    rw [List.getElem?_set]
    by_cases same : h = g
    · simp [same, bound]
    · simp [same, Ne.symm same]
  cases signal with
  | none => exact set
  | some sent =>
      obtain ⟨tx, c⟩ := sent
      have other : tx ≠ h := fun same => unreached c (by rw [same])
      simp only [deliver, List.getElem?_modify, if_neg other, Option.map_eq_map, Option.map_id']
      exact set

/-- Every reachable state of the system keeps the registry invariant of its downstairs. -/
theorem Reachable.registryInv {s : System} (reach : Reachable s) : RegistryInv s.ds := by
  induction reach with
  | init readOnly encrypted returnErrors repairAddress =>
      exact RegistryInv.new readOnly encrypted returnErrors repairAddress
  | step action _ stepped inv =>
      cases action with
      | accept inbound hungUp =>
          cases stepped
          exact inv
      | step g task replies =>
          obtain ⟨conn, effect, -, taken, rfl⟩ := System.step_eq_some stepped
          exact Connection.step_registryInv taken inv

end CrucibleDownstairs
