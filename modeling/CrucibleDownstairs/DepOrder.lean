import CrucibleDownstairs.AckOrder

namespace CrucibleDownstairs

/-!
# Jobs start only after their dependencies were acknowledged

`in_progress` starts a job only when each of its dependencies is satisfied in the
queue's view: at or below `last_flush`, or listed in `completed`.  What the queue
counts as done was acknowledged to the upstairs first (`AckOrder`), and the
acknowledgements already written stay in the streams.

So in every reachable state, whatever the interleaving of the tasks, every job in
progress in a registered queue has each of its dependencies acknowledged on a
connection serving the queue's connection, by an ack that is not a `FlushAck`, or
covered by a flush number at or above it that is 0, was acknowledged by a
`FlushAck`, or was answered by `LastFlushAck` in negotiation.
-/

/-- Dependency `d` was acknowledged on a connection serving `c`, or lies under an acknowledged flush. -/
def DepAcked (connections : List Connection) (c : UpstairsConnection) (d : Nat) : Prop :=
  Acked connections c d false ∨
  ∃ n, d ≤ n ∧ (n = 0 ∨ Acked connections c n true ∨
    ∃ conn ∈ connections, conn.spawned.map (·.upstairsConnection) = some c ∧
      .lastFlushAck n ∈ conn.written)

/--
Every job in progress in `w'` was in progress under the same id in `w`, or has each
dependency satisfied in the view of `w`.
-/
def Work.StartsReady (w w' : Work) : Prop :=
  ∀ k job, w'.active.lookup k = some job → job.state = .inProgress →
    w.active.lookup k = some job ∨ ∀ d ∈ job.work.deps, w.Satisfied d

section

variable {connections connections' : List Connection} {c : UpstairsConnection} {d : Nat}

theorem DepAcked.mono (grows : Grows connections connections') (acked : DepAcked connections c d) :
    DepAcked connections' c d := by
  refine acked.imp (·.mono grows) fun ⟨n, covered, horizon⟩ => ⟨n, covered, ?_⟩
  refine horizon.imp_right (Or.imp (·.mono grows) ?_)
  rintro ⟨conn, member, serves, answered⟩
  obtain ⟨conn', member', grown, kept⟩ := grows conn member
  exact ⟨conn', member', kept c serves, grown answered⟩

/-- What the queue's view counts as satisfied was acknowledged, or lies under an acknowledged flush. -/
theorem DoneAcked.depAcked {w : Work} (done : DoneAcked connections c w)
    (satisfied : w.Satisfied d) : DepAcked connections c d := by
  rcases satisfied with covered | listed
  · exact .inr ⟨w.lastFlush, covered, done.2⟩
  · exact .inl (done.1 d listed)

end

/-! ## What each step starts -/

namespace Work

theorem startsReady_refl (w : Work) : w.StartsReady w :=
  fun _ _ found _ => .inl found

theorem startsReady_addWork (w : Work) (c : UpstairsConnection) (d : Nat) (work : IOop) :
    w.StartsReady (w.addWork d ⟨c, d, work, .new⟩) := by
  intro k job found running
  rw [lookup_addWork] at found
  split_ifs at found
  · cases found
    cases running
  · exact .inl found

/-- `in_progress` starts only a job whose dependencies are all satisfied. -/
theorem startsReady_inProgress (w : Work) (d : Nat) : w.StartsReady (w.inProgress d).1 := by
  intro k job found running
  rcases inProgress_cases w d with ⟨same, -⟩ | ⟨parked, -, -, moved, -⟩ |
      ⟨started, -, -, ready, moved, -⟩
  · exact .inl (same ▸ found)
  · rw [moved, lookup_addWork] at found
    split_ifs at found
    · cases found
      cases running
    · exact .inl found
  · rw [moved, lookup_addWork] at found
    split_ifs at found
    · cases found
      exact .inr ready
    · exact .inl found

theorem startsReady_completeWork (w : Work) (d : Nat) (isFlush : Bool) :
    w.StartsReady (w.completeWork d isFlush) := by
  intro k job found _
  rw [lookup_completeWork] at found
  split_ifs at found
  exact .inl found

end Work

namespace Connection

variable {conn : Connection} {tx : Nat} {ds : Downstairs} {replies : RegionReplies}
  {effect : Effect}

/-- Every step starts a job only once each of its dependencies is satisfied in its queue's view. -/
theorem step_startsReady {task : Task} (stepped : conn.step tx ds replies task = some effect) :
    ds.Evolves Work.StartsReady effect.ds := by
  by_cases work : task = .work
  · subst work
    refine (workStep_evolves Work.startsReady_refl Work.startsReady_inProgress stepped).elim id
      fun ⟨_, _, _, _, _, _, _, _, completed⟩ => completed ▸ .withWork Work.startsReady_refl fun w => ?_
    exact w.startsReady_completeWork _ _
  · refine (step_evolves Work.startsReady_refl Work.startsReady_addWork work stepped).elim id
      fun ⟨_, _, set, _⟩ => set ▸ .withWork Work.startsReady_refl fun w => ?_
    exact w.startsReady_refl

end Connection

/-! ## The invariant -/

/-- Every job in progress in a registered queue has each dependency acknowledged, or covered. -/
def DepsAcked (s : System) : Prop :=
  ∀ uuid entry, s.ds.activeUpstairs.lookup uuid = some entry →
    ∀ k job, entry.work.active.lookup k = some job → job.state = .inProgress →
      ∀ d ∈ job.work.deps, DepAcked s.connections entry.upstairsConnection d

namespace DepsAcked

variable {s s' : System}

theorem init (readOnly encrypted returnErrors : Bool) (repairAddress : Nat) :
    DepsAcked (System.init readOnly encrypted returnErrors repairAddress) :=
  fun _ _ found => by simp [System.init, Downstairs.new] at found

theorem accept (acked : DepsAcked s) (inbound : List Message) (hungUp : Bool) :
    DepsAcked ⟨s.ds, s.connections ++ [Connection.accepted inbound hungUp]⟩ :=
  fun uuid entry found k job stored running d dep =>
    (acked uuid entry found k job stored running d dep).mono
      fun conn member => ⟨conn, List.mem_append_left _ member, List.Subset.refl _, fun _ => id⟩

/-- Every step of a connection's tasks keeps every job in progress after its dependencies' acks. -/
theorem step (acked : DepsAcked s) (ackOrder : AckOrderInv s) (system : SystemInv s) {g : Nat}
    {task : Task} {replies : RegionReplies} (stepped : s.step (.step g task replies) = some s') :
    DepsAcked s' := by
  obtain ⟨conn, effect, found, taken, rfl⟩ := System.step_eq_some stepped
  have grows := Grows.step system found taken
  intro uuid entry' found' k job stored running d dep
  rcases Connection.step_startsReady taken uuid entry' found' with fresh | ⟨entry, old, same, starts⟩
  · rw [fresh] at stored
    simp at stored
  · rw [same]
    rcases starts k job stored running with kept | ready
    · exact (acked uuid entry old k job kept running d dep).mono grows
    · exact ((ackOrder.done uuid entry old).depAcked (ready d dep)).mono grows

end DepsAcked

/-- Every reachable state keeps every job in progress after its dependencies' acks. -/
theorem Reachable.depsAcked {s : System} (reach : Reachable s) : DepsAcked s := by
  induction reach with
  | init readOnly encrypted returnErrors repairAddress =>
      exact .init readOnly encrypted returnErrors repairAddress
  | step action reached stepped acked =>
      cases action with
      | accept inbound hungUp =>
          cases stepped
          exact acked.accept inbound hungUp
      | step g task replies => exact acked.step reached.ackOrderInv reached.systemInv stepped

/--
A job starts only after the upstairs was told its dependencies completed.  In every
reachable state, whatever the interleaving of the tasks, every job in progress in a
registered queue has each dependency acknowledged, by an ack that is not a
`FlushAck`, on a connection whose tasks serve the queue's connection; or the
dependency lies at or below a flush number that is 0, was acknowledged there by a
`FlushAck`, or was answered there by `LastFlushAck`.
-/
theorem started_after_deps_acked {s : System} (reach : Reachable s) :
    ∀ uuid entry, s.ds.activeUpstairs.lookup uuid = some entry →
      ∀ k job, entry.work.active.lookup k = some job → job.state = .inProgress →
        ∀ d ∈ job.work.deps,
          Acked s.connections entry.upstairsConnection d false ∨
          ∃ n, d ≤ n ∧ (n = 0 ∨ Acked s.connections entry.upstairsConnection n true ∨
            ∃ conn ∈ s.connections,
              conn.spawned.map (·.upstairsConnection) = some entry.upstairsConnection ∧
              .lastFlushAck n ∈ conn.written) :=
  reach.depsAcked

/-- The run `threeJobQueue`, with its worker then through the first job and on to the flush. -/
def threeJobFlushStarted : List Action :=
  threeJobQueue ++ List.replicate 8 (.step 0 .work RegionReplies.healthy)

theorem started_after_deps_acked_threeJobFlushStarted :
    ((System.replay threeJobFlushStarted).ds.activeUpstairs.entries.map fun entry =>
        (entry.2.work.active.entries.filter fun job => job.2.state = .inProgress).map
          fun job => (job.1, job.2.work.deps)) = [[(1001, [1000])]] ∧
    ∀ uuid entry, (System.replay threeJobFlushStarted).ds.activeUpstairs.lookup uuid = some entry →
      ∀ k job, entry.work.active.lookup k = some job → job.state = .inProgress →
        ∀ d ∈ job.work.deps,
          Acked (System.replay threeJobFlushStarted).connections entry.upstairsConnection d false ∨
          ∃ n, d ≤ n ∧ (n = 0 ∨
            Acked (System.replay threeJobFlushStarted).connections entry.upstairsConnection n true ∨
            ∃ conn ∈ (System.replay threeJobFlushStarted).connections,
              conn.spawned.map (·.upstairsConnection) = some entry.upstairsConnection ∧
              .lastFlushAck n ∈ conn.written) :=
  ⟨by decide, started_after_deps_acked (Reachable.replay threeJobFlushStarted)⟩

end CrucibleDownstairs
