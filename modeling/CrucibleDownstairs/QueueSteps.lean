import CrucibleDownstairs.Eviction

namespace CrucibleDownstairs

/-!
# What each step does to the queues

The invariants of the queues over whole runs are derived from one statement per
kind of step.  Every step other than the worker's keeps each queue it leaves up
to any relation `P` that adding a job keeps, or is the `LastFlush` turn of
negotiation, which answers `LastFlushAck` and starts `resp_loop`: promotions only
install fresh queues, and disconnects only drop them.  Only the worker's own step
moves the worker, and `resp_loop` starts it waiting.
-/

namespace Downstairs

/-- Every entry after is fresh, or was there with the same connection and a queue related by `P`. -/
def Evolves (P : Work → Work → Prop) (ds ds' : Downstairs) : Prop :=
  ∀ uuid entry', ds'.activeUpstairs.lookup uuid = some entry' →
    entry'.work = Work.new ∨
    ∃ entry, ds.activeUpstairs.lookup uuid = some entry ∧
      entry'.upstairsConnection = entry.upstairsConnection ∧ P entry.work entry'.work

variable {P : Work → Work → Prop} {ds : Downstairs} {c : UpstairsConnection}

/-- A call under the work lock changes at most the locked entry's queue. -/
theorem withWork_lookup {operation : Work → Work × α} {uuid : Uuid} {entry' : ActiveUpstairs}
    (found : (ds.withWork c operation).1.activeUpstairs.lookup uuid = some entry') :
    ds.activeUpstairs.lookup uuid = some entry' ∨
      ∃ entry, ds.activeUpstairs.lookup uuid = some entry ∧ entry.upstairsConnection = c ∧
        entry' = { entry with work := (operation entry.work).1 } := by
  unfold withWork at found
  split at found
  · exact .inl found
  · next entry lock =>
      obtain ⟨stored, mine⟩ := workLock_eq_ok.mp lock
      rw [lookup_setWork] at found
      split_ifs at found with same
      · cases found
        exact .inr ⟨entry, by rw [same, mine]; exact stored, mine, rfl⟩
      · exact .inl found

/-- The `LastFlush` turn changes nothing when it fails. -/
theorem setLastFlush_error {n : Nat} {fault : Fault}
    (failed : (ds.setLastFlush c n).2 = .error fault) : (ds.setLastFlush c n).1 = ds := by
  unfold setLastFlush withWork at failed ⊢
  split at failed
  · rfl
  · cases failed

namespace Evolves

theorem of_activeUpstairs (reflexive : ∀ w, P w w) {ds' : Downstairs} (same : ds'.activeUpstairs = ds.activeUpstairs) :
    ds.Evolves P ds' :=
  fun _ entry' found => .inr ⟨entry', same ▸ found, rfl, reflexive _⟩

theorem refl (reflexive : ∀ w, P w w) (ds : Downstairs) : ds.Evolves P ds :=
  of_activeUpstairs reflexive rfl

theorem withWork (reflexive : ∀ w, P w w) {operation : Work → Work × α} (keeps : ∀ w, P w (operation w).1) :
    ds.Evolves P (ds.withWork c operation).1 := by
  intro uuid entry' found
  rcases withWork_lookup found with old | ⟨entry, stored, -, rfl⟩
  · exact .inr ⟨entry', old, rfl, reflexive _⟩
  · exact .inr ⟨entry, stored, rfl, keeps entry.work⟩

theorem addWork (reflexive : ∀ w, P w w) {dsId : Nat} {work : IOop}
    (adds : ∀ w, P w (w.addWork dsId ⟨c, dsId, work, .new⟩)) :
    ds.Evolves P (ds.addWork c dsId work).1 := by
  unfold Downstairs.addWork
  split_ifs
  · exact refl reflexive ds
  · exact withWork reflexive adds

theorem inProgress (reflexive : ∀ w, P w w) {dsId : Nat}
    (keeps : ∀ w, P w (w.inProgress dsId).1) : ds.Evolves P (ds.inProgress c dsId).1 :=
  withWork reflexive keeps

theorem clearActive (reflexive : ∀ w, P w w) : ds.Evolves P (ds.clearActive c).1 := by
  unfold Downstairs.clearActive
  split
  · exact refl reflexive ds
  · next entry lock =>
      intro uuid entry' found
      obtain ⟨-, mine⟩ := workLock_eq_ok.mp lock
      have other : uuid ≠ c.upstairsId := by
        rintro rfl
        simp at found
      rw [AList.lookup_erase_ne other, lookup_setWork, if_neg (mine ▸ other)] at found
      exact .inr ⟨entry', found, rfl, reflexive _⟩

theorem promoteToActive (reflexive : ∀ w, P w w) (tx : Nat) (reply : Except CrucibleError Unit) :
    ds.Evolves P (ds.promoteToActive c tx reply).1 := by
  intro uuid entry' found
  rcases promoteToActive_entry found with rfl | old
  · exact .inl rfl
  · exact .inr ⟨entry', old, rfl, reflexive _⟩

end Evolves

end Downstairs

section

variable {P : Work → Work → Prop}

/-- `proc_frame` changes the registry only through `submit`; every other frame leaves it alone. -/
theorem procFrame_registry (ds : Downstairs) (c : UpstairsConnection) (replies : RegionReplies)
    (m : Message) :
    (∃ upstairsId sessionId jobId work,
      procFrame ds c replies m = submit ds c upstairsId sessionId jobId work) ∨
    (procFrame ds c replies m).1.activeUpstairs = ds.activeUpstairs := by
  cases m
  case write | flush | writeUnwritten | readRequest => exact .inl ⟨_, _, _, _, rfl⟩
  case extentClose =>
    simp only [procFrame]
    split_ifs <;> exact .inr rfl
  all_goals exact .inr rfl

/-- `proc_frame` keeps every queue up to `P`. -/
theorem procFrame_evolves (reflexive : ∀ w, P w w)
    (adds : ∀ w c dsId work, P w (w.addWork dsId ⟨c, dsId, work, .new⟩)) (ds : Downstairs)
    (c : UpstairsConnection) (replies : RegionReplies) (m : Message) :
    ds.Evolves P (procFrame ds c replies m).1 := by
  rcases procFrame_registry ds c replies m with ⟨upstairsId, sessionId, jobId, work, submitted⟩ |
    same
  · rw [submitted]
    unfold submit
    split_ifs
    · exact .refl reflexive ds
    · exact .refl reflexive ds
    · exact .addWork reflexive (adds · c jobId work)
  · exact .of_activeUpstairs reflexive same

/-- The end-of-stream arm keeps every queue it leaves. -/
theorem disconnect_evolves (reflexive : ∀ w, P w w) (ds : Downstairs) (c : UpstairsConnection) :
    ds.Evolves P (disconnect ds c).1 := by
  unfold disconnect
  split
  · exact .refl reflexive ds
  · split_ifs
    · exact .clearActive reflexive
    · exact .refl reflexive ds

/--
A negotiation turn keeps every queue it leaves, unless it is the `LastFlush`
turn, which answers `LastFlushAck` and moves to `resp_loop`.
-/
theorem negotiate_evolves (reflexive : ∀ w, P w w) (ds : Downstairs) (tx negotiated : Nat)
    (recorded : Option UpstairsConnection) (replies : RegionReplies) (m : Message) :
    ds.Evolves P (negotiate ds tx negotiated recorded replies m).ds ∨
    ∃ c n, (negotiate ds tx negotiated recorded replies m).ds = (ds.setLastFlush c n).1 ∧
      .lastFlushAck n ∈ (negotiate ds tx negotiated recorded replies m).written ∧
      (negotiate ds tx negotiated recorded replies m).next = .responding c := by
  cases m <;> dsimp only [negotiate]
  case promoteToActive =>
    split_ifs
    · exact .inl (.refl reflexive ds)
    split
    · exact .inl (.refl reflexive ds)
    · split_ifs
      · split <;> exact .inl (.promoteToActive reflexive _ _)
      · exact .inl (.refl reflexive ds)
  case lastFlush n =>
    split_ifs
    · exact .inl (.refl reflexive ds)
    split
    · exact .inl (.refl reflexive ds)
    · next current =>
        split
        · next fault failed =>
            rw [Downstairs.setLastFlush_error failed]
            exact .inl (.refl reflexive ds)
        · exact .inr ⟨current, n, rfl, by simp, rfl⟩
  all_goals (repeat' split) <;> exact .inl (.refl reflexive ds)

namespace Connection

variable {conn : Connection} {tx : Nat} {ds : Downstairs} {replies : RegionReplies}
  {effect : Effect}

/-- `pf_task` keeps every queue up to `P`. -/
theorem dispatchStep_evolves (reflexive : ∀ w, P w w)
    (adds : ∀ w c dsId work, P w (w.addWork dsId ⟨c, dsId, work, .new⟩))
    (stepped : conn.dispatchStep ds replies = some effect) : ds.Evolves P effect.ds := by
  unfold dispatchStep at stepped
  repeat' split at stepped
  all_goals cases stepped
  all_goals first
    | exact .refl reflexive ds
    | exact procFrame_evolves reflexive adds ds _ replies _

/--
`do_work_task` keeps every queue up to `P` when `in_progress` does, unless it is the
`complete_work` after an ack was written, which leaves the written frames and the
served connection as they were.
-/
theorem workStep_evolves (reflexive : ∀ w, P w w) (starts : ∀ w dsId, P w (w.inProgress dsId).1)
    (stepped : conn.workStep ds replies = some effect) :
    ds.Evolves P effect.ds ∨
    ∃ spawned jobId m rest, conn.spawned = some spawned ∧
      spawned.worker = .completing jobId m rest ∧ effect.connection.written = conn.written ∧
      effect.connection.spawned.map (·.upstairsConnection) = some spawned.upstairsConnection ∧
      effect.ds = (ds.completeWork spawned.upstairsConnection jobId m).1 := by
  unfold workStep at stepped
  split at stepped
  · cases stepped
  · next spawned found =>
      have moved : ∀ {ds' : Downstairs} {worker : Worker}, ds.Evolves P ds' →
          conn.moveWorker spawned ds' worker = some effect → ds.Evolves P effect.ds := by
        rintro ds' worker evolves ⟨⟩
        exact evolves
      split at stepped
      · split_ifs at stepped
        · cases stepped
          exact .inl (.refl reflexive ds)
        · exact .inl (moved (.refl reflexive ds) stepped)
      · exact .inl (moved (.refl reflexive ds) stepped)
      · exact .inl (moved (.refl reflexive ds) stepped)
      · exact .inl (moved (.refl reflexive ds) stepped)
      · exact .inl (moved (.inProgress reflexive (starts · _)) stepped)
      · exact .inl (moved (.of_activeUpstairs reflexive (Downstairs.doWork_activeUpstairs ..).1)
          stepped)
      · split_ifs at stepped
        · exact .inl (moved (.refl reflexive ds) stepped)
        · cases stepped
          exact .inl (.refl reflexive ds)
      · next jobId m rest completing =>
          cases stepped
          exact .inr ⟨spawned, jobId, m, rest, found, completing, rfl, rfl, rfl⟩
      · cases stepped

/--
A step of any task but the worker and the dispatcher keeps every queue it leaves up
to `P`, unless it is the `LastFlush` turn, which answers `LastFlushAck` on a
connection that then serves the connection whose horizon it set.
-/
theorem step_evolves_of_ne (reflexive : ∀ w, P w w) {task : Task} (notWork : task ≠ .work)
    (notDispatch : task ≠ .dispatch) (stepped : conn.step tx ds replies task = some effect) :
    ds.Evolves P effect.ds ∨
    ∃ c n, effect.ds = (ds.setLastFlush c n).1 ∧ .lastFlushAck n ∈ effect.connection.written ∧
      effect.connection.spawned.map (·.upstairsConnection) = some c := by
  cases task
  case work => exact absurd rfl notWork
  case dispatch => exact absurd rfl notDispatch
  case read =>
    simp only [step, readStep] at stepped
    split at stepped
    · next negotiated recorded m rest _ _ =>
        cases stepped
        refine (negotiate_evolves reflexive ds tx negotiated recorded replies m).imp_right
          fun ⟨c, n, same, answered, next⟩ => ⟨c, n, same, ?_, ?_⟩
        · simp [negotiateStep, answered]
        · simp [negotiateStep, next, moveTo, Spawned.start]
    all_goals
      repeat' split at stepped
      all_goals cases stepped
    all_goals first
      | exact .inl (.refl reflexive ds)
      | exact .inl (disconnect_evolves reflexive ds _)
  all_goals
    simp only [step, evictedStep, timeoutStep, taskEndedStep] at stepped
    repeat' split at stepped
    all_goals cases stepped
    all_goals exact .inl (.refl reflexive ds)

/-- A step of any task but the worker keeps every queue up to `P`, or is the `LastFlush` turn. -/
theorem step_evolves (reflexive : ∀ w, P w w)
    (adds : ∀ w c dsId work, P w (w.addWork dsId ⟨c, dsId, work, .new⟩)) {task : Task}
    (notWork : task ≠ .work) (stepped : conn.step tx ds replies task = some effect) :
    ds.Evolves P effect.ds ∨
    ∃ c n, effect.ds = (ds.setLastFlush c n).1 ∧ .lastFlushAck n ∈ effect.connection.written ∧
      effect.connection.spawned.map (·.upstairsConnection) = some c := by
  by_cases dispatch : task = .dispatch
  · subst dispatch
    exact .inl (dispatchStep_evolves reflexive adds stepped)
  · exact step_evolves_of_ne reflexive notWork dispatch stepped

end Connection

end

/-! ## The connections after a step -/

theorem length_deliver (connections : List Connection)
    (signal : Option (Nat × UpstairsConnection)) :
    (deliver connections signal).length = connections.length := by
  cases signal <;> simp [deliver]

/--
After connection `g` moves to `updated` and a signal is delivered, the connection at
each old index has the frames and tasks of `updated` at `g`, and of the old one
elsewhere.
-/
theorem deliver_frames {connections : List Connection} {h : Nat} {base : Connection} (g : Nat)
    (updated : Connection) (signal : Option (Nat × UpstairsConnection))
    (found : connections[h]? = some base) :
    ∃ conn', (deliver (connections.set g updated) signal)[h]? = some conn' ∧
      (h = g → conn'.written = updated.written ∧ conn'.spawned = updated.spawned) ∧
      (h ≠ g → conn'.written = base.written ∧ conn'.spawned = base.spawned) := by
  have bound : h < (deliver (connections.set g updated) signal).length := by
    rw [length_deliver, List.length_set]
    exact (List.getElem?_eq_some_iff.mp found).1
  refine ⟨_, List.getElem?_eq_getElem bound, ?_⟩
  obtain ⟨origin, fromOrigin, reached⟩ := getElem?_deliver (List.getElem?_eq_getElem bound)
  have kept : (deliver (connections.set g updated) signal)[h].written = origin.written ∧
      (deliver (connections.set g updated) signal)[h].spawned = origin.spawned := by
    rcases reached with same | ⟨c, -, same⟩ <;> rw [same] <;> simp
  refine ⟨fun atG => ?_, fun elsewhere => ?_⟩
  · rcases fromOrigin with ⟨-, rfl⟩ | ⟨different, -⟩
    · exact kept
    · exact absurd atG different
  · rcases fromOrigin with ⟨atG, -⟩ | ⟨-, stored⟩
    · exact absurd atG elsewhere
    · rw [found] at stored
      cases stored
      exact kept

/-- The tasks of some connection satisfy `P`. -/
def Served (connections : List Connection) (P : Spawned → Prop) : Prop :=
  ∃ conn ∈ connections, ∃ spawned, conn.spawned = some spawned ∧ P spawned

namespace Served

variable {connections : List Connection} {P : Spawned → Prop} {g : Nat} {conn updated : Connection}
  {signal : Option (Nat × UpstairsConnection)}

theorem accept (served : Served connections P) (accepted : Connection) :
    Served (connections ++ [accepted]) P :=
  let ⟨conn, member, spawned, stored, holds⟩ := served
  ⟨conn, List.mem_append_left _ member, spawned, stored, holds⟩

/-- The stepped connection's tasks, as they stand after the step, satisfy `P`. -/
theorem own (found : connections[g]? = some conn) {spawned' : Spawned}
    (stored : updated.spawned = some spawned') (holds : P spawned') :
    Served (deliver (connections.set g updated) signal) P := by
  obtain ⟨conn', stored', atG, -⟩ := deliver_frames g updated signal found
  exact ⟨conn', List.mem_iff_getElem?.mpr ⟨g, stored'⟩, spawned', (atG rfl).2.trans stored, holds⟩

/-- What some tasks satisfied they still satisfy, when the stepped connection's tasks keep it. -/
theorem step (served : Served connections P) (found : connections[g]? = some conn)
    (keep : ∀ spawned, conn.spawned = some spawned → P spawned →
      ∃ spawned', updated.spawned = some spawned' ∧ P spawned') :
    Served (deliver (connections.set g updated) signal) P := by
  obtain ⟨other, member, spawned, stored, holds⟩ := served
  obtain ⟨h, otherFound⟩ := List.mem_iff_getElem?.mp member
  by_cases same : h = g
  · subst same
    rw [found] at otherFound
    cases otherFound
    obtain ⟨spawned', updatedSpawned, holds'⟩ := keep spawned stored holds
    exact own found updatedSpawned holds'
  · obtain ⟨conn', stored', -, elsewhere⟩ := deliver_frames g updated signal otherFound
    exact ⟨conn', List.mem_iff_getElem?.mpr ⟨h, stored'⟩, spawned,
      (elsewhere same).2.trans stored, holds⟩

end Served

/-! ## The worker -/

namespace Connection

variable {conn : Connection} {tx : Nat} {ds : Downstairs} {replies : RegionReplies}
  {effect : Effect}

/-- Moving the negotiator on keeps the worker, or starts it waiting. -/
theorem moveTo_worker (conn : Connection) (next : Supervisor) :
    (conn.moveTo next).spawned.map (·.worker) = conn.spawned.map (·.worker) ∨
      (conn.moveTo next).spawned.map (·.worker) = some .waiting := by
  cases next <;> simp [moveTo, Spawned.start]

/--
Only the worker's own step moves it; a negotiation turn may start it, waiting, in
`resp_loop`.
-/
theorem step_worker {task : Task} (notWork : task ≠ .work)
    (stepped : conn.step tx ds replies task = some effect) :
    effect.connection.spawned.map (·.worker) = conn.spawned.map (·.worker) ∨
      (∃ negotiated c, conn.supervisor = .negotiating negotiated c) ∧
        effect.connection.spawned.map (·.worker) = some .waiting := by
  cases task
  case work => exact absurd rfl notWork
  case read =>
    simp only [step, readStep] at stepped
    split at stepped
    · next negotiated recorded m rest negotiating _ =>
        cases stepped
        exact (moveTo_worker _ _).imp_right fun waiting =>
          ⟨⟨negotiated, recorded, negotiating⟩, waiting⟩
    all_goals
      repeat' split at stepped
      all_goals cases stepped
    all_goals first
      | exact .inl rfl
      | exact .inl (by simp [*])
  case dispatch =>
    simp only [step, dispatchStep] at stepped
    repeat' split at stepped
    all_goals cases stepped
    all_goals exact .inl (by simp [*])
  all_goals
    simp only [step, evictedStep, timeoutStep, taskEndedStep] at stepped
    repeat' split at stepped
    all_goals cases stepped
    all_goals exact .inl rfl

end Connection

end CrucibleDownstairs
