import CrucibleDownstairs.QueueSteps
import CrucibleDownstairs.WorkerPass
import Mathlib.Data.Prod.Lex

namespace CrucibleDownstairs

/-!
# The tasks of a closed connection return

When `proc` or `resp_loop` returns, it drops the frame reader, the sender of
`message_channel` and its handle on the sender of `job_channel`.  `pf_task` then
takes the frames left in its channel and returns; once it has, no sender of
`job_channel` is left, and `do_work_task` finishes the laps it was notified for and
returns.  Neither task waits for another connection.

So, whatever the interleaving with the other connections and whatever the region
answers, the tasks of a connection whose negotiator has returned take only finitely
many more steps, and until both have returned one of them can move: with a
scheduler that keeps running a task that can move, both return.  What is left of
them is measured lexicographically: the frames left in the channel, each of which
may notify the worker once, with the notifications waiting; then the worker's point
in its lap; then the ids it has left to offer to `in_progress`.
-/

namespace Worker

/-- How far the worker is from waiting again, by the point of its lap it waits at. -/
def rank : Worker → Nat
  | .finished _ => 0
  | .waiting => 1
  | .scanning _ | .working .. | .acking .. | .completing .. => 2
  | .listing => 3
  | .woken => 4

/-- The calls left in the scan of the listed ids: four for each id still to offer. -/
def lapLeft : Worker → Nat
  | .scanning ids => 4 * ids.length
  | .working _ rest => 4 * rest.length + 3
  | .acking _ _ rest => 4 * rest.length + 2
  | .completing _ _ rest => 4 * rest.length + 1
  | _ => 0

/-- Where the worker is in its lap, compared lexicographically. -/
def progress (worker : Worker) : Nat ×ₗ Nat := toLex (worker.rank, worker.lapLeft)

end Worker

namespace Spawned

/-- The steps `pf_task` has left once nothing more is sent to it: one per frame, and its return. -/
def dispatchLeft (spawned : Spawned) : Nat :=
  if spawned.dispatcher.isSome then 0 else spawned.dispatch.length + 1

/--
The notifications that may still reach the worker, with room to spare: two for
each step left to `pf_task`, which sends at most one, and those waiting.
-/
def notificationsLeft (spawned : Spawned) : Nat := 2 * spawned.dispatchLeft + spawned.jobTokens

/-- What is left of the two tasks. -/
def remaining (spawned : Spawned) : Nat ×ₗ Nat ×ₗ Nat :=
  toLex (spawned.notificationsLeft, spawned.worker.progress)

end Spawned

namespace Connection

/-- What is left of a connection's tasks; nothing if they were never spawned. -/
def remaining (conn : Connection) : Nat ×ₗ Nat ×ₗ Nat :=
  match conn.spawned with
  | none => toLex (0, toLex (0, 0))
  | some spawned => spawned.remaining

/-- One of the connection's tasks has not returned. -/
def TasksRunning (conn : Connection) : Prop :=
  ∃ spawned, conn.spawned = some spawned ∧
    (spawned.dispatcher = none ∨ ∀ result, spawned.worker ≠ .finished result)

end Connection

/-- An infinite run of the downstairs: a state and an action at every index, each step taken. -/
structure InfiniteRun where
  state : Nat → System
  action : Nat → Action
  stepped : ∀ n, (state n).step (action n) = some (state (n + 1))

/-! ## What each step spends -/

namespace Spawned

variable {spawned spawned' : Spawned}

theorem remaining_lt (spends : spawned'.notificationsLeft < spawned.notificationsLeft ∨
    spawned'.notificationsLeft = spawned.notificationsLeft ∧
      spawned'.worker.progress < spawned.worker.progress) :
    spawned'.remaining < spawned.remaining :=
  (Prod.Lex.lt_iff _ _).mpr spends

/-- `proc_frame` notifies the worker at most once. -/
theorem notificationsLeft_afterFrame (spawned : Spawned) (result : Except ConnectionError Bool) :
    (spawned.afterFrame result).notificationsLeft ≤ spawned.notificationsLeft + 1 := by
  unfold afterFrame notificationsLeft dispatchLeft
  repeat' split
  all_goals simp_all
  all_goals omega

end Spawned

namespace Connection

variable {conn : Connection} {tx : Nat} {ds : Downstairs} {replies : RegionReplies}
  {effect : Effect}

@[simp] theorem remaining_setSpawned (spawned : Spawned) :
    (conn.setSpawned spawned).remaining = spawned.remaining := rfl

theorem remaining_of_spawned {spawned : Spawned} (found : conn.spawned = some spawned) :
    conn.remaining = spawned.remaining := by
  rw [remaining, found]

theorem listening_eq_false : conn.listening = false ↔ ∃ result, conn.supervisor = .returned result := by
  unfold listening
  split <;> simp_all

/-- Every step of `pf_task` takes a frame, notifying the worker at most once, or returns. -/
theorem dispatchStep_remaining (stepped : conn.dispatchStep ds replies = some effect) :
    effect.connection.remaining < conn.remaining := by
  unfold dispatchStep at stepped
  split at stepped
  · cases stepped
  next spawned found =>
  rw [remaining_of_spawned found]
  by_cases busy : spawned.dispatcher.isSome = true
  · rw [if_pos busy] at stepped
    cases stepped
  rw [if_neg busy] at stepped
  have idle : spawned.dispatcher = none := Option.not_isSome_iff_eq_none.mp busy
  split at stepped
  · next frame rest taken =>
      cases stepped
      have notified := Spawned.notificationsLeft_afterFrame { spawned with dispatch := rest }
        (procFrame ds spawned.upstairsConnection replies frame).2.2
      refine Spawned.remaining_lt (.inl ?_)
      simp only [Spawned.notificationsLeft, Spawned.dispatchLeft, idle, taken, Option.isSome_none,
        Bool.false_eq_true, ite_false, List.length_cons] at notified ⊢
      omega
  · split at stepped
    · cases stepped
    · cases stepped
      refine Spawned.remaining_lt (.inl ?_)
      simp [Spawned.notificationsLeft, Spawned.dispatchLeft, idle]

/-- Every step of `do_work_task` takes a notification, or moves it down its lap. -/
theorem workStep_remaining (stepped : conn.workStep ds replies = some effect) :
    effect.connection.remaining < conn.remaining := by
  unfold workStep moveWorker at stepped
  split at stepped
  · cases stepped
  next spawned found =>
  rw [remaining_of_spawned found]
  have moved : ∀ worker : Worker, worker.progress < spawned.worker.progress →
      { spawned with worker := worker }.remaining < spawned.remaining :=
    fun _ lower => Spawned.remaining_lt (.inr ⟨rfl, lower⟩)
  have lower : ∀ {worker worker' : Worker}, worker'.rank < worker.rank →
      worker'.progress < worker.progress :=
    fun lower => (Prod.Lex.lt_iff _ _).mpr (.inl lower)
  have shorter : ∀ {worker worker' : Worker}, worker'.rank = worker.rank →
      worker'.lapLeft < worker.lapLeft → worker'.progress < worker.progress :=
    fun same shorter => (Prod.Lex.lt_iff _ _).mpr (.inr ⟨same, shorter⟩)
  split at stepped
  case h_1 waiting =>
    split_ifs at stepped with notified
    all_goals cases stepped
    · refine Spawned.remaining_lt (.inl ?_)
      simp only [Spawned.notificationsLeft, Spawned.dispatchLeft]
      omega
    · exact moved _ (lower (by simp [waiting, Worker.rank]))
  case h_2 woken =>
    cases stepped
    exact moved _ (lower (by split <;> simp [woken, Worker.rank]))
  case h_3 listing =>
    cases stepped
    exact moved _ (lower (by repeat' split <;> simp [listing, Worker.rank]))
  case h_4 scanning =>
    cases stepped
    exact moved _ (lower (by simp [scanning, Worker.rank]))
  case h_5 dsId rest scanning =>
    cases stepped
    refine moved _ ?_
    split
    · exact lower (by simp [scanning, Worker.rank])
    all_goals refine shorter ?_ ?_ <;> simp [scanning, Worker.rank, Worker.lapLeft] <;> omega
  case h_6 jobId rest working =>
    cases stepped
    refine moved _ ?_
    split
    · exact lower (by simp [working, Worker.rank])
    all_goals refine shorter ?_ ?_ <;> simp [working, Worker.rank, Worker.lapLeft]
  case h_7 jobId m rest acking =>
    split_ifs at stepped
    all_goals cases stepped
    · exact moved _ (lower (by simp [acking, Worker.rank]))
    · exact moved _ (shorter (by simp [acking, Worker.rank]) (by simp [acking, Worker.lapLeft]))
  case h_8 jobId m rest completing =>
    cases stepped
    refine moved _ ?_
    split
    · exact lower (by simp [completing, Worker.rank])
    · refine shorter ?_ ?_ <;> simp [completing, Worker.rank, Worker.lapLeft]
  case h_9 => cases stepped

/-- Once its negotiator has returned, only the two spawned tasks of a connection can move. -/
theorem step_task_of_closed (closed : conn.listening = false) {task : Task}
    (stepped : conn.step tx ds replies task = some effect) : task = .dispatch ∨ task = .work := by
  obtain ⟨result, returned⟩ := listening_eq_false.mp closed
  cases task
  case dispatch => exact .inl rfl
  case work => exact .inr rfl
  all_goals
    simp only [step, readStep, evictedStep, timeoutStep, taskEndedStep, returned] at stepped
    repeat' split at stepped
    all_goals cases stepped

/-- A step of a closed connection spends some of what is left, and leaves it closed. -/
theorem step_remaining (closed : conn.listening = false) {task : Task}
    (stepped : conn.step tx ds replies task = some effect) :
    effect.connection.remaining < conn.remaining ∧ effect.connection.listening = false ∧
      effect.signal = none := by
  rcases step_cases stepped with ⟨signal, -, follows | ⟨-, negotiated, negotiating⟩⟩ |
    ⟨negotiated, c, -, -, negotiating, -, -⟩
  · refine ⟨?_, ?_, signal⟩
    · rcases step_task_of_closed closed stepped with rfl | rfl
      · exact dispatchStep_remaining stepped
      · exact workStep_remaining stepped
    · rcases follows.supervisor with same | ⟨result, returned, -⟩
      · rw [listening, same]
        exact closed
      · exact listening_eq_false.mpr ⟨result, returned⟩
  all_goals simp [listening, negotiating] at closed

/-- A closed connection's tasks can move as long as one of them has not returned. -/
theorem step_of_tasksRunning (closed : conn.listening = false) (running : conn.TasksRunning)
    (tx : Nat) (ds : Downstairs) (replies : RegionReplies) :
    (conn.step tx ds replies .dispatch).isSome ∨ (conn.step tx ds replies .work).isSome := by
  obtain ⟨spawned, found, unfinished⟩ := running
  by_cases idle : spawned.dispatcher = none
  · left
    simp only [step, dispatchStep, found, idle, Option.isSome_none, Bool.false_eq_true, ite_false,
      closed]
    split <;> simp
  · right
    have working : ∀ result, spawned.worker ≠ .finished result := unfinished.resolve_left idle
    simp only [step, workStep, moveWorker, found]
    split
    · split_ifs <;> simp_all [Option.isSome_iff_ne_none]
    all_goals first | exact (working _ ‹_›).elim | simp | (split <;> rfl)

end Connection

/-! ## Whole runs -/

namespace System

variable {s s' : System} {g : Nat} {conn : Connection}

/-- A step of another connection, or an accept, leaves a closed connection as it was. -/
theorem step_closed_of_ne (found : s.connections[g]? = some conn) (closed : conn.listening = false)
    {action : Action} (stepped : s.step action = some s')
    (other : ∀ task replies, action ≠ .step g task replies) : s'.connections[g]? = some conn := by
  cases action with
  | accept inbound hungUp =>
      cases stepped
      rw [List.getElem?_append_left (List.getElem?_eq_some_iff.mp found).1]
      exact found
  | step h task replies =>
      obtain ⟨conn₀, effect, -, -, rfl⟩ := System.step_eq_some stepped
      have moved : h ≠ g := fun same => other task replies (same ▸ rfl)
      cases kept : (deliver (s.connections.set h effect.connection) effect.signal)[g]? with
      | none =>
          have bound := (List.getElem?_eq_some_iff.mp found).1
          rw [List.getElem?_eq_none_iff, length_deliver, List.length_set] at kept
          omega
      | some conn' =>
          obtain ⟨base, ⟨same, -⟩ | ⟨-, stored⟩, delivered⟩ := getElem?_deliver kept
          · exact absurd same.symm moved
          rw [found] at stored
          cases stored
          rcases delivered with rfl | ⟨c, -, rfl⟩
          · rfl
          · simp [Connection.signal, closed]

/-- A step of a closed connection's own tasks spends some of what is left, and leaves it closed. -/
theorem step_closed_self (found : s.connections[g]? = some conn) (closed : conn.listening = false)
    {task : Task} {replies : RegionReplies} (stepped : s.step (.step g task replies) = some s') :
    ∃ conn', s'.connections[g]? = some conn' ∧ conn'.listening = false ∧
      conn'.remaining < conn.remaining := by
  obtain ⟨conn₀, effect, stored, taken, rfl⟩ := System.step_eq_some stepped
  rw [found] at stored
  cases stored
  obtain ⟨spends, closed', unsignalled⟩ := Connection.step_remaining closed taken
  refine ⟨effect.connection, ?_, closed', spends⟩
  simp [deliver, unsignalled, List.getElem?_set, (List.getElem?_eq_some_iff.mp found).1]

end System

namespace InfiniteRun

variable (run : InfiniteRun) {g : Nat}

/-- A closed connection stays closed along a run, and what is left of its tasks never grows. -/
theorem closed_later {n : Nat} {conn : Connection}
    (found : (run.state n).connections[g]? = some conn) (closed : conn.listening = false) :
    ∀ j, ∃ conn', (run.state (n + j)).connections[g]? = some conn' ∧
      conn'.listening = false ∧ conn'.remaining ≤ conn.remaining := by
  intro j
  induction j with
  | zero => exact ⟨conn, found, closed, le_refl _⟩
  | succ j inductionHypothesis =>
      obtain ⟨conn', found', closed', spent⟩ := inductionHypothesis
      by_cases own : ∃ task replies, run.action (n + j) = .step g task replies
      · obtain ⟨task, replies, acted⟩ := own
        have stepped := run.stepped (n + j)
        rw [acted] at stepped
        obtain ⟨conn'', found'', closed'', spends⟩ :=
          System.step_closed_self found' closed' stepped
        exact ⟨conn'', found'', closed'', le_of_lt (lt_of_lt_of_le spends spent)⟩
      · push_neg at own
        exact ⟨conn', System.step_closed_of_ne found' closed' (run.stepped (n + j)) own,
          closed', spent⟩

/-- From any index where connection `g` is closed, its tasks take only finitely many steps. -/
theorem closed_steps_finite (left : Nat ×ₗ Nat ×ₗ Nat) :
    ∀ n conn, (run.state n).connections[g]? = some conn → conn.listening = false →
      conn.remaining = left →
      ∃ N, ∀ k ≥ N, ∀ task replies, run.action k ≠ .step g task replies := by
  induction left using WellFoundedLT.induction with
  | _ left inductionHypothesis =>
      intro n conn found closed measured
      by_cases later : ∃ k ≥ n, ∃ task replies, run.action k = .step g task replies
      · obtain ⟨k, after, task, replies, acted⟩ := later
        obtain ⟨conn', found', closed', spent⟩ := run.closed_later found closed (k - n)
        rw [Nat.add_sub_cancel' after] at found'
        have stepped := run.stepped k
        rw [acted] at stepped
        obtain ⟨conn'', found'', closed'', spends⟩ := System.step_closed_self found' closed' stepped
        exact inductionHypothesis _ (measured ▸ lt_of_lt_of_le spends spent) (k + 1) conn''
          found'' closed'' rfl
      · push_neg at later
        exact ⟨n, later⟩

end InfiniteRun

/--
The tasks of a connection whose `proc` or `resp_loop` has returned return in turn.
In every infinite run of the downstairs, whatever the interleaving with the other
connections and whatever the region answers, a connection that is closed at some
point has its tasks take only finitely many steps from there on; and as long as
`pf_task` or `do_work_task` has not returned, one of them can take a step.
-/
theorem closed_connection_tasks_return {conn : Connection} (closed : conn.listening = false) :
    (∀ (run : InfiniteRun) (n g : Nat), (run.state n).connections[g]? = some conn →
      ∃ N, ∀ k ≥ N, ∀ task replies, run.action k ≠ .step g task replies) ∧
    (conn.TasksRunning → ∀ tx ds replies,
      (conn.step tx ds replies .dispatch).isSome ∨ (conn.step tx ds replies .work).isSome) :=
  ⟨fun run n _ found => run.closed_steps_finite _ n conn found closed rfl,
    fun running => conn.step_of_tasksRunning closed running⟩

/-- The run `threeJobQueue`, then the inactivity timeout of `resp_loop` before the worker has run. -/
def threeJobTimedOut : List Action :=
  threeJobQueue ++ [.step 0 .timeout RegionReplies.healthy]

theorem closed_connection_tasks_return_threeJobTimedOut :
    ∃ conn, (System.replay threeJobTimedOut).connections[0]? = some conn ∧
      conn.spawned.map (fun spawned => (spawned.dispatch, spawned.jobTokens, spawned.worker)) =
        some ([], 3, .waiting) ∧
      conn.listening = false ∧
      (∀ (run : InfiniteRun) (n g : Nat), (run.state n).connections[g]? = some conn →
        ∃ N, ∀ k ≥ N, ∀ task replies, run.action k ≠ .step g task replies) ∧
      (conn.TasksRunning → ∀ tx ds replies,
        (conn.step tx ds replies .dispatch).isSome ∨ (conn.step tx ds replies .work).isSome) :=
  ⟨_, rfl, by decide, by decide, closed_connection_tasks_return (by decide)⟩

end CrucibleDownstairs
