import CrucibleDownstairs.Work
import Mathlib.Data.Nat.Find

namespace CrucibleDownstairs

/-!
# Dependency safety of one session's queue

One session's `Work` starts empty with its flush horizon set by the `LastFlush`
step of negotiation.  The dispatcher then adds jobs and the worker repeatedly
calls `in_progress`, `do_work` (which reads the job through `get_ready_job`) and,
after sending the ack, `complete_work`.  The worker's program order is kept as
local state: ids `in_progress` handed out and not yet executed, and acks sent
whose `complete_work` is still to come.

Under the upstairs discipline on job ids and dependencies, the queue's view of a
job (`ds_id <= last_flush` or listed in `completed`) agrees with whether the job
really has been completed, in every reachable state.
-/

namespace Session

/-- A submission of the upstairs: a job id and its operation. -/
abbrev Submission := Nat × IOop

/--
The upstairs discipline on every submission of a run: distinct ids above the
negotiated flush `n`; each job depends on the nearest lower-numbered flush; each
flush depends on every job between the previous flush and itself.
-/
structure Discipline (n : Nat) (plan : List Submission) : Prop where
  idsNodup : (plan.map Prod.fst).Nodup
  idsAbove : ∀ sub ∈ plan, n < sub.1
  nearestFlushDep : ∀ job ∈ plan, ∀ flush ∈ plan, flush.2.isFlush = true →
    flush.1 < job.1 →
    (∀ other ∈ plan, other.2.isFlush = true → other.1 < job.1 → other.1 ≤ flush.1) →
    flush.1 ∈ job.2.deps
  flushCovers : ∀ flush ∈ plan, flush.2.isFlush = true → ∀ job ∈ plan,
    job.1 < flush.1 →
    (∀ other ∈ plan, other.2.isFlush = true → other.1 < flush.1 → other.1 < job.1) →
    job.1 ∈ flush.2.deps

/-- The session's queue together with the worker's position in its loop. -/
structure State where
  work : Work
  submitted : List Nat
  started : List Nat
  acked : List (Nat × Bool)

namespace State

/-- A job has really completed: it was submitted and `complete_work` removed it. -/
def Completed (s : State) (d : Nat) : Prop :=
  d ∈ s.submitted ∧ s.work.active.lookup d = none

end State

/-- The queue right after negotiation: empty, with `last_flush` set to `n`. -/
def init (n : Nat) : State where
  work := { Work.new with lastFlush := n }
  submitted := []
  started := []
  acked := []

/-- The job `Downstairs::add_work` builds for a submission of connection `c`. -/
def newJob (c : UpstairsConnection) (d : Nat) (op : IOop) : DownstairsWork where
  upstairsConnection := c
  dsId := d
  work := op
  state := .new

/-- The worker keeps the id `in_progress` returned, if any. -/
def startedAfter (started : List Nat) : Option (Nat × UpstairsConnection) → List Nat
  | some (jobId, _) => jobId :: started
  | none => started

/-- After `do_work` returns an ack, the worker owes a `complete_work` for it. -/
def ackedAfter (acked : List (Nat × Bool)) (d : Nat) :
    Option DownstairsWork → List (Nat × Bool)
  | some job => (d, job.work.isFlush) :: acked
  | none => acked

/--
One atomic step of the session: the dispatcher's `add_work` of a planned fresh
id, or a step of the worker loop.  The `is_flush` flag of `complete_work` is the
one `do_work` derived from the job (`FlushAck` exactly for flushes).
-/
inductive Step (c : UpstairsConnection) (plan : List Submission) : State → State → Prop where
  | addWork {s : State} {d : Nat} {op : IOop}
      (planned : (d, op) ∈ plan) (fresh : d ∉ s.submitted) :
      Step c plan s
        { s with work := s.work.addWork d (newJob c d op), submitted := d :: s.submitted }
  | inProgress (s : State) (d : Nat) :
      Step c plan s
        { s with work := (s.work.inProgress d).1,
                 started := startedAfter s.started (s.work.inProgress d).2 }
  | doWork {s : State} {d : Nat} {ready : Option DownstairsWork}
      (taken : d ∈ s.started) (returned : s.work.getReadyJob d = .ok ready) :
      Step c plan s
        { s with started := s.started.erase d, acked := ackedAfter s.acked d ready }
  | completeWork {s : State} {d : Nat} {isFlush : Bool} (owed : (d, isFlush) ∈ s.acked) :
      Step c plan s
        { s with work := s.work.completeWork d isFlush,
                 acked := s.acked.erase (d, isFlush) }

/-- States of the session reachable from `init n`. -/
inductive Reachable (c : UpstairsConnection) (n : Nat) (plan : List Submission) :
    State → Prop where
  | init : Reachable c n plan (init n)
  | step {s s' : State} : Reachable c n plan s → Step c plan s s' → Reachable c n plan s'

/-- The invariant of a session's queue under the discipline. -/
structure Inv (plan : List Submission) (s : State) : Prop where
  /-- Every job in flight is a planned submission stored under its own id. -/
  stored : ∀ d job, s.work.active.lookup d = some job →
    job.dsId = d ∧ (d, job.work) ∈ plan ∧ d ∈ s.submitted
  /-- Only planned ids are submitted. -/
  submittedPlanned : ∀ d ∈ s.submitted, ∃ op, (d, op) ∈ plan
  /-- The queue's view of a planned id is exactly its completion. -/
  view : ∀ sub ∈ plan, s.work.Satisfied sub.1 ↔ s.Completed sub.1
  /-- Every flush below a completed job has completed. -/
  flushesBelow : ∀ d, s.Completed d → ∀ flush ∈ plan, flush.2.isFlush = true →
    flush.1 < d → s.Completed flush.1
  /-- A job in progress has all its dependencies satisfied. -/
  runningReady : ∀ d job, s.work.active.lookup d = some job →
    job.state = .inProgress → ∀ dep ∈ job.work.deps, s.work.Satisfied dep
  /-- `completed` lists only planned jobs that are not flushes. -/
  completedNonFlush : ∀ e ∈ s.work.completed, ∃ op, (e, op) ∈ plan ∧ op.isFlush = false
  /-- Ids the worker took from `in_progress` are in progress while present. -/
  startedRunning : ∀ d ∈ s.started, ∀ job, s.work.active.lookup d = some job →
    job.state = .inProgress
  /-- Acks owed are for jobs in progress, with the flag of their operation. -/
  ackedRunning : ∀ owed ∈ s.acked, ∀ job, s.work.active.lookup owed.1 = some job →
    job.state = .inProgress ∧ owed.2 = job.work.isFlush
  startedSubmitted : ∀ d ∈ s.started, d ∈ s.submitted
  ackedSubmitted : ∀ owed ∈ s.acked, owed.1 ∈ s.submitted

namespace Discipline

variable {n : Nat} {plan : List Submission}

/-- Planned submissions with the same id carry the same operation. -/
theorem op_unique (discipline : Discipline n plan) {d : Nat} {first second : IOop}
    (firstPlanned : (d, first) ∈ plan) (secondPlanned : (d, second) ∈ plan) :
    first = second :=
  (Prod.mk.inj (List.inj_on_of_nodup_map discipline.idsNodup
    firstPlanned secondPlanned rfl)).2

/--
Above any planned flush below a job, the job depends on a flush: the nearest
one, found as the greatest flush id below the job.
-/
theorem nearestFlush (discipline : Discipline n plan) {job lower : Submission}
    (jobPlanned : job ∈ plan) (lowerPlanned : lower ∈ plan)
    (lowerFlush : lower.2.isFlush = true) (below : lower.1 < job.1) :
    ∃ flush ∈ plan, flush.2.isFlush = true ∧ lower.1 ≤ flush.1 ∧
      flush.1 < job.1 ∧ flush.1 ∈ job.2.deps := by
  classical
  let FlushBelow : Nat → Prop :=
    fun m => ∃ flush ∈ plan, flush.2.isFlush = true ∧ flush.1 = m ∧ m < job.1
  have lowerBelow : FlushBelow lower.1 := ⟨lower, lowerPlanned, lowerFlush, rfl, below⟩
  obtain ⟨flush, flushPlanned, isFlush, flushId, flushBelow⟩ :=
    Nat.findGreatest_spec (P := FlushBelow) below.le lowerBelow
  have atLeast : lower.1 ≤ flush.1 := flushId ▸ Nat.le_findGreatest below.le lowerBelow
  refine ⟨flush, flushPlanned, isFlush, atLeast, flushId ▸ flushBelow, ?_⟩
  refine discipline.nearestFlushDep job jobPlanned flush flushPlanned isFlush
    (flushId ▸ flushBelow) fun other otherPlanned otherFlush otherBelow => ?_
  exact flushId ▸ Nat.le_findGreatest otherBelow.le
    ⟨other, otherPlanned, otherFlush, rfl, otherBelow⟩

end Discipline

variable {c : UpstairsConnection} {n : Nat} {plan : List Submission} {s : State}

/-- The invariant holds right after negotiation. -/
theorem inv_init (discipline : Discipline n plan) : Inv plan (init n) where
  stored := by simp [init]
  submittedPlanned := by simp [init]
  view := by
    intro sub planned
    have above := discipline.idsAbove sub planned
    simp [init, Work.Satisfied, State.Completed]
    omega
  flushesBelow := by simp [State.Completed, init]
  runningReady := by simp [init]
  completedNonFlush := by simp [init]
  startedRunning := by simp [init]
  ackedRunning := by simp [init]
  startedSubmitted := by simp [init]
  ackedSubmitted := by simp [init]

/-- Adding a fresh id changes no job's completion. -/
theorem completed_addWork {d e : Nat} {job : DownstairsWork} (fresh : d ∉ s.submitted) :
    ({ s with work := s.work.addWork d job, submitted := d :: s.submitted } : State).Completed e ↔
      s.Completed e := by
  by_cases same : e = d
  · subst same
    simp [State.Completed, Work.lookup_addWork, fresh]
  · simp [State.Completed, Work.lookup_addWork, same]

/-- `add_work` of a planned fresh id keeps the invariant. -/
theorem Inv.addWork (inv : Inv plan s) {d : Nat} {op : IOop}
    (planned : (d, op) ∈ plan) (fresh : d ∉ s.submitted) :
    Inv plan
      { s with work := s.work.addWork d (newJob c d op), submitted := d :: s.submitted } where
  stored := by
    intro e job found
    rw [Work.lookup_addWork] at found
    split_ifs at found with same
    · subst same
      cases found
      exact ⟨rfl, planned, List.mem_cons_self _ _⟩
    · obtain ⟨stored, jobPlanned, submitted⟩ := inv.stored e job found
      exact ⟨stored, jobPlanned, List.mem_cons_of_mem _ submitted⟩
  submittedPlanned := by
    intro e member
    rcases List.mem_cons.mp member with rfl | old
    · exact ⟨op, planned⟩
    · exact inv.submittedPlanned e old
  view := fun sub subPlanned => (inv.view sub subPlanned).trans (completed_addWork fresh).symm
  flushesBelow := fun e done flush flushPlanned isFlush below =>
    (completed_addWork fresh).mpr (inv.flushesBelow e ((completed_addWork fresh).mp done)
      flush flushPlanned isFlush below)
  runningReady := by
    intro e job found running
    rw [Work.lookup_addWork] at found
    split_ifs at found
    · cases found
      cases running
    · exact inv.runningReady e job found running
  completedNonFlush := inv.completedNonFlush
  startedRunning := by
    intro e member job found
    rw [Work.lookup_addWork] at found
    split_ifs at found with same
    · exact absurd (same ▸ inv.startedSubmitted e member) fresh
    · exact inv.startedRunning e member job found
  ackedRunning := by
    intro owed member job found
    rw [Work.lookup_addWork] at found
    split_ifs at found with same
    · exact absurd (same ▸ inv.ackedSubmitted owed member) fresh
    · exact inv.ackedRunning owed member job found
  startedSubmitted := fun e member => List.mem_cons_of_mem _ (inv.startedSubmitted e member)
  ackedSubmitted := fun owed member => List.mem_cons_of_mem _ (inv.ackedSubmitted owed member)

/-- Changing the state of a present job changes no job's completion. -/
theorem completed_setState {d e : Nat} {job : DownstairsWork} {state : WorkState}
    {started : List Nat} (found : s.work.active.lookup d = some job) :
    ({ s with work := s.work.addWork d { job with state := state }, started := started } :
        State).Completed e ↔ s.Completed e := by
  by_cases same : e = d
  · subst same
    simp [State.Completed, Work.lookup_addWork, found]
  · simp [State.Completed, Work.lookup_addWork, same]

/-- Parking a `New` job in `DepWait` keeps the invariant. -/
theorem Inv.park (inv : Inv plan s) {d : Nat} {job : DownstairsWork}
    (found : s.work.active.lookup d = some job) (isNew : job.state = .new) :
    Inv plan { s with work := s.work.addWork d { job with state := .depWait },
                      started := s.started } where
  stored := by
    intro e other otherFound
    rw [Work.lookup_addWork] at otherFound
    split_ifs at otherFound with same
    · subst same
      cases otherFound
      exact inv.stored e job found
    · exact inv.stored e other otherFound
  submittedPlanned := inv.submittedPlanned
  view := fun sub subPlanned => (inv.view sub subPlanned).trans (completed_setState found).symm
  flushesBelow := fun e done flush flushPlanned isFlush below =>
    (completed_setState found).mpr (inv.flushesBelow e ((completed_setState found).mp done)
      flush flushPlanned isFlush below)
  runningReady := by
    intro e other otherFound running
    rw [Work.lookup_addWork] at otherFound
    split_ifs at otherFound
    · cases otherFound
      cases running
    · exact inv.runningReady e other otherFound running
  completedNonFlush := inv.completedNonFlush
  startedRunning := by
    intro e member other otherFound
    rw [Work.lookup_addWork] at otherFound
    split_ifs at otherFound with same
    · subst same
      have running := inv.startedRunning e member job found
      rw [isNew] at running
      cases running
    · exact inv.startedRunning e member other otherFound
  ackedRunning := by
    intro owed member other otherFound
    rw [Work.lookup_addWork] at otherFound
    split_ifs at otherFound with same
    · have running := (inv.ackedRunning owed member job (same ▸ found)).1
      rw [isNew] at running
      cases running
    · exact inv.ackedRunning owed member other otherFound
  startedSubmitted := inv.startedSubmitted
  ackedSubmitted := inv.ackedSubmitted

/-- Starting a waiting job whose dependencies are satisfied keeps the invariant. -/
theorem Inv.start (inv : Inv plan s) {d : Nat} {job : DownstairsWork}
    (found : s.work.active.lookup d = some job) (waiting : Work.Waiting job)
    (ready : ∀ dep ∈ job.work.deps, s.work.Satisfied dep) :
    Inv plan { s with work := s.work.addWork d { job with state := .inProgress },
                      started := job.dsId :: s.started } where
  stored := by
    intro e other otherFound
    rw [Work.lookup_addWork] at otherFound
    split_ifs at otherFound with same
    · subst same
      cases otherFound
      exact inv.stored e job found
    · exact inv.stored e other otherFound
  submittedPlanned := inv.submittedPlanned
  view := fun sub subPlanned => (inv.view sub subPlanned).trans (completed_setState found).symm
  flushesBelow := fun e done flush flushPlanned isFlush below =>
    (completed_setState found).mpr (inv.flushesBelow e ((completed_setState found).mp done)
      flush flushPlanned isFlush below)
  runningReady := by
    intro e other otherFound running
    rw [Work.lookup_addWork] at otherFound
    split_ifs at otherFound
    · cases otherFound
      exact ready
    · exact inv.runningReady e other otherFound running
  completedNonFlush := inv.completedNonFlush
  startedRunning := by
    intro e _ other otherFound
    rw [Work.lookup_addWork] at otherFound
    split_ifs at otherFound with same
    · cases otherFound
      rfl
    · have member : e ∈ s.started := by
        rcases List.mem_cons.mp ‹e ∈ job.dsId :: s.started› with isStarted | old
        · exact absurd (isStarted.trans (inv.stored d job found).1) same
        · exact old
      exact inv.startedRunning e member other otherFound
  ackedRunning := by
    intro owed member other otherFound
    rw [Work.lookup_addWork] at otherFound
    split_ifs at otherFound with same
    · have running := (inv.ackedRunning owed member job (same ▸ found)).1
      rcases waiting with isNew | isWaiting <;> simp_all
    · exact inv.ackedRunning owed member other otherFound
  startedSubmitted := by
    intro e member
    rcases List.mem_cons.mp member with rfl | old
    · exact (inv.stored d job found).1 ▸ (inv.stored d job found).2.2
    · exact inv.startedSubmitted e old
  ackedSubmitted := inv.ackedSubmitted

/-- `in_progress` keeps the invariant. -/
theorem Inv.inProgress (inv : Inv plan s) (d : Nat) :
    Inv plan { s with work := (s.work.inProgress d).1,
                      started := startedAfter s.started (s.work.inProgress d).2 } := by
  rcases Work.inProgress_cases s.work d with ⟨same, none⟩ |
      ⟨job, found, isNew, moved, none⟩ | ⟨job, found, waiting, ready, moved, some⟩
  · rw [same, none]
    exact inv
  · rw [moved, none]
    exact inv.park found isNew
  · rw [moved, some]
    exact inv.start found waiting ready

/-- `do_work` on an id the worker took keeps the invariant. -/
theorem Inv.doWork (inv : Inv plan s) {d : Nat} {ready : Option DownstairsWork}
    (taken : d ∈ s.started) (returned : s.work.getReadyJob d = .ok ready) :
    Inv plan { s with started := s.started.erase d, acked := ackedAfter s.acked d ready } where
  stored := inv.stored
  submittedPlanned := inv.submittedPlanned
  view := inv.view
  flushesBelow := inv.flushesBelow
  runningReady := inv.runningReady
  completedNonFlush := inv.completedNonFlush
  startedRunning := fun e member => inv.startedRunning e (List.mem_of_mem_erase member)
  ackedRunning := by
    cases ready with
    | none =>
        exact inv.ackedRunning
    | some job =>
        intro owed member other otherFound
        rcases List.mem_cons.mp member with rfl | old
        · obtain ⟨found, running⟩ := Work.lookup_of_getReadyJob returned
          rw [found] at otherFound
          cases otherFound
          exact ⟨running, rfl⟩
        · exact inv.ackedRunning owed old other otherFound
  startedSubmitted := fun e member => inv.startedSubmitted e (List.mem_of_mem_erase member)
  ackedSubmitted := by
    cases ready with
    | none =>
        exact inv.ackedSubmitted
    | some job =>
        intro owed member
        rcases List.mem_cons.mp member with rfl | old
        · exact inv.startedSubmitted d taken
        · exact inv.ackedSubmitted owed old

/-- The assertions of `get_ready_job` hold for every id the worker took. -/
theorem Inv.getReadyJob_ok (inv : Inv plan s) {d : Nat} (taken : d ∈ s.started) :
    ∃ ready, s.work.getReadyJob d = .ok ready := by
  cases found : s.work.active.lookup d with
  | none =>
      exact ⟨none, by simp [Work.getReadyJob, found]⟩
  | some job =>
      have running := inv.startedRunning d taken job found
      exact ⟨some job, Work.getReadyJob_of_lookup found running
        (inv.stored d job found).1 (inv.runningReady d job found running)⟩

/-- Every planned flush below a job in progress has completed. -/
theorem Inv.flushesBelow_running (inv : Inv plan s) (discipline : Discipline n plan)
    {d : Nat} {job : DownstairsWork} (found : s.work.active.lookup d = some job)
    (running : job.state = .inProgress) :
    ∀ flush ∈ plan, flush.2.isFlush = true → flush.1 < d → s.Completed flush.1 := by
  intro lower lowerPlanned lowerFlush below
  obtain ⟨-, jobPlanned, -⟩ := inv.stored d job found
  obtain ⟨flush, flushPlanned, isFlush, atLeast, flushBelow, dependency⟩ :=
    discipline.nearestFlush jobPlanned lowerPlanned lowerFlush below
  have done : s.Completed flush.1 :=
    (inv.view flush flushPlanned).mp (inv.runningReady d job found running _ dependency)
  rcases Nat.eq_or_lt_of_le atLeast with same | lower_lt
  · exact same ▸ done
  · exact inv.flushesBelow flush.1 done lower lowerPlanned lowerFlush lower_lt

/-- A planned job still in flight has not reached the flush horizon. -/
theorem Inv.lastFlush_lt (inv : Inv plan s) {d : Nat} {job : DownstairsWork}
    (found : s.work.active.lookup d = some job) : s.work.lastFlush < d := by
  obtain ⟨-, jobPlanned, -⟩ := inv.stored d job found
  have notDone : ¬ s.Completed d := fun done => by simp [done.2] at found
  have notSatisfied := mt (inv.view (d, job.work) jobPlanned).mp notDone
  simp only [Work.Satisfied, not_or] at notSatisfied
  omega

/-- Before a flush in progress completes, everything the queue sees is below it. -/
theorem Inv.satisfied_le_running_flush (inv : Inv plan s) {d : Nat} {job : DownstairsWork}
    (found : s.work.active.lookup d = some job) (isFlush : job.work.isFlush = true)
    {e : Nat} (satisfied : s.work.Satisfied e) : e ≤ d := by
  rcases satisfied with covered | listed
  · exact covered.trans (inv.lastFlush_lt found).le
  · obtain ⟨op, planned, -⟩ := inv.completedNonFlush e listed
    have done := (inv.view (e, op) planned).mp (Or.inr listed)
    by_contra above
    have flushDone := inv.flushesBelow e done (d, job.work) (inv.stored d job found).2.1
      isFlush (Nat.lt_of_not_le above)
    simp [flushDone.2] at found

/--
Completing a flush in progress makes the horizon agree with completion: every
planned id up to the flush has completed, or is the flush itself.
-/
theorem Inv.le_running_flush_iff (inv : Inv plan s) (discipline : Discipline n plan)
    {d : Nat} {job : DownstairsWork} (found : s.work.active.lookup d = some job)
    (running : job.state = .inProgress) (isFlush : job.work.isFlush = true)
    {sub : Submission} (planned : sub ∈ plan) :
    sub.1 ≤ d ↔ s.Completed sub.1 ∨ sub.1 = d := by
  constructor
  · intro atMost
    rcases Nat.eq_or_lt_of_le atMost with same | below
    · exact .inr same
    · obtain ⟨-, jobPlanned, -⟩ := inv.stored d job found
      refine .inl ((inv.view sub planned).mp ?_)
      by_cases shadowed :
          ∃ lower ∈ plan, lower.2.isFlush = true ∧ sub.1 ≤ lower.1 ∧ lower.1 < d
      · obtain ⟨lower, lowerPlanned, lowerFlush, atLeast, lowerBelow⟩ := shadowed
        obtain ⟨flush, flushPlanned, flushIsFlush, aboveLower, -, dependency⟩ :=
          discipline.nearestFlush jobPlanned lowerPlanned lowerFlush lowerBelow
        rcases inv.runningReady d job found running _ dependency with covered | listed
        · exact .inl (atLeast.trans (aboveLower.trans covered))
        · obtain ⟨op, opPlanned, nonFlush⟩ := inv.completedNonFlush _ listed
          rw [discipline.op_unique opPlanned flushPlanned, flushIsFlush] at nonFlush
          cases nonFlush
      · push_neg at shadowed
        exact inv.runningReady d job found running _
          (discipline.flushCovers _ jobPlanned isFlush sub planned below
            fun other otherPlanned otherFlush otherBelow =>
              Nat.lt_of_not_le fun atLeast =>
                absurd (shadowed other otherPlanned otherFlush atLeast)
                  (Nat.not_le.mpr otherBelow))
  · rintro (done | same)
    · exact inv.satisfied_le_running_flush found isFlush ((inv.view sub planned).mpr done)
    · exact same.le

/-- Completing a present job completes it and nothing else. -/
theorem completed_complete {d e : Nat} {w' : Work} {acked : List (Nat × Bool)}
    (submitted : d ∈ s.submitted)
    (lookup' : ∀ e, w'.active.lookup e = if e = d then none else s.work.active.lookup e) :
    ({ s with work := w', acked := acked } : State).Completed e ↔ s.Completed e ∨ e = d := by
  by_cases same : e = d
  · subst same
    simp [State.Completed, lookup', submitted]
  · simp [State.Completed, lookup', same]

/-- A job still in flight after completing `d` was in flight before. -/
theorem lookup_of_lookup_complete {w w' : Work} {d e : Nat} {job : DownstairsWork}
    (lookup' : ∀ e, w'.active.lookup e = if e = d then none else w.active.lookup e)
    (found : w'.active.lookup e = some job) : w.active.lookup e = some job := by
  rw [lookup'] at found
  split_ifs at found
  exact found

/--
Removing a job in progress keeps the invariant, given how the queue's view
changes: it only grows, and afterwards it matches completion including `d`.
-/
theorem Inv.complete (inv : Inv plan s) (discipline : Discipline n plan) {d : Nat}
    {isFlush : Bool} {job : DownstairsWork} (found : s.work.active.lookup d = some job)
    (running : job.state = .inProgress) {w' : Work}
    (lookup' : ∀ e, w'.active.lookup e = if e = d then none else s.work.active.lookup e)
    (monotone : ∀ e, s.work.Satisfied e → w'.Satisfied e)
    (view' : ∀ sub ∈ plan, w'.Satisfied sub.1 ↔ s.Completed sub.1 ∨ sub.1 = d)
    (completed' : ∀ e ∈ w'.completed, ∃ op, (e, op) ∈ plan ∧ op.isFlush = false) :
    Inv plan { s with work := w', acked := s.acked.erase (d, isFlush) } where
  stored := fun e other otherFound => inv.stored e other (lookup_of_lookup_complete lookup' otherFound)
  submittedPlanned := inv.submittedPlanned
  view := fun sub planned =>
    (view' sub planned).trans (completed_complete (inv.stored d job found).2.2 lookup').symm
  flushesBelow := by
    intro e done lower lowerPlanned lowerFlush below
    rw [completed_complete (inv.stored d job found).2.2 lookup'] at done ⊢
    rcases done with done | rfl
    · exact .inl (inv.flushesBelow e done lower lowerPlanned lowerFlush below)
    · exact .inl (inv.flushesBelow_running discipline found running lower lowerPlanned
        lowerFlush below)
  runningReady := fun e other otherFound otherRunning dep member =>
    monotone dep (inv.runningReady e other (lookup_of_lookup_complete lookup' otherFound)
      otherRunning dep member)
  completedNonFlush := completed'
  startedRunning := fun e member other otherFound =>
    inv.startedRunning e member other (lookup_of_lookup_complete lookup' otherFound)
  ackedRunning := fun owed member other otherFound =>
    inv.ackedRunning owed (List.mem_of_mem_erase member) other
      (lookup_of_lookup_complete lookup' otherFound)
  startedSubmitted := inv.startedSubmitted
  ackedSubmitted := fun owed member => inv.ackedSubmitted owed (List.mem_of_mem_erase member)

/-- `complete_work` for an owed ack keeps the invariant. -/
theorem Inv.completeWork (inv : Inv plan s) (discipline : Discipline n plan) {d : Nat}
    {isFlush : Bool} (owed : (d, isFlush) ∈ s.acked) :
    Inv plan { s with work := s.work.completeWork d isFlush,
                      acked := s.acked.erase (d, isFlush) } := by
  cases found : s.work.active.lookup d with
  | none =>
      rw [Work.completeWork_of_lookup_none isFlush found]
      exact { inv with
        ackedRunning := fun owed member => inv.ackedRunning owed (List.mem_of_mem_erase member)
        ackedSubmitted := fun owed member =>
          inv.ackedSubmitted owed (List.mem_of_mem_erase member) }
  | some job =>
      obtain ⟨running, flag⟩ := inv.ackedRunning (d, isFlush) owed job found
      obtain ⟨-, jobPlanned, -⟩ := inv.stored d job found
      refine inv.complete discipline found running (Work.lookup_completeWork _ _ · _)
        ?monotone ?view ?completed
      all_goals cases isFlush
      case monotone.false =>
        rw [Work.completeWork_nonFlush found]
        intro e satisfied
        rcases satisfied with covered | listed
        · exact .inl covered
        · exact .inr (List.mem_append_left _ listed)
      case monotone.true =>
        rw [Work.completeWork_flush found]
        exact fun e satisfied =>
          .inl (inv.satisfied_le_running_flush found flag.symm satisfied)
      case view.false =>
        rw [Work.completeWork_nonFlush found]
        intro sub planned
        simp only [Work.Satisfied, List.mem_append, List.mem_singleton, ← or_assoc]
        exact or_congr_left (inv.view sub planned)
      case view.true =>
        rw [Work.completeWork_flush found]
        intro sub planned
        simp only [Work.Satisfied, List.not_mem_nil, or_false]
        exact inv.le_running_flush_iff discipline found running flag.symm planned
      case completed.false =>
        rw [Work.completeWork_nonFlush found]
        intro e member
        rcases List.mem_append.mp member with old | same
        · exact inv.completedNonFlush e old
        · rw [List.mem_singleton.mp same]
          exact ⟨job.work, jobPlanned, flag.symm⟩
      case completed.true =>
        rw [Work.completeWork_flush found]
        simp

/-- Every step of the session keeps the invariant. -/
theorem Inv.step (inv : Inv plan s) (discipline : Discipline n plan) {s' : State}
    (step : Step c plan s s') : Inv plan s' := by
  cases step with
  | addWork planned fresh => exact inv.addWork planned fresh
  | inProgress d => exact inv.inProgress d
  | doWork taken returned => exact inv.doWork taken returned
  | completeWork owed => exact inv.completeWork discipline owed

/-- The invariant holds in every reachable state of a disciplined session. -/
theorem inv_reachable (discipline : Discipline n plan) (reach : Reachable c n plan s) :
    Inv plan s := by
  induction reach with
  | init => exact inv_init discipline
  | step _ step inv => exact inv.step discipline step

/--
In every reachable state of a disciplined session, the queue's view of each
submitted id is exactly whether that job has completed; every job in progress
has all its submitted dependencies completed; `get_ready_job` returns without
failing an assertion for every id the worker took from `in_progress`; and the
worker's `complete_work` after an ack is for a job in progress, which it makes
satisfied in the queue's view and completed.
-/
theorem satisfied_iff_completed (discipline : Discipline n plan)
    (reach : Reachable c n plan s) :
    (∀ d ∈ s.submitted, s.work.Satisfied d ↔ s.Completed d) ∧
    (∀ d job, s.work.active.lookup d = some job → job.state = .inProgress →
      ∀ dep ∈ job.work.deps, dep ∈ s.submitted → s.Completed dep) ∧
    (∀ d ∈ s.started, ∃ ready, s.work.getReadyJob d = .ok ready) ∧
    (∀ d isFlush job, (d, isFlush) ∈ s.acked → s.work.active.lookup d = some job →
      job.state = .inProgress ∧ (s.work.completeWork d isFlush).Satisfied d ∧
        ({ s with work := s.work.completeWork d isFlush,
                  acked := s.acked.erase (d, isFlush) } : State).Completed d) := by
  have inv := inv_reachable discipline reach
  refine ⟨fun d submitted => ?_, fun d job found running dep member submitted => ?_,
    fun d taken => inv.getReadyJob_ok taken, fun d isFlush job owed found => ?_⟩
  · obtain ⟨op, planned⟩ := inv.submittedPlanned d submitted
    exact inv.view (d, op) planned
  · obtain ⟨op, planned⟩ := inv.submittedPlanned dep submitted
    exact (inv.view (dep, op) planned).mp (inv.runningReady d job found running dep member)
  · refine ⟨(inv.ackedRunning (d, isFlush) owed job found).1, Work.satisfied_completeWork found isFlush,
      (inv.stored d job found).2.2, ?_⟩
    rw [Work.lookup_completeWork, if_pos rfl]

/-- The connection of the sample session. -/
def sampleConnection : UpstairsConnection := ⟨1, 1, 1⟩

/-- A write, a flush over it, and a read depending on both. -/
def samplePlan : List Submission :=
  [(1, .write [] []), (2, .flush [1] 1 1 none), (3, .read [1, 2] [])]

/-- The sample session after the write was added. -/
def sampleAdded : State :=
  { init 0 with work := (init 0).work.addWork 1 (newJob sampleConnection 1 (.write [] [])),
                submitted := [1] }

/-- The sample session after the worker started the write. -/
def sampleStarted : State :=
  { sampleAdded with work := (sampleAdded.work.inProgress 1).1,
                     started := startedAfter sampleAdded.started (sampleAdded.work.inProgress 1).2 }

/-- The sample session after the worker executed the write and owes its `complete_work`. -/
def sampleAcked : State :=
  { sampleStarted with started := sampleStarted.started.erase 1,
                       acked := ackedAfter sampleStarted.acked 1 (sampleStarted.work.active.lookup 1) }

/-- The sample session is reachable, follows the discipline, and owes the write's completion. -/
theorem satisfied_iff_completed_sample :
    Discipline 0 samplePlan ∧ (1, false) ∈ sampleAcked.acked ∧
    ((∀ d ∈ sampleAcked.submitted, sampleAcked.work.Satisfied d ↔ sampleAcked.Completed d) ∧
    (∀ d job, sampleAcked.work.active.lookup d = some job → job.state = .inProgress →
      ∀ dep ∈ job.work.deps, dep ∈ sampleAcked.submitted → sampleAcked.Completed dep) ∧
    (∀ d ∈ sampleAcked.started, ∃ ready, sampleAcked.work.getReadyJob d = .ok ready) ∧
    (∀ d isFlush job, (d, isFlush) ∈ sampleAcked.acked → sampleAcked.work.active.lookup d = some job →
      job.state = .inProgress ∧ (sampleAcked.work.completeWork d isFlush).Satisfied d ∧
        ({ sampleAcked with work := sampleAcked.work.completeWork d isFlush,
                            acked := sampleAcked.acked.erase (d, isFlush) } : State).Completed d)) :=
  have discipline : Discipline 0 samplePlan := ⟨by decide, by decide, by decide, by decide⟩
  ⟨discipline, by decide, satisfied_iff_completed discipline
    (Reachable.step (Reachable.step (Reachable.step Reachable.init
      (Step.addWork (by decide) (by decide))) (Step.inProgress sampleAdded 1))
      (Step.doWork (by decide) (by decide)))⟩

end Session

end CrucibleDownstairs
