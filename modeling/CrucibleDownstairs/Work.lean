import CrucibleDownstairs.Protocol
import Mathlib.Data.List.Sort

namespace CrucibleDownstairs

/-!
# The per-session work queue

`Work` is the queue of one upstairs session: the jobs in flight keyed by
`ds_id`, the id of the last completed flush and the ids completed since.  Each
function below is the body of the method of the same name in `impl Work`, or,
for `completeWork`, the part of `Downstairs::complete_work` that runs under the
work lock.  The diagnostic `outstanding_deps` map only rate-limits a log line
and is not modelled.
-/

/-- Jobs of one session keyed by `ds_id`, the `HashMap<u64, DownstairsWork>`. -/
abbrev JobMap := AList (fun _ : Nat => DownstairsWork)

/-- The work queue of one session. -/
structure Work where
  active : JobMap
  lastFlush : Nat
  completed : List Nat

namespace Work

/-- `Work::new`: no jobs, no flush, nothing completed. -/
def new : Work where
  active := ∅
  lastFlush := 0
  completed := []

/-- `Work::clear`: every field back to its `Work::new` value. -/
def clear (_ : Work) : Work := new

/-- `Work::jobs`: the number of jobs in flight. -/
def jobs (w : Work) : Nat := w.active.keys.length

/-- The queue's view of a dependency: covered by the last flush or completed since. -/
def Satisfied (w : Work) (dep : Nat) : Prop :=
  dep ≤ w.lastFlush ∨ dep ∈ w.completed

instance (w : Work) : DecidablePred w.Satisfied :=
  fun dep => inferInstanceAs (Decidable (dep ≤ w.lastFlush ∨ dep ∈ w.completed))

/-- The jobs in flight, in the map's iteration order. -/
def jobList (w : Work) : List DownstairsWork := w.active.entries.map (·.2)

/-- Jobs `new_work` hands out: those still `New` or waiting on dependencies. -/
def Waiting (job : DownstairsWork) : Prop :=
  job.state = .new ∨ job.state = .depWait

instance : DecidablePred Waiting :=
  fun job => inferInstanceAs (Decidable (job.state = .new ∨ job.state = .depWait))

/--
`Work::new_work`: the sorted ids of waiting jobs, panicking if a job of another
connection is found.
-/
def newWork (w : Work) (upstairsConnection : UpstairsConnection) :
    Except Panic (List Nat) :=
  if w.jobList.any (fun job => job.upstairsConnection != upstairsConnection) then
    .error .oldUpstairsJobInNewWork
  else
    .ok (((w.jobList.filter (fun job => decide (Waiting job))).map (·.dsId)).insertionSort (· ≤ ·))

/-- `Work::add_work`: insert the job under `ds_id`, replacing any job there. -/
def addWork (w : Work) (dsId : Nat) (dsw : DownstairsWork) : Work :=
  { w with active := w.active.insert dsId dsw }

/-- `deps_outstanding` of `Work::in_progress`: the dependencies not yet satisfied. -/
def depsOutstanding (w : Work) (deps : List Nat) : List Nat :=
  deps.filter fun dep => !decide (w.Satisfied dep)

/--
`Work::in_progress`: a waiting job whose dependencies are all satisfied becomes
`InProgress` and its id and owner are returned; a `New` job with unmet
dependencies becomes `DepWait`.
-/
def inProgress (w : Work) (dsId : Nat) : Work × Option (Nat × UpstairsConnection) :=
  match w.active.lookup dsId with
  | none => (w, none)
  | some job =>
      if Waiting job then
        if w.depsOutstanding job.work.deps ≠ [] then
          (if job.state = .new then
              { w with active := w.active.insert dsId { job with state := .depWait } }
            else w,
            none)
        else
          ({ w with active := w.active.insert dsId { job with state := .inProgress } },
            some (job.dsId, job.upstairsConnection))
      else
        (w, none)

/--
`Work::get_ready_job`: the job to execute, after asserting that it is in
progress, stored under its own id, and has every dependency satisfied.
-/
def getReadyJob (w : Work) (jobId : Nat) : Except Panic (Option DownstairsWork) :=
  match w.active.lookup jobId with
  | none => .ok none
  | some job =>
      if job.state ≠ .inProgress then .error .readyJobNotInProgress
      else if jobId ≠ job.dsId then .error .readyJobIdMismatch
      else if job.work.deps.all (fun dep => decide (w.Satisfied dep)) then .ok (some job)
      else .error .readyJobDependencyUnmet

/--
The work-lock part of `Downstairs::complete_work`: remove the job and, only if it
was present, either move the flush horizon or record the id as completed.
-/
def completeWork (w : Work) (dsId : Nat) (isFlush : Bool) : Work :=
  match w.active.lookup dsId with
  | none => w
  | some _ =>
      if isFlush then
        { active := w.active.erase dsId, lastFlush := dsId, completed := [] }
      else
        { w with active := w.active.erase dsId, completed := w.completed ++ [dsId] }

/-! ## Spec lemmas -/

@[simp] theorem new_active : new.active = ∅ := rfl
@[simp] theorem new_lastFlush : new.lastFlush = 0 := rfl
@[simp] theorem new_completed : new.completed = [] := rfl
@[simp] theorem clear_eq (w : Work) : w.clear = new := rfl

@[simp] theorem addWork_lastFlush (w : Work) (dsId : Nat) (dsw : DownstairsWork) :
    (w.addWork dsId dsw).lastFlush = w.lastFlush := rfl

@[simp] theorem addWork_completed (w : Work) (dsId : Nat) (dsw : DownstairsWork) :
    (w.addWork dsId dsw).completed = w.completed := rfl

/-- Adding a job changes only the entry under its own id. -/
theorem lookup_addWork (w : Work) (dsId key : Nat) (dsw : DownstairsWork) :
    (w.addWork dsId dsw).active.lookup key =
      if key = dsId then some dsw else w.active.lookup key := by
  by_cases same : key = dsId
  · subst same
    simp [addWork, AList.lookup_insert]
  · simp [addWork, AList.lookup_insert_ne same, same]

/-- Adding a job leaves the queue's view of every dependency unchanged. -/
@[simp] theorem satisfied_addWork (w : Work) (dsId dep : Nat) (dsw : DownstairsWork) :
    (w.addWork dsId dsw).Satisfied dep ↔ w.Satisfied dep := Iff.rfl

/-- No dependency is outstanding exactly when every one is satisfied. -/
theorem depsOutstanding_eq_nil (w : Work) (deps : List Nat) :
    w.depsOutstanding deps = [] ↔ ∀ dep ∈ deps, w.Satisfied dep := by
  simp [depsOutstanding, List.filter_eq_nil_iff]

/--
Everything `in_progress` can do: leave the queue alone, park a `New` job in
`DepWait`, or move a waiting job with satisfied dependencies to `InProgress`.
-/
theorem inProgress_cases (w : Work) (dsId : Nat) :
    ((w.inProgress dsId).1 = w ∧ (w.inProgress dsId).2 = none) ∨
    (∃ job, w.active.lookup dsId = some job ∧ job.state = .new ∧
      (w.inProgress dsId).1 = w.addWork dsId { job with state := .depWait } ∧
      (w.inProgress dsId).2 = none) ∨
    (∃ job, w.active.lookup dsId = some job ∧ Waiting job ∧
      (∀ dep ∈ job.work.deps, w.Satisfied dep) ∧
      (w.inProgress dsId).1 = w.addWork dsId { job with state := .inProgress } ∧
      (w.inProgress dsId).2 = some (job.dsId, job.upstairsConnection)) := by
  unfold inProgress
  cases found : w.active.lookup dsId with
  | none =>
      exact .inl ⟨rfl, rfl⟩
  | some job =>
      by_cases waiting : Waiting job
      · by_cases outstanding : w.depsOutstanding job.work.deps = []
        · exact .inr (.inr ⟨job, rfl, waiting,
            (depsOutstanding_eq_nil w _).mp outstanding,
            by simp [waiting, outstanding, addWork]⟩)
        · by_cases isNew : job.state = .new
          · exact .inr (.inl ⟨job, rfl, isNew, by simp [waiting, outstanding, isNew, addWork]⟩)
          · exact .inl ⟨by simp [waiting, outstanding, isNew], by simp [waiting, outstanding]⟩
      · exact .inl ⟨by simp [waiting], by simp [waiting]⟩

/-- A waiting job whose dependencies are all satisfied is started and returned. -/
theorem inProgress_of_ready {w : Work} {dsId : Nat} {job : DownstairsWork}
    (found : w.active.lookup dsId = some job) (waiting : Waiting job)
    (ready : ∀ dep ∈ job.work.deps, w.Satisfied dep) :
    w.inProgress dsId =
      (w.addWork dsId { job with state := .inProgress }, some (job.dsId, job.upstairsConnection)) := by
  have outstanding := (depsOutstanding_eq_nil w _).mpr ready
  simp [inProgress, found, waiting, outstanding, addWork]

/-- The owner `in_progress` returns is the owner of the job under the id. -/
theorem inProgress_returned {w : Work} {dsId jobId : Nat} {owner : UpstairsConnection}
    (returned : (w.inProgress dsId).2 = some (jobId, owner)) :
    ∃ job, w.active.lookup dsId = some job ∧ jobId = job.dsId ∧
      owner = job.upstairsConnection := by
  rcases inProgress_cases w dsId with ⟨-, none⟩ | ⟨_, -, -, -, none⟩ |
      ⟨job, found, -, -, -, some⟩
  · simp [none] at returned
  · simp [none] at returned
  · rw [some] at returned
    cases returned
    exact ⟨job, found, rfl, rfl⟩

/-- `in_progress` never touches the flush horizon or the completed list. -/
@[simp] theorem inProgress_lastFlush (w : Work) (dsId : Nat) :
    (w.inProgress dsId).1.lastFlush = w.lastFlush := by
  rcases inProgress_cases w dsId with ⟨same, -⟩ | ⟨_, -, -, moved, -⟩ |
      ⟨_, -, -, -, moved, -⟩ <;> simp [*]

@[simp] theorem inProgress_completed (w : Work) (dsId : Nat) :
    (w.inProgress dsId).1.completed = w.completed := by
  rcases inProgress_cases w dsId with ⟨same, -⟩ | ⟨_, -, -, moved, -⟩ |
      ⟨_, -, -, -, moved, -⟩ <;> simp [*]

/-- Completing an absent job changes nothing. -/
theorem completeWork_of_lookup_none {w : Work} {dsId : Nat} (isFlush : Bool)
    (absent : w.active.lookup dsId = none) : w.completeWork dsId isFlush = w := by
  simp [completeWork, absent]

/-- Completing a present flush moves the horizon to it and empties `completed`. -/
theorem completeWork_flush {w : Work} {dsId : Nat} {job : DownstairsWork}
    (present : w.active.lookup dsId = some job) :
    w.completeWork dsId true =
      { active := w.active.erase dsId, lastFlush := dsId, completed := [] } := by
  simp [completeWork, present]

/-- Completing a present non-flush job appends its id to `completed`. -/
theorem completeWork_nonFlush {w : Work} {dsId : Nat} {job : DownstairsWork}
    (present : w.active.lookup dsId = some job) :
    w.completeWork dsId false =
      { w with active := w.active.erase dsId, completed := w.completed ++ [dsId] } := by
  simp [completeWork, present]

/-- Completing a present job satisfies it, with either flag. -/
theorem satisfied_completeWork {w : Work} {dsId : Nat} {job : DownstairsWork}
    (present : w.active.lookup dsId = some job) (isFlush : Bool) :
    (w.completeWork dsId isFlush).Satisfied dsId := by
  cases isFlush
  · rw [completeWork_nonFlush present]
    exact .inr (List.mem_append_right _ (List.mem_singleton_self dsId))
  · rw [completeWork_flush present]
    exact .inl (Nat.le_refl dsId)

/-- Completion removes exactly the completed id from the jobs in flight. -/
theorem lookup_completeWork (w : Work) (dsId key : Nat) (isFlush : Bool) :
    (w.completeWork dsId isFlush).active.lookup key =
      if key = dsId then none else w.active.lookup key := by
  cases found : w.active.lookup dsId with
  | none =>
      rw [completeWork_of_lookup_none isFlush found]
      split_ifs with same
      · rw [same, found]
      · rfl
  | some job =>
      have erased : (w.completeWork dsId isFlush).active = w.active.erase dsId := by
        cases isFlush
        · rw [completeWork_nonFlush found]
        · rw [completeWork_flush found]
      rw [erased]
      split_ifs with same
      · rw [same, AList.lookup_erase]
      · exact AList.lookup_erase_ne same

/-- A returned ready job is the one stored under the id, and it is in progress. -/
theorem lookup_of_getReadyJob {w : Work} {jobId : Nat} {job : DownstairsWork}
    (ready : w.getReadyJob jobId = .ok (some job)) :
    w.active.lookup jobId = some job ∧ job.state = .inProgress := by
  cases found : w.active.lookup jobId with
  | none =>
      simp [getReadyJob, found] at ready
  | some stored =>
      simp only [getReadyJob, found] at ready
      split_ifs at ready with running
      cases ready
      exact ⟨rfl, not_not.mp running⟩

/-- A ready job is returned exactly when the three assertions hold. -/
theorem getReadyJob_of_lookup {w : Work} {jobId : Nat} {job : DownstairsWork}
    (present : w.active.lookup jobId = some job) (running : job.state = .inProgress)
    (stored : job.dsId = jobId) (ready : ∀ dep ∈ job.work.deps, w.Satisfied dep) :
    w.getReadyJob jobId = .ok (some job) := by
  simpa [getReadyJob, present, running, stored] using ready

end Work

end CrucibleDownstairs
