import PowerRota.Proofs.Scheduler.Dismissal

/-! Swapping the managed jobs is all or nothing. -/

set_option autoImplicit false

namespace PowerRota.Scheduler

open PowerRota.Calendar

variable {Body : Type} {before after : Scheduler Body}

-- Calls that change the scheduler in place. A check that fails returns at once, and whatever was
-- changed by then stays changed.

abbrev Call (Body : Type) := ExceptT Error (StateM (Scheduler Body))

def checkInPlace : List (Job Body) → Call Body Unit
  | [] => pure ()
  | job :: jobs => do
      match (← get).checkName job.name with
      | .ok () => checkInPlace jobs
      | .error fault => throw fault

def insertInPlace : List (Job Body) → Call Body Unit
  | [] => pure ()
  | job :: jobs => do
      modify fun scheduler => scheduler.insert job.name true (.recurring job.rule) job.body
      insertInPlace jobs

def addInPlace (jobs : List (Job Body)) : Call Body Unit := do
  checkInPlace jobs
  let live := jobs.filter (← get).isLive
  insertInPlace live

def replaceInPlace (jobs : List (Job Body)) : Call Body Unit := do
  checkInPlace jobs
  let live := jobs.filter (← get).isLive
  modify dropManaged
  insertInPlace live

def resultOf (before : Scheduler Body) :
    Except Error (Scheduler Body) → Except Error Unit × Scheduler Body
  | .ok after => (.ok (), after)
  | .error fault => (.error fault, before)

theorem checkInPlace_run (before : Scheduler Body) (jobs : List (Job Body)) :
    (checkInPlace jobs).run.run before = (before.checkJobs jobs, before) := by
  induction jobs with
  | nil => rfl
  | cons job jobs ih =>
    have first : (checkInPlace (job :: jobs)).run.run before =
        (match before.checkName job.name with
          | .ok () => checkInPlace jobs
          | .error fault => throw fault).run.run before := rfl
    rw [first, checkJobs]
    cases before.checkName job.name with
    | error fault => rfl
    | ok _ => exact ih

theorem insertInPlace_run (before : Scheduler Body) (jobs : List (Job Body)) :
    (insertInPlace jobs).run.run before = (.ok (), before.insertJobs jobs) := by
  induction jobs generalizing before with
  | nil => rfl
  | cons job jobs ih => exact ih (before.insert job.name true (.recurring job.rule) job.body)

theorem run_after_check {next : Call Body Unit} (before : Scheduler Body) (jobs : List (Job Body)) :
    (do checkInPlace jobs; next : Call Body Unit).run.run before =
      match before.checkJobs jobs with
      | .ok () => next.run.run before
      | .error fault => (.error fault, before) := by
  rw [ExceptT.run_bind, StateT.run_bind, checkInPlace_run]
  cases before.checkJobs jobs <;> rfl

theorem addInPlace_run (before : Scheduler Body) (jobs : List (Job Body)) :
    (addInPlace jobs).run.run before = before.resultOf (before.addManaged jobs) := by
  unfold addInPlace addManaged
  rw [run_after_check]
  cases before.checkJobs jobs with
  | error fault => rfl
  | ok _ => exact insertInPlace_run before (jobs.filter before.isLive)

theorem replaceInPlace_run (before : Scheduler Body) (jobs : List (Job Body)) :
    (replaceInPlace jobs).run.run before = before.resultOf (before.replaceManaged jobs) := by
  unfold replaceInPlace replaceManaged
  rw [run_after_check]
  cases before.checkJobs jobs with
  | error fault => rfl
  | ok _ => exact insertInPlace_run before.dropManaged (jobs.filter before.isLive)

/-- The register after a swap: the managed jobs are those with a fire ahead, each with
a timer of its own, and nothing else has changed. -/
structure Swapped (before : Scheduler Body) (jobs : List (Job Body)) (after : Scheduler Body) :
    Prop where
  managed : after.managed.map Timer.job? =
    (jobs.filter fun job => (job.rule.nextAfter before.zone before.clock).isSome).map some
  timers : (after.managed.map (·.id)).Nodup
  fresh : ∀ timer ∈ after.managed, timer.Fresh
  unmanaged : after.timers.filter (!·.managed) = before.timers.filter (!·.managed)
  executions : after.executions = before.executions
  free : after.free = before.free
  fires : after.fires = before.fires

/-- Of the time after a swap: executions go on and keep their permits until they end,
and no job that was taken off the register hands over another one. -/
structure Outlasts (before : Scheduler Body) (moves : List (SchedulerMove Body))
    (later : Scheduler Body) : Prop where
  executions : ∀ execution ∈ before.executions,
    .step (.finish execution.id) ∉ moves → execution ∈ later.executions
  permits : later.free + later.heldPermits + later.executions.length = limit before.settings
  removed : ∀ timer ∈ before.managed, .step (.handOver timer.id) ∉ moves ∧
    later.firesOf timer.id = before.firesOf timer.id ∧
    ∀ execution ∈ later.executions, execution.timer = timer.id → execution ∈ before.executions

theorem managed_dropManaged (before : Scheduler Body) : before.dropManaged.managed = [] := by
  apply List.eq_nil_iff_forall_not_mem.mpr
  intro timer member
  obtain ⟨listed, registered, managed⟩ := mem_managed.mp member
  obtain ⟨old, _, rfl⟩ := mem_dropManaged listed
  split at registered
  · cases registered
  next kept => exact kept (Bool.and_eq_true_iff.mpr ⟨registered, by simpa [kept] using managed⟩)

theorem managed_insertJobs (before : Scheduler Body) (jobs : List (Job Body)) :
    (before.insertJobs jobs).managed = before.managed ++ timersFor before.nextId jobs := by
  rw [insertJobs_eq]
  simp only [Scheduler.managed, registered, List.filter_append, List.filter_filter]
  congr 1
  apply List.filter_eq_self.mpr
  intro timer member
  obtain ⟨fresh, managed⟩ := fresh_of_mem_timersFor member
  rw [fresh.registered, managed]
  rfl

theorem unmanaged_insertJobs (before : Scheduler Body) (jobs : List (Job Body)) :
    (before.insertJobs jobs).timers.filter (!·.managed) = before.timers.filter (!·.managed) := by
  have none_new : (timersFor before.nextId jobs).filter (!·.managed) = [] := by
    apply List.filter_eq_nil_iff.mpr
    intro timer member
    rw [(fresh_of_mem_timersFor member).2]
    exact Bool.false_ne_true
  rw [insertJobs_eq]
  simp only [List.filter_append, none_new, List.append_nil]

theorem unmanaged_dropManaged (before : Scheduler Body) :
    before.dropManaged.timers.filter (!·.managed) = before.timers.filter (!·.managed) := by
  unfold dropManaged
  induction before.timers with
  | nil => rfl
  | cons timer timers ih =>
    rw [List.map_cons, List.filter_cons, List.filter_cons, ih]
    cases managed : timer.managed <;> cases timer.registered <;> simp [managed]

theorem swapped_of_replaceManaged {jobs : List (Job Body)}
    (replaced : before.replaceManaged jobs = .ok after) : before.Swapped jobs after := by
  obtain ⟨_, rfl⟩ := replaceManaged_eq_ok_iff.mp replaced
  have managed : (before.dropManaged.insertJobs (jobs.filter before.isLive)).managed =
      timersFor before.nextId (jobs.filter before.isLive) := by
    rw [managed_insertJobs, managed_dropManaged]
    rfl
  constructor
  · rw [managed, timersFor_jobs]
    rfl
  · rw [managed, timersFor_ids]
    exact List.nodup_range'
  · rw [managed]
    exact fun timer member => (fresh_of_mem_timersFor member).1
  · rw [unmanaged_insertJobs, unmanaged_dropManaged]
  all_goals rw [insertJobs_eq]; rfl

theorem dismissed_of_replaceManaged {jobs : List (Job Body)} (sound : before.Sound)
    (replaced : before.replaceManaged jobs = .ok after) {timer : Timer Body}
    (member : timer ∈ before.managed) : after.Dismissed timer.id := by
  obtain ⟨_, rfl⟩ := replaceManaged_eq_ok_iff.mp replaced
  obtain ⟨listed, registered, managed⟩ := mem_managed.mp member
  have numbered := sound.timers_numbered timer listed
  -- a timer of this id is the one that was dropped, since no other had the id
  have dropped : before.dropManaged.Dismissed timer.id := by
    refine ⟨numbered, fun other known same => ?_⟩
    obtain ⟨old, known', rfl⟩ := mem_dropManaged known
    have same_id : old.id = timer.id := by
      split at same <;> exact same
    obtain rfl := List.inj_on_of_nodup_map sound.timers_unique known' listed same_id
    rw [registered, managed]
    rfl
  exact dropped.inherit (.insertJobs _)

/-- Adding and swapping managed jobs is all or nothing, also when it is done in place. A
swap is final: however the run goes on, running executions are not disturbed and removed
jobs stay silent. -/
theorem swap_atomic {settings : SchedulerSettings} {clock : Instant}
    (reachable : Reachable settings clock before) (jobs : List (Job Body)) :
    (∀ fault, before.addManaged jobs = .error fault →
      (addInPlace jobs).run.run before = (.error fault, before)) ∧
    (∀ fault, before.replaceManaged jobs = .error fault →
      (replaceInPlace jobs).run.run before = (.error fault, before)) ∧
    ∀ after, before.replaceManaged jobs = .ok after →
      (replaceInPlace jobs).run.run before = (.ok (), after) ∧ before.Swapped jobs after ∧
        ∀ moves later, Run after moves later → before.Outlasts moves later := by
  rw [addInPlace_run, replaceInPlace_run]
  refine ⟨fun fault refused => ?_, fun fault refused => ?_, fun after replaced => ?_⟩
  · rw [refused]
    rfl
  · rw [refused]
    rfl
  · have outcome := swapped_of_replaceManaged replaced
    have taken : before.Moved (.replaceManaged jobs) after := by
      apply move?_moved
      rw [move?, replaced]
      rfl
    refine ⟨by rw [replaced]; rfl, outcome, fun moves later run => ?_⟩
    constructor
    · intro execution member
      rw [← outcome.executions] at member
      exact run.keeps_execution member
    · have sound := run.sound (reachable.sound.move taken)
      rw [sound.permits, run.settings, taken.settings]
    · intro timer member
      -- its id is used up and every timer that has it is cancelled, whatever it waits for
      have dismissed := dismissed_of_replaceManaged reachable.sound replaced member
      obtain ⟨not_handed, fires, executions⟩ := run.silent dismissed
      rw [outcome.executions] at executions
      refine ⟨not_handed, fires.trans ?_, executions⟩
      unfold firesOf
      rw [outcome.fires]

/-- A swap while a job has an execution in progress and waits for a permit for the next. -/
theorem swap_atomic_of_queued :
    let rule : FiringRule := .interval (.seconds 1) rfl
    let before : Scheduler String :=
      { settings := ⟨.machine, 1, 0⟩, clock := ⟨2000000000⟩, opened := true, shut := false,
        free := 0, queue := [0],
        timers := [⟨0, "sweep", true, .recurring rule, "sweep", true, false, some ⟨0⟩,
          .queued (some ⟨2000000000⟩)⟩],
        executions := [⟨2, 0, "sweep", some ⟨1000000000⟩, "sweep"⟩],
        calls := [⟨1, false, .waiting⟩],
        fires := [⟨0, "sweep", some ⟨1000000000⟩, ⟨1000000000⟩⟩], nextId := 3 }
    let after : Scheduler String := { before with
        timers := [⟨0, "sweep", true, .recurring rule, "sweep", false, true, some ⟨0⟩,
          .queued (some ⟨2000000000⟩)⟩] }
    Reachable ⟨.machine, 1, 0⟩ ⟨0⟩ before ∧ before.replaceManaged [] = .ok after ∧
      (replaceInPlace []).run.run before = (.ok (), after) ∧ before.Swapped [] after ∧
        ∀ moves later, Run after moves later → before.Outlasts moves later := by
  intro rule before after
  have reachable : Reachable ⟨.machine, 1, 0⟩ ⟨0⟩ before := by
    refine ⟨[.addManaged [⟨"sweep", rule, "sweep"⟩], .openFor, .step (.pass 0),
      .advance ⟨1000000000⟩, .step (.wake 0), .step .grant, .step (.handOver 0),
      .advance ⟨2000000000⟩, .step (.wake 0)], ?_⟩
    repeat refine .next rfl ?_
    exact .done
  have replaced : before.replaceManaged [] = .ok after := rfl
  obtain ⟨_, _, final⟩ := swap_atomic reachable []
  exact ⟨reachable, replaced, final after replaced⟩

end PowerRota.Scheduler
