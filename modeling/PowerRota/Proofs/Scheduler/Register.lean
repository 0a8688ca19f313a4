import PowerRota.Proofs.Scheduler.Run

/-! Calls that put jobs on the register: when they are refused, and what they do when
they are not. -/

set_option autoImplicit false

namespace PowerRota

open PowerRota.Calendar

def Timer.job? {Body : Type} (timer : Timer Body) : Option (Job Body) :=
  match timer.firing with
  | .recurring rule => some ⟨timer.name, rule, timer.body⟩
  | .once => none

structure Timer.Fresh {Body : Type} (timer : Timer Body) : Prop where
  registered : timer.registered = true
  cancelled : timer.cancelled = false
  opened : timer.opened = none
  phase : timer.phase = .gate

namespace Scheduler

variable {Body : Type} {scheduler after : Scheduler Body}

theorem checkName_eq_ok_iff (scheduler : Scheduler Body) (name : String) :
    scheduler.checkName name = .ok () ↔ scheduler.shut = false ∧ name ≠ "" := by
  unfold checkName
  by_cases shut : scheduler.shut = true
  · simp [shut]
  · by_cases empty : name = "" <;> simp [shut, empty]

/-- A set of jobs is refused if it holds a job at all and the scheduler is shut down,
or a name is empty. -/
def Refuses (scheduler : Scheduler Body) (jobs : List (Job Body)) : Prop :=
  ∃ job ∈ jobs, scheduler.shut = true ∨ job.name = ""

theorem checkJobs_eq_ok_iff (scheduler : Scheduler Body) (jobs : List (Job Body)) :
    scheduler.checkJobs jobs = .ok () ↔ ¬ scheduler.Refuses jobs := by
  induction jobs with
  | nil => simp [checkJobs, Refuses]
  | cons job jobs ih =>
    have head := scheduler.checkName_eq_ok_iff job.name
    have whole : ¬ scheduler.Refuses (job :: jobs) ↔
        (scheduler.shut = false ∧ job.name ≠ "") ∧ ¬ scheduler.Refuses jobs := by
      simp [Refuses]
    rw [whole, ← ih, ← head, checkJobs]
    cases scheduler.checkName job.name with
    | error fault => simp [bind, Except.bind]
    | ok _ => simp [bind, Except.bind]

def timersFor (id : Nat) : List (Job Body) → List (Timer Body)
  | [] => []
  | job :: jobs =>
      ⟨id, job.name, true, .recurring job.rule, job.body, true, false, none, .gate⟩ ::
        timersFor (id + 1) jobs

theorem insertJobs_eq (scheduler : Scheduler Body) (jobs : List (Job Body)) :
    scheduler.insertJobs jobs =
      { scheduler with
        timers := scheduler.timers ++ timersFor scheduler.nextId jobs
        nextId := scheduler.nextId + jobs.length } := by
  induction jobs generalizing scheduler with
  | nil => simp [insertJobs, timersFor]
  | cons job jobs ih =>
    -- the rest goes into the scheduler that has the first, with the next id moved on
    have split : scheduler.insertJobs (job :: jobs) =
        (scheduler.insert job.name true (.recurring job.rule) job.body).insertJobs jobs := rfl
    rw [split, ih]
    simp only [insert, timersFor, List.append_assoc, List.singleton_append, List.length_cons,
      Nat.add_assoc, Nat.add_comm 1]

theorem timersFor_jobs (id : Nat) (jobs : List (Job Body)) :
    (timersFor id jobs).map Timer.job? = jobs.map some := by
  induction jobs generalizing id with
  | nil => rfl
  | cons job jobs ih => simp only [timersFor, List.map_cons, Timer.job?, ih]

theorem timersFor_ids (id : Nat) (jobs : List (Job Body)) :
    (timersFor id jobs).map (·.id) = List.range' id jobs.length := by
  induction jobs generalizing id with
  | nil => rfl
  | cons job jobs ih => simp only [timersFor, List.map_cons, ih, List.length_cons, List.range'_succ]

theorem id_bounds_of_mem_timersFor {id : Nat} {jobs : List (Job Body)} {timer : Timer Body}
    (member : timer ∈ timersFor id jobs) : id ≤ timer.id ∧ timer.id < id + jobs.length := by
  have listed : timer.id ∈ (timersFor id jobs).map (·.id) := List.mem_map_of_mem member
  rw [timersFor_ids] at listed
  exact List.mem_range'_1.mp listed

theorem timersFor_names (id : Nat) (jobs : List (Job Body)) :
    (timersFor id jobs).map (·.name) = jobs.map (·.name) := by
  induction jobs generalizing id with
  | nil => rfl
  | cons job jobs ih => simp only [timersFor, List.map_cons, ih]

theorem job_of_mem_timersFor {id : Nat} {jobs : List (Job Body)} {timer : Timer Body}
    (member : timer ∈ timersFor id jobs) :
    ∃ job ∈ jobs, timer.name = job.name ∧ timer.firing = .recurring job.rule := by
  induction jobs generalizing id with
  | nil => cases member
  | cons job jobs ih =>
    rcases List.mem_cons.mp member with rfl | member
    · exact ⟨job, List.mem_cons_self .., rfl, rfl⟩
    · obtain ⟨other, later, same⟩ := ih member
      exact ⟨other, List.mem_cons_of_mem _ later, same⟩

theorem fresh_of_mem_timersFor {id : Nat} {jobs : List (Job Body)} {timer : Timer Body}
    (member : timer ∈ timersFor id jobs) : timer.Fresh ∧ timer.managed = true := by
  induction jobs generalizing id with
  | nil => cases member
  | cons job jobs ih =>
    rcases List.mem_cons.mp member with rfl | member
    · exact ⟨⟨rfl, rfl, rfl, rfl⟩, rfl⟩
    · exact ih member

theorem mem_managed {timer : Timer Body} :
    timer ∈ scheduler.managed ↔
      timer ∈ scheduler.timers ∧ timer.registered = true ∧ timer.managed = true := by
  simp only [Scheduler.managed, registered, List.mem_filter, and_assoc]

theorem mem_dropManaged {timer : Timer Body} (member : timer ∈ scheduler.dropManaged.timers) :
    ∃ old ∈ scheduler.timers, timer =
      if old.registered && old.managed then { old with registered := false, cancelled := true }
      else old := by
  obtain ⟨old, known, same⟩ := List.mem_map.mp member
  exact ⟨old, known, same.symm⟩

theorem addManaged_eq_ok_iff {jobs : List (Job Body)} :
    scheduler.addManaged jobs = .ok after ↔
      ¬ scheduler.Refuses jobs ∧ after = scheduler.insertJobs (jobs.filter scheduler.isLive) := by
  rw [← checkJobs_eq_ok_iff]
  unfold addManaged
  cases scheduler.checkJobs jobs with
  | error fault => simp [bind, Except.bind]
  | ok _ => simp [bind, Except.bind, pure, Except.pure, eq_comm]

theorem replaceManaged_eq_ok_iff {jobs : List (Job Body)} :
    scheduler.replaceManaged jobs = .ok after ↔
      ¬ scheduler.Refuses jobs ∧
        after = scheduler.dropManaged.insertJobs (jobs.filter scheduler.isLive) := by
  rw [← checkJobs_eq_ok_iff]
  unfold replaceManaged
  cases scheduler.checkJobs jobs with
  | error fault => simp [bind, Except.bind]
  | ok _ => simp [bind, Except.bind, pure, Except.pure, eq_comm]

theorem addOneShot_eq_ok_iff {name : String} {body : Body} :
    scheduler.addOneShot name body = .ok after ↔
      (scheduler.shut = false ∧ name ≠ "") ∧ after = scheduler.insert name false .once body := by
  rw [← checkName_eq_ok_iff]
  unfold addOneShot
  cases scheduler.checkName name with
  | error fault => simp [bind, Except.bind]
  | ok _ => simp [bind, Except.bind, pure, Except.pure, eq_comm]

theorem openFor_eq_ok_iff {call : Nat} :
    scheduler.openFor = .ok (after, call) ↔
      scheduler.shut = false ∧ call = scheduler.nextId ∧
        after = { scheduler with
          opened := true
          calls := scheduler.calls ++ [⟨scheduler.nextId, false, .waiting⟩]
          nextId := scheduler.nextId + 1 } := by
  unfold openFor
  cases scheduler.shut with
  | true => simp
  | false =>
    simp only [Bool.false_eq_true, if_false, Except.ok.injEq, Prod.mk.injEq, true_and]
    exact ⟨fun ⟨same, id⟩ => ⟨id.symm, same.symm⟩, fun ⟨id, same⟩ => ⟨same.symm, id.symm⟩⟩

inductive Moved (scheduler : Scheduler Body) : SchedulerMove Body → Scheduler Body → Prop where
  | advance (clock : Instant) : Moved scheduler (.advance clock) (scheduler.advance clock)
  | addManaged {jobs : List (Job Body)} (accepted : ¬ scheduler.Refuses jobs) :
      Moved scheduler (.addManaged jobs) (scheduler.insertJobs (jobs.filter scheduler.isLive))
  | addOneShot {name : String} {body : Body}
      (accepted : scheduler.shut = false ∧ name ≠ "") :
      Moved scheduler (.addOneShot name body) (scheduler.insert name false .once body)
  | replaceManaged {jobs : List (Job Body)} (accepted : ¬ scheduler.Refuses jobs) :
      Moved scheduler (.replaceManaged jobs)
        (scheduler.dropManaged.insertJobs (jobs.filter scheduler.isLive))
  | openFor (accepted : scheduler.shut = false) :
      Moved scheduler .openFor
        { scheduler with
          opened := true
          calls := scheduler.calls ++ [⟨scheduler.nextId, false, .waiting⟩]
          nextId := scheduler.nextId + 1 }
  | stop : Moved scheduler .stop scheduler.stop
  | step {event : SchedulerEvent} {after : Scheduler Body} (taken : scheduler.Step event after) :
      Moved scheduler (.step event) after

theorem eq_ok_of_toOption {Fault Value : Type} {result : Except Fault Value} {value : Value}
    (found : result.toOption = some value) : result = .ok value := by
  cases result with
  | error fault => cases found
  | ok other =>
    cases found
    rfl

theorem move?_moved {move : SchedulerMove Body} (moved : scheduler.move? move = some after) :
    scheduler.Moved move after := by
  cases move with
  | advance clock =>
    cases moved
    exact .advance clock
  | addManaged jobs =>
    obtain ⟨accepted, rfl⟩ := addManaged_eq_ok_iff.mp (eq_ok_of_toOption moved)
    exact .addManaged accepted
  | addOneShot name body =>
    obtain ⟨accepted, rfl⟩ := addOneShot_eq_ok_iff.mp (eq_ok_of_toOption moved)
    exact .addOneShot accepted
  | replaceManaged jobs =>
    obtain ⟨accepted, rfl⟩ := replaceManaged_eq_ok_iff.mp (eq_ok_of_toOption moved)
    exact .replaceManaged accepted
  | openFor =>
    have opened := eq_ok_of_toOption moved
    cases result : scheduler.openFor with
    | error fault => simp [result, Except.map] at opened
    | ok pair =>
      obtain ⟨next, call⟩ := pair
      simp only [result, Except.map, Except.ok.injEq] at opened
      obtain ⟨accepted, _, rfl⟩ := openFor_eq_ok_iff.mp result
      exact opened ▸ .openFor accepted
  | stop =>
    cases moved
    exact .stop
  | step event => exact .step (step?_step moved)

end Scheduler

end PowerRota
