import PowerRota.Scheduler.Basic

/-! Putting jobs on the register, and swapping the managed ones.

A set of jobs is checked as a whole before anything is changed. Recurring jobs that
will never fire again are passed over without an error. -/

set_option autoImplicit false

namespace PowerRota.Scheduler

open PowerRota.Calendar

variable {Body : Type}

def checkName (scheduler : Scheduler Body) (name : String) : Except Error Unit :=
  if scheduler.shut then .error (.registration name .shutDown)
  else if name = "" then .error (.registration name .emptyName)
  else .ok ()

def checkJobs (scheduler : Scheduler Body) : List (Job Body) → Except Error Unit
  | [] => .ok ()
  | job :: rest => do
      scheduler.checkName job.name
      scheduler.checkJobs rest

def isLive (scheduler : Scheduler Body) (job : Job Body) : Bool :=
  (job.rule.nextAfter scheduler.zone scheduler.clock).isSome

def insert (scheduler : Scheduler Body) (name : String) (managed : Bool) (firing : Firing)
    (body : Body) : Scheduler Body :=
  { scheduler with
    timers := scheduler.timers ++
      [⟨scheduler.nextId, name, managed, firing, body, true, false, none, .gate⟩]
    nextId := scheduler.nextId + 1 }

def insertJobs (scheduler : Scheduler Body) (jobs : List (Job Body)) : Scheduler Body :=
  jobs.foldl (fun scheduler job => scheduler.insert job.name true (.recurring job.rule) job.body)
    scheduler

/-- Add managed jobs, all or none. -/
def addManaged (scheduler : Scheduler Body) (jobs : List (Job Body)) :
    Except Error (Scheduler Body) := do
  scheduler.checkJobs jobs
  return scheduler.insertJobs (jobs.filter scheduler.isLive)

/-- Add a job that fires once, as soon as the scheduler is open. -/
def addOneShot (scheduler : Scheduler Body) (name : String) (body : Body) :
    Except Error (Scheduler Body) := do
  scheduler.checkName name
  return scheduler.insert name false .once body

def dropManaged (scheduler : Scheduler Body) : Scheduler Body :=
  { scheduler with
    timers := scheduler.timers.map fun timer =>
      if timer.registered && timer.managed then
        { timer with registered := false, cancelled := true }
      else timer }

/-- Swap the managed jobs for others. Executions and single jobs are not touched. -/
def replaceManaged (scheduler : Scheduler Body) (jobs : List (Job Body)) :
    Except Error (Scheduler Body) := do
  scheduler.checkJobs jobs
  return scheduler.dropManaged.insertJobs (jobs.filter scheduler.isLive)

def registerSchedules (scheduler : Scheduler Body) (body : Order → Body)
    (schedules : List Schedule) : Except Error (Scheduler Body) := do
  let jobs ← Schedule.jobs schedules
  scheduler.addManaged (jobs.map (·.map body))

def replaceSchedules (scheduler : Scheduler Body) (body : Order → Body)
    (schedules : List Schedule) : Except Error (Scheduler Body) := do
  let jobs ← Schedule.jobs schedules
  scheduler.replaceManaged (jobs.map (·.map body))

end PowerRota.Scheduler
