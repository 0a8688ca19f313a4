import PowerRota.Rehearsal.Course
import PowerRota.Web.Response

/-! The steps of a rehearsal, and what can be told after each. -/

set_option autoImplicit false

namespace PowerRota.Rehearsal

open PowerRota.Calendar

inductive Step where
  | advance (time : Nat)
  | addJobs (jobs : List (Job Chore))
  | replaceJobs (jobs : List (Job Chore))
  | addOneShot (chore : Chore)
  | register (schedules : List Schedule)
  | replace (schedules : List Schedule)
  | startScheduler (tracked : Bool)
  | stopScheduler
  | cancelScheduler
  | request (order : Order)
  | requestInBackground (order : Order)
  | validate (now : Option Instant)
  | updateSchedules (schedules : List Schedule)
  | startLoop (which : Loop) (tracked : Bool)
  | cancelLoop (which : Loop)
  | setResource (id : String) (behaviour : Behaviour)
  | writeFile (path : String) (content : Octets)
  | removeFile (path : String)
  | renameFile (source target : String)
  | failReloads (value : Bool)
  | prime
  | check
  | startTask (name : String) (kind : TaskKind) (time : Nat)
  | shutdown
  | shutdownInBackground

inductive Result where
  | told (answer : Answer)
  | done
  | outcome (outcome : ReloadOutcome)
  | failed (error : Error)

/-- What can be seen of a rehearsal between two steps. -/
structure Sight where
  time : Nat
  jobs : List String
  isRunning : Bool
  lines : List String

def view (rehearsal : Rehearsal) : Web.View :=
  ⟨rehearsal.controller.phase, rehearsal.daemon.scheduler.isRunning,
    if rehearsal.settings.counts then rehearsal.daemon.metrics else []⟩

def isInFlight (rehearsal : Rehearsal) (resource : Resource) (action : String) : Bool :=
  rehearsal.daemon.executor.isInFlight resource action

/-- Look at a rehearsal. What was seen of the log is not seen again. -/
def look (rehearsal : Rehearsal) : Rehearsal × Sight :=
  let scheduler := rehearsal.daemon.scheduler
  ({ rehearsal with log := [] },
    ⟨rehearsal.time, scheduler.jobNames, scheduler.isRunning, rehearsal.log.lines⟩)

def put (rehearsal : Rehearsal) (result : Except Error (Scheduler (Work Chore))) :
    Rehearsal × Result :=
  match result with
  | .ok scheduler => ({ rehearsal with daemon := { rehearsal.daemon with scheduler } }, .done)
  | .error error => (rehearsal, .failed error)

def quiet (rehearsal : Rehearsal) : Rehearsal × Result := (rehearsal, .told .nothing)

def await (rehearsal : Rehearsal) : Rehearsal × Result :=
  let rehearsal := { rehearsal with answer := none }.awaitAnswer patience
  ({ rehearsal with answer := none }, .told (rehearsal.answer.getD .nothing))

def work (jobs : List (Job Chore)) : List (Job (Work Chore)) :=
  jobs.map fun job => job.map .other

def checkInterval (rehearsal : Rehearsal) : Except Error ReloadInterval :=
  ReloadInterval.ofNanos (rehearsal.settings.reloadInterval * nanosPerTick)

def primeBaseline (rehearsal : Rehearsal) : Except Error Rehearsal := do
  let _ ← rehearsal.checkInterval
  let baseline ← rehearsal.baseline.prime rehearsal.signature
  return { rehearsal with baseline }

def callShutdown (rehearsal : Rehearsal) (caller : Caller) : Rehearsal :=
  let id := rehearsal.controller.nextId
  (rehearsal.stepController .call).spawn (.shutdown id caller) false

def take (rehearsal : Rehearsal) : Step → Rehearsal × Result
  | .advance time =>
      (rehearsal.passUntil (rehearsal.time + time) patience).quiet
  | .addJobs jobs => rehearsal.put (rehearsal.daemon.scheduler.addManaged (work jobs))
  | .replaceJobs jobs => rehearsal.put (rehearsal.daemon.scheduler.replaceManaged (work jobs))
  | .addOneShot chore =>
      rehearsal.put (rehearsal.daemon.scheduler.addOneShot chore.name (.other chore))
  | .register schedules =>
      rehearsal.put (rehearsal.daemon.scheduler.registerSchedules .order schedules)
  | .replace schedules =>
      rehearsal.put (rehearsal.daemon.scheduler.replaceSchedules .order schedules)
  | .startScheduler tracked =>
      let id := rehearsal.nextTask
      let rehearsal := rehearsal.spawn (.scheduling none) tracked
      (if tracked then rehearsal else { rehearsal with scheduling := some id }).quiet
  | .stopScheduler =>
      { rehearsal with
        daemon := { rehearsal.daemon with
          scheduler := rehearsal.daemon.scheduler.stop } }.quiet
  | .cancelScheduler =>
      (match rehearsal.scheduling with
        | some id => rehearsal.cancelTask id
        | none => rehearsal).quiet
  | .request order => (rehearsal.spawn (.invocation order .step .asked) false).await
  | .requestInBackground order =>
      (rehearsal.spawn (.invocation order .background .asked) false).quiet
  | .validate now =>
      let (daemon, pass) := rehearsal.daemon.beginPass (now.getD rehearsal.instant)
      ({ rehearsal with daemon }.spawn (.pass pass none none) false).await
  | .updateSchedules schedules =>
      { rehearsal with daemon := { rehearsal.daemon with schedules } }.quiet
  | .startLoop which tracked =>
      let start := fun (activity : Activity) =>
        let id := rehearsal.nextTask
        let rehearsal := rehearsal.spawn activity tracked
        if tracked then rehearsal
        else { rehearsal with loops := (which, id) :: rehearsal.loops }
      match which with
      | .validator => (start (.validating none)).quiet
      | .reloader =>
          match rehearsal.checkInterval with
          | .error error => (rehearsal, .failed error)
          | .ok _ => (start (.reloading none)).quiet
  | .cancelLoop which =>
      (match rehearsal.loops.lookup which with
        | some id => rehearsal.cancelTask id
        | none => rehearsal).quiet
  | .setResource id behaviour =>
      { rehearsal with cloud := rehearsal.cloud.set id behaviour }.quiet
  | .writeFile path content =>
      { rehearsal with files := rehearsal.files.write path content }.quiet
  | .removeFile path => { rehearsal with files := rehearsal.files.remove path }.quiet
  | .renameFile source target =>
      { rehearsal with files := rehearsal.files.rename source target }.quiet
  | .failReloads value => { rehearsal with reloadFails := value }.quiet
  | .prime =>
      match rehearsal.primeBaseline with
      | .ok rehearsal => (rehearsal, .done)
      | .error error => (rehearsal, .failed error)
  | .check =>
      match rehearsal.checkInterval with
      | .error error => (rehearsal, .failed error)
      | .ok _ =>
          let (rehearsal, outcome) := rehearsal.check
          (rehearsal, .outcome outcome)
  | .startTask name kind time =>
      let rehearsal := rehearsal.spawn (.task name kind time none) true
      (rehearsal, .told (.count rehearsal.controller.tasks.length))
  | .shutdown => (rehearsal.callShutdown .step).await
  | .shutdownInBackground => (rehearsal.callShutdown .background).quiet
def run (rehearsal : Rehearsal) (step : Step) : Rehearsal × Result :=
  let (rehearsal, result) := rehearsal.take step
  (rehearsal.settle patience, result)

end PowerRota.Rehearsal
