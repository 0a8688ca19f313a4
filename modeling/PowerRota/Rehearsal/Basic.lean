import PowerRota.Daemon
import PowerRota.Files.Tree
import PowerRota.Rehearsal.Cloud
import PowerRota.Rehearsal.Log
import PowerRota.Reload
import PowerRota.Shutdown

/-! A rehearsal of the daemon, on a clock of its own and with a cloud of its own.

Time is counted in milliseconds and passes only while everything waits. Whoever can
go on stands in line; the first in line goes on until it has to wait. -/

set_option autoImplicit false

namespace PowerRota

open PowerRota.Calendar

namespace Rehearsal

/-- What a test job does: it begins, takes its time, and is done or breaks off. -/
structure Chore where
  name : String
  time : Nat
  breaks : Bool
  deriving DecidableEq, Repr

inductive Caller where
  | execution (id : Nat)
  | background
  | step
  deriving DecidableEq, Repr

def Caller.execution? : Caller → Option Nat
  | .execution id => some id
  | _ => none

/-- How far an invocation has got, and the time at which its call to the cloud ends. -/
inductive InvocationStage where
  | asked
  | calling (invocation : Nat) (call : CloudCall) (due : Nat)
  deriving DecidableEq, Repr

/-- What a task of its own that the controller keeps track of does. -/
inductive TaskKind where
  | sleeps
  | untilCancelled
  | breaks
  | never
  deriving DecidableEq, Repr

inductive Activity where
  | chore (execution : Nat) (chore : Chore) (due : Option Nat)
  | invocation (order : Order) (caller : Caller) (stage : InvocationStage)
  | scheduling (call : Option Nat)
  | validating (tick : Option Nat)
  /-- A pass, the time at which its query ends, and when the next pass is due. A
  pass without a next one is a step of its own. -/
  | pass (pass : Nat) (due : Option Nat) (next : Option Nat)
  | reloading (tick : Option Nat)
  | task (name : String) (kind : TaskKind) (time : Nat) (due : Option Nat)
  | shutdown (call : Nat) (caller : Caller)

/-- What the controller knows of a task that it keeps track of. -/
structure Enrolment where
  task : Nat
  token : Nat
  deriving DecidableEq, Repr

structure Task where
  id : Nat
  activity : Activity
  tracked : Option Enrolment
  cancelled : Bool

inductive Runner where
  | timer (id : Nat)
  | task (id : Nat)
  deriving DecidableEq, Repr

inductive Answer where
  | nothing
  | status (status : Option OperationStatus)
  | count (n : Nat)
  | flag (value : Bool)
  deriving DecidableEq, Repr

structure Settings where
  validationInterval : Nat
  reloadInterval : Nat
  counts : Bool
  readsManifests : Bool
  deriving DecidableEq, Repr

end Rehearsal

open Rehearsal

structure Rehearsal where
  settings : Rehearsal.Settings
  origin : Instant
  time : Nat
  daemon : Daemon Chore
  controller : ShutdownController
  cloud : Cloud
  files : Tree
  baseline : Baseline
  reloadFails : Bool
  tasks : List Task
  line : List Runner
  nextTask : Nat
  /-- Executions from this number on have no task yet. -/
  nextExecution : Nat
  scheduling : Option Nat
  loops : List (Loop × Nat)
  log : Log
  /-- What the step that is being taken has to tell, once it is known. -/
  answer : Option Answer

namespace Rehearsal

def start (settings : Rehearsal.Settings) (daemon : Daemon Chore) (shutdownTimeout : Nat)
    (cloud : Cloud) (files : Tree) : Rehearsal where
  settings := settings
  origin := daemon.scheduler.clock
  time := 0
  daemon := daemon
  controller := .start shutdownTimeout daemon.scheduler.clock
  cloud := cloud
  files := files
  baseline := .start
  reloadFails := false
  tasks := []
  line := []
  nextTask := 0
  nextExecution := 0
  scheduling := none
  loops := []
  log := []
  answer := none

def nanosPerTick : Nat := 1000000

def instant (rehearsal : Rehearsal) : Instant :=
  rehearsal.origin.addNanos (rehearsal.time * nanosPerTick : Nat)

/-- The first time that is not before an instant. -/
def tickOf (rehearsal : Rehearsal) (t : Instant) : Nat :=
  ((t.nanos - rehearsal.origin.nanos + (nanosPerTick - 1)) / nanosPerTick).toNat

def setTime (rehearsal : Rehearsal) (time : Nat) : Rehearsal :=
  let rehearsal := { rehearsal with time }
  { rehearsal with
    daemon := { rehearsal.daemon with
      scheduler := rehearsal.daemon.scheduler.advance rehearsal.instant }
    controller := rehearsal.controller.advance rehearsal.instant }

def write (rehearsal : Rehearsal) (entry : Entry) : Rehearsal :=
  { rehearsal with log := (rehearsal.time, entry) :: rehearsal.log }

def writeCount (rehearsal : Rehearsal) (count : Count) : Rehearsal :=
  if rehearsal.settings.counts then rehearsal.write (.count count) else rehearsal

def task? (rehearsal : Rehearsal) (id : Nat) : Option Task :=
  rehearsal.tasks.find? (·.id == id)

def stepController (rehearsal : Rehearsal) (event : ShutdownEvent) : Rehearsal :=
  { rehearsal with
    controller := (rehearsal.controller.step? event).getD rehearsal.controller }

def spawn (rehearsal : Rehearsal) (activity : Activity) (tracked : Bool) : Rehearsal :=
  let holding := if tracked then rehearsal.stepController .token else rehearsal
  let enrolled := if tracked then holding.stepController .track else holding
  let enrolment : Enrolment := ⟨holding.controller.nextId, rehearsal.controller.nextId⟩
  { enrolled with
    tasks := rehearsal.tasks ++
      [⟨rehearsal.nextTask, activity, if tracked then some enrolment else none, false⟩]
    line := rehearsal.line ++ [.task rehearsal.nextTask]
    nextTask := rehearsal.nextTask + 1 }

def become (rehearsal : Rehearsal) (task : Task) (activity : Activity) : Rehearsal :=
  { rehearsal with
    tasks := rehearsal.tasks.filter (·.id ≠ task.id) ++ [{ task with activity }] }

def removeTask (rehearsal : Rehearsal) (task : Task) (ending : Nat → ShutdownEvent) : Rehearsal :=
  let left := match task.tracked with
    | some enrolment => rehearsal.stepController (ending enrolment.task)
    | none => rehearsal
  { left with tasks := rehearsal.tasks.filter (·.id ≠ task.id) }

def endTask (rehearsal : Rehearsal) (task : Task) : Rehearsal :=
  rehearsal.removeTask task .finish

def breakTask (rehearsal : Rehearsal) (task : Task) : Rehearsal :=
  rehearsal.removeTask task .panic

def isCancelled (rehearsal : Rehearsal) (task : Task) : Bool :=
  task.cancelled || task.tracked.any fun enrolment => rehearsal.controller.isCancelled enrolment.token

def cancelTask (rehearsal : Rehearsal) (id : Nat) : Rehearsal :=
  { rehearsal with
    tasks := rehearsal.tasks.map fun task =>
      if task.id = id then { task with cancelled := true } else task }

def stepScheduler (rehearsal : Rehearsal) (event : SchedulerEvent) : Rehearsal :=
  match rehearsal.daemon.scheduler.step? event with
  | none => rehearsal
  | some scheduler => { rehearsal with daemon := { rehearsal.daemon with scheduler } }

def beginExecution (rehearsal : Rehearsal) (execution : Execution (Work Chore)) : Rehearsal :=
  match execution.body with
  | .order order => rehearsal.spawn (.invocation order (.execution execution.id) .asked) false
  | .other chore => rehearsal.spawn (.chore execution.id chore none) false

def adoptExecutions (rehearsal : Rehearsal) : Rehearsal :=
  let scheduler := rehearsal.daemon.scheduler
  let fresh := scheduler.executions.filter fun execution => rehearsal.nextExecution ≤ execution.id
  { fresh.foldl beginExecution rehearsal with nextExecution := scheduler.nextId }

end Rehearsal

end PowerRota
