import PowerRota.Calendar.Location
import PowerRota.Schedule.Jobs

/-! The scheduler: registered jobs, their timers, and the executions they started.

A job that is registered has a timer, which waits for the scheduler to be opened,
for its next fire, and for a permit. With the permit it hands an execution over;
the execution holds the permit until it ends, whatever becomes of the job. Permits
go to the timers in the order in which they asked. -/

set_option autoImplicit false

namespace PowerRota

open PowerRota.Calendar

/-- What makes a job fire: a rule, again and again, or its registration, once. -/
inductive Firing where
  | recurring (rule : FiringRule)
  | once
  deriving DecidableEq, Repr

/-- Where a timer stands. The instant is the fire it is for; single fires have none. -/
inductive TimerPhase where
  | gate
  | asleep (due : Instant)
  /-- Asked for a permit. -/
  | queued (due : Option Instant)
  /-- Has a permit and has not yet handed over an execution. -/
  | holding (due : Option Instant)
  | finished
  deriving DecidableEq, Repr

structure Timer (Body : Type) where
  id : Nat
  name : String
  managed : Bool
  firing : Firing
  body : Body
  /-- Whether the job is still on the register. -/
  registered : Bool
  /-- Whether the job was taken off the register by a swap. -/
  cancelled : Bool
  /-- When the timer found the scheduler open. -/
  opened : Option Instant
  phase : TimerPhase
  deriving Repr

structure Execution (Body : Type) where
  id : Nat
  timer : Nat
  name : String
  due : Option Instant
  body : Body
  deriving Repr

/-- A fire that took place: whose it is, when it was due and when it was handed over. -/
structure Fire where
  timer : Nat
  name : String
  due : Option Instant
  time : Instant
  deriving DecidableEq, Repr

inductive CallStage where
  | waiting
  /-- Waits for the executions in progress, up to a deadline. -/
  | draining (deadline : Instant)
  | returned
  deriving DecidableEq, Repr

structure StartCall where
  id : Nat
  cancelled : Bool
  stage : CallStage
  deriving DecidableEq, Repr

structure SchedulerSettings where
  location : Location
  maxConcurrent : Nat
  /-- In nanoseconds, like all timeouts. -/
  drainTimeout : Nat

namespace SchedulerSettings

def standard : SchedulerSettings := ⟨.machine, 5, 300 * 1000000000⟩

/-- Ask for a number of permits; there is always one at least. -/
def withMaxConcurrent (settings : SchedulerSettings) (n : Nat) : SchedulerSettings :=
  { settings with maxConcurrent := max 1 n }

end SchedulerSettings

structure Scheduler (Body : Type) where
  settings : SchedulerSettings
  clock : Instant
  opened : Bool
  shut : Bool
  free : Nat
  queue : List Nat
  timers : List (Timer Body)
  executions : List (Execution Body)
  calls : List StartCall
  /-- Every fire so far, the last first. -/
  fires : List Fire
  nextId : Nat

namespace Scheduler

variable {Body : Type}

def limit (settings : SchedulerSettings) : Nat := max 1 settings.maxConcurrent

def start (settings : SchedulerSettings) (clock : Instant) : Scheduler Body where
  settings := settings
  clock := clock
  opened := false
  shut := false
  free := limit settings
  queue := []
  timers := []
  executions := []
  calls := []
  fires := []
  nextId := 0

def zone (scheduler : Scheduler Body) : Zone := scheduler.settings.location.zone

def isRunning (scheduler : Scheduler Body) : Bool := scheduler.opened && !scheduler.shut

def registered (scheduler : Scheduler Body) : List (Timer Body) :=
  scheduler.timers.filter (·.registered)

def managed (scheduler : Scheduler Body) : List (Timer Body) :=
  scheduler.registered.filter (·.managed)

def jobNames (scheduler : Scheduler Body) : List String :=
  (scheduler.registered.map (·.name)).mergeSort (fun a b => a ≤ b)

def timer? (scheduler : Scheduler Body) (id : Nat) : Option (Timer Body) :=
  scheduler.timers.find? (·.id == id)

/-- A timer that must not fire any more. -/
def isCancelled (scheduler : Scheduler Body) (timer : Timer Body) : Bool :=
  timer.cancelled || scheduler.shut

def advance (scheduler : Scheduler Body) (clock : Instant) : Scheduler Body :=
  if scheduler.clock ≤ clock then { scheduler with clock := clock } else scheduler

end Scheduler

end PowerRota
