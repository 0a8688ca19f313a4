import PowerRota.Scheduler.Register

/-! The steps that timers, executions and the calls of the scheduler take.

A step that is not due has no effect to offer: `step?` answers none. Which of the
possible steps comes next is not laid down here. A cancelled timer may go on for a
while, but it never hands over an execution: its last look at the cancellation, the call
of the body and the tracking of the execution follow one another without a wait, and so
they are one step. -/

set_option autoImplicit false

namespace PowerRota

open PowerRota.Calendar

inductive SchedulerEvent where
  /-- A cancelled timer stops waiting. -/
  | leave (timer : Nat)
  /-- A timer finds the scheduler open. -/
  | pass (timer : Nat)
  | wake (timer : Nat)
  | grant
  | handOver (timer : Nat)
  /-- A cancelled timer gives its permit back. -/
  | abandon (timer : Nat)
  /-- A timer that is finished disappears, and its job from the register. -/
  | retire (timer : Nat)
  | finish (execution : Nat)
  | cancel (call : Nat)
  | windDown (call : Nat)
  | return (call : Nat)
  deriving DecidableEq, Repr

namespace Scheduler

variable {Body : Type}

def updateTimer (scheduler : Scheduler Body) (id : Nat) (change : Timer Body → Timer Body) :
    Scheduler Body :=
  { scheduler with
    timers := scheduler.timers.map fun timer => if timer.id = id then change timer else timer }

def setPhase (scheduler : Scheduler Body) (id : Nat) (phase : TimerPhase) : Scheduler Body :=
  scheduler.updateTimer id fun timer => { timer with phase := phase }

def phaseAfter (scheduler : Scheduler Body) (rule : FiringRule) (last : Instant) : TimerPhase :=
  match rule.nextAfter scheduler.zone last with
  | some due => .asleep due
  | none => .finished

def enqueue (scheduler : Scheduler Body) (id : Nat) (due : Option Instant) : Scheduler Body :=
  { scheduler.setPhase id (.queued due) with queue := scheduler.queue ++ [id] }

def pass? (scheduler : Scheduler Body) (timer : Timer Body) : Option (Scheduler Body) :=
  if scheduler.opened ∧ timer.phase = .gate then
    let scheduler := scheduler.updateTimer timer.id fun timer =>
      { timer with opened := some scheduler.clock }
    match timer.firing with
    | .once => some (scheduler.enqueue timer.id none)
    | .recurring rule => some (scheduler.setPhase timer.id (scheduler.phaseAfter rule scheduler.clock))
  else none

def wake? (scheduler : Scheduler Body) (timer : Timer Body) : Option (Scheduler Body) :=
  match timer.phase with
  | .asleep due => if due ≤ scheduler.clock then some (scheduler.enqueue timer.id (some due)) else none
  | _ => none

/-- Only a timer that waits can leave; one that holds a permit gives it back. -/
def leave? (scheduler : Scheduler Body) (timer : Timer Body) : Option (Scheduler Body) :=
  if scheduler.isCancelled timer then
    match timer.phase with
    | .gate | .asleep _ | .queued _ =>
        some { scheduler.setPhase timer.id .finished with
          queue := scheduler.queue.filter (· ≠ timer.id) }
    | .holding _ | .finished => none
  else none

def grant? (scheduler : Scheduler Body) : Option (Scheduler Body) :=
  match scheduler.queue with
  | id :: rest =>
      if 0 < scheduler.free then
        match scheduler.timer? id with
        | some timer =>
            match timer.phase with
            | .queued due =>
                some { scheduler.setPhase id (.holding due) with
                  queue := rest, free := scheduler.free - 1 }
            | _ => none
        | none => none
      else none
  | [] => none

def handOver? (scheduler : Scheduler Body) (timer : Timer Body) : Option (Scheduler Body) :=
  match timer.phase with
  | .holding due =>
      if scheduler.isCancelled timer then none
      else
        let after := match timer.firing, due with
          | .recurring rule, some due => scheduler.phaseAfter rule due
          | _, _ => .finished
        some { scheduler.setPhase timer.id after with
          executions := scheduler.executions ++
            [⟨scheduler.nextId, timer.id, timer.name, due, timer.body⟩]
          fires := ⟨timer.id, timer.name, due, scheduler.clock⟩ :: scheduler.fires
          nextId := scheduler.nextId + 1 }
  | _ => none

def abandon? (scheduler : Scheduler Body) (timer : Timer Body) : Option (Scheduler Body) :=
  match timer.phase with
  | .holding _ =>
      if scheduler.isCancelled timer then
        some { scheduler.setPhase timer.id .finished with free := scheduler.free + 1 }
      else none
  | _ => none

def retire? (scheduler : Scheduler Body) (timer : Timer Body) : Option (Scheduler Body) :=
  if timer.phase = .finished then
    some { scheduler with timers := scheduler.timers.filter (·.id ≠ timer.id) }
  else none

def finish? (scheduler : Scheduler Body) (execution : Nat) : Option (Scheduler Body) :=
  if scheduler.executions.any (·.id == execution) then
    some { scheduler with
      executions := scheduler.executions.filter (·.id ≠ execution)
      free := scheduler.free + 1 }
  else none

def openFor (scheduler : Scheduler Body) : Except Error (Scheduler Body × Nat) :=
  if scheduler.shut then .error .schedulerClosed
  else
    .ok ({ scheduler with
      opened := true
      calls := scheduler.calls ++ [⟨scheduler.nextId, false, .waiting⟩]
      nextId := scheduler.nextId + 1 }, scheduler.nextId)

/-- Shut down at once, without waiting for executions. -/
def stop (scheduler : Scheduler Body) : Scheduler Body :=
  { scheduler with shut := true }

def updateCall (scheduler : Scheduler Body) (id : Nat) (change : StartCall → StartCall) :
    Scheduler Body :=
  { scheduler with
    calls := scheduler.calls.map fun call => if call.id = id then change call else call }

def call? (scheduler : Scheduler Body) (id : Nat) : Option StartCall :=
  scheduler.calls.find? (·.id == id)

def windDown? (scheduler : Scheduler Body) (call : StartCall) : Option (Scheduler Body) :=
  if call.stage = .waiting ∧ (call.cancelled ∨ scheduler.shut) then
    let deadline := scheduler.clock.addNanos scheduler.settings.drainTimeout
    some { scheduler.updateCall call.id fun call => { call with stage := .draining deadline } with
      shut := true }
  else none

/-- Nothing is in progress any more, or the deadline has come. -/
def return? (scheduler : Scheduler Body) (call : StartCall) : Option (Scheduler Body) :=
  match call.stage with
  | .draining deadline =>
      if scheduler.executions.isEmpty ∨ deadline ≤ scheduler.clock then
        some (scheduler.updateCall call.id fun call => { call with stage := .returned })
      else none
  | _ => none

def step? (scheduler : Scheduler Body) : SchedulerEvent → Option (Scheduler Body)
  | .leave id => (scheduler.timer? id).bind scheduler.leave?
  | .pass id => (scheduler.timer? id).bind scheduler.pass?
  | .wake id => (scheduler.timer? id).bind scheduler.wake?
  | .grant => scheduler.grant?
  | .handOver id => (scheduler.timer? id).bind scheduler.handOver?
  | .abandon id => (scheduler.timer? id).bind scheduler.abandon?
  | .retire id => (scheduler.timer? id).bind scheduler.retire?
  | .finish id => scheduler.finish? id
  | .cancel id =>
      (scheduler.call? id).map fun call =>
        scheduler.updateCall call.id fun call => { call with cancelled := true }
  | .windDown id => (scheduler.call? id).bind scheduler.windDown?
  | .return id => (scheduler.call? id).bind scheduler.return?

/-- The step that a timer takes next, if it need not wait. A cancelled timer goes
before all else. -/
def nextEvent? (scheduler : Scheduler Body) (timer : Timer Body) : Option SchedulerEvent :=
  let cancelled := scheduler.isCancelled timer
  match timer.phase with
  | .gate =>
      if cancelled then some (.leave timer.id)
      else if scheduler.opened then some (.pass timer.id)
      else none
  | .asleep due =>
      if cancelled then some (.leave timer.id)
      else if due ≤ scheduler.clock then some (.wake timer.id)
      else none
  | .queued _ =>
      if cancelled then some (.leave timer.id)
      else if scheduler.queue.head? = some timer.id ∧ 0 < scheduler.free then some .grant
      else none
  | .holding _ => some (if cancelled then .abandon timer.id else .handOver timer.id)
  | .finished => some (.retire timer.id)

end Scheduler

end PowerRota
