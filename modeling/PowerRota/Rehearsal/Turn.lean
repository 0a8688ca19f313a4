import PowerRota.Manifest.Folder
import PowerRota.Rehearsal.Basic

/-! Whose turn it is in a rehearsal, and what a turn does. -/

set_option autoImplicit false

namespace PowerRota.Rehearsal

open PowerRota.Calendar

def alarm? (task : Task) : Option Nat :=
  match task.activity with
  | .chore _ _ due => due
  | .invocation _ _ (.calling _ _ due) => some due
  | .validating tick => tick
  | .pass _ due _ => due
  | .reloading tick => tick
  | .task _ _ _ due => due
  | _ => none

def deadline? (rehearsal : Rehearsal) (task : Task) : Option Nat :=
  match task.activity with
  | .invocation _ _ (.calling id _ _) =>
      match rehearsal.daemon.executor.invocation? id with
      | some ⟨_, _, _, .operating deadline⟩ => some (rehearsal.tickOf deadline)
      | _ => none
  | .scheduling (some id) =>
      match rehearsal.daemon.scheduler.call? id with
      | some ⟨_, _, .draining deadline⟩ => some (rehearsal.tickOf deadline)
      | _ => none
  | .shutdown id _ =>
      match rehearsal.controller.call? id with
      | some ⟨_, .waiting deadline _⟩ => some (rehearsal.tickOf deadline)
      | _ => none
  | _ => none

def isDue (rehearsal : Rehearsal) (due : Option Nat) : Bool :=
  due.all (· ≤ rehearsal.time)

def isReady (rehearsal : Rehearsal) (task : Task) : Bool :=
  match task.activity with
  | .chore _ _ due => rehearsal.isDue due
  | .invocation _ _ .asked => true
  | .invocation _ _ (.calling _ _ due) => due ≤ rehearsal.time
  | .scheduling none => true
  | .scheduling (some id) =>
      match rehearsal.daemon.scheduler.call? id with
      | some ⟨_, _, .waiting⟩ => rehearsal.isCancelled task || rehearsal.daemon.scheduler.shut
      | some ⟨_, _, .draining _⟩ => rehearsal.daemon.scheduler.executions.isEmpty
      | _ => true
  | .validating tick => rehearsal.isCancelled task || rehearsal.isDue tick
  | .pass _ due _ => rehearsal.isDue due
  | .reloading tick => rehearsal.isCancelled task || rehearsal.isDue tick
  | .task _ .never _ _ => false
  | .task _ .untilCancelled _ none => rehearsal.isCancelled task
  | .task _ _ _ due => rehearsal.isDue due
  | .shutdown id _ =>
      match rehearsal.controller.call? id with
      | some ⟨_, .waiting _ drained⟩ => drained
      | _ => true

def isOverdue (rehearsal : Rehearsal) (task : Task) : Bool :=
  (rehearsal.deadline? task).any (· ≤ rehearsal.time)

def isAwake (rehearsal : Rehearsal) (task : Task) : Bool :=
  rehearsal.isReady task || rehearsal.isOverdue task

def canGoOn (rehearsal : Rehearsal) : Runner → Bool
  | .timer id =>
      ((rehearsal.daemon.scheduler.timer? id).bind rehearsal.daemon.scheduler.nextEvent?).isSome
  | .task id => (rehearsal.task? id).any rehearsal.isAwake

def tell (rehearsal : Rehearsal) (order : Order) (caller : Caller)
    (status : Option OperationStatus) : Rehearsal :=
  match caller, status with
  | .execution _, _ => rehearsal
  | .background, some status =>
      rehearsal.write (.request order.schedule.name order.action status)
  | .background, none => rehearsal
  | .step, status => { rehearsal with answer := some (.status status) }

def conclude (rehearsal : Rehearsal) (task : Task) (order : Order) (caller : Caller)
    (outcome : Outcome) : Rehearsal :=
  let rehearsal := (outcome.counts order.schedule.resource.kind order.action).foldl
    writeCount rehearsal
  (rehearsal.tell order caller (some outcome.status)).endTask task

def issue (rehearsal : Rehearsal) (task : Task) (order : Order) (caller : Caller)
    (invocation : Nat) (call : CloudCall) : Rehearsal :=
  let due := rehearsal.time + rehearsal.cloud.time call
  (rehearsal.write (.cloud call)).become task
    (.invocation order caller (.calling invocation call due))

def turnOfOperation (rehearsal : Rehearsal) (task : Task) (order : Order) (caller : Caller)
    (invocation : Nat) (call : CloudCall) : Rehearsal :=
  let (cloud, ending) := rehearsal.cloud.perform call
  let rehearsal := { rehearsal with cloud }
  match ending with
  | .broken =>
      match rehearsal.daemon.abort? invocation with
      | some daemon => ({ rehearsal with daemon }.tell order caller none).endTask task
      | none => rehearsal.endTask task
  | ending =>
      let success := ending == .success
      let rehearsal := if success then rehearsal.write (.cloudDone call) else rehearsal
      match rehearsal.daemon.answerOperation? invocation success with
      | some (daemon, outcome) => { rehearsal with daemon }.conclude task order caller outcome
      | none => rehearsal.endTask task

def turnOfInvocation (rehearsal : Rehearsal) (task : Task) (order : Order) (caller : Caller) :
    InvocationStage → Rehearsal
  | .asked =>
      let (daemon, beginning) :=
        rehearsal.daemon.invoke caller.execution? order.schedule.resource order.action
      let rehearsal := { rehearsal with daemon }
      match beginning with
      | .ended outcome => rehearsal.conclude task order caller outcome
      | .started id call => rehearsal.issue task order caller id call
  | .calling id (.query resource) _ =>
      match rehearsal.daemon.answerState? id (rehearsal.cloud.state? resource.id) with
      | some (daemon, .ended outcome) =>
          { rehearsal with daemon }.conclude task order caller outcome
      | some (daemon, .calls call) => { rehearsal with daemon }.issue task order caller id call
      | none => rehearsal.endTask task
  | .calling id call due =>
      if due ≤ rehearsal.time then rehearsal.turnOfOperation task order caller id call
      else
        match rehearsal.daemon.expire? id with
        | some (daemon, outcome) => { rehearsal with daemon }.conclude task order caller outcome
        | none => rehearsal.endTask task

def turnOfChore (rehearsal : Rehearsal) (task : Task) (execution : Nat) (chore : Chore) :
    Option Nat → Rehearsal
  | none =>
      (rehearsal.write (.fire chore.name)).become task
        (.chore execution chore (some (rehearsal.time + chore.time)))
  | some _ =>
      let rehearsal := if chore.breaks then rehearsal else rehearsal.write (.done chore.name)
      (rehearsal.stepScheduler (.finish execution)).endTask task

def exitScheduling (rehearsal : Rehearsal) (task : Task) (refused : Bool) : Rehearsal :=
  (rehearsal.write (.schedulerExit refused)).endTask task

def turnOfScheduling (rehearsal : Rehearsal) (task : Task) : Option Nat → Rehearsal
  | none =>
      match rehearsal.daemon.scheduler.openFor with
      | .error _ => rehearsal.exitScheduling task true
      | .ok (scheduler, id) =>
          { rehearsal with daemon := { rehearsal.daemon with scheduler } }.become task
            (.scheduling (some id))
  | some id =>
      match rehearsal.daemon.scheduler.call? id with
      | some ⟨_, _, .waiting⟩ =>
          let rehearsal :=
            if rehearsal.isCancelled task then rehearsal.stepScheduler (.cancel id) else rehearsal
          (rehearsal.stepScheduler (.windDown id)).become task (.scheduling (some id))
      | some ⟨_, _, .draining _⟩ =>
          (rehearsal.stepScheduler (.return id)).exitScheduling task false
      | _ => rehearsal.endTask task

/-- A loop stops; the end of one that is kept track of is not written down. -/
def exitLoop (rehearsal : Rehearsal) (task : Task) (which : Loop) : Rehearsal :=
  let rehearsal :=
    if task.tracked.isSome then rehearsal else rehearsal.write (.loopExit which)
  rehearsal.endTask task

/-- How late a tick may be and still count as in time. -/
def grace : Nat := 5

/-- When the tick after one comes. Ticks that were missed are left out. -/
def tickAfter (now tick period : Nat) : Nat :=
  if tick + grace < now then now + period - (now - tick) % period else tick + period

def turnOfValidating (rehearsal : Rehearsal) (task : Task) : Option Nat → Rehearsal
  | none =>
      if rehearsal.settings.validationInterval = 0 then rehearsal.exitLoop task .validator
      else rehearsal.become task (.validating (some rehearsal.time))
  | some tick =>
      if rehearsal.isCancelled task then rehearsal.exitLoop task .validator
      else
        let next := tickAfter rehearsal.time tick rehearsal.settings.validationInterval
        let (daemon, pass) := rehearsal.daemon.beginPass rehearsal.instant
        { rehearsal with daemon }.become task (.pass pass none (some next))

def answerQuery (rehearsal : Rehearsal) (pass : Nat) (schedule : Schedule) : Rehearsal :=
  match rehearsal.daemon.answerPass? pass (rehearsal.cloud.state? schedule.resource.id) with
  | none => rehearsal
  | some (daemon, correction?) =>
      let rehearsal := { rehearsal with daemon }
      match correction? with
      | none => rehearsal
      | some correction => rehearsal.writeCount correction.count

def turnOfPass (rehearsal : Rehearsal) (task : Task) (pass : Nat) (due next : Option Nat) :
    Rehearsal :=
  match (rehearsal.daemon.pass? pass).bind Pass.asked?, due with
  | some schedule, none =>
      let query := CloudCall.query schedule.resource
      let due := rehearsal.time + rehearsal.cloud.time query
      (rehearsal.write (.cloud query)).become task (.pass pass (some due) next)
  | some schedule, some _ =>
      (rehearsal.answerQuery pass schedule).become task (.pass pass none next)
  | none, _ =>
      match rehearsal.daemon.endPass? pass with
      | none => rehearsal.endTask task
      | some (daemon, corrections) =>
          let rehearsal := { rehearsal with daemon }
          match next with
          | some tick => rehearsal.become task (.validating (some tick))
          | none => { rehearsal with answer := some (.count corrections) }.endTask task

def manifestFolder : String := "schedules"

def reload (rehearsal : Rehearsal) : Rehearsal × Bool :=
  let rehearsal := rehearsal.write .reload
  if rehearsal.reloadFails then (rehearsal, false)
  else if rehearsal.settings.readsManifests then
    let (daemon, success) := rehearsal.daemon.reload
      (Manifest.readFolder manifestFolder (rehearsal.files.list manifestFolder))
    ({ rehearsal with daemon }, success)
  else (rehearsal, true)

def signature (rehearsal : Rehearsal) : Except Error String :=
  match rehearsal.files.list manifestFolder with
  | .ok listing => .ok (Manifest.signature listing)
  | .error fault => .error (.file fault)

def check (rehearsal : Rehearsal) : Rehearsal × ReloadOutcome :=
  let (baseline, rehearsal, outcome) :=
    rehearsal.baseline.check rehearsal.signature reload rehearsal
  ({ rehearsal with baseline }, outcome)

def turnOfReloading (rehearsal : Rehearsal) (task : Task) : Option Nat → Rehearsal
  | none =>
      rehearsal.become task
        (.reloading (some (rehearsal.time + rehearsal.settings.reloadInterval)))
  | some tick =>
      if rehearsal.isCancelled task then rehearsal.exitLoop task .reloader
      else
        rehearsal.check.1.become task
          (.reloading (some (tick + rehearsal.settings.reloadInterval)))

def turnOfTask (rehearsal : Rehearsal) (task : Task) (name : String) (kind : TaskKind)
    (time : Nat) : Option Nat → Rehearsal
  | none => rehearsal.become task (.task name kind time (some (rehearsal.time + time)))
  | some _ =>
      if kind = .breaks then rehearsal.breakTask task
      else (rehearsal.write (.taskDone name)).endTask task

def turnOfShutdown (rehearsal : Rehearsal) (task : Task) (id : Nat) (caller : Caller) :
    Rehearsal :=
  let rehearsal := rehearsal.stepController (.proceed id)
  match rehearsal.controller.call? id with
  | some ⟨_, .returned result⟩ =>
      match caller with
      | .step => { rehearsal with answer := some (.flag result) }.endTask task
      | _ => (rehearsal.write (.shutdown result)).endTask task
  | _ => rehearsal.become task (.shutdown id caller)

def turnOf (rehearsal : Rehearsal) (task : Task) : Rehearsal :=
  match task.activity with
  | .chore execution chore due => rehearsal.turnOfChore task execution chore due
  | .invocation order caller stage => rehearsal.turnOfInvocation task order caller stage
  | .scheduling call => rehearsal.turnOfScheduling task call
  | .validating tick => rehearsal.turnOfValidating task tick
  | .pass pass due next => rehearsal.turnOfPass task pass due next
  | .reloading tick => rehearsal.turnOfReloading task tick
  | .task name kind time due => rehearsal.turnOfTask task name kind time due
  | .shutdown call caller => rehearsal.turnOfShutdown task call caller

def takeTurn (rehearsal : Rehearsal) (runner : Runner) : Rehearsal :=
  let rehearsal := match runner with
    | .timer id =>
        match (rehearsal.daemon.scheduler.timer? id).bind rehearsal.daemon.scheduler.nextEvent? with
        | some event => rehearsal.stepScheduler event
        | none => rehearsal
    | .task id =>
        match rehearsal.task? id with
        | some task => rehearsal.turnOf task
        | none => rehearsal
  rehearsal.adoptExecutions

end PowerRota.Rehearsal
