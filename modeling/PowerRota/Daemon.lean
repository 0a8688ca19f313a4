import PowerRota.Executor
import PowerRota.Reconciliation.Pass
import PowerRota.Scheduler.Step

/-! The scheduler, the executor and the reconciliation, working together.

A fire of a scheduled job, a request and a correction all become invocations of the
executor. What comes of an invocation is counted once, and an execution that waited
for it ends with it. -/

set_option autoImplicit false

namespace PowerRota

open PowerRota.Calendar

/-- What a job of the daemon does: an order, or something else. -/
inductive Work (Other : Type) where
  | order (order : Order)
  | other (work : Other)

/-- An invocation that ended with an outcome. -/
structure Report where
  kind : ResourceKind
  action : String
  outcome : Outcome
  deriving DecidableEq, Repr

namespace Report

def counts (report : Report) : List Count := report.outcome.counts report.kind report.action

end Report

/-- Who waits for an invocation. -/
structure Claim where
  invocation : Nat
  execution : Option Nat
  kind : ResourceKind
  action : String
  deriving DecidableEq, Repr

structure Daemon (Other : Type) where
  scheduler : Scheduler (Work Other)
  executor : Executor
  metrics : Metrics
  claims : List Claim
  reports : List Report
  schedules : List Schedule
  passes : List (Nat × Pass)
  /-- The numbers of corrections of the passes that ended. -/
  results : List Nat
  nextPass : Nat

namespace Daemon

variable {Other : Type}

def start (scheduler : Scheduler (Work Other)) (executor : Executor) (schedules : List Schedule) :
    Daemon Other :=
  ⟨scheduler, executor, [], [], [], schedules, [], [], 0⟩

def report (daemon : Daemon Other) (execution : Option Nat) (report : Report) : Daemon Other :=
  let scheduler := match execution with
    | some id => (daemon.scheduler.finish? id).getD daemon.scheduler
    | none => daemon.scheduler
  { daemon with
    scheduler
    metrics := daemon.metrics.incrementAll report.counts
    reports := report :: daemon.reports }

def invoke (daemon : Daemon Other) (execution : Option Nat) (resource : Resource)
    (action : String) : Daemon Other × Beginning :=
  let (executor, beginning) := daemon.executor.begin resource action
  let daemon := { daemon with executor }
  match beginning with
  | .ended outcome => (daemon.report execution ⟨resource.kind, action, outcome⟩, beginning)
  | .started id _ =>
      ({ daemon with claims := daemon.claims ++ [⟨id, execution, resource.kind, action⟩] },
        beginning)

def claim? (daemon : Daemon Other) (invocation : Nat) : Option Claim :=
  daemon.claims.find? (·.invocation == invocation)

def settle (daemon : Daemon Other) (claim : Claim) (outcome : Outcome) : Daemon Other :=
  { daemon with claims := daemon.claims.filter (·.invocation ≠ claim.invocation) }.report
    claim.execution ⟨claim.kind, claim.action, outcome⟩

def answerState? (daemon : Daemon Other) (invocation : Nat) (state? : Option ResourceState) :
    Option (Daemon Other × Progress) := do
  let claim ← daemon.claim? invocation
  let (executor, progress) ← daemon.executor.answerState? invocation daemon.scheduler.clock state?
  let daemon := { daemon with executor }
  match progress with
  | .ended outcome => return (daemon.settle claim outcome, progress)
  | .calls _ => return (daemon, progress)

def answerOperation? (daemon : Daemon Other) (invocation : Nat) (success : Bool) :
    Option (Daemon Other × Outcome) := do
  let claim ← daemon.claim? invocation
  let (executor, outcome) ← daemon.executor.answerOperation? invocation success
  return ({ daemon with executor }.settle claim outcome, outcome)

def expire? (daemon : Daemon Other) (invocation : Nat) : Option (Daemon Other × Outcome) := do
  let claim ← daemon.claim? invocation
  let (executor, outcome) ← daemon.executor.expire? invocation daemon.scheduler.clock
  return ({ daemon with executor }.settle claim outcome, outcome)

def abort? (daemon : Daemon Other) (invocation : Nat) : Option (Daemon Other) := do
  let claim ← daemon.claim? invocation
  let executor ← daemon.executor.abort? invocation
  let scheduler := match claim.execution with
    | some id => (daemon.scheduler.finish? id).getD daemon.scheduler
    | none => daemon.scheduler
  return { daemon with
    executor, scheduler, claims := daemon.claims.filter (·.invocation ≠ invocation) }

/-- Take over schedules that were loaded. The second part says whether that succeeds; a set
that cannot be loaded or is refused changes nothing. -/
def reload {Fault : Type} (daemon : Daemon Other) (loaded : Except Fault (List Schedule)) :
    Daemon Other × Bool :=
  match loaded with
  | .error _ => (daemon, false)
  | .ok schedules =>
      match daemon.scheduler.replaceSchedules .order schedules with
      | .error _ => (daemon, false)
      | .ok scheduler => ({ daemon with scheduler, schedules }, true)

def beginPass (daemon : Daemon Other) (now : Instant) : Daemon Other × Nat :=
  ({ daemon with
    passes := daemon.passes ++ [(daemon.nextPass, Pass.begin now daemon.schedules)]
    nextPass := daemon.nextPass + 1 }, daemon.nextPass)

def pass? (daemon : Daemon Other) (id : Nat) : Option Pass := daemon.passes.lookup id

def setPass (daemon : Daemon Other) (id : Nat) (pass : Pass) : Daemon Other :=
  { daemon with
    passes := daemon.passes.map fun (other, old) => (other, if other = id then pass else old) }

/-- Submit a correction as a single job; it counts when it is accepted. -/
def submit (daemon : Daemon Other) (correction : Correction) : Option (Daemon Other) :=
  match daemon.scheduler.addOneShot correction.jobName (.order correction.order) with
  | .ok scheduler =>
      some { daemon with scheduler, metrics := daemon.metrics.increment correction.count }
  | .error _ => none

/-- The answer for the schedule that a pass asks about comes in. The correction that
it calls for, if it is accepted, comes out. -/
def answerPass? (daemon : Daemon Other) (id : Nat) (state? : Option ResourceState) :
    Option (Daemon Other × Option Correction) := do
  let pass ← daemon.pass? id
  let _ ← pass.asked?
  let (correction?, pass) := pass.answer daemon.scheduler.zone state?
  match correction? with
  | none => return (daemon.setPass id pass, none)
  | some correction =>
      match daemon.submit correction with
      | some daemon => return (daemon.setPass id pass.accepted, some correction)
      | none => return (daemon.setPass id pass, none)

def endPass? (daemon : Daemon Other) (id : Nat) : Option (Daemon Other × Nat) := do
  let pass ← daemon.pass? id
  if pass.remaining.isEmpty then
    return ({ daemon with
      passes := daemon.passes.filter (·.1 ≠ id), results := pass.corrections :: daemon.results },
      pass.corrections)
  else none

end Daemon

end PowerRota
