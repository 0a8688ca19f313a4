import PowerRota.Calendar.Instant

/-! The shutdown of everything that runs in the background.

One controller hands out tokens and keeps count of the tasks it tracks. The first
call for shutdown cancels the tokens and waits for the tasks, up to a deadline; every
other call returns at once. -/

set_option autoImplicit false

namespace PowerRota

open PowerRota.Calendar

inductive ShutdownPhase where
  | running
  | draining
  | terminated
  deriving DecidableEq, Repr

namespace ShutdownPhase

def label : ShutdownPhase → String
  | .running => "Running"
  | .draining => "Draining"
  | .terminated => "Terminated"

def all : List ShutdownPhase := [.running, .draining, .terminated]

end ShutdownPhase

/-- How far a call for shutdown has got. The steps from `claimed` to `waiting` follow
one another without a pause, but other calls may come between them. -/
inductive ShutdownStage where
  | called
  | claimed
  | announced
  | cancelled
  | closed
  /-- Waits for the tasks up to a deadline; `drained` once there was none left. -/
  | waiting (deadline : Instant) (drained : Bool)
  | returned (result : Bool)
  deriving DecidableEq, Repr

def ShutdownStage.noticed : ShutdownStage → ShutdownStage
  | .waiting deadline _ => .waiting deadline true
  | stage => stage

structure ShutdownCall where
  id : Nat
  stage : ShutdownStage
  deriving DecidableEq, Repr

structure ShutdownToken where
  id : Nat
  cancelled : Bool
  deriving DecidableEq, Repr

structure ShutdownController where
  timeout : Nat
  clock : Instant
  phase : ShutdownPhase
  initiated : Bool
  cancelled : Bool
  tokens : List ShutdownToken
  /-- Whether a wait for the tasks can end. -/
  closed : Bool
  tasks : List Nat
  calls : List ShutdownCall
  nextId : Nat
  deriving Repr

inductive ShutdownEvent where
  | token
  /-- A task is tracked from here on, be it new or under way. -/
  | track
  | finish (task : Nat)
  | panic (task : Nat)
  | call
  | proceed (call : Nat)
  deriving DecidableEq, Repr

namespace ShutdownController

def start (timeout : Nat) (clock : Instant) : ShutdownController :=
  ⟨timeout, clock, .running, false, false, [], false, [], [], 0⟩

def isShuttingDown (controller : ShutdownController) : Bool := controller.initiated

def advance (controller : ShutdownController) (clock : Instant) : ShutdownController :=
  if controller.clock ≤ clock then { controller with clock := clock } else controller

def call? (controller : ShutdownController) (id : Nat) : Option ShutdownCall :=
  controller.calls.find? (·.id == id)

def isCancelled (controller : ShutdownController) (token : Nat) : Bool :=
  controller.tokens.any fun other => other.id == token && other.cancelled

def setStage (controller : ShutdownController) (id : Nat) (stage : ShutdownStage) :
    ShutdownController :=
  { controller with
    calls := controller.calls.map fun call => if call.id = id then { call with stage } else call }

/-- Let the waiting calls know when no task is left and none can be waited for. -/
def notice (controller : ShutdownController) : ShutdownController :=
  if controller.closed && controller.tasks.isEmpty then
    { controller with
      calls := controller.calls.map fun call => { call with stage := call.stage.noticed } }
  else controller

/-- Hand out a token, which is cancelled from the first if the root is. -/
def handOut (controller : ShutdownController) : ShutdownController :=
  { controller with
    tokens := controller.tokens ++ [⟨controller.nextId, controller.cancelled⟩]
    nextId := controller.nextId + 1 }

/-- Cancel the root, and with it the tokens that were handed out. -/
def cancelRoot (controller : ShutdownController) : ShutdownController :=
  { controller with
    cancelled := true
    tokens := controller.tokens.map fun token => { token with cancelled := true } }

def leave? (controller : ShutdownController) (task : Nat) : Option ShutdownController :=
  if controller.tasks.contains task then
    some { controller with tasks := controller.tasks.filter (· ≠ task) }.notice
  else none

def proceed? (controller : ShutdownController) (call : ShutdownCall) : Option ShutdownController :=
  match call.stage with
  | .called =>
      if controller.initiated then some (controller.setStage call.id (.returned true))
      else some { controller.setStage call.id .claimed with initiated := true }
  | .claimed => some { controller.setStage call.id .announced with phase := .draining }
  | .announced => some (controller.setStage call.id .cancelled).cancelRoot
  | .cancelled => some { controller.setStage call.id .closed with closed := true }
  | .closed =>
      let deadline := controller.clock.addNanos controller.timeout
      some (controller.setStage call.id (.waiting deadline false)).notice
  | .waiting deadline drained =>
      if drained ∨ deadline ≤ controller.clock then
        some { controller.setStage call.id (.returned drained) with phase := .terminated }
      else none
  | .returned _ => none

def step? (controller : ShutdownController) : ShutdownEvent → Option ShutdownController
  | .token => some controller.handOut
  | .track =>
      some { controller with
        tasks := controller.tasks ++ [controller.nextId], nextId := controller.nextId + 1 }
  | .finish task => controller.leave? task
  | .panic task => controller.leave? task
  | .call =>
      some { controller with
        calls := controller.calls ++ [⟨controller.nextId, .called⟩]
        nextId := controller.nextId + 1 }
  | .proceed id => (controller.call? id).bind controller.proceed?

end ShutdownController

end PowerRota
