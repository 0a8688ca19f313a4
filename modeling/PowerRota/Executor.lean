import PowerRota.Calendar.Instant
import PowerRota.Metrics

/-! Invocations of actions on resources.

Each resource has room for one invocation of an action at a time. An invocation asks
for the state of its resource first, and acts when the state is the opposite of its
target, or when it cannot be told. What it reports is an outcome, and a reason when
nothing was done. -/

set_option autoImplicit false

namespace PowerRota

open PowerRota.Calendar

inductive Outcome where
  | success
  | error
  | skipped (reason : SkipReason)
  | dryRun
  deriving DecidableEq, Repr

namespace Outcome

def status : Outcome → OperationStatus
  | .success => .success
  | .error => .error
  | .skipped _ => .skipped
  | .dryRun => .dryRun

def counts (outcome : Outcome) (kind : ResourceKind) (action : String) : List Count :=
  match outcome with
  | .skipped reason => [.operation kind action .skipped, .skip kind action reason]
  | other => [.operation kind action other.status]

end Outcome

inductive InvocationPhase where
  | querying
  /-- Waits for the operation, up to a deadline. -/
  | operating (deadline : Instant)
  deriving DecidableEq, Repr

structure Invocation where
  id : Nat
  resource : Resource
  action : Action
  phase : InvocationPhase
  deriving DecidableEq, Repr

structure Executor where
  dryRun : Bool
  timeout : Nat
  held : List String
  active : List Invocation
  nextId : Nat
  deriving Repr

inductive CloudCall where
  | query (resource : Resource)
  | start (resource : Resource)
  | stop (resource : Resource)
  deriving DecidableEq, Repr

def CloudCall.operation : Action → Resource → CloudCall
  | .start => .start
  | .stop => .stop

/-- What beginning an invocation leads to: an end at once, or a first call. -/
inductive Beginning where
  | ended (outcome : Outcome)
  | started (invocation : Nat) (call : CloudCall)
  deriving DecidableEq, Repr

/-- What an answer leads to: the end of the invocation, or its next call. -/
inductive Progress where
  | ended (outcome : Outcome)
  | calls (call : CloudCall)
  deriving DecidableEq, Repr

namespace Executor

def start (dryRun : Bool) (timeout : Nat) : Executor := ⟨dryRun, timeout, [], [], 0⟩

def standardTimeout : Nat := 300 * 1000000000

def key (resource : Resource) (action : String) : String :=
  resource.kind.label ++ ":" ++ resource.id ++ ":" ++ action

def isInFlight (executor : Executor) (resource : Resource) (action : String) : Bool :=
  executor.held.contains (key resource action)

def acquire? (executor : Executor) (resource : Resource) (action : String) : Option Executor :=
  if executor.isInFlight resource action then none
  else some { executor with held := key resource action :: executor.held }

def release (executor : Executor) (resource : Resource) (action : String) : Executor :=
  { executor with held := executor.held.erase (key resource action) }

/-- Begin an invocation of an action, given by its label, on a resource. -/
def begin (executor : Executor) (resource : Resource) (label : String) : Executor × Beginning :=
  match executor.acquire? resource label with
  | none => (executor, .ended (.skipped .inFlight))
  | some holding =>
      if executor.dryRun then (holding.release resource label, .ended .dryRun)
      else
        match Action.ofLabel? label with
        | none => (holding.release resource label, .ended .error)
        | some action =>
            ({ holding with
              active := holding.active ++ [⟨holding.nextId, resource, action, .querying⟩]
              nextId := holding.nextId + 1 }, .started holding.nextId (.query resource))

def invocation? (executor : Executor) (id : Nat) : Option Invocation :=
  executor.active.find? (·.id == id)

def conclude (executor : Executor) (invocation : Invocation) : Executor :=
  { executor with active := executor.active.filter (·.id ≠ invocation.id) }.release
    invocation.resource invocation.action.label

/-- What an answer to the query for the state means for an action. -/
def verdict (action : Action) (state? : Option ResourceState) : Option SkipReason :=
  match state? with
  | none => none
  | some (.transitional _) => some .transitionalState
  | some state => if state = ResourceState.targetOf action then some .alreadyInState else none

def answerState? (executor : Executor) (id : Nat) (now : Instant)
    (state? : Option ResourceState) : Option (Executor × Progress) := do
  let invocation ← executor.invocation? id
  match invocation.phase with
  | .querying =>
      match verdict invocation.action state? with
      | some reason => return (executor.conclude invocation, .ended (.skipped reason))
      | none =>
          let deadline := now.addNanos executor.timeout
          return ({ executor with
            active := executor.active.map fun other =>
              if other.id = id then { other with phase := .operating deadline } else other },
            .calls (.operation invocation.action invocation.resource))
  | .operating _ => none

def answerOperation? (executor : Executor) (id : Nat) (success : Bool) :
    Option (Executor × Outcome) := do
  let invocation ← executor.invocation? id
  match invocation.phase with
  | .operating _ =>
      return (executor.conclude invocation, if success then .success else .error)
  | .querying => none

def expire? (executor : Executor) (id : Nat) (now : Instant) : Option (Executor × Outcome) := do
  let invocation ← executor.invocation? id
  match invocation.phase with
  | .operating deadline =>
      if deadline ≤ now then return (executor.conclude invocation, .error) else none
  | .querying => none

/-- The call to the cloud breaks off, and with it the invocation; nothing is reported. -/
def abort? (executor : Executor) (id : Nat) : Option Executor := do
  return executor.conclude (← executor.invocation? id)

end Executor

end PowerRota
