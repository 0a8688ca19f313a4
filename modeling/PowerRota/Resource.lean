import PowerRota.Text.Blank

/-! Cloud resources, what can be done to them and the states they are seen in. -/

set_option autoImplicit false

namespace PowerRota

inductive ResourceKind where
  | vm
  | cluster
  deriving DecidableEq, Repr

def ResourceKind.label : ResourceKind → String
  | .vm => "vm"
  | .cluster => "k8s_cluster"

def ResourceKind.all : List ResourceKind := [.vm, .cluster]

def ResourceKind.ofLabel? (label : String) : Option ResourceKind :=
  ResourceKind.all.find? (·.label == label)

structure Resource where
  kind : ResourceKind
  id : String
  folder : String
  deriving DecidableEq, Repr

inductive Action where
  | start
  | stop
  deriving DecidableEq, Repr

namespace Action

def label : Action → String
  | .start => "start"
  | .stop => "stop"

def all : List Action := [.start, .stop]

def ofLabel? (label : String) : Option Action :=
  all.find? (·.label == label)

end Action

/-- A stable state, or a state on the way between them under the provider's name. -/
inductive ResourceState where
  | running
  | stopped
  | transitional (label : String)
  deriving DecidableEq, Repr

namespace ResourceState

/-- The provider's labels are read without regard to the case of ASCII letters. -/
def ofStatus (status : String) : ResourceState :=
  let upper := Text.upperAscii status
  if upper = "RUNNING" then .running
  else if upper = "STOPPED" then .stopped
  else .transitional status

def isTransitional : ResourceState → Bool
  | .transitional _ => true
  | _ => false

def targetOf : Action → ResourceState
  | .start => .running
  | .stop => .stopped

def reachedBy? : ResourceState → Option Action
  | .running => some .start
  | .stopped => some .stop
  | .transitional _ => none

theorem reachedBy?_eq_some_iff {state : ResourceState} {action : Action} :
    state.reachedBy? = some action ↔ state = targetOf action := by
  cases state <;> cases action <;> simp [reachedBy?, targetOf]

def describe : ResourceState → String
  | .running => "running"
  | .stopped => "stopped"
  | .transitional label => Text.lowerAscii label

end ResourceState

end PowerRota
