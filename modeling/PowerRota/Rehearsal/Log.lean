import PowerRota.Executor

/-! The log of a rehearsal: what happened, when, and how it is written down. -/

set_option autoImplicit false

namespace PowerRota.Rehearsal

inductive Loop where
  | validator
  | reloader
  deriving DecidableEq, Repr

def Loop.label : Loop → String
  | .validator => "validator"
  | .reloader => "reloader"

inductive Entry where
  | fire (name : String)
  | done (name : String)
  | cloud (call : CloudCall)
  | cloudDone (call : CloudCall)
  | count (counted : Count)
  | request (name action : String) (status : OperationStatus)
  | reload
  | schedulerExit (refused : Bool)
  | loopExit (loop : Loop)
  | taskDone (name : String)
  | shutdown (result : Bool)
  deriving DecidableEq, Repr

def countWords : Count → List String
  | .operation kind action status => ["operation", kind.label, action, status.label]
  | .skip kind action reason => ["skip", kind.label, action, reason.label]
  | .correction kind action => ["correction", kind.label, action]

def callWords : CloudCall → List String
  | .query resource => ["cloud", "get", resource.id]
  | .start resource => ["cloud", "start", resource.id]
  | .stop resource => ["cloud", "stop", resource.id]

namespace Entry

def words : Entry → List String
  | .fire name => ["fire", name]
  | .done name => ["done", name]
  | .cloud call => callWords call
  | .cloudDone call => callWords call ++ ["done"]
  | .count counted => "metric" :: countWords counted
  | .request name action status => ["run", name, action, status.label]
  | .reload => ["reload"]
  | .schedulerExit refused => ["scheduler", "exit", if refused then "SchedulerClosed" else "ok"]
  | .loopExit loop => [loop.label, "exit", "ok"]
  | .taskDone name => ["task", name, "done"]
  | .shutdown result => ["shutdown", if result then "true" else "false"]

def text (entry : Entry) : String := " ".intercalate entry.words

end Entry

abbrev Log := List (Nat × Entry)

namespace Log

def isBefore (first second : Nat × String) : Bool :=
  first.1 < second.1 || (first.1 == second.1 && first.2 ≤ second.2)

/-- The lines of a log in the order of time. Within a millisecond the order of the
texts decides. -/
def lines (log : Log) : List String :=
  ((log.map fun (time, entry) => (time, entry.text)).mergeSort isBefore).map
    fun (time, text) => toString time ++ " " ++ text

end Log

end PowerRota.Rehearsal
