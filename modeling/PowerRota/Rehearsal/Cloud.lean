import PowerRota.Executor

/-! The cloud of a rehearsal: resources that behave as they are told. -/

set_option autoImplicit false

namespace PowerRota.Rehearsal

/-- How a resource behaves. Times are in milliseconds. -/
structure Behaviour where
  status : String
  hidden : Bool
  queryTime : Nat
  operationTime : Nat
  refuses : Bool
  stuck : Bool
  breaks : Bool
  deriving DecidableEq, Repr

def Behaviour.absent : Behaviour := ⟨"", true, 0, 0, false, true, false⟩

inductive OperationEnd where
  | success
  | failure
  | broken
  deriving DecidableEq, Repr

abbrev Cloud := List (String × Behaviour)

namespace Cloud

def behaviour (cloud : Cloud) (id : String) : Behaviour :=
  (cloud.lookup id).getD .absent

def set (cloud : Cloud) (id : String) (behaviour : Behaviour) : Cloud :=
  (id, behaviour) :: cloud.filter (·.1 ≠ id)

def state? (cloud : Cloud) (id : String) : Option ResourceState :=
  let behaviour := cloud.behaviour id
  if behaviour.hidden then none else some (.ofStatus behaviour.status)

def time (cloud : Cloud) : CloudCall → Nat
  | .query resource => (cloud.behaviour resource.id).queryTime
  | .start resource | .stop resource => (cloud.behaviour resource.id).operationTime

def operate (cloud : Cloud) (id status : String) : Cloud × OperationEnd :=
  let behaviour := cloud.behaviour id
  if behaviour.breaks then (cloud, .broken)
  else if behaviour.refuses then (cloud, .failure)
  else if behaviour.stuck then (cloud, .success)
  else (cloud.set id { behaviour with status }, .success)

def perform (cloud : Cloud) : CloudCall → Cloud × OperationEnd
  | .query _ => (cloud, .success)
  | .start resource => cloud.operate resource.id "RUNNING"
  | .stop resource => cloud.operate resource.id "STOPPED"

end Cloud

end PowerRota.Rehearsal
