import PowerRota.Schedule

/-! The jobs that a set of schedules stands for: one for each enabled action. -/

set_option autoImplicit false

namespace PowerRota

structure Job (Body : Type) where
  name : String
  rule : FiringRule
  body : Body

def Job.map {Body Other : Type} (change : Body → Other) (job : Job Body) : Job Other :=
  ⟨job.name, job.rule, change job.body⟩

/-- What a scheduled fire asks for: an action, by its label, on a schedule's resource. -/
structure Order where
  schedule : Schedule
  action : String
  deriving DecidableEq, Repr

namespace Schedule

def job (schedule : Schedule) (action : Action) (trigger : Trigger) :
    Except TriggerFault (Job Order) :=
  (FiringRule.ofTrigger trigger).map fun rule =>
    ⟨schedule.jobName action, rule, ⟨schedule, action.label⟩⟩

def translate (schedules : List Schedule) : Except TriggerFault (List (Job Order)) :=
  (schedules.flatMap fun schedule => schedule.actions.map fun entry => (schedule, entry)).mapM
    fun (schedule, action, trigger) => schedule.job action trigger

/-- The jobs of a set of schedules. The whole set is checked first, so an invalid
schedule or a name used twice leaves no job at all. -/
def jobs (schedules : List Schedule) : Except Error (List (Job Order)) := do
  validateAll schedules
  match translate schedules with
  | .ok jobs => return jobs
  | .error fault => throw (.invalidTrigger fault)

end Schedule

end PowerRota
