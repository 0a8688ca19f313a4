import PowerRota.Calendar.Location
import PowerRota.Schedule

/-! The listing of jobs: one line for each enabled action, with its next fire. -/

set_option autoImplicit false

namespace PowerRota.Schedule

open PowerRota.Calendar

def jobLine (schedule : Schedule) (zone : Zone) (now : Instant) (action : Action)
    (trigger : Trigger) : Except TriggerFault String := do
  let rule ← FiringRule.ofTrigger trigger
  let next :=
    match rule.nextAfter zone now with
    | some fire => fire.render
    | none => "never"
  return schedule.jobName action ++ "\t" ++ schedule.resource.kind.label ++ "/" ++
    schedule.resource.id ++ "\t" ++ trigger.kind.label ++ "\tnext=" ++ next

def jobLines (schedules : List Schedule) (zone : Zone) (now : Instant) :
    Except TriggerFault (List String) :=
  (schedules.flatMap fun schedule => schedule.actions.map fun entry => (schedule, entry)).mapM
    fun (schedule, action, trigger) => schedule.jobLine zone now action trigger

def listing (schedules : List Schedule) (location : Location) (now : Instant) :
    Except TriggerFault String := do
  let lines ← jobLines schedules location.zone now
  let totals := toString schedules.length ++ " schedules, " ++ toString lines.length ++
    " jobs, timezone " ++ location.name
  return String.join ((totals :: lines).map (· ++ "\n"))

end PowerRota.Schedule
