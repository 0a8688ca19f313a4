import PowerRota.Error

/-! Schedules: a name, a resource and a trigger for each enabled action.

A set of schedules is valid when every schedule is, and no two share a name. -/

set_option autoImplicit false

namespace PowerRota

structure Schedule where
  name : String
  resource : Resource
  start : Option Trigger
  stop : Option Trigger
  deriving DecidableEq, Repr

namespace Schedule

def trigger? (schedule : Schedule) : Action → Option Trigger
  | .start => schedule.start
  | .stop => schedule.stop

def actions (schedule : Schedule) : List (Action × Trigger) :=
  Action.all.filterMap fun action => (schedule.trigger? action).map fun trigger => (action, trigger)

theorem mem_actions {schedule : Schedule} {action : Action} {trigger : Trigger} :
    (action, trigger) ∈ schedule.actions ↔ schedule.trigger? action = some trigger := by
  simp only [actions, Action.all, List.mem_filterMap, Option.map_eq_some_iff, Prod.mk.injEq]
  constructor
  · rintro ⟨_, _, _, h, rfl, rfl⟩
    exact h
  · intro h
    exact ⟨action, by cases action <;> simp, trigger, h, rfl, rfl⟩

def jobName (schedule : Schedule) (action : Action) : String :=
  schedule.name ++ ":" ++ action.label

def isReconcilable (schedule : Schedule) : Bool :=
  schedule.actions.all fun (_, trigger) => trigger.isReconcilable

def isBlank (text : String) : Bool :=
  Text.allBlank text.toList

def fault? (schedule : Schedule) : Option ScheduleFault :=
  if isBlank schedule.name then some .emptyName
  else if isBlank schedule.resource.id then some .emptyResourceId
  else if isBlank schedule.resource.folder then some .emptyFolder
  else if schedule.start.isNone && schedule.stop.isNone then some .noAction
  else
    schedule.actions.findSome? fun (action, trigger) =>
      match FiringRule.ofTrigger trigger with
      | .ok _ => none
      | .error fault => some (.action action fault)

def validate (schedule : Schedule) : Except Error Unit :=
  match schedule.fault? with
  | none => .ok ()
  | some fault => .error (.invalidSchedule schedule.name fault)

/-- Check the schedules in order; a name counts as taken once its schedule passed. -/
def validateFrom (taken : List String) : List Schedule → Except Error Unit
  | [] => .ok ()
  | schedule :: rest => do
      schedule.validate
      if taken.contains schedule.name then .error (.duplicateSchedule schedule.name)
      else validateFrom (schedule.name :: taken) rest

def validateAll (schedules : List Schedule) : Except Error Unit :=
  validateFrom [] schedules

end Schedule

end PowerRota
