import PowerRota.Schedule

/-! The state that a schedule implies at an instant.

With one action it is that action's target at any time. With both it is the
target of the one that fired last, and a tie goes to stop. When a last fire cannot
be told, the state is the target of the action whose fire is missing. -/

set_option autoImplicit false

namespace PowerRota.Schedule

open PowerRota.Calendar

def lastFire (trigger : Trigger) (zone : Zone) (now : Instant) : Option Instant :=
  match FiringRule.ofTrigger trigger with
  | .ok rule => (rule.lastBefore zone now).toOption
  | .error _ => none

def expectedState (schedule : Schedule) (zone : Zone) (now : Instant) : Option ResourceState :=
  match schedule.start, schedule.stop with
  | none, none => none
  | some _, none => some .running
  | none, some _ => some .stopped
  | some start, some stop =>
      match lastFire start zone now with
      | none => some .running
      | some lastStart =>
          match lastFire stop zone now with
          | none => some .stopped
          | some lastStop => if lastStop < lastStart then some .running else some .stopped

end PowerRota.Schedule
