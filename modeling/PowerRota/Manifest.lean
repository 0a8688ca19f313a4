import PowerRota.Calendar.Rfc3339
import PowerRota.Duration
import PowerRota.Schedule

/-! Manifests: schedules as they are written down in files.

One document declares one schedule. The type of the schedule decides which fields
of an enabled action are read; a disabled action is not looked at. -/

set_option autoImplicit false

namespace PowerRota

open PowerRota.Calendar

/-- An action as it is written down. -/
structure ActionEntry where
  enabled : Bool
  time : Option String
  crontab : Option String
  day : Option Int
  every : Option String
  moment : Option String
  deriving DecidableEq, Repr

structure Manifest where
  apiVersion : String
  kind : String
  name : String
  scheduleType : String
  resourceKind : String
  resourceId : String
  folder : String
  start : Option ActionEntry
  stop : Option ActionEntry
  deriving DecidableEq, Repr

inductive ActionFault where
  | required (field : String)
  | time (fault : TimeFault)
  | day (n : Int)
  | every (fault : DurationFault)
  | moment (text : String)
  | scheduleType (label : String)
  deriving DecidableEq, Repr

inductive ManifestFault where
  | apiVersion (text : String)
  | kind (text : String)
  | resourceKind (label : String)
  | action (action : Action) (fault : ActionFault)
  | schedule (name : String) (fault : ScheduleFault)
  deriving DecidableEq, Repr

namespace ActionEntry

def need {A : Type} (field : String) (value? : Option A) : Except ActionFault A :=
  match value? with
  | some value => .ok value
  | none => .error (.required field)

def readTime (entry : ActionEntry) : Except ActionFault TimeOfDay := do
  let text ← need "time" entry.time
  (TimeOfDay.read text).mapError .time

/-- The day, if it fits in a byte. -/
def readDay (entry : ActionEntry) (default : Int) : Except ActionFault UInt8 :=
  let day := entry.day.getD default
  if 0 ≤ day ∧ day < 256 then .ok (UInt8.ofNat day.toNat) else .error (.day day)

def trigger (entry : ActionEntry) (scheduleType : String) : Except ActionFault Trigger :=
  match TriggerKind.ofLabel? scheduleType with
  | some .cron => do return .cron (← need "crontab" entry.crontab)
  | some .daily => do return .daily (← entry.readTime)
  | some .weekly => do return .weekly (← entry.readTime) (← entry.readDay 0)
  | some .monthly => do return .monthly (← entry.readTime) (← entry.readDay 1)
  | some .interval => do
      let text ← need "every" entry.every
      return .interval (← (Duration.read text).mapError .every)
  | some .once => do
      let text ← need "at" entry.moment
      match Timestamp.read? text with
      | some timestamp => return .once timestamp
      | none => throw (.moment text)
  | none => .error (.scheduleType scheduleType)

end ActionEntry

namespace Manifest

def supportedVersion : String := "cloudnap/v1alpha1"

def supportedKind : String := "Schedule"

def entry? (manifest : Manifest) : Action → Option ActionEntry
  | .start => manifest.start
  | .stop => manifest.stop

def trigger? (manifest : Manifest) (action : Action) : Except ManifestFault (Option Trigger) :=
  match (manifest.entry? action).filter (·.enabled) with
  | some entry => ((entry.trigger manifest.scheduleType).map some).mapError (.action action)
  | none => .ok none

def schedule (manifest : Manifest) : Except ManifestFault Schedule := do
  if manifest.apiVersion ≠ supportedVersion then throw (.apiVersion manifest.apiVersion)
  if manifest.kind ≠ supportedKind then throw (.kind manifest.kind)
  let kind ← match ResourceKind.ofLabel? manifest.resourceKind with
    | some kind => pure kind
    | none => throw (.resourceKind manifest.resourceKind)
  let start ← manifest.trigger? .start
  let stop ← manifest.trigger? .stop
  let schedule : Schedule :=
    ⟨manifest.name, ⟨kind, manifest.resourceId, manifest.folder⟩, start, stop⟩
  match schedule.fault? with
  | none => return schedule
  | some fault => throw (.schedule manifest.name fault)

end Manifest

end PowerRota
