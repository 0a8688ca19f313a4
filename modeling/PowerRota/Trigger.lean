import PowerRota.Calendar.Rfc3339
import PowerRota.Calendar.TimeOfDay
import PowerRota.Cron.Reader
import PowerRota.Duration

/-! When an action is due, as it is declared.

A declaration may hold values that no rule admits, such as a weekday of 7; they
are told apart when a firing rule is made of it. -/

set_option autoImplicit false

namespace PowerRota

open PowerRota.Calendar

inductive TriggerKind where
  | cron | daily | weekly | monthly | interval | once
  deriving DecidableEq, Repr

def TriggerKind.label : TriggerKind → String
  | .cron => "cron"
  | .daily => "daily"
  | .weekly => "weekly"
  | .monthly => "monthly"
  | .interval => "interval"
  | .once => "once"

def TriggerKind.all : List TriggerKind :=
  [.cron, .daily, .weekly, .monthly, .interval, .once]

def TriggerKind.ofLabel? (label : String) : Option TriggerKind :=
  TriggerKind.all.find? (·.label == label)

inductive Trigger where
  | cron (expression : String)
  | daily (time : TimeOfDay)
  /-- Sunday is 0. -/
  | weekly (time : TimeOfDay) (weekday : UInt8)
  | monthly (time : TimeOfDay) (day : UInt8)
  | interval (every : Duration)
  | once (timestamp : Timestamp)
  deriving DecidableEq, Repr

inductive TriggerFault where
  | time (fault : TimeFault)
  | weekday (n : Nat)
  | dayOfMonth (n : Nat)
  | zeroInterval
  | cron (expression : String) (fault : Cron.Fault)
  deriving DecidableEq, Repr

namespace Trigger

def kind : Trigger → TriggerKind
  | .cron _ => .cron
  | .daily _ => .daily
  | .weekly _ _ => .weekly
  | .monthly _ _ => .monthly
  | .interval _ => .interval
  | .once _ => .once

/-- Whether the state that the trigger implies can be told from the time alone. -/
def isReconcilable (trigger : Trigger) : Bool :=
  match trigger.kind with
  | .interval | .once => false
  | _ => true

end Trigger

end PowerRota
