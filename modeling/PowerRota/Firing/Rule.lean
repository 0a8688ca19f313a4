import PowerRota.Cron.Search
import PowerRota.Trigger

/-! Firing rules, and their fires before and after an instant.

A calendar rule names dates and a wall time. Its candidates are the dates around
the local date of the instant; a wall time that the zone skips is taken an hour
later, and one that it has twice is taken the first time. -/

set_option autoImplicit false

namespace PowerRota

open PowerRota.Calendar

inductive FiringRule where
  | cron (expression : Cron.Expression)
  | daily (time : TimeOfDay)
  | weekly (time : TimeOfDay) (weekday : Fin 7)
  | monthly (time : TimeOfDay) (day : Nat) (day_bounds : 1 ≤ day ∧ day ≤ 31)
  | interval (every : Duration) (every_pos : every.isZero = false)
  | once (instant : Instant)
  deriving DecidableEq, Repr

namespace FiringRule

def kind : FiringRule → TriggerKind
  | .cron _ => .cron
  | .daily _ => .daily
  | .weekly _ _ => .weekly
  | .monthly _ _ _ => .monthly
  | .interval _ _ => .interval
  | .once _ => .once

/-- Read a cron text; the fault shows it without the white space around it. -/
def ofCron (text : String) : Except TriggerFault FiringRule :=
  let trimmed := Text.trim text.toList
  match Cron.readTrimmed trimmed with
  | .ok expression => .ok (.cron expression)
  | .error fault => .error (.cron (String.ofList trimmed) fault)

/-- The rule that a trigger declares. A time within a leap second becomes an instant of the
second after it, where the calendar's own order would have it come before. -/
def ofTrigger : Trigger → Except TriggerFault FiringRule
  | .cron text => ofCron text
  | .daily time => .ok (.daily time)
  | .weekly time weekday =>
      if h : weekday.toNat < 7 then .ok (.weekly time ⟨weekday.toNat, h⟩)
      else .error (.weekday weekday.toNat)
  | .monthly time day =>
      if h : 1 ≤ day.toNat ∧ day.toNat ≤ 31 then .ok (.monthly time day.toNat h)
      else .error (.dayOfMonth day.toNat)
  | .interval every =>
      if h : every.isZero = false then .ok (.interval every h) else .error .zeroInterval
  | .once timestamp => .ok (.once timestamp.instant)

theorem kind_of_ofTrigger {trigger : Trigger} {rule : FiringRule}
    (h : ofTrigger trigger = .ok rule) : rule.kind = trigger.kind := by
  cases trigger <;> simp only [ofTrigger, ofCron] at h <;> (try split at h) <;> cases h <;> rfl

def atLocal? (zone : Zone) (day : Int) (time : TimeOfDay) : Option Instant :=
  let wall := day * 86400 + time.toSeconds
  ((zone.earliestAt? wall) <|> (zone.earliestAt? (wall + 3600))).map .ofSecond

/-- The day of the month `offset` months from the month of `day`, as a rule for
day `dayOfMonth` has it. -/
def monthlyDay? (day : Int) (offset : Int) (dayOfMonth : Nat) : Option Int :=
  ((Date.ofDay day).monthOccurrence? offset dayOfMonth).map Date.toDay

def daysBetween (start goal : Nat) : Nat :=
  (goal + 7 - start) % 7

def daysAhead (rule : FiringRule) (today : Int) : List Int :=
  match rule with
  | .daily _ => [today, today + 1, today + 2]
  | .weekly _ weekday =>
      let ahead := daysBetween (weekdayOf today) weekday
      [today + ahead, today + (ahead + 7)]
  | .monthly _ day _ => [0, 1, 2].filterMap fun offset => monthlyDay? today offset day
  | _ => []

def daysBack (rule : FiringRule) (today : Int) : List Int :=
  match rule with
  | .daily _ => [today, today - 1, today - 2]
  | .weekly _ weekday =>
      let back := daysBetween weekday (weekdayOf today)
      [today - back, today - (back + 7)]
  | .monthly _ day _ => [0, -1, -2].filterMap fun offset => monthlyDay? today offset day
  | _ => []

def firstAfter? (zone : Zone) (days : List Int) (time : TimeOfDay) (after : Instant) :
    Option Instant :=
  (days.filterMap fun day => atLocal? zone day time).find? fun fire => after < fire

def firstBefore? (zone : Zone) (days : List Int) (time : TimeOfDay) (now : Instant) :
    Option Instant :=
  (days.filterMap fun day => atLocal? zone day time).find? fun fire => fire < now

/-- The next fire after an instant; none when the rule is exhausted. -/
def nextAfter (rule : FiringRule) (zone : Zone) (after : Instant) : Option Instant :=
  let days := rule.daysAhead (zone.dayAt after.second)
  match rule with
  | .cron expression => expression.next? zone after
  | .daily time => firstAfter? zone days time after
  | .weekly time _ => firstAfter? zone days time after
  | .monthly time _ _ => firstAfter? zone days time after
  | .interval every _ => after.addNanos? every.toNanos
  | .once instant => if after < instant then some instant else none

inductive LookbackFault where
  | noPriorFire (before : Instant)
  | notReconcilable (kind : TriggerKind)
  deriving DecidableEq, Repr

/-- The last fire before an instant. Intervals and single fires have none that
could be told from the clock. -/
def lastBefore (rule : FiringRule) (zone : Zone) (now : Instant) :
    Except LookbackFault Instant :=
  let days := rule.daysBack (zone.dayAt now.second)
  let found (fire : Option Instant) : Except LookbackFault Instant :=
    match fire with
    | some fire => .ok fire
    | none => .error (.noPriorFire now)
  match rule with
  | .cron expression => found (expression.last? zone now)
  | .daily time => found (firstBefore? zone days time now)
  | .weekly time _ => found (firstBefore? zone days time now)
  | .monthly time _ _ => found (firstBefore? zone days time now)
  | .interval _ _ => .error (.notReconcilable .interval)
  | .once _ => .error (.notReconcilable .once)

/-- The fires from an instant on, each looked up after the one before, at most
`count` of them. -/
def chain (rule : FiringRule) (zone : Zone) : (count : Nat) → Instant → List Instant
  | 0, _ => []
  | count + 1, after =>
      match rule.nextAfter zone after with
      | some fire => fire :: rule.chain zone count fire
      | none => []

end FiringRule

end PowerRota
