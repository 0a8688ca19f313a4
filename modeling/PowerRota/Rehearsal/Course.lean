import PowerRota.Rehearsal.Turn

/-! The course of a rehearsal: turns until everything waits, then the clock. -/

set_option autoImplicit false

namespace PowerRota.Rehearsal

open PowerRota.Calendar

/-- The most turns that are taken without a pause, and the most pauses in a step. A
rehearsal that gets nowhere is broken off. -/
def patience : Nat := 1000000000000

/-- Tasks that wake at one time do so in the order in which they began to wait. -/
def ready (rehearsal : Rehearsal) : List Runner :=
  let scheduler := rehearsal.daemon.scheduler
  let timers := scheduler.timers.filter fun timer => (scheduler.nextEvent? timer).isSome
  timers.map (fun timer => .timer timer.id) ++
    (rehearsal.tasks.filter rehearsal.isAwake).map fun task => .task task.id

def lineUp (rehearsal : Rehearsal) : Rehearsal :=
  { rehearsal with
    line := rehearsal.line ++ rehearsal.ready.filter fun runner => !rehearsal.line.contains runner }

def serve (rehearsal : Rehearsal) (runner : Runner) : Rehearsal :=
  if rehearsal.canGoOn runner then rehearsal.takeTurn runner
  else { rehearsal with line := rehearsal.line.drop 1 }

def settle : (fuel : Nat) → Rehearsal → Rehearsal
  | 0, rehearsal => rehearsal
  | fuel + 1, rehearsal =>
      let rehearsal := rehearsal.lineUp
      match rehearsal.line with
      | runner :: _ => settle fuel (rehearsal.serve runner)
      | [] => rehearsal

def earlier : Option Nat → Nat → Option Nat
  | none, time => some time
  | some best, time => some (min best time)

def nextTime? (rehearsal : Rehearsal) : Option Nat :=
  let timers := rehearsal.daemon.scheduler.timers.filterMap fun timer =>
    match timer.phase with
    | .asleep due => some (rehearsal.tickOf due)
    | _ => none
  let alarms := rehearsal.tasks.filterMap alarm?
  let deadlines := rehearsal.tasks.filterMap rehearsal.deadline?
  ((timers ++ alarms ++ deadlines).filter (rehearsal.time < ·)).foldl earlier none

/-- Let time pass up to a time, that time included. -/
def passUntil (finish : Nat) : (fuel : Nat) → Rehearsal → Rehearsal
  | 0, rehearsal => rehearsal
  | fuel + 1, rehearsal =>
      let rehearsal := rehearsal.settle patience
      match rehearsal.nextTime? with
      | some time =>
          if time ≤ finish then passUntil finish fuel (rehearsal.setTime time)
          else rehearsal.setTime finish
      | none => rehearsal.setTime finish

def awaitAnswer : (fuel : Nat) → Rehearsal → Rehearsal
  | 0, rehearsal => rehearsal
  | fuel + 1, rehearsal =>
      let rehearsal := rehearsal.settle patience
      if rehearsal.answer.isSome then rehearsal
      else
        match rehearsal.nextTime? with
        | some time => awaitAnswer fuel (rehearsal.setTime time)
        | none => rehearsal

end PowerRota.Rehearsal
