import PowerRota.Metrics
import PowerRota.Reconciliation.Expected
import PowerRota.Schedule.Jobs

/-! One pass of reconciliation over the schedules.

The pass asks for the state of one resource after the other, in the order of the
schedules. Where the answer is a stable state other than the expected one, it asks
for a correction: a single job that brings the resource into the expected state. -/

set_option autoImplicit false

namespace PowerRota

open PowerRota.Calendar

structure Pass where
  now : Instant
  remaining : List Schedule
  corrections : Nat
  deriving Repr

structure Correction where
  schedule : Schedule
  action : Action
  deriving DecidableEq, Repr

namespace Correction

def jobName (correction : Correction) : String :=
  correction.schedule.name ++ ":validator:" ++ correction.action.label

def order (correction : Correction) : Order :=
  ⟨correction.schedule, correction.action.label⟩

def count (correction : Correction) : Count :=
  .correction correction.schedule.resource.kind correction.action.label

end Correction

def Schedule.correction? (schedule : Schedule) (zone : Zone) (now : Instant)
    (state? : Option ResourceState) : Option Correction := do
  let actual ← state?
  if actual.isTransitional then none
  let expected ← schedule.expectedState zone now
  if actual = expected then none
  return ⟨schedule, ← expected.reachedBy?⟩

namespace Pass

def begin (now : Instant) (schedules : List Schedule) : Pass :=
  ⟨now, schedules.filter Schedule.isReconcilable, 0⟩

def asked? (pass : Pass) : Option Schedule := pass.remaining.head?

/-- Take the answer for the schedule that was asked about. -/
def answer (pass : Pass) (zone : Zone) (state? : Option ResourceState) :
    Option Correction × Pass :=
  match pass.remaining with
  | [] => (none, pass)
  | schedule :: rest =>
      (schedule.correction? zone pass.now state?, { pass with remaining := rest })

def accepted (pass : Pass) : Pass := { pass with corrections := pass.corrections + 1 }

def standardInterval : Nat := 600 * 1000000000

end Pass

end PowerRota
