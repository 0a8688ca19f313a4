import PowerRota.Proofs.Scheduler.Onward

/-! Where the permits of a scheduler go, move by move.

A permit goes from the free ones to a timer, from there to an execution or back, and from an
execution back to the free ones, however the execution ended. No other move touches it, and
nobody who has one is kept from passing it on. -/

set_option autoImplicit false

namespace PowerRota

open PowerRota.Calendar

/-- How many permits are more, or fewer, with each of those who can have them. -/
structure PermitChange where
  free : Int
  held : Int
  used : Int

def SchedulerMove.permitChange {Body : Type} : SchedulerMove Body → PermitChange
  | .step .grant => ⟨-1, 1, 0⟩
  | .step (.handOver _) => ⟨0, -1, 1⟩
  | .step (.abandon _) => ⟨1, -1, 0⟩
  | .step (.finish _) => ⟨1, 0, -1⟩
  | _ => ⟨0, 0, 0⟩

theorem SchedulerMove.permitChange_balanced {Body : Type} (move : SchedulerMove Body) :
    move.permitChange.free + move.permitChange.held + move.permitChange.used = 0 := by
  unfold permitChange
  split <;> rfl

namespace Scheduler

variable {Body : Type} {scheduler after : Scheduler Body} {move : SchedulerMove Body}

structure Transfers (before : Scheduler Body) (change : PermitChange) (after : Scheduler Body) :
    Prop where
  free : (after.free : Int) = before.free + change.free
  held : (after.heldPermits : Int) = before.heldPermits + change.held
  used : (after.executions.length : Int) = before.executions.length + change.used

theorem Sound.transfers (sound : scheduler.Sound) (moved : scheduler.Moved move after)
    (free : (after.free : Int) = scheduler.free + move.permitChange.free)
    (used : (after.executions.length : Int) =
      scheduler.executions.length + move.permitChange.used) :
    scheduler.Transfers move.permitChange after := by
  refine ⟨free, ?_, used⟩
  have before := sound.permits
  have later := (sound.move moved).permits
  have balanced := move.permitChange_balanced
  rw [moved.settings] at later
  omega

theorem Moved.transfers (moved : scheduler.Moved move after) (sound : scheduler.Sound) :
    scheduler.Transfers move.permitChange after := by
  -- what timers hold follows from the other two, since the sum is the limit before and after
  refine sound.transfers moved ?_ ?_
  · cases moved with
    | step stepped =>
      cases stepped with
      | grant _ _ free =>
        show ((scheduler.free - 1 : Nat) : Int) = scheduler.free + -1
        omega
      | abandon | finish => exact Int.natCast_add ..
      | _ => exact (Int.add_zero _).symm
    | advance clock =>
      unfold Scheduler.advance
      split <;> exact (Int.add_zero _).symm
    | addManaged | replaceManaged =>
      rw [insertJobs_eq]
      exact (Int.add_zero _).symm
    | _ => exact (Int.add_zero _).symm
  · cases moved with
    | step stepped =>
      cases stepped with
      | handOver =>
        show ((scheduler.executions ++ [_]).length : Int) = scheduler.executions.length + 1
        rw [List.length_append, List.length_singleton, Int.natCast_add]
        rfl
      | @finish execution member =>
        have fewer := length_filter_ne sound.executions_unique member
        show ((scheduler.executions.filter (·.id ≠ execution.id)).length : Int) =
          scheduler.executions.length + -1
        omega
      | _ => exact (Int.add_zero _).symm
    | advance clock =>
      unfold Scheduler.advance
      split <;> exact (Int.add_zero _).symm
    | addManaged | replaceManaged =>
      rw [insertJobs_eq]
      exact (Int.add_zero _).symm
    | _ => exact (Int.add_zero _).symm

theorem Sound.passes_on (sound : scheduler.Sound) {timer : Timer Body}
    (member : timer ∈ scheduler.timers) (holds : timer.phase.holdsPermit = true) :
    ∃ after, scheduler.step? (if scheduler.isCancelled timer then .abandon timer.id
      else .handOver timer.id) = some after := by
  apply step?_of_nextEvent? sound member
  unfold nextEvent?
  cases phase : timer.phase with
  | holding => rfl
  | _ => simp [phase, TimerPhase.holdsPermit] at holds

/-- Free permits, permits of timers and executions in progress always add up to the limit.
Every move transfers at most one of them, and whoever has one can pass it on. -/
theorem permits_accounted {settings : SchedulerSettings} {clock : Instant}
    (reachable : Reachable settings clock scheduler) :
    scheduler.free + scheduler.heldPermits + scheduler.executions.length =
      max 1 settings.maxConcurrent ∧
    scheduler.executions.length ≤ max 1 settings.maxConcurrent ∧
    (∀ move after, scheduler.move? move = some after →
      scheduler.Transfers move.permitChange after) ∧
    (∀ timer ∈ scheduler.timers, timer.phase.holdsPermit = true →
      ∃ after, scheduler.step? (if scheduler.isCancelled timer then .abandon timer.id
        else .handOver timer.id) = some after) ∧
    ∀ execution ∈ scheduler.executions,
      ∃ after, scheduler.step? (.finish execution.id) = some after := by
  have sound := reachable.sound
  have same : scheduler.settings = settings := by
    obtain ⟨moves, run⟩ := reachable
    exact run.settings
  have sum : scheduler.free + scheduler.heldPermits + scheduler.executions.length =
      max 1 settings.maxConcurrent := same ▸ sound.permits
  refine ⟨sum, ?_, ?_, ?_, ?_⟩
  · exact sum ▸ Nat.le_add_left ..
  · exact fun move after moved => (move?_moved moved).transfers sound
  · exact fun timer member holds => sound.passes_on member holds
  · exact fun execution member => step?_finish member

/-- With a limit of none there is one permit. A swap has just cancelled the timer that got it
while another timer waits. -/
theorem permits_accounted_of_cancelled :
    let rule : FiringRule := .once ⟨1000000000⟩
    let dev : Timer String :=
      ⟨0, "dev:start", true, .recurring rule, "start", false, true, some ⟨0⟩,
        .holding (some ⟨1000000000⟩)⟩
    let repair : Timer String :=
      ⟨1, "fix", false, .once, "fix", true, false, some ⟨1000000000⟩, .queued none⟩
    let scheduler : Scheduler String :=
      { settings := ⟨.machine, 0, 0⟩, clock := ⟨1000000000⟩, opened := true, shut := false,
        free := 0, queue := [1], timers := [dev, repair], executions := [],
        calls := [⟨2, false, .waiting⟩], fires := [], nextId := 3 }
    Reachable ⟨.machine, 0, 0⟩ ⟨0⟩ scheduler ∧ dev ∈ scheduler.timers ∧
      scheduler.isCancelled dev = true ∧
      scheduler.free + scheduler.heldPermits + scheduler.executions.length = 1 ∧
      scheduler.executions.length ≤ 1 ∧
      (∀ move after, scheduler.move? move = some after →
        scheduler.Transfers move.permitChange after) ∧
      (∃ after, scheduler.step? (.abandon 0) = some after) := by
  intro rule dev repair scheduler
  let granted : Scheduler String := { scheduler with
    timers := [{ dev with registered := true, cancelled := false }, repair] }
  have run : Run (start ⟨.machine, 0, 0⟩ ⟨0⟩) [.addManaged [⟨"dev:start", rule, "start"⟩],
      .addOneShot "fix" "fix", .openFor, .step (.pass 0), .advance ⟨1000000000⟩,
      .step (.wake 0), .step .grant, .step (.pass 1)] granted := by
    repeat refine .next rfl ?_
    exact .done
  have swapped : granted.move? (.replaceManaged []) = some scheduler := rfl
  have reachable : Reachable ⟨.machine, 0, 0⟩ ⟨0⟩ scheduler :=
    ⟨_, run.trans (.next swapped .done)⟩
  have member : dev ∈ scheduler.timers := List.mem_cons_self ..
  have cancelled : scheduler.isCancelled dev = true := rfl
  obtain ⟨sum, bound, transfers, passes, _⟩ := permits_accounted reachable
  have given_back := passes dev member rfl
  rw [cancelled, if_pos rfl] at given_back
  exact ⟨reachable, member, cancelled, sum, bound, transfers, given_back⟩

end Scheduler

end PowerRota
