import PowerRota.Proofs.Scheduler.Turn

/-! The step that a timer takes next can always be taken, and an execution can always end.

A cancelled timer is on its way out, wherever it stands. A timer without a next step waits
for something that others decide: the opening, the clock, or a permit. -/

set_option autoImplicit false

namespace PowerRota

open PowerRota.Calendar

def Timer.exit {Body : Type} (timer : Timer Body) : SchedulerEvent :=
  match timer.phase with
  | .gate | .asleep _ | .queued _ => .leave timer.id
  | .holding _ => .abandon timer.id
  | .finished => .retire timer.id

namespace Scheduler

variable {Body : Type} {scheduler : Scheduler Body} {timer : Timer Body}

theorem nextEvent?_of_cancelled (cancelled : scheduler.isCancelled timer = true) :
    scheduler.nextEvent? timer = some timer.exit := by
  unfold nextEvent? Timer.exit
  cases timer.phase <;> simp [cancelled]

theorem step?_exit (sound : scheduler.Sound) (member : timer ∈ scheduler.timers)
    (cancelled : scheduler.isCancelled timer = true) :
    ∃ after, scheduler.step? timer.exit = some after := by
  have found := (timer?_eq_some_iff sound).mpr ⟨member, rfl⟩
  unfold Timer.exit
  cases phase : timer.phase with
  | gate | asleep | queued => simp [step?, found, leave?, cancelled, phase]
  | holding => simp [step?, found, abandon?, cancelled, phase]
  | finished => simp [step?, found, retire?, phase]

theorem step?_of_nextEvent? (sound : scheduler.Sound) (member : timer ∈ scheduler.timers)
    {event : SchedulerEvent} (next : scheduler.nextEvent? timer = some event) :
    ∃ after, scheduler.step? event = some after := by
  cases cancelled : scheduler.isCancelled timer with
  | true =>
    cases (nextEvent?_of_cancelled cancelled).symm.trans next
    exact step?_exit sound member cancelled
  | false =>
    -- in each phase the next step was chosen by the very condition that the step checks
    have found := (timer?_eq_some_iff sound).mpr ⟨member, rfl⟩
    unfold nextEvent? at next
    cases phase : timer.phase with
    | gate =>
      simp only [phase, cancelled, Bool.false_eq_true, if_false] at next
      split at next <;> cases next
      next opened =>
        simp only [step?, found, Option.bind_some, pass?, opened, phase, and_self, if_true]
        split <;> exact ⟨_, rfl⟩
    | asleep due =>
      simp only [phase, cancelled, Bool.false_eq_true, if_false] at next
      split at next <;> cases next
      next reached => simp [step?, found, wake?, phase, reached]
    | queued due =>
      simp only [phase, cancelled, Bool.false_eq_true, if_false] at next
      split at next <;> cases next
      next first =>
        obtain ⟨rest, queue⟩ := List.head?_eq_some_iff.mp first.1
        simp [step?, grant?, queue, first.2, found, phase]
    | holding due =>
      simp only [phase, cancelled, Bool.false_eq_true, if_false] at next
      cases next
      simp [step?, found, handOver?, phase, cancelled]
    | finished =>
      simp only [phase] at next
      cases next
      simp [step?, found, retire?, phase]

theorem step?_finish {execution : Execution Body} (member : execution ∈ scheduler.executions) :
    ∃ after, scheduler.step? (.finish execution.id) = some after := by
  have listed : scheduler.executions.any (·.id == execution.id) = true :=
    List.any_eq_true.mpr ⟨execution, member, beq_self_eq_true _⟩
  simp only [step?, finish?, listed, if_true]
  exact ⟨_, rfl⟩

inductive Idle (scheduler : Scheduler Body) (timer : Timer Body) : Prop where
  | gate (phase : timer.phase = .gate) (closed : scheduler.opened = false)
  | asleep {due : Instant} (phase : timer.phase = .asleep due) (later : scheduler.clock < due)
  | queued {due : Option Instant} (phase : timer.phase = .queued due)
      (waits : scheduler.queue.head? = some timer.id → scheduler.free = 0)

theorem idle_of_nextEvent?_eq_none (none_left : scheduler.nextEvent? timer = none) :
    scheduler.isCancelled timer = false ∧ scheduler.Idle timer := by
  have live : scheduler.isCancelled timer = false := by
    refine eq_false_of_ne_true fun cancelled => ?_
    cases (nextEvent?_of_cancelled cancelled).symm.trans none_left
  refine ⟨live, ?_⟩
  unfold nextEvent? at none_left
  cases phase : timer.phase with
  | gate =>
    simp only [phase, live, Bool.false_eq_true, if_false] at none_left
    split at none_left
    next => cases none_left
    next closed => exact .gate phase (eq_false_of_ne_true closed)
  | asleep due =>
    simp only [phase, live, Bool.false_eq_true, if_false] at none_left
    split at none_left
    next => cases none_left
    next early => exact .asleep phase (Int.not_le.mp early)
  | queued due =>
    simp only [phase, live, Bool.false_eq_true, if_false] at none_left
    split at none_left
    next => cases none_left
    next waits =>
      refine .queued phase fun first => ?_
      exact Nat.eq_zero_of_not_pos fun free => waits ⟨first, free⟩
  | holding | finished => simp [phase] at none_left

end Scheduler

end PowerRota
