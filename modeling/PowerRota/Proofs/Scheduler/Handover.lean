import PowerRota.Proofs.Scheduler.Single

/-! From the timer of a single job to the execution that it hands over.

As long as the scheduler is not shut down, the timer goes on until it has handed over the
execution, and the execution comes from nowhere else. -/

set_option autoImplicit false

namespace PowerRota.Scheduler

open PowerRota.Calendar

variable {Body : Type} {scheduler after : Scheduler Body} {move : SchedulerMove Body}
  {timer next : Timer Body} {fires : List Fire} {name : String} {body : Body}

theorem Turn.isSingle (turn : scheduler.Turn timer move (some next) fires)
    (job : timer.IsSingle name body) : next.IsSingle name body := by
  cases turn with
  | drop _ managed => cases job.managed.symm.trans managed
  | stay => exact job
  | _ => exact ⟨job.named, job.invokes, job.firing, job.managed, job.registered⟩

theorem Moved.timer_before (moved : scheduler.Moved move after) (tidy : scheduler.Tidy)
    (member : next ∈ after.timers) (known : next.id < scheduler.nextId) :
    ∃ old ∈ scheduler.timers, old.id = next.id ∧
      (∀ {name : String} {body : Body}, old.IsSingle name body → next.IsSingle name body) ∧
      (old.phase = .finished → next.phase = .finished) := by
  rcases moved.origin tidy.sound member with ⟨old, listed, same, fires, turn, _⟩ | new
  · refine ⟨old, listed, same, fun job => turn.isSingle job, fun finished => ?_⟩
    cases turn with
    | stay | drop => exact finished
    | leave | abandon => rfl
    | passOnce _ phase | passRecurring _ phase | wake phase | grant phase | fire phase =>
      cases phase.symm.trans finished
  · exact absurd known (Nat.not_lt.mpr (fresh_of_mem_added new).2)

theorem Moved.single_goes_on (moved : scheduler.Moved move after) (tidy : scheduler.Tidy)
    (running : scheduler.shut = false) (member : timer ∈ scheduler.timers)
    (job : timer.IsSingle name body) (unfinished : timer.phase ≠ .finished) :
    (∃ next ∈ after.timers, next.id = timer.id ∧ next.IsSingle name body ∧
        next.phase ≠ .finished) ∨
      ∃ due, after = scheduler.fire timer due := by
  have regular := tidy.timers timer member
  have single := regular.single job.firing
  have live : scheduler.isCancelled timer ≠ true := fun cancelled => by
    simp [regular.shut_of_isCancelled job cancelled] at running
  obtain ⟨fires, turn, listed⟩ := moved.turn tidy.sound member
  generalize stands : after.timer? timer.id = next? at turn
  have goes_on {next : Timer Body} (later : after.timer? timer.id = some next)
      (still : next.IsSingle name body) (waits : next.phase ≠ .finished) :
      ∃ next ∈ after.timers, next.id = timer.id ∧ next.IsSingle name body ∧
        next.phase ≠ .finished := by
    obtain ⟨known, same⟩ := mem_of_timer? later
    exact ⟨next, known, same, still, waits⟩
  cases turn with
  | stay => exact Or.inl (goes_on stands job unfinished)
  | drop _ managed => cases job.managed.symm.trans managed
  | leave cancelled | abandon _ cancelled => exact absurd cancelled live
  | passOnce => exact Or.inl (goes_on stands (job.rephase _ _) (by simp))
  | passRecurring _ _ firing => cases job.firing.symm.trans firing
  | wake phase => simp [phase, TimerPhase.due?] at single
  | grant => exact Or.inl (goes_on stands (job.rephase _ _) (by simp))
  | retire finished => exact absurd finished unfinished
  | fire phase =>
    right
    rcases moved.handsOver with ⟨quiet, _⟩ | ⟨other, among, due, _, rfl⟩
    · -- the fire would have been there before
      unfold firesOf at listed
      rw [quiet] at listed
      exact absurd (congrArg List.length listed) (by simp)
    · refine ⟨due, ?_⟩
      by_cases same : other.id = timer.id
      · rw [List.inj_on_of_nodup_map tidy.sound.timers_unique among member same]
      · have silent : (scheduler.fire other due).firesOf timer.id = scheduler.firesOf timer.id :=
          List.filter_cons_of_neg (by simpa using same)
        rw [silent] at listed
        exact absurd (congrArg List.length listed) (by simp)

theorem Moved.execution_origin (moved : scheduler.Moved move after)
    {execution : Execution Body} (member : execution ∈ after.executions) :
    execution ∈ scheduler.executions ∨
      ∃ timer ∈ scheduler.timers, execution.timer = timer.id ∧ execution.body = timer.body ∧
        execution.id = scheduler.nextId ∧ ∃ due, timer.phase = .holding due := by
  rcases moved.quiet_or_fire with quiet | ⟨timer, listed, due, phase, _, rfl⟩
  · rcases moved.handsOver with ⟨_, kept⟩ | ⟨timer, _, due, _, rfl⟩
    · exact Or.inl (kept member)
    · exact absurd (congrArg List.length quiet) (by simp [fire])
  · rcases List.mem_append.mp member with old | new
    · exact Or.inl old
    · rw [List.mem_singleton.mp new]
      exact Or.inr ⟨timer, listed, rfl, rfl, rfl, due, phase⟩

theorem Moved.executions_numbered (moved : scheduler.Moved move after) (sound : scheduler.Sound)
    (numbered : ∀ execution ∈ scheduler.executions, execution.timer < scheduler.nextId) :
    ∀ execution ∈ after.executions, execution.timer < after.nextId := by
  intro execution member
  refine Nat.lt_of_lt_of_le ?_ moved.inherits.numbered
  rcases moved.execution_origin member with old | ⟨timer, listed, same, _⟩
  · exact numbered execution old
  · exact same ▸ sound.timers_numbered timer listed

end PowerRota.Scheduler
