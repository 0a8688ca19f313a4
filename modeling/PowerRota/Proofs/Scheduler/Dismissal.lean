import PowerRota.Proofs.Scheduler.Permits

/-! What becomes of timers and executions in the moves that follow.

Ids are given out once, and a cancelled timer stays cancelled. So a job that was taken
off the register has fired for the last time, however far its timer had got, while an
execution in progress stays until it ends. -/

set_option autoImplicit false

namespace PowerRota.Scheduler

open PowerRota.Calendar

variable {Body : Type} {scheduler after : Scheduler Body}

def firesOf (scheduler : Scheduler Body) (id : Nat) : List Fire :=
  scheduler.fires.filter (·.timer = id)

structure Inherits (before after : Scheduler Body) : Prop where
  numbered : before.nextId ≤ after.nextId
  timers : ∀ timer ∈ after.timers, before.nextId ≤ timer.id ∨
    ∃ old ∈ before.timers, old.id = timer.id ∧ (old.cancelled = true → timer.cancelled = true)

theorem Inherits.same_timers (timers : after.timers = scheduler.timers)
    (numbered : scheduler.nextId ≤ after.nextId) : scheduler.Inherits after := by
  refine ⟨numbered, fun timer member => Or.inr ⟨timer, ?_, rfl, id⟩⟩
  rw [← timers]
  exact member

theorem Inherits.trans {middle : Scheduler Body} (first : scheduler.Inherits middle)
    (second : middle.Inherits after) : scheduler.Inherits after := by
  refine ⟨Nat.le_trans first.numbered second.numbered, fun timer member => ?_⟩
  rcases second.timers timer member with new | ⟨between, listed, same, stays⟩
  · exact Or.inl (Nat.le_trans first.numbered new)
  · rcases first.timers between listed with new | ⟨old, known, same', stays'⟩
    · exact Or.inl (same ▸ new)
    · exact Or.inr ⟨old, known, same'.trans same, stays ∘ stays'⟩

theorem Inherits.updateTimer (id : Nat) (change : Timer Body → Timer Body)
    (keeps : ∀ timer, (change timer).id = timer.id)
    (stays : ∀ timer, (change timer).cancelled = timer.cancelled) :
    scheduler.Inherits (scheduler.updateTimer id change) := by
  refine ⟨Nat.le_refl _, fun timer member => Or.inr ?_⟩
  obtain ⟨old, known, rfl⟩ := mem_updateTimer member
  refine ⟨old, known, ?_⟩
  split
  · exact ⟨(keeps old).symm, fun cancelled => (stays old).trans cancelled⟩
  · exact ⟨rfl, fun cancelled => cancelled⟩

theorem Inherits.setPhase (id : Nat) (phase : TimerPhase) :
    scheduler.Inherits (scheduler.setPhase id phase) :=
  .updateTimer id _ (fun _ => rfl) (fun _ => rfl)

theorem Inherits.insertJobs (jobs : List (Job Body)) :
    scheduler.Inherits (scheduler.insertJobs jobs) := by
  rw [insertJobs_eq]
  refine ⟨Nat.le_add_right .., fun timer member => ?_⟩
  rcases List.mem_append.mp member with old | new
  · exact Or.inr ⟨timer, old, rfl, fun cancelled => cancelled⟩
  · exact Or.inl (id_bounds_of_mem_timersFor new).1

theorem Inherits.insert (name : String) (managed : Bool) (firing : Firing) (body : Body) :
    scheduler.Inherits (scheduler.insert name managed firing body) := by
  refine ⟨Nat.le_succ _, fun timer member => ?_⟩
  rcases List.mem_append.mp member with old | new
  · exact Or.inr ⟨timer, old, rfl, fun cancelled => cancelled⟩
  · rw [List.mem_singleton.mp new]
    exact Or.inl (Nat.le_refl _)

theorem Inherits.dropManaged : scheduler.Inherits scheduler.dropManaged := by
  refine ⟨Nat.le_refl _, fun timer member => Or.inr ?_⟩
  obtain ⟨old, known, rfl⟩ := List.mem_map.mp member
  refine ⟨old, known, ?_⟩
  split
  · exact ⟨rfl, fun _ => rfl⟩
  · exact ⟨rfl, fun cancelled => cancelled⟩

theorem Inherits.of_timers {middle : Scheduler Body} (inherits : scheduler.Inherits middle)
    (timers : after.timers = middle.timers) (numbered : middle.nextId ≤ after.nextId) :
    scheduler.Inherits after :=
  inherits.trans (.same_timers timers numbered)

theorem Step.inherits {event : SchedulerEvent} (stepped : scheduler.Step event after) :
    scheduler.Inherits after := by
  -- a step changes phases and openings; no step takes a cancellation back
  cases stepped with
  | leave | grant | abandon => exact (Inherits.setPhase _ _).of_timers rfl (Nat.le_refl _)
  | passOnce =>
    refine (Inherits.updateTimer _ _ ?_ ?_).trans
      ((Inherits.setPhase _ _).of_timers rfl (Nat.le_refl _))
    · exact fun _ => rfl
    · exact fun _ => rfl
  | passRecurring =>
    refine (Inherits.updateTimer _ _ ?_ ?_).trans (Inherits.setPhase _ _)
    · exact fun _ => rfl
    · exact fun _ => rfl
  | wake => exact (Inherits.setPhase _ _).of_timers rfl (Nat.le_refl _)
  | handOver => exact (Inherits.setPhase _ _).of_timers rfl (Nat.le_succ _)
  | retire =>
    refine ⟨Nat.le_refl _, fun timer member => Or.inr ?_⟩
    exact ⟨timer, (List.mem_filter.mp member).1, rfl, fun cancelled => cancelled⟩
  | finish | cancel | windDown | «return» => exact .same_timers rfl (Nat.le_refl _)

theorem Moved.inherits {move : SchedulerMove Body} (moved : scheduler.Moved move after) :
    scheduler.Inherits after := by
  cases moved with
  | advance clock =>
    unfold Scheduler.advance
    split <;> exact .same_timers rfl (Nat.le_refl _)
  | addManaged accepted => exact .insertJobs _
  | addOneShot accepted => exact .insert ..
  | replaceManaged accepted => exact Inherits.dropManaged.trans (.insertJobs _)
  | openFor accepted => exact .same_timers rfl (Nat.le_succ _)
  | stop => exact .same_timers rfl (Nat.le_refl _)
  | step stepped => exact stepped.inherits

theorem Moved.handsOver {move : SchedulerMove Body} (moved : scheduler.Moved move after) :
    (after.fires = scheduler.fires ∧ after.executions ⊆ scheduler.executions) ∨
      ∃ timer ∈ scheduler.timers, ∃ due,
        scheduler.isCancelled timer = false ∧ after = scheduler.fire timer due := by
  -- `handOver` is the only step that adds to the fires or to the executions
  cases moved with
  | step stepped =>
    cases stepped with
    | handOver member phase live => exact Or.inr ⟨_, member, _, live, rfl⟩
    | finish => exact Or.inl ⟨rfl, List.filter_sublist.subset⟩
    | _ => exact Or.inl ⟨rfl, List.Subset.refl _⟩
  | advance clock =>
    unfold Scheduler.advance
    split <;> exact Or.inl ⟨rfl, List.Subset.refl _⟩
  | addManaged | replaceManaged =>
    rw [insertJobs_eq]
    exact Or.inl ⟨rfl, List.Subset.refl _⟩
  | _ => exact Or.inl ⟨rfl, List.Subset.refl _⟩

/-- No timer of an id can fire: the id is used up, and a timer that has it is cancelled. -/
structure Dismissed (scheduler : Scheduler Body) (id : Nat) : Prop where
  used : id < scheduler.nextId
  cancelled : ∀ timer ∈ scheduler.timers, timer.id = id → timer.cancelled = true

theorem Dismissed.inherit {id : Nat} (dismissed : scheduler.Dismissed id)
    (inherits : scheduler.Inherits after) : after.Dismissed id := by
  refine ⟨Nat.lt_of_lt_of_le dismissed.used inherits.numbered, fun timer member same => ?_⟩
  rcases inherits.timers timer member with new | ⟨old, known, same', stays⟩
  -- a new timer has a new id, so the id is not given out a second time
  · exact absurd dismissed.used (Nat.not_lt.mpr (same ▸ new))
  · exact stays (dismissed.cancelled old known (same'.trans same))

theorem Dismissed.silent {id : Nat} {move : SchedulerMove Body}
    (dismissed : scheduler.Dismissed id) (moved : scheduler.Moved move after) :
    move ≠ .step (.handOver id) ∧ after.firesOf id = scheduler.firesOf id ∧
      ∀ execution ∈ after.executions, execution.timer = id → execution ∈ scheduler.executions := by
  have live_is_other {timer : Timer Body} (member : timer ∈ scheduler.timers)
      (live : scheduler.isCancelled timer = false) : timer.id ≠ id := by
    intro same
    have cancelled := dismissed.cancelled timer member same
    simp [isCancelled, cancelled] at live
  refine ⟨?_, ?_⟩
  · intro same
    cases moved with
    | step stepped =>
      cases stepped with
      | handOver member phase live =>
        cases same
        exact live_is_other member live rfl
      | _ => cases same
    | _ => cases same
  -- a move hands over one execution at most, and it is of another timer
  rcases moved.handsOver with ⟨fires, executions⟩ | ⟨timer, member, due, live, rfl⟩
  · refine ⟨?_, fun execution listed _ => executions listed⟩
    unfold firesOf
    rw [fires]
  · have other := live_is_other member live
    constructor
    · exact List.filter_cons_of_neg (by simpa using other)
    · intro execution listed same
      rcases List.mem_append.mp listed with old | new
      · exact old
      · rw [List.mem_singleton.mp new] at same
        exact absurd same other

/-- A dismissed timer hands nothing over in a whole run. -/
theorem Run.silent {id : Nat} {moves : List (SchedulerMove Body)} (run : Run scheduler moves after)
    (dismissed : scheduler.Dismissed id) :
    .step (.handOver id) ∉ moves ∧ after.firesOf id = scheduler.firesOf id ∧
      ∀ execution ∈ after.executions, execution.timer = id → execution ∈ scheduler.executions := by
  induction run with
  | done => exact ⟨List.not_mem_nil, rfl, fun _ member _ => member⟩
  | next moved _ ih =>
    have taken := move?_moved moved
    obtain ⟨first, fires, executions⟩ := dismissed.silent taken
    obtain ⟨rest, fires', executions'⟩ := ih (dismissed.inherit taken.inherits)
    refine ⟨List.not_mem_cons_of_ne_of_not_mem (Ne.symm first) rest, fires'.trans fires, ?_⟩
    intro execution member same
    exact executions execution (executions' execution member same) same

theorem Moved.keeps_execution {move : SchedulerMove Body} (moved : scheduler.Moved move after)
    {execution : Execution Body} (member : execution ∈ scheduler.executions)
    (goes_on : move ≠ .step (.finish execution.id)) : execution ∈ after.executions := by
  cases moved with
  | step stepped =>
    cases stepped with
    | handOver => exact List.mem_append_left _ member
    | finish =>
      refine List.mem_filter.mpr ⟨member, decide_eq_true ?_⟩
      intro same
      exact goes_on (same ▸ rfl)
    | _ => exact member
  | advance clock =>
    unfold Scheduler.advance
    split <;> exact member
  | addManaged | replaceManaged =>
    rw [insertJobs_eq]
    exact member
  | _ => exact member

theorem Run.keeps_execution {moves : List (SchedulerMove Body)} (run : Run scheduler moves after)
    {execution : Execution Body} (member : execution ∈ scheduler.executions)
    (goes_on : .step (.finish execution.id) ∉ moves) : execution ∈ after.executions := by
  induction run with
  | done => exact member
  | next moved _ ih =>
    obtain ⟨first, later⟩ := not_or.mp (mt List.mem_cons.mpr goes_on)
    exact ih ((move?_moved moved).keeps_execution member (Ne.symm first)) later

theorem Moved.settings {move : SchedulerMove Body} (moved : scheduler.Moved move after) :
    after.settings = scheduler.settings := by
  cases moved with
  | step stepped => cases stepped <;> rfl
  | advance clock =>
    unfold Scheduler.advance
    split <;> rfl
  | addManaged => rw [insertJobs_eq]
  | replaceManaged =>
    rw [insertJobs_eq]
    rfl
  | _ => rfl

theorem Run.settings {moves : List (SchedulerMove Body)} (run : Run scheduler moves after) :
    after.settings = scheduler.settings := by
  induction run with
  | done => rfl
  | next moved _ ih => exact ih.trans (move?_moved moved).settings

end PowerRota.Scheduler
