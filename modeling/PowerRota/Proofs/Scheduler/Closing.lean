import PowerRota.Proofs.Scheduler.Onward

/-! After the shutdown nothing begins.

Timers that stand anywhere find their way out without a fire, whatever is asked for is
refused, and executions in progress go on to their end. A call that keeps the scheduler open
returns when none is in progress, or when it has waited long enough since the shutdown. -/

set_option autoImplicit false

namespace PowerRota.Scheduler

open PowerRota.Calendar

variable {Body : Type} {scheduler first after : Scheduler Body} {move : SchedulerMove Body}
  {moves : List (SchedulerMove Body)} {instant : Instant}

structure Closed (scheduler : Scheduler Body) : Prop where
  addManaged : ∀ job jobs,
    scheduler.addManaged (job :: jobs) = .error (.registration job.name .shutDown)
  replaceManaged : ∀ job jobs,
    scheduler.replaceManaged (job :: jobs) = .error (.registration job.name .shutDown)
  addOneShot : ∀ name body, scheduler.addOneShot name body = .error (.registration name .shutDown)
  registerSchedules : ∀ body schedules order orders,
    Schedule.jobs schedules = .ok (order :: orders) →
    scheduler.registerSchedules body schedules = .error (.registration order.name .shutDown)
  replaceSchedules : ∀ body schedules order orders,
    Schedule.jobs schedules = .ok (order :: orders) →
    scheduler.replaceSchedules body schedules = .error (.registration order.name .shutDown)
  openFor : scheduler.openFor = .error .schedulerClosed
  isRunning : scheduler.isRunning = false

theorem closed_of_shut (shut : scheduler.shut = true) : scheduler.Closed := by
  have refused (name : String) : scheduler.checkName name = .error (.registration name .shutDown) :=
    if_pos shut
  have checked (job : Job Body) (jobs : List (Job Body)) :
      scheduler.checkJobs (job :: jobs) = .error (.registration job.name .shutDown) := by
    rw [checkJobs, refused]
    rfl
  have add (job : Job Body) (jobs : List (Job Body)) :
      scheduler.addManaged (job :: jobs) = .error (.registration job.name .shutDown) := by
    rw [addManaged, checked]
    rfl
  have replace (job : Job Body) (jobs : List (Job Body)) :
      scheduler.replaceManaged (job :: jobs) = .error (.registration job.name .shutDown) := by
    rw [replaceManaged, checked]
    rfl
  constructor
  · exact add
  · exact replace
  · intro name body
    rw [addOneShot, refused]
    rfl
  · intro body schedules order orders translated
    rw [registerSchedules, translated]
    exact add ..
  · intro body schedules order orders translated
    rw [replaceSchedules, translated]
    exact replace ..
  · exact if_pos shut
  · simp [Scheduler.isRunning, shut]

theorem Moved.added_of_shut (moved : scheduler.Moved move after) (shut : scheduler.shut = true) :
    scheduler.added move = [] := by
  have none_live {jobs : List (Job Body)} (accepted : ¬ scheduler.Refuses jobs) :
      timersFor scheduler.nextId (jobs.filter scheduler.isLive) = [] := by
    cases jobs with
    | nil => rfl
    | cons job jobs => exact absurd ⟨job, List.mem_cons_self .., Or.inl shut⟩ accepted
  cases moved with
  | addManaged accepted | replaceManaged accepted => exact none_live accepted
  | addOneShot accepted => cases accepted.1.symm.trans shut
  | _ => rfl

theorem Moved.registered_of_shut (moved : scheduler.Moved move after) (sound : scheduler.Sound)
    (shut : scheduler.shut = true) {timer : Timer Body} (member : timer ∈ after.registered) :
    ∃ old ∈ scheduler.registered, old.id = timer.id := by
  obtain ⟨listed, registered⟩ := List.mem_filter.mp member
  rcases moved.origin sound listed with ⟨old, known, same, _, turn, _⟩ | new
  · refine ⟨old, List.mem_filter.mpr ⟨known, ?_⟩, same⟩
    cases turn with
    | drop => cases registered
    | _ => exact registered
  · rw [moved.added_of_shut shut] at new
    cases new

theorem Moved.silent_of_shut (moved : scheduler.Moved move after) (shut : scheduler.shut = true) :
    (∀ id, move ≠ .step (.handOver id)) ∧ after.fires = scheduler.fires ∧
      after.executions ⊆ scheduler.executions := by
  have stopped (timer : Timer Body) : scheduler.isCancelled timer = true := by
    rw [isCancelled, shut, Bool.or_true]
  constructor
  · rintro id rfl
    cases moved with
    | step stepped =>
      generalize which : SchedulerEvent.handOver id = event at stepped
      cases stepped with
      | handOver _ _ live => cases live.symm.trans (stopped _)
      | _ => cases which
  · rcases moved.handsOver with quiet | ⟨timer, _, _, live, _⟩
    · exact quiet
    · cases live.symm.trans (stopped timer)

/-- Of the moves after a shutdown: they begin nothing, and executions go on. -/
structure Subsides (before : Scheduler Body) (moves : List (SchedulerMove Body))
    (after : Scheduler Body) : Prop where
  closed : after.Closed
  silent : ∀ id, .step (.handOver id) ∉ moves
  fires : after.fires = before.fires
  executions : after.executions ⊆ before.executions
  registered : ∀ timer ∈ after.registered, ∃ old ∈ before.registered, old.id = timer.id
  /-- Wherever a timer stands, its next step is the one out, and it can take it. -/
  exits : ∀ timer ∈ after.timers, after.nextEvent? timer = some timer.exit ∧
    ∃ next, after.step? timer.exit = some next
  goes_on : ∀ execution ∈ before.executions, .step (.finish execution.id) ∉ moves →
    execution ∈ after.executions ∧ ∃ next, after.step? (.finish execution.id) = some next

theorem Run.subsides (run : Run scheduler moves after) (sound : scheduler.Sound)
    (shut : scheduler.shut = true) :
    (∀ id, .step (.handOver id) ∉ moves) ∧ after.fires = scheduler.fires ∧
      after.executions ⊆ scheduler.executions ∧
      ∀ timer ∈ after.registered, ∃ old ∈ scheduler.registered, old.id = timer.id := by
  induction run with
  | done =>
    exact ⟨fun _ => List.not_mem_nil, rfl, List.Subset.refl _, fun timer member =>
      ⟨timer, member, rfl⟩⟩
  | next moved _ ih =>
    have moved := move?_moved moved
    obtain ⟨other, fires, executions⟩ := moved.silent_of_shut shut
    obtain ⟨others, fires', executions', registered⟩ :=
      ih (sound.move moved) (moved.stays_shut shut)
    -- a job on the register at the end is traced back through the rest, then through the move
    refine ⟨fun id => ?_, fires'.trans fires, List.Subset.trans executions' executions, ?_⟩
    · exact List.not_mem_cons_of_ne_of_not_mem (Ne.symm (other id)) (others id)
    · intro timer member
      obtain ⟨between, listed, same⟩ := registered timer member
      obtain ⟨old, known, same'⟩ := moved.registered_of_shut sound shut listed
      exact ⟨old, known, same'.trans same⟩

/-- A run is shut down at an instant, by one of its moves. -/
def ShutAt (first : Scheduler Body) (moves : List (SchedulerMove Body)) (instant : Instant) :
    Prop :=
  ∃ middle move next, first.MadeFrom moves middle move ∧ middle.move? move = some next ∧
    middle.shut = false ∧ next.shut = true ∧ next.clock = instant

theorem Run.exists_shutAt (run : Run first moves after) (running : first.shut = false)
    (shut : after.shut = true) : ∃ instant, first.ShutAt moves instant := by
  induction run with
  | done => cases running.symm.trans shut
  | @next first middle after move rest moved run ih =>
    cases closes : middle.shut with
    | true => exact ⟨_, first, move, middle, ⟨[], rest, rfl, .done⟩, moved, running, closes, rfl⟩
    | false =>
      obtain ⟨instant, before, closing, next, ⟨earlier, later, split, run⟩, taken⟩ := ih closes shut
      exact ⟨instant, before, closing, next,
        ⟨move :: earlier, later, congrArg (List.cons move) split, .next moved run⟩, taken⟩

/-- A call drains only after the shutdown, and until the time to drain has passed since an
instant. -/
def DrainsFrom (scheduler : Scheduler Body) (instant : Instant) : Prop :=
  ∀ call ∈ scheduler.calls, ∀ deadline, call.stage = .draining deadline →
    scheduler.shut = true ∧ instant.addNanos scheduler.settings.drainTimeout ≤ deadline

theorem DrainsFrom.of_running (drains : scheduler.DrainsFrom instant)
    (running : scheduler.shut = false) (other : Instant) : scheduler.DrainsFrom other := by
  intro call member deadline stage
  cases running.symm.trans (drains call member deadline stage).1

theorem mem_updateCall {id : Nat} {change : StartCall → StartCall} {call : StartCall}
    (member : call ∈ (scheduler.updateCall id change).calls) :
    ∃ old ∈ scheduler.calls, call = if old.id = id then change old else old := by
  obtain ⟨old, listed, same⟩ := List.mem_map.mp member
  exact ⟨old, listed, same.symm⟩

theorem addNanos_le {earlier later : Instant} (before : earlier ≤ later) (nanos : Int) :
    earlier.addNanos nanos ≤ later.addNanos nanos :=
  Int.add_le_add_right before nanos

theorem Step.drainsFrom {event : SchedulerEvent} (stepped : scheduler.Step event after)
    (begun : instant ≤ scheduler.clock) (drains : scheduler.DrainsFrom instant) :
    after.DrainsFrom instant := by
  cases stepped with
  | cancel =>
    intro call member deadline stage
    obtain ⟨old, known, rfl⟩ := mem_updateCall member
    refine drains old known deadline ?_
    split at stage <;> exact stage
  | windDown =>
    intro call member deadline stage
    obtain ⟨old, known, rfl⟩ := mem_updateCall member
    refine ⟨rfl, ?_⟩
    split at stage
    · cases stage
      exact addNanos_le begun _
    · exact (drains old known deadline stage).2
  | «return» =>
    intro call member deadline stage
    obtain ⟨old, known, rfl⟩ := mem_updateCall member
    split at stage
    · cases stage
    · exact drains old known deadline stage
  | _ => exact drains

theorem Moved.drainsFrom (moved : scheduler.Moved move after) (begun : instant ≤ scheduler.clock)
    (drains : scheduler.DrainsFrom instant) : after.DrainsFrom instant := by
  cases moved with
  | step stepped => exact stepped.drainsFrom begun drains
  | advance clock =>
    unfold Scheduler.advance
    split <;> exact drains
  | addManaged | replaceManaged =>
    rw [insertJobs_eq]
    exact drains
  | addOneShot => exact drains
  | openFor =>
    intro call member deadline stage
    rcases List.mem_append.mp member with member | new
    · exact drains call member deadline stage
    · rw [List.mem_singleton.mp new] at stage
      cases stage
  | stop =>
    intro call member deadline stage
    exact ⟨rfl, (drains call member deadline stage).2⟩

theorem Run.drainsFrom (run : Run scheduler moves after) (begun : instant ≤ scheduler.clock)
    (drains : scheduler.DrainsFrom instant) : after.DrainsFrom instant := by
  have kept : instant ≤ after.clock ∧ after.DrainsFrom instant := by
    apply run.keeps
    · rintro before next move ⟨begun, drains⟩ _ moved
      have moved := move?_moved moved
      exact ⟨Int.le_trans begun moved.clock_le, moved.drainsFrom begun drains⟩
    · exact ⟨begun, drains⟩
  exact kept.2

theorem Moved.clock_of_closing (moved : scheduler.Moved move after)
    (running : scheduler.shut = false) (shut : after.shut = true) :
    after.clock = scheduler.clock := by
  cases moved with
  | advance clock =>
    unfold Scheduler.advance at shut
    split at shut <;> cases running.symm.trans shut
  | step stepped => cases stepped <;> rfl
  | addManaged => rw [insertJobs_eq]
  | replaceManaged =>
    rw [insertJobs_eq]
    rfl
  | _ => rfl

theorem start_drainsFrom (settings : SchedulerSettings) (clock : Instant) :
    (start settings clock : Scheduler Body).DrainsFrom clock :=
  fun _ member => absurd member List.not_mem_nil

theorem drainsFrom_of_shutAt {settings : SchedulerSettings} {clock : Instant}
    (run : Run (start settings clock) moves scheduler)
    (shut_at : (start settings clock : Scheduler Body).ShutAt moves instant) :
    scheduler.DrainsFrom instant := by
  obtain ⟨middle, move, next, ⟨earlier, later, rfl, before⟩, moved, running, shut, rfl⟩ := shut_at
  -- no call drains while the scheduler runs, so those that do began at the shutdown or later
  have none_before := before.drainsFrom (Int.le_refl _) (start_drainsFrom settings clock)
  have drains := none_before.of_running running next.clock
  have onwards := run.split before
  cases onwards with
  | next moved' rest =>
    cases moved.symm.trans moved'
    have moved := move?_moved moved
    have same := moved.clock_of_closing running shut
    exact rest.drainsFrom (Int.le_refl _) (moved.drainsFrom (Int.le_of_eq (congrArg _ same)) drains)

/-- From the shutdown on, however the run goes on, no execution begins, no job comes on the
register, and every call for either is refused. A call that kept the scheduler open returns
after a shutdown only, when no execution is in progress or the time to drain has passed since. -/
theorem nothing_begins_after_shutdown {settings : SchedulerSettings} {clock : Instant}
    (run : Run (start settings clock) moves scheduler) :
    (scheduler.shut = true →
      (∃ instant, (start settings clock : Scheduler Body).ShutAt moves instant) ∧
      ∀ later after, Run scheduler later after → scheduler.Subsides later after) ∧
    ∀ id after, scheduler.step? (.return id) = some after →
      scheduler.shut = true ∧
      ∀ instant, (start settings clock : Scheduler Body).ShutAt moves instant →
        scheduler.executions = [] ∨ instant.addNanos settings.drainTimeout ≤ scheduler.clock := by
  have sound : scheduler.Sound := Reachable.sound ⟨moves, run⟩
  constructor
  · intro shut
    refine ⟨run.exists_shutAt rfl shut, fun later after onwards => ?_⟩
    obtain ⟨silent, fires, executions, registered⟩ := onwards.subsides sound shut
    have still_shut := onwards.stays_shut shut
    have later_sound := onwards.sound sound
    refine ⟨closed_of_shut still_shut, silent, fires, executions, registered, ?_, ?_⟩
    · intro timer member
      have cancelled : after.isCancelled timer = true := by
        rw [isCancelled, still_shut, Bool.or_true]
      exact ⟨nextEvent?_of_cancelled cancelled, step?_exit later_sound member cancelled⟩
    · intro execution member unfinished
      have goes_on := onwards.keeps_execution member unfinished
      exact ⟨goes_on, step?_finish goes_on⟩
  · intro id after returned
    have stepped := step?_step returned
    generalize which : SchedulerEvent.return id = event at stepped
    cases stepped with
    | «return» member stage drained =>
      have drains := run.drainsFrom (Int.le_refl _) (start_drainsFrom settings clock)
      refine ⟨(drains _ member _ stage).1, fun instant shut_at => ?_⟩
      -- a call drains since the shutdown at the earliest, and its deadline counts from then
      refine drained.imp List.isEmpty_iff.mp fun late => ?_
      have waited := (drainsFrom_of_shutAt run shut_at _ member _ stage).2
      rw [run.settings] at waited
      exact Int.le_trans waited late
    | _ => cases which

/-- At the shutdown one timer has a permit, one waits for a permit, and an execution is in
progress that outlasts the time to drain. -/
theorem nothing_begins_after_shutdown_of_overdue :
    let settings : SchedulerSettings := ⟨.machine, 2, 1000⟩
    let moves : List (SchedulerMove String) := [.addOneShot "first" "first",
      .addOneShot "second" "second", .addOneShot "third" "third", .openFor, .step (.pass 0),
      .step .grant, .step (.handOver 0), .step (.pass 1), .step .grant, .step (.pass 2),
      .advance ⟨500⟩, .step (.cancel 3), .step (.windDown 3), .advance ⟨1500⟩]
    let scheduler : Scheduler String :=
      { settings := settings, clock := ⟨1500⟩, opened := true, shut := true, free := 0,
        queue := [2],
        timers := [⟨0, "first", false, .once, "first", true, false, some ⟨0⟩, .finished⟩,
          ⟨1, "second", false, .once, "second", true, false, some ⟨0⟩, .holding none⟩,
          ⟨2, "third", false, .once, "third", true, false, some ⟨0⟩, .queued none⟩],
        executions := [⟨4, 0, "first", none, "first"⟩],
        calls := [⟨3, true, .draining ⟨1500⟩⟩], fires := [⟨0, "first", none, ⟨0⟩⟩], nextId := 5 }
    Run (start settings ⟨0⟩) moves scheduler ∧ scheduler.shut = true ∧
      (start settings ⟨0⟩ : Scheduler String).ShutAt moves ⟨500⟩ ∧
      (scheduler.step? (.return 3)).isSome = true ∧ scheduler.executions ≠ [] ∧
      (∀ later after, Run scheduler later after → scheduler.Subsides later after) ∧
      ∀ id after, scheduler.step? (.return id) = some after → scheduler.shut = true ∧
        ∀ instant, (start settings ⟨0⟩ : Scheduler String).ShutAt moves instant →
          scheduler.executions = [] ∨
            instant.addNanos settings.drainTimeout ≤ scheduler.clock := by
  intro settings moves scheduler
  let served : Scheduler String := { scheduler with
    clock := ⟨0⟩
    shut := false
    free := 1
    queue := []
    timers := [⟨0, "first", false, .once, "first", true, false, some ⟨0⟩, .finished⟩,
      ⟨1, "second", false, .once, "second", true, false, none, .gate⟩,
      ⟨2, "third", false, .once, "third", true, false, none, .gate⟩]
    calls := [⟨3, false, .waiting⟩] }
  let asked : Scheduler String := { scheduler with
    clock := ⟨500⟩, shut := false, calls := [⟨3, true, .waiting⟩] }
  have first : Run (start settings ⟨0⟩) (moves.take 7) served := by
    repeat refine .next rfl ?_
    exact .done
  have second : Run served ((moves.drop 7).take 5) asked := by
    repeat refine .next rfl ?_
    exact .done
  have before : Run (start settings ⟨0⟩) (moves.take 12) asked := first.trans second
  have run : Run (start settings ⟨0⟩) moves scheduler :=
    before.trans (.next rfl (.next rfl .done))
  have shut_at : (start settings ⟨0⟩ : Scheduler String).ShutAt moves ⟨500⟩ :=
    ⟨asked, .step (.windDown 3), _, ⟨moves.take 12, [.advance ⟨1500⟩], rfl, before⟩, rfl, rfl, rfl,
      rfl⟩
  obtain ⟨closes, waited⟩ := nothing_begins_after_shutdown run
  exact ⟨run, rfl, shut_at, rfl, List.cons_ne_nil _ _, (closes rfl).2, waited⟩

end PowerRota.Scheduler
