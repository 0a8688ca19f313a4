import PowerRota.Proofs.Scheduler.Reload

/-! The job of a one-time trigger, over any number of swaps.

Each swap gives the job a new timer for the same instant, while the old one may be asleep,
due or in the queue. Only a timer on the register hands over, and when it has, the instant
has come: a job that is added from then on has no fire ahead and gets no timer. -/

set_option autoImplicit false

namespace PowerRota

open PowerRota.Calendar

def SchedulerMove.Spares {Body : Type} (name : String) : SchedulerMove Body → Prop
  | .addManaged jobs | .replaceManaged jobs => ∀ job ∈ jobs, job.name ≠ name
  | .advance _ | .addOneShot _ _ | .openFor | .stop | .step _ => True

/-- A swap installs a valid set in which the schedule has no other trigger for the action, or
is left out; no job of the same name is added besides. -/
def SchedulerMove.Fixes {Body : Type} (schedule : Schedule) (action : Action)
    (trigger : Trigger) : SchedulerMove Body → Prop
  | .replaceManaged jobs =>
      ∃ (body : Order → Body) (schedules : List Schedule) (orders : List (Job Order)),
        Schedule.jobs schedules = .ok orders ∧ jobs = orders.map (·.map body) ∧
        ∀ kept ∈ schedules, kept.name = schedule.name →
          ∀ other, kept.trigger? action = some other → other = trigger
  | .addManaged jobs => ∀ job ∈ jobs, job.name ≠ schedule.jobName action
  | .advance _ | .addOneShot _ _ | .openFor | .stop | .step _ => True

theorem SchedulerMove.Fixes.respects {Body : Type} {schedule : Schedule} {action : Action}
    {trigger : Trigger} {rule : FiringRule} {move : SchedulerMove Body}
    (fixes : move.Fixes schedule action trigger)
    (accepted : FiringRule.ofTrigger trigger = .ok rule) :
    move.Respects (schedule.jobName action) rule := by
  cases move with
  | replaceManaged jobs =>
    obtain ⟨body, schedules, orders, translated, rfl, fixed⟩ := fixes
    exact Schedule.consistent_of_jobs translated fixed accepted body
  | addManaged jobs => exact fixes
  | _ => trivial

namespace Scheduler

variable {Body : Type} {scheduler after : Scheduler Body} {move : SchedulerMove Body}
  {moves : List (SchedulerMove Body)} {name : String} {rule : FiringRule} {zone : Zone}
  {origin instant due : Instant} {timer next : Timer Body}

def triggered (scheduler : Scheduler Body) (name : String) : List Fire :=
  scheduler.fires.filter fun fire => fire.name = name ∧ fire.due.isSome

/-- Swapping for a valid set that has the schedule with its trigger unchanged, or does not have
it, fixes the trigger. -/
theorem fixes_of_replaceSchedules {schedule : Schedule} {action : Action} {trigger : Trigger}
    {body : Order → Body} {schedules : List Schedule}
    (replaced : scheduler.replaceSchedules body schedules = .ok after)
    (fixed : ∀ kept ∈ schedules, kept.name = schedule.name →
      ∀ other, kept.trigger? action = some other → other = trigger) :
    ∃ move : SchedulerMove Body, scheduler.move? move = some after ∧
      move.Fixes schedule action trigger := by
  obtain ⟨orders, translated, moved⟩ := move?_of_replaceSchedules replaced
  exact ⟨_, moved, body, schedules, orders, translated, rfl, fixed⟩

structure Unused (scheduler : Scheduler Body) (name : String) : Prop where
  tidy : scheduler.Tidy
  jobs : ∀ timer ∈ scheduler.managed, timer.name ≠ name
  fires : ∀ fire ∈ scheduler.fires, fire.name = name → fire.due = none

theorem Moved.unused (moved : scheduler.Moved move after) (unused : scheduler.Unused name)
    (spares : move.Spares name) : after.Unused name where
  tidy := moved.tidy unused.tidy
  jobs timer member named := by
    obtain ⟨listed, registered, managed⟩ := mem_managed.mp member
    rcases moved.origin unused.tidy.sound listed with ⟨old, known, _, _, turn, _⟩ | new
    · obtain ⟨was_registered, was_managed, _⟩ := turn.was_managed registered managed
      have old_managed := mem_managed.mpr ⟨known, was_registered, was_managed⟩
      exact unused.jobs old old_managed (turn.keeps_job.2.1.symm.trans named)
    · -- a job that is added has another name, or is single
      cases move with
      | addManaged jobs | replaceManaged jobs =>
        obtain ⟨job, among, same, _⟩ := job_of_mem_timersFor new
        exact spares job (List.mem_filter.mp among).1 (same.symm.trans named)
      | addOneShot =>
        rw [List.mem_singleton.mp new] at managed
        cases managed
      | _ => cases new
  fires fire member named := by
    rcases moved.quiet_or_fire with quiet | ⟨timer, listed, due, phase, live, rfl⟩
    · exact unused.fires fire (quiet ▸ member) named
    · rcases List.mem_cons.mp member with rfl | member
      · -- only the timer of a managed job is for a fire
        cases due with
        | none => rfl
        | some due =>
          have managed := unused.tidy.managed_of_due listed live (by rw [phase]; rfl)
          exact absurd named (unused.jobs timer managed)
      · exact unused.fires fire member named

theorem Run.unused {settings : SchedulerSettings} {clock : Instant}
    (run : Run (start settings clock) moves scheduler)
    (spares : ∀ move ∈ moves, move.Spares name) : scheduler.Unused name := by
  apply run.keeps
  · exact fun unused member moved => (move?_moved moved).unused unused (spares _ member)
  · exact ⟨start_tidy settings clock, fun timer member => absurd member List.not_mem_nil,
      fun fire member => absurd member List.not_mem_nil⟩

/-- The job of a name is for one instant only. It has not been invoked for it, or once, and
then no timer is for it any more. -/
structure AtMostOnce (scheduler : Scheduler Body) (name : String) (instant : Instant) :
    Prop where
  timers : ∀ timer ∈ scheduler.managed, timer.name = name →
    ∀ due, timer.phase.due? = some due → due = instant
  fires : ∀ fire ∈ scheduler.fires, fire.name = name →
    ∀ due, fire.due = some due → due = instant
  spent : scheduler.invocations name instant = 0 ∨
    (scheduler.Past name instant ∧ scheduler.invocations name instant = 1)

theorem due_of_phaseAfter_once {last : Instant}
    (at_ : (scheduler.phaseAfter (.once instant) last).due? = some due) : due = instant := by
  simp only [phaseAfter, FiringRule.nextAfter] at at_
  by_cases later : last < instant
  · simp only [if_pos later, TimerPhase.due?, Option.some.injEq] at at_
    exact at_.symm
  · simp [later, TimerPhase.due?] at at_

theorem Turn.due_of_once {fires : List Fire} (turn : scheduler.Turn timer move (some next) fires)
    (once : timer.firing = .recurring (.once instant))
    (so_far : ∀ due, timer.phase.due? = some due → due = instant)
    (at_ : next.phase.due? = some due) : due = instant := by
  cases turn with
  | stay | drop => exact so_far due at_
  | wake phase =>
    rw [phase] at so_far
    exact so_far due at_
  | grant phase =>
    rw [phase] at so_far
    exact so_far due at_
  | passRecurring _ _ firing =>
    cases once.symm.trans firing
    exact due_of_phaseAfter_once at_
  | @fire last =>
    cases last with
    | none => simp [phaseAfterFire, TimerPhase.due?] at at_
    | some last =>
      simp only [once, phaseAfterFire] at at_
      exact due_of_phaseAfter_once at_
  | leave | passOnce | abandon => cases at_

theorem Moved.atMostOnce (moved : scheduler.Moved move after)
    (carries : scheduler.Carries name (.once instant) zone origin)
    (respects : move.Respects name (.once instant)) (later : origin < instant)
    (once : scheduler.AtMostOnce name instant) : after.AtMostOnce name instant where
  timers timer member named due at_ := by
    rcases carries.origin_of moved respects member named with
      ⟨old, known, was_named, _, _, turn⟩ | ⟨_, _, _, new⟩
    · exact turn.due_of_once (carries.recurring old known was_named)
        (once.timers old known was_named) at_
    · cases (due?_of_mem_timersFor new).symm.trans at_
  fires fire member named due at_ := by
    rcases moved.quiet_or_fire with quiet | ⟨timer, listed, handed, phase, live, rfl⟩
    · exact once.fires fire (quiet ▸ member) named due at_
    · rcases List.mem_cons.mp member with rfl | member
      · have for_due : timer.phase.due? = some due := by rw [phase]; exact at_
        exact once.timers timer (carries.tidy.managed_of_due listed live for_due) named due for_due
      · exact once.fires fire member named due at_
  spent := by
    have exact_ : (FiringRule.once instant).ExactIn zone origin scheduler.clock :=
      fun t _ _ => FiringRule.nextIsLeast_once instant zone t
    have ends := Int.le_refl scheduler.clock.nanos
    -- the first fire for the instant makes it past, and what is past is not handed over again
    rcases once.spent with none_yet | ⟨past, spent⟩
    · rcases moved.quiet_or_fire with quiet | ⟨timer, listed, due, phase, live, rfl⟩
      · exact Or.inl ((invocations_of_quiet quiet).trans none_yet)
      · by_cases counted : timer.name = name ∧ due = some instant
        · obtain ⟨named, rfl⟩ := counted
          have for_instant : timer.phase.due? = some instant := by rw [phase]; rfl
          have managed := carries.tidy.managed_of_due listed live for_instant
          rcases ahead_of_fire carries moved respects exact_ ends rfl managed named phase
              ⟨instant, for_instant, Int.le_of_lt later, Int.le_refl _⟩ with
            ⟨_, same⟩ | ⟨past, one_more⟩
          · exact Or.inl (same.trans none_yet)
          · exact Or.inr ⟨past, by rw [one_more, none_yet]⟩
        · exact Or.inl ((invocations_fire_of_ne counted).trans none_yet)
    · obtain ⟨past, same⟩ := moved.past carries respects exact_ ends later past
      exact Or.inr ⟨past, same.trans spent⟩

theorem Run.atMostOnce (run : Run scheduler moves after)
    (carries : scheduler.Carries name (.once instant) zone origin)
    (respects : ∀ move ∈ moves, move.Respects name (.once instant)) (later : origin < instant)
    (once : scheduler.AtMostOnce name instant) : after.AtMostOnce name instant := by
  have kept : after.Carries name (.once instant) zone origin ∧ after.AtMostOnce name instant := by
    apply run.keeps
    · rintro before next move ⟨carries, once⟩ member moved
      have moved := move?_moved moved
      exact ⟨moved.carries carries (respects move member),
        moved.atMostOnce carries (respects move member) later once⟩
    · exact ⟨carries, once⟩
  exact kept.2

theorem Moved.atMostOnce_of_unused {jobs : List (Job Body)}
    (moved : scheduler.Moved (.addManaged jobs) after) (unused : scheduler.Unused name) :
    after.AtMostOnce name instant := by
  have quiet : after.fires = scheduler.fires := by
    cases moved
    rw [insertJobs_eq]
  have untriggered (fire : Fire) (member : fire ∈ after.fires) (named : fire.name = name) :
      fire.due = none := unused.fires fire (quiet ▸ member) named
  constructor
  · intro timer member named due at_
    have new := moved.new_of_unused unused.tidy unused.jobs member named
    cases (due?_of_mem_timersFor new).symm.trans at_
  · intro fire member named due at_
    cases (untriggered fire member named).symm.trans at_
  · refine Or.inl (List.countP_eq_zero.mpr fun fire member same => ?_)
    obtain ⟨named, at_⟩ := of_decide_eq_true same
    cases (untriggered fire member named).symm.trans at_

theorem AtMostOnce.triggered_length (once : scheduler.AtMostOnce name instant) :
    (scheduler.triggered name).length ≤ 1 := by
  -- there are no fires for other instants that the count would leave out
  have counted : (scheduler.triggered name).length = scheduler.invocations name instant := by
    rw [triggered, ← List.countP_eq_length_filter]
    refine List.countP_congr fun fire member => ?_
    simp only [decide_eq_true_eq]
    refine and_congr_right fun named => ⟨fun at_ => ?_, fun at_ => at_ ▸ rfl⟩
    obtain ⟨due, at_⟩ := Option.isSome_iff_exists.mp at_
    rw [at_, once.fires fire member named due at_]
  rw [counted]
  rcases once.spent with none_yet | ⟨_, spent⟩ <;> omega

/-- The action of a one-time trigger is carried out once at the most, and not before its
instant, however often the set is swapped. -/
theorem once_at_most_once {settings : SchedulerSettings} {clock : Instant}
    {fresh ready : Scheduler Body} {earlier : List (SchedulerMove Body)} {body : Order → Body}
    {schedules : List Schedule} {schedule : Schedule} {action : Action} {timestamp : Timestamp}
    (before : Run (start settings clock) earlier fresh)
    (spares : ∀ move ∈ earlier, move.Spares (schedule.jobName action))
    (registered : fresh.registerSchedules body schedules = .ok ready)
    (member : schedule ∈ schedules) (enabled : schedule.trigger? action = some (.once timestamp))
    (run : Run ready moves after)
    (fixes : ∀ move ∈ moves, move.Fixes schedule action (.once timestamp)) :
    (after.triggered (schedule.jobName action)).length ≤ 1 ∧
      ∀ fire ∈ after.triggered (schedule.jobName action),
        fire.due = some timestamp.instant ∧ timestamp.instant ≤ fire.time := by
  have unused := before.unused spares
  obtain ⟨orders, translated, moved⟩ := moved_of_registerSchedules registered
  have listed := Schedule.listed_of_jobs translated member enabled rfl body
  have carries := moved.carries_of_unused unused.tidy unused.jobs listed.consistent
  -- the job is followed from a time before its instant, also when that has passed already
  let origin : Instant := ⟨min ready.clock.nanos (timestamp.instant.nanos - 1)⟩
  have later : origin < timestamp.instant := by
    show min ready.clock.nanos (timestamp.instant.nanos - 1) < timestamp.instant.nanos
    omega
  have begun : origin ≤ ready.clock := Int.min_le_left _ _
  have once := run.atMostOnce { carries with begun := begun }
    (fun move member => (fixes move member).respects rfl) later (moved.atMostOnce_of_unused unused)
  refine ⟨once.triggered_length, fun fire member => ?_⟩
  obtain ⟨handed, counted⟩ := List.mem_filter.mp member
  obtain ⟨named, at_⟩ := of_decide_eq_true counted
  obtain ⟨due, at_⟩ := Option.isSome_iff_exists.mp at_
  obtain rfl := once.fires fire handed named due at_
  have tidy := run.tidy carries.tidy
  exact ⟨at_, (tidy.fires fire handed).due _ at_⟩

def microsecond : Timestamp := ⟨0, 1000, by decide, by decide, by decide +kernel⟩

def launch : Schedule := ⟨"launch", ⟨.vm, "vm-1", "folder-1"⟩, some (.once microsecond), none⟩

def launchJobs : List (Job String) := [⟨"launch:start", .once ⟨1000⟩, "start"⟩]

theorem launchJobs_fixed :
    (SchedulerMove.replaceManaged launchJobs).Fixes launch .start (.once microsecond) := by
  refine ⟨Order.action, [launch], _, rfl, rfl, fun kept member _ other enabled => ?_⟩
  obtain rfl := List.mem_singleton.mp member
  exact (Option.some.inj enabled).symm

/-- The schedule is left out and brought back before its instant, and the set is swapped
again after it. -/
theorem once_at_most_once_of_brought_back :
    let settings : SchedulerSettings := ⟨.machine, 1, 0⟩
    let job : Timer String :=
      ⟨1, "launch:start", true, .recurring (.once ⟨1000⟩), "start", true, false, none, .gate⟩
    let fresh : Scheduler String :=
      { start settings ⟨0⟩ with opened := true, calls := [⟨0, false, .waiting⟩], nextId := 1 }
    let ready : Scheduler String := { fresh with timers := [job], nextId := 2 }
    let moves : List (SchedulerMove String) := [.step (.pass 1), .replaceManaged [],
      .replaceManaged launchJobs, .step (.pass 2), .advance ⟨1500⟩, .step (.wake 2), .step .grant,
      .step (.handOver 2), .replaceManaged launchJobs]
    let after : Scheduler String := { ready with
      clock := ⟨1500⟩
      free := 0
      timers := [
        { job with
          registered := false, cancelled := true, opened := some ⟨0⟩, phase := .asleep ⟨1000⟩ },
        { job with
          id := 2, registered := false, cancelled := true, opened := some ⟨0⟩, phase := .finished }]
      executions := [⟨3, 2, "launch:start", some ⟨1000⟩, "start"⟩]
      fires := [⟨2, "launch:start", some ⟨1000⟩, ⟨1500⟩⟩]
      nextId := 4 }
    Run (start settings ⟨0⟩) [.openFor] fresh ∧
      (∀ move ∈ [(.openFor : SchedulerMove String)], move.Spares (launch.jobName .start)) ∧
      fresh.registerSchedules Order.action [launch] = .ok ready ∧ launch ∈ [launch] ∧
      launch.trigger? .start = some (.once microsecond) ∧ Run ready moves after ∧
      (∀ move ∈ moves, move.Fixes launch .start (.once microsecond)) ∧
      (after.triggered (launch.jobName .start)).length = 1 ∧
      (after.triggered (launch.jobName .start)).length ≤ 1 ∧
      ∀ fire ∈ after.triggered (launch.jobName .start),
        fire.due = some microsecond.instant ∧ microsecond.instant ≤ fire.time := by
  intro settings job fresh ready moves after
  let asleep : Scheduler String := { ready with
    timers := [
      { job with
        registered := false, cancelled := true, opened := some ⟨0⟩, phase := .asleep ⟨1000⟩ },
      { job with id := 2, opened := some ⟨0⟩, phase := .asleep ⟨1000⟩ }]
    nextId := 3 }
  have before : Run (start settings ⟨0⟩) [.openFor] fresh := .next rfl .done
  have spares : ∀ move ∈ [(.openFor : SchedulerMove String)],
      move.Spares (launch.jobName .start) := by
    intro move member
    rw [List.mem_singleton.mp member]
    trivial
  have registered : fresh.registerSchedules Order.action [launch] = .ok ready := rfl
  have first : Run ready (moves.take 4) asleep := by
    repeat refine .next rfl ?_
    exact .done
  have second : Run asleep (moves.drop 4) after := by
    repeat refine .next rfl ?_
    exact .done
  have run : Run ready moves after := first.trans second
  have omitted : (SchedulerMove.replaceManaged ([] : List (Job String))).Fixes launch .start
      (.once microsecond) :=
    ⟨Order.action, [], [], rfl, rfl, fun _ member => absurd member List.not_mem_nil⟩
  have fixes : ∀ move ∈ moves, move.Fixes launch .start (.once microsecond) := by
    repeat' refine List.forall_mem_cons.mpr ⟨?_, ?_⟩
    all_goals first | trivial | exact omitted | exact launchJobs_fixed | exact List.forall_mem_nil _
  exact ⟨before, spares, registered, List.mem_singleton_self _, rfl, run, fixes, by decide,
    once_at_most_once before spares registered (List.mem_singleton_self _) rfl run fixes⟩

end Scheduler

end PowerRota
