import PowerRota.Proofs.Scheduler.Dismissal

/-! What a move makes of one timer.

`Turn` says it once, for all moves: what a timer goes through along a run is a matter of
its turns. -/

set_option autoImplicit false

namespace PowerRota

open PowerRota.Calendar

def TimerPhase.due? : TimerPhase → Option Instant
  | .asleep due => some due
  | .queued due | .holding due => due
  | .gate | .finished => none

def TimerPhase.asked? : TimerPhase → Option Instant
  | .queued due | .holding due => due
  | .gate | .asleep _ | .finished => none

theorem TimerPhase.asked?_of_rests {phase : TimerPhase} (rests : phase.rests = true) :
    phase.asked? = none := by
  cases phase with
  | queued due | holding due => cases rests
  | _ => rfl

theorem TimerPhase.ne_gate_of_rests {phase : TimerPhase} (rests : phase.rests = true) :
    phase ≠ .gate := by
  rintro rfl
  cases rests

namespace Scheduler

variable {Body : Type} {scheduler after : Scheduler Body}

/-- A move leaves of a timer what is given, if it leaves anything, and the timer hands
over the given fires in it. -/
inductive Turn (scheduler : Scheduler Body) (timer : Timer Body) :
    SchedulerMove Body → Option (Timer Body) → List Fire → Prop where
  | stay {move : SchedulerMove Body}
      (kept : ∀ jobs, move = .replaceManaged jobs → (timer.registered && timer.managed) = false) :
      Turn scheduler timer move (some timer) []
  | drop {jobs : List (Job Body)} (registered : timer.registered = true)
      (managed : timer.managed = true) :
      Turn scheduler timer (.replaceManaged jobs)
        (some { timer with registered := false, cancelled := true }) []
  | leave (cancelled : scheduler.isCancelled timer = true) (waits : timer.phase.waits = true) :
      Turn scheduler timer (.step (.leave timer.id)) (some { timer with phase := .finished }) []
  | passOnce (opened : scheduler.opened = true) (phase : timer.phase = .gate)
      (firing : timer.firing = .once) :
      Turn scheduler timer (.step (.pass timer.id))
        (some { timer with opened := some scheduler.clock, phase := .queued none }) []
  | passRecurring {rule : FiringRule} (opened : scheduler.opened = true)
      (phase : timer.phase = .gate) (firing : timer.firing = .recurring rule) :
      Turn scheduler timer (.step (.pass timer.id))
        (some { timer with
          opened := some scheduler.clock, phase := scheduler.phaseAfter rule scheduler.clock }) []
  | wake {due : Instant} (phase : timer.phase = .asleep due) (reached : due ≤ scheduler.clock) :
      Turn scheduler timer (.step (.wake timer.id))
        (some { timer with phase := .queued (some due) }) []
  | grant {due : Option Instant} (phase : timer.phase = .queued due) :
      Turn scheduler timer (.step .grant) (some { timer with phase := .holding due }) []
  | fire {due : Option Instant} (phase : timer.phase = .holding due)
      (live : scheduler.isCancelled timer = false) :
      Turn scheduler timer (.step (.handOver timer.id))
        (some { timer with phase := scheduler.phaseAfterFire timer.firing due })
        [⟨timer.id, timer.name, due, scheduler.clock⟩]
  | abandon {due : Option Instant} (phase : timer.phase = .holding due)
      (cancelled : scheduler.isCancelled timer = true) :
      Turn scheduler timer (.step (.abandon timer.id)) (some { timer with phase := .finished }) []
  | retire (phase : timer.phase = .finished) :
      Turn scheduler timer (.step (.retire timer.id)) none []

/-! Timers by their ids. -/

theorem timer?_eq_some_iff (sound : scheduler.Sound) {id : Nat} {timer : Timer Body} :
    scheduler.timer? id = some timer ↔ timer ∈ scheduler.timers ∧ timer.id = id := by
  refine ⟨mem_of_timer?, fun ⟨member, same⟩ => ?_⟩
  cases found : scheduler.timer? id with
  | none => exact absurd (beq_iff_eq.mpr same) (List.find?_eq_none.mp found timer member)
  | some other =>
    obtain ⟨listed, same'⟩ := mem_of_timer? found
    rw [List.inj_on_of_nodup_map sound.timers_unique listed member (same'.trans same.symm)]

theorem timer?_updateTimer (id other : Nat) {change : Timer Body → Timer Body}
    (keeps : ∀ timer, (change timer).id = timer.id) :
    (scheduler.updateTimer id change).timer? other =
      (scheduler.timer? other).map fun timer => if timer.id = id then change timer else timer := by
  unfold timer? updateTimer
  rw [List.find?_map]
  congr 2
  funext timer
  simp only [Function.comp]
  split
  · rw [keeps]
  · rfl

theorem timer?_append {timers : List (Timer Body)} {timer : Timer Body} {id : Nat}
    (found : scheduler.timer? id = some timer)
    (extended : after.timers = scheduler.timers ++ timers) : after.timer? id = some timer := by
  unfold timer? at found ⊢
  rw [extended, List.find?_append, found]
  rfl

theorem timers_updateTimer_twice (id : Nat) {first second : Timer Body → Timer Body}
    (keeps : ∀ timer, (first timer).id = timer.id) :
    ((scheduler.updateTimer id first).updateTimer id second).timers =
      (scheduler.updateTimer id (second ∘ first)).timers := by
  simp only [updateTimer, List.map_map]
  apply List.map_congr_left
  intro timer _
  by_cases same : timer.id = id <;> simp [same, keeps timer]

/-! Turns. -/

theorem Turn.of_change (sound : scheduler.Sound) {actor timer : Timer Body}
    (acting : actor ∈ scheduler.timers) (member : timer ∈ scheduler.timers)
    {event : SchedulerEvent} (change : Timer Body → Timer Body)
    (keeps : ∀ timer, (change timer).id = timer.id)
    (timers : after.timers = (scheduler.updateTimer actor.id change).timers) {fires : List Fire}
    (acts : scheduler.Turn actor (.step event) (some (change actor)) fires) :
    (timer = actor ∧ scheduler.Turn timer (.step event) (after.timer? timer.id) fires) ∨
      (timer.id ≠ actor.id ∧ scheduler.Turn timer (.step event) (after.timer? timer.id) []) := by
  have found := (timer?_eq_some_iff sound).mpr ⟨member, rfl⟩
  have updated : after.timer? timer.id =
      some (if timer.id = actor.id then change timer else timer) := by
    have same : after.timer? timer.id =
        (scheduler.updateTimer actor.id change).timer? timer.id := by
      unfold timer?
      rw [timers]
    rw [same, timer?_updateTimer _ _ keeps, found, Option.map_some]
  rw [updated]
  by_cases same : timer.id = actor.id
  · obtain rfl := List.inj_on_of_nodup_map sound.timers_unique member acting same
    rw [if_pos rfl]
    exact Or.inl ⟨rfl, acts⟩
  · rw [if_neg same]
    exact Or.inr ⟨same, .stay nofun⟩

theorem Turn.of_quiet_change (sound : scheduler.Sound) {actor timer : Timer Body}
    (acting : actor ∈ scheduler.timers) (member : timer ∈ scheduler.timers)
    {event : SchedulerEvent} (change : Timer Body → Timer Body)
    (keeps : ∀ timer, (change timer).id = timer.id)
    (timers : after.timers = (scheduler.updateTimer actor.id change).timers)
    (quiet : after.fires = scheduler.fires)
    (acts : scheduler.Turn actor (.step event) (some (change actor)) []) :
    ∃ fires, scheduler.Turn timer (.step event) (after.timer? timer.id) fires ∧
      after.firesOf timer.id = fires ++ scheduler.firesOf timer.id := by
  refine ⟨[], ?_, congrArg (List.filter _) quiet⟩
  rcases Turn.of_change sound acting member change keeps timers acts with ⟨_, turn⟩ | ⟨_, turn⟩ <;>
    exact turn

theorem Step.turn (sound : scheduler.Sound) {event : SchedulerEvent}
    (stepped : scheduler.Step event after) {timer : Timer Body}
    (member : timer ∈ scheduler.timers) :
    ∃ fires, scheduler.Turn timer (.step event) (after.timer? timer.id) fires ∧
      after.firesOf timer.id = fires ++ scheduler.firesOf timer.id := by
  have found := (timer?_eq_some_iff sound).mpr ⟨member, rfl⟩
  cases stepped with
  | leave acting cancelled waits =>
    exact Turn.of_quiet_change sound acting member (fun timer => { timer with phase := .finished })
      (fun _ => rfl) rfl rfl (.leave cancelled waits)
  | passOnce acting opened phase firing =>
    exact Turn.of_quiet_change sound acting member
      (fun timer => { timer with opened := some scheduler.clock, phase := .queued none })
      (fun _ => rfl) (timers_updateTimer_twice _ fun _ => rfl) rfl (.passOnce opened phase firing)
  | passRecurring acting opened phase firing =>
    exact Turn.of_quiet_change sound acting member
      (fun timer => { timer with
        opened := some scheduler.clock, phase := scheduler.phaseAfter _ scheduler.clock })
      (fun _ => rfl) (timers_updateTimer_twice _ fun _ => rfl) rfl
      (.passRecurring opened phase firing)
  | wake acting phase reached =>
    exact Turn.of_quiet_change sound acting member
      (fun timer => { timer with phase := .queued (some _) }) (fun _ => rfl) rfl rfl
      (.wake phase reached)
  | grant acting first free phase =>
    exact Turn.of_quiet_change sound acting member
      (fun timer => { timer with phase := .holding _ }) (fun _ => rfl) rfl rfl (.grant phase)
  | @handOver actor due acting phase live =>
    -- the fire that is written down is the one of the timer that acts, and of no other
    rcases Turn.of_change sound acting member
        (fun timer => { timer with phase := scheduler.phaseAfterFire actor.firing due })
        (fun _ => rfl) (rfl : (scheduler.fire actor due).timers = _) (.fire phase live)
      with ⟨rfl, turn⟩ | ⟨other, turn⟩
    · exact ⟨_, turn, List.filter_cons_of_pos (by simp)⟩
    · exact ⟨_, turn, List.filter_cons_of_neg (by simpa using Ne.symm other)⟩
  | abandon acting phase cancelled =>
    exact Turn.of_quiet_change sound acting member (fun timer => { timer with phase := .finished })
      (fun _ => rfl) rfl rfl (.abandon phase cancelled)
  | @retire actor acting phase =>
    refine ⟨[], ?_, rfl⟩
    by_cases same : timer.id = actor.id
    · obtain rfl := List.inj_on_of_nodup_map sound.timers_unique member acting same
      have gone : Scheduler.timer? { scheduler with
          timers := scheduler.timers.filter (·.id ≠ timer.id) } timer.id = none := by
        simp [timer?]
      rw [gone]
      exact .retire phase
    · have kept : Scheduler.timer? { scheduler with
          timers := scheduler.timers.filter (·.id ≠ actor.id) } timer.id = some timer := by
        refine (timer?_eq_some_iff (sound.retire acting phase)).mpr ⟨?_, rfl⟩
        exact List.mem_filter.mpr ⟨member, decide_eq_true same⟩
      rw [kept]
      exact .stay nofun
  | finish | cancel | windDown | «return» => exact ⟨[], found ▸ .stay nofun, rfl⟩

theorem timer?_dropManaged (scheduler : Scheduler Body) (id : Nat) :
    scheduler.dropManaged.timer? id = (scheduler.timer? id).map fun timer =>
      if timer.registered && timer.managed then
        { timer with registered := false, cancelled := true }
      else timer := by
  unfold timer? dropManaged
  rw [List.find?_map]
  congr 2
  funext timer
  simp only [Function.comp]
  split <;> rfl

theorem Moved.turn (sound : scheduler.Sound) {move : SchedulerMove Body}
    (moved : scheduler.Moved move after) {timer : Timer Body}
    (member : timer ∈ scheduler.timers) :
    ∃ fires, scheduler.Turn timer move (after.timer? timer.id) fires ∧
      after.firesOf timer.id = fires ++ scheduler.firesOf timer.id := by
  have found := (timer?_eq_some_iff sound).mpr ⟨member, rfl⟩
  cases moved with
  | step stepped => exact stepped.turn sound member
  | advance clock =>
    unfold Scheduler.advance
    split <;> exact ⟨[], found ▸ .stay nofun, rfl⟩
  | addManaged accepted =>
    rw [insertJobs_eq]
    refine ⟨[], ?_, rfl⟩
    rw [timer?_append found rfl]
    exact .stay nofun
  | addOneShot accepted =>
    refine ⟨[], ?_, rfl⟩
    rw [timer?_append found rfl]
    exact .stay nofun
  -- only the timers of managed jobs on the register are taken off it
  | replaceManaged accepted =>
    rw [insertJobs_eq]
    refine ⟨[], ?_, rfl⟩
    have dropped := scheduler.timer?_dropManaged timer.id
    rw [found, Option.map_some] at dropped
    rw [timer?_append dropped rfl]
    split
    next both =>
      obtain ⟨registered, managed⟩ := Bool.and_eq_true_iff.mp both
      exact .drop registered managed
    next spared => exact .stay fun _ _ => eq_false_of_ne_true spared
  | openFor accepted => exact ⟨[], found ▸ .stay nofun, rfl⟩
  | stop => exact ⟨[], found ▸ .stay nofun, rfl⟩

/-! New timers. -/

def added (scheduler : Scheduler Body) : SchedulerMove Body → List (Timer Body)
  | .addManaged jobs | .replaceManaged jobs =>
      timersFor scheduler.nextId (jobs.filter scheduler.isLive)
  | .addOneShot name body =>
      [⟨scheduler.nextId, name, false, .once, body, true, false, none, .gate⟩]
  | _ => []

theorem Moved.added_subset {move : SchedulerMove Body} (moved : scheduler.Moved move after) :
    scheduler.added move ⊆ after.timers := by
  cases moved with
  | addManaged | replaceManaged =>
    rw [insertJobs_eq]
    exact List.subset_append_right _ _
  | addOneShot => exact List.subset_append_right _ _
  | _ => exact List.nil_subset _

theorem fresh_of_mem_added {move : SchedulerMove Body} {timer : Timer Body}
    (new : timer ∈ scheduler.added move) : timer.Fresh ∧ scheduler.nextId ≤ timer.id := by
  cases move with
  | addManaged jobs | replaceManaged jobs =>
    exact ⟨(fresh_of_mem_timersFor new).1, (id_bounds_of_mem_timersFor new).1⟩
  | addOneShot name body =>
    rw [List.mem_singleton.mp new]
    exact ⟨⟨rfl, rfl, rfl, rfl⟩, Nat.le_refl _⟩
  | _ => cases new

theorem exists_of_mem_updateTimer {id : Nat} {change : Timer Body → Timer Body}
    {timer : Timer Body} (member : timer ∈ (scheduler.updateTimer id change).timers)
    (keeps : ∀ timer, (change timer).id = timer.id) :
    ∃ old ∈ scheduler.timers, old.id = timer.id := by
  obtain ⟨old, known, rfl⟩ := mem_updateTimer member
  refine ⟨old, known, ?_⟩
  split
  · exact (keeps old).symm
  · rfl

theorem Step.old {event : SchedulerEvent} (stepped : scheduler.Step event after)
    {timer : Timer Body} (member : timer ∈ after.timers) :
    ∃ old ∈ scheduler.timers, old.id = timer.id := by
  cases stepped with
  | leave | wake | grant | handOver | abandon =>
    exact exists_of_mem_updateTimer member fun _ => rfl
  | passOnce | passRecurring =>
    -- the opening is noted before the phase is set
    obtain ⟨between, listed, same⟩ := exists_of_mem_updateTimer member fun _ => rfl
    obtain ⟨old, known, same'⟩ := exists_of_mem_updateTimer listed fun _ => rfl
    exact ⟨old, known, same'.trans same⟩
  | retire => exact ⟨timer, (List.mem_filter.mp member).1, rfl⟩
  | finish | cancel | windDown | «return» => exact ⟨timer, member, rfl⟩

theorem Moved.old_or_added {move : SchedulerMove Body} (moved : scheduler.Moved move after)
    {timer : Timer Body} (member : timer ∈ after.timers) :
    (∃ old ∈ scheduler.timers, old.id = timer.id) ∨ timer ∈ scheduler.added move := by
  cases moved with
  | step stepped => exact Or.inl (stepped.old member)
  | advance clock =>
    unfold Scheduler.advance at member
    split at member <;> exact Or.inl ⟨timer, member, rfl⟩
  | addManaged =>
    rw [insertJobs_eq] at member
    exact (List.mem_append.mp member).imp_left fun old => ⟨timer, old, rfl⟩
  | addOneShot => exact (List.mem_append.mp member).imp_left fun old => ⟨timer, old, rfl⟩
  | replaceManaged =>
    rw [insertJobs_eq] at member
    refine (List.mem_append.mp member).imp_left fun old => ?_
    obtain ⟨known, listed, rfl⟩ := List.mem_map.mp old
    refine ⟨known, listed, ?_⟩
    split <;> rfl
  | openFor | stop => exact Or.inl ⟨timer, member, rfl⟩

/-- A timer after a move comes from a turn, or it was added. -/
theorem Moved.origin (sound : scheduler.Sound) {move : SchedulerMove Body}
    (moved : scheduler.Moved move after) {timer : Timer Body} (member : timer ∈ after.timers) :
    (∃ old ∈ scheduler.timers, old.id = timer.id ∧
      ∃ fires, scheduler.Turn old move (some timer) fires ∧
        after.firesOf timer.id = fires ++ scheduler.firesOf timer.id) ∨
      timer ∈ scheduler.added move := by
  refine (moved.old_or_added member).imp_left fun ⟨old, known, same⟩ => ?_
  obtain ⟨fires, turn, listed⟩ := moved.turn sound known
  have found := (timer?_eq_some_iff (sound.move moved)).mpr ⟨member, same.symm⟩
  rw [found] at turn
  exact ⟨old, known, same, fires, turn, same ▸ listed⟩

/-! What turns keep. -/

variable {timer next : Timer Body} {move : SchedulerMove Body} {fires : List Fire}

theorem Turn.keeps_job (turn : scheduler.Turn timer move (some next) fires) :
    next.id = timer.id ∧ next.name = timer.name ∧ next.managed = timer.managed ∧
      next.firing = timer.firing ∧ next.body = timer.body := by
  cases turn <;> exact ⟨rfl, rfl, rfl, rfl, rfl⟩

theorem Turn.register (turn : scheduler.Turn timer move (some next) fires)
    (consistent : timer.cancelled = !timer.registered) : next.cancelled = !next.registered := by
  cases turn with
  | drop => rfl
  | _ => exact consistent

/-! What moves keep of the scheduler as a whole. -/

theorem clock_le_advance (scheduler : Scheduler Body) (clock : Instant) :
    scheduler.clock ≤ (scheduler.advance clock).clock := by
  unfold advance
  split
  next later => exact later
  next => exact Int.le_refl _

theorem Moved.clock_le (moved : scheduler.Moved move after) : scheduler.clock ≤ after.clock := by
  cases moved with
  | advance clock => exact clock_le_advance ..
  | step stepped => cases stepped <;> exact Int.le_refl _
  | addManaged | replaceManaged =>
    rw [insertJobs_eq]
    exact Int.le_refl _
  | _ => exact Int.le_refl _

theorem Moved.stays_shut (moved : scheduler.Moved move after) (shut : scheduler.shut = true) :
    after.shut = true := by
  cases moved with
  | advance clock =>
    unfold Scheduler.advance
    split <;> exact shut
  | step stepped =>
    cases stepped with
    | windDown => rfl
    | _ => exact shut
  | addManaged | replaceManaged =>
    rw [insertJobs_eq]
    exact shut
  | stop => rfl
  | _ => exact shut

theorem Moved.stays_open (moved : scheduler.Moved move after) (opened : scheduler.opened = true) :
    after.opened = true := by
  cases moved with
  | advance clock =>
    unfold Scheduler.advance
    split <;> exact opened
  | step stepped => cases stepped <;> exact opened
  | addManaged | replaceManaged =>
    rw [insertJobs_eq]
    exact opened
  | openFor => rfl
  | _ => exact opened

theorem Moved.zone (moved : scheduler.Moved move after) : after.zone = scheduler.zone :=
  congrArg (·.location.zone) moved.settings

/-! What holds at all times. -/

theorem Moved.quiet_or_fire (moved : scheduler.Moved move after) :
    after.fires = scheduler.fires ∨
      ∃ timer ∈ scheduler.timers, ∃ due, timer.phase = .holding due ∧
        scheduler.isCancelled timer = false ∧ after = scheduler.fire timer due := by
  cases moved with
  | step stepped =>
    cases stepped with
    | handOver member phase live => exact Or.inr ⟨_, member, _, phase, live, rfl⟩
    | _ => exact Or.inl rfl
  | advance clock =>
    unfold Scheduler.advance
    split <;> exact Or.inl rfl
  | addManaged | replaceManaged =>
    rw [insertJobs_eq]
    exact Or.inl rfl
  | _ => exact Or.inl rfl

-- A single job is never for a fire; a recurring one asks for a permit only when its fire
-- is due. Nothing gets past the gate before it is opened.
structure Regular (scheduler : Scheduler Body) (timer : Timer Body) : Prop where
  register : timer.cancelled = !timer.registered
  unmanaged : timer.managed = false → timer.firing = .once
  single : timer.firing = .once → timer.phase.due? = none
  reached : ∀ due, timer.phase.asked? = some due → due ≤ scheduler.clock
  silent : timer.phase = .gate → scheduler.firesOf timer.id = []
  closed : scheduler.opened = false → scheduler.isCancelled timer = false → timer.phase = .gate

structure Timely (scheduler : Scheduler Body) (fire : Fire) : Prop where
  numbered : fire.timer < scheduler.nextId
  due : ∀ due, fire.due = some due → due ≤ fire.time
  time : fire.time ≤ scheduler.clock

structure Tidy (scheduler : Scheduler Body) : Prop where
  sound : scheduler.Sound
  timers : ∀ timer ∈ scheduler.timers, scheduler.Regular timer
  fires : ∀ fire ∈ scheduler.fires, scheduler.Timely fire

theorem Turn.still_live (turn : scheduler.Turn timer move (some next) fires)
    (moved : scheduler.Moved move after) (live : after.isCancelled next = false) :
    scheduler.isCancelled timer = false := by
  obtain ⟨uncancelled, running⟩ := Bool.or_eq_false_iff.mp live
  refine Bool.or_eq_false_iff.mpr ⟨?_, eq_false_of_ne_true fun shut => ?_⟩
  · cases turn with
    | drop => cases uncancelled
    | _ => exact uncancelled
  · rw [moved.stays_shut shut] at running
    cases running

theorem Regular.turn (regular : scheduler.Regular timer) (moved : scheduler.Moved move after)
    (turn : scheduler.Turn timer move (some next) fires)
    (listed : after.firesOf timer.id = fires ++ scheduler.firesOf timer.id) :
    after.Regular next := by
  obtain ⟨_, _, managed, firing, _⟩ := turn.keeps_job
  constructor
  · exact turn.register regular.register
  · rw [managed, firing]
    exact regular.unmanaged
  · -- a single job is for no instant: it goes from the gate into the queue and never sleeps
    intro once
    have single := regular.single (firing ▸ once)
    cases turn with
    | stay | drop => exact single
    | passRecurring _ _ recurring => cases recurring.symm.trans (firing ▸ once)
    | wake phase => simp [phase, TimerPhase.due?] at single
    | grant phase =>
      rw [phase] at single
      exact single
    | fire =>
      have once : timer.firing = .once := once
      show (scheduler.phaseAfterFire timer.firing _).due? = none
      rw [once]
      rfl
    | leave | passOnce | abandon => rfl
  · -- what was asked for was due by then, and the clock is not put back
    intro due asked
    refine Int.le_trans ?_ moved.clock_le
    cases turn with
    | stay | drop => exact regular.reached due asked
    | passRecurring =>
      cases (TimerPhase.asked?_of_rests (scheduler.phaseAfter_rests ..)).symm.trans asked
    | wake _ reached =>
      cases asked
      exact reached
    | grant phase => exact regular.reached due (phase ▸ asked)
    | fire =>
      cases (TimerPhase.asked?_of_rests (scheduler.phaseAfterFire_rests ..)).symm.trans asked
    | leave | passOnce | abandon => cases asked
  · intro gate
    cases turn with
    | stay | drop => exact listed.trans (regular.silent gate)
    | passRecurring =>
      exact absurd gate (TimerPhase.ne_gate_of_rests (scheduler.phaseAfter_rests ..))
    | fire => exact absurd gate (TimerPhase.ne_gate_of_rests (scheduler.phaseAfterFire_rests ..))
    | leave | passOnce | wake | grant | abandon => cases gate
  · intro closed live
    have still_closed : scheduler.opened = false :=
      eq_false_of_ne_true fun opened => by simp [moved.stays_open opened] at closed
    have still_live := turn.still_live moved live
    have gate := regular.closed still_closed still_live
    cases turn with
    | stay | drop => exact gate
    | passOnce opened | passRecurring opened => simp [still_closed] at opened
    | leave cancelled | abandon _ cancelled => simp [still_live] at cancelled
    | wake phase | grant phase | fire phase => cases phase.symm.trans gate

theorem Moved.timely (tidy : scheduler.Tidy) (moved : scheduler.Moved move after) {fire : Fire}
    (member : fire ∈ after.fires) : fire.timer < scheduler.nextId ∧ after.Timely fire := by
  have numbered := moved.inherits.numbered
  have old (member : fire ∈ scheduler.fires) :
      fire.timer < scheduler.nextId ∧ after.Timely fire := by
    have timely := tidy.fires fire member
    exact ⟨timely.numbered, Nat.lt_of_lt_of_le timely.numbered numbered, timely.due,
      Int.le_trans timely.time moved.clock_le⟩
  rcases moved.quiet_or_fire with same | ⟨timer, listed, due, phase, _, rfl⟩
  · exact old (same ▸ member)
  · rcases List.mem_cons.mp member with rfl | member
    · have known := tidy.sound.timers_numbered timer listed
      refine ⟨known, Nat.lt_of_lt_of_le known numbered, ?_, moved.clock_le⟩
      intro instant same
      refine (tidy.timers timer listed).reached instant ?_
      rw [phase]
      exact same
    · exact old member

theorem Regular.of_added (tidy : scheduler.Tidy) (moved : scheduler.Moved move after)
    (new : timer ∈ scheduler.added move) : after.Regular timer := by
  obtain ⟨fresh, numbered⟩ := fresh_of_mem_added new
  constructor
  · rw [fresh.registered, fresh.cancelled]
    rfl
  · intro unmanaged
    cases move with
    | addManaged jobs | replaceManaged jobs =>
      rw [(fresh_of_mem_timersFor new).2] at unmanaged
      cases unmanaged
    | addOneShot => rw [List.mem_singleton.mp new]
    | _ => cases new
  · rw [fresh.phase]
    exact fun _ => rfl
  · rw [fresh.phase]
    nofun
  · intro _
    refine List.filter_eq_nil_iff.mpr fun fire member same => ?_
    have before := (moved.timely tidy member).1
    have same := of_decide_eq_true same
    omega
  · exact fun _ _ => fresh.phase

theorem Moved.tidy (tidy : scheduler.Tidy) (moved : scheduler.Moved move after) : after.Tidy where
  sound := tidy.sound.move moved
  timers timer member := by
    rcases moved.origin tidy.sound member with ⟨old, known, same, fires, turn, listed⟩ | new
    · exact (tidy.timers old known).turn moved turn (same ▸ listed)
    · exact .of_added tidy moved new
  fires fire member := (moved.timely tidy member).2

theorem isRunning_iff :
    scheduler.isRunning = true ↔ scheduler.opened = true ∧ scheduler.shut = false := by
  simp [isRunning]

theorem Tidy.uncancelled (tidy : scheduler.Tidy) (member : timer ∈ scheduler.managed) :
    timer.cancelled = false := by
  obtain ⟨known, registered, _⟩ := mem_managed.mp member
  rw [(tidy.timers timer known).register, registered]
  rfl

theorem Tidy.live (tidy : scheduler.Tidy) (member : timer ∈ scheduler.managed)
    (running : scheduler.shut = false) : scheduler.isCancelled timer = false :=
  Bool.or_eq_false_iff.mpr ⟨tidy.uncancelled member, running⟩

/-! Runs, move by move. -/

theorem Run.tidy {moves : List (SchedulerMove Body)} (run : Run scheduler moves after)
    (tidy : scheduler.Tidy) : after.Tidy :=
  run.keeps (fun tidy _ moved => (move?_moved moved).tidy tidy) tidy

theorem start_tidy (settings : SchedulerSettings) (clock : Instant) :
    (start settings clock : Scheduler Body).Tidy where
  sound := start_sound settings clock
  timers _ member := absurd member List.not_mem_nil
  fires _ member := absurd member List.not_mem_nil

theorem Reachable.tidy {settings : SchedulerSettings} {clock : Instant}
    (reachable : Reachable settings clock scheduler) : scheduler.Tidy := by
  obtain ⟨moves, run⟩ := reachable
  exact run.tidy (start_tidy settings clock)

theorem Run.keeps_tidy {kept : Scheduler Body → Prop} {moves : List (SchedulerMove Body)}
    (run : Run scheduler moves after) (tidy : scheduler.Tidy)
    (step : ∀ {before next : Scheduler Body} {move : SchedulerMove Body}, before.Tidy →
      move ∈ moves → before.Moved move next → kept before → kept next)
    (first : kept scheduler) : kept after := by
  have both : after.Tidy ∧ kept after := by
    apply run.keeps
    · rintro before next move ⟨tidy, so_far⟩ member moved
      have moved := move?_moved moved
      exact ⟨moved.tidy tidy, step tidy member moved so_far⟩
    · exact ⟨tidy, first⟩
  exact both.2

theorem Run.trans {middle : Scheduler Body} {earlier later : List (SchedulerMove Body)}
    (first : Run scheduler earlier middle) (second : Run middle later after) :
    Run scheduler (earlier ++ later) after := by
  induction first with
  | done => exact second
  | next moved _ ih => exact .next moved (ih second)

theorem Run.split {earlier later : List (SchedulerMove Body)}
    (run : Run scheduler (earlier ++ later) after) {middle : Scheduler Body}
    (first : Run scheduler earlier middle) : Run middle later after := by
  induction first with
  | done => exact run
  | next moved _ ih =>
    cases run with
    | next moved' rest =>
      -- a move leads to one state only
      cases moved.symm.trans moved'
      exact ih rest

theorem Run.clock_le {moves : List (SchedulerMove Body)} (run : Run scheduler moves after) :
    scheduler.clock ≤ after.clock := by
  induction run with
  | done => exact Int.le_refl _
  | next moved _ ih => exact Int.le_trans (move?_moved moved).clock_le ih

theorem Run.stays_shut {moves : List (SchedulerMove Body)} (run : Run scheduler moves after)
    (shut : scheduler.shut = true) : after.shut = true :=
  run.keeps (fun shut _ moved => (move?_moved moved).stays_shut shut) shut

/-- A run from `scheduler` makes a move when it has come to `middle`. -/
def MadeFrom (scheduler : Scheduler Body) (moves : List (SchedulerMove Body))
    (middle : Scheduler Body) (move : SchedulerMove Body) : Prop :=
  ∃ earlier later, moves = earlier ++ move :: later ∧ Run scheduler earlier middle

theorem MadeFrom.mem {moves : List (SchedulerMove Body)} {middle : Scheduler Body}
    (made : scheduler.MadeFrom moves middle move) : move ∈ moves := by
  obtain ⟨earlier, later, rfl, _⟩ := made
  exact List.mem_append_right _ (List.mem_cons_self ..)

/-- What is kept by every move at the point where the run makes it, is kept by the run. -/
theorem Run.keeps_along {kept : Scheduler Body → Prop} {moves : List (SchedulerMove Body)}
    (run : Run scheduler moves after)
    (step : ∀ {middle next : Scheduler Body} {move : SchedulerMove Body}
      {rest : List (SchedulerMove Body)}, scheduler.MadeFrom moves middle move →
      middle.Moved move next → Run next rest after → kept middle → kept next)
    (first : kept scheduler) : kept after := by
  -- the moves that lead to a point are part of the moves in question
  have onwards (earlier : List (SchedulerMove Body)) {middle : Scheduler Body}
      {later : List (SchedulerMove Body)} (split : moves = earlier ++ later)
      (before : Run scheduler earlier middle) (rest : Run middle later after)
      (so_far : kept middle) : kept after := by
    induction rest generalizing earlier with
    | done => exact so_far
    | @next middle next after move later moved rest ih =>
      have taken := move?_moved moved
      refine ih run step (earlier ++ [move]) ?_ ?_ ?_
      · rw [split, List.append_assoc, List.singleton_append]
      · exact before.trans (.next moved .done)
      · exact step ⟨earlier, later, split, before⟩ taken rest so_far
  exact onwards [] rfl .done run first

end Scheduler

end PowerRota
