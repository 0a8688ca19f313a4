import Mathlib.Data.List.Nodup
import PowerRota.Proofs.Scheduler.Register

/-! The books of a scheduler: ids and permits.

Every timer and every execution has an id of its own, and every permit is accounted
for: it is free, or with a timer that has not handed it over, or with an execution. -/

set_option autoImplicit false

namespace PowerRota

open PowerRota.Calendar

theorem length_filter_ne {Entry : Type} {idOf : Entry → Nat} {entries : List Entry}
    (unique : (entries.map idOf).Nodup) {entry : Entry} (member : entry ∈ entries) :
    (entries.filter (idOf · ≠ idOf entry)).length + 1 = entries.length := by
  -- leaving out the entry of an id erases that id, once, from the list of ids
  have erased : (entries.filter (idOf · ≠ idOf entry)).map idOf =
      (entries.map idOf).erase (idOf entry) := by
    rw [unique.erase_eq_filter, List.filter_map]
    congr 1
    apply List.filter_congr
    intro other _
    simp [bne, beq_eq_decide]
  have lengths := congrArg List.length erased
  have listed : idOf entry ∈ entries.map idOf := List.mem_map_of_mem member
  rw [List.length_map, List.length_erase_of_mem listed, List.length_map] at lengths
  have positive := List.length_pos_of_mem member
  omega

theorem countP_change {Entry : Type} (idOf : Entry → Nat) {entries : List Entry}
    (unique : (entries.map idOf).Nodup) {entry : Entry} (member : entry ∈ entries)
    (change : Entry → Entry) (counts : Entry → Bool) :
    (entries.map fun other => if idOf other = idOf entry then change other else other).countP
        counts + (counts entry).toNat =
      entries.countP counts + (counts (change entry)).toNat := by
  induction entries with
  | nil => cases member
  | cons head rest ih =>
    obtain ⟨absent, unique⟩ := List.nodup_cons.mp unique
    rcases List.mem_cons.mp member with rfl | later
    · -- no entry of the rest has the id, so the rest stays as it is
      have kept : (rest.map fun other =>
          if idOf other = idOf entry then change other else other) = rest := by
        refine (List.map_congr_left fun other listed => if_neg ?_).trans (List.map_id' rest)
        intro same
        exact absent (same ▸ List.mem_map_of_mem listed)
      simp only [List.map_cons, if_true, List.countP_cons, kept]
      cases counts entry <;> cases counts (change entry) <;> simp
    · have other : idOf head ≠ idOf entry := by
        intro same
        exact absent (same ▸ List.mem_map_of_mem later)
      simp only [List.map_cons, if_neg other, List.countP_cons]
      have rest_count := ih unique later
      omega

theorem TimerPhase.holdsPermit_of_waits {phase : TimerPhase} (waits : phase.waits = true) :
    phase.holdsPermit = false := by
  cases phase with
  | holding due => cases waits
  | _ => rfl

/-- The phases that a timer enters with a fire, or at the gate if its job is recurring. -/
def TimerPhase.rests : TimerPhase → Bool
  | .asleep _ | .finished => true
  | .gate | .queued _ | .holding _ => false

theorem TimerPhase.holdsPermit_of_rests {phase : TimerPhase} (rests : phase.rests = true) :
    phase.holdsPermit = false := by
  cases phase with
  | holding due => cases rests
  | _ => rfl

namespace Scheduler

variable {Body : Type} {scheduler after : Scheduler Body}

def heldPermits (scheduler : Scheduler Body) : Nat :=
  scheduler.timers.countP (·.phase.holdsPermit)

structure Sound (scheduler : Scheduler Body) : Prop where
  timers_unique : (scheduler.timers.map (·.id)).Nodup
  timers_numbered : ∀ timer ∈ scheduler.timers, timer.id < scheduler.nextId
  executions_unique : (scheduler.executions.map (·.id)).Nodup
  executions_numbered : ∀ execution ∈ scheduler.executions, execution.id < scheduler.nextId
  permits : scheduler.free + scheduler.heldPermits + scheduler.executions.length =
    limit scheduler.settings

theorem start_sound (settings : SchedulerSettings) (clock : Instant) :
    (start settings clock : Scheduler Body).Sound := by
  refine ⟨List.nodup_nil, ?_, List.nodup_nil, ?_, ?_⟩
  · intro timer member
    cases member
  · intro execution member
    cases member
  · simp [start, heldPermits]

theorem updateTimer_ids (id : Nat) {change : Timer Body → Timer Body}
    (keeps : ∀ timer, (change timer).id = timer.id) :
    (scheduler.updateTimer id change).timers.map (·.id) = scheduler.timers.map (·.id) := by
  simp only [updateTimer, List.map_map]
  apply List.map_congr_left
  intro timer _
  simp only [Function.comp]
  split
  · exact keeps timer
  · rfl

theorem mem_updateTimer {id : Nat} {change : Timer Body → Timer Body} {timer : Timer Body}
    (member : timer ∈ (scheduler.updateTimer id change).timers) :
    ∃ old ∈ scheduler.timers, timer = if old.id = id then change old else old := by
  obtain ⟨old, listed, same⟩ := List.mem_map.mp member
  exact ⟨old, listed, same.symm⟩

theorem heldPermits_updateTimer (sound : scheduler.Sound) {timer : Timer Body}
    (member : timer ∈ scheduler.timers) (change : Timer Body → Timer Body) :
    (scheduler.updateTimer timer.id change).heldPermits + timer.phase.holdsPermit.toNat =
      scheduler.heldPermits + (change timer).phase.holdsPermit.toNat :=
  countP_change Timer.id sound.timers_unique member change (·.phase.holdsPermit)

theorem changed_mem {timer : Timer Body} (member : timer ∈ scheduler.timers)
    (change : Timer Body → Timer Body) :
    change timer ∈ (scheduler.updateTimer timer.id change).timers :=
  List.mem_map.mpr ⟨timer, member, if_pos rfl⟩

theorem Sound.change (sound : scheduler.Sound) {timer : Timer Body}
    (member : timer ∈ scheduler.timers) (change : Timer Body → Timer Body)
    (keeps : ∀ timer, (change timer).id = timer.id)
    (timers : after.timers = (scheduler.updateTimer timer.id change).timers)
    (executions : after.executions = scheduler.executions)
    (numbered : after.nextId = scheduler.nextId) (settings : after.settings = scheduler.settings)
    (balanced : after.free + (change timer).phase.holdsPermit.toNat =
      scheduler.free + timer.phase.holdsPermit.toNat) : after.Sound := by
  -- ids stay as they are, so only the sum of the permits is in question
  constructor
  · rw [timers, updateTimer_ids timer.id keeps]
    exact sound.timers_unique
  · intro other listed
    rw [timers] at listed
    obtain ⟨old, known, rfl⟩ := mem_updateTimer listed
    have bound := sound.timers_numbered old known
    rw [numbered]
    split
    · rw [keeps old]
      exact bound
    · exact bound
  · rw [executions]
    exact sound.executions_unique
  · rw [executions, numbered]
    exact sound.executions_numbered
  · have held : after.heldPermits = (scheduler.updateTimer timer.id change).heldPermits := by
      unfold heldPermits
      rw [timers]
    have counted := heldPermits_updateTimer sound member change
    have permits := sound.permits
    rw [held, executions, settings]
    omega

theorem Sound.noteOpening (sound : scheduler.Sound) {timer : Timer Body}
    (member : timer ∈ scheduler.timers) : (scheduler.noteOpening timer.id).Sound :=
  sound.change member (fun timer => { timer with opened := some scheduler.clock })
    (fun _ => rfl) rfl rfl rfl rfl rfl

theorem Sound.rephase (sound : scheduler.Sound) {timer : Timer Body}
    (member : timer ∈ scheduler.timers) (phase : TimerPhase)
    (timers : after.timers = (scheduler.setPhase timer.id phase).timers)
    (executions : after.executions = scheduler.executions)
    (numbered : after.nextId = scheduler.nextId) (settings : after.settings = scheduler.settings)
    (balanced : after.free + phase.holdsPermit.toNat =
      scheduler.free + timer.phase.holdsPermit.toNat) : after.Sound :=
  sound.change member (fun timer => { timer with phase := phase }) (fun _ => rfl) timers
    executions numbered settings balanced

theorem phaseAfter_rests (scheduler : Scheduler Body) (rule : FiringRule) (last : Instant) :
    (scheduler.phaseAfter rule last).rests = true := by
  unfold phaseAfter
  split <;> rfl

theorem phaseAfterFire_rests (scheduler : Scheduler Body) (firing : Firing) (due : Option Instant) :
    (scheduler.phaseAfterFire firing due).rests = true := by
  unfold phaseAfterFire
  split
  · exact phaseAfter_rests ..
  · rfl

theorem Sound.spawn (sound : scheduler.Sound) (execution : Execution Body)
    (named : execution.id = scheduler.nextId) (timers : after.timers = scheduler.timers)
    (executions : after.executions = scheduler.executions ++ [execution])
    (numbered : after.nextId = scheduler.nextId + 1)
    (settings : after.settings = scheduler.settings) (permit : after.free + 1 = scheduler.free) :
    after.Sound := by
  constructor
  · rw [timers]
    exact sound.timers_unique
  · rw [timers, numbered]
    intro timer member
    exact Nat.lt_succ_of_lt (sound.timers_numbered timer member)
  · -- the new number is above all that were given out
    rw [executions, List.map_append, List.map_singleton]
    refine List.nodup_append'.mpr ⟨sound.executions_unique, List.nodup_singleton _, ?_⟩
    intro id listed last
    obtain ⟨other, member, rfl⟩ := List.mem_map.mp listed
    have same := List.mem_singleton.mp last
    have bound := sound.executions_numbered other member
    omega
  · rw [executions, numbered]
    intro other member
    rcases List.mem_append.mp member with member | last
    · exact Nat.lt_succ_of_lt (sound.executions_numbered other member)
    · rw [List.mem_singleton.mp last, named]
      exact Nat.lt_succ_self _
  · have held : after.heldPermits = scheduler.heldPermits := by
      unfold heldPermits
      rw [timers]
    have permits := sound.permits
    rw [held, executions, settings, List.length_append, List.length_singleton]
    omega

theorem Sound.fire (sound : scheduler.Sound) {timer : Timer Body} {due : Option Instant}
    (member : timer ∈ scheduler.timers) (phase : timer.phase = .holding due) :
    (scheduler.fire timer due).Sound := by
  let after := scheduler.phaseAfterFire timer.firing due
  -- the timer gives the permit up, and the execution takes it
  have released : ({ scheduler.setPhase timer.id after with free := scheduler.free + 1 } :
      Scheduler Body).Sound := by
    refine sound.rephase member after rfl rfl rfl rfl ?_
    rw [TimerPhase.holdsPermit_of_rests (phaseAfterFire_rests ..), phase]
    rfl
  exact released.spawn ⟨scheduler.nextId, timer.id, timer.name, due, timer.body⟩ rfl rfl rfl rfl rfl
    rfl

theorem Sound.retire (sound : scheduler.Sound) {timer : Timer Body}
    (member : timer ∈ scheduler.timers) (phase : timer.phase = .finished) :
    ({ scheduler with timers := scheduler.timers.filter (·.id ≠ timer.id) } :
      Scheduler Body).Sound := by
  have sublist : (scheduler.timers.filter (·.id ≠ timer.id)).Sublist scheduler.timers :=
    List.filter_sublist
  constructor
  · exact sound.timers_unique.sublist (sublist.map _)
  · intro other listed
    exact sound.timers_numbered other (sublist.subset listed)
  · exact sound.executions_unique
  · exact sound.executions_numbered
  · -- the timer that goes is finished, so it holds no permit
    have held : (scheduler.timers.filter (·.id ≠ timer.id)).countP (·.phase.holdsPermit) =
        scheduler.heldPermits := by
      rw [List.countP_filter]
      apply List.countP_congr
      intro other listed
      constructor
      · intro both
        exact (Bool.and_eq_true_iff.mp both).1
      · intro holds
        refine Bool.and_eq_true_iff.mpr ⟨holds, decide_eq_true ?_⟩
        intro same
        obtain rfl := List.inj_on_of_nodup_map sound.timers_unique listed member same
        simp [phase, TimerPhase.holdsPermit] at holds
    show scheduler.free + (scheduler.timers.filter (·.id ≠ timer.id)).countP (·.phase.holdsPermit) +
      scheduler.executions.length = limit scheduler.settings
    rw [held]
    exact sound.permits

theorem Sound.finish (sound : scheduler.Sound) {execution : Execution Body}
    (member : execution ∈ scheduler.executions) :
    ({ scheduler with
        executions := scheduler.executions.filter (·.id ≠ execution.id)
        free := scheduler.free + 1 } : Scheduler Body).Sound := by
  have sublist : (scheduler.executions.filter (·.id ≠ execution.id)).Sublist scheduler.executions :=
    List.filter_sublist
  constructor
  · exact sound.timers_unique
  · exact sound.timers_numbered
  · exact sound.executions_unique.sublist (sublist.map _)
  · intro other listed
    exact sound.executions_numbered other (sublist.subset listed)
  · have fewer := length_filter_ne sound.executions_unique member
    have permits := sound.permits
    show scheduler.free + 1 + scheduler.heldPermits +
      (scheduler.executions.filter (·.id ≠ execution.id)).length = limit scheduler.settings
    omega

theorem Sound.register (sound : scheduler.Sound) (added : List (Timer Body))
    (named : added.map (·.id) = List.range' scheduler.nextId added.length)
    (fresh : ∀ timer ∈ added, timer.Fresh) :
    ({ scheduler with
        timers := scheduler.timers ++ added
        nextId := scheduler.nextId + added.length } : Scheduler Body).Sound := by
  have bounds {timer : Timer Body} (member : timer ∈ added) :
      scheduler.nextId ≤ timer.id ∧ timer.id < scheduler.nextId + added.length := by
    apply List.mem_range'_1.mp
    rw [← named]
    exact List.mem_map_of_mem member
  constructor
  · rw [List.map_append]
    -- ids given out before are below the next one, and the new ones are not
    refine List.nodup_append'.mpr ⟨sound.timers_unique, named ▸ List.nodup_range', ?_⟩
    intro id listed new
    obtain ⟨timer, member, rfl⟩ := List.mem_map.mp listed
    obtain ⟨other, member', same⟩ := List.mem_map.mp new
    have old := sound.timers_numbered timer member
    have later := (bounds member').1
    omega
  · intro timer member
    rcases List.mem_append.mp member with member | new
    · exact Nat.lt_of_lt_of_le (sound.timers_numbered timer member) (Nat.le_add_right ..)
    · exact (bounds new).2
  · exact sound.executions_unique
  · intro execution member
    exact Nat.lt_of_lt_of_le (sound.executions_numbered execution member) (Nat.le_add_right ..)
  · have none_held : added.countP (·.phase.holdsPermit) = 0 := by
      apply List.countP_eq_zero.mpr
      intro timer member
      rw [(fresh timer member).phase]
      exact Bool.false_ne_true
    have held : (scheduler.timers ++ added).countP (·.phase.holdsPermit) =
        scheduler.heldPermits := by
      rw [List.countP_append, none_held, Nat.add_zero, heldPermits]
    show scheduler.free + (scheduler.timers ++ added).countP (·.phase.holdsPermit) +
      scheduler.executions.length = limit scheduler.settings
    rw [held]
    exact sound.permits

theorem Sound.insertJobs (sound : scheduler.Sound) (jobs : List (Job Body)) :
    (scheduler.insertJobs jobs).Sound := by
  have count : (timersFor scheduler.nextId jobs).length = jobs.length := by
    rw [← List.length_map (·.id), timersFor_ids, List.length_range']
  rw [insertJobs_eq, ← count]
  apply sound.register (timersFor scheduler.nextId jobs)
  · rw [timersFor_ids, count]
  · intro timer member
    exact (fresh_of_mem_timersFor member).1

theorem Sound.insert (sound : scheduler.Sound) (name : String) (managed : Bool) (firing : Firing)
    (body : Body) : (scheduler.insert name managed firing body).Sound := by
  apply sound.register [_] rfl
  intro timer member
  rw [List.mem_singleton.mp member]
  exact ⟨rfl, rfl, rfl, rfl⟩

theorem Sound.dropManaged (sound : scheduler.Sound) : scheduler.dropManaged.Sound := by
  have same_ids : scheduler.dropManaged.timers.map (·.id) = scheduler.timers.map (·.id) := by
    simp only [Scheduler.dropManaged, List.map_map]
    apply List.map_congr_left
    intro timer _
    simp only [Function.comp]
    split <;> rfl
  have same_permits : scheduler.dropManaged.heldPermits = scheduler.heldPermits := by
    simp only [heldPermits, Scheduler.dropManaged, List.countP_map]
    apply List.countP_congr
    intro timer _
    simp only [Function.comp]
    split <;> rfl
  constructor
  · rw [same_ids]
    exact sound.timers_unique
  · intro timer member
    have listed : timer.id ∈ scheduler.dropManaged.timers.map (·.id) := List.mem_map_of_mem member
    rw [same_ids] at listed
    obtain ⟨old, known, same⟩ := List.mem_map.mp listed
    exact same ▸ sound.timers_numbered old known
  · exact sound.executions_unique
  · exact sound.executions_numbered
  · rw [same_permits]
    exact sound.permits

theorem Sound.step {event : SchedulerEvent} (sound : scheduler.Sound)
    (stepped : scheduler.Step event after) : after.Sound := by
  cases stepped with
  | leave member cancelled waits =>
    refine sound.rephase member .finished rfl rfl rfl rfl ?_
    rw [TimerPhase.holdsPermit_of_waits waits]
    rfl
  | passOnce member opened phase firing =>
    have noted := sound.noteOpening member
    refine noted.rephase (changed_mem member _) (.queued none) rfl rfl rfl rfl ?_
    rw [phase]
    rfl
  | passRecurring member opened phase firing =>
    have noted := sound.noteOpening member
    refine noted.rephase (changed_mem member _) _ rfl rfl rfl rfl ?_
    rw [phase, TimerPhase.holdsPermit_of_rests (phaseAfter_rests ..)]
    rfl
  | wake member phase reached =>
    refine sound.rephase member (.queued _) rfl rfl rfl rfl ?_
    rw [phase]
    rfl
  | grant member first free phase =>
    refine sound.rephase member (.holding _) rfl rfl rfl rfl ?_
    rw [phase]
    exact Nat.sub_add_cancel free
  | handOver member phase live => exact sound.fire member phase
  | abandon member phase cancelled =>
    refine sound.rephase member .finished rfl rfl rfl rfl ?_
    rw [phase]
    rfl
  | retire member phase => exact sound.retire member phase
  | finish member => exact sound.finish member
  -- calls of the scheduler have no part in the books
  | cancel member => exact ⟨sound.1, sound.2, sound.3, sound.4, sound.5⟩
  | windDown member stage asked => exact ⟨sound.1, sound.2, sound.3, sound.4, sound.5⟩
  | «return» member stage drained => exact ⟨sound.1, sound.2, sound.3, sound.4, sound.5⟩

theorem Sound.move {move : SchedulerMove Body} (sound : scheduler.Sound)
    (moved : scheduler.Moved move after) : after.Sound := by
  cases moved with
  | advance clock =>
    unfold advance
    split
    · exact ⟨sound.1, sound.2, sound.3, sound.4, sound.5⟩
    · exact sound
  | addManaged accepted => exact sound.insertJobs _
  | addOneShot accepted => exact sound.insert ..
  | replaceManaged accepted => exact sound.dropManaged.insertJobs _
  | openFor accepted =>
    refine ⟨sound.1, fun timer member => ?_, sound.3, fun execution member => ?_, sound.5⟩
    · exact Nat.lt_succ_of_lt (sound.timers_numbered timer member)
    · exact Nat.lt_succ_of_lt (sound.executions_numbered execution member)
  | stop => exact ⟨sound.1, sound.2, sound.3, sound.4, sound.5⟩
  | step stepped => exact sound.step stepped

theorem Run.sound {moves : List (SchedulerMove Body)} (run : Run scheduler moves after)
    (sound : scheduler.Sound) : after.Sound :=
  run.keeps (fun sound _ moved => sound.move (move?_moved moved)) sound

theorem Reachable.sound {settings : SchedulerSettings} {clock : Instant}
    (reachable : Reachable settings clock scheduler) : scheduler.Sound := by
  obtain ⟨moves, run⟩ := reachable
  exact run.sound (start_sound settings clock)

end Scheduler

end PowerRota
