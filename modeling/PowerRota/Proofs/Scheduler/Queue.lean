import PowerRota.Proofs.Scheduler.Onward

/-! The queue for permits holds the timers that wait for one, each once.

So a free permit goes to the first in the queue: where it can go to nobody, nobody waits. -/

set_option autoImplicit false

namespace PowerRota

open PowerRota.Calendar

def TimerPhase.isQueued : TimerPhase → Bool
  | .queued _ => true
  | _ => false

theorem TimerPhase.isQueued_of_rests {phase : TimerPhase} (rests : phase.rests = true) :
    phase.isQueued = false := by
  cases phase with
  | queued due => cases rests
  | _ => rfl

namespace Scheduler

variable {Body : Type} {scheduler after : Scheduler Body} {timer : Timer Body}

structure Lined (scheduler : Scheduler Body) : Prop where
  unique : scheduler.queue.Nodup
  known : ∀ id ∈ scheduler.queue, id ∈ scheduler.timers.map (·.id)
  waits : ∀ timer ∈ scheduler.timers,
    (timer.id ∈ scheduler.queue ↔ timer.phase.isQueued = true)

theorem Lined.not_mem (lined : scheduler.Lined) (member : timer ∈ scheduler.timers)
    (apart : timer.phase.isQueued = false) : timer.id ∉ scheduler.queue := by
  rw [lined.waits timer member, apart]
  exact Bool.false_ne_true

theorem Lined.change (lined : scheduler.Lined) (sound : scheduler.Sound)
    (member : timer ∈ scheduler.timers) (change : Timer Body → Timer Body)
    (keeps : ∀ timer, (change timer).id = timer.id)
    (timers : after.timers = (scheduler.updateTimer timer.id change).timers)
    (unique : after.queue.Nodup)
    (others : ∀ id, id ≠ timer.id → (id ∈ after.queue ↔ id ∈ scheduler.queue))
    (own : timer.id ∈ after.queue ↔ (change timer).phase.isQueued = true) : after.Lined := by
  have ids : after.timers.map (·.id) = scheduler.timers.map (·.id) := by
    rw [timers]
    exact updateTimer_ids timer.id keeps
  constructor
  · exact unique
  · intro id listed
    rw [ids]
    by_cases same : id = timer.id
    · exact same ▸ List.mem_map_of_mem member
    · exact lined.known id ((others id same).mp listed)
  · intro other listed
    rw [timers] at listed
    obtain ⟨old, known, rfl⟩ := mem_updateTimer listed
    split
    next same =>
      obtain rfl := List.inj_on_of_nodup_map sound.timers_unique known member same
      rw [keeps old]
      exact own
    next same => exact (others old.id same).trans (lined.waits old known)

theorem Lined.enqueue (lined : scheduler.Lined) (sound : scheduler.Sound)
    (member : timer ∈ scheduler.timers) (apart : timer.phase.isQueued = false)
    (change : Timer Body → Timer Body) (keeps : ∀ timer, (change timer).id = timer.id)
    (timers : after.timers = (scheduler.updateTimer timer.id change).timers)
    (queue : after.queue = scheduler.queue ++ [timer.id])
    (queued : (change timer).phase.isQueued = true) : after.Lined := by
  refine lined.change sound member change keeps timers ?_ ?_ ?_
  · rw [queue]
    refine List.nodup_append'.mpr ⟨lined.unique, List.nodup_singleton _, ?_⟩
    exact List.disjoint_singleton.mpr (lined.not_mem member apart)
  · intro id other
    rw [queue, List.mem_append, List.mem_singleton, or_iff_left other]
  · rw [queue, queued]
    exact iff_of_true (List.mem_append_right _ (List.mem_singleton_self _)) rfl

theorem Lined.aside (lined : scheduler.Lined) (sound : scheduler.Sound)
    (member : timer ∈ scheduler.timers) (apart : timer.phase.isQueued = false)
    (change : Timer Body → Timer Body) (keeps : ∀ timer, (change timer).id = timer.id)
    (timers : after.timers = (scheduler.updateTimer timer.id change).timers)
    (queue : after.queue = scheduler.queue) (stays : (change timer).phase.isQueued = false) :
    after.Lined := by
  refine lined.change sound member change keeps timers (queue ▸ lined.unique) ?_ ?_
  · exact fun id _ => queue ▸ Iff.rfl
  · rw [queue, stays]
    exact iff_of_false (lined.not_mem member apart) Bool.false_ne_true

theorem Lined.same (lined : scheduler.Lined) (timers : after.timers = scheduler.timers)
    (queue : after.queue = scheduler.queue) : after.Lined := by
  obtain ⟨unique, known, waits⟩ := lined
  constructor <;> rw [queue]
  · exact unique
  · rw [timers]
    exact known
  · rw [timers]
    exact waits

theorem Lined.step {event : SchedulerEvent} (lined : scheduler.Lined) (sound : scheduler.Sound)
    (stepped : scheduler.Step event after) : after.Lined := by
  cases stepped with
  | leave member cancelled waits =>
    refine lined.change sound member (fun timer => { timer with phase := .finished })
      (fun _ => rfl) rfl (lined.unique.filter _) ?_ ?_
    · intro id other
      show id ∈ scheduler.queue.filter _ ↔ _
      simp [other]
    · show _ ∈ scheduler.queue.filter _ ↔ _
      simp [TimerPhase.isQueued]
  | passOnce member opened phase firing =>
    exact lined.enqueue sound member (by rw [phase]; rfl)
      (fun timer => { timer with opened := some scheduler.clock, phase := .queued none })
      (fun _ => rfl) (timers_updateTimer_twice _ fun _ => rfl) rfl rfl
  | passRecurring member opened phase firing =>
    exact lined.aside sound member (by rw [phase]; rfl)
      (fun timer => { timer with
        opened := some scheduler.clock, phase := scheduler.phaseAfter _ scheduler.clock })
      (fun _ => rfl) (timers_updateTimer_twice _ fun _ => rfl) rfl
      (TimerPhase.isQueued_of_rests (phaseAfter_rests ..))
  | wake member phase reached =>
    exact lined.enqueue sound member (by rw [phase]; rfl)
      (fun timer => { timer with phase := .queued (some _) }) (fun _ => rfl) rfl rfl rfl
  | @grant timer due rest member first free phase =>
    -- the first in the queue leaves it, and is in it once
    obtain ⟨absent, unique⟩ := List.nodup_cons.mp (first ▸ lined.unique)
    refine lined.change sound member (fun timer => { timer with phase := .holding due })
      (fun _ => rfl) rfl unique ?_ ?_
    · intro id other
      rw [first, List.mem_cons, or_iff_right other]
    · exact iff_of_false absent Bool.false_ne_true
  | @handOver timer due member phase live =>
    exact lined.aside sound member (by rw [phase]; rfl)
      (fun other => { other with phase := scheduler.phaseAfterFire timer.firing due })
      (fun _ => rfl) rfl rfl (TimerPhase.isQueued_of_rests (phaseAfterFire_rests ..))
  | abandon member phase cancelled =>
    exact lined.aside sound member (by rw [phase]; rfl)
      (fun timer => { timer with phase := .finished }) (fun _ => rfl) rfl rfl rfl
  | @retire timer member phase =>
    have absent := lined.not_mem member (by rw [phase]; rfl)
    refine ⟨lined.unique, fun id listed => ?_, fun other listed => ?_⟩
    · obtain ⟨other, known, rfl⟩ := List.mem_map.mp (lined.known id listed)
      refine List.mem_map_of_mem (List.mem_filter.mpr ⟨known, decide_eq_true ?_⟩)
      exact fun same => absent (same ▸ listed)
    · exact lined.waits other (List.mem_filter.mp listed).1
  | finish | cancel | windDown | «return» => exact lined.same rfl rfl

theorem Lined.register (lined : scheduler.Lined) (sound : scheduler.Sound)
    {added : List (Timer Body)} (timers : after.timers = scheduler.timers ++ added)
    (queue : after.queue = scheduler.queue)
    (fresh : ∀ timer ∈ added, timer.Fresh ∧ scheduler.nextId ≤ timer.id) : after.Lined := by
  constructor
  · exact queue ▸ lined.unique
  · intro id listed
    rw [timers, List.map_append]
    exact List.mem_append_left _ (lined.known id (queue ▸ listed))
  · intro timer listed
    rw [queue]
    rcases List.mem_append.mp (timers ▸ listed) with old | new
    · exact lined.waits timer old
    · obtain ⟨fresh, later⟩ := fresh timer new
      -- the queue holds ids of timers that were there before
      rw [fresh.phase]
      refine iff_of_false (fun waiting => ?_) Bool.false_ne_true
      obtain ⟨other, known, same⟩ := List.mem_map.mp (lined.known timer.id waiting)
      have numbered := sound.timers_numbered other known
      omega

theorem Lined.dropManaged (lined : scheduler.Lined) : scheduler.dropManaged.Lined := by
  constructor
  · exact lined.unique
  · intro id listed
    obtain ⟨timer, known, rfl⟩ := List.mem_map.mp (lined.known id listed)
    refine List.mem_map.mpr ⟨_, List.mem_map_of_mem known, ?_⟩
    split <;> rfl
  · intro timer listed
    obtain ⟨old, known, rfl⟩ := mem_dropManaged listed
    have waits := lined.waits old known
    split <;> exact waits

theorem Moved.lined {move : SchedulerMove Body} (moved : scheduler.Moved move after)
    (sound : scheduler.Sound) (lined : scheduler.Lined) : after.Lined := by
  have new {jobs : List (Job Body)} (timer : Timer Body)
      (listed : timer ∈ timersFor scheduler.nextId jobs) :
      timer.Fresh ∧ scheduler.nextId ≤ timer.id :=
    ⟨(fresh_of_mem_timersFor listed).1, (id_bounds_of_mem_timersFor listed).1⟩
  cases moved with
  | advance clock =>
    unfold Scheduler.advance
    split <;> exact lined.same rfl rfl
  | addManaged accepted =>
    rw [insertJobs_eq]
    exact lined.register sound rfl rfl new
  | addOneShot accepted =>
    refine lined.register sound rfl rfl fun timer listed => ?_
    rw [List.mem_singleton.mp listed]
    exact ⟨⟨rfl, rfl, rfl, rfl⟩, Nat.le_refl _⟩
  | replaceManaged accepted =>
    rw [insertJobs_eq]
    exact lined.dropManaged.register sound.dropManaged rfl rfl new
  | openFor | stop => exact lined.same rfl rfl
  | step stepped => exact lined.step sound stepped

theorem Reachable.lined {settings : SchedulerSettings} {clock : Instant}
    (reachable : Reachable settings clock scheduler) : scheduler.Lined := by
  obtain ⟨moves, run⟩ := reachable
  apply run.keeps_tidy (start_tidy settings clock)
  · exact fun tidy _ moved lined => moved.lined tidy.sound lined
  · refine ⟨List.nodup_nil, ?_, ?_⟩
    · exact fun id listed => absurd listed List.not_mem_nil
    · exact fun timer member => absurd member List.not_mem_nil

theorem Lined.queue_eq_nil (lined : scheduler.Lined) (free : 0 < scheduler.free)
    (still : ∀ timer ∈ scheduler.timers, scheduler.nextEvent? timer = none) :
    scheduler.queue = [] := by
  cases queue : scheduler.queue with
  | nil => rfl
  | cons id rest =>
    have listed : id ∈ scheduler.queue := queue ▸ List.mem_cons_self ..
    obtain ⟨timer, member, rfl⟩ := List.mem_map.mp (lined.known id listed)
    have waits := (lined.waits timer member).mp listed
    obtain ⟨_, idle⟩ := idle_of_nextEvent?_eq_none (still timer member)
    cases idle with
    | gate phase | asleep phase => simp [phase, TimerPhase.isQueued] at waits
    | queued _ stuck =>
      have none_free := stuck (by rw [queue]; rfl)
      omega

end Scheduler

end PowerRota
