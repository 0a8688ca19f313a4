import PowerRota.Proofs.Firing.Progress
import PowerRota.Proofs.Scheduler.Turn

/-! The fires of a recurring job follow its rule, one after the other.

However long a job has to wait for permits, it hands over each fire of the chain that
begins where its timer passed the gate, once, in order, and never too early. -/

set_option autoImplicit false

namespace PowerRota

open PowerRota.Calendar

/-- Fires, the last first, each of which is the next one after the one before; the first
comes after `t`, and the last is the one that is given. -/
inductive Follow (rule : FiringRule) (zone : Zone) (t : Instant) : List Fire → Instant → Prop where
  | none : Follow rule zone t [] t
  | next {fires : List Fire} {last due : Instant} {fire : Fire} :
      Follow rule zone t fires last → rule.nextAfter zone last = some due →
      fire.due = some due → Follow rule zone t (fire :: fires) due

theorem Follow.chain {rule : FiringRule} {zone : Zone} {t last : Instant} {fires : List Fire}
    (follow : Follow rule zone t fires last) (more : Nat) :
    (rule.chain zone (fires.length + more) t).map some =
      fires.reverse.map (·.due) ++ (rule.chain zone more last).map some := by
  induction follow generalizing more with
  | none => simp
  | next _ found due ih =>
    -- one fire fewer has been handed over, and one more is to come
    rw [List.length_cons, Nat.add_assoc, Nat.add_comm 1, ih, FiringRule.chain_succ_of_next found,
      List.reverse_cons, List.map_append, List.append_assoc, List.map_singleton, due]
    rfl

theorem Follow.next? {rule : FiringRule} {zone : Zone} {t last : Instant} {fires : List Fire}
    (follow : Follow rule zone t fires last) :
    (rule.chain zone (fires.length + 1) t)[fires.length]? = rule.nextAfter zone last := by
  have listed := congrArg (·[fires.length]?) (follow.chain 1)
  have reached : (fires.reverse.map (·.due)).length = fires.length := by simp
  rw [List.getElem?_append_right (Nat.le_of_eq reached), reached, Nat.sub_self,
    List.getElem?_map, List.getElem?_map] at listed
  rw [Option.map_injective (Option.some_injective _) listed, FiringRule.chain]
  cases rule.nextAfter zone last <;> rfl

namespace Scheduler

variable {Body : Type} {scheduler after : Scheduler Body} {rule : FiringRule} {t last : Instant}
  {removed : Prop} {id : Nat}

/-- Why a timer does not go on: there is nothing to come, or it was made to stop. -/
def Ended (scheduler : Scheduler Body) (rule : FiringRule) (last : Instant) (removed : Prop) :
    Prop :=
  rule.nextAfter scheduler.zone last = none ∨ scheduler.shut = true ∨ removed

/-- Where a timer is whose last fire is given: it is at the next one, or does not go on.
A job that was removed can have a timer for a while. -/
inductive Stands (scheduler : Scheduler Body) (rule : FiringRule) (last : Instant)
    (removed : Prop) : Option (Timer Body) → Prop where
  | waits {timer : Timer Body} {due : Instant} (recurring : timer.firing = .recurring rule)
      (cancelled : timer.cancelled = true → removed) (phase : timer.phase.due? = some due)
      (next : rule.nextAfter scheduler.zone last = some due) :
      Stands scheduler rule last removed (some timer)
  | finished {timer : Timer Body} (phase : timer.phase = .finished)
      (ended : scheduler.Ended rule last removed) : Stands scheduler rule last removed (some timer)
  | gone (ended : scheduler.Ended rule last removed) : Stands scheduler rule last removed none

/-- The timer of an id, which passed the gate at `t`, has handed over all fires up to the
one that it is at. -/
structure OnTrack (scheduler : Scheduler Body) (id : Nat) (rule : FiringRule) (t : Instant)
    (removed : Prop) : Prop where
  used : id < scheduler.nextId
  standing : ∃ last, Follow rule scheduler.zone t (scheduler.firesOf id) last ∧
    scheduler.Stands rule last removed (scheduler.timer? id)

variable {move : SchedulerMove Body}

theorem ended_of_isCancelled {timer : Timer Body} (cancelled : timer.cancelled = true → removed)
    (stopped : scheduler.isCancelled timer = true) : scheduler.Ended rule last removed :=
  (Bool.or_eq_true_iff.mp stopped).elim (fun was => Or.inr (Or.inr (cancelled was)))
    fun shut => Or.inr (Or.inl shut)

theorem Stands.phaseAfter {timer : Timer Body} (recurring : timer.firing = .recurring rule)
    (cancelled : timer.cancelled = true → removed)
    (phase : timer.phase = scheduler.phaseAfter rule last) :
    scheduler.Stands rule last removed (some timer) := by
  unfold Scheduler.phaseAfter at phase
  split at phase
  next due next => exact .waits recurring cancelled (phase ▸ rfl) next
  next exhausted => exact .finished phase (Or.inl exhausted)

theorem Moved.stands (moved : scheduler.Moved move after) {standing : Option (Timer Body)}
    (stands : scheduler.Stands rule last removed standing) :
    after.Stands rule last removed standing := by
  have still (ended : scheduler.Ended rule last removed) : after.Ended rule last removed := by
    unfold Ended at ended ⊢
    rw [moved.zone]
    exact ended.imp_right (Or.imp_left moved.stays_shut)
  cases stands with
  | waits recurring cancelled phase next =>
    exact .waits recurring cancelled phase (moved.zone ▸ next)
  | finished phase ended => exact .finished phase (still ended)
  | gone ended => exact .gone (still ended)

/-- A turn leads on to the next fire of the chain, or leaves the timer where it was. -/
theorem Stands.turn {timer : Timer Body} {next : Option (Timer Body)} {fires : List Fire}
    (stands : scheduler.Stands rule last removed (some timer))
    (turn : scheduler.Turn timer move next fires)
    (removal : ∀ jobs, move = .replaceManaged jobs → timer.registered = true →
      timer.managed = true → removed) :
    (fires = [] ∧ scheduler.Stands rule last removed next) ∨
      ∃ fire due, fires = [fire] ∧ fire.due = some due ∧
        rule.nextAfter scheduler.zone last = some due ∧
        scheduler.Stands rule due removed next := by
  cases stands with
  | @waits _ due recurring cancelled phase found =>
    -- it is at the next fire of the chain until it hands that over
    cases turn with
    | stay => exact Or.inl ⟨rfl, .waits recurring cancelled phase found⟩
    | drop registered managed =>
      exact Or.inl ⟨rfl, .waits recurring (fun _ => removal _ rfl registered managed) phase found⟩
    | leave stopped | abandon _ stopped =>
      exact Or.inl ⟨rfl, .finished rfl (ended_of_isCancelled cancelled stopped)⟩
    | passOnce _ gate | passRecurring _ gate | retire gate => simp [gate, TimerPhase.due?] at phase
    | wake asleep _ =>
      rw [asleep] at phase
      exact Or.inl ⟨rfl, .waits recurring cancelled phase found⟩
    | grant queued =>
      rw [queued] at phase
      exact Or.inl ⟨rfl, .waits recurring cancelled phase found⟩
    | fire holding =>
      rw [holding] at phase
      obtain rfl : _ = some due := phase
      refine Or.inr ⟨_, due, rfl, rfl, found, .phaseAfter recurring cancelled ?_⟩
      simp only [recurring, phaseAfterFire]
  | finished phase ended =>
    cases turn with
    | stay | drop => exact Or.inl ⟨rfl, .finished phase ended⟩
    | leave _ waits => simp [phase, TimerPhase.waits] at waits
    | retire => exact Or.inl ⟨rfl, .gone ended⟩
    | passOnce _ other | passRecurring _ other | wake other | grant other | fire other
    | abandon other => cases phase.symm.trans other

theorem Moved.stays_gone (moved : scheduler.Moved move after) (used : id < scheduler.nextId)
    (gone : scheduler.timer? id = none) :
    after.timer? id = none ∧ after.firesOf id = scheduler.firesOf id := by
  have absent (timer : Timer Body) (member : timer ∈ scheduler.timers) : timer.id ≠ id := by
    intro same
    exact absurd (beq_iff_eq.mpr same) (List.find?_eq_none.mp gone timer member)
  constructor
  · refine List.find?_eq_none.mpr fun timer member same => ?_
    rcases moved.old_or_added member with ⟨old, known, same'⟩ | new
    · exact absent old known (same'.trans (beq_iff_eq.mp same))
    · have numbered := (fresh_of_mem_added new).2
      have same := beq_iff_eq.mp same
      omega
  · unfold firesOf
    rcases moved.quiet_or_fire with same | ⟨timer, listed, due, _, _, rfl⟩
    · rw [same]
    · exact List.filter_cons_of_neg (by simpa using absent timer listed)

theorem Moved.onTrack (moved : scheduler.Moved move after) (sound : scheduler.Sound)
    (track : scheduler.OnTrack id rule t removed)
    (removal : ∀ jobs, move = .replaceManaged jobs → id ∈ scheduler.managed.map (·.id) → removed) :
    after.OnTrack id rule t removed := by
  refine ⟨Nat.lt_of_lt_of_le track.used moved.inherits.numbered, ?_⟩
  obtain ⟨last, follow, stands⟩ := track.standing
  rw [moved.zone]
  cases found : scheduler.timer? id with
  | none =>
    obtain ⟨gone, quiet⟩ := moved.stays_gone track.used found
    rw [gone, quiet]
    rw [found] at stands
    exact ⟨last, follow, moved.stands stands⟩
  | some timer =>
    obtain ⟨member, rfl⟩ := mem_of_timer? found
    obtain ⟨fires, turn, listed⟩ := moved.turn sound member
    rw [found] at stands
    rw [listed]
    have removal (jobs : List (Job Body)) (swap : move = .replaceManaged jobs)
        (registered : timer.registered = true) (managed : timer.managed = true) : removed :=
      removal jobs swap (List.mem_map_of_mem (mem_managed.mpr ⟨member, registered, managed⟩))
    rcases stands.turn turn removal with ⟨rfl, stands⟩ | ⟨fire, due, rfl, handed, next, stands⟩
    · exact ⟨last, follow, moved.stands stands⟩
    · exact ⟨due, .next follow next handed, moved.stands stands⟩

/-- In a run a job is removed: a swap finds it on the register. -/
def Removes (scheduler : Scheduler Body) (moves : List (SchedulerMove Body)) (id : Nat) : Prop :=
  ∃ middle jobs, scheduler.MadeFrom moves middle (.replaceManaged jobs) ∧
    id ∈ middle.managed.map (·.id)

def Rests (scheduler : Scheduler Body) : TimerPhase → Prop
  | .gate => scheduler.opened = false
  | .asleep due => scheduler.clock < due
  | .queued _ | .holding _ => False
  | .finished => True

instance (scheduler : Scheduler Body) : DecidablePred scheduler.Rests
  | .gate => inferInstanceAs (Decidable (scheduler.opened = false))
  | .asleep due => inferInstanceAs (Decidable (scheduler.clock < due))
  | .queued _ | .holding _ => inferInstanceAs (Decidable False)
  | .finished => inferInstanceAs (Decidable True)

/-- Every timer that is due has been processed, and none waits for a permit. -/
def Settled (scheduler : Scheduler Body) : Prop :=
  ∀ timer ∈ scheduler.timers, scheduler.isCancelled timer = false → scheduler.Rests timer.phase

instance (scheduler : Scheduler Body) : Decidable scheduler.Settled :=
  inferInstanceAs (Decidable (∀ timer ∈ scheduler.timers, _ → scheduler.Rests timer.phase))

theorem Run.onTrack {moves : List (SchedulerMove Body)} (run : Run scheduler moves after)
    (sound : scheduler.Sound)
    (track : scheduler.OnTrack id rule t (scheduler.Removes moves id)) :
    after.OnTrack id rule t (scheduler.Removes moves id) := by
  have kept : after.Sound ∧ after.OnTrack id rule t (scheduler.Removes moves id) := by
    apply run.keeps_along
    · rintro middle next move rest made moved _ ⟨sound, track⟩
      refine ⟨sound.move moved, moved.onTrack sound track ?_⟩
      rintro jobs rfl listed
      exact ⟨_, jobs, made, listed⟩
    · exact ⟨sound, track⟩
  exact kept.2

theorem passed_eq {timer : Timer Body} (found : scheduler.timer? timer.id = some timer)
    (recurring : timer.firing = .recurring rule)
    (passed : scheduler.move? (.step (.pass timer.id)) = some after) :
    timer.phase = .gate ∧ after.fires = scheduler.fires ∧
      after.timer? timer.id = some { timer with
        opened := some scheduler.clock, phase := scheduler.phaseAfter rule scheduler.clock } := by
  simp only [move?, step?, found, Option.bind_some, pass?, recurring] at passed
  split at passed
  next open_ =>
    have taken : (scheduler.noteOpening timer.id).setPhase timer.id
        (scheduler.phaseAfter rule scheduler.clock) = after := Option.some.inj passed
    refine ⟨open_.2, taken ▸ rfl, ?_⟩
    rw [← taken, setPhase, timer?_updateTimer, noteOpening, timer?_updateTimer, found]
    · simp
    · exact fun _ => rfl
    · exact fun _ => rfl
  next => cases passed

theorem onTrack_of_pass (tidy : scheduler.Tidy) {timer : Timer Body}
    (member : timer ∈ scheduler.managed) (recurring : timer.firing = .recurring rule)
    (passed : scheduler.move? (.step (.pass timer.id)) = some after) :
    after.OnTrack timer.id rule scheduler.clock removed := by
  have moved := move?_moved passed
  have listed := (mem_managed.mp member).1
  obtain ⟨gate, fires, now⟩ :=
    passed_eq ((timer?_eq_some_iff tidy.sound).mpr ⟨listed, rfl⟩) recurring passed
  have silent : after.firesOf timer.id = [] :=
    (congrArg (List.filter _) fires).trans ((tidy.timers timer listed).silent gate)
  refine ⟨Nat.lt_of_lt_of_le (tidy.sound.timers_numbered timer listed) moved.inherits.numbered,
    scheduler.clock, silent ▸ .none, ?_⟩
  rw [now]
  have uncancelled := tidy.uncancelled member
  exact moved.stands (.phaseAfter recurring
    (fun cancelled => absurd cancelled (Bool.eq_false_iff.mp uncancelled)) rfl)

/-- Once everything that is due has been processed, the next fire of a job that goes on is
still to come. -/
theorem Stands.clock_lt (stands : scheduler.Stands rule last removed (scheduler.timer? id))
    (stays : ¬ removed) (running : scheduler.isRunning = true) (settled : scheduler.Settled)
    {next : Instant} (ahead : rule.nextAfter scheduler.zone last = some next) :
    scheduler.clock < next := by
  have not_shut := (isRunning_iff.mp running).2
  have not_ended : ¬ scheduler.Ended rule last removed := by
    rintro (exhausted | shut | removed)
    · cases exhausted.symm.trans ahead
    · cases not_shut.symm.trans shut
    · exact stays removed
  cases found : scheduler.timer? id with
  | none =>
    rw [found] at stands
    cases stands with
    | gone ended => exact absurd ended not_ended
  | some timer =>
    rw [found] at stands
    cases stands with
    | finished _ ended => exact absurd ended not_ended
    | waits _ cancelled phase next_due =>
      cases ahead.symm.trans next_due
      have live : scheduler.isCancelled timer = false :=
        Bool.or_eq_false_iff.mpr ⟨eq_false_of_ne_true fun was => stays (cancelled was), not_shut⟩
      have settled := settled timer (mem_of_timer? found).1 live
      -- the timer is neither queued nor holding a permit, so it is asleep
      cases at_ : timer.phase with
      | asleep due =>
        rw [at_] at phase settled
        cases phase
        exact settled
      | queued due | holding due =>
        rw [at_] at settled
        exact settled.elim
      | gate | finished => simp [at_, TimerPhase.due?] at phase

/-- A recurring job hands over the fires of the chain that begins where its timer passes
the gate, each once, in their order, and none before it is due. If it is not removed, the
next one is still to come whenever everything that is due has been processed. -/
theorem recurring_fires_in_order {settings : SchedulerSettings} {clock : Instant}
    {before opened : Scheduler Body} (reachable : Reachable settings clock before)
    {timer : Timer Body} (member : timer ∈ before.managed)
    (recurring : timer.firing = .recurring rule)
    (passed : before.move? (.step (.pass timer.id)) = some opened)
    {moves : List (SchedulerMove Body)} (run : Run opened moves after) :
    let fires := (after.firesOf timer.id).reverse
    fires.map (·.due) = (rule.chain before.zone fires.length before.clock).map some ∧
    (∀ fire ∈ fires, ∃ due, fire.due = some due ∧ due ≤ fire.time) ∧
    (¬ opened.Removes moves timer.id → after.isRunning = true → after.Settled →
      ∀ next, (rule.chain before.zone (fires.length + 1) before.clock)[fires.length]? = some next →
        after.clock < next) := by
  intro fires
  have tidy := reachable.tidy
  have moved := move?_moved passed
  have zone : after.zone = before.zone :=
    (congrArg (·.location.zone) run.settings).trans moved.zone
  -- the run keeps the timer on the track of its rule, from the moment when it passed the gate
  obtain ⟨_, last, follow, stands⟩ :=
    run.onTrack (tidy.sound.move moved) (onTrack_of_pass tidy member recurring passed)
  rw [zone] at follow
  have count : fires.length = (after.firesOf timer.id).length := List.length_reverse
  have listed : fires.map (·.due) =
      (rule.chain before.zone fires.length before.clock).map some := by
    have whole := follow.chain 0
    rw [Nat.add_zero, FiringRule.chain, List.map_nil, List.append_nil, ← count] at whole
    exact whole.symm
  refine ⟨listed, fun fire member => ?_, fun stays running settled next ahead => ?_⟩
  · have dated : fire.due ∈ fires.map (·.due) := List.mem_map_of_mem member
    rw [listed] at dated
    obtain ⟨due, _, same⟩ := List.mem_map.mp dated
    have timely := (run.tidy (moved.tidy tidy)).fires fire
      (List.mem_of_mem_filter (List.mem_reverse.mp member))
    exact ⟨due, same.symm, timely.due due same.symm⟩
  · rw [count, follow.next?, ← zone] at ahead
    exact stands.clock_lt stays running settled ahead

/-- A job that is due every second and has to wait for the only permit until two of its
fires are due. -/
theorem recurring_fires_in_order_of_late :
    let rule : FiringRule := .interval (.seconds 1) rfl
    let sweep : Timer String :=
      ⟨0, "sweep", true, .recurring rule, "sweep", true, false, none, .gate⟩
    let hold : Timer String := ⟨1, "hold", false, .once, "hold", true, false, some ⟨0⟩, .finished⟩
    let before : Scheduler String :=
      { settings := ⟨.machine, 1, 0⟩, clock := ⟨0⟩, opened := true, shut := false, free := 0,
        queue := [], timers := [sweep, hold],
        executions := [⟨3, 1, "hold", none, "hold"⟩], calls := [⟨2, false, .waiting⟩],
        fires := [⟨1, "hold", none, ⟨0⟩⟩], nextId := 4 }
    let passed : Timer String :=
      { sweep with opened := some ⟨0⟩, phase := .asleep ⟨1000000000⟩ }
    let opened : Scheduler String := { before with timers := [passed, hold] }
    let moves : List (SchedulerMove String) := [.advance ⟨1000000000⟩, .step (.wake 0),
      .advance ⟨2500000000⟩, .step (.finish 3), .step .grant, .step (.handOver 0),
      .step (.wake 0), .step (.finish 4), .step .grant, .step (.handOver 0)]
    let after : Scheduler String := { opened with
      clock := ⟨2500000000⟩
      timers := [{ passed with phase := .asleep ⟨3000000000⟩ }, hold]
      executions := [⟨5, 0, "sweep", some ⟨2000000000⟩, "sweep"⟩]
      fires := [⟨0, "sweep", some ⟨2000000000⟩, ⟨2500000000⟩⟩,
        ⟨0, "sweep", some ⟨1000000000⟩, ⟨2500000000⟩⟩, ⟨1, "hold", none, ⟨0⟩⟩]
      nextId := 6 }
    let fires := (after.firesOf 0).reverse
    Reachable ⟨.machine, 1, 0⟩ ⟨0⟩ before ∧ sweep ∈ before.managed ∧
      before.move? (.step (.pass 0)) = some opened ∧ Run opened moves after ∧
      ¬ opened.Removes moves 0 ∧ after.isRunning = true ∧ after.Settled ∧
      fires.map (·.due) = (rule.chain before.zone fires.length before.clock).map some ∧
      (∀ fire ∈ fires, ∃ due, fire.due = some due ∧ due ≤ fire.time) ∧
      (¬ opened.Removes moves 0 → after.isRunning = true → after.Settled →
        ∀ next, (rule.chain before.zone (fires.length + 1) before.clock)[fires.length]? =
          some next → after.clock < next) := by
  intro rule sweep hold before passed opened moves after fires
  have reachable : Reachable ⟨.machine, 1, 0⟩ ⟨0⟩ before := by
    refine ⟨[.addManaged [⟨"sweep", rule, "sweep"⟩], .addOneShot "hold" "hold", .openFor,
      .step (.pass 1), .step .grant, .step (.handOver 1)], ?_⟩
    repeat refine .next rfl ?_
    exact .done
  have member : sweep ∈ before.managed := List.mem_cons_self ..
  have passes : before.move? (.step (.pass sweep.id)) = some opened := rfl
  have run : Run opened moves after := by
    repeat refine .next rfl ?_
    exact .done
  have stays : ¬ opened.Removes moves 0 := by
    rintro ⟨middle, jobs, ⟨earlier, later, split, _⟩, _⟩
    have swap : .replaceManaged jobs ∈ moves :=
      split ▸ List.mem_append_right _ (List.mem_cons_self ..)
    simp [moves] at swap
  have settled : after.Settled := by decide
  exact ⟨reachable, member, passes, run, stays, rfl, settled,
    recurring_fires_in_order reachable member rfl passes run⟩

end Scheduler

end PowerRota
