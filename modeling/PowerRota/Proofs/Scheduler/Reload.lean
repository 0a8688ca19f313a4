import PowerRota.Proofs.Firing.Fires
import PowerRota.Proofs.Schedule.Jobs
import PowerRota.Proofs.Scheduler.Chain

/-! What becomes of the fires of a schedule that stays while sets are swapped.

A swap cancels the timer of a job, also when its fire is due and it waits for a permit, and
the timer that follows begins with the fires that come after it passed the gate. A fire is
handed over once, or it was due by then and is lost. -/

set_option autoImplicit false

namespace PowerRota

open PowerRota.Calendar

/-- A move keeps a job if a swap brings it again, and no other job of its name is added. -/
def SchedulerMove.Keeps {Body : Type} (name : String) (rule : FiringRule) :
    SchedulerMove Body → Prop
  | .replaceManaged jobs => Job.Listed jobs name rule
  | .addManaged jobs => ∀ job ∈ jobs, job.name ≠ name
  | .advance _ | .addOneShot _ _ | .openFor | .stop | .step _ => True

/-- A move respects a job if a swap brings it unchanged or leaves it out, and no other job of
its name is added. -/
def SchedulerMove.Respects {Body : Type} (name : String) (rule : FiringRule) :
    SchedulerMove Body → Prop
  | .replaceManaged jobs => Job.Consistent jobs name rule
  | .addManaged jobs => ∀ job ∈ jobs, job.name ≠ name
  | .advance _ | .addOneShot _ _ | .openFor | .stop | .step _ => True

theorem SchedulerMove.Keeps.respects {Body : Type} {name : String} {rule : FiringRule}
    {move : SchedulerMove Body} (keeps : move.Keeps name rule) : move.Respects name rule := by
  cases move with
  | replaceManaged jobs => exact keeps.consistent
  | addManaged jobs => exact keeps
  | _ => trivial

namespace Scheduler

variable {Body : Type} {scheduler after : Scheduler Body} {move : SchedulerMove Body}
  {name : String} {rule : FiringRule} {zone : Zone} {origin final fire : Instant}
  {timer next : Timer Body}

/-! The timer of a job. -/

theorem Turn.was_managed {fires : List Fire} (turn : scheduler.Turn timer move (some next) fires)
    (registered : next.registered = true) (managed : next.managed = true) :
    timer.registered = true ∧ timer.managed = true ∧ ∀ jobs, move ≠ .replaceManaged jobs := by
  cases turn with
  | stay kept =>
    refine ⟨registered, managed, fun jobs swap => ?_⟩
    have spared := kept jobs swap
    rw [registered, managed] at spared
    cases spared
  | drop => cases registered
  | _ => exact ⟨registered, managed, nofun⟩

/-- What is known of the job of a name: it has one timer at most, of its rule. -/
structure Carries (scheduler : Scheduler Body) (name : String) (rule : FiringRule) (zone : Zone)
    (origin : Instant) : Prop where
  tidy : scheduler.Tidy
  zone_eq : scheduler.zone = zone
  begun : origin ≤ scheduler.clock
  unique : ∀ first ∈ scheduler.managed, ∀ second ∈ scheduler.managed,
    first.name = name → second.name = name → first = second
  recurring : ∀ timer ∈ scheduler.managed, timer.name = name → timer.firing = .recurring rule

theorem Carries.origin_of (carries : scheduler.Carries name rule zone origin)
    (moved : scheduler.Moved move after) (respects : move.Respects name rule)
    (member : timer ∈ after.managed) (named : timer.name = name) :
    (∃ old ∈ scheduler.managed, old.name = name ∧ old.id = timer.id ∧
      ∃ fires, scheduler.Turn old move (some timer) fires) ∨
    ∃ jobs, move = .replaceManaged jobs ∧ Job.Consistent jobs name rule ∧
      timer ∈ timersFor scheduler.nextId (jobs.filter scheduler.isLive) := by
  obtain ⟨listed, registered, managed⟩ := mem_managed.mp member
  rcases moved.origin carries.tidy.sound listed with ⟨old, known, same, fires, turn, _⟩ | new
  · obtain ⟨was_registered, was_managed, _⟩ := turn.was_managed registered managed
    refine Or.inl ⟨old, mem_managed.mpr ⟨known, was_registered, was_managed⟩, ?_, same, fires, turn⟩
    exact turn.keeps_job.2.1.symm.trans named
  · cases move with
    | replaceManaged jobs => exact Or.inr ⟨jobs, rfl, respects, new⟩
    | addManaged jobs =>
      obtain ⟨job, among, same, _⟩ := job_of_mem_timersFor new
      exact absurd (same.symm.trans named) (respects job (List.mem_filter.mp among).1)
    | addOneShot name body =>
      rw [List.mem_singleton.mp new] at managed
      cases managed
    | _ => cases new

theorem timersFor_unique {jobs : List (Job Body)} (consistent : Job.Consistent jobs name rule)
    {id : Nat} {live : Job Body → Bool} {first second : Timer Body}
    (member : first ∈ timersFor id (jobs.filter live))
    (member' : second ∈ timersFor id (jobs.filter live)) (same : first.name = second.name) :
    first = second := by
  refine List.inj_on_of_nodup_map ?_ member member' same
  rw [timersFor_names]
  exact consistent.distinct.sublist (List.filter_sublist.map _)

theorem timersFor_recurring {jobs : List (Job Body)} (consistent : Job.Consistent jobs name rule)
    {id : Nat} {live : Job Body → Bool} (member : timer ∈ timersFor id (jobs.filter live))
    (named : timer.name = name) : timer.firing = .recurring rule := by
  obtain ⟨job, among, same, firing⟩ := job_of_mem_timersFor member
  rw [firing, consistent.rule_eq job (List.mem_filter.mp among).1 (same.symm.trans named)]

theorem due?_of_mem_timersFor {id : Nat} {jobs : List (Job Body)}
    (new : timer ∈ timersFor id jobs) : timer.phase.due? = none := by
  rw [(fresh_of_mem_timersFor new).1.phase]
  rfl

theorem Moved.carries (moved : scheduler.Moved move after)
    (carries : scheduler.Carries name rule zone origin) (respects : move.Respects name rule) :
    after.Carries name rule zone origin where
  tidy := moved.tidy carries.tidy
  zone_eq := moved.zone.trans carries.zone_eq
  begun := Int.le_trans carries.begun moved.clock_le
  unique first member second member' named named' := by
    have distinct := (carries.tidy.sound.move moved).timers_unique
    rcases carries.origin_of moved respects member named with
      ⟨old, known, was_named, same, fires, turn⟩ | ⟨jobs, rfl, consistent, new⟩
    · rcases carries.origin_of moved respects member' named' with
        ⟨old', known', was_named', same', _⟩ | ⟨jobs, swap, _⟩
      · -- the register had one timer of the name, and a turn keeps the id
        obtain rfl := carries.unique old known old' known' was_named was_named'
        exact List.inj_on_of_nodup_map distinct (mem_managed.mp member).1 (mem_managed.mp member').1
          (same.symm.trans same')
      · obtain ⟨_, registered, managed⟩ := mem_managed.mp member
        exact absurd swap ((turn.was_managed registered managed).2.2 jobs)
    · rcases carries.origin_of moved respects member' named' with
        ⟨_, _, _, _, _, turn⟩ | ⟨jobs', swap, _, new'⟩
      · obtain ⟨_, registered, managed⟩ := mem_managed.mp member'
        exact absurd rfl ((turn.was_managed registered managed).2.2 jobs)
      · cases swap
        exact timersFor_unique consistent new new' (named.trans named'.symm)
  recurring timer member named := by
    rcases carries.origin_of moved respects member named with
      ⟨old, known, was_named, _, _, turn⟩ | ⟨jobs, _, consistent, new⟩
    · exact turn.keeps_job.2.2.2.1.trans (carries.recurring old known was_named)
    · exact timersFor_recurring consistent new named

theorem Moved.new_of_unused {jobs : List (Job Body)}
    (moved : scheduler.Moved (.addManaged jobs) after) (tidy : scheduler.Tidy)
    (unused : ∀ timer ∈ scheduler.managed, timer.name ≠ name) (member : timer ∈ after.managed)
    (named : timer.name = name) :
    timer ∈ timersFor scheduler.nextId (jobs.filter scheduler.isLive) := by
  obtain ⟨listed, registered, managed⟩ := mem_managed.mp member
  rcases moved.origin tidy.sound listed with ⟨old, known, _, _, turn, _⟩ | new
  · obtain ⟨was_registered, was_managed, _⟩ := turn.was_managed registered managed
    have old_managed := mem_managed.mpr ⟨known, was_registered, was_managed⟩
    exact absurd (turn.keeps_job.2.1.symm.trans named) (unused old old_managed)
  · exact new

theorem Moved.carries_of_unused {jobs : List (Job Body)}
    (moved : scheduler.Moved (.addManaged jobs) after) (tidy : scheduler.Tidy)
    (unused : ∀ timer ∈ scheduler.managed, timer.name ≠ name)
    (consistent : Job.Consistent jobs name rule) :
    after.Carries name rule scheduler.zone scheduler.clock where
  tidy := moved.tidy tidy
  zone_eq := moved.zone
  begun := moved.clock_le
  unique _ member _ member' named named' :=
    timersFor_unique consistent (moved.new_of_unused tidy unused member named)
      (moved.new_of_unused tidy unused member' named') (named.trans named'.symm)
  recurring _ member named :=
    timersFor_recurring consistent (moved.new_of_unused tidy unused member named) named

/-! How far a job has got with a fire. -/

/-- How often the job of a name was invoked for a fire. -/
def invocations (scheduler : Scheduler Body) (name : String) (due : Instant) : Nat :=
  scheduler.fires.countP fun fire => fire.name = name ∧ fire.due = some due

/-- The fire is still to come for the timer of the job. -/
def Ahead (scheduler : Scheduler Body) (name : String) (origin fire : Instant) : Prop :=
  ∃ timer ∈ scheduler.managed, timer.name = name ∧
    (timer.phase = .gate ∨ ∃ due, timer.phase.due? = some due ∧ origin ≤ due ∧ due ≤ fire)

structure Past (scheduler : Scheduler Body) (name : String) (fire : Instant) : Prop where
  reached : fire ≤ scheduler.clock
  beyond : ∀ timer ∈ scheduler.managed, timer.name = name →
    ∀ due, timer.phase.due? = some due → fire < due

/-- After this move the job of a name goes on with the fires that come after it. -/
def Renews (scheduler : Scheduler Body) (name : String) : SchedulerMove Body → Prop
  | .replaceManaged _ => True
  | .step (.pass id) => ∃ timer ∈ scheduler.managed, timer.id = id ∧ timer.name = name
  | _ => False

theorem invocations_of_quiet (quiet : after.fires = scheduler.fires) :
    after.invocations name fire = scheduler.invocations name fire := by
  unfold invocations
  rw [quiet]

theorem invocations_fire_of_ne {due : Option Instant}
    (other : ¬ (timer.name = name ∧ due = some fire)) :
    (scheduler.fire timer due).invocations name fire = scheduler.invocations name fire :=
  List.countP_cons_of_neg (by simpa using other)

theorem invocations_fire (named : timer.name = name) :
    (scheduler.fire timer (some fire)).invocations name fire =
      scheduler.invocations name fire + 1 :=
  List.countP_cons_of_pos (by simpa using named)

theorem timer?_fire (sound : scheduler.Sound) {actor : Timer Body}
    (member : timer ∈ scheduler.timers) (due : Option Instant) :
    (scheduler.fire actor due).timer? timer.id = some (if timer.id = actor.id then
      { timer with phase := scheduler.phaseAfterFire actor.firing due } else timer) := by
  have found := (timer?_eq_some_iff sound).mpr ⟨member, rfl⟩
  have updated : (scheduler.fire actor due).timer? timer.id =
      (scheduler.timer? timer.id).map fun timer => if timer.id = actor.id then
        { timer with phase := scheduler.phaseAfterFire actor.firing due } else timer :=
    timer?_updateTimer _ _ fun _ => rfl
  rw [updated, found, Option.map_some]

theorem Tidy.managed_of_due (tidy : scheduler.Tidy) (member : timer ∈ scheduler.timers)
    (live : scheduler.isCancelled timer = false)
    {due : Instant} (phase : timer.phase.due? = some due) : timer ∈ scheduler.managed := by
  have regular := tidy.timers timer member
  have uncancelled := (Bool.or_eq_false_iff.mp live).1
  rw [regular.register] at uncancelled
  refine mem_managed.mpr ⟨member, by simpa using uncancelled, ?_⟩
  refine eq_true_of_ne_false fun unmanaged => ?_
  cases phase.symm.trans (regular.single (regular.unmanaged unmanaged))

theorem lt_of_phaseAfter (zone_eq : scheduler.zone = zone) {last due : Instant}
    (least : rule.NextIsLeast zone last)
    (at_ : (scheduler.phaseAfter rule last).due? = some due) : last < due := by
  unfold phaseAfter at at_
  rw [zone_eq] at at_
  split at at_
  next looked_up found =>
    cases at_
    exact least.lt found
  next => cases at_

/-! A fire that is past. -/

theorem Turn.beyond {fires : List Fire} (turn : scheduler.Turn timer move (some next) fires)
    (carries : scheduler.Carries name rule zone origin) (member : timer ∈ scheduler.managed)
    (named : timer.name = name) (exact_ : rule.ExactIn zone origin final)
    (ends : scheduler.clock ≤ final) (later : origin < fire) (reached : fire ≤ scheduler.clock)
    (beyond : ∀ due, timer.phase.due? = some due → fire < due) {due : Instant}
    (at_ : next.phase.due? = some due) : fire < due := by
  have recurring := carries.recurring timer member named
  have regular := carries.tidy.timers timer (mem_managed.mp member).1
  -- what is looked up at an instant between the fire and now is later than the fire
  have after_last {last : Instant} (from_ : fire ≤ last) (to_ : last ≤ scheduler.clock)
      (at_ : (scheduler.phaseAfter rule last).due? = some due) : fire < due :=
    Int.lt_of_le_of_lt from_ (lt_of_phaseAfter carries.zone_eq
      (exact_ last (Int.le_trans (Int.le_of_lt later) from_) (Int.le_trans to_ ends)) at_)
  cases turn with
  | stay | drop => exact beyond due at_
  | wake phase =>
    refine beyond due ?_
    rw [phase]
    exact at_
  | grant phase =>
    refine beyond due ?_
    rw [phase]
    exact at_
  | passRecurring _ _ firing =>
    cases recurring.symm.trans firing
    exact after_last reached (Int.le_refl _) at_
  | @fire last phase =>
    cases last with
    | none => simp [phaseAfterFire, TimerPhase.due?] at at_
    | some last =>
      simp only [recurring, phaseAfterFire] at at_
      refine after_last (Int.le_of_lt (beyond last ?_)) (regular.reached last ?_) at_
      · rw [phase]
        rfl
      · rw [phase]
        rfl
  | leave | passOnce | abandon => cases at_

theorem Moved.past (moved : scheduler.Moved move after)
    (carries : scheduler.Carries name rule zone origin) (respects : move.Respects name rule)
    (exact_ : rule.ExactIn zone origin final) (ends : scheduler.clock ≤ final)
    (later : origin < fire) (past : scheduler.Past name fire) :
    after.Past name fire ∧
      after.invocations name fire = scheduler.invocations name fire := by
  refine ⟨⟨Int.le_trans past.reached moved.clock_le, fun timer member named due at_ => ?_⟩, ?_⟩
  · rcases carries.origin_of moved respects member named with
      ⟨old, known, was_named, _, _, turn⟩ | ⟨jobs, _, _, new⟩
    · exact turn.beyond carries known was_named exact_ ends later past.reached
        (past.beyond old known was_named) at_
    · cases (due?_of_mem_timersFor new).symm.trans at_
  · rcases moved.quiet_or_fire with quiet | ⟨timer, listed, due, phase, live, rfl⟩
    · exact invocations_of_quiet quiet
    · refine invocations_fire_of_ne ?_
      rintro ⟨named, rfl⟩
      -- a timer that is for the fire itself would not be past it
      have at_ : timer.phase.due? = some fire := by rw [phase]; rfl
      have managed := carries.tidy.managed_of_due listed live at_
      exact absurd (past.beyond timer managed named fire at_) (Int.lt_irrefl _)

/-! A fire that is ahead. -/

theorem mem_managed_of_timer? {id : Nat} (found : scheduler.timer? id = some timer)
    (registered : timer.registered = true) (managed : timer.managed = true) :
    timer ∈ scheduler.managed :=
  mem_managed.mpr ⟨(mem_of_timer? found).1, registered, managed⟩

theorem ahead_of_added {jobs : List (Job Body)}
    (added : timersFor scheduler.nextId (jobs.filter scheduler.isLive) ⊆ after.timers)
    (zone_eq : scheduler.zone = zone) (listed : Job.Listed jobs name rule)
    (least : rule.NextIsLeast zone scheduler.clock) (fires : rule.Fires zone fire)
    (before : scheduler.clock < fire) : after.Ahead name origin fire := by
  obtain ⟨job, among, named, has_rule⟩ := listed.listed
  obtain ⟨next, found, _⟩ := least.exists_le fires before
  have live : scheduler.isLive job = true := by rw [isLive, has_rule, zone_eq, found]; rfl
  have kept : name ∈ (timersFor scheduler.nextId (jobs.filter scheduler.isLive)).map (·.name) := by
    rw [timersFor_names]
    exact List.mem_map.mpr ⟨job, List.mem_filter.mpr ⟨among, live⟩, named⟩
  obtain ⟨timer, new, same⟩ := List.mem_map.mp kept
  obtain ⟨fresh, managed⟩ := fresh_of_mem_timersFor new
  exact ⟨timer, mem_managed.mpr ⟨added new, fresh.registered, managed⟩, same, Or.inl fresh.phase⟩

theorem phaseAfter_ahead (zone_eq : scheduler.zone = zone) {last : Instant}
    (least : rule.NextIsLeast zone last) (begun : origin ≤ last)
    (fires : rule.Fires zone fire) (before : last < fire) :
    ∃ due, (scheduler.phaseAfter rule last).due? = some due ∧ origin ≤ due ∧ due ≤ fire := by
  obtain ⟨due, found, reached⟩ := least.exists_le fires before
  refine ⟨due, ?_, Int.le_trans begun (Int.le_of_lt (least.lt found)), reached⟩
  simp only [phaseAfter, zone_eq, found, TimerPhase.due?]

theorem Moved.ahead_of_quiet (moved : scheduler.Moved move after)
    (carries : scheduler.Carries name rule zone origin) (keeps : move.Keeps name rule)
    (least : rule.NextIsLeast zone scheduler.clock) (fires : rule.Fires zone fire)
    (running : scheduler.shut = false) (quiet : after.fires = scheduler.fires)
    (safe : scheduler.Renews name move → scheduler.clock < fire)
    (ahead : scheduler.Ahead name origin fire) : after.Ahead name origin fire := by
  obtain ⟨timer, member, named, at_⟩ := ahead
  obtain ⟨known, registered, managed⟩ := mem_managed.mp member
  have recurring := carries.recurring timer member named
  have live := carries.tidy.live member running
  obtain ⟨_, turn, listed⟩ := moved.turn carries.tidy.sound known
  generalize now : after.timer? timer.id = standing at turn
  cases turn with
  | stay => exact ⟨timer, mem_managed_of_timer? now registered managed, named, at_⟩
  -- the swap has put the job on the register anew
  | drop => exact ahead_of_added moved.added_subset carries.zone_eq keeps least fires (safe trivial)
  | leave stopped | abandon _ stopped => cases live.symm.trans stopped
  | passOnce _ _ once => cases recurring.symm.trans once
  | passRecurring _ _ firing =>
    cases recurring.symm.trans firing
    have before := safe ⟨timer, member, rfl, named⟩
    exact ⟨_, mem_managed_of_timer? now registered managed, named,
      Or.inr (phaseAfter_ahead carries.zone_eq least carries.begun fires before)⟩
  | wake asleep =>
    rw [asleep] at at_
    exact ⟨_, mem_managed_of_timer? now registered managed, named, at_.imp_left nofun⟩
  | grant queued =>
    rw [queued] at at_
    exact ⟨_, mem_managed_of_timer? now registered managed, named, at_.imp_left nofun⟩
  | fire =>
    unfold firesOf at listed
    simp [quiet] at listed
  | retire finished => simp [finished, TimerPhase.due?] at at_

theorem ahead_of_fire (carries : scheduler.Carries name rule zone origin) {due : Option Instant}
    (moved : scheduler.Moved move (scheduler.fire timer due)) (respects : move.Respects name rule)
    (exact_ : rule.ExactIn zone origin final) (ends : scheduler.clock ≤ final)
    (fires : rule.Fires zone fire) (member : timer ∈ scheduler.managed)
    (named : timer.name = name) (phase : timer.phase = .holding due)
    (at_ : ∃ due, timer.phase.due? = some due ∧ origin ≤ due ∧ due ≤ fire) :
    ((scheduler.fire timer due).Ahead name origin fire ∧
      (scheduler.fire timer due).invocations name fire = scheduler.invocations name fire) ∨
    ((scheduler.fire timer due).Past name fire ∧
      (scheduler.fire timer due).invocations name fire = scheduler.invocations name fire + 1) := by
  obtain ⟨known, registered, managed⟩ := mem_managed.mp member
  have recurring := carries.recurring timer member named
  obtain ⟨instant, same, begun, before⟩ := at_
  rw [phase] at same
  obtain rfl : due = some instant := same
  have reached : instant ≤ scheduler.clock := by
    refine (carries.tidy.timers timer known).reached instant ?_
    rw [phase]
    rfl
  have least := exact_ instant begun (Int.le_trans reached ends)
  have now : (scheduler.fire timer (some instant)).timer? timer.id =
      some { timer with phase := scheduler.phaseAfter rule instant } := by
    rw [timer?_fire carries.tidy.sound known, if_pos rfl, recurring]
    rfl
  -- the timer was for an earlier fire of the job, or for this very one
  rcases Int.lt_or_eq_of_le before with sooner | same
  · refine Or.inl ⟨⟨_, mem_managed_of_timer? now registered managed, named, Or.inr ?_⟩, ?_⟩
    · exact phaseAfter_ahead carries.zone_eq least begun fires sooner
    · refine invocations_fire_of_ne ?_
      rintro ⟨_, same⟩
      cases same
      exact Int.lt_irrefl _ sooner
  · obtain rfl : instant = fire := Instant.ext same
    refine Or.inr ⟨⟨reached, fun other member' named' due at_ => ?_⟩, invocations_fire named⟩
    rcases carries.origin_of moved respects member' named' with
      ⟨old, was_managed, was_named, same, _⟩ | ⟨_, _, _, new⟩
    · -- the job has no other timer than the one that fired
      obtain rfl := carries.unique old was_managed timer member was_named named
      have found := (timer?_eq_some_iff (carries.tidy.sound.move moved)).mpr
        ⟨(mem_managed.mp member').1, same.symm⟩
      cases now.symm.trans found
      exact lt_of_phaseAfter carries.zone_eq least at_
    · cases (due?_of_mem_timersFor new).symm.trans at_

theorem Moved.ahead (moved : scheduler.Moved move after)
    (carries : scheduler.Carries name rule zone origin) (keeps : move.Keeps name rule)
    (exact_ : rule.ExactIn zone origin final) (ends : scheduler.clock ≤ final)
    (fires : rule.Fires zone fire) (running : scheduler.shut = false)
    (safe : scheduler.Renews name move → scheduler.clock < fire)
    (ahead : scheduler.Ahead name origin fire) :
    (after.Ahead name origin fire ∧
      after.invocations name fire = scheduler.invocations name fire) ∨
    (after.Past name fire ∧
      after.invocations name fire = scheduler.invocations name fire + 1) := by
  rcases moved.quiet_or_fire with quiet | ⟨actor, acting, due, phase, live, rfl⟩
  · have least := exact_ scheduler.clock carries.begun ends
    exact Or.inl ⟨moved.ahead_of_quiet carries keeps least fires running quiet safe ahead,
      invocations_of_quiet quiet⟩
  · obtain ⟨timer, member, named, at_⟩ := ahead
    obtain ⟨known, registered, managed⟩ := mem_managed.mp member
    by_cases same : timer.id = actor.id
    · obtain rfl :=
        List.inj_on_of_nodup_map carries.tidy.sound.timers_unique known acting same
      refine ahead_of_fire carries moved keeps.respects exact_ ends fires member named phase ?_
      exact at_.resolve_left (by simp [phase])
    · have now : (scheduler.fire actor due).timer? timer.id = some timer := by
        rw [timer?_fire carries.tidy.sound known, if_neg same]
      refine Or.inl ⟨⟨timer, mem_managed_of_timer? now registered managed, named, at_⟩, ?_⟩
      refine invocations_fire_of_ne ?_
      rintro ⟨named', rfl⟩
      -- a timer that hands over the fire of the job is the timer of the job
      have acting_managed := carries.tidy.managed_of_due acting live (by rw [phase]; rfl)
      exact same (congrArg _ (carries.unique timer member actor acting_managed named named'))

theorem Step.of_pass {event : SchedulerEvent} (stepped : scheduler.Step event after) {id : Nat}
    (passes : event = .pass id) :
    after.fires = scheduler.fires ∧
      ∃ timer ∈ scheduler.timers, timer.id = id ∧ timer.phase = .gate := by
  cases stepped with
  | passOnce member _ phase | passRecurring member _ phase =>
    exact ⟨rfl, _, member, SchedulerEvent.pass.inj passes, phase⟩
  | _ => cases passes

theorem Moved.lost (moved : scheduler.Moved move after)
    (carries : scheduler.Carries name rule zone origin) (keeps : move.Keeps name rule)
    (exact_ : rule.ExactIn zone origin final) (ends : scheduler.clock ≤ final)
    (later : origin < fire) (renews : scheduler.Renews name move)
    (reached : fire ≤ scheduler.clock) :
    after.Past name fire ∧
      after.invocations name fire = scheduler.invocations name fire := by
  have reached_after := Int.le_trans reached moved.clock_le
  cases move with
  | replaceManaged jobs =>
    refine ⟨⟨reached_after, fun timer member named due at_ => ?_⟩, ?_⟩
    · rcases carries.origin_of moved keeps.respects member named with
        ⟨old, _, _, _, _, turn⟩ | ⟨_, _, _, new⟩
      · obtain ⟨_, registered, managed⟩ := mem_managed.mp member
        exact absurd rfl ((turn.was_managed registered managed).2.2 jobs)
      · -- a timer that comes with the swap waits at the gate
        cases (due?_of_mem_timersFor new).symm.trans at_
    · cases moved
      rw [insertJobs_eq]
      exact invocations_of_quiet rfl
  | step event =>
    cases moved with
    | step stepped =>
      cases event with
      | pass id =>
        obtain ⟨actor, acting, rfl, named⟩ := renews
        obtain ⟨quiet, timer, known, same, gate⟩ := stepped.of_pass rfl
        have distinct := carries.tidy.sound.timers_unique
        obtain rfl := List.inj_on_of_nodup_map distinct known (mem_managed.mp acting).1 same
        refine ⟨⟨reached_after, fun other member named' due at_ => ?_⟩, invocations_of_quiet quiet⟩
        rcases carries.origin_of (.step stepped) keeps.respects member named' with
          ⟨old, was_managed, was_named, _, _, turn⟩ | ⟨_, swap, _⟩
        · -- at the gate the timer is not for a fire yet
          obtain rfl := carries.unique old was_managed timer acting was_named named
          refine turn.beyond carries acting named exact_ ends later reached (fun due at_ => ?_) at_
          rw [gate] at at_
          cases at_
        · cases swap
      | _ => exact renews.elim
  | _ => exact renews.elim

/-! Whole runs. -/

theorem Run.past {moves : List (SchedulerMove Body)} (run : Run scheduler moves after)
    (carries : scheduler.Carries name rule zone origin)
    (keeps : ∀ move ∈ moves, move.Keeps name rule)
    (exact_ : rule.ExactIn zone origin after.clock) (later : origin < fire)
    (past : scheduler.Past name fire) :
    after.Past name fire ∧
      after.invocations name fire = scheduler.invocations name fire := by
  have kept : after.Carries name rule zone origin ∧ after.Past name fire ∧
      after.invocations name fire = scheduler.invocations name fire := by
    apply run.keeps_along
    · rintro middle next move rest made moved onwards ⟨carries, past, count⟩
      have keeps := keeps move made.mem
      have ends := Int.le_trans moved.clock_le onwards.clock_le
      obtain ⟨past, same⟩ := moved.past carries keeps.respects exact_ ends later past
      exact ⟨moved.carries carries keeps.respects, past, same.trans count⟩
    · exact ⟨carries, past, rfl⟩
  exact kept.2

/-- In a run the job of a name is renewed when the fire is due and was not handed over. -/
def Loses (scheduler : Scheduler Body) (moves : List (SchedulerMove Body)) (name : String)
    (fire : Instant) : Prop :=
  ∃ middle move, scheduler.MadeFrom moves middle move ∧ middle.Renews name move ∧
    fire ≤ middle.clock ∧ middle.invocations name fire = 0

theorem Run.carries {moves : List (SchedulerMove Body)} (run : Run scheduler moves after)
    (carries : scheduler.Carries name rule zone origin)
    (keeps : ∀ move ∈ moves, move.Keeps name rule) : after.Carries name rule zone origin := by
  apply run.keeps
  · intro before next move carries member moved
    exact (move?_moved moved).carries carries (keeps move member).respects
  · exact carries

/-- A fire that was ahead still is, or it is past and was handed over once or lost. -/
theorem Run.fate {moves : List (SchedulerMove Body)} (run : Run scheduler moves after)
    (carries : scheduler.Carries name rule zone origin)
    (keeps : ∀ move ∈ moves, move.Keeps name rule)
    (exact_ : rule.ExactIn zone origin after.clock) (later : origin < fire)
    (fires : rule.Fires zone fire) (running : after.shut = false)
    (ahead : scheduler.Ahead name origin fire)
    (none_yet : scheduler.invocations name fire = 0) :
    after.Ahead name origin fire ∨
      after.invocations name fire = 1 ∨ scheduler.Loses moves name fire := by
  have state : after.Carries name rule zone origin ∧
      ((after.Ahead name origin fire ∧ after.invocations name fire = 0) ∨
        (after.Past name fire ∧ after.invocations name fire = 1) ∨
        scheduler.Loses moves name fire) := by
    apply run.keeps_along
    · rintro middle next move rest made moved onwards ⟨carries, state⟩
      have keeps := keeps move made.mem
      have ends := Int.le_trans moved.clock_le onwards.clock_le
      refine ⟨moved.carries carries keeps.respects, ?_⟩
      rcases state with ⟨ahead, none_yet⟩ | ⟨past, once⟩ | lost
      · have running : middle.shut = false := eq_false_of_ne_true fun shut => by
          simp [onwards.stays_shut (moved.stays_shut shut)] at running
        -- a job that is renewed before the fire begins with it or with one before it
        by_cases safe : middle.Renews name move → middle.clock < fire
        · rcases moved.ahead carries keeps exact_ ends fires running safe ahead with
            ⟨ahead, same⟩ | ⟨past, one_more⟩
          · exact Or.inl ⟨ahead, same.trans none_yet⟩
          · exact Or.inr (Or.inl ⟨past, by rw [one_more, none_yet]⟩)
        · obtain ⟨renews, reached⟩ := Classical.not_imp.mp safe
          exact Or.inr (Or.inr ⟨middle, move, made, renews, Int.not_lt.mp reached, none_yet⟩)
      · obtain ⟨past, same⟩ := moved.past carries keeps.respects exact_ ends later past
        exact Or.inr (Or.inl ⟨past, same.trans once⟩)
      · exact Or.inr (Or.inr lost)
    · exact ⟨carries, Or.inl ⟨ahead, none_yet⟩⟩
  exact state.2.imp And.left (Or.imp_left And.right)

theorem Run.not_invoked {moves : List (SchedulerMove Body)} (run : Run scheduler moves after)
    (carries : scheduler.Carries name rule zone origin)
    (keeps : ∀ move ∈ moves, move.Keeps name rule)
    (exact_ : rule.ExactIn zone origin after.clock) (later : origin < fire)
    (loses : scheduler.Loses moves name fire) : after.invocations name fire = 0 := by
  obtain ⟨middle, move, ⟨earlier, rest, rfl, first⟩, renews, reached, none_yet⟩ := loses
  have carries := first.carries carries fun move member =>
    keeps move (List.mem_append_left _ member)
  have onwards := run.split first
  cases onwards with
  | next moved onwards =>
    have moved := move?_moved moved
    have keeps_move := keeps move (List.mem_append_right _ (List.mem_cons_self ..))
    have ends := Int.le_trans moved.clock_le onwards.clock_le
    obtain ⟨past, same⟩ := moved.lost carries keeps_move exact_ ends later renews reached
    have keeps_rest (move : SchedulerMove Body) (member : move ∈ rest) : move.Keeps name rule :=
      keeps move (List.mem_append_right _ (List.mem_cons_of_mem _ member))
    have after_rest :=
      (onwards.past (moved.carries carries keeps_move.respects) keeps_rest exact_ later past).2
    rw [after_rest, same, none_yet]

/-! Sets of schedules. -/

theorem registerSchedules_eq_ok_iff {body : Order → Body} {schedules : List Schedule} :
    scheduler.registerSchedules body schedules = .ok after ↔
      ∃ orders, Schedule.jobs schedules = .ok orders ∧
        scheduler.addManaged (orders.map (·.map body)) = .ok after := by
  unfold registerSchedules
  cases Schedule.jobs schedules <;> simp [bind, Except.bind]

theorem moved_of_registerSchedules {body : Order → Body} {schedules : List Schedule}
    (registered : scheduler.registerSchedules body schedules = .ok after) :
    ∃ orders, Schedule.jobs schedules = .ok orders ∧
      scheduler.Moved (.addManaged (orders.map (·.map body))) after := by
  obtain ⟨orders, translated, added⟩ := registerSchedules_eq_ok_iff.mp registered
  refine ⟨orders, translated, move?_moved ?_⟩
  rw [move?, added]
  rfl

theorem replaceSchedules_eq_ok_iff {body : Order → Body} {schedules : List Schedule} :
    scheduler.replaceSchedules body schedules = .ok after ↔
      ∃ orders, Schedule.jobs schedules = .ok orders ∧
        scheduler.replaceManaged (orders.map (·.map body)) = .ok after := by
  unfold replaceSchedules
  cases Schedule.jobs schedules <;> simp [bind, Except.bind]

theorem move?_of_replaceSchedules {body : Order → Body} {schedules : List Schedule}
    (replaced : scheduler.replaceSchedules body schedules = .ok after) :
    ∃ orders, Schedule.jobs schedules = .ok orders ∧
      scheduler.move? (.replaceManaged (orders.map (·.map body))) = some after := by
  obtain ⟨orders, translated, swapped⟩ := replaceSchedules_eq_ok_iff.mp replaced
  refine ⟨orders, translated, ?_⟩
  rw [move?, swapped]
  rfl

end Scheduler

/-- A swap installs a valid set in which the schedule still has this trigger for the action;
no job of the same name is added besides. -/
def SchedulerMove.Retains {Body : Type} (schedule : Schedule) (action : Action)
    (trigger : Trigger) : SchedulerMove Body → Prop
  | .replaceManaged jobs =>
      ∃ (body : Order → Body) (schedules : List Schedule) (orders : List (Job Order)),
        Schedule.jobs schedules = .ok orders ∧ jobs = orders.map (·.map body) ∧
        ∃ kept ∈ schedules, kept.name = schedule.name ∧ kept.trigger? action = some trigger
  | .addManaged jobs => ∀ job ∈ jobs, job.name ≠ schedule.jobName action
  | .advance _ | .addOneShot _ _ | .openFor | .stop | .step _ => True

theorem SchedulerMove.Retains.keeps {Body : Type} {schedule : Schedule} {action : Action}
    {trigger : Trigger} {rule : FiringRule} {move : SchedulerMove Body}
    (retains : move.Retains schedule action trigger)
    (accepted : FiringRule.ofTrigger trigger = .ok rule) :
    move.Keeps (schedule.jobName action) rule := by
  cases move with
  | replaceManaged jobs =>
    obtain ⟨body, schedules, orders, translated, rfl, kept, member, named, enabled⟩ := retains
    have same : kept.jobName action = schedule.jobName action := by
      rw [Schedule.jobName, named, Schedule.jobName]
    exact same ▸ Schedule.listed_of_jobs translated member enabled accepted body
  | addManaged jobs => exact retains
  | _ => trivial

namespace Scheduler

variable {Body : Type} {schedule : Schedule} {action : Action} {trigger : Trigger}
  {rule : FiringRule} {ready after : Scheduler Body} {moves : List (SchedulerMove Body)}
  {fire : Instant}

/-- A schedule has been registered for the first time, and retained in a run since. -/
structure Reloads (schedule : Schedule) (action : Action) (trigger : Trigger)
    (rule : FiringRule) (ready : Scheduler Body) (moves : List (SchedulerMove Body))
    (after : Scheduler Body) : Prop where
  registered : ∃ settings clock fresh body schedules, Reachable settings clock fresh ∧
    (∀ timer ∈ fresh.managed, timer.name ≠ schedule.jobName action) ∧ schedule ∈ schedules ∧
    fresh.registerSchedules body schedules = .ok ready
  enabled : schedule.trigger? action = some trigger
  accepted : FiringRule.ofTrigger trigger = .ok rule
  run : Run ready moves after
  retains : ∀ move ∈ moves, move.Retains schedule action trigger

/-- Swapping for a valid set that has the schedule, its trigger unchanged, retains it. -/
theorem retains_of_replaceSchedules {body : Order → Body} {schedules : List Schedule}
    (replaced : ready.replaceSchedules body schedules = .ok after) {kept : Schedule}
    (member : kept ∈ schedules) (named : kept.name = schedule.name)
    (enabled : kept.trigger? action = some trigger) :
    ∃ move : SchedulerMove Body, ready.move? move = some after ∧
      move.Retains schedule action trigger := by
  obtain ⟨orders, translated, moved⟩ := move?_of_replaceSchedules replaced
  exact ⟨_, moved, body, schedules, orders, translated, rfl, kept, member, named, enabled⟩

theorem Reloads.begins (reloads : Reloads schedule action trigger rule ready moves after)
    (least : rule.NextIsLeast ready.zone ready.clock) (fires : rule.Fires ready.zone fire)
    (later : ready.clock < fire) :
    ready.Carries (schedule.jobName action) rule ready.zone ready.clock ∧
      ready.Ahead (schedule.jobName action) ready.clock fire ∧
      ready.invocations (schedule.jobName action) fire = 0 := by
  obtain ⟨settings, start, fresh, body, schedules, reachable, unused, member, registered⟩ :=
    reloads.registered
  obtain ⟨orders, translated, moved⟩ := moved_of_registerSchedules registered
  have listed := Schedule.listed_of_jobs translated member reloads.enabled reloads.accepted body
  have carries := moved.carries_of_unused reachable.tidy unused listed.consistent
  have clock : ready.clock = fresh.clock := by
    cases moved
    rw [insertJobs_eq]
  refine ⟨moved.zone ▸ clock ▸ carries, ?_, ?_⟩
  · rw [clock] at least later
    exact ahead_of_added moved.added_subset moved.zone.symm listed least fires later
  · refine List.countP_eq_zero.mpr fun done handed same => ?_
    have timely := carries.tidy.fires done handed
    have due : done.due = some fire := (of_decide_eq_true same).2
    exact absurd later (Int.not_lt.mpr (Int.le_trans (timely.due fire due) timely.time))

theorem Ahead.not_settled {name : String} {origin : Instant}
    (ahead : ready.Ahead name origin fire) (tidy : ready.Tidy) (running : ready.isRunning = true)
    (reached : fire ≤ ready.clock) : ¬ ready.Settled := by
  intro settled
  obtain ⟨timer, member, _, at_⟩ := ahead
  obtain ⟨opened, not_shut⟩ := isRunning_iff.mp running
  have settled := settled timer (mem_managed.mp member).1 (tidy.live member not_shut)
  rcases at_ with gate | ⟨due, at_, _, before⟩
  · rw [gate] at settled
    cases opened.symm.trans settled
  · cases phase : timer.phase with
    | asleep instant =>
      rw [phase] at settled at_
      cases at_
      exact absurd settled (Int.not_lt.mpr (Int.le_trans before reached))
    | queued | holding =>
      rw [phase] at settled
      exact settled
    | gate | finished => simp [phase, TimerPhase.due?] at at_

/-- A fire of a schedule that stays leads to one invocation, unless the schedule's job was
renewed, by a swap or at the gate, when the fire was due and had not led to one. Then it
leads to none. -/
theorem invoked_once_unless_lost
    (reloads : Reloads schedule action trigger rule ready moves after)
    (exact_ : rule.ExactIn ready.zone ready.clock after.clock) (running : after.isRunning = true)
    (settled : after.Settled) (fires : rule.Fires ready.zone fire) (later : ready.clock < fire)
    (reached : fire ≤ after.clock) :
    (¬ ready.Loses moves (schedule.jobName action) fire →
      after.invocations (schedule.jobName action) fire = 1) ∧
    (ready.Loses moves (schedule.jobName action) fire →
      after.invocations (schedule.jobName action) fire = 0) := by
  have not_shut := (isRunning_iff.mp running).2
  have keeps (move : SchedulerMove Body) (member : move ∈ moves) :=
    (reloads.retains move member).keeps reloads.accepted
  obtain ⟨carries, ahead, none_yet⟩ :=
    reloads.begins (exact_ _ (Int.le_refl _) reloads.run.clock_le) fires later
  refine ⟨fun kept => ?_, reloads.run.not_invoked carries keeps exact_ later⟩
  rcases reloads.run.fate carries keeps exact_ later fires not_shut ahead none_yet with
    ahead | once | lost
  · exact absurd settled (ahead.not_settled (reloads.run.tidy carries.tidy) running reached)
  · exact once
  · exact absurd lost kept

/-! A schedule of one action, every day at nine, and a single job that takes the only permit. -/

def nineOclock : TimeOfDay := ⟨9, 0, 0, by decide, by decide, by decide⟩

def morningShift : Schedule :=
  ⟨"morning", ⟨.vm, "vm-1", "folder-1"⟩, some (.daily nineOclock), none⟩

def morningJobs : List (Job String) := [⟨"morning:start", .daily nineOclock, "start"⟩]

def beforeNine : Scheduler String :=
  { start ⟨.machine, 1, 0⟩ (.ofSecond 1709715540) with
    timers := [⟨0, "hold", false, .once, "hold", true, false, none, .gate⟩,
      ⟨1, "morning:start", true, .recurring (.daily nineOclock), "start", true, false, none, .gate⟩]
    nextId := 2 }

theorem reloads_morningShift {moves : List (SchedulerMove String)} {after : Scheduler String}
    (run : Run beforeNine moves after)
    (retains : ∀ move ∈ moves, move.Retains morningShift .start (.daily nineOclock)) :
    Reloads morningShift .start (.daily nineOclock) (.daily nineOclock) beforeNine moves after where
  registered := by
    let hold : Timer String := ⟨0, "hold", false, .once, "hold", true, false, none, .gate⟩
    let fresh : Scheduler String :=
      { start ⟨.machine, 1, 0⟩ (.ofSecond 1709715540) with timers := [hold], nextId := 1 }
    refine ⟨⟨.machine, 1, 0⟩, .ofSecond 1709715540, fresh, Order.action, [morningShift], ?_, ?_,
      List.mem_singleton_self _, rfl⟩
    · exact ⟨[.addOneShot "hold" "hold"], .next rfl .done⟩
    · intro timer member
      cases member
  enabled := rfl
  accepted := rfl
  run := run
  retains := retains

theorem morningJobs_retained :
    (SchedulerMove.replaceManaged morningJobs).Retains morningShift .start (.daily nineOclock) :=
  ⟨Order.action, [morningShift], _, rfl, rfl, morningShift, List.mem_singleton_self _, rfl, rfl⟩

theorem fires_nineOclock :
    (FiringRule.daily nineOclock).Fires beforeNine.zone (.ofSecond 1709715600) :=
  ⟨nineOclock, 19788, rfl, ⟨trivial, trivial⟩, rfl⟩

/-- The set is swapped half a minute after nine, when the shift has begun. -/
theorem invoked_once_unless_lost_of_begun :
    let nine : Instant := .ofSecond 1709715600
    let moves : List (SchedulerMove String) := [.openFor, .step (.pass 0), .step .grant,
      .step (.handOver 0), .step (.pass 1), .advance (.ofSecond 1709715630), .step (.wake 1),
      .step (.finish 3), .step .grant, .step (.handOver 1), .replaceManaged morningJobs,
      .step (.pass 5)]
    let after : Scheduler String := { beforeNine with
      clock := .ofSecond 1709715630
      opened := true
      free := 0
      timers := [
        ⟨0, "hold", false, .once, "hold", true, false, some (.ofSecond 1709715540), .finished⟩,
        ⟨1, "morning:start", true, .recurring (.daily nineOclock), "start", false, true,
          some (.ofSecond 1709715540), .asleep (.ofSecond 1709802000)⟩,
        ⟨5, "morning:start", true, .recurring (.daily nineOclock), "start", true, false,
          some (.ofSecond 1709715630), .asleep (.ofSecond 1709802000)⟩]
      executions := [⟨4, 1, "morning:start", some nine, "start"⟩]
      calls := [⟨2, false, .waiting⟩]
      fires := [⟨1, "morning:start", some nine, .ofSecond 1709715630⟩,
        ⟨0, "hold", none, .ofSecond 1709715540⟩]
      nextId := 6 }
    Reloads morningShift .start (.daily nineOclock) (.daily nineOclock) beforeNine moves after ∧
      (FiringRule.daily nineOclock).ExactIn beforeNine.zone beforeNine.clock after.clock ∧
      after.isRunning = true ∧ after.Settled ∧
      (FiringRule.daily nineOclock).Fires beforeNine.zone nine ∧ beforeNine.clock < nine ∧
      nine ≤ after.clock ∧ after.invocations (morningShift.jobName .start) nine = 1 ∧
      (¬ beforeNine.Loses moves (morningShift.jobName .start) nine →
        after.invocations (morningShift.jobName .start) nine = 1) ∧
      (beforeNine.Loses moves (morningShift.jobName .start) nine →
        after.invocations (morningShift.jobName .start) nine = 0) := by
  intro nine moves after
  have run : Run beforeNine moves after := by
    repeat refine .next rfl ?_
    exact .done
  have reloads := reloads_morningShift run (by
    repeat' refine List.forall_mem_cons.mpr ⟨?_, ?_⟩
    all_goals first | trivial | exact morningJobs_retained | exact List.forall_mem_nil _)
  have exact_ : (FiringRule.daily nineOclock).ExactIn beforeNine.zone beforeNine.clock
      after.clock := by
    have unchanging : beforeNine.zone.Unchanging := fun _ _ => rfl
    exact FiringRule.exactIn_of_orderly reloads.accepted (by decide) unchanging.orderly
      (fun _ => unchanging.forward) (by decide +kernel)
  have settled : after.Settled := by decide
  have before : beforeNine.clock < nine := by decide
  have reached : nine ≤ after.clock := by decide
  exact ⟨reloads, exact_, rfl, settled, fires_nineOclock, before, reached, by decide,
    invoked_once_unless_lost reloads exact_ rfl settled fires_nineOclock before reached⟩

/-- If the swap comes while the timer of the shift still waits for the permit, the shift
does not begin on that day. -/
theorem fire_lost_in_reload :
    ¬ ∀ (schedule : Schedule) (action : Action) (trigger : Trigger) (rule : FiringRule)
      (ready closed after : Scheduler String) (moves : List (SchedulerMove String))
      (fire : Instant),
      Reloads schedule action trigger rule ready moves after → trigger.kind ≠ .interval →
      ready.MadeFrom moves closed .openFor → closed.opened = false → after.isRunning = true →
      after.Settled → rule.Fires ready.zone fire → closed.clock < fire → fire ≤ after.clock →
      after.invocations (schedule.jobName action) fire = 1 := by
  intro invoked
  let moves : List (SchedulerMove String) := [.openFor, .step (.pass 0), .step .grant,
    .step (.handOver 0), .step (.pass 1), .advance (.ofSecond 1709715630), .step (.wake 1),
    .replaceManaged morningJobs, .step (.leave 1), .step (.pass 4), .step (.finish 3)]
  let after : Scheduler String := { beforeNine with
    clock := .ofSecond 1709715630
    opened := true
    timers := [
      ⟨0, "hold", false, .once, "hold", true, false, some (.ofSecond 1709715540), .finished⟩,
      ⟨1, "morning:start", true, .recurring (.daily nineOclock), "start", false, true,
        some (.ofSecond 1709715540), .finished⟩,
      ⟨4, "morning:start", true, .recurring (.daily nineOclock), "start", true, false,
        some (.ofSecond 1709715630), .asleep (.ofSecond 1709802000)⟩]
    executions := []
    calls := [⟨2, false, .waiting⟩]
    fires := [⟨0, "hold", none, .ofSecond 1709715540⟩]
    nextId := 5 }
  have run : Run beforeNine moves after := by
    repeat refine .next rfl ?_
    exact .done
  have reloads := reloads_morningShift run (by
    repeat' refine List.forall_mem_cons.mpr ⟨?_, ?_⟩
    all_goals first | trivial | exact morningJobs_retained | exact List.forall_mem_nil _)
  have settled : after.Settled := by decide
  have once := invoked _ _ _ _ _ beforeNine _ _ _ reloads (by decide)
    ⟨[], moves.tail, rfl, .done⟩ rfl rfl settled fires_nineOclock (by decide) (by decide)
  exact absurd once (by decide)

end Scheduler

end PowerRota
