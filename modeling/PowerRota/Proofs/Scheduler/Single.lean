import PowerRota.Proofs.Scheduler.Chain
import PowerRota.Proofs.Scheduler.Queue

/-! The life of a job that fires once.

Nothing but its own timer takes such a job off the register, and the timer does so when it
has handed over the execution, or when the scheduler is shut down. -/

set_option autoImplicit false

namespace PowerRota

open PowerRota.Calendar

structure Timer.IsSingle {Body : Type} (timer : Timer Body) (name : String) (body : Body) :
    Prop where
  named : timer.name = name
  invokes : timer.body = body
  firing : timer.firing = .once
  managed : timer.managed = false
  registered : timer.registered = true

theorem Timer.IsSingle.rephase {Body : Type} {timer : Timer Body} {name : String} {body : Body}
    (job : timer.IsSingle name body) (opened : Option Instant) (phase : TimerPhase) :
    Timer.IsSingle { timer with opened, phase } name body :=
  ⟨job.named, job.invokes, job.firing, job.managed, job.registered⟩

namespace Scheduler

variable {Body : Type} {scheduler before added after : Scheduler Body} {name : String}
  {body : Body} {id : Nat} {timer : Timer Body} {handed fires : List Fire}
  {move : SchedulerMove Body} {moves : List (SchedulerMove Body)}

/-- A single job has fired, or never will because the scheduler is shut down. -/
inductive Spent (scheduler : Scheduler Body) (name : String) : List Fire → Prop where
  | fired {fire : Fire} (named : fire.name = name) (undated : fire.due = none) :
      Spent scheduler name [fire]
  | prevented (shut : scheduler.shut = true) : Spent scheduler name []

/-- Where the timer of a single job stands and what it has handed over. -/
inductive Lives (scheduler : Scheduler Body) (name : String) (body : Body) :
    Option (Timer Body) → List Fire → Prop where
  | waits {timer : Timer Body} (job : timer.IsSingle name body)
      (unfinished : timer.phase ≠ .finished) : Lives scheduler name body (some timer) []
  | finished {timer : Timer Body} {fires : List Fire} (job : timer.IsSingle name body)
      (phase : timer.phase = .finished) (spent : scheduler.Spent name fires) :
      Lives scheduler name body (some timer) fires
  | gone {fires : List Fire} (spent : scheduler.Spent name fires) :
      Lives scheduler name body none fires

theorem Lives.job (lives : scheduler.Lives name body (some timer) handed) :
    timer.IsSingle name body := by
  cases lives with
  | waits job | finished job => exact job

theorem Lives.length_le {standing : Option (Timer Body)}
    (lives : scheduler.Lives name body standing handed) : handed.length ≤ 1 := by
  cases lives with
  | waits => exact Nat.zero_le _
  | finished _ _ spent | gone spent => cases spent <;> simp

theorem Lives.undated {standing : Option (Timer Body)}
    (lives : scheduler.Lives name body standing handed) :
    ∀ fire ∈ handed, fire.name = name ∧ fire.due = none := by
  have of_spent {fires : List Fire} (spent : scheduler.Spent name fires) :
      ∀ fire ∈ fires, fire.name = name ∧ fire.due = none := by
    cases spent with
    | fired named undated => exact List.forall_mem_singleton.mpr ⟨named, undated⟩
    | prevented => exact List.forall_mem_nil _
  cases lives with
  | waits => exact List.forall_mem_nil _
  | finished _ _ spent | gone spent => exact of_spent spent

theorem Regular.shut_of_isCancelled (regular : scheduler.Regular timer)
    (job : timer.IsSingle name body) (cancelled : scheduler.isCancelled timer = true) :
    scheduler.shut = true := by
  refine (Bool.or_eq_true_iff.mp cancelled).resolve_left ?_
  rw [regular.register, job.registered]
  exact Bool.false_ne_true

theorem Lives.turn (lives : scheduler.Lives name body (some timer) handed)
    (regular : scheduler.Regular timer) {next : Option (Timer Body)}
    (turn : scheduler.Turn timer move next fires) :
    scheduler.Lives name body next (fires ++ handed) := by
  have single := regular.single lives.job.firing
  cases lives with
  | waits job unfinished =>
    have stopped := regular.shut_of_isCancelled job
    cases turn with
    | stay => exact .waits job unfinished
    | drop _ managed => cases job.managed.symm.trans managed
    | leave cancelled | abandon _ cancelled =>
      exact .finished (job.rephase _ _) rfl (.prevented (stopped cancelled))
    | passOnce => exact .waits (job.rephase _ _) (by simp)
    | passRecurring _ _ firing => cases job.firing.symm.trans firing
    -- a single job is for no fire, so it is never asleep
    | wake phase => simp [phase, TimerPhase.due?] at single
    | grant => exact .waits (job.rephase _ _) (by simp)
    | fire phase =>
      rw [phase] at single
      refine .finished (job.rephase _ _) ?_ (.fired job.named single)
      show scheduler.phaseAfterFire timer.firing _ = .finished
      rw [job.firing]
      rfl
    | retire finished => exact absurd finished unfinished
  | finished job phase spent =>
    cases turn with
    | stay => exact .finished job phase spent
    | drop _ managed => cases job.managed.symm.trans managed
    | leave _ waits => simp [phase, TimerPhase.waits] at waits
    | retire => exact .gone spent
    | passOnce _ other | passRecurring _ other | wake other | grant other | fire other
    | abandon other => cases phase.symm.trans other

theorem Moved.lives (moved : scheduler.Moved move after) {standing : Option (Timer Body)}
    (lives : scheduler.Lives name body standing handed) :
    after.Lives name body standing handed := by
  have still {fires : List Fire} (spent : scheduler.Spent name fires) : after.Spent name fires := by
    cases spent with
    | fired named undated => exact .fired named undated
    | prevented shut => exact .prevented (moved.stays_shut shut)
  cases lives with
  | waits job unfinished => exact .waits job unfinished
  | finished job phase spent => exact .finished job phase (still spent)
  | gone spent => exact .gone (still spent)

theorem Turn.retires (turn : scheduler.Turn timer move none fires) :
    move = .step (.retire timer.id) := by
  cases turn
  rfl

theorem Moved.quiet_while_closed (moved : scheduler.Moved move after) (tidy : scheduler.Tidy)
    (quiet : scheduler.opened = false → scheduler.fires = []) (closed : after.opened = false) :
    after.fires = [] := by
  have was_closed : scheduler.opened = false :=
    eq_false_of_ne_true fun opened => by simp [moved.stays_open opened] at closed
  rcases moved.quiet_or_fire with same | ⟨timer, member, due, phase, live, _⟩
  · exact same.trans (quiet was_closed)
  · have gate := (tidy.timers timer member).closed was_closed live
    cases phase.symm.trans gate

theorem Reachable.quiet_while_closed {settings : SchedulerSettings} {clock : Instant}
    (reachable : Reachable settings clock scheduler) (closed : scheduler.opened = false) :
    scheduler.fires = [] := by
  obtain ⟨moves, run⟩ := reachable
  have kept : scheduler.opened = false → scheduler.fires = [] := by
    apply run.keeps_tidy (start_tidy settings clock)
    · exact fun tidy _ moved quiet => moved.quiet_while_closed tidy quiet
    · exact fun _ => rfl
  exact kept closed

theorem Run.lives (run : Run scheduler moves after) (tidy : scheduler.Tidy)
    (used : id < scheduler.nextId)
    (lives : scheduler.Lives name body (scheduler.timer? id) (scheduler.firesOf id)) :
    after.Lives name body (after.timer? id) (after.firesOf id) := by
  have kept : id < after.nextId ∧ after.Lives name body (after.timer? id) (after.firesOf id) := by
    apply run.keeps_tidy tidy
    · rintro before next move tidy _ moved ⟨used, lives⟩
      refine ⟨Nat.lt_of_lt_of_le used moved.inherits.numbered, ?_⟩
      cases found : before.timer? id with
      | none =>
        obtain ⟨gone, quiet⟩ := moved.stays_gone used found
        rw [gone, quiet]
        rw [found] at lives
        exact moved.lives lives
      | some timer =>
        obtain ⟨member, rfl⟩ := mem_of_timer? found
        obtain ⟨fires, turn, listed⟩ := moved.turn tidy.sound member
        rw [found] at lives
        rw [listed]
        exact moved.lives (lives.turn (tidy.timers timer member) turn)
    · exact ⟨used, lives⟩
  exact kept.2

theorem Run.stays_unretired (run : Run scheduler moves after) (tidy : scheduler.Tidy)
    (unretired : .step (.retire id) ∉ moves) (present : ∃ timer, scheduler.timer? id = some timer) :
    ∃ timer, after.timer? id = some timer := by
  apply run.keeps_tidy tidy
  · rintro before next move tidy made moved ⟨timer, found⟩
    obtain ⟨member, rfl⟩ := mem_of_timer? found
    obtain ⟨_, turn, _⟩ := moved.turn tidy.sound member
    -- only by its retirement does a timer go
    cases stands : next.timer? timer.id with
    | some later => exact ⟨later, rfl⟩
    | none =>
      rw [stands] at turn
      exact absurd (turn.retires ▸ made) unretired
  · exact present

theorem Run.stays_gone (run : Run scheduler moves after) (used : id < scheduler.nextId)
    (gone : scheduler.timer? id = none) : after.timer? id = none := by
  have kept : id < after.nextId ∧ after.timer? id = none := by
    apply run.keeps
    · rintro before next move ⟨used, gone⟩ _ moved
      have moved := move?_moved moved
      exact ⟨Nat.lt_of_lt_of_le used moved.inherits.numbered, (moved.stays_gone used gone).1⟩
    · exact ⟨used, gone⟩
  exact kept.2

theorem Run.gone_of_retired (run : Run scheduler moves after) (sound : scheduler.Sound)
    (retired : .step (.retire id) ∈ moves) : after.timer? id = none := by
  induction run with
  | done => cases retired
  | @next before middle after move rest moved run ih =>
    have moved := move?_moved moved
    rcases List.mem_cons.mp retired with same | later
    · subst same
      cases moved with
      | step stepped =>
        generalize which : SchedulerEvent.retire id = event at stepped
        cases stepped with
        | retire member phase =>
          cases which
          refine run.stays_gone (sound.timers_numbered _ member) ?_
          simp [timer?]
        | _ => cases which
    · exact ih (sound.move moved) later

/-- What becomes of a single job in a run. -/
structure Life (moves : List (SchedulerMove Body)) (after : Scheduler Body) (id : Nat)
    (name : String) (body : Body) : Prop where
  /-- The job does not fire before the scheduler is opened. -/
  closed : after.opened = false → after.firesOf id = []
  once : (after.firesOf id).length ≤ 1
  fires : ∀ fire ∈ after.firesOf id, fire.name = name ∧ fire.due = none
  /-- Nothing takes the job off the register before its own timer does. -/
  stays : .step (.retire id) ∉ moves →
    ∃ timer ∈ after.registered, timer.id = id ∧ timer.IsSingle name body
  goes : .step (.retire id) ∈ moves → ∀ timer ∈ after.timers, timer.id ≠ id
  /-- The timer does not do so before it has handed over the execution. -/
  handed : after.shut = false → .step (.retire id) ∈ moves → (after.firesOf id).length = 1
  served : after.isRunning = true → 0 < after.free →
    (∀ timer ∈ after.timers, after.nextEvent? timer = none) → (after.firesOf id).length = 1

theorem Lives.spent (lives : scheduler.Lives name body none handed) :
    scheduler.Spent name handed := by
  cases lives with
  | gone spent => exact spent

theorem Spent.length_eq (spent : scheduler.Spent name handed) (running : scheduler.shut = false) :
    handed.length = 1 := by
  cases spent with
  | fired => rfl
  | prevented shut => cases running.symm.trans shut

/-- Where no timer has a step to take and a permit is free, a single job has been served. -/
theorem Lives.served (lives : scheduler.Lives name body (scheduler.timer? id) handed)
    (tidy : scheduler.Tidy) (lined : scheduler.Lined) (running : scheduler.isRunning = true)
    (free : 0 < scheduler.free)
    (still : ∀ timer ∈ scheduler.timers, scheduler.nextEvent? timer = none) :
    handed.length = 1 := by
  obtain ⟨opened, not_shut⟩ := isRunning_iff.mp running
  cases found : scheduler.timer? id with
  | none =>
    rw [found] at lives
    exact lives.spent.length_eq not_shut
  | some timer =>
    rw [found] at lives
    obtain ⟨member, _⟩ := mem_of_timer? found
    obtain ⟨_, idle⟩ := idle_of_nextEvent?_eq_none (still timer member)
    cases idle with
    | gate _ closed => cases opened.symm.trans closed
    | asleep phase =>
      have single := (tidy.timers timer member).single lives.job.firing
      simp [phase, TimerPhase.due?] at single
    | queued phase =>
      have listed := (lined.waits timer member).mpr (by rw [phase]; rfl)
      rw [lined.queue_eq_nil free still] at listed
      cases listed

/-- However a run interleaves, a single job is behind the gate until the scheduler is opened,
stays on the register until its own timer is done with it, and is served once. -/
theorem single_job_served_once {settings : SchedulerSettings} {clock : Instant}
    (reachable : Reachable settings clock before)
    (accepted : before.addOneShot name body = .ok added) (run : Run added moves after) :
    Life moves after before.nextId name body := by
  have moved : before.move? (.addOneShot name body) = some added := by
    rw [move?, accepted]
    rfl
  have reached : Reachable settings clock after := by
    obtain ⟨earlier, first⟩ := reachable
    exact ⟨_, first.trans (.next moved run)⟩
  have tidy := (move?_moved moved).tidy reachable.tidy
  obtain ⟨_, rfl⟩ := addOneShot_eq_ok_iff.mp accepted
  -- the timer of the job is the one that was put at the end
  let timer : Timer Body := ⟨before.nextId, name, false, .once, body, true, false, none, .gate⟩
  have member : timer ∈ (before.insert name false .once body).timers :=
    List.mem_append_right _ (List.mem_singleton_self _)
  have found := (timer?_eq_some_iff tidy.sound).mpr ⟨member, rfl⟩
  have silent := (tidy.timers timer member).silent rfl
  have used : before.nextId < (before.insert name false .once body).nextId := Nat.lt_succ_self _
  have lives :
      after.Lives name body (after.timer? before.nextId) (after.firesOf before.nextId) := by
    refine run.lives tidy used ?_
    rw [found, silent]
    exact .waits ⟨rfl, rfl, rfl, rfl, rfl⟩ (by simp [timer])
  constructor
  · intro closed
    unfold firesOf
    rw [reached.quiet_while_closed closed]
    rfl
  · exact lives.length_le
  · exact lives.undated
  · intro unretired
    obtain ⟨timer, present⟩ := run.stays_unretired tidy unretired ⟨timer, found⟩
    rw [present] at lives
    obtain ⟨listed, same⟩ := mem_of_timer? present
    exact ⟨timer, List.mem_filter.mpr ⟨listed, lives.job.registered⟩, same, lives.job⟩
  · intro retired other listed same
    have gone := run.gone_of_retired tidy.sound retired
    have present := (timer?_eq_some_iff reached.sound).mpr ⟨listed, same⟩
    cases gone.symm.trans present
  · intro running retired
    rw [run.gone_of_retired tidy.sound retired] at lives
    exact lives.spent.length_eq running
  · exact fun running free still => lives.served reached.tidy reached.lined running free still

/-- The job shares its name with a managed job and has to wait for the only permit. A swap
takes the other one off the register meanwhile. -/
theorem single_job_served_once_of_namesake :
    let rule : FiringRule := .interval (.seconds 1) rfl
    let before : Scheduler String :=
      { start ⟨.machine, 1, 0⟩ ⟨0⟩ with
        timers := [⟨0, "dev", true, .recurring rule, "sweep", true, false, none, .gate⟩]
        nextId := 1 }
    let added := before.insert "dev" false .once "fix"
    let moves : List (SchedulerMove String) := [.openFor, .step (.pass 0),
      .advance ⟨1000000000⟩, .step (.wake 0), .step (.pass 1), .step .grant,
      .step (.handOver 0), .replaceManaged [], .step (.leave 0), .step (.retire 0),
      .step (.finish 3), .step .grant, .step (.handOver 1), .step (.finish 4),
      .step (.retire 1)]
    let after : Scheduler String := { added with
      clock := ⟨1000000000⟩
      opened := true
      timers := []
      calls := [⟨2, false, .waiting⟩]
      fires := [⟨1, "dev", none, ⟨1000000000⟩⟩, ⟨0, "dev", some ⟨1000000000⟩, ⟨1000000000⟩⟩]
      nextId := 5 }
    Reachable ⟨.machine, 1, 0⟩ ⟨0⟩ before ∧ before.addOneShot "dev" "fix" = .ok added ∧
      Run added moves after ∧ Life moves after 1 "dev" "fix" ∧ after.isRunning = true ∧
      0 < after.free ∧ (∀ timer ∈ after.timers, after.nextEvent? timer = none) ∧
      (after.firesOf 1).length = 1 := by
  intro rule before added moves after
  have reachable : Reachable ⟨.machine, 1, 0⟩ ⟨0⟩ before :=
    ⟨[.addManaged [⟨"dev", rule, "sweep"⟩]], .next rfl .done⟩
  have accepted : before.addOneShot "dev" "fix" = .ok added := rfl
  -- the managed job begins first, and the swap comes while the other one is in the queue
  let begun : Scheduler String := { added with
    clock := ⟨1000000000⟩
    opened := true
    free := 0
    queue := [1]
    timers := [⟨0, "dev", true, .recurring rule, "sweep", true, false, some ⟨0⟩,
        .asleep ⟨2000000000⟩⟩,
      ⟨1, "dev", false, .once, "fix", true, false, some ⟨1000000000⟩, .queued none⟩]
    executions := [⟨3, 0, "dev", some ⟨1000000000⟩, "sweep"⟩]
    calls := [⟨2, false, .waiting⟩]
    fires := [⟨0, "dev", some ⟨1000000000⟩, ⟨1000000000⟩⟩]
    nextId := 4 }
  have first : Run added (moves.take 7) begun := by
    repeat refine .next rfl ?_
    exact .done
  have second : Run begun (moves.drop 7) after := by
    repeat refine .next rfl ?_
    exact .done
  have run : Run added moves after := first.trans second
  have life := single_job_served_once reachable accepted run
  have still : ∀ timer ∈ after.timers, after.nextEvent? timer = none := List.forall_mem_nil _
  have free : 0 < after.free := Nat.zero_lt_one
  exact ⟨reachable, accepted, run, life, rfl, free, still, life.served rfl free still⟩

end Scheduler

end PowerRota
