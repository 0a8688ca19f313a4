import PowerRota.Scheduler.Step

/-! Runs of a scheduler: calls from outside, the passing of time, and steps of its own,
in any order.

`Step` says once what each step does and when it can be taken; everything that runs
keep is proved from it. -/

set_option autoImplicit false

namespace PowerRota

open PowerRota.Calendar

inductive SchedulerMove (Body : Type) where
  | advance (clock : Instant)
  | addManaged (jobs : List (Job Body))
  | addOneShot (name : String) (body : Body)
  | replaceManaged (jobs : List (Job Body))
  | openFor
  | stop
  | step (event : SchedulerEvent)

def TimerPhase.waits : TimerPhase → Bool
  | .gate | .asleep _ | .queued _ => true
  | .holding _ | .finished => false

def TimerPhase.holdsPermit : TimerPhase → Bool
  | .holding _ => true
  | _ => false

namespace Scheduler

variable {Body : Type} {scheduler after : Scheduler Body}

/-- Make a move. A call that is refused is none. -/
def move? (scheduler : Scheduler Body) : SchedulerMove Body → Option (Scheduler Body)
  | .advance clock => some (scheduler.advance clock)
  | .addManaged jobs => (scheduler.addManaged jobs).toOption
  | .addOneShot name body => (scheduler.addOneShot name body).toOption
  | .replaceManaged jobs => (scheduler.replaceManaged jobs).toOption
  | .openFor => (scheduler.openFor.map Prod.fst).toOption
  | .stop => some scheduler.stop
  | .step event => scheduler.step? event

inductive Run : Scheduler Body → List (SchedulerMove Body) → Scheduler Body → Prop where
  | done {scheduler : Scheduler Body} : Run scheduler [] scheduler
  | next {scheduler middle after : Scheduler Body} {move : SchedulerMove Body}
      {moves : List (SchedulerMove Body)} :
      scheduler.move? move = some middle → Run middle moves after →
      Run scheduler (move :: moves) after

def Reachable (settings : SchedulerSettings) (clock : Instant) (scheduler : Scheduler Body) :
    Prop :=
  ∃ moves, Run (.start settings clock) moves scheduler

theorem Run.keeps {kept : Scheduler Body → Prop} {moves : List (SchedulerMove Body)}
    (run : Run scheduler moves after)
    (step : ∀ {before next : Scheduler Body} {move : SchedulerMove Body}, kept before →
      move ∈ moves → before.move? move = some next → kept next)
    (first : kept scheduler) : kept after := by
  induction run with
  | done => exact first
  | next moved _ ih =>
    apply ih (fun before member => step before (List.mem_cons_of_mem _ member))
    exact step first (List.mem_cons_self ..) moved

def noteOpening (scheduler : Scheduler Body) (id : Nat) : Scheduler Body :=
  scheduler.updateTimer id fun timer => { timer with opened := some scheduler.clock }

def phaseAfterFire (scheduler : Scheduler Body) (firing : Firing) (due : Option Instant) :
    TimerPhase :=
  match firing, due with
  | .recurring rule, some due => scheduler.phaseAfter rule due
  | _, _ => .finished

def fire (scheduler : Scheduler Body) (timer : Timer Body) (due : Option Instant) :
    Scheduler Body :=
  { scheduler.setPhase timer.id (scheduler.phaseAfterFire timer.firing due) with
    executions := scheduler.executions ++
      [⟨scheduler.nextId, timer.id, timer.name, due, timer.body⟩]
    fires := ⟨timer.id, timer.name, due, scheduler.clock⟩ :: scheduler.fires
    nextId := scheduler.nextId + 1 }

inductive Step (scheduler : Scheduler Body) : SchedulerEvent → Scheduler Body → Prop where
  | leave {timer : Timer Body} (member : timer ∈ scheduler.timers)
      (cancelled : scheduler.isCancelled timer = true) (waits : timer.phase.waits = true) :
      Step scheduler (.leave timer.id)
        { scheduler.setPhase timer.id .finished with
          queue := scheduler.queue.filter (· ≠ timer.id) }
  | passOnce {timer : Timer Body} (member : timer ∈ scheduler.timers)
      (opened : scheduler.opened = true) (phase : timer.phase = .gate)
      (firing : timer.firing = .once) :
      Step scheduler (.pass timer.id) ((scheduler.noteOpening timer.id).enqueue timer.id none)
  | passRecurring {timer : Timer Body} {rule : FiringRule} (member : timer ∈ scheduler.timers)
      (opened : scheduler.opened = true) (phase : timer.phase = .gate)
      (firing : timer.firing = .recurring rule) :
      Step scheduler (.pass timer.id)
        ((scheduler.noteOpening timer.id).setPhase timer.id
          (scheduler.phaseAfter rule scheduler.clock))
  | wake {timer : Timer Body} {due : Instant} (member : timer ∈ scheduler.timers)
      (phase : timer.phase = .asleep due) (reached : due ≤ scheduler.clock) :
      Step scheduler (.wake timer.id) (scheduler.enqueue timer.id (some due))
  | grant {timer : Timer Body} {due : Option Instant} {rest : List Nat}
      (member : timer ∈ scheduler.timers) (first : scheduler.queue = timer.id :: rest)
      (free : 0 < scheduler.free) (phase : timer.phase = .queued due) :
      Step scheduler .grant
        { scheduler.setPhase timer.id (.holding due) with
          queue := rest, free := scheduler.free - 1 }
  | handOver {timer : Timer Body} {due : Option Instant} (member : timer ∈ scheduler.timers)
      (phase : timer.phase = .holding due) (live : scheduler.isCancelled timer = false) :
      Step scheduler (.handOver timer.id) (scheduler.fire timer due)
  | abandon {timer : Timer Body} {due : Option Instant} (member : timer ∈ scheduler.timers)
      (phase : timer.phase = .holding due) (cancelled : scheduler.isCancelled timer = true) :
      Step scheduler (.abandon timer.id)
        { scheduler.setPhase timer.id .finished with free := scheduler.free + 1 }
  | retire {timer : Timer Body} (member : timer ∈ scheduler.timers)
      (phase : timer.phase = .finished) :
      Step scheduler (.retire timer.id)
        { scheduler with timers := scheduler.timers.filter (·.id ≠ timer.id) }
  | finish {execution : Execution Body} (member : execution ∈ scheduler.executions) :
      Step scheduler (.finish execution.id)
        { scheduler with
          executions := scheduler.executions.filter (·.id ≠ execution.id)
          free := scheduler.free + 1 }
  | cancel {call : StartCall} (member : call ∈ scheduler.calls) :
      Step scheduler (.cancel call.id)
        (scheduler.updateCall call.id fun call => { call with cancelled := true })
  | windDown {call : StartCall} (member : call ∈ scheduler.calls)
      (stage : call.stage = .waiting) (asked : call.cancelled ∨ scheduler.shut) :
      Step scheduler (.windDown call.id)
        { scheduler.updateCall call.id fun call =>
            { call with
              stage := .draining (scheduler.clock.addNanos scheduler.settings.drainTimeout) } with
          shut := true }
  | return {call : StartCall} {deadline : Instant} (member : call ∈ scheduler.calls)
      (stage : call.stage = .draining deadline)
      (drained : scheduler.executions.isEmpty ∨ deadline ≤ scheduler.clock) :
      Step scheduler (.return call.id)
        (scheduler.updateCall call.id fun call => { call with stage := .returned })

theorem mem_of_timer? {id : Nat} {timer : Timer Body} (found : scheduler.timer? id = some timer) :
    timer ∈ scheduler.timers ∧ timer.id = id := by
  unfold timer? at found
  have fits := List.find?_some found
  exact ⟨List.mem_of_find?_eq_some found, eq_of_beq fits⟩

theorem mem_of_call? {id : Nat} {call : StartCall} (found : scheduler.call? id = some call) :
    call ∈ scheduler.calls ∧ call.id = id := by
  unfold call? at found
  have fits := List.find?_some found
  exact ⟨List.mem_of_find?_eq_some found, eq_of_beq fits⟩

theorem leave?_step {timer : Timer Body} (member : timer ∈ scheduler.timers)
    (stepped : scheduler.leave? timer = some after) :
    scheduler.Step (.leave timer.id) after := by
  unfold leave? at stepped
  split at stepped
  next cancelled =>
    split at stepped <;> cases stepped
    all_goals exact .leave member cancelled (by simp [*, TimerPhase.waits])
  next => cases stepped

theorem pass?_step {timer : Timer Body} (member : timer ∈ scheduler.timers)
    (stepped : scheduler.pass? timer = some after) :
    scheduler.Step (.pass timer.id) after := by
  unfold pass? at stepped
  split at stepped
  next open_ =>
    dsimp only at stepped
    split at stepped
    next firing =>
      cases stepped
      exact .passOnce member open_.1 open_.2 firing
    next rule firing =>
      cases stepped
      exact .passRecurring member open_.1 open_.2 firing
  next => cases stepped

theorem wake?_step {timer : Timer Body} (member : timer ∈ scheduler.timers)
    (stepped : scheduler.wake? timer = some after) :
    scheduler.Step (.wake timer.id) after := by
  unfold wake? at stepped
  split at stepped
  next due phase =>
    split at stepped
    next reached =>
      cases stepped
      exact .wake member phase reached
    next => cases stepped
  next => cases stepped

theorem grant?_step (stepped : scheduler.grant? = some after) : scheduler.Step .grant after := by
  unfold grant? at stepped
  split at stepped
  next id rest first =>
    split at stepped
    next free =>
      cases found : scheduler.timer? id with
      | none => simp [found] at stepped
      | some timer =>
        obtain ⟨member, rfl⟩ := mem_of_timer? found
        simp only [found] at stepped
        split at stepped
        next due phase =>
          cases stepped
          exact .grant member first free phase
        next => cases stepped
    next => cases stepped
  next => cases stepped

theorem handOver?_step {timer : Timer Body} (member : timer ∈ scheduler.timers)
    (stepped : scheduler.handOver? timer = some after) :
    scheduler.Step (.handOver timer.id) after := by
  unfold handOver? at stepped
  split at stepped
  next due phase =>
    split at stepped
    next => cases stepped
    next live =>
      cases stepped
      exact .handOver member phase (eq_false_of_ne_true live)
  next => cases stepped

theorem abandon?_step {timer : Timer Body} (member : timer ∈ scheduler.timers)
    (stepped : scheduler.abandon? timer = some after) :
    scheduler.Step (.abandon timer.id) after := by
  unfold abandon? at stepped
  split at stepped
  next due phase =>
    split at stepped
    next cancelled =>
      cases stepped
      exact .abandon member phase cancelled
    next => cases stepped
  next => cases stepped

theorem retire?_step {timer : Timer Body} (member : timer ∈ scheduler.timers)
    (stepped : scheduler.retire? timer = some after) :
    scheduler.Step (.retire timer.id) after := by
  unfold retire? at stepped
  split at stepped
  next phase =>
    cases stepped
    exact .retire member phase
  next => cases stepped

theorem finish?_step {id : Nat} (stepped : scheduler.finish? id = some after) :
    scheduler.Step (.finish id) after := by
  unfold finish? at stepped
  split at stepped
  next found =>
    obtain ⟨execution, member, same⟩ := List.any_eq_true.mp found
    obtain rfl := eq_of_beq same
    cases stepped
    exact .finish member
  next => cases stepped

theorem windDown?_step {call : StartCall} (member : call ∈ scheduler.calls)
    (stepped : scheduler.windDown? call = some after) :
    scheduler.Step (.windDown call.id) after := by
  unfold windDown? at stepped
  split at stepped
  next ready =>
    cases stepped
    exact .windDown member ready.1 ready.2
  next => cases stepped

theorem return?_step {call : StartCall} (member : call ∈ scheduler.calls)
    (stepped : scheduler.return? call = some after) :
    scheduler.Step (.return call.id) after := by
  unfold return? at stepped
  split at stepped
  next deadline stage =>
    split at stepped
    next drained =>
      cases stepped
      exact .return member stage drained
    next => cases stepped
  next => cases stepped

theorem step?_step {event : SchedulerEvent} (stepped : scheduler.step? event = some after) :
    scheduler.Step event after := by
  -- the event names a timer or a call by its id, or neither
  have ofTimer {id : Nat} {step? : Timer Body → Option (Scheduler Body)}
      (bound : (scheduler.timer? id).bind step? = some after) :
      ∃ timer ∈ scheduler.timers, timer.id = id ∧ step? timer = some after := by
    obtain ⟨timer, found, taken⟩ := Option.bind_eq_some_iff.mp bound
    obtain ⟨member, same⟩ := mem_of_timer? found
    exact ⟨timer, member, same, taken⟩
  have ofCall {id : Nat} {step? : StartCall → Option (Scheduler Body)}
      (bound : (scheduler.call? id).bind step? = some after) :
      ∃ call ∈ scheduler.calls, call.id = id ∧ step? call = some after := by
    obtain ⟨call, found, taken⟩ := Option.bind_eq_some_iff.mp bound
    obtain ⟨member, same⟩ := mem_of_call? found
    exact ⟨call, member, same, taken⟩
  cases event with
  | leave id =>
    obtain ⟨timer, member, rfl, taken⟩ := ofTimer stepped
    exact leave?_step member taken
  | pass id =>
    obtain ⟨timer, member, rfl, taken⟩ := ofTimer stepped
    exact pass?_step member taken
  | wake id =>
    obtain ⟨timer, member, rfl, taken⟩ := ofTimer stepped
    exact wake?_step member taken
  | grant => exact grant?_step stepped
  | handOver id =>
    obtain ⟨timer, member, rfl, taken⟩ := ofTimer stepped
    exact handOver?_step member taken
  | abandon id =>
    obtain ⟨timer, member, rfl, taken⟩ := ofTimer stepped
    exact abandon?_step member taken
  | retire id =>
    obtain ⟨timer, member, rfl, taken⟩ := ofTimer stepped
    exact retire?_step member taken
  | finish id => exact finish?_step stepped
  | cancel id =>
    obtain ⟨call, found, same⟩ := Option.map_eq_some_iff.mp stepped
    obtain ⟨member, rfl⟩ := mem_of_call? found
    exact same ▸ .cancel member
  | windDown id =>
    obtain ⟨call, member, rfl, taken⟩ := ofCall stepped
    exact windDown?_step member taken
  | «return» id =>
    obtain ⟨call, member, rfl, taken⟩ := ofCall stepped
    exact return?_step member taken

end Scheduler

end PowerRota
