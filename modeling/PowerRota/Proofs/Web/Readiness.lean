import PowerRota.Proofs.Scheduler.Turn
import PowerRota.Proofs.Shutdown.Run
import PowerRota.Web.Response

/-! What the page for readiness says over a run of a scheduler and a shutdown controller.

The page is made from two readings, first of the phase and then of the scheduler, and other things
may happen between them. A probe is stamped with the moments of both, counted in moves of the run.
What decides the answer goes one way only: a scheduler is opened once and for all, it is shut once
and for all, and the phase never comes back to running. -/

set_option autoImplicit false

namespace PowerRota

namespace Scheduler

variable {Body : Type} {scheduler after : Scheduler Body} {move : SchedulerMove Body}

theorem Moved.opened_iff (moved : scheduler.Moved move after) :
    after.opened = true ↔ scheduler.opened = true ∨ move = .openFor := by
  cases moved with
  | advance clock =>
    unfold Scheduler.advance
    split <;> simp
  | step stepped => cases stepped <;> exact ⟨Or.inl, fun opened => opened.resolve_right (by simp)⟩
  | addManaged | replaceManaged =>
    rw [insertJobs_eq]
    exact ⟨Or.inl, fun opened => opened.resolve_right (by simp)⟩
  | openFor => simp
  | _ => exact ⟨Or.inl, fun opened => opened.resolve_right (by simp)⟩

theorem Moved.shut_iff (moved : scheduler.Moved move after) :
    after.shut = true ↔
      scheduler.shut = true ∨ move = .stop ∨ ∃ call, move = .step (.windDown call) := by
  cases moved with
  | advance clock =>
    unfold Scheduler.advance
    split <;> simp
  | step stepped =>
    cases stepped with
    | windDown => simp
    | _ => exact ⟨Or.inl, fun shut => shut.resolve_right (by simp)⟩
  | addManaged | replaceManaged =>
    rw [insertJobs_eq]
    exact ⟨Or.inl, fun shut => shut.resolve_right (by simp)⟩
  | stop => simp [Scheduler.stop]
  | _ => exact ⟨Or.inl, fun shut => shut.resolve_right (by simp)⟩

end Scheduler

theorem ShutdownController.Moved.phase_ne_running {controller next : ShutdownController}
    {move : ShutdownMove} (moved : controller.Moved move next)
    (left : controller.phase ≠ .running) : next.phase ≠ .running := by
  cases moved with
  | advance clock =>
    unfold ShutdownController.advance
    split <;> exact left
  | finish _ =>
    unfold ShutdownController.notice
    split <;> exact left
  | panic _ =>
    unfold ShutdownController.notice
    split <;> exact left
  | wait _ =>
    unfold ShutdownController.notice
    split <;> exact left
  | announce _ => simp
  | conclude _ _ => simp
  | _ => exact left

end PowerRota

namespace PowerRota.Web

open PowerRota.Calendar

structure Service (Body : Type) where
  scheduler : Scheduler Body
  controller : ShutdownController

inductive ServiceMove (Body : Type) where
  | scheduler (move : SchedulerMove Body)
  | controller (move : ShutdownMove)

/-- A request for readiness, by the numbers of moves before its two readings. -/
structure Probe where
  asked : Nat
  answered : Nat
  inOrder : asked ≤ answered

/-- Neither reading of a later probe comes before that of an earlier one. -/
def Probe.Precedes (earlier later : Probe) : Prop :=
  earlier.asked ≤ later.asked ∧ earlier.answered ≤ later.answered

namespace Service

variable {Body : Type} {service first : Service Body} {move : ServiceMove Body}
  {moves : List (ServiceMove Body)} {called : SchedulerMove Body} {settings : SchedulerSettings}
  {timeout : Nat} {clock : Instant}

def start (settings : SchedulerSettings) (timeout : Nat) (clock : Instant) : Service Body :=
  ⟨.start settings clock, .start timeout clock⟩

/-- Make a move. A call that is refused, or a step that cannot be taken, changes nothing. -/
def make (service : Service Body) : ServiceMove Body → Service Body
  | .scheduler move =>
      { service with scheduler := (service.scheduler.move? move).getD service.scheduler }
  | .controller move =>
      { service with controller := (service.controller.move? move).getD service.controller }

def run (service : Service Body) (moves : List (ServiceMove Body)) : Service Body :=
  moves.foldl make service

def answer (first : Service Body) (moves : List (ServiceMove Body)) (metrics : Metrics)
    (probe : Probe) : Response :=
  respond
    ⟨(first.run (moves.take probe.asked)).controller.phase,
      (first.run (moves.take probe.answered)).scheduler.isRunning, metrics⟩
    "GET" "/health/ready"

def Made (first : Service Body) (moves : List (ServiceMove Body)) (called : SchedulerMove Body) :
    Prop :=
  ∃ earlier later, moves = earlier ++ .scheduler called :: later ∧
    ∃ after, (first.run earlier).scheduler.move? called = some after

def Entered (first : Service Body) (moves : List (ServiceMove Body)) : Prop :=
  first.Made moves .openFor

/-- The scheduler has been stopped, or a start has begun to wind down. -/
def ShutDown (first : Service Body) (moves : List (ServiceMove Body)) : Prop :=
  first.Made moves .stop ∨ ∃ call, first.Made moves (.step (.windDown call))

@[simp] theorem run_append (service : Service Body) (earlier later : List (ServiceMove Body)) :
    service.run (earlier ++ later) = (service.run earlier).run later :=
  List.foldl_append

theorem not_made_nil : ¬ first.Made [] called := by
  rintro ⟨earlier, later, split, -⟩
  simp at split

theorem made_concat :
    first.Made (moves ++ [move]) called ↔ first.Made moves called ∨
      move = .scheduler called ∧ ∃ after, (first.run moves).scheduler.move? called = some after := by
  simp only [Made, concat_eq_append_cons_iff]
  constructor
  · rintro ⟨earlier, _, ⟨rest, -, split⟩ | ⟨rfl, rfl, -⟩, accepted⟩
    · exact Or.inl ⟨earlier, rest, split, accepted⟩
    · exact Or.inr ⟨rfl, accepted⟩
  · rintro (⟨earlier, rest, split, accepted⟩ | ⟨rfl, accepted⟩)
    · exact ⟨earlier, _, Or.inl ⟨rest, rfl, split⟩, accepted⟩
    · exact ⟨moves, [], Or.inr ⟨rfl, rfl, rfl⟩, accepted⟩

theorem Made.mem (made : first.Made moves called) : .scheduler called ∈ moves := by
  obtain ⟨earlier, later, rfl, -⟩ := made
  simp

theorem flag_iff_made (flag : Scheduler Body → Prop) {event : SchedulerMove Body → Prop}
    (step : ∀ {scheduler after : Scheduler Body} {called : SchedulerMove Body},
      scheduler.Moved called after → (flag after ↔ flag scheduler ∨ event called)) :
    flag (first.run moves).scheduler ↔
      flag first.scheduler ∨ ∃ called, event called ∧ first.Made moves called := by
  induction moves using List.reverseRecOn with
  | nil => simp [run, not_made_nil]
  | append_singleton moves move ih =>
    simp only [run_append, made_concat]
    cases move with
    | controller move => simpa [run, make] using ih
    | scheduler move =>
      show flag (((first.run moves).scheduler.move? move).getD _) ↔ _
      cases made : (first.run moves).scheduler.move? move with
      | none =>
        -- a refused move does not count as made, and leaves the flag as it was
        have refused : ∀ called, ¬ (ServiceMove.scheduler move = .scheduler called ∧
            ∃ after, (first.run moves).scheduler.move? called = some after) := by
          rintro called ⟨⟨⟩, after, accepted⟩
          cases made.symm.trans accepted
        simpa only [Option.getD_none, refused, or_false] using ih
      | some after =>
        rw [Option.getD_some, step (Scheduler.move?_moved made), ih, or_assoc]
        refine or_congr_right ⟨?_, ?_⟩
        · rintro (⟨called, brings, before⟩ | brings)
          · exact ⟨called, brings, Or.inl before⟩
          · exact ⟨move, brings, Or.inr ⟨rfl, after, made⟩⟩
        · rintro ⟨called, brings, before | ⟨⟨⟩, -⟩⟩
          · exact Or.inl ⟨called, brings, before⟩
          · exact Or.inr brings

theorem opened_iff_entered :
    ((start settings timeout clock).run moves).scheduler.opened = true ↔
      (start settings timeout clock : Service Body).Entered moves := by
  rw [flag_iff_made (fun scheduler => scheduler.opened = true) Scheduler.Moved.opened_iff]
  simp [start, Scheduler.start, Entered]

theorem shut_iff_shutDown :
    ((start settings timeout clock).run moves).scheduler.shut = true ↔
      (start settings timeout clock : Service Body).ShutDown moves := by
  rw [flag_iff_made (fun scheduler => scheduler.shut = true) Scheduler.Moved.shut_iff]
  simp only [start, Scheduler.start, ShutDown, or_and_right, exists_or, exists_eq_left]
  simp

theorem Made.mono {later : List (ServiceMove Body)}
    (made : first.Made moves called) : first.Made (moves ++ later) called := by
  obtain ⟨earlier, rest, rfl, accepted⟩ := made
  exact ⟨earlier, rest ++ later, by simp, accepted⟩

theorem phase_run_ne_running (left : service.controller.phase ≠ .running) :
    (service.run moves).controller.phase ≠ .running := by
  induction moves generalizing service with
  | nil => exact left
  | cons move moves ih =>
    refine @ih (service.make move) ?_
    cases move with
    | scheduler move => exact left
    | controller move =>
      show ((service.controller.move? move).getD service.controller).phase ≠ .running
      cases made : service.controller.move? move with
      | none => exact left
      | some after => exact (ShutdownController.moved_of_move? made).phase_ne_running left

theorem take_append_drop_take {earlier later : Nat} (inOrder : earlier ≤ later) :
    moves.take later = moves.take earlier ++ (moves.take later).drop earlier := by
  have split := List.take_append_drop earlier (moves.take later)
  rwa [List.take_take, Nat.min_eq_left inOrder, eq_comm] at split

theorem Made.later {earlier later : Nat} (inOrder : earlier ≤ later)
    (made : first.Made (moves.take earlier) called) : first.Made (moves.take later) called :=
  take_append_drop_take inOrder ▸ made.mono

theorem ShutDown.later {earlier later : Nat} (inOrder : earlier ≤ later)
    (shut : first.ShutDown (moves.take earlier)) : first.ShutDown (moves.take later) :=
  shut.imp (Made.later inOrder) fun ⟨call, made⟩ => ⟨call, made.later inOrder⟩

theorem phase_later {earlier later : Nat} (inOrder : earlier ≤ later)
    (running : (first.run (moves.take later)).controller.phase = .running) :
    (first.run (moves.take earlier)).controller.phase = .running := by
  by_contra left
  rw [take_append_drop_take inOrder, run_append] at running
  exact phase_run_ne_running left running

theorem answer_eq (metrics : Metrics) (probe : Probe) :
    first.answer moves metrics probe = readiness
      ⟨(first.run (moves.take probe.asked)).controller.phase,
        (first.run (moves.take probe.answered)).scheduler.isRunning, metrics⟩ := by
  simp [answer, respond, page?]

theorem status_readiness (view : View) :
    (readiness view).status = if view.phase = .running ∧ view.running = true then 200 else 503 := by
  unfold readiness
  by_cases running : view.phase = .running
  · cases opened : view.running <;> simp [running, text]
  · simp [running, text]

/-- A start was entered, the scheduler was not shut down, and the phase was running. When nothing
happens between the two readings, all of this is about one moment. -/
def Ready (first : Service Body) (moves : List (ServiceMove Body)) (probe : Probe) : Prop :=
  first.Entered (moves.take probe.answered) ∧ ¬ first.ShutDown (moves.take probe.answered) ∧
    (first.run (moves.take probe.asked)).controller.phase = .running

theorem ready_iff {probe : Probe} :
    (start settings timeout clock : Service Body).Ready moves probe ↔
      ((start settings timeout clock).run (moves.take probe.asked)).controller.phase = .running ∧
      ((start settings timeout clock).run (moves.take probe.answered)).scheduler.isRunning =
        true := by
  rw [Scheduler.isRunning_iff, opened_iff_entered, ← Bool.not_eq_true, shut_iff_shutDown, Ready]
  tauto

theorem status_eq_ready_iff (settings : SchedulerSettings) (timeout : Nat) (clock : Instant)
    (moves : List (ServiceMove Body)) (metrics : Metrics) (probe : Probe) :
    ((start settings timeout clock).answer moves metrics probe).status = 200 ↔
      (start settings timeout clock).Ready moves probe := by
  rw [answer_eq, status_readiness, ready_iff]
  split
  next ready => simpa using ready
  next unready => simpa using unready

theorem status_eq_unready_iff (settings : SchedulerSettings) (timeout : Nat) (clock : Instant)
    (moves : List (ServiceMove Body)) (metrics : Metrics) (probe : Probe) :
    ((start settings timeout clock).answer moves metrics probe).status = 503 ↔
      ¬ (start settings timeout clock).Ready moves probe := by
  rw [answer_eq, status_readiness, ready_iff]
  split
  next ready => simpa using ready
  next unready => simpa using unready

/-- Once it was ready and then not, the service is never ready again. -/
theorem Ready.lost {early middle late : Probe} (ready : first.Ready moves early)
    (unready : ¬ first.Ready moves middle) (before : early.Precedes middle)
    (after : middle.Precedes late) : ¬ first.Ready moves late := by
  rintro ⟨-, not_shut, running⟩
  refine unready ⟨ready.1.later before.2, fun shut => not_shut (shut.later after.2), ?_⟩
  exact phase_later after.1 running

structure Answers (first : Service Body) (moves : List (ServiceMove Body))
    (metrics : Probe → Metrics) : Prop where
  ready : ∀ probe, (first.answer moves (metrics probe) probe).status = 200 ↔ first.Ready moves probe
  unready : ∀ probe,
    (first.answer moves (metrics probe) probe).status = 503 ↔ ¬ first.Ready moves probe
  notBefore : ∀ probe, (first.answer moves (metrics probe) probe).status = 200 →
    .scheduler .openFor ∈ moves.take probe.answered
  /-- Not even when a start is called again. -/
  neverAgain : ∀ early middle late : Probe, early.Precedes middle → middle.Precedes late →
    (first.answer moves (metrics early) early).status = 200 →
    (first.answer moves (metrics middle) middle).status = 503 →
    (first.answer moves (metrics late) late).status ≠ 200

theorem readiness_never_returns (settings : SchedulerSettings) (timeout : Nat) (clock : Instant)
    (moves : List (ServiceMove Body)) (metrics : Probe → Metrics) :
    (start settings timeout clock).Answers moves metrics := by
  have ready := fun probe =>
    status_eq_ready_iff settings timeout clock moves (metrics probe) probe
  have unready := fun probe =>
    status_eq_unready_iff settings timeout clock moves (metrics probe) probe
  refine ⟨ready, unready, fun probe answered => ((ready probe).mp answered).1.mem, ?_⟩
  intro early middle late before after answered refused again
  exact ((ready early).mp answered).lost ((unready middle).mp refused) before after
    ((ready late).mp again)

/-- A start is entered, its caller asks for the end, a second start is refused, and a shutdown is
claimed and announced. -/
theorem readiness_never_returns_of_second_start :
    let moves : List (ServiceMove Unit) :=
      [.scheduler .openFor, .scheduler (.step (.cancel 0)), .scheduler (.step (.windDown 0)),
        .scheduler .openFor, .controller (.step .call), .controller (.step (.proceed 0)),
        .controller (.step (.proceed 0))]
    let first : Service Unit := start .standard 30 ⟨0⟩
    ([0, 1, 2, 3, 4, 7].map fun moment =>
        (first.answer moves [] ⟨moment, moment, Nat.le_refl _⟩).status) =
      [503, 200, 200, 503, 503, 503] ∧ first.Answers moves fun _ => [] := by
  intro moves first
  refine ⟨?_, readiness_never_returns ..⟩
  simp only [answer_eq, status_readiness]
  rfl

end Service

end PowerRota.Web
