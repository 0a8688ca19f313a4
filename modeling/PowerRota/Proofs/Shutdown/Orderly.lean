import PowerRota.Proofs.Shutdown.Draining

/-! Every run of a shutdown controller is orderly: whatever calls for shutdown, hands out tokens,
tracks or ends tasks, and in whatever order, the phase only goes on, one call does the work, and its
result says whether there was a moment without tasks while it waited. The moments before its wait
do not count, and how long it waits is up to when it is resumed: never before the deadline when
tasks are left, but maybe after it. -/

set_option autoImplicit false

namespace PowerRota

open PowerRota.Calendar

namespace ShutdownController

variable {first after : ShutdownController} {moves : List ShutdownMove} {id : Nat}
  {timeout : Nat} {clock : Instant}

/-- A phase is left for the one that follows it only. -/
def PhaseGoesOn (phase next : ShutdownPhase) : Prop :=
  next = phase ∨ phase = .running ∧ next = .draining ∨ phase = .draining ∧ next = .terminated

/-- What the result of the call that shuts down stands for. -/
structure Concluded (first : ShutdownController) (moves : List ShutdownMove)
    (after : ShutdownController) (id : Nat) (result : Bool) (deadline : Instant) : Prop where
  terminated : after.phase = .terminated
  opened : first.Opened moves id deadline
  waits : first.WaitsUntil moves id deadline
  late : result = false → deadline ≤ after.clock
  drained : result = true ↔
    ∃ moment, first.Passes moves moment ∧ moment.Awaits id ∧ moment.tasks = []

structure Orderly (first : ShutdownController) (moves : List ShutdownMove)
    (after : ShutdownController) : Prop where
  phases : ∀ point move next, first.MadeFrom moves point move → point.move? move = some next →
    PhaseGoesOn point.phase next.phase
  tokens : ∀ point, first.MadeFrom moves point (.step .token) →
    (after.isCancelled point.nextId = true ↔ first.RootCancelled moves)
  tasks : ∀ task, task ∈ after.tasks ↔
    first.Tracked moves task ∧ ∀ move ∈ moves, ¬ Ends move task
  performer : (∃ id, .step (.proceed id) ∈ moves) → ∃! id, first.Performs moves id
  transition : ∀ point move next, first.MadeFrom moves point move → point.move? move = some next →
    (∀ id, move = .step (.proceed id) → ¬ first.Performs moves id) → next.flags = point.flags
  others : ∀ id point next, first.MadeFrom moves point (.step (.proceed id)) →
    point.move? (.step (.proceed id)) = some next → ¬ first.Performs moves id →
      next = point.setStage id (.returned true)
  atOnce : ∀ id, after.stage? id = some .called → (∃ other, first.Performs moves other) →
    after.move? (.step (.proceed id)) = some (after.setStage id (.returned true))
  /-- No call is stuck, other than by waiting for tasks before its deadline. -/
  goesOn : ∀ id stage, after.stage? id = some stage → (∀ result, stage ≠ .returned result) →
    (∀ deadline, stage = .waiting deadline false → deadline ≤ after.clock) →
      ∃ next, after.move? (.step (.proceed id)) = some next
  concluded : ∀ id result, first.Performs moves id → after.stage? id = some (.returned result) →
    ∃ deadline, first.Concluded moves after id result deadline

theorem Led.phaseGoesOn {controller next : ShutdownController} {move : ShutdownMove}
    {leader : Option Nat} (led : controller.Led leader) (moved : controller.Moved move next) :
    PhaseGoesOn controller.phase next.phase := by
  cases moved with
  | advance clock => exact Or.inl (congrArg ShutdownFlags.phase (flags_advance _ _))
  | finish _ => exact Or.inl (congrArg ShutdownFlags.phase (flags_notice _))
  | panic _ => exact Or.inl (congrArg ShutdownFlags.phase (flags_notice _))
  | wait _ => exact Or.inl (congrArg ShutdownFlags.phase (flags_notice _))
  | announce staged =>
    have flagged := (led.of_stage staged (by simp) (by simp)).2
    exact Or.inr (Or.inl ⟨congrArg ShutdownFlags.phase flagged, rfl⟩)
  | conclude staged _ =>
    have flagged := (led.of_stage staged (by simp) (by simp)).2
    exact Or.inr (Or.inr ⟨congrArg ShutdownFlags.phase flagged, rfl⟩)
  | _ => exact Or.inl rfl

theorem Led.claims {controller next : ShutdownController} (led : controller.Led none)
    (moved : controller.Moved (.step (.proceed id)) next) :
    controller.Claims (.step (.proceed id)) id := by
  have nobody : ∀ {stage}, controller.stage? id = some stage → stage ≠ .called →
      stage ≠ .returned true → False := by
    intro stage staged begun unreturned
    cases (led.of_stage staged begun unreturned).1
  cases moved with
  | turnAway _ initiated => cases led.initiated.mp initiated
  | claim staged initiated => exact ⟨rfl, staged, initiated⟩
  | announce staged => exact (nobody staged (by simp) (by simp)).elim
  | cancel staged => exact (nobody staged (by simp) (by simp)).elim
  | close staged => exact (nobody staged (by simp) (by simp)).elim
  | wait staged => exact (nobody staged (by simp) (by simp)).elim
  | conclude staged => exact (nobody staged (by simp) (by simp)).elim

theorem Run.existsUnique_performs (run : Run (start timeout clock) moves after)
    (proceeded : .step (.proceed id) ∈ moves) :
    ∃! id, (start timeout clock).Performs moves id := by
  obtain ⟨leader, -, leads⟩ := run.led
  have performed : ∃ id, (start timeout clock).Performs moves id := by
    obtain ⟨earlier, later, rfl⟩ := List.append_of_mem proceeded
    obtain ⟨point, before, onwards⟩ := run.exists_middle
    obtain ⟨leader, led, leads⟩ := before.led
    cases leader with
    | some other => exact ⟨other, ((leads other).mp rfl).mono⟩
    | none =>
      cases onwards with
      | next made _ =>
        exact ⟨id, point, _, ⟨earlier, later, rfl, before⟩, led.claims (moved_of_move? made)⟩
  obtain ⟨id, performs⟩ := performed
  refine ⟨id, performs, fun other performs' => ?_⟩
  exact Option.some.inj (((leads other).mpr performs').symm.trans ((leads id).mpr performs))

theorem Run.turnedAway {point next : ShutdownController}
    (made : (start timeout clock).MadeFrom moves point (.step (.proceed id)))
    (moved : point.move? (.step (.proceed id)) = some next)
    (idle : ¬ (start timeout clock).Performs moves id) :
    next = point.setStage id (.returned true) := by
  have madeHere := made
  obtain ⟨earlier, later, rfl, before⟩ := made
  have others : ∀ {stage}, point.stage? id = some stage → stage ≠ .called →
      stage ≠ .returned true → False :=
    fun staged begun unreturned => idle (before.performs_of_stage staged begun unreturned).mono
  cases moved_of_move? moved with
  | turnAway _ _ => rfl
  | claim staged initiated =>
    exact (idle ⟨point, _, madeHere, rfl, staged, initiated⟩).elim
  | announce staged => exact (others staged (by simp) (by simp)).elim
  | cancel staged => exact (others staged (by simp) (by simp)).elim
  | close staged => exact (others staged (by simp) (by simp)).elim
  | wait staged => exact (others staged (by simp) (by simp)).elim
  | conclude staged => exact (others staged (by simp) (by simp)).elim

theorem Run.flags_eq {point next : ShutdownController} {move : ShutdownMove}
    (made : (start timeout clock).MadeFrom moves point move)
    (moved : point.move? move = some next)
    (idle : ∀ id, move = .step (.proceed id) → ¬ (start timeout clock).Performs moves id) :
    next.flags = point.flags := by
  cases move with
  | advance clock =>
    cases moved
    exact flags_advance ..
  | step event =>
    cases event with
    | proceed id =>
      rw [Run.turnedAway made moved (idle id rfl)]
      rfl
    | finish task =>
      obtain ⟨-, rfl⟩ := leave?_eq_some moved
      exact flags_notice _
    | panic task =>
      obtain ⟨-, rfl⟩ := leave?_eq_some moved
      exact flags_notice _
    | token | track | call =>
      cases moved
      rfl

theorem move?_proceed {controller : ShutdownController} {stage : ShutdownStage}
    (staged : controller.stage? id = some stage) :
    controller.move? (.step (.proceed id)) = controller.proceed? ⟨id, stage⟩ := by
  obtain ⟨call, found, rfl⟩ := Option.map_eq_some_iff.mp staged
  obtain rfl := id_of_call? found
  show (controller.call? call.id).bind controller.proceed? = _
  rw [found]
  rfl

theorem exists_move?_proceed {controller : ShutdownController} {stage : ShutdownStage}
    (staged : controller.stage? id = some stage) (unreturned : ∀ result, stage ≠ .returned result)
    (ended : ∀ deadline, stage = .waiting deadline false → deadline ≤ controller.clock) :
    ∃ next, controller.move? (.step (.proceed id)) = some next := by
  rw [move?_proceed staged]
  cases stage with
  | called =>
    by_cases initiated : controller.initiated = true
    · exact ⟨_, if_pos initiated⟩
    · exact ⟨_, if_neg initiated⟩
  | waiting deadline drained =>
    refine ⟨_, if_pos ?_⟩
    cases drained with
    | true => exact Or.inl rfl
    | false => exact Or.inr (ended deadline rfl)
  | returned result => exact absurd rfl (unreturned result)
  | _ => exact ⟨_, rfl⟩

theorem Run.concluded {result : Bool} (run : Run (start timeout clock) moves after)
    (performs : (start timeout clock).Performs moves id)
    (returned : after.stage? id = some (.returned result)) :
    ∃ deadline, (start timeout clock).Concluded moves after id result deadline := by
  obtain ⟨_, staged, conducted⟩ := run.conducted performs
  cases staged.symm.trans returned
  obtain ⟨deadline, opened, waits, late⟩ := conducted.opened rfl
  refine ⟨deadline, ?_, opened, waits, fun unfinished => late (unfinished ▸ rfl),
    conducted.drained⟩
  cases run.led_of_performs performs with
  | conducted ledStage _ flagged _ =>
    cases staged.symm.trans ledStage
    exact congrArg ShutdownFlags.phase flagged

theorem run_orderly (run : Run (start timeout clock) moves after) :
    (start timeout clock).Orderly moves after where
  phases := by
    rintro point move next ⟨earlier, later, rfl, before⟩ made
    obtain ⟨leader, led, -⟩ := before.led
    exact led.phaseGoesOn (moved_of_move? made)
  tokens _ handedOut := run.isCancelled_iff handedOut
  tasks _ := run.mem_tasks
  performer := fun ⟨_, proceeded⟩ => run.existsUnique_performs proceeded
  transition _ _ _ made moved idle := Run.flags_eq made moved idle
  others _ _ _ made moved idle := Run.turnedAway made moved idle
  atOnce := by
    rintro id called ⟨other, performs⟩
    have initiated := (run.led_of_performs performs).initiated.mpr rfl
    rw [move?_proceed called]
    exact if_pos initiated
  goesOn _ _ staged unreturned ended := exists_move?_proceed staged unreturned ended
  concluded _ _ performs returned := run.concluded performs returned

/-- Two calls and three tasks, one of which breaks off and one of which is tracked while the others
are waited for. -/
theorem run_orderly_of_two_calls :
    let moves : List ShutdownMove :=
      [.step .token, .step .track, .step .track, .step .call, .step .call, .step (.proceed 3),
        .step (.proceed 4), .step (.proceed 3), .step (.proceed 3), .step .token,
        .step (.proceed 3), .step (.proceed 3), .step .track, .step (.finish 6),
        .advance ⟨20⟩, .step (.panic 1), .step (.finish 2), .step (.proceed 3)]
    ∃ after, Run (start 30 ⟨0⟩) moves after ∧ after.stage? 3 = some (.returned true) ∧
      (start 30 ⟨0⟩).Orderly moves after := by
  intro moves
  obtain ⟨after, computed, returned⟩ : ∃ after, moves.foldlM move? (start 30 ⟨0⟩) = some after ∧
      after.stage? 3 = some (.returned true) := ⟨_, rfl, rfl⟩
  have run := run_of_foldlM computed
  exact ⟨after, run, returned, run_orderly run⟩

/-- No tracked task was unfinished at some moment from the first step of a call to a deadline. -/
def FreeBy (first : ShutdownController) (moves : List ShutdownMove) (id : Nat)
    (deadline : Instant) : Prop :=
  ∃ earlier later moment, moves = earlier ++ later ∧ Run first earlier moment ∧
    first.Performs earlier id ∧ moment.clock ≤ deadline ∧ moment.tasks = []

/-- The result of the call that shuts down says whether there was such a moment. -/
def TellsFree (first : ShutdownController) (moves : List ShutdownMove)
    (after : ShutdownController) : Prop :=
  ∀ id result deadline, first.Performs moves id → first.Opened moves id deadline →
    after.stage? id = some (.returned result) → (result = true ↔ first.FreeBy moves id deadline)

theorem FreeBy.not_tellsFree {deadline : Instant} (free : first.FreeBy moves id deadline)
    (opened : first.Opened moves id deadline)
    (returned : after.stage? id = some (.returned false)) : ¬ first.TellsFree moves after := by
  intro tells
  have performs : first.Performs moves id := by
    obtain ⟨earlier, later, _, rfl, -, performs, -⟩ := free
    exact performs.mono
  have told := (tells id false deadline performs opened returned).mpr free
  cases told

/-- The only task ends at the deadline, but the call is resumed first. -/
def taskEndsAtDeadline : List ShutdownMove :=
  [.step .track, .step .call, .step (.proceed 1), .step (.proceed 1), .step (.proceed 1),
    .step (.proceed 1), .step (.proceed 1), .advance ⟨30⟩, .step (.proceed 1), .step (.finish 0)]

/-- The call begins without a task, and one is tracked before it waits. -/
def taskComesBeforeWait : List ShutdownMove :=
  [.step .call, .step (.proceed 0), .step .track, .step (.proceed 0), .step (.proceed 0),
    .step (.proceed 0), .step (.proceed 0), .advance ⟨30⟩, .step (.proceed 0)]

/-- The only task ends after the deadline, but the call is resumed later still. -/
def resumedLate : List ShutdownMove :=
  [.step .track, .step .call, .step (.proceed 1), .step (.proceed 1), .step (.proceed 1),
    .step (.proceed 1), .step (.proceed 1), .advance ⟨40⟩, .step (.finish 0), .step (.proceed 1)]

theorem not_freeBy_resumedLate : ¬ (start 30 ⟨0⟩).FreeBy resumedLate 1 ⟨30⟩ := by
  rintro ⟨earlier, later, moment, split, before, performs, early, empty⟩
  -- the moments of a run are those of its beginnings, and only before the first is there no task
  have free : ∀ n ∈ List.range 11, ∀ moment ∈ (resumedLate.take n).foldlM move? (start 30 ⟨0⟩),
      moment.clock ≤ ⟨30⟩ → moment.tasks = [] → n = 0 := by decide
  have begins : resumedLate.take earlier.length = earlier := by rw [split, List.take_left]
  have short : earlier.length ≤ resumedLate.length := by simp [split]
  have unbegun : earlier.length = 0 := by
    refine free _ (List.mem_range.mpr (Nat.lt_succ_of_le short)) moment ?_ early empty
    rw [begins]
    exact before.computed
  obtain rfl := List.eq_nil_of_length_eq_zero unbegun
  exact not_performs_nil performs

theorem exists_not_tellsFree :
    (∃ after, Run (start 30 ⟨0⟩) taskEndsAtDeadline after ∧
      ¬ (start 30 ⟨0⟩).TellsFree taskEndsAtDeadline after) ∧
    (∃ after, Run (start 30 ⟨0⟩) taskComesBeforeWait after ∧
      ¬ (start 30 ⟨0⟩).TellsFree taskComesBeforeWait after) ∧
    ∃ after, Run (start 30 ⟨0⟩) resumedLate after ∧
      ¬ (start 30 ⟨0⟩).TellsFree resumedLate after := by
  refine ⟨⟨_, run_of_foldlM rfl, ?_⟩, ⟨_, run_of_foldlM rfl, ?_⟩, ⟨_, run_of_foldlM rfl, ?_⟩⟩
  · have performs : (start 30 ⟨0⟩).Performs taskEndsAtDeadline 1 :=
      ⟨_, _, ⟨taskEndsAtDeadline.take 2, _, rfl, run_of_foldlM rfl⟩, rfl, rfl, rfl⟩
    have opened : (start 30 ⟨0⟩).Opened taskEndsAtDeadline 1 ⟨30⟩ :=
      ⟨_, ⟨taskEndsAtDeadline.take 6, _, rfl, run_of_foldlM rfl⟩, rfl, rfl⟩
    have free : (start 30 ⟨0⟩).FreeBy taskEndsAtDeadline 1 ⟨30⟩ :=
      ⟨taskEndsAtDeadline, [], _, rfl, run_of_foldlM rfl, performs, by decide, rfl⟩
    exact free.not_tellsFree opened rfl
  · have performs : (start 30 ⟨0⟩).Performs (taskComesBeforeWait.take 2) 0 :=
      ⟨_, _, ⟨taskComesBeforeWait.take 1, _, rfl, run_of_foldlM rfl⟩, rfl, rfl, rfl⟩
    have opened : (start 30 ⟨0⟩).Opened taskComesBeforeWait 0 ⟨30⟩ :=
      ⟨_, ⟨taskComesBeforeWait.take 6, _, rfl, run_of_foldlM rfl⟩, rfl, rfl⟩
    have free : (start 30 ⟨0⟩).FreeBy taskComesBeforeWait 0 ⟨30⟩ :=
      ⟨taskComesBeforeWait.take 2, _, _, rfl, run_of_foldlM rfl, performs, by decide, rfl⟩
    exact free.not_tellsFree opened rfl
  · have performs : (start 30 ⟨0⟩).Performs resumedLate 1 :=
      ⟨_, _, ⟨resumedLate.take 2, _, rfl, run_of_foldlM rfl⟩, rfl, rfl, rfl⟩
    have opened : (start 30 ⟨0⟩).Opened resumedLate 1 ⟨30⟩ :=
      ⟨_, ⟨resumedLate.take 6, _, rfl, run_of_foldlM rfl⟩, rfl, rfl⟩
    exact fun tells =>
      not_freeBy_resumedLate ((tells 1 true ⟨30⟩ performs opened rfl).mp rfl)

end ShutdownController

end PowerRota
