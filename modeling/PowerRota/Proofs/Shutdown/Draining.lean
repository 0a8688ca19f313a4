import PowerRota.Proofs.Shutdown.Conduct
import PowerRota.Proofs.Shutdown.Tracking

/-! What a shutdown does over a run, and what its result says.

The stage of the call that shuts down carries what has been seen while it waited: it has drained
when there was a moment without tasks. Time is not for the call to pass, and so a call that is
resumed late may still see its tasks end. -/

set_option autoImplicit false

namespace PowerRota

open PowerRota.Calendar

namespace ShutdownController

variable {controller first middle after next : ShutdownController} {move : ShutdownMove}
  {moves earlier : List ShutdownMove} {id : Nat} {stage stage' : ShutdownStage}
  {leader : Option Nat} {timeout : Nat} {clock : Instant}

/-- A call has claimed the shutdown in a run. -/
def Performs (first : ShutdownController) (moves : List ShutdownMove) (id : Nat) : Prop :=
  ∃ point move, first.MadeFrom moves point move ∧ point.Claims move id

def Awaits (controller : ShutdownController) (id : Nat) : Prop :=
  ∃ stage, controller.stage? id = some stage ∧ stage.isWaiting = true

/-- A call has begun to wait, up to a deadline. -/
def Opened (first : ShutdownController) (moves : List ShutdownMove) (id : Nat)
    (deadline : Instant) : Prop :=
  ∃ point, first.MadeFrom moves point (.step (.proceed id)) ∧ point.stage? id = some .closed ∧
    deadline = point.clock.addNanos first.timeout

def WaitsUntil (first : ShutdownController) (moves : List ShutdownMove) (id : Nat)
    (deadline : Instant) : Prop :=
  ∀ moment deadline' drained, first.Passes moves moment →
    moment.stage? id = some (.waiting deadline' drained) → deadline' = deadline

theorem not_performs_nil : ¬ first.Performs [] id := by
  rintro ⟨_, _, ⟨_, _, split, -⟩, -⟩
  simp at split

theorem performs_concat (run : Run first moves middle) :
    first.Performs (moves ++ [move]) id ↔
      first.Performs moves id ∨ middle.Claims move id := by
  simp only [Performs, madeFrom_concat run]
  constructor
  · rintro ⟨point, move', made | ⟨rfl, rfl⟩, claims⟩
    · exact Or.inl ⟨point, move', made, claims⟩
    · exact Or.inr claims
  · rintro (⟨point, move', made, claims⟩ | claims)
    · exact ⟨point, move', Or.inl made, claims⟩
    · exact ⟨middle, move, Or.inr ⟨rfl, rfl⟩, claims⟩

theorem MadeFrom.mono {point : ShutdownController} {later : List ShutdownMove}
    (made : first.MadeFrom moves point move) : first.MadeFrom (moves ++ later) point move := by
  obtain ⟨earlier, rest, rfl, before⟩ := made
  exact ⟨earlier, rest ++ later, by simp, before⟩

theorem Performs.mono {later : List ShutdownMove} (performs : first.Performs moves id) :
    first.Performs (moves ++ later) id := by
  obtain ⟨point, move, made, claims⟩ := performs
  exact ⟨point, move, made.mono, claims⟩

theorem Run.led (run : Run (start timeout clock) moves after) :
    ∃ leader, after.Led leader ∧
      ∀ id, leader = some id ↔ (start timeout clock).Performs moves id := by
  refine run.onward (fun moves controller => ∃ leader, controller.Led leader ∧
    ∀ id, leader = some id ↔ (start timeout clock).Performs moves id) ?_ ?_
  · refine ⟨none, .idle rfl ?_, ?_⟩
    · intro id stage staged
      simp [stage?, call?, start] at staged
    · intro id
      constructor
      · intro nobody
        cases nobody
      · exact fun performs => absurd performs not_performs_nil
  · rintro earlier middle next move before moved ⟨leader, led, performs⟩
    obtain ⟨leader', led', leads⟩ :=
      led.moved before.numbered.stage?_nextId (moved_of_move? moved)
    refine ⟨leader', led', fun id => ?_⟩
    rw [leads id, performs id, performs_concat before]

theorem Run.led_of_performs (run : Run (start timeout clock) moves after)
    (performs : (start timeout clock).Performs moves id) : after.Led (some id) := by
  obtain ⟨leader, led, leads⟩ := run.led
  exact (leads id).mpr performs ▸ led

theorem Run.performs_of_stage (run : Run (start timeout clock) moves after)
    (staged : after.stage? id = some stage) (begun : stage ≠ .called)
    (unreturned : stage ≠ .returned true) : (start timeout clock).Performs moves id := by
  obtain ⟨leader, led, leads⟩ := run.led
  exact (leads id).mp (led.of_stage staged begun unreturned).1

theorem Run.performs_of_awaits {moment : ShutdownController}
    (passes : (start timeout clock).Passes moves moment) (awaits : moment.Awaits id) :
    (start timeout clock).Performs moves id := by
  obtain ⟨earlier, later, rfl, before⟩ := passes
  obtain ⟨stage, staged, waiting⟩ := awaits
  refine (before.performs_of_stage staged ?_ ?_).mono
  · rintro rfl
    cases waiting
  · rintro rfl
    cases waiting

theorem Run.timeout_eq (run : Run first moves after) : after.timeout = first.timeout := by
  induction run with
  | done => rfl
  | next moved _ ih => exact ih.trans (moved_of_move? moved).timeout

inductive Onward (controller : ShutdownController) (move : ShutdownMove)
    (next : ShutdownController) (id : Nat) : ShutdownStage → ShutdownStage → Prop where
  | stays {stage : ShutdownStage} (unwaiting : stage.isWaiting = false) :
      Onward controller move next id stage stage
  | prepares {stage stage' : ShutdownStage} (before : stage.isPreparing = true)
      (now : stage'.isPreparing = true) : Onward controller move next id stage stage'
  | opens (made : move = .step (.proceed id)) :
      Onward controller move next id .closed
        (.waiting (controller.clock.addNanos controller.timeout) next.tasks.isEmpty)
  | waits {deadline : Instant} {drained : Bool} :
      Onward controller move next id (.waiting deadline drained)
        (.waiting deadline (drained || next.tasks.isEmpty))
  | returns {deadline : Instant} {drained : Bool}
      (ended : drained = true ∨ deadline ≤ next.clock) :
      Onward controller move next id (.waiting deadline drained) (.returned drained)

/-- A wait without tasks has been noticed to be over. -/
def Noticed (controller : ShutdownController) (stage : ShutdownStage) : Prop :=
  ∀ deadline, stage = .waiting deadline false → controller.tasks ≠ []

theorem Onward.same (noticed : controller.Noticed stage)
    (tasks : next.tasks = [] → controller.tasks = []) :
    Onward controller move next id stage stage := by
  cases stage with
  | waiting deadline drained =>
    have kept : (drained || next.tasks.isEmpty) = drained := by
      cases drained with
      | true => rfl
      | false =>
        have left := mt tasks (noticed deadline rfl)
        simpa using left
    have waits : Onward controller move next id (.waiting deadline drained) _ := .waits
    rwa [kept] at waits
  | _ => exact .stays rfl

theorem Onward.left {tasks : List Nat} (led : controller.Led (some id))
    (staged : controller.stage? id = some stage) :
    ∃ stage', { controller with tasks := tasks }.notice.stage? id = some stage' ∧
      Onward controller move { controller with tasks := tasks }.notice id stage stage' := by
  rw [stage?_notice]
  cases stage with
  | waiting deadline drained =>
    -- the wait can end with its tasks, as the call has closed them before
    have closed : controller.closed = true := by
      have := (led.of_stage staged (by simp) (by simp)).2
      exact congrArg ShutdownFlags.closed this
    refine ⟨.waiting deadline (drained || tasks.isEmpty), ?_, ?_⟩
    · rw [show stage? { controller with tasks := tasks } id = _ from staged]
      cases tasks <;> simp [closed, ShutdownStage.noticed]
    · have waits : Onward controller move { controller with tasks := tasks }.notice id
        (.waiting deadline drained) _ := .waits
      rwa [notice_tasks] at waits
  | _ =>
    refine ⟨_, ?_, .stays rfl⟩
    rw [show stage? { controller with tasks := tasks } id = _ from staged]
    split <;> rfl

theorem Moved.onward (moved : controller.Moved move next) (led : controller.Led (some id))
    (known : controller.stage? controller.nextId = none)
    (staged : controller.stage? id = some stage) (begun : stage ≠ .called)
    (noticed : controller.Noticed stage) :
    ∃ stage', next.stage? id = some stage' ∧ Onward controller move next id stage stage' := by
  -- whoever gets past `called` is this call
  have only : ∀ {other : Nat} {now : ShutdownStage}, controller.stage? other = some now →
      now ≠ .called → now ≠ .returned true → other = id ∧ stage = now := by
    intro other now reached begun unreturned
    obtain rfl := Option.some.inj (led.of_stage reached begun unreturned).1
    exact ⟨rfl, Option.some.inj (staged.symm.trans reached)⟩
  have proceeded : ∀ now, (controller.setStage id now).stage? id = some now := by
    intro now
    rw [stage?_setStage, if_pos rfl, staged, Option.map_some]
  cases moved with
  | advance clock =>
    refine ⟨stage, (stage?_advance _ _ _).trans staged, .same noticed ?_⟩
    rw [advance_eq]
    exact fun same => same
  | token => exact ⟨stage, staged, .same noticed fun same => same⟩
  | track => exact ⟨stage, staged, .same noticed (by simp)⟩
  | finish _ => exact Onward.left led staged
  | panic _ => exact Onward.left led staged
  | call =>
    refine ⟨stage, ?_, .same noticed fun same => same⟩
    rw [stage?_call _ known, if_neg, staged]
    rintro rfl
    cases known.symm.trans staged
  | turnAway called initiated =>
    refine ⟨stage, ?_, .same noticed fun same => same⟩
    rw [stage?_setStage, if_neg, staged]
    rintro rfl
    exact begun (Option.some.inj (staged.symm.trans called))
  | claim _ initiated => cases initiated.symm.trans (led.initiated.mpr rfl)
  | announce reached =>
    obtain ⟨rfl, rfl⟩ := only reached (by simp) (by simp)
    exact ⟨.announced, proceeded _, .prepares rfl rfl⟩
  | cancel reached =>
    obtain ⟨rfl, rfl⟩ := only reached (by simp) (by simp)
    exact ⟨.cancelled, proceeded _, .prepares rfl rfl⟩
  | close reached =>
    obtain ⟨rfl, rfl⟩ := only reached (by simp) (by simp)
    exact ⟨.closed, proceeded _, .prepares rfl rfl⟩
  | wait reached =>
    obtain ⟨rfl, rfl⟩ := only reached (by simp) (by simp)
    have closed : controller.closed = true := congrArg ShutdownFlags.closed
      (led.of_stage staged (by simp) (by simp)).2
    refine ⟨_, ?_, .opens rfl⟩
    rw [stage?_notice, proceeded, notice_tasks]
    show (if controller.closed = true ∧ controller.tasks = [] then _ else _) =
      some (ShutdownStage.waiting _ controller.tasks.isEmpty)
    cases controller.tasks <;> simp [closed, ShutdownStage.noticed]
  | conclude reached ended =>
    obtain ⟨rfl, rfl⟩ := only reached (by simp) (by simp)
    exact ⟨_, proceeded _, .returns ended⟩

/-- What the stage of the call that shuts down says about the run. -/
structure Conducted (first : ShutdownController) (moves : List ShutdownMove)
    (controller : ShutdownController) (id : Nat) (stage : ShutdownStage) : Prop where
  begun : stage ≠ .called
  noticed : controller.Noticed stage
  drained : stage.hasDrained = true ↔
    ∃ moment, first.Passes moves moment ∧ moment.Awaits id ∧ moment.tasks = []
  unopened : stage.isPreparing = true → ∀ moment, first.Passes moves moment → ¬ moment.Awaits id
  opened : stage.isPreparing = false →
    ∃ deadline, first.Opened moves id deadline ∧
      first.WaitsUntil moves id deadline ∧ (stage = .returned false → deadline ≤ controller.clock)

theorem Opened.mono {deadline : Instant} {later : List ShutdownMove}
    (opened : first.Opened moves id deadline) : first.Opened (moves ++ later) id deadline := by
  obtain ⟨point, made, staged, rfl⟩ := opened
  exact ⟨point, made.mono, staged, rfl⟩

theorem Onward.begun (onward : Onward controller move next id stage stage')
    (begun : stage ≠ .called) : stage' ≠ .called := by
  cases onward with
  | stays _ => exact begun
  | prepares _ now => rintro rfl; cases now
  | opens _ => simp
  | waits => simp
  | returns _ => simp

theorem Onward.noticed (onward : Onward controller move next id stage stage') :
    next.Noticed stage' := by
  intro deadline same
  subst same
  generalize shown : ShutdownStage.waiting deadline false = stage' at onward
  cases onward with
  | stays unwaiting => subst shown; cases unwaiting
  | prepares _ now => subst shown; cases now
  | opens _ =>
    have left := (ShutdownStage.waiting.inj shown).2
    simpa using left.symm
  | waits =>
    have left := (ShutdownStage.waiting.inj shown).2
    have left := (Bool.or_eq_false_iff.mp left.symm).2
    simpa using left
  | returns _ => cases shown

theorem Onward.hasDrained (onward : Onward controller move next id stage stage') :
    stage'.hasDrained = true ↔
      stage.hasDrained = true ∨ stage'.isWaiting = true ∧ next.tasks = [] := by
  cases onward with
  | stays unwaiting => simp [unwaiting]
  | prepares before now => cases stage <;> cases stage' <;> simp_all [ShutdownStage.hasDrained,
      ShutdownStage.isPreparing, ShutdownStage.isWaiting]
  | opens _ => simp [ShutdownStage.hasDrained, ShutdownStage.isWaiting]
  | waits => simp [ShutdownStage.hasDrained, ShutdownStage.isWaiting]
  | returns _ => simp [ShutdownStage.hasDrained, ShutdownStage.isWaiting]

theorem awaits_iff (staged : controller.stage? id = some stage) :
    controller.Awaits id ↔ stage.isWaiting = true := by
  simp [Awaits, staged]

theorem exists_passes_concat {holds : ShutdownController → Prop}
    (run : Run first (moves ++ [move]) after) :
    (∃ moment, first.Passes (moves ++ [move]) moment ∧ holds moment) ↔
      (∃ moment, first.Passes moves moment ∧ holds moment) ∨ holds after := by
  simp only [passes_concat run]
  constructor
  · rintro ⟨moment, passes | rfl, held⟩
    · exact Or.inl ⟨moment, passes, held⟩
    · exact Or.inr held
  · rintro (⟨moment, passes, held⟩ | held)
    · exact ⟨moment, Or.inl passes, held⟩
    · exact ⟨after, Or.inr rfl, held⟩

theorem waitsUntil_concat {deadline : Instant} (run : Run first (moves ++ [move]) after)
    (staged : after.stage? id = some stage) :
    first.WaitsUntil (moves ++ [move]) id deadline ↔ first.WaitsUntil moves id deadline ∧
      ∀ deadline' drained, stage = .waiting deadline' drained → deadline' = deadline := by
  constructor
  · intro waits
    refine ⟨fun moment deadline' drained passes => ?_, fun deadline' drained same => ?_⟩
    · exact waits moment deadline' drained ((passes_concat run).mpr (Or.inl passes))
    · exact waits after deadline' drained ((passes_concat run).mpr (Or.inr rfl)) (same ▸ staged)
  · rintro ⟨waits, now⟩ moment deadline' drained passes waiting
    rcases (passes_concat run).mp passes with before | rfl
    · exact waits moment deadline' drained before waiting
    · exact now deadline' drained (Option.some.inj (staged.symm.trans waiting))

theorem Conducted.onward (conducted : Conducted first moves middle id stage)
    (run : Run first moves middle) (made : middle.move? move = some next)
    (staged : middle.stage? id = some stage) (staged' : next.stage? id = some stage')
    (onward : Onward middle move next id stage stage') :
    Conducted first (moves ++ [move]) next id stage' where
  begun := onward.begun conducted.begun
  noticed := onward.noticed
  drained := by
    rw [onward.hasDrained, conducted.drained, exists_passes_concat (run.concat made),
      awaits_iff staged']
  unopened := by
    intro preparing' moment passes awaits
    rcases (passes_concat (run.concat made)).mp passes with before | rfl
    · cases onward with
      | stays _ => exact conducted.unopened preparing' moment before awaits
      | prepares preparing _ => exact conducted.unopened preparing moment before awaits
      | opens _ => cases preparing'
      | waits => cases preparing'
      | returns _ => cases preparing'
    · have waiting := (awaits_iff staged').mp awaits
      cases stage' with
      | waiting _ _ => cases preparing'
      | _ => cases waiting
  opened := by
    intro unpreparing
    have current : first.Passes moves middle := ⟨moves, [], (List.append_nil _).symm, run⟩
    simp only [waitsUntil_concat (run.concat made) staged']
    cases onward with
    | stays unwaiting =>
      obtain ⟨deadline, opened, only, late⟩ := conducted.opened unpreparing
      refine ⟨deadline, opened.mono, ⟨only, ?_⟩,
        fun same => Int.le_trans (late same) (moved_of_move? made).clock_le⟩
      rintro deadline' drained rfl
      cases unwaiting
    | prepares _ now =>
      rw [now] at unpreparing
      cases unpreparing
    | opens made =>
      refine ⟨middle.clock.addNanos middle.timeout, ⟨middle, ?_, staged, ?_⟩, ⟨?_, ?_⟩, by simp⟩
      · exact (madeFrom_concat run).mpr (Or.inr ⟨rfl, made.symm⟩)
      · rw [run.timeout_eq]
      · intro moment deadline drained passes waits
        exact absurd ⟨_, waits, rfl⟩ (conducted.unopened rfl moment passes)
      · intro deadline drained same
        exact (ShutdownStage.waiting.inj same).1.symm
    | waits =>
      -- the deadline is that of the moment before, which is part of the run too
      obtain ⟨deadline, opened, only, -⟩ := conducted.opened rfl
      refine ⟨deadline, opened.mono, ⟨only, ?_⟩, by simp⟩
      intro deadline' drained same
      exact (ShutdownStage.waiting.inj same).1 ▸ only middle _ _ current staged
    | returns ended =>
      obtain ⟨deadline, opened, only, -⟩ := conducted.opened rfl
      obtain rfl := only middle _ _ current staged
      refine ⟨_, opened.mono, ⟨only, by simp⟩, ?_⟩
      rintro ⟨⟩
      exact ended.resolve_left (by simp)

theorem Claims.stage? (claims : controller.Claims move id) (moved : controller.Moved move next) :
    next.stage? id = some .claimed := by
  obtain ⟨rfl, called, uninitiated⟩ := claims
  cases moved with
  | turnAway _ initiated => cases initiated.symm.trans uninitiated
  | claim => exact (stage?_setStage controller id id .claimed).trans (by simp [called])
  | announce staged => cases staged.symm.trans called
  | cancel staged => cases staged.symm.trans called
  | close staged => cases staged.symm.trans called
  | wait staged => cases staged.symm.trans called
  | conclude staged => cases staged.symm.trans called

theorem Claims.conducted (claims : middle.Claims move id)
    (run : Run (start timeout clock) moves middle) (made : middle.move? move = some next) :
    Conducted (start timeout clock) (moves ++ [move]) next id .claimed := by
  have staged := claims.stage? (moved_of_move? made)
  -- before it claimed, the call did not wait
  have fresh : ∀ moment, (start timeout clock).Passes moves moment → ¬ moment.Awaits id := by
    intro moment passes awaits
    have led := run.led_of_performs (Run.performs_of_awaits passes awaits)
    exact not_claims_of_initiated (led.initiated.mpr rfl) claims
  refine ⟨by simp, by simp [Noticed], ?_, ?_, by simp [ShutdownStage.isPreparing]⟩
  · rw [exists_passes_concat (run.concat made), awaits_iff staged]
    simp only [ShutdownStage.hasDrained, ShutdownStage.isWaiting]
    constructor
    · intro drained
      cases drained
    · rintro (⟨moment, passes, awaits, -⟩ | ⟨waiting, -⟩)
      · exact absurd awaits (fresh moment passes)
      · exact waiting
  · intro _ moment passes awaits
    rcases (passes_concat (run.concat made)).mp passes with before | rfl
    · exact fresh moment before awaits
    · cases (awaits_iff staged).mp awaits

theorem Run.conducted (run : Run (start timeout clock) moves after)
    (performs : (start timeout clock).Performs moves id) :
    ∃ stage, after.stage? id = some stage ∧
      Conducted (start timeout clock) moves after id stage := by
  refine run.onward (fun moves controller => (start timeout clock).Performs moves id →
    ∃ stage, controller.stage? id = some stage ∧
      Conducted (start timeout clock) moves controller id stage) ?_ ?_ performs
  · exact fun performs => absurd performs not_performs_nil
  · intro earlier middle next move before made ih performs
    have moved := moved_of_move? made
    rcases (performs_concat before).mp performs with already | claims
    · obtain ⟨stage, staged, conducted⟩ := ih already
      obtain ⟨stage', staged', onward⟩ := moved.onward (before.led_of_performs already)
        before.numbered.stage?_nextId staged conducted.begun conducted.noticed
      exact ⟨stage', staged', conducted.onward before made staged staged' onward⟩
    · exact ⟨.claimed, claims.stage? moved, claims.conducted before made⟩

end ShutdownController

end PowerRota
