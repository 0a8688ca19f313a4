import Mathlib.Data.List.Induction
import PowerRota.Shutdown

/-! Runs of a shutdown controller: calls for shutdown, their steps, tokens and tasks, and the
passing of time, in any order.

A call is seen through its stage. `Moved` says once what each move does to the controller and when
it can be made, and a run is followed from its beginning, move by move. -/

set_option autoImplicit false

namespace PowerRota

open PowerRota.Calendar

inductive ShutdownMove where
  | advance (clock : Instant)
  | step (event : ShutdownEvent)
  deriving DecidableEq, Repr

theorem concat_eq_append_cons_iff {Move : Type} {moves earlier later : List Move}
    {last move : Move} :
    moves ++ [last] = earlier ++ move :: later ↔
      (∃ rest, later = rest ++ [last] ∧ moves = earlier ++ move :: rest) ∨
        earlier = moves ∧ move = last ∧ later = [] := by
  constructor
  · intro split
    rcases List.eq_nil_or_concat later with rfl | ⟨rest, other, rfl⟩
    · obtain ⟨same, ends⟩ := List.append_inj' split rfl
      exact Or.inr ⟨same.symm, (List.cons.inj ends).1.symm, rfl⟩
    · rw [List.concat_eq_append, ← List.cons_append, ← List.append_assoc] at split
      obtain ⟨same, ends⟩ := List.append_inj' split rfl
      exact Or.inl ⟨rest, by rw [List.concat_eq_append, ends], same⟩
  · rintro (⟨rest, rfl, rfl⟩ | ⟨rfl, rfl, rfl⟩) <;> simp

namespace ShutdownController

variable {controller first middle after : ShutdownController} {move : ShutdownMove}
  {moves earlier later : List ShutdownMove} {id other : Nat} {stage : ShutdownStage}

def move? (controller : ShutdownController) : ShutdownMove → Option ShutdownController
  | .advance clock => some (controller.advance clock)
  | .step event => controller.step? event

inductive Run : ShutdownController → List ShutdownMove → ShutdownController → Prop where
  | done {controller : ShutdownController} : Run controller [] controller
  | next {controller middle after : ShutdownController} {move : ShutdownMove}
      {moves : List ShutdownMove} :
      controller.move? move = some middle → Run middle moves after →
      Run controller (move :: moves) after

def MadeFrom (first : ShutdownController) (moves : List ShutdownMove)
    (middle : ShutdownController) (move : ShutdownMove) : Prop :=
  ∃ earlier later, moves = earlier ++ move :: later ∧ Run first earlier middle

/-- A run comes to `moment`, at its end if not before. -/
def Passes (first : ShutdownController) (moves : List ShutdownMove)
    (moment : ShutdownController) : Prop :=
  ∃ earlier later, moves = earlier ++ later ∧ Run first earlier moment

theorem Run.trans (before : Run first earlier middle) (onwards : Run middle later after) :
    Run first (earlier ++ later) after := by
  induction before with
  | done => exact onwards
  | next moved _ ih => exact .next moved (ih onwards)

theorem Run.concat (run : Run first moves middle) (moved : middle.move? move = some after) :
    Run first (moves ++ [move]) after :=
  run.trans (.next moved .done)

theorem Run.split (run : Run first (earlier ++ later) after) (before : Run first earlier middle) :
    Run middle later after := by
  induction before with
  | done => exact run
  | next moved _ ih =>
    cases run with
    | next moved' rest =>
      -- a move leads to one state only
      cases moved.symm.trans moved'
      exact ih rest

theorem Run.exists_middle (run : Run first (earlier ++ later) after) :
    ∃ middle, Run first earlier middle ∧ Run middle later after := by
  induction earlier generalizing first with
  | nil => exact ⟨first, .done, run⟩
  | cons move earlier ih =>
    cases run with
    | next moved rest =>
      obtain ⟨middle, before, onwards⟩ := ih rest
      exact ⟨middle, .next moved before, onwards⟩

theorem run_of_foldlM (computed : moves.foldlM move? first = some after) :
    Run first moves after := by
  induction moves generalizing first with
  | nil => exact Option.some.inj computed ▸ .done
  | cons move moves ih =>
    obtain ⟨middle, moved, rest⟩ := Option.bind_eq_some_iff.mp computed
    exact .next moved (ih rest)

theorem Run.computed (run : Run first moves after) : moves.foldlM move? first = some after := by
  induction run with
  | done => rfl
  | next moved _ ih => exact Option.bind_eq_some_iff.mpr ⟨_, moved, ih⟩

theorem Run.unique (run : Run first moves middle) (again : Run first moves after) :
    middle = after := by
  rw [← List.append_nil moves] at again
  cases again.split run
  rfl

theorem Run.exists_last (run : Run first (moves ++ [move]) after) :
    ∃ middle, Run first moves middle ∧ middle.move? move = some after := by
  obtain ⟨middle, before, last⟩ := run.exists_middle
  cases last with
  | next moved rest =>
    cases rest
    exact ⟨middle, before, moved⟩

/-- What holds at the beginning, and after each move of what came before it, holds at the end. -/
theorem Run.onward (run : Run first moves after)
    (kept : List ShutdownMove → ShutdownController → Prop) (start : kept [] first)
    (step : ∀ {earlier : List ShutdownMove} {middle next : ShutdownController}
      {move : ShutdownMove}, Run first earlier middle → middle.move? move = some next →
      kept earlier middle → kept (earlier ++ [move]) next) : kept moves after := by
  induction moves using List.reverseRecOn generalizing after with
  | nil =>
    cases run
    exact start
  | append_singleton earlier move ih =>
    obtain ⟨middle, before, moved⟩ := run.exists_last
    exact step before moved (ih before)

theorem madeFrom_concat (run : Run first moves middle) {point : ShutdownController}
    {other : ShutdownMove} :
    first.MadeFrom (moves ++ [move]) point other ↔
      first.MadeFrom moves point other ∨ point = middle ∧ other = move := by
  simp only [MadeFrom, concat_eq_append_cons_iff]
  constructor
  · rintro ⟨earlier, _, ⟨rest, -, split⟩ | ⟨rfl, rfl, -⟩, before⟩
    · exact Or.inl ⟨earlier, rest, split, before⟩
    · exact Or.inr ⟨before.unique run, rfl⟩
  · rintro (⟨earlier, rest, split, before⟩ | ⟨rfl, rfl⟩)
    · exact ⟨earlier, _, Or.inl ⟨rest, rfl, split⟩, before⟩
    · exact ⟨moves, [], Or.inr ⟨rfl, rfl, rfl⟩, run⟩

theorem passes_concat (run : Run first (moves ++ [move]) after) {moment : ShutdownController} :
    first.Passes (moves ++ [move]) moment ↔ first.Passes moves moment ∨ moment = after := by
  constructor
  · rintro ⟨earlier, later, split, before⟩
    rcases List.eq_nil_or_concat later with rfl | ⟨later, last, rfl⟩
    · rw [List.append_nil] at split
      exact Or.inr (before.unique (split ▸ run))
    · rw [List.concat_eq_append, ← List.append_assoc] at split
      exact Or.inl ⟨earlier, later, (List.append_inj' split rfl).1, before⟩
  · rintro (⟨earlier, later, rfl, before⟩ | rfl)
    · exact ⟨earlier, later ++ [move], by simp, before⟩
    · exact ⟨moves ++ [move], [], (List.append_nil _).symm, run⟩

def stage? (controller : ShutdownController) (id : Nat) : Option ShutdownStage :=
  (controller.call? id).map (·.stage)

theorem id_of_call? {call : ShutdownCall} (found : controller.call? id = some call) :
    call.id = id := by
  unfold call? at found
  have fits := List.find?_some found
  exact eq_of_beq fits

theorem call?_map (controller : ShutdownController) (change : ShutdownCall → ShutdownCall)
    (same : ∀ call, (change call).id = call.id) (id : Nat) :
    { controller with calls := controller.calls.map change }.call? id =
      (controller.call? id).map change := by
  simp only [call?, List.find?_map, Function.comp_def, same]

theorem stage?_setStage (controller : ShutdownController) (id other : Nat)
    (stage : ShutdownStage) :
    (controller.setStage id stage).stage? other =
      if other = id then (controller.stage? id).map fun _ => stage
      else controller.stage? other := by
  unfold stage? setStage
  rw [call?_map _ _ (by intro call; split <;> rfl)]
  split
  next same =>
    subst same
    cases found : controller.call? other with
    | none => rfl
    | some call =>
      simp [id_of_call? found]
  next different =>
    cases found : controller.call? other with
    | none => rfl
    | some call =>
      simp [id_of_call? found, different]

theorem stage?_notice (controller : ShutdownController) (id : Nat) :
    controller.notice.stage? id =
      if controller.closed ∧ controller.tasks = [] then
        (controller.stage? id).map ShutdownStage.noticed
      else controller.stage? id := by
  simp only [notice, Bool.and_eq_true, List.isEmpty_iff]
  split
  · unfold stage?
    rw [call?_map _ (fun call => { call with stage := call.stage.noticed }) (fun _ => rfl),
      Option.map_map, Option.map_map]
    rfl
  · rfl

@[simp] theorem notice_tasks (controller : ShutdownController) :
    controller.notice.tasks = controller.tasks := by
  unfold notice
  split <;> rfl

theorem stage?_call (controller : ShutdownController)
    (unknown : controller.stage? controller.nextId = none) (id : Nat) :
    { controller with
      calls := controller.calls ++ [(⟨controller.nextId, .called⟩ : ShutdownCall)]
      nextId := controller.nextId + 1 }.stage? id =
      if id = controller.nextId then some .called else controller.stage? id := by
  simp only [stage?, call?, List.find?_append, Option.map_or] at unknown ⊢
  split
  next same =>
    subst same
    simp [unknown]
  next different =>
    have apart : controller.nextId ≠ id := Ne.symm different
    simp [apart]

inductive Moved (controller : ShutdownController) : ShutdownMove → ShutdownController → Prop where
  | advance (clock : Instant) : Moved controller (.advance clock) (controller.advance clock)
  | token : Moved controller (.step .token) controller.handOut
  | track :
      Moved controller (.step .track)
        { controller with
          tasks := controller.tasks ++ [controller.nextId], nextId := controller.nextId + 1 }
  | finish {task : Nat} (unfinished : task ∈ controller.tasks) :
      Moved controller (.step (.finish task))
        { controller with tasks := controller.tasks.filter (· ≠ task) }.notice
  | panic {task : Nat} (unfinished : task ∈ controller.tasks) :
      Moved controller (.step (.panic task))
        { controller with tasks := controller.tasks.filter (· ≠ task) }.notice
  | call :
      Moved controller (.step .call)
        { controller with
          calls := controller.calls ++ [(⟨controller.nextId, .called⟩ : ShutdownCall)]
          nextId := controller.nextId + 1 }
  | turnAway {id : Nat} (stage : controller.stage? id = some .called)
      (initiated : controller.initiated = true) :
      Moved controller (.step (.proceed id)) (controller.setStage id (.returned true))
  | claim {id : Nat} (stage : controller.stage? id = some .called)
      (initiated : controller.initiated = false) :
      Moved controller (.step (.proceed id)) { controller.setStage id .claimed with initiated := true }
  | announce {id : Nat} (stage : controller.stage? id = some .claimed) :
      Moved controller (.step (.proceed id))
        { controller.setStage id .announced with phase := .draining }
  | cancel {id : Nat} (stage : controller.stage? id = some .announced) :
      Moved controller (.step (.proceed id)) (controller.setStage id .cancelled).cancelRoot
  | close {id : Nat} (stage : controller.stage? id = some .cancelled) :
      Moved controller (.step (.proceed id)) { controller.setStage id .closed with closed := true }
  | wait {id : Nat} (stage : controller.stage? id = some .closed) :
      Moved controller (.step (.proceed id))
        (controller.setStage id
          (.waiting (controller.clock.addNanos controller.timeout) false)).notice
  | conclude {id : Nat} {deadline : Instant} {drained : Bool}
      (stage : controller.stage? id = some (.waiting deadline drained))
      (ended : drained = true ∨ deadline ≤ controller.clock) :
      Moved controller (.step (.proceed id))
        { controller.setStage id (.returned drained) with phase := .terminated }

theorem leave?_eq_some {task : Nat} (left : controller.leave? task = some after) :
    task ∈ controller.tasks ∧
      after = { controller with tasks := controller.tasks.filter (· ≠ task) }.notice := by
  obtain ⟨unfinished, same⟩ := Option.ite_none_right_eq_some.mp left
  exact ⟨List.contains_iff_mem.mp unfinished, (Option.some.inj same).symm⟩

theorem proceed?_moved {call : ShutdownCall} (found : controller.call? id = some call)
    (proceeded : controller.proceed? call = some after) :
    controller.Moved (.step (.proceed id)) after := by
  obtain rfl := id_of_call? found
  have staged : controller.stage? call.id = some call.stage := by rw [stage?, found, Option.map_some]
  unfold proceed? at proceeded
  -- one case for each stage, in the order of the stages
  split at proceeded
  next stage =>
    rw [stage] at staged
    split at proceeded <;> cases proceeded
    next initiated => exact .turnAway staged initiated
    next initiated => exact .claim staged (eq_false_of_ne_true initiated)
  next stage =>
    cases proceeded
    exact .announce (stage ▸ staged)
  next stage =>
    cases proceeded
    exact .cancel (stage ▸ staged)
  next stage =>
    cases proceeded
    exact .close (stage ▸ staged)
  next stage =>
    cases proceeded
    exact .wait (stage ▸ staged)
  next deadline drained stage =>
    obtain ⟨ended, same⟩ := Option.ite_none_right_eq_some.mp proceeded
    cases same
    exact .conclude (stage ▸ staged) ended
  next => cases proceeded

theorem moved_of_move? (moved : controller.move? move = some after) :
    controller.Moved move after := by
  cases move with
  | advance clock => exact Option.some.inj moved ▸ .advance clock
  | step event =>
    cases event with
    | token => exact Option.some.inj moved ▸ .token
    | track => exact Option.some.inj moved ▸ .track
    | finish task =>
      obtain ⟨unfinished, rfl⟩ := leave?_eq_some moved
      exact .finish unfinished
    | panic task =>
      obtain ⟨unfinished, rfl⟩ := leave?_eq_some moved
      exact .panic unfinished
    | call => exact Option.some.inj moved ▸ .call
    | proceed id =>
      obtain ⟨call, found, proceeded⟩ := Option.bind_eq_some_iff.mp moved
      exact proceed?_moved found proceeded

end ShutdownController

end PowerRota
