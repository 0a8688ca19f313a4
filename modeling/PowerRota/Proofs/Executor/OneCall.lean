import Mathlib.Logic.Relation
import PowerRota.Proofs.Executor.Answers

/-! Many invocations of one action on one resource come to one call.

As long as the first of them is in progress, the key turns the others away, and from then on
the state does. There is nothing between the two, since the key is given back when the state
has changed. -/

set_option autoImplicit false

namespace PowerRota

open PowerRota.Calendar

def CloudCall.verb? : CloudCall → Option Action
  | query _ => none
  | start _ => some .start
  | stop _ => some .stop

theorem CloudCall.verb?_operation (action : Action) (resource : Resource) :
    (operation action resource).verb? = some action := by
  cases action <;> rfl

/-- A resource, the executor that alone acts on it, and what has come of one action. -/
structure Scene where
  executor : Executor
  state : ResourceState
  /-- What the cloud has told an invocation, which need not have heard it yet. -/
  told : Nat → Option ResourceState
  begun : Nat
  calls : List Action
  returned : List Outcome

namespace Scene

def start (executor : Executor) (state : ResourceState) : Scene :=
  ⟨executor, state, fun _ => none, 0, [], []⟩

def invoke (scene : Scene) (slot : Slot) (folder : String) : Scene :=
  let resource : Resource := ⟨slot.kind, slot.id, folder⟩
  let (executor, beginning) := scene.executor.begin resource slot.action.label
  { scene with
    executor
    begun := scene.begun + 1
    returned := scene.returned ++ beginning.outcome?.toList }

def heard (scene : Scene) (executor : Executor) (progress : Progress) : Scene :=
  { scene with
    executor
    calls := scene.calls ++ (progress.call?.bind CloudCall.verb?).toList
    returned := scene.returned ++ progress.outcome?.toList }

variable {slot : Slot} {scene after : Scene} {invocation : Invocation}

/-- The cloud tells the state as it is at some moment before the answer is heard. A call may
make the state waver, but it succeeds, and with it the state is reached. Nothing else happens
to the resource. -/
inductive Step (slot : Slot) (scene : Scene) : Scene → Prop where
  | elsewhere {event : ExecutorEvent} {executor : Executor} {outcome? : Option Outcome}
      (apart : ∀ action, scene.executor.subject? event ≠ some ⟨slot.kind, slot.id, action⟩)
      (stepped : scene.executor.step? event = some (executor, outcome?)) :
      Step slot scene { scene with executor }
  | invoke (folder : String) : Step slot scene (scene.invoke slot folder)
  | tell (invocation : Invocation) (serves : scene.executor.Serves slot invocation)
      (asks : invocation.phase = .querying) :
      Step slot scene
        { scene with told := Function.update scene.told invocation.id (some scene.state) }
  | hear (invocation : Invocation) (serves : scene.executor.Serves slot invocation)
      {state : ResourceState} (told : scene.told invocation.id = some state) (now : Instant)
      {executor : Executor} {progress : Progress}
      (answered : scene.executor.answerState? invocation.id now (some state) =
        some (executor, progress)) :
      Step slot scene (scene.heard executor progress)
  | waver (invocation : Invocation) (serves : scene.executor.Serves slot invocation)
      {deadline : Instant} (acts : invocation.phase = .operating deadline)
      (state : ResourceState) :
      Step slot scene { scene with state }
  | complete (invocation : Invocation) (serves : scene.executor.Serves slot invocation)
      {executor : Executor} {outcome : Outcome}
      (stepped : scene.executor.answerOperation? invocation.id true = some (executor, outcome)) :
      Step slot scene
        { scene with
          executor
          state := .targetOf slot.action
          returned := scene.returned ++ [outcome] }

abbrev Run (slot : Slot) : Scene → Scene → Prop := Relation.ReflTransGen (Step slot)

/-- What an invocation may return: that it was the one, or that it was turned away, by the key
or by the state. -/
def IsPlain (outcome : Outcome) : Prop :=
  outcome = .success ∨ outcome = .skipped .inFlight ∨ outcome = .skipped .alreadyInState

/-! How far the slot has come. -/

/-- The calls so far, the successes so far, and how many invocations are in progress. -/
structure Tally (scene : Scene) (calls : List Action) (successes inProgress : Nat) : Prop where
  calls : scene.calls = calls
  successes : scene.returned.count .success = successes
  begun : scene.begun = scene.returned.length + inProgress

inductive Stage (slot : Slot) (scene : Scene) : Prop where
  | untouched (free : scene.executor.Free slot) (stable : scene.state.isTransitional = false)
      (away : scene.state ≠ .targetOf slot.action) (none_yet : scene.begun = 0)
      (tally : scene.Tally [] 0 0)
  | asking {invocation : Invocation} (serves : scene.executor.Serves slot invocation)
      (asks : invocation.phase = .querying) (stable : scene.state.isTransitional = false)
      (away : scene.state ≠ .targetOf slot.action) (tally : scene.Tally [] 0 1)
  | acting {invocation : Invocation} (serves : scene.executor.Serves slot invocation)
      {deadline : Instant} (acts : invocation.phase = .operating deadline)
      (tally : scene.Tally [slot.action] 0 1)
  | checking {invocation : Invocation} (serves : scene.executor.Serves slot invocation)
      (asks : invocation.phase = .querying) (reached : scene.state = .targetOf slot.action)
      (tally : scene.Tally [slot.action] 1 1)
  | settled (free : scene.executor.Free slot) (reached : scene.state = .targetOf slot.action)
      (tally : scene.Tally [slot.action] 1 0)

structure Course (slot : Slot) (scene : Scene) : Prop where
  coherent : scene.executor.Coherent
  live : scene.executor.dryRun = false
  untold : ∀ id, scene.executor.nextId ≤ id → scene.told id = none
  honest : ∀ invocation, scene.executor.Serves slot invocation → invocation.phase = .querying →
    ∀ state, scene.told invocation.id = some state → state = scene.state
  plain : ∀ outcome ∈ scene.returned, IsPlain outcome
  stage : Stage slot scene

namespace Tally

variable {calls : List Action} {successes inProgress : Nat} {executor : Executor}
  {outcome : Outcome}

theorem turnAway (tally : scene.Tally calls successes inProgress)
    (unlike : outcome ≠ .success) :
    Tally { scene with
      executor, begun := scene.begun + 1, returned := scene.returned ++ [outcome] }
      calls successes inProgress where
  calls := tally.calls
  successes := by
    rw [List.count_append, tally.successes, List.count_singleton, if_neg (by simpa using unlike),
      Nat.add_zero]
  begun := by
    show scene.begun + 1 = (scene.returned ++ [outcome]).length + inProgress
    rw [List.length_append, List.length_singleton, tally.begun]
    omega

theorem returns (tally : scene.Tally calls successes 1) (state : ResourceState) :
    Tally { scene with executor, state, returned := scene.returned ++ [outcome] }
      calls (successes + if outcome = .success then 1 else 0) 0 where
  calls := tally.calls
  successes := by
    rw [List.count_append, tally.successes, List.count_singleton]
    congr 1
    simp only [beq_iff_eq]
  begun := by
    show scene.begun = (scene.returned ++ [outcome]).length + 0
    rw [List.length_append, List.length_singleton, tally.begun]

end Tally

/-! What each step keeps. -/

theorem Stage.of_serves_iff (stage : Stage slot scene) {executor : Executor}
    (same : ∀ invocation,
      executor.Serves slot invocation ↔ scene.executor.Serves slot invocation) :
    Stage slot { scene with executor } := by
  have freely (free : scene.executor.Free slot) : executor.Free slot :=
    fun invocation serves => free invocation ((same invocation).mp serves)
  cases stage with
  | untouched free stable away none_yet tally =>
    exact .untouched (freely free) stable away none_yet ⟨tally.1, tally.2, tally.3⟩
  | asking serves asks stable away tally =>
    exact .asking ((same _).mpr serves) asks stable away ⟨tally.1, tally.2, tally.3⟩
  | acting serves acts tally =>
    exact .acting ((same _).mpr serves) acts ⟨tally.1, tally.2, tally.3⟩
  | checking serves asks reached tally =>
    exact .checking ((same _).mpr serves) asks reached ⟨tally.1, tally.2, tally.3⟩
  | settled free reached tally => exact .settled (freely free) reached ⟨tally.1, tally.2, tally.3⟩

theorem Course.elsewhere (course : Course slot scene) {event : ExecutorEvent}
    {executor : Executor} {outcome? : Option Outcome}
    (apart : ∀ action, scene.executor.subject? event ≠ some ⟨slot.kind, slot.id, action⟩)
    (stepped : scene.executor.step? event = some (executor, outcome?)) :
    Course slot { scene with executor } := by
  have same (invocation : Invocation) :
      executor.Serves slot invocation ↔ scene.executor.Serves slot invocation :=
    course.coherent.serves_iff_of_step stepped (apart slot.action)
  have moved := Executor.step?_move stepped
  exact
    { coherent := course.coherent.move moved
      live := moved.dryRun_eq.trans course.live
      untold := fun id later => course.untold id (Nat.le_trans moved.nextId_le later)
      honest := fun invocation serves => course.honest invocation ((same invocation).mp serves)
      plain := course.plain
      stage := course.stage.of_serves_iff same }

theorem Course.invoke_of_serves (course : Course slot scene) (folder : String)
    (serves : scene.executor.Serves slot invocation) :
    scene.invoke slot folder =
      { scene with
        begun := scene.begun + 1, returned := scene.returned ++ [.skipped .inFlight] } := by
  have turned : scene.executor.begin ⟨slot.kind, slot.id, folder⟩ slot.action.label = _ :=
    Executor.begin_of_serves course.coherent serves
  simp only [invoke, turned, Beginning.outcome?, Option.toList_some]

theorem Course.invoke_of_free (course : Course slot scene) (folder : String)
    (free : scene.executor.Free slot) :
    scene.invoke slot folder =
      { scene with
        executor := scene.executor.enter ⟨slot.kind, slot.id, folder⟩ slot.action
        begun := scene.begun + 1 } := by
  have entered : scene.executor.begin ⟨slot.kind, slot.id, folder⟩ slot.action.label = _ :=
    free.begin course.coherent course.live rfl
  simp only [invoke, entered, Beginning.outcome?, Option.toList_none, List.append_nil]

theorem Stage.free_or_serves (stage : Stage slot scene) :
    scene.executor.Free slot ∨ ∃ invocation, scene.executor.Serves slot invocation := by
  cases stage with
  | untouched free | settled free => exact Or.inl free
  | asking serves | acting serves | checking serves => exact Or.inr ⟨_, serves⟩

theorem Course.turnAway (course : Course slot scene)
    (serves : scene.executor.Serves slot invocation) :
    Course slot { scene with
      begun := scene.begun + 1, returned := scene.returned ++ [.skipped .inFlight] } where
  coherent := course.coherent
  live := course.live
  untold := course.untold
  honest := course.honest
  plain := List.forall_mem_append.mpr
    ⟨course.plain, List.forall_mem_singleton.mpr (Or.inr (Or.inl rfl))⟩
  stage := by
    have unlike : Outcome.skipped .inFlight ≠ .success := nofun
    cases course.stage with
    | untouched free | settled free => exact absurd serves (free invocation)
    | asking serves asks stable away tally =>
      exact .asking serves asks stable away (tally.turnAway unlike)
    | acting serves acts tally => exact .acting serves acts (tally.turnAway unlike)
    | checking serves asks reached tally =>
      exact .checking serves asks reached (tally.turnAway unlike)

theorem Course.enter (course : Course slot scene) (folder : String)
    (free : scene.executor.Free slot) :
    Course slot { scene with
      executor := scene.executor.enter ⟨slot.kind, slot.id, folder⟩ slot.action
      begun := scene.begun + 1 } := by
  have entered : (scene.executor.enter ⟨slot.kind, slot.id, folder⟩ slot.action).Serves slot
      ⟨scene.executor.nextId, ⟨slot.kind, slot.id, folder⟩, slot.action, .querying⟩ :=
    Executor.Serves.enters rfl
  have unheld : Executor.key ⟨slot.kind, slot.id, folder⟩ slot.action.label ∉
      scene.executor.held := by
    rw [course.coherent.held_iff]
    exact fun ⟨invocation, serves⟩ => free invocation serves
  have coherent := course.coherent.enter unheld
  refine ⟨coherent, course.live, fun id later => course.untold id (Nat.le_of_succ_le later),
    fun invocation serves _ state told => ?_, course.plain, ?_⟩
  · -- the one that is new has not been told anything
    obtain rfl := coherent.serves_unique serves entered
    cases (course.untold _ (Nat.le_refl _)).symm.trans told
  · cases course.stage with
    | untouched _ stable away none_yet tally =>
      exact .asking entered rfl stable away
        ⟨tally.calls, tally.successes, congrArg (· + 1) tally.begun⟩
    | settled _ reached tally =>
      exact .checking entered rfl reached
        ⟨tally.calls, tally.successes, congrArg (· + 1) tally.begun⟩
    | asking serves | acting serves | checking serves => exact absurd serves (free _)

theorem Course.tell (course : Course slot scene)
    (serves : scene.executor.Serves slot invocation) :
    Course slot
      { scene with told := Function.update scene.told invocation.id (some scene.state) } where
  coherent := course.coherent
  live := course.live
  untold id later := by
    have earlier := course.coherent.id_lt invocation serves.1
    show Function.update scene.told invocation.id _ id = none
    rw [Function.update_of_ne (Nat.ne_of_gt (Nat.lt_of_lt_of_le earlier later))]
    exact course.untold id later
  honest other others asks state told := by
    obtain rfl := course.coherent.serves_unique others serves
    simp only [Function.update_self] at told
    exact (Option.some.inj told).symm
  plain := course.plain
  stage := by
    cases course.stage with
    | untouched free stable away none_yet tally =>
      exact .untouched free stable away none_yet ⟨tally.1, tally.2, tally.3⟩
    | asking serves asks stable away tally =>
      exact .asking serves asks stable away ⟨tally.1, tally.2, tally.3⟩
    | acting serves acts tally => exact .acting serves acts ⟨tally.1, tally.2, tally.3⟩
    | checking serves asks reached tally =>
      exact .checking serves asks reached ⟨tally.1, tally.2, tally.3⟩
    | settled free reached tally => exact .settled free reached ⟨tally.1, tally.2, tally.3⟩

theorem Course.act (course : Course slot scene)
    (serves : scene.executor.Serves slot invocation) (tally : scene.Tally [] 0 1)
    (deadline : Instant) (resource : Resource) :
    Course slot (scene.heard (scene.executor.operate invocation.id deadline)
      (.calls (.operation invocation.action resource))) := by
  have operates := serves.operates deadline
  have coherent := course.coherent.operate invocation.id deadline
  refine ⟨coherent, course.live, course.untold, fun other others asks => ?_, ?_, ?_⟩
  · obtain rfl := coherent.serves_unique others operates
    cases asks
  · simpa [heard, Progress.outcome?] using course.plain
  · refine .acting operates rfl ⟨?_, ?_, ?_⟩
    · have acted : invocation.action = slot.action := by rw [← serves.2]; rfl
      simp [heard, Progress.call?, CloudCall.verb?_operation, tally.calls, acted]
    · simpa [heard, Progress.outcome?] using tally.successes
    · simpa [heard, Progress.outcome?] using tally.begun

theorem Course.settle (course : Course slot scene)
    (serves : scene.executor.Serves slot invocation) {outcome : Outcome} (plain : IsPlain outcome)
    {successes : Nat} (tally : scene.Tally [slot.action] successes 1)
    (one : successes + (if outcome = .success then 1 else 0) = 1) :
    Course slot { scene with
      executor := scene.executor.conclude invocation
      state := .targetOf slot.action
      returned := scene.returned ++ [outcome] } where
  coherent := course.coherent.conclude serves.1
  live := course.live
  untold := course.untold
  honest other others := absurd others (serves.free course.coherent other)
  plain := List.forall_mem_append.mpr ⟨course.plain, List.forall_mem_singleton.mpr plain⟩
  stage := .settled (serves.free course.coherent) rfl (one ▸ tally.returns _)

theorem Course.hear (course : Course slot scene)
    (serves : scene.executor.Serves slot invocation) {state : ResourceState}
    (told : scene.told invocation.id = some state) {now : Instant} {executor : Executor}
    {progress : Progress}
    (answered : scene.executor.answerState? invocation.id now (some state) =
      some (executor, progress)) : Course slot (scene.heard executor progress) := by
  have found := serves.invocation? course.coherent
  have acted : invocation.action = slot.action := by rw [← serves.2]; rfl
  -- whoever hears of the state serves the slot, so it is the one that asks or checks
  cases course.stage with
  | untouched free | settled free => exact absurd serves (free invocation)
  | acting others acts =>
    obtain rfl := course.coherent.serves_unique serves others
    cases (Executor.answerState?_of_operating found acts).symm.trans answered
  | asking others asks stable away tally =>
    obtain rfl := course.coherent.serves_unique serves others
    obtain rfl := course.honest invocation serves asks state told
    have judged := Executor.verdict_of_away stable (acted ▸ away)
    cases (Executor.answerState?_of_none found asks judged).symm.trans answered
    exact course.act serves tally _ _
  | checking others asks reached tally =>
    obtain rfl := course.coherent.serves_unique serves others
    obtain rfl := course.honest invocation serves asks state told
    have judged := Executor.verdict_of_reached invocation.action
    rw [acted, ← reached, ← acted] at judged
    cases (Executor.answerState?_of_reason found asks judged).symm.trans answered
    have settled := course.settle serves (Or.inr (Or.inr rfl)) tally rfl
    rw [← reached] at settled
    simpa [heard, Progress.call?, Progress.outcome?] using settled

theorem Course.complete (course : Course slot scene)
    (serves : scene.executor.Serves slot invocation) {executor : Executor} {outcome : Outcome}
    (stepped : scene.executor.answerOperation? invocation.id true = some (executor, outcome)) :
    Course slot { scene with
      executor
      state := .targetOf slot.action
      returned := scene.returned ++ [outcome] } := by
  have found := serves.invocation? course.coherent
  cases course.stage with
  | untouched free | settled free => exact absurd serves (free invocation)
  | asking others asks | checking others asks =>
    obtain rfl := course.coherent.serves_unique serves others
    cases (Executor.answerOperation?_of_querying found asks true).symm.trans stepped
  | acting others acts tally =>
    obtain rfl := course.coherent.serves_unique serves others
    cases (Executor.answerOperation?_of_operating found acts true).symm.trans stepped
    exact course.settle serves (Or.inl rfl) tally rfl

theorem Course.waver (course : Course slot scene)
    (serves : scene.executor.Serves slot invocation) {deadline : Instant}
    (acts : invocation.phase = .operating deadline) (state : ResourceState) :
    Course slot { scene with state } := by
  refine ⟨course.coherent, course.live, course.untold, fun other others asks => ?_,
    course.plain, ?_⟩
  · obtain rfl := course.coherent.serves_unique others serves
    cases acts.symm.trans asks
  · cases course.stage with
    | untouched free | settled free => exact absurd serves (free invocation)
    | asking others asks | checking others asks =>
      obtain rfl := course.coherent.serves_unique others serves
      cases acts.symm.trans asks
    | acting others acts tally => exact .acting others acts ⟨tally.1, tally.2, tally.3⟩

theorem Course.step (course : Course slot scene) (step : Step slot scene after) :
    Course slot after := by
  cases step with
  | elsewhere apart stepped => exact course.elsewhere apart stepped
  | invoke folder =>
    rcases course.stage.free_or_serves with free | ⟨invocation, serves⟩
    · rw [course.invoke_of_free folder free]
      exact course.enter folder free
    · rw [course.invoke_of_serves folder serves]
      exact course.turnAway serves
  | tell invocation serves asks => exact course.tell serves
  | hear invocation serves told now answered => exact course.hear serves told answered
  | waver invocation serves acts state => exact course.waver serves acts state
  | complete invocation serves stepped => exact course.complete serves stepped

/-! Whole runs. -/

theorem Course.run (course : Course slot scene) (run : Run slot scene after) :
    Course slot after := by
  induction run with
  | refl => exact course
  | tail _ step ih => exact ih.step step

theorem start_course {executor : Executor} {state : ResourceState}
    (coherent : executor.Coherent) (live : executor.dryRun = false) (free : executor.Free slot)
    (stable : state.isTransitional = false) (away : state ≠ .targetOf slot.action) :
    Course slot (start executor state) where
  coherent := coherent
  live := live
  untold _ _ := rfl
  honest invocation serves := absurd serves (free invocation)
  plain := List.forall_mem_nil _
  stage := .untouched free stable away rfl ⟨rfl, rfl, rfl⟩

theorem Course.finish_operation (course : Course slot scene)
    (serves : scene.executor.Serves slot invocation) {deadline : Instant}
    (acts : invocation.phase = .operating deadline) :
    ∃ after, Run slot scene after ∧ after.begun = scene.begun ∧ after.executor.Free slot := by
  have found := serves.invocation? course.coherent
  have answered := Executor.answerOperation?_of_operating found acts true
  exact ⟨_, .single (.complete _ serves answered), rfl, serves.free course.coherent⟩

theorem Course.finishes (course : Course slot scene) :
    ∃ after, Run slot scene after ∧ after.begun = scene.begun ∧ after.executor.Free slot := by
  -- the cloud tells the state first, and the invocation hears of it
  have hears {invocation : Invocation} (serves : scene.executor.Serves slot invocation)
      (asks : invocation.phase = .querying) :
      ∃ after, Run slot scene after ∧ after.begun = scene.begun ∧ after.executor.Free slot := by
    have found := serves.invocation? course.coherent
    let informed : Scene :=
      { scene with told := Function.update scene.told invocation.id (some scene.state) }
    have told : informed.told invocation.id = some scene.state := Function.update_self ..
    have tells : Step slot scene informed := .tell _ serves asks
    have serving : informed.executor.Serves slot invocation := serves
    cases judged : Executor.verdict invocation.action (some scene.state) with
    | some reason =>
      have answered : scene.executor.answerState? invocation.id ⟨0⟩ (some scene.state) = _ :=
        Executor.answerState?_of_reason found asks judged
      exact ⟨_, .tail (.single tells) (.hear _ serving told ⟨0⟩ answered), rfl,
        serves.free course.coherent⟩
    | none =>
      have answered : scene.executor.answerState? invocation.id ⟨0⟩ (some scene.state) = _ :=
        Executor.answerState?_of_none found asks judged
      have heard : Step slot informed _ := .hear _ serving told ⟨0⟩ answered
      have reached := (course.step tells).step heard
      obtain ⟨after, rest, same, free⟩ := reached.finish_operation (serves.operates _) rfl
      exact ⟨after, .head tells (.head heard rest), same, free⟩
  cases course.stage with
  | untouched free | settled free => exact ⟨scene, .refl, rfl, free⟩
  | asking serves asks | checking serves asks => exact hears serves asks
  | acting serves acts => exact course.finish_operation serves acts

/-- What `n` invocations of one action on one resource have come to. -/
structure OneCall (slot : Slot) (scene : Scene) (n : Nat) : Prop where
  /-- As long as some are in progress there is one call at most, and one success at most. -/
  calls : scene.calls = [] ∨ scene.calls = [slot.action]
  successes : scene.returned.count .success ≤ 1
  plain : ∀ outcome ∈ scene.returned, IsPlain outcome
  /-- When all have returned, one of them has made the call and the others were skipped. -/
  settled : 1 ≤ n → scene.executor.Free slot →
    scene.calls = [slot.action] ∧ scene.returned.length = n ∧
      scene.returned.count .success = 1 ∧
      (scene.returned.filter (· ≠ .success)).length = n - 1
  /-- All of them can return. -/
  finishes : ∃ after, Run slot scene after ∧ after.begun = n ∧ after.executor.Free slot

theorem length_filter_ne_success (outcomes : List Outcome) :
    outcomes.count .success + (outcomes.filter (· ≠ .success)).length = outcomes.length := by
  induction outcomes with
  | nil => rfl
  | cons outcome outcomes ih =>
    by_cases same : outcome = .success
    · simp [same] at ih ⊢
      omega
    · simp [same] at ih ⊢
      omega

theorem Tally.settled {calls : List Action} {successes : Nat}
    (tally : scene.Tally calls successes 0) :
    scene.returned.length = scene.begun ∧
      successes + (scene.returned.filter (· ≠ .success)).length = scene.begun := by
  have parts := length_filter_ne_success scene.returned
  rw [tally.successes] at parts
  exact ⟨tally.begun.symm, parts.trans tally.begun.symm⟩

theorem Course.oneCall (course : Course slot scene) : OneCall slot scene scene.begun where
  calls := by
    cases course.stage with
    | untouched _ _ _ _ tally | asking _ _ _ _ tally => exact Or.inl tally.calls
    | acting _ _ tally | checking _ _ _ tally | settled _ _ tally => exact Or.inr tally.calls
  successes := by
    cases course.stage with
    | untouched _ _ _ _ tally | asking _ _ _ _ tally | acting _ _ tally | checking _ _ _ tally
    | settled _ _ tally => simp [tally.successes]
  plain := course.plain
  settled some_begun free := by
    cases course.stage with
    | untouched _ _ _ none_yet _ => omega
    | asking serves | acting serves | checking serves => exact absurd serves (free _)
    | settled _ _ tally =>
      obtain ⟨all, parts⟩ := tally.settled
      exact ⟨tally.calls, all, tally.successes, by omega⟩
  finishes := course.finishes

/-- However many invocations of an action begin on a resource in the opposite state, and however
they overlap, they come to one call. -/
theorem one_call_of_many {timeout : Nat} {executor : Executor} {slot : Slot}
    {state : ResourceState} {scene : Scene} (reachable : Executor.Reachable false timeout executor)
    (free : executor.Free slot) (stable : state.isTransitional = false)
    (opposite : state ≠ .targetOf slot.action) (run : Run slot (start executor state) scene) :
    OneCall slot scene scene.begun :=
  ((start_course reachable.coherent reachable.dryRun_eq free stable opposite).run run).oneCall

/-- One invocation comes while the first one asks, one during the call and one after it. -/
theorem one_call_of_many_of_latecomers :
    let slot : Slot := ⟨.vm, "vm-1", .start⟩
    let scene : Scene :=
      { executor := { Executor.start false 5 with nextId := 2 }
        state := .running
        told := Function.update (Function.update (fun _ => none) 0 (some .stopped)) 1
          (some .running)
        begun := 4
        calls := [.start]
        returned := [.skipped .inFlight, .skipped .inFlight, .success,
          .skipped .alreadyInState] }
    Executor.Reachable false 5 (.start false 5) ∧ (Executor.start false 5).Free slot ∧
      ResourceState.stopped ≠ .targetOf slot.action ∧
      Run slot (start (.start false 5) .stopped) scene ∧ scene.executor.Free slot ∧
      OneCall slot scene 4 := by
  intro slot scene
  let start : Scene := start (.start false 5) .stopped
  let first : Invocation := ⟨0, ⟨.vm, "vm-1", "folder-1"⟩, .start, .querying⟩
  let acting : Invocation := { first with phase := .operating ⟨5⟩ }
  let last : Invocation := ⟨1, ⟨.vm, "vm-1", "folder-2"⟩, .start, .querying⟩
  let held : List String := [Executor.key first.resource "start"]
  let asking : Scene :=
    { executor := ⟨false, 5, held, [first], 1⟩
      state := .stopped
      told := Function.update (fun _ => none) 0 (some .stopped)
      begun := 2
      calls := []
      returned := [.skipped .inFlight] }
  let calling : Scene :=
    { asking with
      executor := ⟨false, 5, held, [acting], 1⟩
      state := .transitional "STARTING"
      begun := 3
      calls := [.start]
      returned := [.skipped .inFlight, .skipped .inFlight] }
  let checking : Scene :=
    { scene with executor := ⟨false, 5, held, [last], 2⟩, returned := scene.returned.take 3 }
  have begins : Run slot start asking :=
    .head (.invoke "folder-1") <| .head (.invoke "folder-2") <|
      .single (.tell first ⟨List.mem_singleton_self _, rfl⟩ rfl)
  have calls : Run slot asking calling :=
    .head (.hear first ⟨List.mem_singleton_self _, rfl⟩ rfl ⟨0⟩ rfl) <|
      .head (.waver acting ⟨List.mem_singleton_self _, rfl⟩ rfl _) <| .single (.invoke "folder-1")
  have ends : Run slot calling checking :=
    .head (.complete acting ⟨List.mem_singleton_self _, rfl⟩ rfl) <| .head (.invoke "folder-2") <|
      .single (.tell last ⟨List.mem_singleton_self _, rfl⟩ rfl)
  have answered : checking.executor.answerState? 1 ⟨0⟩ (some .running) =
      some (scene.executor, .ended (.skipped .alreadyInState)) := rfl
  have checks : Run slot checking scene :=
    .single (.hear last ⟨List.mem_singleton_self _, rfl⟩ rfl ⟨0⟩ answered)
  have run : Run slot start scene := ((begins.trans calls).trans ends).trans checks
  have reachable : Executor.Reachable false 5 (.start false 5) := .start
  have free : (Executor.start false 5).Free slot := fun _ serves => nomatch serves.1
  have opposite : ResourceState.stopped ≠ .targetOf slot.action := nofun
  have rests : scene.executor.Free slot := fun _ serves => nomatch serves.1
  exact ⟨reachable, free, opposite, run, rests, one_call_of_many reachable free rfl opposite run⟩

end Scene

end PowerRota
