import PowerRota.Proofs.Executor.Exclusion

/-! What the invocation of a slot makes of the answers that it gets.

An answer goes to one invocation, so who serves the other slots stays the same; what becomes of
the one that is answered depends on how far it has come and, for a state, on the verdict. -/

set_option autoImplicit false

namespace PowerRota

open PowerRota.Calendar

/-- A resource, apart from its folder, which makes no difference to who is turned away. -/
structure Site where
  kind : ResourceKind
  id : String
  deriving DecidableEq, Repr

def Site.of (resource : Resource) : Site := ⟨resource.kind, resource.id⟩

theorem ResourceState.isTransitional_targetOf (action : Action) :
    (targetOf action).isTransitional = false := by
  cases action <;> rfl

namespace Executor

variable {executor after : Executor} {invocation other : Invocation} {slot : Slot}

/-- An invocation that is in progress in a slot. -/
def Serves (executor : Executor) (slot : Slot) (invocation : Invocation) : Prop :=
  invocation ∈ executor.active ∧ invocation.slot = slot

def Free (executor : Executor) (slot : Slot) : Prop :=
  ∀ invocation, ¬ executor.Serves slot invocation

theorem Coherent.serves_unique (coherent : executor.Coherent)
    (first : executor.Serves slot invocation) (second : executor.Serves slot other) :
    invocation = other :=
  coherent.eq_of_slot_eq first.1 second.1 (first.2.trans second.2.symm)

theorem Serves.invocation? (serves : executor.Serves slot invocation)
    (coherent : executor.Coherent) :
    executor.invocation? invocation.id = some invocation :=
  coherent.invocation?_of_mem serves.1

theorem Coherent.held_iff (coherent : executor.Coherent) {resource : Resource}
    {action : Action} :
    key resource action.label ∈ executor.held ↔
      ∃ invocation, executor.Serves (.of resource action) invocation := by
  rw [coherent.mem_held_key_iff]
  rfl

theorem begin_of_serves (coherent : executor.Coherent) {resource : Resource} {action : Action}
    (serves : executor.Serves (.of resource action) invocation) :
    executor.begin resource action.label = (executor, .ended (.skipped .inFlight)) :=
  begin_of_held (coherent.held_iff.mpr ⟨invocation, serves⟩)

theorem Free.begin (free : executor.Free slot) (coherent : executor.Coherent)
    (live : executor.dryRun = false) {resource : Resource} {action : Action}
    (same : slot = .of resource action) :
    executor.begin resource action.label =
      (executor.enter resource action, .started executor.nextId (.query resource)) := by
  refine begin_of_free (fun taken => ?_) live
  obtain ⟨invocation, serves⟩ := coherent.held_iff.mp taken
  exact free invocation (same ▸ serves)

theorem serves_enter {resource : Resource} {action : Action} :
    (executor.enter resource action).Serves slot invocation ↔ executor.Serves slot invocation ∨
      (invocation = ⟨executor.nextId, resource, action, .querying⟩ ∧
        slot = .of resource action) := by
  simp only [Serves, Executor.enter, List.mem_append, List.mem_singleton, or_and_right]
  refine or_congr_right (and_congr_right ?_)
  rintro rfl
  exact eq_comm

theorem serves_conclude :
    (executor.conclude other).Serves slot invocation ↔
      executor.Serves slot invocation ∧ invocation.id ≠ other.id := by
  simp only [Serves, conclude, release, List.mem_filter, decide_eq_true_eq, and_right_comm]

theorem serves_operate {id : Nat} {deadline : Instant} :
    (executor.operate id deadline).Serves slot invocation ↔
      ∃ before, executor.Serves slot before ∧
        invocation =
          if before.id = id then { before with phase := .operating deadline } else before := by
  simp only [Serves, operate, List.mem_map]
  constructor
  · rintro ⟨⟨before, member, rfl⟩, same⟩
    refine ⟨before, ⟨member, ?_⟩, rfl⟩
    rw [← same]
    split <;> rfl
  · rintro ⟨before, ⟨member, same⟩, rfl⟩
    refine ⟨⟨before, member, rfl⟩, ?_⟩
    rw [← same]
    split <;> rfl

theorem Serves.free (serves : executor.Serves slot invocation) (coherent : executor.Coherent) :
    (executor.conclude invocation).Free slot := by
  intro other still
  obtain ⟨served, apart⟩ := serves_conclude.mp still
  exact apart (by rw [coherent.serves_unique served serves])

theorem Serves.enters {resource : Resource} {action : Action} (same : slot = .of resource action) :
    (executor.enter resource action).Serves slot
      ⟨executor.nextId, resource, action, .querying⟩ :=
  serves_enter.mpr (Or.inr ⟨rfl, same⟩)

theorem Serves.operates (serves : executor.Serves slot invocation) (deadline : Instant) :
    (executor.operate invocation.id deadline).Serves slot
      { invocation with phase := .operating deadline } :=
  serves_operate.mpr ⟨invocation, serves, (if_pos rfl).symm⟩

theorem Coherent.serves_iff_of_step (coherent : executor.Coherent) {event : ExecutorEvent}
    {outcome? : Option Outcome} (stepped : executor.step? event = some (after, outcome?))
    (apart : executor.subject? event ≠ some slot) :
    after.Serves slot invocation ↔ executor.Serves slot invocation := by
  refine and_congr_left ?_
  rintro rfl
  exact coherent.mem_active_iff_of_move (step?_move stepped) apart

theorem Move.dryRun_eq {slot? : Option Slot} (moved : executor.Move slot? after) :
    after.dryRun = executor.dryRun := by
  cases moved <;> rfl

theorem Move.nextId_le {slot? : Option Slot} (moved : executor.Move slot? after) :
    executor.nextId ≤ after.nextId := by
  cases moved with
  | enter resource action free => exact Nat.le_succ _
  | _ => exact Nat.le_refl _

theorem Reachable.dryRun_eq {dryRun : Bool} {timeout : Nat}
    (reachable : Reachable dryRun timeout executor) : executor.dryRun = dryRun := by
  induction reachable with
  | start => rfl
  | step _ stepped ih => exact (step?_move stepped).dryRun_eq.trans ih

theorem verdict_of_reached (action : Action) :
    verdict action (some (ResourceState.targetOf action)) = some .alreadyInState := by
  cases action <;> rfl

theorem verdict_of_away {action : Action} {state : ResourceState}
    (stable : state.isTransitional = false) (away : state ≠ ResourceState.targetOf action) :
    verdict action (some state) = none := by
  cases state with
  | transitional label => cases stable
  | running => simp [verdict, away]
  | stopped => simp [verdict, away]

variable {id : Nat} {now : Instant} {state? : Option ResourceState}

theorem answerState?_of_reason (found : executor.invocation? id = some invocation)
    (asks : invocation.phase = .querying) {reason : SkipReason}
    (judged : verdict invocation.action state? = some reason) :
    executor.answerState? id now state? =
      some (executor.conclude invocation, .ended (.skipped reason)) := by
  simp [answerState?, found, asks, judged]

theorem answerState?_of_none (found : executor.invocation? id = some invocation)
    (asks : invocation.phase = .querying) (judged : verdict invocation.action state? = none) :
    executor.answerState? id now state? =
      some (executor.operate id (now.addNanos executor.timeout),
        .calls (.operation invocation.action invocation.resource)) := by
  simp [answerState?, found, asks, judged, operate]

theorem answerState?_of_operating (found : executor.invocation? id = some invocation)
    {deadline : Instant} (acts : invocation.phase = .operating deadline) :
    executor.answerState? id now state? = none := by
  simp [answerState?, found, acts]

theorem answerOperation?_of_operating (found : executor.invocation? id = some invocation)
    {deadline : Instant} (acts : invocation.phase = .operating deadline) (success : Bool) :
    executor.answerOperation? id success =
      some (executor.conclude invocation, if success then .success else .error) := by
  simp [answerOperation?, found, acts]

theorem answerOperation?_of_querying (found : executor.invocation? id = some invocation)
    (asks : invocation.phase = .querying) (success : Bool) :
    executor.answerOperation? id success = none := by
  simp [answerOperation?, found, asks]

end Executor

end PowerRota
