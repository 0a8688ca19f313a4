import PowerRota.Proofs.Executor.Answers

/-! What one invocation may do, from its beginning to its end.

An invocation is followed through the answers of the cloud, with any number of others going on
while it waits. It makes one query and one operation at most, and reports one outcome. If
nothing else has happened, it leaves the keys as it found them. -/

set_option autoImplicit false

namespace PowerRota

open PowerRota.Calendar

namespace CloudCall

def isQuery : CloudCall → Bool
  | query _ => true
  | start _ | stop _ => false

def isOperation : CloudCall → Bool
  | query _ => false
  | start _ | stop _ => true

@[simp] theorem isOperation_operation (action : Action) (resource : Resource) :
    (operation action resource).isOperation = true := by
  cases action <;> rfl

end CloudCall

namespace Outcome

def reason? : Outcome → Option SkipReason
  | skipped reason => some reason
  | success | error | dryRun => none

theorem isSome_reason?_iff (outcome : Outcome) :
    outcome.reason?.isSome ↔ outcome.status = .skipped := by
  cases outcome <;> simp [reason?, status]

theorem status_eq_success_iff (outcome : Outcome) :
    outcome.status = .success ↔ outcome = .success := by
  cases outcome <;> simp [status]

theorem counts_eq (outcome : Outcome) (kind : ResourceKind) (action : String) :
    outcome.counts kind action = .operation kind action outcome.status ::
      (outcome.reason?.map (.skip kind action)).toList := by
  cases outcome <;> rfl

end Outcome

namespace Executor

variable {executor after : Executor} {invocation mover : Invocation} {id : Nat}

/-! What happens to others makes no difference to an invocation that waits. -/

theorem invocation?_conclude_of_ne (apart : mover.id ≠ id) :
    (executor.conclude mover).invocation? id = executor.invocation? id := by
  simp only [conclude, release, invocation?, List.find?_filter]
  congr 1
  funext other
  by_cases same : other.id = id <;> simp [same, apart.symm]

theorem invocation?_operate (executor : Executor) (mover id : Nat) (deadline : Instant) :
    (executor.operate mover deadline).invocation? id = (executor.invocation? id).map fun other =>
      if other.id = mover then { other with phase := .operating deadline } else other := by
  simp only [operate, invocation?, List.find?_map]
  congr 2
  funext other
  by_cases same : other.id = mover <;> simp [same]

theorem invocation?_enter_of_found (found : executor.invocation? id = some invocation)
    (resource : Resource) (action : Action) :
    (executor.enter resource action).invocation? id = some invocation := by
  have found : executor.active.find? (·.id == id) = some invocation := found
  simp [enter, invocation?, List.find?_append, found]

/-- Numbers that are to be given have not been given yet. -/
def Numbered (executor : Executor) : Prop :=
  ∀ invocation ∈ executor.active, invocation.id < executor.nextId

theorem Reachable.numbered {dryRun : Bool} {timeout : Nat}
    (reachable : Reachable dryRun timeout executor) : executor.Numbered :=
  reachable.coherent.id_lt

theorem Numbered.invocation?_nextId (numbered : executor.Numbered) :
    executor.invocation? executor.nextId = none := by
  simp only [invocation?, List.find?_eq_none, beq_iff_eq]
  intro other member
  exact Nat.ne_of_lt (numbered other member)

theorem Numbered.invocation?_enter (numbered : executor.Numbered) (resource : Resource)
    (action : Action) : (executor.enter resource action).invocation? executor.nextId =
      some ⟨executor.nextId, resource, action, .querying⟩ := by
  have absent : executor.active.find? (·.id == executor.nextId) = none :=
    numbered.invocation?_nextId
  simp [enter, invocation?, List.find?_append, absent]

theorem invocation?_of_step {event : ExecutorEvent} {outcome? : Option Outcome}
    (stepped : executor.step? event = some (after, outcome?))
    (apart : event.invocation? ≠ some id) (found : executor.invocation? id = some invocation) :
    after.invocation? id = some invocation := by
  rcases step?_cases stepped with
    ⟨resource, label, rfl, rfl⟩ | ⟨mover, about, _, moved⟩
  · rcases executor.begin_cases resource label with
      ⟨outcome, ended⟩ | ⟨action, rfl, _, entered⟩
    · rw [ended]
      exact found
    · rw [entered]
      exact invocation?_enter_of_found found resource action
  · have other : mover.id ≠ id := fun same => apart (about.trans (congrArg some same))
    rcases moved with ⟨-, rfl⟩ | ⟨-, deadline, rfl⟩
    · rw [invocation?_conclude_of_ne other, found]
    · have waits : invocation.id ≠ mover.id := by
        rw [(mem_of_invocation? found).2]
        exact other.symm
      simp [invocation?_operate, found, waits]

theorem Move.timeout_eq {slot? : Option Slot} (moved : executor.Move slot? after) :
    after.timeout = executor.timeout := by
  cases moved <;> rfl

def overtake (executor : Executor) (id : Nat) (event : ExecutorEvent) : Executor :=
  if event.invocation? = some id then executor
  else
    match executor.step? event with
    | some (after, _) => after
    | none => executor

def meanwhile (executor : Executor) (id : Nat) (events : List ExecutorEvent) : Executor :=
  events.foldl (fun executor event => executor.overtake id event) executor

theorem overtake_waits (found : executor.invocation? id = some invocation)
    (event : ExecutorEvent) :
    (executor.overtake id event).invocation? id = some invocation ∧
      (executor.overtake id event).timeout = executor.timeout := by
  unfold overtake
  split
  · exact ⟨found, rfl⟩
  next apart =>
    split
    next after outcome? stepped =>
      exact ⟨invocation?_of_step stepped apart found, (step?_move stepped).timeout_eq⟩
    next => exact ⟨found, rfl⟩

theorem meanwhile_waits (found : executor.invocation? id = some invocation)
    (events : List ExecutorEvent) :
    (executor.meanwhile id events).invocation? id = some invocation ∧
      (executor.meanwhile id events).timeout = executor.timeout := by
  induction events generalizing executor with
  | nil => exact ⟨found, rfl⟩
  | cons event events ih =>
    obtain ⟨waits, same⟩ := overtake_waits found event
    obtain ⟨still, kept⟩ := ih waits
    exact ⟨still, kept.trans same⟩

/-! What the answers lead to. -/

theorem expire?_of_operating {now deadline : Instant}
    (found : executor.invocation? id = some invocation)
    (acts : invocation.phase = .operating deadline) (due : deadline ≤ now) :
    executor.expire? id now = some (executor.conclude invocation, .error) := by
  simp [expire?, found, acts, due]

/-- The answer to the query lets an action go ahead: there is none, or the resource is in the
other stable state. -/
def CallsFor (action : Action) (state? : Option ResourceState) : Prop :=
  ∀ state, state? = some state →
    state.isTransitional = false ∧ state ≠ ResourceState.targetOf action

theorem verdict_eq_none_iff (action : Action) (state? : Option ResourceState) :
    verdict action state? = none ↔ CallsFor action state? := by
  cases state? with
  | none => simp [verdict, CallsFor]
  | some state =>
    cases state <;> simp [verdict, CallsFor, ResourceState.isTransitional]

end Executor

/-! An invocation on its way. -/

/-- How the cloud answers an invocation, and what happens to others while it waits. -/
structure Replies where
  /-- What the query is answered with; none if it fails. -/
  state? : Option ResourceState
  heard : Instant
  /-- When the operation ends, and whether it succeeds; none if it does not end. -/
  ended? : Option (Instant × Bool)
  duringQuery : List ExecutorEvent
  duringOperation : List ExecutorEvent

namespace Replies

def ending (replies : Replies) (id : Nat) (deadline : Instant) : ExecutorEvent :=
  match replies.ended? with
  | some (time, success) =>
      if time ≤ deadline then .answerOperation id success else .expire id deadline
  | none => .expire id deadline

def SucceedsBy (replies : Replies) (deadline : Instant) : Prop :=
  ∃ time, replies.ended? = some (time, true) ∧ time ≤ deadline

def outcome (replies : Replies) (deadline : Instant) : Outcome :=
  match replies.ended? with
  | some (time, success) => if time ≤ deadline ∧ success = true then .success else .error
  | none => .error

theorem outcome_eq_success_iff (replies : Replies) (deadline : Instant) :
    replies.outcome deadline = .success ↔ replies.SucceedsBy deadline := by
  unfold outcome SucceedsBy
  cases replies.ended? with
  | none => simp
  | some ended =>
    obtain ⟨time, success⟩ := ended
    simp [and_comm]

end Replies

/-- An executor, and what one of its invocations has done so far. -/
structure Attempt where
  executor : Executor
  calls : List CloudCall
  counts : List Count
  outcome? : Option Outcome

namespace Attempt

def start (executor : Executor) : Attempt := ⟨executor, [], [], none⟩

/-- The invocation takes a step. What that calls for and what it reports is written down. -/
def step? (attempt : Attempt) (resource : Resource) (label : String) (event : ExecutorEvent) :
    Option Attempt := do
  let (executor, outcome?) ← attempt.executor.step? event
  let counts := match outcome? with
    | some outcome => outcome.counts resource.kind label
    | none => []
  return {
    executor
    calls := attempt.calls ++ (attempt.executor.call? event).toList
    counts := attempt.counts ++ counts
    outcome? }

def wait (attempt : Attempt) (id : Nat) (events : List ExecutorEvent) : Attempt :=
  { attempt with executor := attempt.executor.meanwhile id events }

def deadline? (attempt : Attempt) (id : Nat) : Option Instant :=
  match attempt.executor.invocation? id with
  | some ⟨_, _, _, .operating deadline⟩ => some deadline
  | _ => none

/-- One invocation from its beginning to its end. -/
def run? (executor : Executor) (resource : Resource) (label : String) (replies : Replies) :
    Option Attempt := do
  let id := executor.nextId
  let begun ← (start executor).step? resource label (.begin resource label)
  if begun.outcome?.isSome then return begun
  let asked ← (begun.wait id replies.duringQuery).step? resource label
    (.answerState id replies.heard replies.state?)
  if asked.outcome?.isSome then return asked
  let deadline ← asked.deadline? id
  (asked.wait id replies.duringOperation).step? resource label (replies.ending id deadline)

end Attempt

/-- When an invocation acts: nobody holds its key, it is no rehearsal, and its action is one
that the state of the resource calls for. -/
def Executor.Operates (executor : Executor) (resource : Resource) (label : String)
    (replies : Replies) : Prop :=
  Executor.key resource label ∉ executor.held ∧ executor.dryRun = false ∧
    ∃ action : Action, action.label = label ∧ Executor.CallsFor action replies.state?

/-- The terms of an invocation. -/
structure Contract (executor : Executor) (resource : Resource) (label : String)
    (replies : Replies) (attempt : Attempt) (outcome : Outcome) : Prop where
  queries : attempt.calls.countP CloudCall.isQuery ≤ 1
  operations : attempt.calls.countP CloudCall.isOperation ≤ 1
  /-- Calls are for the resource alone, and an operation is the one that was asked for. -/
  own : ∀ call ∈ attempt.calls, call = .query resource ∨
    ∃ action : Action, action.label = label ∧ call = .operation action resource
  operates_iff : (∃ call ∈ attempt.calls, call.isOperation = true) ↔
    executor.Operates resource label replies
  /-- The outcome is counted once, with a reason if it is a skip. -/
  counts : attempt.counts = .operation resource.kind label outcome.status ::
    (outcome.reason?.map (.skip resource.kind label)).toList
  reason_iff : outcome.reason?.isSome ↔ outcome.status = .skipped
  success_iff : outcome.status = .success ↔
    (∃ call ∈ attempt.calls, call.isOperation = true) ∧
      replies.SucceedsBy (replies.heard.addNanos executor.timeout)
  restores : replies.duringQuery = [] → replies.duringOperation = [] →
    attempt.executor.held = executor.held

namespace Executor

variable {executor : Executor} {resource : Resource} {label : String} {replies : Replies}

/-! An invocation that gets in ends at the answer to its query, or at the end of its
operation. -/

variable {action : Action} {invocation : Invocation} {id : Nat} {calls : List CloudCall}
  {counts : List Count} {before? : Option Outcome}

theorem step?_begin (free : key resource action.label ∉ executor.held)
    (live : executor.dryRun = false) :
    (Attempt.start executor).step? resource action.label (.begin resource action.label) =
      some ⟨executor.enter resource action, [.query resource], [], none⟩ := by
  simp [Attempt.start, Attempt.step?, step?, call?, begin_of_free free live, Beginning.outcome?,
    Beginning.call?]

theorem call?_eq_none {event : ExecutorEvent} {after : Executor} {outcome : Outcome}
    (ended : executor.step? event = some (after, some outcome)) : executor.call? event = none := by
  cases event with
  | begin resource label =>
    exact Beginning.call?_eq_none (congrArg Prod.snd (Option.some.inj ended))
  | answerState id now state? =>
    obtain ⟨⟨next, progress⟩, answered, same⟩ := Option.map_eq_some_iff.mp ended
    show (executor.answerState? id now state?).bind _ = none
    rw [answered]
    exact Progress.call?_eq_none (congrArg Prod.snd same)
  | answerOperation | expire | abort => rfl

theorem step?_end {event : ExecutorEvent} {after : Executor} {outcome : Outcome}
    (ended : executor.step? event = some (after, some outcome)) :
    Attempt.step? ⟨executor, calls, counts, before?⟩ resource label event =
      some ⟨after, calls, counts ++ outcome.counts resource.kind label, some outcome⟩ := by
  simp [Attempt.step?, ended, call?_eq_none ended]

theorem step?_answer_of_none {now : Instant} {state? : Option ResourceState}
    (found : executor.invocation? id = some invocation)
    (asks : invocation.phase = .querying) (judged : verdict invocation.action state? = none) :
    Attempt.step? ⟨executor, calls, counts, before?⟩ resource label (.answerState id now state?) =
      some ⟨executor.operate id (now.addNanos executor.timeout),
        calls ++ [.operation invocation.action invocation.resource], counts, none⟩ := by
  simp [Attempt.step?, step?, call?, answerState?_of_none found asks judged, Progress.outcome?,
    Progress.call?]

theorem step?_ending {deadline : Instant} (found : executor.invocation? id = some invocation)
    (acts : invocation.phase = .operating deadline) :
    executor.step? (replies.ending id deadline) =
      some (executor.conclude invocation, some (replies.outcome deadline)) := by
  have expired := expire?_of_operating found acts (Int.le_refl _)
  unfold Replies.ending Replies.outcome
  cases replies.ended? with
  | none => simp [step?, expired]
  | some ended =>
    obtain ⟨time, success⟩ := ended
    by_cases soon : time ≤ deadline
    · simp [soon, step?, answerOperation?_of_operating found acts]
    · simp [soon, step?, expired]

theorem run?_of_reason (numbered : executor.Numbered)
    (free : key resource action.label ∉ executor.held) (live : executor.dryRun = false)
    {reason : SkipReason} (judged : verdict action replies.state? = some reason) :
    Attempt.run? executor resource action.label replies =
      some ⟨((executor.enter resource action).meanwhile executor.nextId
          replies.duringQuery).conclude ⟨executor.nextId, resource, action, .querying⟩,
        [.query resource], (Outcome.skipped reason).counts resource.kind action.label,
        some (.skipped reason)⟩ := by
  have waits := (meanwhile_waits (numbered.invocation?_enter resource action)
    replies.duringQuery).1
  have answered : step? _ (.answerState executor.nextId replies.heard replies.state?) =
      some (_, some (.skipped reason)) :=
    step?_answerState (answerState?_of_reason waits rfl judged)
  simp [Attempt.run?, step?_begin free live, Attempt.wait, step?_end answered]

theorem run?_of_none (numbered : executor.Numbered)
    (free : key resource action.label ∉ executor.held) (live : executor.dryRun = false)
    (judged : verdict action replies.state? = none) :
    let deadline := replies.heard.addNanos executor.timeout
    let operating := ((executor.enter resource action).meanwhile executor.nextId
      replies.duringQuery).operate executor.nextId deadline
    Attempt.run? executor resource action.label replies =
      some ⟨(operating.meanwhile executor.nextId replies.duringOperation).conclude
          ⟨executor.nextId, resource, action, .operating deadline⟩,
        [.query resource, .operation action resource],
        (replies.outcome deadline).counts resource.kind action.label,
        some (replies.outcome deadline)⟩ := by
  intro deadline operating
  obtain ⟨waits, kept⟩ := meanwhile_waits (numbered.invocation?_enter resource action)
    replies.duringQuery
  have acts : operating.invocation? executor.nextId =
      some ⟨executor.nextId, resource, action, .operating deadline⟩ := by
    simp [operating, invocation?_operate, waits]
  have still := (meanwhile_waits acts replies.duringOperation).1
  have same : replies.heard.addNanos ((executor.enter resource action).meanwhile executor.nextId
      replies.duringQuery).timeout = deadline := by
    rw [kept]
    rfl
  simp [Attempt.run?, step?_begin free live, Attempt.wait, Attempt.deadline?, same,
    step?_answer_of_none waits rfl judged, acts, step?_end (step?_ending still rfl), operating]

/-! Whichever way it goes, the terms are met. -/

/-- An invocation that ends where it begins has called nobody. -/
theorem contract_of_ended {outcome : Outcome}
    (ended : executor.begin resource label = (executor, .ended outcome))
    (failed : outcome ≠ .success) (idle : ¬ executor.Operates resource label replies) :
    ∃ attempt outcome, Attempt.run? executor resource label replies = some attempt ∧
      attempt.outcome? = some outcome ∧
      Contract executor resource label replies attempt outcome := by
  have run : Attempt.run? executor resource label replies =
      some ⟨executor, [], outcome.counts resource.kind label, some outcome⟩ := by
    simp [Attempt.run?, Attempt.step?, Attempt.start, Executor.step?, Executor.call?, ended,
      Beginning.outcome?, Beginning.call?]
  refine ⟨_, outcome, run, rfl, ?_⟩
  constructor
  case queries => simp
  case operations => simp
  case own => simp
  case operates_iff => simpa using idle
  case counts => exact outcome.counts_eq ..
  case reason_iff => exact outcome.isSome_reason?_iff
  case success_iff => simpa [Outcome.status_eq_success_iff] using failed
  case restores => simp

theorem contract_of_reason (numbered : executor.Numbered)
    (free : key resource action.label ∉ executor.held) (live : executor.dryRun = false)
    {reason : SkipReason} (judged : verdict action replies.state? = some reason) :
    ∃ attempt outcome, Attempt.run? executor resource action.label replies = some attempt ∧
      attempt.outcome? = some outcome ∧
      Contract executor resource action.label replies attempt outcome := by
  have idle : ¬ executor.Operates resource action.label replies := by
    rintro ⟨_, _, other, same, called⟩
    obtain rfl : other = action := by
      have known := Action.ofLabel?_label other
      rw [same, Action.ofLabel?_label] at known
      exact (Option.some.inj known).symm
    rw [(verdict_eq_none_iff _ _).mpr called] at judged
    cases judged
  refine ⟨_, _, run?_of_reason numbered free live judged, rfl, ?_⟩
  constructor
  case queries => exact Nat.le_refl 1
  case operations => exact Nat.zero_le 1
  case own => simp
  case operates_iff => simpa [CloudCall.isOperation] using idle
  case counts => exact Outcome.counts_eq (.skipped reason) ..
  case reason_iff => exact Outcome.isSome_reason?_iff _
  case success_iff => simp [Outcome.status, CloudCall.isOperation]
  case restores =>
    rintro alone -
    simp [alone, meanwhile, conclude, release, enter]

theorem contract_of_none (numbered : executor.Numbered)
    (free : key resource action.label ∉ executor.held) (live : executor.dryRun = false)
    (judged : verdict action replies.state? = none) :
    ∃ attempt outcome, Attempt.run? executor resource action.label replies = some attempt ∧
      attempt.outcome? = some outcome ∧
      Contract executor resource action.label replies attempt outcome := by
  have operates : executor.Operates resource action.label replies :=
    ⟨free, live, action, rfl, (verdict_eq_none_iff _ _).mp judged⟩
  refine ⟨_, _, run?_of_none numbered free live judged, rfl, ?_⟩
  constructor
  case queries => cases action <;> exact Nat.le_refl 1
  case operations => cases action <;> exact Nat.le_refl 1
  case own => simpa using Or.inr ⟨action, rfl, rfl⟩
  case operates_iff => simpa using operates
  case counts => exact Outcome.counts_eq (replies.outcome _) ..
  case reason_iff => exact Outcome.isSome_reason?_iff _
  case success_iff =>
    simp [Outcome.status_eq_success_iff, Replies.outcome_eq_success_iff]
  case restores =>
    intro alone still
    simp [alone, still, meanwhile, conclude, operate, release, enter]

/-- Every invocation comes to its end, whatever it meets. -/
theorem one_invocation (numbered : executor.Numbered) (resource : Resource) (label : String)
    (replies : Replies) :
    ∃ attempt outcome, Attempt.run? executor resource label replies = some attempt ∧
      attempt.outcome? = some outcome ∧
      Contract executor resource label replies attempt outcome := by
  by_cases taken : key resource label ∈ executor.held
  · exact contract_of_ended (begin_of_held taken) (by simp) fun operates =>
      operates.1 taken
  cases dry : executor.dryRun with
  | true =>
    refine contract_of_ended (begin_of_dryRun taken dry) (by simp) fun operates => ?_
    cases dry.symm.trans operates.2.1
  | false =>
    cases known : Action.ofLabel? label with
    | none =>
      refine contract_of_ended (begin_of_unknown taken dry known) (by simp) ?_
      rintro ⟨_, _, action, rfl, _⟩
      cases (Action.ofLabel?_label action).symm.trans known
    | some action =>
      obtain rfl := Action.label_of_ofLabel? known
      cases judged : verdict action replies.state? with
      | some reason => exact contract_of_reason numbered taken dry judged
      | none => exact contract_of_none numbered taken dry judged

/-- The query fails, an invocation for another resource breaks off meanwhile, and the operation
ends too late. -/
theorem one_invocation_of_late_answer :
    let busy := (start false 5).enter ⟨.vm, "b", "f"⟩ .stop
    let replies : Replies := ⟨none, ⟨0⟩, some (⟨9⟩, true), [.abort 0], []⟩
    busy.Numbered ∧
      ∃ attempt outcome, Attempt.run? busy ⟨.vm, "a", "f"⟩ "start" replies = some attempt ∧
        attempt.outcome? = some outcome ∧
        Contract busy ⟨.vm, "a", "f"⟩ "start" replies attempt outcome := by
  have numbered : ((start false 5).enter ⟨.vm, "b", "f"⟩ .stop).Numbered := by
    simp [Numbered, enter, start]
  exact ⟨numbered, one_invocation numbered _ _ _⟩

end Executor
end PowerRota
