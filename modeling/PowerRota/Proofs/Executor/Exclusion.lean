import PowerRota.Proofs.Executor.Run

/-! Mutual exclusion: one invocation at a time in each slot, and no other bound.

An invocation is turned away exactly if its slot is taken when it begins, and one
that got in can always go on, whatever happens in other slots. -/

set_option autoImplicit false

namespace PowerRota.Executor

open PowerRota.Calendar

variable {executor after : Executor}

/-- The outcome that an invocation in progress comes to in a course of events; none
if it does not end, or breaks off. Events that cannot happen are passed over. -/
def outcomeIn? (executor : Executor) (id : Nat) : List ExecutorEvent → Option Outcome
  | [] => none
  | event :: events =>
      match executor.step? event with
      | none => executor.outcomeIn? id events
      | some (after, outcome?) =>
          if event.invocation? = some id ∧ outcome?.isSome then outcome?
          else after.outcomeIn? id events

def ending? (executor : Executor) (resource : Resource) (label : String)
    (events : List ExecutorEvent) : Option Outcome :=
  match executor.begin resource label with
  | (_, .ended outcome) => some outcome
  | (after, .started id _) => after.outcomeIn? id events

/-- Whatever an invocation in progress may wait for is taken when it comes. -/
def CanGoOn (executor : Executor) (invocation : Invocation) : Prop :=
  (executor.step? (.abort invocation.id)).isSome ∧
  match invocation.phase with
  | .querying => ∀ now state?, (executor.step? (.answerState invocation.id now state?)).isSome
  | .operating deadline =>
      (∀ success, (executor.step? (.answerOperation invocation.id success)).isSome) ∧
      ∀ now, deadline ≤ now → (executor.step? (.expire invocation.id now)).isSome

structure Exclusive (executor : Executor) : Prop where
  /-- The keys held are those of the invocations in progress, each held once. -/
  held_perm : executor.held.Perm (executor.active.map Invocation.key)
  held_nodup : executor.held.Nodup
  alone : executor.active.Pairwise fun first second => first.slot ≠ second.slot
  /-- Only an invocation whose slot is taken when it begins ends as in flight, and it
  always does. -/
  inFlight_iff : ∀ resource (action : Action) events,
    executor.ending? resource action.label events = some (.skipped .inFlight) ↔
      ∃ other ∈ executor.active, other.slot = .of resource action
  /-- Other slots do not keep an invocation from getting in. -/
  begins : ∀ resource (action : Action),
    (∀ other ∈ executor.active, other.slot ≠ .of resource action) →
      (executor.begin resource action.label).2 =
        if executor.dryRun then .ended .dryRun else .started executor.nextId (.query resource)
  /-- An invocation that ends where it begins leaves nothing behind. One that gets in has its key
  from then on, up to the step that ends it, with an outcome or without, and no longer. -/
  outside : ∀ resource label after outcome,
    executor.begin resource label = (after, .ended outcome) → after = executor
  entered : ∀ resource label after id call,
    executor.begin resource label = (after, .started id call) →
      key resource label ∈ after.held ∧
        ∃ invocation ∈ after.active, invocation.id = id ∧ invocation.key = key resource label
  lasts : ∀ event after outcome?, executor.step? event = some (after, outcome?) →
    ∀ invocation ∈ executor.active,
      (invocation.key ∈ after.held ↔ ¬ Ends event outcome? invocation.id) ∧
        (invocation.id ∈ after.active.map (·.id) ↔ ¬ Ends event outcome? invocation.id)
  goesOn : ∀ invocation ∈ executor.active, executor.CanGoOn invocation
  /-- What happens in one slot changes nothing in the others. -/
  apart : ∀ event after outcome?, executor.step? event = some (after, outcome?) →
    ∀ invocation : Invocation, executor.subject? event ≠ some invocation.slot →
      (invocation ∈ after.active ↔ invocation ∈ executor.active)

theorem verdict_ne_inFlight (action : Action) (state? : Option ResourceState) :
    verdict action state? ≠ some .inFlight := by
  unfold verdict
  split <;> (try split) <;> simp

theorem step?_ne_inFlight {event : ExecutorEvent} {outcome? : Option Outcome} {id : Nat}
    (goesOn : event.invocation? = some id)
    (stepped : executor.step? event = some (after, outcome?)) :
    outcome? ≠ some (.skipped .inFlight) := by
  cases event with
  | begin resource label => cases goesOn
  | answerState id now state? =>
    obtain ⟨⟨next, progress⟩, answered, same⟩ := Option.map_eq_some_iff.mp stepped
    cases same
    obtain ⟨invocation, _, ⟨reason, judged, rfl, _⟩ | ⟨_, rfl, _⟩⟩ := answerState?_eq_some answered
    · rintro same
      cases same
      exact verdict_ne_inFlight _ _ judged
    · exact Option.some_ne_none _ ∘ Eq.symm
  | answerOperation id success =>
    obtain ⟨⟨next, outcome⟩, answered, same⟩ := Option.map_eq_some_iff.mp stepped
    cases same
    obtain ⟨_, _, rfl, _⟩ := answerOperation?_eq_some answered
    cases success <;> simp
  | expire id now =>
    obtain ⟨⟨next, outcome⟩, expired, same⟩ := Option.map_eq_some_iff.mp stepped
    cases same
    obtain ⟨_, _, rfl, _⟩ := expire?_eq_some expired
    simp
  | abort id =>
    obtain ⟨next, _, same⟩ := Option.map_eq_some_iff.mp stepped
    cases same
    simp

theorem outcomeIn?_ne_inFlight (executor : Executor) (id : Nat) (events : List ExecutorEvent) :
    executor.outcomeIn? id events ≠ some (.skipped .inFlight) := by
  induction events generalizing executor with
  | nil => simp [outcomeIn?]
  | cons event events ih =>
    unfold outcomeIn?
    split
    next => exact ih executor
    next after outcome? stepped =>
      split
      next mine => exact step?_ne_inFlight mine.1 stepped
      next => exact ih after

theorem eq_of_ended {resource : Resource} {label : String} {outcome : Outcome}
    (ended : executor.begin resource label = (after, .ended outcome)) : after = executor := by
  rcases executor.begin_cases resource label with ⟨_, same⟩ | ⟨_, rfl, _, entered⟩
  · exact (Prod.mk.inj (ended.symm.trans same)).1
  · cases (Prod.mk.inj (ended.symm.trans entered)).2

theorem mem_of_started {resource : Resource} {label : String} {id : Nat} {call : CloudCall}
    (started : executor.begin resource label = (after, .started id call)) :
    key resource label ∈ after.held ∧
      ∃ invocation ∈ after.active, invocation.id = id ∧ invocation.key = key resource label := by
  rcases executor.begin_cases resource label with ⟨_, ended⟩ | ⟨action, rfl, _, entered⟩
  · cases (Prod.mk.inj (started.symm.trans ended)).2
  · cases started.symm.trans entered
    refine ⟨List.mem_cons_self .., ⟨executor.nextId, resource, action, .querying⟩, ?_, rfl, rfl⟩
    exact List.mem_append_right _ (List.mem_singleton_self _)

namespace Coherent

theorem ending?_inFlight_iff (coherent : executor.Coherent) (resource : Resource)
    (action : Action) (events : List ExecutorEvent) :
    executor.ending? resource action.label events = some (.skipped .inFlight) ↔
      ∃ other ∈ executor.active, other.slot = .of resource action := by
  rw [← coherent.mem_held_key_iff]
  unfold ending?
  by_cases taken : key resource action.label ∈ executor.held
  · simp [begin_of_held taken, taken]
  -- with the key free it gets in, and from there no event ends it as in flight
  cases dry : executor.dryRun with
  | true => simp [begin_of_dryRun taken dry, taken]
  | false =>
    rw [begin_of_free taken dry]
    exact iff_of_false (outcomeIn?_ne_inFlight _ _ events) taken

theorem begin_of_others (coherent : executor.Coherent) {resource : Resource} {action : Action}
    (others : ∀ other ∈ executor.active, other.slot ≠ .of resource action) :
    (executor.begin resource action.label).2 =
      if executor.dryRun then .ended .dryRun else .started executor.nextId (.query resource) := by
  have free : key resource action.label ∉ executor.held := by
    rw [coherent.mem_held_key_iff]
    rintro ⟨other, member, same⟩
    exact others other member same
  cases dry : executor.dryRun with
  | true => rw [begin_of_dryRun free dry, if_pos rfl]
  | false => rw [begin_of_free free dry, if_neg Bool.false_ne_true]

theorem lasts_conclude (coherent : executor.Coherent) {mover invocation : Invocation}
    (moves : mover ∈ executor.active) (member : invocation ∈ executor.active) :
    (invocation.key ∈ (executor.conclude mover).held ↔ invocation.id ≠ mover.id) ∧
      (invocation.id ∈ (executor.conclude mover).active.map (·.id) ↔
        invocation.id ≠ mover.id) := by
  have taken : invocation.key ∈ executor.held := coherent.mem_held_iff.mpr ⟨_, member, rfl⟩
  constructor
  · show invocation.key ∈ executor.held.erase mover.key ↔ _
    rw [coherent.held_nodup.mem_erase_iff, and_iff_left taken]
    refine not_congr ⟨fun same => ?_, fun same => ?_⟩
    · rw [coherent.eq_of_slot_eq member moves (Invocation.key_eq_iff.mp same)]
    · rw [coherent.eq_of_id_eq member moves same]
  · simp only [Executor.conclude, release, List.mem_map, List.mem_filter, decide_eq_true_eq]
    constructor
    · rintro ⟨other, ⟨-, apart⟩, same⟩
      exact same ▸ apart
    · intro apart
      exact ⟨invocation, ⟨member, apart⟩, rfl⟩

theorem lasts_operate (coherent : executor.Coherent) {invocation : Invocation} {id : Nat}
    {deadline : Instant} (member : invocation ∈ executor.active) :
    invocation.key ∈ (executor.operate id deadline).held ∧
      invocation.id ∈ (executor.operate id deadline).active.map (·.id) := by
  refine ⟨coherent.mem_held_iff.mpr ⟨_, member, rfl⟩, ?_⟩
  rw [executor.map_operate id deadline (·.id) fun _ _ => rfl]
  exact List.mem_map_of_mem member

theorem lasts (coherent : executor.Coherent) {event : ExecutorEvent} {outcome? : Option Outcome}
    (stepped : executor.step? event = some (after, outcome?)) {invocation : Invocation}
    (member : invocation ∈ executor.active) :
    (invocation.key ∈ after.held ↔ ¬ Ends event outcome? invocation.id) ∧
      (invocation.id ∈ after.active.map (·.id) ↔ ¬ Ends event outcome? invocation.id) := by
  have taken : invocation.key ∈ executor.held := coherent.mem_held_iff.mpr ⟨_, member, rfl⟩
  have listed : invocation.id ∈ executor.active.map (·.id) := List.mem_map_of_mem member
  rcases step?_cases stepped with
    ⟨resource, label, rfl, rfl⟩ | ⟨mover, about, found, ⟨ends, rfl⟩ | ⟨goes, deadline, rfl⟩⟩
  · -- a beginning is about no invocation that is there, and takes nothing away
    have unended : ¬ Ends (.begin resource label) outcome? invocation.id :=
      fun ends => nomatch ends.1
    rw [iff_true_right unended, iff_true_right unended]
    rcases executor.begin_cases resource label with ⟨_, ended⟩ | ⟨action, rfl, _, entered⟩
    · rw [ended]
      exact ⟨taken, listed⟩
    · rw [entered]
      simp only [Executor.enter, List.map_append, List.mem_append]
      exact ⟨List.mem_cons_of_mem _ taken, Or.inl listed⟩
  · -- who goes is the one that ends, and ids and keys tell it from the others
    have same : Ends event outcome? invocation.id ↔ invocation.id = mover.id := by
      constructor
      · rintro ⟨subject, -⟩
        exact Option.some.inj (subject.symm.trans about)
      · intro same
        rw [same]
        exact ends
    rw [same]
    exact coherent.lasts_conclude (mem_of_invocation? found).1 member
  · have unended : ¬ Ends event outcome? invocation.id := by
      rintro ⟨subject, ends⟩
      obtain same := Option.some.inj (subject.symm.trans about)
      exact goes ⟨about, same ▸ ends⟩
    rw [iff_true_right unended, iff_true_right unended]
    exact coherent.lasts_operate member

theorem canGoOn (coherent : executor.Coherent) {invocation : Invocation}
    (member : invocation ∈ executor.active) : executor.CanGoOn invocation := by
  have found := coherent.invocation?_of_mem member
  refine ⟨by simp [step?, abort?, found], ?_⟩
  cases phase : invocation.phase with
  | querying =>
    intro now state?
    simp only [step?, answerState?, found, Option.bind_eq_bind, Option.bind_some, phase]
    split <;> rfl
  | operating deadline =>
    refine ⟨fun success => ?_, fun now due => ?_⟩
    · simp [step?, answerOperation?, found, phase]
    · simp [step?, expire?, found, phase, due]

theorem mem_active_iff_of_move (coherent : executor.Coherent) {slot? : Option Slot}
    (moved : executor.Move slot? after) {invocation : Invocation}
    (other : slot? ≠ some invocation.slot) :
    invocation ∈ after.active ↔ invocation ∈ executor.active := by
  cases moved with
  | stay => rfl
  | enter resource action free =>
    simp only [Executor.enter, List.mem_append, List.mem_singleton, or_iff_left_iff_imp]
    rintro rfl
    exact absurd rfl other
  | operate mover member deadline =>
    simp only [Executor.operate, List.mem_map]
    constructor
    · rintro ⟨source, sourceMember, same⟩
      split at same
      next moved =>
        obtain rfl := coherent.eq_of_id_eq sourceMember member moved
        subst same
        exact absurd rfl other
      next => exact same ▸ sourceMember
    · intro listed
      refine ⟨invocation, listed, if_neg fun same => ?_⟩
      exact other (by rw [coherent.eq_of_id_eq listed member same])
  | conclude mover member =>
    -- an invocation goes by its id, and that of another slot is another one
    simp only [Executor.conclude, release, List.mem_filter, decide_eq_true_eq,
      and_iff_left_iff_imp]
    intro listed same
    exact other (by rw [coherent.eq_of_id_eq listed member same])

end Coherent

/-- In every run, at every moment. -/
theorem mutual_exclusion {dryRun : Bool} {timeout : Nat}
    (reachable : Reachable dryRun timeout executor) : executor.Exclusive where
  held_perm := reachable.coherent.held_perm
  held_nodup := reachable.coherent.held_nodup
  alone := by
    have keys := List.pairwise_map.mp reachable.coherent.keys_nodup
    exact keys.imp fun apart same => apart (Invocation.key_eq_iff.mpr same)
  inFlight_iff := reachable.coherent.ending?_inFlight_iff
  begins := fun _ _ others => reachable.coherent.begin_of_others others
  outside := fun _ _ _ _ ended => eq_of_ended ended
  entered := fun _ _ _ _ _ started => mem_of_started started
  lasts := fun _ _ _ stepped _ member => reachable.coherent.lasts stepped member
  goesOn := fun _ member => reachable.coherent.canGoOn member
  apart := fun _ _ _ stepped _ other =>
    reachable.coherent.mem_active_iff_of_move (step?_move stepped) other

/-- Two invocations whose ids and actions only differ in where a colon stands. The first takes too
long, and only its own key is free after that. -/
theorem mutual_exclusion_of_colons :
    let crowded := ((start false 5).enter ⟨.vm, "a:start", "f"⟩ .stop).enter ⟨.vm, "a", "f"⟩ .start
    let slow : Invocation := ⟨0, ⟨.vm, "a:start", "f"⟩, .stop, .operating ⟨5⟩⟩
    let after := (crowded.operate 0 ⟨5⟩).conclude slow
    Reachable false 5 (crowded.operate 0 ⟨5⟩) ∧
      (crowded.operate 0 ⟨5⟩).step? (.expire 0 ⟨5⟩) = some (after, some .error) ∧
      (crowded.operate 0 ⟨5⟩).Exclusive ∧ after.Exclusive ∧
      after.held = [key ⟨.vm, "a", "f"⟩ "start"] := by
  intro crowded slow after
  have first : (start false 5).step? (.begin ⟨.vm, "a:start", "f"⟩ "stop") =
      some ((start false 5).enter ⟨.vm, "a:start", "f"⟩ .stop, none) := rfl
  have second : ((start false 5).enter ⟨.vm, "a:start", "f"⟩ .stop).step?
      (.begin ⟨.vm, "a", "f"⟩ "start") = some (crowded, none) := rfl
  have answered : crowded.step? (.answerState 0 ⟨0⟩ none) =
      some (crowded.operate 0 ⟨5⟩, none) := rfl
  have expired : (crowded.operate 0 ⟨5⟩).step? (.expire 0 ⟨5⟩) = some (after, some .error) := rfl
  have reachable := Reachable.step (.step (.step .start first) second) answered
  exact ⟨reachable, expired, mutual_exclusion reachable, mutual_exclusion (.step reachable expired),
    by decide⟩

end PowerRota.Executor
