import Mathlib.Data.List.Nodup
import PowerRota.Proofs.Executor.Slot

/-! Runs of an executor, and what every step of a run keeps.

Any number of invocations are under way at once and go on in any order; the cloud
answers each of them as it likes, late, with a failure or not at all. The keys held
are those of the invocations in progress, and no two of these are in one slot. -/

set_option autoImplicit false

namespace PowerRota

open PowerRota.Calendar

inductive ExecutorEvent where
  | begin (resource : Resource) (label : String)
  | answerState (invocation : Nat) (now : Instant) (state? : Option ResourceState)
  | answerOperation (invocation : Nat) (success : Bool)
  | expire (invocation : Nat) (now : Instant)
  | abort (invocation : Nat)
  deriving Repr

def ExecutorEvent.invocation? : ExecutorEvent → Option Nat
  | .begin _ _ => none
  | .answerState id _ _ => some id
  | .answerOperation id _ => some id
  | .expire id _ => some id
  | .abort id => some id

namespace Beginning

def outcome? : Beginning → Option Outcome
  | ended outcome => some outcome
  | started _ _ => none

def call? : Beginning → Option CloudCall
  | ended _ => none
  | started _ call => some call

theorem call?_eq_none {beginning : Beginning} {outcome : Outcome}
    (ended : beginning.outcome? = some outcome) : beginning.call? = none := by
  cases beginning with
  | ended => rfl
  | started => cases ended

end Beginning

namespace Progress

def outcome? : Progress → Option Outcome
  | ended outcome => some outcome
  | calls _ => none

def call? : Progress → Option CloudCall
  | ended _ => none
  | calls call => some call

theorem call?_eq_none {progress : Progress} {outcome : Outcome}
    (ended : progress.outcome? = some outcome) : progress.call? = none := by
  cases progress with
  | ended => rfl
  | calls => cases ended

end Progress

namespace Executor

variable {executor after : Executor}

def step? (executor : Executor) : ExecutorEvent → Option (Executor × Option Outcome)
  | .begin resource label =>
      let (executor, beginning) := executor.begin resource label
      some (executor, beginning.outcome?)
  | .answerState id now state? =>
      (executor.answerState? id now state?).map fun (executor, progress) =>
        (executor, progress.outcome?)
  | .answerOperation id success =>
      (executor.answerOperation? id success).map fun (executor, outcome) => (executor, some outcome)
  | .expire id now =>
      (executor.expire? id now).map fun (executor, outcome) => (executor, some outcome)
  | .abort id => (executor.abort? id).map fun executor => (executor, none)

def call? (executor : Executor) : ExecutorEvent → Option CloudCall
  | .begin resource label => (executor.begin resource label).2.call?
  | .answerState id now state? =>
      (executor.answerState? id now state?).bind fun (_, progress) => progress.call?
  | .answerOperation _ _ | .expire _ _ | .abort _ => none

inductive Reachable (dryRun : Bool) (timeout : Nat) : Executor → Prop where
  | start : Reachable dryRun timeout (.start dryRun timeout)
  | step {before after : Executor} {event : ExecutorEvent} {outcome? : Option Outcome} :
      Reachable dryRun timeout before → before.step? event = some (after, outcome?) →
      Reachable dryRun timeout after

/-! What a step does. -/

def enter (executor : Executor) (resource : Resource) (action : Action) : Executor :=
  { executor with
    held := key resource action.label :: executor.held
    active := executor.active ++ [⟨executor.nextId, resource, action, .querying⟩]
    nextId := executor.nextId + 1 }

def operate (executor : Executor) (id : Nat) (deadline : Instant) : Executor :=
  { executor with
    active := executor.active.map fun other =>
      if other.id = id then { other with phase := .operating deadline } else other }

theorem map_operate {Value : Type} (executor : Executor) (id : Nat) (deadline : Instant)
    (part : Invocation → Value)
    (kept : ∀ invocation phase, part { invocation with phase } = part invocation) :
    (executor.operate id deadline).active.map part = executor.active.map part := by
  simp only [operate, List.map_map]
  apply List.map_congr_left
  intro other _
  rw [Function.comp_apply]
  split
  · exact kept ..
  · rfl

theorem mem_of_invocation? {id : Nat} {invocation : Invocation}
    (found : executor.invocation? id = some invocation) :
    invocation ∈ executor.active ∧ invocation.id = id := by
  unfold invocation? at found
  have fits := List.find?_some found
  exact ⟨List.mem_of_find?_eq_some found, eq_of_beq fits⟩

theorem acquire?_of_free {resource : Resource} {label : String}
    (free : key resource label ∉ executor.held) :
    executor.acquire? resource label =
      some { executor with held := key resource label :: executor.held } := by
  simp [acquire?, isInFlight, free]

theorem release_held (executor : Executor) (resource : Resource) (label : String) :
    { executor with held := key resource label :: executor.held }.release resource label =
      executor := by
  simp only [release, List.erase_cons_head]

theorem begin_of_held {resource : Resource} {label : String}
    (taken : key resource label ∈ executor.held) :
    executor.begin resource label = (executor, .ended (.skipped .inFlight)) := by
  simp [begin, acquire?, isInFlight, taken]

theorem begin_of_dryRun {resource : Resource} {label : String}
    (free : key resource label ∉ executor.held) (dry : executor.dryRun = true) :
    executor.begin resource label = (executor, .ended .dryRun) := by
  unfold begin
  rw [acquire?_of_free free]
  dsimp only
  rw [if_pos dry, release_held]

theorem begin_of_unknown {resource : Resource} {label : String}
    (free : key resource label ∉ executor.held) (live : executor.dryRun = false)
    (unknown : Action.ofLabel? label = none) :
    executor.begin resource label = (executor, .ended .error) := by
  unfold begin
  rw [acquire?_of_free free, unknown]
  dsimp only
  rw [if_neg (by simp [live]), release_held]

theorem begin_of_free {resource : Resource} {action : Action}
    (free : key resource action.label ∉ executor.held) (live : executor.dryRun = false) :
    executor.begin resource action.label =
      (executor.enter resource action, .started executor.nextId (.query resource)) := by
  unfold begin
  rw [acquire?_of_free free, Action.ofLabel?_label]
  dsimp only
  rw [if_neg (by simp [live])]
  rfl

theorem begin_cases (executor : Executor) (resource : Resource) (label : String) :
    (∃ outcome, executor.begin resource label = (executor, .ended outcome)) ∨
      ∃ action : Action, label = action.label ∧ key resource label ∉ executor.held ∧
        executor.begin resource label =
          (executor.enter resource action, .started executor.nextId (.query resource)) := by
  by_cases taken : key resource label ∈ executor.held
  · exact Or.inl ⟨_, begin_of_held taken⟩
  cases dry : executor.dryRun with
  | true => exact Or.inl ⟨_, begin_of_dryRun taken dry⟩
  | false =>
    cases known : Action.ofLabel? label with
    | none => exact Or.inl ⟨_, begin_of_unknown taken dry known⟩
    | some action =>
      obtain rfl := Action.label_of_ofLabel? known
      exact Or.inr ⟨action, rfl, taken, begin_of_free taken dry⟩

theorem answerState?_eq_some {id : Nat} {now : Instant} {state? : Option ResourceState}
    {progress : Progress}
    (answered : executor.answerState? id now state? = some (after, progress)) :
    ∃ invocation, executor.invocation? id = some invocation ∧
      ((∃ reason, verdict invocation.action state? = some reason ∧
          progress = .ended (.skipped reason) ∧ after = executor.conclude invocation) ∨
        ∃ deadline, progress = .calls (.operation invocation.action invocation.resource) ∧
          after = executor.operate id deadline) := by
  simp only [answerState?] at answered
  cases found : executor.invocation? id with
  | none => simp [found] at answered
  | some invocation =>
    refine ⟨invocation, rfl, ?_⟩
    simp only [found, Option.bind_eq_bind, Option.bind_some] at answered
    split at answered
    next =>
      split at answered
      next reason judged =>
        cases answered
        exact Or.inl ⟨reason, judged, rfl, rfl⟩
      next =>
        cases answered
        exact Or.inr ⟨_, rfl, rfl⟩
    next => cases answered

theorem step?_answerState {id : Nat} {now : Instant} {state? : Option ResourceState}
    {progress : Progress}
    (answered : executor.answerState? id now state? = some (after, progress)) :
    executor.step? (.answerState id now state?) = some (after, progress.outcome?) := by
  simp only [step?, answered, Option.map_some]

theorem answerOperation?_eq_some {id : Nat} {success : Bool} {outcome : Outcome}
    (stepped : executor.answerOperation? id success = some (after, outcome)) :
    ∃ invocation, executor.invocation? id = some invocation ∧
      outcome = (if success then .success else .error) ∧ after = executor.conclude invocation := by
  simp only [answerOperation?] at stepped
  cases found : executor.invocation? id with
  | none => simp [found] at stepped
  | some invocation =>
    simp only [found, Option.bind_eq_bind, Option.bind_some] at stepped
    split at stepped
    next =>
      cases stepped
      exact ⟨invocation, rfl, rfl, rfl⟩
    next => cases stepped

theorem expire?_eq_some {id : Nat} {now : Instant} {outcome : Outcome}
    (stepped : executor.expire? id now = some (after, outcome)) :
    ∃ invocation, executor.invocation? id = some invocation ∧ outcome = .error ∧
      after = executor.conclude invocation := by
  simp only [expire?] at stepped
  cases found : executor.invocation? id with
  | none => simp [found] at stepped
  | some invocation =>
    simp only [found, Option.bind_eq_bind, Option.bind_some] at stepped
    split at stepped
    next =>
      split at stepped
      next =>
        cases stepped
        exact ⟨invocation, rfl, rfl, rfl⟩
      next => cases stepped
    next => cases stepped

theorem abort?_eq_some {id : Nat} (stepped : executor.abort? id = some after) :
    ∃ invocation, executor.invocation? id = some invocation ∧
      after = executor.conclude invocation := by
  obtain ⟨invocation, found, ended⟩ := Option.bind_eq_some_iff.mp stepped
  cases ended
  exact ⟨invocation, found, rfl⟩

/-- An invocation ends with a step: it reports an outcome, or breaks off. -/
def Ends (event : ExecutorEvent) (outcome? : Option Outcome) (id : Nat) : Prop :=
  event.invocation? = some id ∧ (outcome?.isSome = true ∨ event = .abort id)

/-- A step is the beginning of an invocation, or an invocation ends or goes over to its
operation. -/
theorem step?_cases {event : ExecutorEvent} {outcome? : Option Outcome}
    (stepped : executor.step? event = some (after, outcome?)) :
    (∃ resource label, event = .begin resource label ∧
        after = (executor.begin resource label).1) ∨
      ∃ invocation, event.invocation? = some invocation.id ∧
        executor.invocation? invocation.id = some invocation ∧
        (Ends event outcome? invocation.id ∧ after = executor.conclude invocation ∨
          ¬ Ends event outcome? invocation.id ∧
            ∃ deadline, after = executor.operate invocation.id deadline) := by
  -- an invocation that is found by an id has that id
  have about {id : Nat} {invocation : Invocation}
      (found : executor.invocation? id = some invocation) : id = invocation.id :=
    (mem_of_invocation? found).2.symm
  cases event with
  | begin resource label =>
    cases stepped
    exact Or.inl ⟨resource, label, rfl, rfl⟩
  | answerState id now state? =>
    obtain ⟨⟨next, progress⟩, answered, same⟩ := Option.map_eq_some_iff.mp stepped
    cases same
    obtain ⟨invocation, found, ⟨_, _, rfl, ended⟩ | ⟨deadline, rfl, going⟩⟩ :=
      answerState?_eq_some answered
    · obtain rfl := about found
      exact Or.inr ⟨invocation, rfl, found, Or.inl ⟨⟨rfl, Or.inl rfl⟩, ended⟩⟩
    · obtain rfl := about found
      refine Or.inr ⟨invocation, rfl, found, Or.inr ⟨?_, deadline, going⟩⟩
      rintro ⟨-, reported | broken⟩
      · cases reported
      · cases broken
  | answerOperation id success =>
    obtain ⟨⟨next, outcome⟩, answered, same⟩ := Option.map_eq_some_iff.mp stepped
    cases same
    obtain ⟨invocation, found, _, ended⟩ := answerOperation?_eq_some answered
    obtain rfl := about found
    exact Or.inr ⟨invocation, rfl, found, Or.inl ⟨⟨rfl, Or.inl rfl⟩, ended⟩⟩
  | expire id now =>
    obtain ⟨⟨next, outcome⟩, expired, same⟩ := Option.map_eq_some_iff.mp stepped
    cases same
    obtain ⟨invocation, found, _, ended⟩ := expire?_eq_some expired
    obtain rfl := about found
    exact Or.inr ⟨invocation, rfl, found, Or.inl ⟨⟨rfl, Or.inl rfl⟩, ended⟩⟩
  | abort id =>
    obtain ⟨next, aborted, same⟩ := Option.map_eq_some_iff.mp stepped
    cases same
    obtain ⟨invocation, found, ended⟩ := abort?_eq_some aborted
    obtain rfl := about found
    exact Or.inr ⟨invocation, rfl, found, Or.inl ⟨⟨rfl, Or.inr rfl⟩, ended⟩⟩

/-- All that a step can do to an executor, with the slot that it is about. -/
inductive Move (executor : Executor) : Option Slot → Executor → Prop where
  | stay {slot? : Option Slot} : Move executor slot? executor
  | enter (resource : Resource) (action : Action)
      (free : key resource action.label ∉ executor.held) :
      Move executor (some (.of resource action)) (executor.enter resource action)
  | operate (invocation : Invocation) (member : invocation ∈ executor.active)
      (deadline : Instant) :
      Move executor (some invocation.slot) (executor.operate invocation.id deadline)
  | conclude (invocation : Invocation) (member : invocation ∈ executor.active) :
      Move executor (some invocation.slot) (executor.conclude invocation)

/-- The slot that an event is about; none when it is about nothing that is there. -/
def subject? (executor : Executor) : ExecutorEvent → Option Slot
  | .begin resource label => (Action.ofLabel? label).map (Slot.of resource)
  | .answerState id _ _ => (executor.invocation? id).map Invocation.slot
  | .answerOperation id _ => (executor.invocation? id).map Invocation.slot
  | .expire id _ => (executor.invocation? id).map Invocation.slot
  | .abort id => (executor.invocation? id).map Invocation.slot

theorem subject?_of_found {event : ExecutorEvent} {id : Nat}
    (about : event.invocation? = some id) {invocation : Invocation}
    (found : executor.invocation? id = some invocation) :
    executor.subject? event = some invocation.slot := by
  cases event with
  | begin => cases about
  | answerState | answerOperation | expire | abort =>
    obtain rfl := Option.some.inj about
    rw [subject?, found, Option.map_some]

theorem step?_move {event : ExecutorEvent} {outcome? : Option Outcome}
    (stepped : executor.step? event = some (after, outcome?)) :
    executor.Move (executor.subject? event) after := by
  rcases step?_cases stepped with
    ⟨resource, label, rfl, rfl⟩ | ⟨invocation, about, found, moved⟩
  · rcases executor.begin_cases resource label with
      ⟨outcome, ended⟩ | ⟨action, rfl, free, entered⟩
    · rw [ended]
      exact .stay
    · rw [entered, subject?, Action.ofLabel?_label]
      exact .enter resource action free
  · have member := (mem_of_invocation? found).1
    rw [subject?_of_found about found]
    rcases moved with ⟨-, rfl⟩ | ⟨-, deadline, rfl⟩
    · exact .conclude invocation member
    · exact .operate invocation member deadline

/-! What a step keeps. -/

/-- The keys held are those of the invocations in progress, each held once, and ids
are given out once. -/
structure Coherent (executor : Executor) : Prop where
  held_perm : executor.held.Perm (executor.active.map Invocation.key)
  held_nodup : executor.held.Nodup
  ids_nodup : (executor.active.map (·.id)).Nodup
  id_lt : ∀ invocation ∈ executor.active, invocation.id < executor.nextId

namespace Coherent

theorem start (dryRun : Bool) (timeout : Nat) : (Executor.start dryRun timeout).Coherent :=
  ⟨.refl _, List.nodup_nil, List.nodup_nil, by simp [Executor.start]⟩

theorem mem_held_iff (coherent : executor.Coherent) {text : String} :
    text ∈ executor.held ↔ ∃ invocation ∈ executor.active, invocation.key = text := by
  rw [coherent.held_perm.mem_iff, List.mem_map]

theorem keys_nodup (coherent : executor.Coherent) :
    (executor.active.map Invocation.key).Nodup :=
  coherent.held_perm.nodup_iff.mp coherent.held_nodup

theorem eq_of_id_eq (coherent : executor.Coherent) {first second : Invocation}
    (firstMember : first ∈ executor.active) (secondMember : second ∈ executor.active)
    (same : first.id = second.id) : first = second :=
  List.inj_on_of_nodup_map coherent.ids_nodup firstMember secondMember same

theorem eq_of_slot_eq (coherent : executor.Coherent) {first second : Invocation}
    (firstMember : first ∈ executor.active) (secondMember : second ∈ executor.active)
    (same : first.slot = second.slot) : first = second :=
  List.inj_on_of_nodup_map coherent.keys_nodup firstMember secondMember
    (Invocation.key_eq_iff.mpr same)

theorem invocation?_of_mem (coherent : executor.Coherent) {invocation : Invocation}
    (member : invocation ∈ executor.active) :
    executor.invocation? invocation.id = some invocation := by
  cases found : executor.invocation? invocation.id with
  | none =>
    unfold invocation? at found
    have absent := List.find?_eq_none.mp found invocation member
    simp at absent
  | some other =>
    obtain ⟨otherMember, same⟩ := mem_of_invocation? found
    rw [coherent.eq_of_id_eq otherMember member same]

theorem mem_held_key_iff (coherent : executor.Coherent) (resource : Resource)
    (action : Action) :
    key resource action.label ∈ executor.held ↔
      ∃ other ∈ executor.active, other.slot = .of resource action := by
  rw [coherent.mem_held_iff, ← Slot.key_of]
  constructor
  · rintro ⟨other, member, same⟩
    exact ⟨other, member, Slot.key_injective (other.key_slot.trans same)⟩
  · rintro ⟨other, member, same⟩
    exact ⟨other, member, other.key_slot.symm.trans (congrArg Slot.key same)⟩

theorem enter (coherent : executor.Coherent) {resource : Resource} {action : Action}
    (free : key resource action.label ∉ executor.held) :
    (executor.enter resource action).Coherent where
  held_perm := by
    simp only [Executor.enter, List.map_append, List.map_cons, List.map_nil]
    exact (coherent.held_perm.cons _).trans (List.perm_append_singleton _ _).symm
  held_nodup := List.nodup_cons.mpr ⟨free, coherent.held_nodup⟩
  ids_nodup := by
    simp only [Executor.enter, List.map_append, List.map_cons, List.map_nil]
    refine List.nodup_append.mpr ⟨coherent.ids_nodup, List.nodup_singleton _, ?_⟩
    intro first firstMember second secondMember
    obtain ⟨invocation, member, rfl⟩ := List.mem_map.mp firstMember
    obtain rfl := List.mem_singleton.mp secondMember
    exact Nat.ne_of_lt (coherent.id_lt invocation member)
  id_lt := by
    intro invocation member
    simp only [Executor.enter] at member ⊢
    rcases List.mem_append.mp member with member | member
    · exact Nat.lt_succ_of_lt (coherent.id_lt invocation member)
    · obtain rfl := List.mem_singleton.mp member
      exact Nat.lt_succ_self _

theorem operate (coherent : executor.Coherent) (id : Nat) (deadline : Instant) :
    (executor.operate id deadline).Coherent := by
  have keys := executor.map_operate id deadline Invocation.key fun _ _ => rfl
  have ids := executor.map_operate id deadline (·.id) fun _ _ => rfl
  refine ⟨?_, coherent.held_nodup, ?_, ?_⟩
  · rw [keys]
    exact coherent.held_perm
  · rw [ids]
    exact coherent.ids_nodup
  · intro invocation member
    have listed : invocation.id ∈ executor.active.map (·.id) := by
      rw [← ids]
      exact List.mem_map_of_mem member
    obtain ⟨other, otherMember, same⟩ := List.mem_map.mp listed
    exact same ▸ coherent.id_lt other otherMember

theorem keys_conclude (coherent : executor.Coherent) {invocation : Invocation}
    (member : invocation ∈ executor.active) :
    (executor.active.filter (·.id ≠ invocation.id)).map Invocation.key =
      (executor.active.map Invocation.key).erase invocation.key := by
  rw [coherent.keys_nodup.erase_eq_filter, List.filter_map]
  congr 1
  apply List.filter_congr
  intro other otherMember
  have alone : other.id = invocation.id ↔ other.key = invocation.key := by
    constructor
    · intro same
      rw [coherent.eq_of_id_eq otherMember member same]
    · intro same
      rw [coherent.eq_of_slot_eq otherMember member (Invocation.key_eq_iff.mp same)]
  simp only [Function.comp_apply, bne, decide_not, alone, beq_eq_decide]

theorem conclude (coherent : executor.Coherent) {invocation : Invocation}
    (member : invocation ∈ executor.active) : (executor.conclude invocation).Coherent where
  held_perm := by
    have kept := coherent.held_perm.erase invocation.key
    rw [← coherent.keys_conclude member] at kept
    exact kept
  held_nodup := coherent.held_nodup.erase _
  ids_nodup := coherent.ids_nodup.sublist (List.filter_sublist.map _)
  id_lt := fun other otherMember =>
    coherent.id_lt other (List.mem_filter.mp otherMember).1

theorem move (coherent : executor.Coherent) {slot? : Option Slot}
    (moved : executor.Move slot? after) : after.Coherent := by
  cases moved with
  | stay => exact coherent
  | enter resource action free => exact coherent.enter free
  | operate invocation member deadline => exact coherent.operate invocation.id deadline
  | conclude invocation member => exact coherent.conclude member

end Coherent

theorem Reachable.coherent {dryRun : Bool} {timeout : Nat}
    (reachable : Reachable dryRun timeout executor) : executor.Coherent := by
  induction reachable with
  | start => exact .start dryRun timeout
  | step _ stepped ih => exact ih.move (step?_move stepped)

end Executor

end PowerRota
