import Mathlib.Logic.Relation
import PowerRota.Proofs.Executor.Answers
import PowerRota.Proofs.Reconciliation.Enquiries
import PowerRota.Proofs.Scheduler.Handover

/-! A daemon and the resources in its charge, while a pass and its corrections go on.

Nothing acts on the resources but the corrections that the pass has submitted, and what the
cloud tells was so at some moment between the question and the answer. -/

set_option autoImplicit false

namespace PowerRota

open PowerRota.Calendar

/-! What is expected of the resources. -/

/-- What the states of resources are held against. -/
structure Outlook where
  schedules : List Schedule
  zone : Zone
  now : Instant

namespace Outlook

/-- A schedule that can be reconciled implies a state of its resource. -/
def Expects (outlook : Outlook) (site : Site) (state : ResourceState) : Prop :=
  ∃ schedule ∈ outlook.schedules, schedule.isReconcilable = true ∧
    Site.of schedule.resource = site ∧
    schedule.expectedState outlook.zone outlook.now = some state

/-- No two schedules imply different states of one resource. -/
def Agrees (outlook : Outlook) : Prop :=
  ∀ site first second, outlook.Expects site first → outlook.Expects site second → first = second

/-- An order that brings a resource into the state expected of it. -/
structure Fits (outlook : Outlook) (order : Order) (action : Action) : Prop where
  label : order.action = action.label
  expected : outlook.Expects (.of order.schedule.resource) (.targetOf action)

variable {outlook : Outlook}

theorem correction?_eq_some_iff {schedule : Schedule} {state : ResourceState}
    (stable : state.isTransitional = false) {correction : Correction} :
    schedule.correction? outlook.zone outlook.now (some state) = some correction ↔
      ∃ action, correction = ⟨schedule, action⟩ ∧ state ≠ .targetOf action ∧
        schedule.expectedState outlook.zone outlook.now = some (.targetOf action) := by
  rw [Schedule.correction?_eq_some_iff]
  refine exists_congr fun action => and_congr_right' ?_
  constructor
  · rintro ⟨implied, _, ⟨⟩, _, differs⟩
    exact ⟨differs, implied⟩
  · rintro ⟨differs, implied⟩
    exact ⟨implied, state, rfl, stable, differs⟩

end Outlook

/-- A daemon and the resources in its charge. -/
structure Estate (Other : Type) where
  daemon : Daemon Other
  states : Site → ResourceState
  /-- What the cloud has told an invocation, which need not have heard it yet. -/
  told : Nat → Option ResourceState
  /-- What the cloud has told the pass about the schedule that it asks about. -/
  toldPass : Option ResourceState
  submitted : List Nat

def Invocation.site (invocation : Invocation) : Site := .of invocation.resource

namespace Daemon

variable {Other : Type}

/-- A move of the scheduler that leaves the corrections alone. -/
structure Apart (daemon : Daemon Other) (move : SchedulerMove (Work Other))
    (after : Scheduler (Work Other)) : Prop where
  moved : daemon.scheduler.Moved move after
  /-- The scheduler goes on running. -/
  running : after.shut = false
  /-- No managed job fires. -/
  quiet : ∀ timer ∈ daemon.scheduler.timers, move = .step (.handOver timer.id) →
    timer.managed = false
  /-- An execution that carries out an order ends with its invocation only. -/
  waits : ∀ execution ∈ daemon.scheduler.executions, ∀ order, execution.body = .order order →
    move ≠ .step (.finish execution.id)

end Daemon

namespace Estate

variable {Other : Type}

def start (daemon : Daemon Other) (states : Site → ResourceState) : Estate Other :=
  ⟨daemon, states, fun _ => none, none, []⟩

def beginPass (estate : Estate Other) (now : Instant) : Estate Other :=
  { estate with daemon := (estate.daemon.beginPass now).1, toldPass := none }

/-- What can happen while a pass and its corrections go on. Queries are answered with the truth,
and calls succeed. -/
inductive Step (pass : Nat) (estate : Estate Other) : Estate Other → Prop where
  | scheduler {move : SchedulerMove (Work Other)} {scheduler : Scheduler (Work Other)}
      (apart : estate.daemon.Apart move scheduler) :
      Step pass estate { estate with daemon := { estate.daemon with scheduler } }
  | invoke {execution : Execution (Work Other)}
      (member : execution ∈ estate.daemon.scheduler.executions)
      (ours : execution.timer ∈ estate.submitted) {order : Order}
      (body : execution.body = .order order)
      (unclaimed : ∀ claim ∈ estate.daemon.claims, claim.execution ≠ some execution.id) :
      Step pass estate { estate with
        daemon :=
          (estate.daemon.invoke (some execution.id) order.schedule.resource order.action).1 }
  | tell {invocation : Invocation} (member : invocation ∈ estate.daemon.executor.active)
      (asks : invocation.phase = .querying) :
      Step pass estate { estate with
        told := Function.update estate.told invocation.id (some (estate.states invocation.site)) }
  | hear {invocation : Invocation} (member : invocation ∈ estate.daemon.executor.active)
      {state : ResourceState} (told : estate.told invocation.id = some state)
      {after : Daemon Other} {progress : Progress}
      (answered : estate.daemon.answerState? invocation.id (some state) =
        some (after, progress)) :
      Step pass estate { estate with daemon := after }
  | waver {invocation : Invocation} (member : invocation ∈ estate.daemon.executor.active)
      {deadline : Instant} (acts : invocation.phase = .operating deadline)
      {state : ResourceState} (stable : state.isTransitional = false) :
      Step pass estate { estate with
        states := Function.update estate.states invocation.site state }
  | complete {invocation : Invocation} (member : invocation ∈ estate.daemon.executor.active)
      {after : Daemon Other} {outcome : Outcome}
      (answered : estate.daemon.answerOperation? invocation.id true = some (after, outcome)) :
      Step pass estate { estate with
        daemon := after
        states :=
          Function.update estate.states invocation.site (.targetOf invocation.action) }
  | tellPass {going : Pass} (found : estate.daemon.pass? pass = some going)
      {schedule : Schedule} (asked : going.asked? = some schedule) :
      Step pass estate { estate with
        toldPass := some (estate.states (.of schedule.resource)) }
  | answerPass {state : ResourceState} (told : estate.toldPass = some state)
      {after : Daemon Other} {correction? : Option Correction}
      (answered : estate.daemon.answerPass? pass (some state) = some (after, correction?)) :
      Step pass estate { estate with
        daemon := after
        toldPass := none
        submitted :=
          estate.submitted ++ correction?.toList.map fun _ => estate.daemon.scheduler.nextId }
  | endPass {after : Daemon Other} {corrections : Nat}
      (ended : estate.daemon.endPass? pass = some (after, corrections)) :
      Step pass estate { estate with daemon := after }

abbrev Run (pass : Nat) : Estate Other → Estate Other → Prop :=
  Relation.ReflTransGen (Step pass)

/-- All that was submitted has been carried out. -/
structure Done (estate : Estate Other) : Prop where
  timers : ∀ timer ∈ estate.daemon.scheduler.timers, timer.id ∈ estate.submitted →
    timer.phase = .finished
  executions : ∀ execution ∈ estate.daemon.scheduler.executions,
    execution.timer ∉ estate.submitted

/-! The books of the daemon in a step. -/

def Corrects (outlook : Outlook) (work : Work Other) : Prop :=
  ∃ order action, work = .order order ∧ outlook.Fits order action

/-- What holds of the daemon and the cloud at all times. -/
structure Books (outlook : Outlook) (estate : Estate Other) : Prop where
  coherent : estate.daemon.Coherent
  live : estate.daemon.executor.dryRun = false
  running : estate.daemon.scheduler.shut = false
  zone : estate.daemon.scheduler.zone = outlook.zone
  schedules : estate.daemon.schedules = outlook.schedules
  stable : ∀ site, (estate.states site).isTransitional = false
  untold : ∀ id, estate.daemon.executor.nextId ≤ id → estate.told id = none
  /-- What an invocation has been told is still so. -/
  honest : ∀ invocation ∈ estate.daemon.executor.active, invocation.phase = .querying →
    ∀ state, estate.told invocation.id = some state → state = estate.states invocation.site
  numbered : ∀ id ∈ estate.submitted, id < estate.daemon.scheduler.nextId
  timers : ∀ timer ∈ estate.daemon.scheduler.timers, timer.id ∈ estate.submitted →
    ∃ name body, timer.IsSingle name body ∧ Corrects outlook body
  executions : ∀ execution ∈ estate.daemon.scheduler.executions,
    execution.timer ∈ estate.submitted → Corrects outlook execution.body
  invocations : ∀ invocation ∈ estate.daemon.executor.active,
    outlook.Expects invocation.site (.targetOf invocation.action)
  claims : ∀ claim ∈ estate.daemon.claims, ∃ execution ∈ estate.daemon.scheduler.executions,
    claim.execution = some execution.id ∧ execution.timer ∈ estate.submitted
  claims_apart : (estate.daemon.claims.map (·.execution)).Nodup

namespace Books

variable {outlook : Outlook} {estate : Estate Other} {invocation other : Invocation}

theorem order_of_ours (books : Books outlook estate) {execution : Execution (Work Other)}
    (member : execution ∈ estate.daemon.scheduler.executions)
    (ours : execution.timer ∈ estate.submitted) : ∃ order, execution.body = .order order := by
  obtain ⟨order, _, body, _⟩ := books.executions execution member ours
  exact ⟨order, body⟩

theorem scheduler (books : Books outlook estate) {move : SchedulerMove (Work Other)}
    {scheduler : Scheduler (Work Other)} (apart : estate.daemon.Apart move scheduler) :
    Books outlook { estate with daemon := { estate.daemon with scheduler } } :=
  { books with
    coherent := books.coherent.moved apart.moved
    running := apart.running
    zone := apart.moved.zone.trans books.zone
    numbered := fun id ours =>
      Nat.lt_of_lt_of_le (books.numbered id ours) apart.moved.inherits.numbered
    timers := fun next member ours => by
      obtain ⟨old, listed, same, keeps, _⟩ :=
        apart.moved.timer_before books.coherent.scheduler member (books.numbered _ ours)
      obtain ⟨name, body, job, corrects⟩ := books.timers old listed (same ▸ ours)
      exact ⟨name, body, keeps job, corrects⟩
    executions := fun execution member ours => by
      rcases apart.moved.execution_origin member with old | ⟨timer, listed, same, body, _⟩
      · exact books.executions execution old ours
      · obtain ⟨_, _, job, corrects⟩ := books.timers timer listed (same ▸ ours)
        rw [body, job.invokes]
        exact corrects
    claims := fun claim member => by
      obtain ⟨execution, listed, same, ours⟩ := books.claims claim member
      obtain ⟨order, body⟩ := books.order_of_ours listed ours
      have goes_on := apart.waits execution listed order body
      exact ⟨execution, apart.moved.keeps_execution listed goes_on, same, ours⟩ }

/-- There is one invocation at a time on a resource of which something is expected. -/
theorem alone (books : Books outlook estate) (agrees : outlook.Agrees)
    (member : invocation ∈ estate.daemon.executor.active)
    (listed : other ∈ estate.daemon.executor.active) (same : invocation.site = other.site) :
    invocation = other := by
  have target := agrees _ _ _ (books.invocations invocation member)
    (same ▸ books.invocations other listed)
  have acts := ResourceState.targetOf_injective target
  refine books.coherent.executor.eq_of_slot_eq member listed ?_
  obtain ⟨kind, id⟩ := Site.mk.inj same
  exact (Slot.mk.injEq ..).mpr ⟨kind, id, acts⟩

theorem stable_update (books : Books outlook estate) {here : Site} {state : ResourceState}
    (stable : state.isTransitional = false) (site : Site) :
    (Function.update estate.states here state site).isTransitional = false := by
  by_cases same : site = here
  · simp only [same, Function.update_self, stable]
  · simp only [Function.update_of_ne same, books.stable site]

theorem honest_update (books : Books outlook estate) (agrees : outlook.Agrees)
    (member : invocation ∈ estate.daemon.executor.active)
    (among : other ∈ estate.daemon.executor.active) (apart : other ≠ invocation)
    (asks : other.phase = .querying) {state : ResourceState}
    (told : estate.told other.id = some state) (next : ResourceState) :
    state = Function.update estate.states invocation.site next other.site := by
  have elsewhere : other.site ≠ invocation.site := fun here =>
    apart (books.alone agrees among member here)
  rw [Function.update_of_ne elsewhere]
  exact books.honest other among asks state told

theorem tell (books : Books outlook estate)
    (member : invocation ∈ estate.daemon.executor.active) :
    Books outlook { estate with
      told := Function.update estate.told invocation.id (some (estate.states invocation.site)) } :=
  { books with
    untold := fun id later => by
      have earlier := books.coherent.executor.id_lt invocation member
      show Function.update estate.told invocation.id _ id = none
      rw [Function.update_of_ne (Nat.ne_of_gt (Nat.lt_of_lt_of_le earlier later))]
      exact books.untold id later
    honest := fun other listed asks state told => by
      by_cases same : other.id = invocation.id
      · obtain rfl := books.coherent.executor.eq_of_id_eq listed member same
        simp only [Function.update_self] at told
        exact (Option.some.inj told).symm
      · simp only [Function.update_of_ne same] at told
        exact books.honest other listed asks state told }

theorem invoke_cases (books : Books outlook estate) {execution : Execution (Work Other)}
    (member : execution ∈ estate.daemon.scheduler.executions)
    (ours : execution.timer ∈ estate.submitted) {order : Order}
    (body : execution.body = .order order) :
    ∃ action, outlook.Fits order action ∧
      ((∃ occupant ∈ estate.daemon.executor.active,
          occupant.site = .of order.schedule.resource ∧
          (estate.daemon.invoke (some execution.id) order.schedule.resource order.action).1 =
            estate.daemon.report (some execution.id)
              ⟨order.schedule.resource.kind, order.action, .skipped .inFlight⟩) ∨
        (Executor.key order.schedule.resource action.label ∉ estate.daemon.executor.held ∧
          (estate.daemon.invoke (some execution.id) order.schedule.resource order.action).1 =
            { estate.daemon with
              executor := estate.daemon.executor.enter order.schedule.resource action
              claims := estate.daemon.claims ++ [⟨estate.daemon.executor.nextId,
                some execution.id, order.schedule.resource.kind, action.label⟩] })) := by
  obtain ⟨_, action, is_order, fits⟩ := books.executions execution member ours
  cases body.symm.trans is_order
  refine ⟨action, fits, ?_⟩
  by_cases taken : Executor.key order.schedule.resource action.label ∈ estate.daemon.executor.held
  · -- whoever holds the key is in progress at the same place
    left
    obtain ⟨occupant, serves⟩ := books.coherent.executor.held_iff.mp taken
    obtain ⟨kind, id, _⟩ := Slot.mk.inj serves.2
    refine ⟨occupant, serves.1, (Site.mk.injEq ..).mpr ⟨kind, id⟩, ?_⟩
    rw [← fits.label] at taken
    exact Daemon.invoke_of_ended (Executor.begin_of_held taken)
  · refine Or.inr ⟨taken, ?_⟩
    rw [fits.label]
    exact Daemon.invoke_of_entered (Executor.begin_of_free taken books.live)

theorem invoke (books : Books outlook estate) {execution : Execution (Work Other)}
    (member : execution ∈ estate.daemon.scheduler.executions)
    (ours : execution.timer ∈ estate.submitted) {order : Order}
    (body : execution.body = .order order)
    (unclaimed : ∀ claim ∈ estate.daemon.claims, claim.execution ≠ some execution.id) :
    Books outlook { estate with
      daemon :=
        (estate.daemon.invoke (some execution.id) order.schedule.resource order.action).1 } := by
  have coherent :=
    books.coherent.invoke (some execution.id) order.schedule.resource order.action
  obtain ⟨action, fits, ⟨occupant, _, _, turned⟩ | ⟨free, entered⟩⟩ :=
    books.invoke_cases member ours body
  · rw [turned] at coherent ⊢
    rw [Daemon.report_eq, Scheduler.afterEnd_of_mem member] at coherent ⊢
    exact
      { books with
        coherent := coherent
        executions := fun other listed => books.executions other (List.mem_filter.mp listed).1
        claims := fun claim listed => by
          obtain ⟨other, known, same, others⟩ := books.claims claim listed
          refine ⟨other, List.mem_filter.mpr ⟨known, decide_eq_true fun still => ?_⟩, same,
            others⟩
          exact unclaimed claim listed (still ▸ same) }
  · rw [entered] at coherent ⊢
    -- the newcomer has an id that nobody was told about, and its execution is not waiting yet
    have newcomer {invocation : Invocation}
        (listed : invocation ∈ (estate.daemon.executor.enter order.schedule.resource
          action).active) : invocation ∈ estate.daemon.executor.active ∨
        invocation = ⟨estate.daemon.executor.nextId, order.schedule.resource, action,
          .querying⟩ :=
      (List.mem_append.mp listed).imp_right List.mem_singleton.mp
    exact
      { books with
        coherent := coherent
        untold := fun id later => books.untold id (Nat.le_of_succ_le later)
        honest := fun invocation listed asks state told => by
          rcases newcomer listed with old | rfl
          · exact books.honest invocation old asks state told
          · cases (books.untold _ (Nat.le_refl _)).symm.trans told
        invocations := fun invocation listed => by
          rcases newcomer listed with old | rfl
          · exact books.invocations invocation old
          · exact fits.expected
        claims := fun claim listed => by
          rcases List.mem_append.mp listed with old | new
          · exact books.claims claim old
          · rw [List.mem_singleton.mp new]
            exact ⟨execution, member, rfl, ours⟩
        claims_apart := by
          rw [List.map_append, List.map_singleton]
          refine List.nodup_append'.mpr
            ⟨books.claims_apart, List.nodup_singleton _, fun id listed new => ?_⟩
          obtain ⟨claim, known, rfl⟩ := List.mem_map.mp listed
          exact unclaimed claim known (List.mem_singleton.mp new) }

theorem afterEnd_claim (books : Books outlook estate) {claim : Claim}
    (listed : claim ∈ estate.daemon.claims) :
    ∃ execution ∈ estate.daemon.scheduler.executions, claim.execution = some execution.id ∧
      execution.timer ∈ estate.submitted ∧
      estate.daemon.scheduler.afterEnd claim.execution = { estate.daemon.scheduler with
        executions := estate.daemon.scheduler.executions.filter (·.id ≠ execution.id)
        free := estate.daemon.scheduler.free + 1 } := by
  obtain ⟨execution, member, same, ours⟩ := books.claims claim listed
  refine ⟨execution, member, same, ours, ?_⟩
  rw [same]
  exact Scheduler.afterEnd_of_mem member

theorem conclude (books : Books outlook estate) (agrees : outlook.Agrees)
    (member : invocation ∈ estate.daemon.executor.active) {claim : Claim}
    (claimed : estate.daemon.claim? invocation.id = some claim) (outcome : Outcome)
    {state : ResourceState} (stable : state.isTransitional = false) :
    Books outlook { estate with
      daemon := Daemon.settle
        { estate.daemon with executor := estate.daemon.executor.conclude invocation } claim
        outcome
      states := Function.update estate.states invocation.site state } := by
  have found := books.coherent.executor.invocation?_of_mem member
  have coherent := books.coherent.settle claimed found outcome
  obtain ⟨listed, _⟩ := Daemon.mem_of_claim? claimed
  obtain ⟨execution, known, same, _, ended⟩ := books.afterEnd_claim listed
  unfold Daemon.settle at coherent ⊢
  rw [Daemon.report_eq] at coherent ⊢
  simp only [ended] at coherent ⊢
  exact
    { books with
      coherent := coherent
      stable := books.stable_update stable
      honest := fun other among asks state told => by
        obtain ⟨among, apart⟩ := List.mem_filter.mp among
        have differs : other ≠ invocation := by
          rintro rfl
          simp at apart
        exact books.honest_update agrees member among differs asks told _
      executions := fun other listed => books.executions other (List.mem_filter.mp listed).1
      invocations := fun other among => books.invocations other (List.mem_filter.mp among).1
      claims := fun other among => by
        obtain ⟨among, apart⟩ := List.mem_filter.mp among
        obtain ⟨others, listed', same', ours⟩ := books.claims other among
        refine ⟨others, List.mem_filter.mpr ⟨listed', decide_eq_true fun still => ?_⟩, same',
          ours⟩
        -- two claims would share an execution
        have twice : other = claim := List.inj_on_of_nodup_map books.claims_apart among listed
          (same'.trans (still ▸ same.symm))
        rw [twice] at apart
        simp at apart
      claims_apart := books.claims_apart.sublist (List.filter_sublist.map _) }

theorem operate (books : Books outlook estate) (id : Nat) (deadline : Instant) :
    Books outlook { estate with
      daemon :=
        { estate.daemon with executor := estate.daemon.executor.operate id deadline } } := by
  have before {other : Invocation}
      (listed : other ∈ (estate.daemon.executor.operate id deadline).active) :
      (other ∈ estate.daemon.executor.active ∨ other.phase ≠ .querying) ∧
        ∃ old ∈ estate.daemon.executor.active, other.site = old.site ∧
          other.action = old.action := by
    obtain ⟨old, known, rfl⟩ := List.mem_map.mp listed
    by_cases same : old.id = id
    · simp only [if_pos same]
      exact ⟨Or.inr nofun, old, known, rfl, rfl⟩
    · simp only [if_neg same]
      exact ⟨Or.inl known, old, known, rfl, rfl⟩
  exact
    { books with
      coherent := books.coherent.operate id deadline
      honest := fun other listed asks state told => by
        rcases (before listed).1 with old | acts
        · exact books.honest other old asks state told
        · exact absurd asks acts
      invocations := fun other listed => by
        obtain ⟨old, known, site, action⟩ := (before listed).2
        rw [site, action]
        exact books.invocations old known }

theorem waver (books : Books outlook estate) (agrees : outlook.Agrees)
    (member : invocation ∈ estate.daemon.executor.active) {deadline : Instant}
    (acts : invocation.phase = .operating deadline) {state : ResourceState}
    (stable : state.isTransitional = false) :
    Books outlook { estate with
      states := Function.update estate.states invocation.site state } :=
  { books with
    stable := books.stable_update stable
    honest := fun other among asks state told => by
      have differs : other ≠ invocation := by
        rintro rfl
        cases acts.symm.trans asks
      exact books.honest_update agrees member among differs asks told _ }

theorem setPass (books : Books outlook estate) (id : Nat) (pass : Pass)
    (toldPass : Option ResourceState) :
    Books outlook { estate with daemon := estate.daemon.setPass id pass, toldPass } :=
  { books with coherent := books.coherent.setPass id pass }

theorem submit (books : Books outlook estate) (correction : Correction)
    (fits : outlook.Fits correction.order correction.action) :
    Books outlook { estate with
      daemon := estate.daemon.withCorrection correction
      submitted := estate.submitted ++ [estate.daemon.scheduler.nextId] } :=
  -- an id below the next one was submitted before, if at all
  have known {id : Nat} (ours : id ∈ estate.submitted ++ [estate.daemon.scheduler.nextId])
      (old : id < estate.daemon.scheduler.nextId) : id ∈ estate.submitted :=
    (List.mem_append.mp ours).resolve_right fun new =>
      Nat.ne_of_lt old (List.mem_singleton.mp new)
  { books with
    coherent := books.coherent.withCorrection books.running correction
    numbered := fun id ours => by
      rcases List.mem_append.mp ours with old | new
      · exact Nat.lt_succ_of_lt (books.numbered id old)
      · rw [List.mem_singleton.mp new]
        exact Nat.lt_succ_self _
    timers := fun timer member ours => by
      rcases List.mem_append.mp member with old | new
      · exact books.timers timer old
          (known ours (books.coherent.scheduler.sound.timers_numbered timer old))
      · rw [List.mem_singleton.mp new]
        exact ⟨_, _, ⟨rfl, rfl, rfl, rfl, rfl⟩, _, _, rfl, fits⟩
    executions := fun execution member ours =>
      books.executions execution member (known ours (books.coherent.handed execution member))
    claims := fun claim member => by
      obtain ⟨execution, listed, same, ours⟩ := books.claims claim member
      exact ⟨execution, listed, same, List.mem_append_left _ ours⟩ }

end Books

end Estate

end PowerRota
