import Mathlib.Algebra.BigOperators.Finprod
import PowerRota.Proofs.Daemon.Run
import PowerRota.Proofs.Scheduler.Reload

/-! The counters of a daemon along its runs.

A journal is kept beside the run: the invocations that begin and end, as the executor tells them,
the corrections that the scheduler accepts, and the results of the passes. Neither the counters
nor the reports have a part in it. Every move counts exactly what it enters in the journal. -/

set_option autoImplicit false

namespace PowerRota

open PowerRota.Calendar

/-- What things are counted for: a kind of resources, and an action by its label. -/
@[ext]
structure Pair where
  kind : ResourceKind
  action : String
  deriving DecidableEq, Repr

namespace Invocation

def pair (invocation : Invocation) : Pair := ⟨invocation.resource.kind, invocation.action.label⟩

def ticket (invocation : Invocation) : Nat × Pair := (invocation.id, invocation.pair)

end Invocation

def Claim.ticket (claim : Claim) : Nat × Pair := (claim.invocation, ⟨claim.kind, claim.action⟩)

def Correction.pair (correction : Correction) : Pair :=
  ⟨correction.schedule.resource.kind, correction.action.label⟩

/-! What is counted for an outcome. -/

namespace Outcome

variable (outcome : Outcome) (pair other : Pair)

theorem count_operation (status : OperationStatus) :
    (outcome.counts pair.kind pair.action).count (.operation other.kind other.action status) =
      if pair = other ∧ outcome.status = status then 1 else 0 := by
  cases outcome <;> simp [counts, Outcome.status, List.count_cons, Pair.ext_iff, and_assoc]

theorem count_skip (reason : SkipReason) :
    (outcome.counts pair.kind pair.action).count (.skip other.kind other.action reason) =
      if pair = other ∧ outcome = .skipped reason then 1 else 0 := by
  cases outcome <;> simp [counts, List.count_cons, Pair.ext_iff, and_assoc]

theorem count_correction :
    (outcome.counts pair.kind pair.action).count (.correction other.kind other.action) = 0 := by
  cases outcome <;> simp [counts]

theorem sum_count_operation :
    (OperationStatus.all.map fun status => (outcome.counts pair.kind pair.action).count
      (.operation other.kind other.action status)).sum = if pair = other then 1 else 0 := by
  simp only [count_operation]
  by_cases same : pair = other
  · cases outcome <;> simp [same, OperationStatus.all, Outcome.status]
  · simp [same, OperationStatus.all]

theorem sum_count_skip :
    (SkipReason.all.map fun reason => (outcome.counts pair.kind pair.action).count
      (.skip other.kind other.action reason)).sum =
      (outcome.counts pair.kind pair.action).count
        (.operation other.kind other.action .skipped) := by
  simp only [count_skip, count_operation]
  cases outcome with
  | skipped reason => cases reason <;> simp [SkipReason.all, Outcome.status]
  | success | error | dryRun => simp [SkipReason.all, Outcome.status]

end Outcome

namespace Metrics

variable {metrics : Metrics} {ended accepted : List Pair}

def operationsOf (metrics : Metrics) (pair : Pair) : Nat :=
  (OperationStatus.all.map fun status => metrics.get (.operation pair.kind pair.action status)).sum

def skipsOf (metrics : Metrics) (pair : Pair) : Nat :=
  (SkipReason.all.map fun reason => metrics.get (.skip pair.kind pair.action reason)).sum

def correctionsOf (metrics : Metrics) (pair : Pair) : Nat :=
  metrics.get (.correction pair.kind pair.action)

theorem get_incrementAll (metrics : Metrics) (counts : List Count) (count : Count) :
    (metrics.incrementAll counts).get count = metrics.get count + counts.count count := by
  induction counts generalizing metrics with
  | nil => rfl
  | cons first counts ih =>
    calc ((metrics.increment first).incrementAll counts).get count
      _ = (metrics.increment first).get count + counts.count count := ih _
      _ = metrics.get count + ((if count = first then 1 else 0) + counts.count count) := by
        rw [get_increment, Nat.add_assoc]
      _ = metrics.get count + (first :: counts).count count := by
        rw [List.count_cons, Nat.add_comm (ite ..)]
        simp only [beq_iff_eq, eq_comm (b := count)]

theorem operationsOf_incrementAll (metrics : Metrics) (counts : List Count) (pair : Pair) :
    (metrics.incrementAll counts).operationsOf pair = metrics.operationsOf pair +
      (OperationStatus.all.map fun status =>
        counts.count (.operation pair.kind pair.action status)).sum := by
  simp only [operationsOf, get_incrementAll, List.sum_map_add]

theorem skipsOf_incrementAll (metrics : Metrics) (counts : List Count) (pair : Pair) :
    (metrics.incrementAll counts).skipsOf pair = metrics.skipsOf pair +
      (SkipReason.all.map fun reason => counts.count (.skip pair.kind pair.action reason)).sum := by
  simp only [skipsOf, get_incrementAll, List.sum_map_add]

/-- The counters of operations, skips and corrections, held against invocations that ended and
corrections that were accepted. -/
structure Agrees (metrics : Metrics) (ended accepted : List Pair) : Prop where
  skipped : ∀ pair : Pair,
    metrics.get (.operation pair.kind pair.action .skipped) = metrics.skipsOf pair
  operations : ∀ pair, metrics.operationsOf pair = ended.count pair
  corrections : ∀ pair, metrics.correctionsOf pair = accepted.count pair

namespace Agrees

theorem start : Agrees [] [] [] := ⟨fun _ => rfl, fun _ => rfl, fun _ => rfl⟩

theorem conclude (agrees : metrics.Agrees ended accepted) (pair : Pair) (outcome : Outcome) :
    (metrics.incrementAll (outcome.counts pair.kind pair.action)).Agrees (pair :: ended)
      accepted := by
  refine ⟨fun other => ?_, fun other => ?_, fun other => ?_⟩
  · rw [get_incrementAll, skipsOf_incrementAll, agrees.skipped, Outcome.sum_count_skip]
  · rw [operationsOf_incrementAll, agrees.operations, Outcome.sum_count_operation, List.count_cons]
    simp only [beq_iff_eq]
  · rw [Metrics.correctionsOf, get_incrementAll, Outcome.count_correction]
    exact agrees.corrections other

theorem accept (agrees : metrics.Agrees ended accepted) (correction : Correction) :
    (metrics.incrementAll [correction.count]).Agrees ended (correction.pair :: accepted) := by
  refine ⟨fun other => ?_, fun other => ?_, fun other => ?_⟩
  · rw [get_incrementAll, skipsOf_incrementAll, agrees.skipped]
    simp [Correction.count, SkipReason.all]
  · rw [operationsOf_incrementAll, agrees.operations]
    simp [Correction.count, OperationStatus.all]
  · have corrections := agrees.corrections other
    rw [Metrics.correctionsOf] at corrections ⊢
    rw [get_incrementAll, corrections, List.count_cons]
    simp [Correction.count, Correction.pair, Pair.ext_iff, List.count_cons]

end Agrees

end Metrics

/-! What the executor and the scheduler tell. -/

namespace Executor

variable {executor after : Executor}

def pair? (executor : Executor) : ExecutorEvent → Option Pair
  | .begin resource label => some ⟨resource.kind, label⟩
  | .answerState id _ _ | .answerOperation id _ | .expire id _ | .abort id =>
      (executor.invocation? id).map Invocation.pair

def ends? (executor : Executor) (event : ExecutorEvent) : Option Pair := do
  let (_, outcome?) ← executor.step? event
  let _ ← outcome?
  executor.pair? event

theorem ends?_of_underway {event : ExecutorEvent}
    (stepped : executor.step? event = some (after, none)) : executor.ends? event = none := by
  simp [ends?, stepped]

theorem ends?_of_ended {event : ExecutorEvent} {outcome : Outcome}
    (stepped : executor.step? event = some (after, some outcome)) :
    executor.ends? event = executor.pair? event := by
  simp [ends?, stepped]

theorem pair?_of_found {event : ExecutorEvent} {id : Nat} (about : event.invocation? = some id)
    {invocation : Invocation} (found : executor.invocation? id = some invocation) :
    executor.pair? event = some invocation.pair := by
  cases event with
  | begin => cases about
  | answerState | answerOperation | expire | abort =>
    obtain rfl := Option.some.inj about
    rw [pair?, found, Option.map_some]

end Executor

/-- What has happened along a run, the last first. -/
structure Journal where
  begun : List Pair
  ended : List Pair
  accepted : List Pair
  /-- The numbers of corrections that passes have returned. -/
  results : List Nat

/-- The correction that an answer calls for, if the scheduler accepts it. -/
def Daemon.accepts? {Other : Type} (daemon : Daemon Other) (pass : Nat)
    (state? : Option ResourceState) : Option Pair := do
  let pass ← daemon.pass? pass
  let correction ← (pass.answer daemon.scheduler.zone state?).1
  let _ ← (daemon.scheduler.addOneShot correction.jobName (.order correction.order)).toOption
  return correction.pair

namespace Journal

def start : Journal := ⟨[], [], [], []⟩

def hear (journal : Journal) (executor : Executor) (event : ExecutorEvent) : Journal :=
  { journal with ended := (executor.ends? event).toList ++ journal.ended }

/-- What a move enters in the journal. -/
def enter {Other : Type} (journal : Journal) (daemon : Daemon Other) : DaemonMove Other → Journal
  | .invoke _ resource action =>
      { journal with begun := ⟨resource.kind, action⟩ :: journal.begun }.hear daemon.executor
        (.begin resource action)
  | .answerState id state? =>
      journal.hear daemon.executor (.answerState id daemon.scheduler.clock state?)
  | .answerOperation id success => journal.hear daemon.executor (.answerOperation id success)
  | .expire id => journal.hear daemon.executor (.expire id daemon.scheduler.clock)
  | .answerPass id state? =>
      { journal with accepted := (daemon.accepts? id state?).toList ++ journal.accepted }
  | .endPass id =>
      { journal with results := ((daemon.endPass? id).map Prod.snd).toList ++ journal.results }
  | .scheduler _ | .abort _ | .reschedule _ | .beginPass _ => journal

end Journal

def DaemonMove.IsAbort {Other : Type} : DaemonMove Other → Prop
  | .abort _ => True
  | _ => False

namespace Daemon

variable {Other : Type} {daemon after : Daemon Other} {journal : Journal}

/-- The daemons that runs lead to, with the journals of the runs. No call to the cloud breaks
off. -/
inductive Recorded (settings : SchedulerSettings) (dryRun : Bool) :
    Daemon Other → Journal → Prop where
  | start (clock : Instant) (timeout : Nat) (schedules : List Schedule) :
      Recorded settings dryRun
        (start (.start settings clock) (.start dryRun timeout) schedules) .start
  | move {before after : Daemon Other} {journal : Journal} {move : DaemonMove Other} :
      Recorded settings dryRun before journal → ¬ move.IsAbort →
      before.move? move = some after → Recorded settings dryRun after (journal.enter before move)

theorem Recorded.reachable {settings : SchedulerSettings} {dryRun : Bool}
    (recorded : Recorded settings dryRun daemon journal) : Reachable settings dryRun daemon := by
  induction recorded with
  | start clock timeout schedules => exact .start clock timeout schedules
  | move _ _ moved ih => exact .move ih moved

theorem accepts?_eq {id : Nat} {pass : Pass} (found : daemon.pass? id = some pass)
    {schedule : Schedule} {rest : List Schedule} (remaining : pass.remaining = schedule :: rest)
    (state? : Option ResourceState) :
    daemon.accepts? id state? =
      (schedule.correction? daemon.scheduler.zone pass.now state?).bind fun correction =>
        if daemon.scheduler.shut then none else some correction.pair := by
  simp only [accepts?, found, Pass.answer, remaining, Option.bind_eq_bind, Option.bind_some]
  congr 1
  funext correction
  unfold Scheduler.addOneShot Scheduler.checkName
  cases daemon.scheduler.shut with
  | true => rfl
  | false =>
    simp [Correction.jobName_ne_empty, bind, Except.bind, pure, Except.pure, Except.toOption]

/-- A reload makes moves of the scheduler and of the passes only. -/
theorem Recorded.reload {settings : SchedulerSettings} {dryRun : Bool} {Fault : Type}
    (recorded : Recorded settings dryRun daemon journal)
    (loaded : Except Fault (List Schedule)) :
    Recorded settings dryRun (daemon.reload loaded).1 journal := by
  cases loaded with
  | error fault => exact recorded
  | ok schedules =>
    unfold Daemon.reload
    cases replaced : daemon.scheduler.replaceSchedules .order schedules with
    | error fault =>
      simp only [replaced]
      exact recorded
    | ok scheduler =>
      obtain ⟨orders, _, swapped⟩ := Scheduler.move?_of_replaceSchedules replaced
      have moved : daemon.move? (.scheduler (.replaceManaged (orders.map (·.map Work.order)))) =
          some { daemon with scheduler } := by
        rw [move?, swapped, Option.map_some]
      have taken : Daemon.move? { daemon with scheduler } (.reschedule schedules) =
        some { daemon with scheduler, schedules } := rfl
      simp only [replaced]
      exact (recorded.move id moved).move id taken

/-- Make moves one after the other, and keep the journal. -/
def follow? (daemon : Daemon Other) (journal : Journal) :
    List (DaemonMove Other) → Option (Daemon Other × Journal)
  | [] => some (daemon, journal)
  | move :: moves => do
      let next ← daemon.move? move
      next.follow? (journal.enter daemon move) moves

theorem Recorded.follow {settings : SchedulerSettings} {dryRun : Bool} {later : Journal}
    (recorded : Recorded settings dryRun daemon journal) {moves : List (DaemonMove Other)}
    (unbroken : ∀ move ∈ moves, ¬ move.IsAbort)
    (followed : daemon.follow? journal moves = some (after, later)) :
    Recorded settings dryRun after later := by
  induction moves generalizing daemon journal with
  | nil =>
    cases followed
    exact recorded
  | cons move moves ih =>
    obtain ⟨first, rest⟩ := List.forall_mem_cons.mp unbroken
    obtain ⟨next, moved, followed⟩ := Option.bind_eq_some_iff.mp followed
    exact ih (recorded.move first moved) rest followed

/-! What is in progress. -/

theorem perm_cons_filter {Entry Key : Type} [DecidableEq Key] {key : Entry → Key}
    {entries : List Entry} (distinct : (entries.map key).Nodup) {entry : Entry}
    (member : entry ∈ entries) :
    entries.Perm (entry :: entries.filter fun other => key other ≠ key entry) := by
  obtain ⟨before, later, rfl⟩ := List.append_of_mem member
  rw [List.map_append, List.map_cons, List.nodup_middle, List.nodup_cons] at distinct
  have others : ∀ other ∈ before ++ later, key other ≠ key entry := fun other among same =>
    distinct.1 (by rw [← List.map_append, ← same]; exact List.mem_map_of_mem among)
  have kept : (before ++ entry :: later).filter (fun other => key other ≠ key entry) =
      before ++ later := by
    rw [List.filter_append, List.filter_cons_of_neg (by simp), ← List.filter_append,
      List.filter_eq_self.mpr fun other among => decide_eq_true (others other among)]
  rw [kept]
  exact List.perm_middle

theorem mem_of_pass? {id : Nat} {pass : Pass} (found : daemon.pass? id = some pass) :
    (id, pass) ∈ daemon.passes := by
  obtain ⟨before, later, same, _⟩ := List.lookup_eq_some_iff.mp found
  rw [same]
  exact List.mem_append_right _ (List.mem_cons_self ..)

theorem map_fst_setPass (daemon : Daemon Other) (id : Nat) (pass : Pass) :
    (daemon.setPass id pass).passes.map (·.1) = daemon.passes.map (·.1) := by
  simp only [setPass, List.map_map]
  rfl

def underway (daemon : Daemon Other) : Nat := (daemon.passes.map (·.2.corrections)).sum

def underwayBut (daemon : Daemon Other) (id : Nat) : Nat :=
  ((daemon.passes.filter (·.1 ≠ id)).map (·.2.corrections)).sum

theorem underway_eq (distinct : (daemon.passes.map (·.1)).Nodup) {id : Nat} {pass : Pass}
    (found : daemon.pass? id = some pass) :
    daemon.underway = pass.corrections + daemon.underwayBut id := by
  have split := (perm_cons_filter distinct (mem_of_pass? found)).map
    fun entry => entry.2.corrections
  exact split.sum_nat

theorem underway_setPass (distinct : (daemon.passes.map (·.1)).Nodup) {id : Nat} {pass : Pass}
    (found : daemon.pass? id = some pass) (next : Pass) :
    (daemon.setPass id next).underway = next.corrections + daemon.underwayBut id := by
  have split := (perm_cons_filter distinct (mem_of_pass? found)).map
    fun entry => (entry.1, if entry.1 = id then next else entry.2)
  have same : ∀ entry ∈ daemon.passes.filter (·.1 ≠ id),
      (entry.1, if entry.1 = id then next else entry.2) = entry := fun entry other => by
    rw [if_neg (of_decide_eq_true (List.mem_filter.mp other).2)]
  have others := (List.map_congr_left same).trans (List.map_id' _)
  rw [List.map_cons, if_pos rfl, others] at split
  exact (split.map fun entry => entry.2.corrections).sum_nat

/-! What a move counts. -/

/-- The counters agree with the journal, and so does what is in progress: of the invocations
that have begun the others have ended, and of the corrections that were accepted the others
belong to passes that have returned. -/
structure Balanced (daemon : Daemon Other) (journal : Journal) : Prop where
  metrics : daemon.metrics.Agrees journal.ended journal.accepted
  claims : daemon.claims.map Claim.ticket = daemon.executor.active.map Invocation.ticket
  begun : journal.begun.Perm (journal.ended ++ daemon.executor.active.map Invocation.pair)
  passes : (daemon.passes.map (·.1)).Nodup
  corrections : journal.accepted.length = journal.results.sum + daemon.underway

namespace Balanced

theorem ticket_eq (balanced : daemon.Balanced journal) {id : Nat} {claim : Claim}
    (claimed : daemon.claim? id = some claim) {invocation : Invocation}
    (found : daemon.executor.invocation? id = some invocation) :
    claim.ticket = invocation.ticket := by
  have first := congrArg (List.find? (·.1 == id)) balanced.claims
  rw [List.find?_map, List.find?_map] at first
  have claimed : daemon.claims.find? ((·.1 == id) ∘ Claim.ticket) = some claim := claimed
  have found : daemon.executor.active.find? ((·.1 == id) ∘ Invocation.ticket) =
    some invocation := found
  rw [claimed, found] at first
  exact Option.some.inj first

theorem turnAway (balanced : daemon.Balanced journal) (execution : Option Nat) (pair : Pair)
    (outcome : Outcome) :
    (daemon.report execution ⟨pair.kind, pair.action, outcome⟩).Balanced
      { journal with begun := pair :: journal.begun, ended := pair :: journal.ended } := by
  rw [report_eq]
  exact { balanced with
    metrics := balanced.metrics.conclude pair outcome
    begun := balanced.begun.cons pair }

theorem enter (balanced : daemon.Balanced journal) (execution : Option Nat) (resource : Resource)
    (action : Action) :
    Balanced { daemon with
      executor := daemon.executor.enter resource action
      claims := daemon.claims ++
        [⟨daemon.executor.nextId, execution, resource.kind, action.label⟩] }
      { journal with begun := ⟨resource.kind, action.label⟩ :: journal.begun } where
  metrics := balanced.metrics
  claims := by
    simp only [Executor.enter, List.map_append, balanced.claims]
    rfl
  begun := by
    simp only [Executor.enter, List.map_append, ← List.append_assoc]
    exact (balanced.begun.cons _).trans (List.perm_append_singleton ..).symm
  passes := balanced.passes
  corrections := balanced.corrections

theorem operate (balanced : daemon.Balanced journal) (id : Nat) (deadline : Instant) :
    Balanced { daemon with executor := daemon.executor.operate id deadline } journal := by
  have tickets := daemon.executor.map_operate id deadline Invocation.ticket fun _ _ => rfl
  have pairs := daemon.executor.map_operate id deadline Invocation.pair fun _ _ => rfl
  exact { balanced with
    claims := balanced.claims.trans tickets.symm
    begun := pairs.symm ▸ balanced.begun }

theorem settle (balanced : daemon.Balanced journal) (coherent : daemon.executor.Coherent)
    {id : Nat} {claim : Claim} (claimed : daemon.claim? id = some claim) {invocation : Invocation}
    (found : daemon.executor.invocation? id = some invocation) (outcome : Outcome) :
    (Daemon.settle { daemon with executor := daemon.executor.conclude invocation } claim
      outcome).Balanced { journal with ended := invocation.pair :: journal.ended } := by
  have same := balanced.ticket_eq claimed found
  obtain ⟨number, pair⟩ := Prod.mk.inj same
  obtain ⟨member, rfl⟩ := Executor.mem_of_invocation? found
  have kept : (daemon.claims.filter (·.invocation ≠ claim.invocation)).map Claim.ticket =
      (daemon.executor.conclude invocation).active.map Invocation.ticket := by
    have filtered := congrArg (List.filter (·.1 ≠ invocation.id)) balanced.claims
    rw [List.filter_map, List.filter_map] at filtered
    rw [number]
    exact filtered
  have left := (perm_cons_filter coherent.ids_nodup member).map Invocation.pair
  unfold Daemon.settle
  rw [report_eq]
  refine { balanced with metrics := ?_, claims := kept, begun := ?_ }
  · rw [← pair]
    exact balanced.metrics.conclude ⟨claim.kind, claim.action⟩ outcome
  · exact (balanced.begun.trans (left.append_left _)).trans List.perm_middle

theorem setPass (balanced : daemon.Balanced journal) {id : Nat} {pass : Pass}
    (found : daemon.pass? id = some pass) (rest : List Schedule) :
    (daemon.setPass id { pass with remaining := rest }).Balanced journal := by
  refine { balanced with passes := ?_, corrections := ?_ }
  · rw [map_fst_setPass]
    exact balanced.passes
  · rw [underway_setPass balanced.passes found, balanced.corrections,
      underway_eq balanced.passes found]

theorem accept (balanced : daemon.Balanced journal) {id : Nat} {pass : Pass}
    (found : daemon.pass? id = some pass) (rest : List Schedule) (correction : Correction) :
    ((daemon.withCorrection correction).setPass id
      { pass with remaining := rest, corrections := pass.corrections + 1 }).Balanced
      { journal with accepted := correction.pair :: journal.accepted } := by
  refine { balanced with
    metrics := balanced.metrics.accept correction
    passes := ?_
    corrections := ?_ }
  · rw [map_fst_setPass]
    exact balanced.passes
  · have before := balanced.corrections
    have later : ((daemon.withCorrection correction).setPass id
        { pass with remaining := rest, corrections := pass.corrections + 1 }).underway =
        pass.corrections + 1 + daemon.underwayBut id := underway_setPass balanced.passes found _
    rw [underway_eq balanced.passes found] at before
    change journal.accepted.length + 1 = journal.results.sum + _
    rw [later, before]
    omega

theorem beginPass (balanced : daemon.Balanced journal) (coherent : daemon.Coherent)
    (now : Instant) : (daemon.beginPass now).1.Balanced journal := by
  refine { balanced with passes := ?_, corrections := ?_ }
  · simp only [Daemon.beginPass, List.map_append, List.map_singleton]
    refine List.nodup_append.mpr ⟨balanced.passes, List.nodup_singleton _, ?_⟩
    intro first firstMember second secondMember
    obtain ⟨entry, member, rfl⟩ := List.mem_map.mp firstMember
    obtain rfl := List.mem_singleton.mp secondMember
    exact Nat.ne_of_lt (coherent.passes entry member)
  · have none_yet : (daemon.beginPass now).1.underway = daemon.underway := by
      simp [underway, Daemon.beginPass, Pass.begin]
    rw [none_yet]
    exact balanced.corrections

theorem endPass (balanced : daemon.Balanced journal) {id corrections : Nat}
    (ended : daemon.endPass? id = some (after, corrections)) :
    after.Balanced { journal with results := corrections :: journal.results } := by
  obtain ⟨pass, found, _, rfl, rfl⟩ := endPass?_eq_some ended
  refine { balanced with passes := ?_, corrections := ?_ }
  · exact balanced.passes.sublist (List.filter_sublist.map _)
  · have before := balanced.corrections
    rw [underway_eq balanced.passes found, ← Nat.add_assoc, Nat.add_comm _ pass.corrections,
      ← List.sum_cons] at before
    exact before

theorem hear (balanced : daemon.Balanced journal) (coherent : daemon.executor.Coherent)
    {event : ExecutorEvent} {id : Nat} (about : event.invocation? = some id) {outcome : Outcome}
    {executor : Executor}
    (stepped : daemon.executor.step? event = some (executor, some outcome)) {claim : Claim}
    (claimed : daemon.claim? id = some claim) {invocation : Invocation}
    (found : daemon.executor.invocation? id = some invocation)
    (concluded : executor = daemon.executor.conclude invocation) :
    (Daemon.settle { daemon with executor } claim outcome).Balanced
      (journal.hear daemon.executor event) := by
  rw [Journal.hear, Executor.ends?_of_ended stepped, Executor.pair?_of_found about found,
    concluded]
  exact balanced.settle coherent claimed found outcome

theorem invoke (balanced : daemon.Balanced journal) (execution : Option Nat) (resource : Resource)
    (label : String) :
    (daemon.invoke execution resource label).1.Balanced
      (journal.enter daemon (.invoke execution resource label)) := by
  rcases daemon.executor.begin_cases resource label with
    ⟨outcome, ended⟩ | ⟨action, rfl, _, entered⟩
  · have stepped : daemon.executor.step? (.begin resource label) =
        some (daemon.executor, some outcome) := by
      rw [Executor.step?, ended]
      rfl
    rw [invoke_of_ended ended, Journal.enter, Journal.hear, Executor.ends?_of_ended stepped]
    exact balanced.turnAway execution ⟨resource.kind, label⟩ outcome
  · have stepped : daemon.executor.step? (.begin resource action.label) =
        some (daemon.executor.enter resource action, none) := by
      rw [Executor.step?, entered]
      rfl
    rw [invoke_of_entered entered, Journal.enter, Journal.hear, Executor.ends?_of_underway stepped]
    exact balanced.enter execution resource action

theorem answerState (balanced : daemon.Balanced journal) (coherent : daemon.executor.Coherent)
    {id : Nat} {state? : Option ResourceState} {progress : Progress}
    (answered : daemon.answerState? id state? = some (after, progress)) :
    after.Balanced (journal.enter daemon (.answerState id state?)) := by
  obtain ⟨claim, executor, claimed, heard, went⟩ := answerState?_eq_some answered
  have stepped := Executor.step?_answerState heard
  obtain ⟨invocation, found, ⟨reason, _, ended, concluded⟩ | ⟨deadline, called, rfl⟩⟩ :=
    Executor.answerState?_eq_some heard
  · rcases went with ⟨call, called, _⟩ | ⟨outcome, rfl, rfl⟩
    · cases ended.symm.trans called
    · exact balanced.hear coherent rfl stepped claimed found concluded
  · rcases went with ⟨call, rfl, rfl⟩ | ⟨outcome, ended, _⟩
    · rw [Journal.enter, Journal.hear, Executor.ends?_of_underway stepped]
      exact balanced.operate id deadline
    · cases ended.symm.trans called

theorem answerPass (balanced : daemon.Balanced journal) {id : Nat}
    {state? : Option ResourceState} {correction? : Option Correction}
    (answered : daemon.answerPass? id state? = some (after, correction?)) :
    after.Balanced (journal.enter daemon (.answerPass id state?)) := by
  obtain ⟨pass, schedule, rest, found, remaining, moved⟩ := answerPass?_eq_some answered
  rw [Journal.enter, accepts?_eq found remaining]
  cases moved with
  | none fits =>
    rw [fits]
    exact balanced.setPass found rest
  | refused differs shut =>
    rw [differs, Option.bind_some, if_pos shut]
    exact balanced.setPass found rest
  | submitted differs open_ =>
    rw [differs, Option.bind_some, if_neg (Bool.not_eq_true _ ▸ open_)]
    exact balanced.accept found rest _

/-- Every move counts what it enters in the journal, unless a call breaks off. -/
theorem move (balanced : daemon.Balanced journal) (coherent : daemon.Coherent)
    {move : DaemonMove Other} (unbroken : ¬ move.IsAbort)
    (moved : daemon.move? move = some after) : after.Balanced (journal.enter daemon move) := by
  cases move with
  | scheduler move =>
    obtain ⟨scheduler, _, rfl⟩ := Option.map_eq_some_iff.mp moved
    exact { balanced with }
  | invoke execution resource action =>
    cases moved
    exact balanced.invoke execution resource action
  | answerState id state? =>
    obtain ⟨⟨_, _⟩, answered, rfl⟩ := Option.map_eq_some_iff.mp moved
    exact balanced.answerState coherent.executor answered
  | answerOperation id success =>
    obtain ⟨⟨_, _⟩, answered, rfl⟩ := Option.map_eq_some_iff.mp moved
    obtain ⟨claim, executor, claimed, heard, rfl⟩ := answerOperation?_eq_some answered
    obtain ⟨invocation, found, _, concluded⟩ := Executor.answerOperation?_eq_some heard
    exact balanced.hear coherent.executor rfl (by rw [Executor.step?, heard]; rfl) claimed found
      concluded
  | expire id =>
    obtain ⟨⟨_, _⟩, expired, rfl⟩ := Option.map_eq_some_iff.mp moved
    obtain ⟨claim, executor, claimed, ended, rfl⟩ := expire?_eq_some expired
    obtain ⟨invocation, found, _, concluded⟩ := Executor.expire?_eq_some ended
    exact balanced.hear coherent.executor rfl (by rw [Executor.step?, ended]; rfl) claimed found
      concluded
  -- a call that breaks off ends an invocation without an outcome, which nobody counts
  | abort id => exact absurd trivial unbroken
  | reschedule schedules =>
    cases moved
    exact { balanced with }
  | beginPass now =>
    cases moved
    exact balanced.beginPass coherent now
  | answerPass id state? =>
    obtain ⟨⟨_, _⟩, answered, rfl⟩ := Option.map_eq_some_iff.mp moved
    exact balanced.answerPass answered
  | endPass id =>
    obtain ⟨⟨_, _⟩, ended, rfl⟩ := Option.map_eq_some_iff.mp moved
    rw [Journal.enter, ended]
    exact balanced.endPass ended

theorem finsum_corrections (balanced : daemon.Balanced journal) :
    ∑ᶠ pair, daemon.metrics.correctionsOf pair = journal.accepted.length := by
  have support : Function.support daemon.metrics.correctionsOf ⊆ journal.accepted.toFinset := by
    intro pair counted
    rw [Function.mem_support, balanced.metrics.corrections, Ne, List.count_eq_zero, not_not]
      at counted
    exact List.mem_toFinset.mpr counted
  rw [finsum_eq_sum_of_support_subset _ support, ← List.sum_toFinset_count_eq_length]
  exact Finset.sum_congr rfl fun pair _ => balanced.metrics.corrections pair

end Balanced

theorem Recorded.balanced {settings : SchedulerSettings} {dryRun : Bool}
    (recorded : Recorded settings dryRun daemon journal) : daemon.Balanced journal := by
  induction recorded with
  | start clock timeout schedules => exact ⟨.start, rfl, .nil, List.nodup_nil, rfl⟩
  | move before unbroken moved ih => exact ih.move before.reachable.coherent unbroken moved

/-- In every run in which no call to the cloud breaks off, whenever nothing moves: the skips of
a pair are its operations that were skipped; its operations are its invocations that have ended,
which are those that have begun and are not in progress; and its corrections are those that the
scheduler has accepted, altogether the results of the passes if none is in progress. -/
theorem counters_consistent {settings : SchedulerSettings} {dryRun : Bool}
    (recorded : Recorded settings dryRun daemon journal) :
    (∀ pair : Pair,
      daemon.metrics.get (.operation pair.kind pair.action .skipped) = daemon.metrics.skipsOf pair ∧
      daemon.metrics.operationsOf pair = journal.ended.count pair ∧
      journal.begun.count pair = journal.ended.count pair +
        (daemon.executor.active.map Invocation.pair).count pair ∧
      daemon.metrics.correctionsOf pair = journal.accepted.count pair) ∧
    (daemon.passes = [] → ∑ᶠ pair, daemon.metrics.correctionsOf pair = journal.results.sum) := by
  have balanced := recorded.balanced
  refine ⟨fun pair => ⟨balanced.metrics.skipped pair, balanced.metrics.operations pair, ?_,
    balanced.metrics.corrections pair⟩, fun idle => ?_⟩
  · rw [balanced.begun.count_eq, List.count_append]
  · rw [balanced.finsum_corrections, balanced.corrections, underway, idle]
    rfl

/-- A correction is carried out while a request for the same is turned away. -/
theorem counters_consistent_of_correction :
    let six : TimeOfDay := ⟨6, 0, 0, by decide, by decide, by decide⟩
    let resource : Resource := ⟨.vm, "vm-1", "folder-1"⟩
    let shift : Schedule := ⟨"shift", resource, some (.daily six), none⟩
    let start : Daemon Empty := .start (.start .standard ⟨0⟩) (.start false 5) [shift]
    let moves : List (DaemonMove Empty) := [.scheduler .openFor, .beginPass ⟨0⟩,
      .answerPass 0 (some .stopped), .endPass 0, .scheduler (.step (.pass 1)),
      .scheduler (.step .grant), .scheduler (.step (.handOver 1)), .invoke (some 2) resource "start",
      .invoke none resource "start", .answerState 0 none, .answerOperation 0 true]
    let pair : Pair := ⟨.vm, "start"⟩
    ∃ daemon journal, start.follow? .start moves = some (daemon, journal) ∧
      Recorded .standard false daemon journal ∧
      journal = ⟨[pair, pair], [pair, pair], [pair], [1]⟩ ∧
      daemon.metrics.get (.operation .vm "start" .skipped) = 1 ∧
      daemon.metrics.skipsOf pair = 1 ∧ daemon.metrics.operationsOf pair = 2 ∧
      daemon.metrics.correctionsOf pair = 1 ∧ daemon.passes = [] ∧
      ∑ᶠ pair, daemon.metrics.correctionsOf pair = 1 := by
  intro six resource shift start moves pair
  let daemon : Daemon Empty := ((start.follow? .start moves).map Prod.fst).getD start
  let journal : Journal := ⟨[pair, pair], [pair, pair], [pair], [1]⟩
  have followed : start.follow? .start moves = some (daemon, journal) := rfl
  have unbroken : ∀ move ∈ moves, ¬ move.IsAbort := by
    repeat' refine List.forall_mem_cons.mpr ⟨id, ?_⟩
    exact List.forall_mem_nil _
  have recorded : Recorded .standard false daemon journal :=
    (Recorded.start ⟨0⟩ 5 [shift]).follow unbroken followed
  obtain ⟨counted, total⟩ := counters_consistent recorded
  obtain ⟨skipped, operations, _, corrections⟩ := counted pair
  have one : daemon.metrics.get (.operation .vm "start" .skipped) = 1 := rfl
  exact ⟨daemon, journal, followed, recorded, rfl, one, skipped.symm.trans one,
    operations.trans (by decide), corrections.trans (by decide), rfl, total rfl⟩

end Daemon

end PowerRota
