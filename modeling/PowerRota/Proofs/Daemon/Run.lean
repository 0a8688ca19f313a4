import PowerRota.Daemon
import PowerRota.Proofs.Executor.Run
import PowerRota.Proofs.Scheduler.Handover

/-! Runs of the daemon: its scheduler moves, invocations begin and are answered, and passes go
on, in any order.

The claims are those of the invocations in progress, one for each and in their order. -/

set_option autoImplicit false

namespace PowerRota

open PowerRota.Calendar

inductive DaemonMove (Other : Type) where
  | scheduler (move : SchedulerMove (Work Other))
  | invoke (execution : Option Nat) (resource : Resource) (action : String)
  | answerState (invocation : Nat) (state? : Option ResourceState)
  | answerOperation (invocation : Nat) (success : Bool)
  | expire (invocation : Nat)
  | abort (invocation : Nat)
  | reschedule (schedules : List Schedule)
  | beginPass (now : Instant)
  | answerPass (pass : Nat) (state? : Option ResourceState)
  | endPass (pass : Nat)

theorem Pass.asked?_of_remaining {pass : Pass} {schedule : Schedule} {rest : List Schedule}
    (remaining : pass.remaining = schedule :: rest) : pass.asked? = some schedule := by
  unfold asked?
  rw [remaining]
  rfl

theorem Correction.jobName_ne_empty (correction : Correction) : correction.jobName ≠ "" := by
  simp [Correction.jobName]

namespace Scheduler

variable {Body : Type}

def afterEnd (scheduler : Scheduler Body) : Option Nat → Scheduler Body
  | some id => (scheduler.finish? id).getD scheduler
  | none => scheduler

theorem afterEnd_of_mem {scheduler : Scheduler Body} {execution : Execution Body}
    (member : execution ∈ scheduler.executions) :
    scheduler.afterEnd (some execution.id) = { scheduler with
      executions := scheduler.executions.filter (·.id ≠ execution.id)
      free := scheduler.free + 1 } := by
  have listed : scheduler.executions.any (·.id == execution.id) = true :=
    List.any_eq_true.mpr ⟨execution, member, beq_self_eq_true _⟩
  simp only [afterEnd, finish?, listed, if_true, Option.getD_some]

theorem afterEnd_eq_or_moved (scheduler : Scheduler Body) (execution? : Option Nat) :
    scheduler.afterEnd execution? = scheduler ∨
      ∃ move, scheduler.Moved move (scheduler.afterEnd execution?) := by
  unfold afterEnd
  cases execution? with
  | none => exact Or.inl rfl
  | some id =>
    cases ended : scheduler.finish? id with
    | none => exact Or.inl (by simp only [ended, Option.getD_none])
    | some after =>
      simp only [ended, Option.getD_some]
      exact Or.inr ⟨_, .step (finish?_step ended)⟩

end Scheduler

namespace Daemon

variable {Other : Type} {daemon after : Daemon Other}

def move? (daemon : Daemon Other) : DaemonMove Other → Option (Daemon Other)
  | .scheduler move =>
      (daemon.scheduler.move? move).map fun scheduler => { daemon with scheduler }
  | .invoke execution resource action => some (daemon.invoke execution resource action).1
  | .answerState id state? => (daemon.answerState? id state?).map Prod.fst
  | .answerOperation id success => (daemon.answerOperation? id success).map Prod.fst
  | .expire id => (daemon.expire? id).map Prod.fst
  | .abort id => daemon.abort? id
  | .reschedule schedules => some { daemon with schedules }
  | .beginPass now => some (daemon.beginPass now).1
  | .answerPass id state? => (daemon.answerPass? id state?).map Prod.fst
  | .endPass id => (daemon.endPass? id).map Prod.fst

/-- The daemons that runs lead to. -/
inductive Reachable (settings : SchedulerSettings) (dryRun : Bool) : Daemon Other → Prop where
  | start (clock : Instant) (timeout : Nat) (schedules : List Schedule) :
      Reachable settings dryRun
        (start (.start settings clock) (.start dryRun timeout) schedules)
  | move {before after : Daemon Other} {move : DaemonMove Other} :
      Reachable settings dryRun before → before.move? move = some after →
      Reachable settings dryRun after

/-! What becomes of an invocation. -/

theorem report_eq (daemon : Daemon Other) (execution : Option Nat) (report : Report) :
    daemon.report execution report = { daemon with
      scheduler := daemon.scheduler.afterEnd execution
      metrics := daemon.metrics.incrementAll report.counts
      reports := report :: daemon.reports } := by
  cases execution <;> rfl

theorem invoke_of_ended {execution : Option Nat} {resource : Resource} {action : String}
    {outcome : Outcome} (ended : daemon.executor.begin resource action =
      (daemon.executor, .ended outcome)) :
    (daemon.invoke execution resource action).1 =
      daemon.report execution ⟨resource.kind, action, outcome⟩ := by
  simp only [invoke, ended]

theorem invoke_of_entered {execution : Option Nat} {resource : Resource} {action : Action}
    (entered : daemon.executor.begin resource action.label =
      (daemon.executor.enter resource action,
        .started daemon.executor.nextId (.query resource))) :
    (daemon.invoke execution resource action.label).1 = { daemon with
      executor := daemon.executor.enter resource action
      claims := daemon.claims ++
        [⟨daemon.executor.nextId, execution, resource.kind, action.label⟩] } := by
  simp only [invoke, entered]

theorem mem_of_claim? {id : Nat} {claim : Claim} (found : daemon.claim? id = some claim) :
    claim ∈ daemon.claims ∧ claim.invocation = id := by
  unfold claim? at found
  have fits := List.find?_some found
  exact ⟨List.mem_of_find?_eq_some found, eq_of_beq fits⟩

theorem answerState?_eq_some {id : Nat} {state? : Option ResourceState} {progress : Progress}
    (answered : daemon.answerState? id state? = some (after, progress)) :
    ∃ claim executor, daemon.claim? id = some claim ∧
      daemon.executor.answerState? id daemon.scheduler.clock state? =
        some (executor, progress) ∧
      ((∃ call, progress = .calls call ∧ after = { daemon with executor }) ∨
        ∃ outcome, progress = .ended outcome ∧
          after = settle { daemon with executor } claim outcome) := by
  obtain ⟨claim, found, rest⟩ := Option.bind_eq_some_iff.mp answered
  obtain ⟨⟨executor, progress⟩, heard, settled⟩ := Option.bind_eq_some_iff.mp rest
  refine ⟨claim, executor, found, ?_⟩
  cases progress with
  | calls call =>
    cases settled
    exact ⟨heard, Or.inl ⟨call, rfl, rfl⟩⟩
  | ended outcome =>
    cases settled
    exact ⟨heard, Or.inr ⟨outcome, rfl, rfl⟩⟩

theorem answerOperation?_eq_some {id : Nat} {success : Bool} {outcome : Outcome}
    (answered : daemon.answerOperation? id success = some (after, outcome)) :
    ∃ claim executor, daemon.claim? id = some claim ∧
      daemon.executor.answerOperation? id success = some (executor, outcome) ∧
      after = settle { daemon with executor } claim outcome := by
  obtain ⟨claim, found, rest⟩ := Option.bind_eq_some_iff.mp answered
  obtain ⟨⟨executor, reported⟩, heard, settled⟩ := Option.bind_eq_some_iff.mp rest
  cases settled
  exact ⟨claim, executor, found, heard, rfl⟩

theorem expire?_eq_some {id : Nat} {outcome : Outcome}
    (expired : daemon.expire? id = some (after, outcome)) :
    ∃ claim executor, daemon.claim? id = some claim ∧
      daemon.executor.expire? id daemon.scheduler.clock = some (executor, outcome) ∧
      after = settle { daemon with executor } claim outcome := by
  obtain ⟨claim, found, rest⟩ := Option.bind_eq_some_iff.mp expired
  obtain ⟨⟨executor, reported⟩, heard, settled⟩ := Option.bind_eq_some_iff.mp rest
  cases settled
  exact ⟨claim, executor, found, heard, rfl⟩

theorem abort?_eq_some {id : Nat} (aborted : daemon.abort? id = some after) :
    ∃ claim executor, daemon.claim? id = some claim ∧
      daemon.executor.abort? id = some executor ∧
      after = { daemon with
        executor
        scheduler := daemon.scheduler.afterEnd claim.execution
        claims := daemon.claims.filter (·.invocation ≠ id) } := by
  obtain ⟨claim, found, rest⟩ := Option.bind_eq_some_iff.mp aborted
  obtain ⟨executor, broken, settled⟩ := Option.bind_eq_some_iff.mp rest
  cases settled
  refine ⟨claim, executor, found, broken, ?_⟩
  cases claim.execution <;> rfl

/-! What becomes of a pass. -/

def withCorrection (daemon : Daemon Other) (correction : Correction) : Daemon Other :=
  { daemon with
    scheduler :=
      daemon.scheduler.insert correction.jobName false .once (.order correction.order)
    metrics := daemon.metrics.increment correction.count }

theorem submit_eq (daemon : Daemon Other) (correction : Correction) :
    daemon.submit correction =
      if daemon.scheduler.shut then none else some (daemon.withCorrection correction) := by
  unfold submit Scheduler.addOneShot Scheduler.checkName
  cases daemon.scheduler.shut with
  | true => rfl
  | false =>
    simp [Correction.jobName_ne_empty, withCorrection, bind, Except.bind, pure, Except.pure]

/-- What an answer makes of a pass that asks about `schedule`. -/
inductive PassMoved (daemon : Daemon Other) (id : Nat) (state? : Option ResourceState)
    (pass : Pass) (schedule : Schedule) (rest : List Schedule) :
    Option Correction → Daemon Other → Prop where
  | none (fits : schedule.correction? daemon.scheduler.zone pass.now state? = none) :
      PassMoved daemon id state? pass schedule rest none
        (daemon.setPass id { pass with remaining := rest })
  | refused {correction : Correction}
      (differs : schedule.correction? daemon.scheduler.zone pass.now state? = some correction)
      (shut : daemon.scheduler.shut = true) :
      PassMoved daemon id state? pass schedule rest none
        (daemon.setPass id { pass with remaining := rest })
  | submitted {correction : Correction}
      (differs : schedule.correction? daemon.scheduler.zone pass.now state? = some correction)
      (open_ : daemon.scheduler.shut = false) :
      PassMoved daemon id state? pass schedule rest (some correction)
        ((daemon.withCorrection correction).setPass id
          { pass with remaining := rest, corrections := pass.corrections + 1 })

theorem answerPass?_eq_some {id : Nat} {state? : Option ResourceState}
    {correction? : Option Correction}
    (answered : daemon.answerPass? id state? = some (after, correction?)) :
    ∃ pass schedule rest, daemon.pass? id = some pass ∧ pass.remaining = schedule :: rest ∧
      PassMoved daemon id state? pass schedule rest correction? after := by
  obtain ⟨pass, found, more⟩ := Option.bind_eq_some_iff.mp answered
  obtain ⟨schedule, asked, taken⟩ := Option.bind_eq_some_iff.mp more
  obtain ⟨rest, remaining⟩ := List.head?_eq_some_iff.mp asked
  refine ⟨pass, schedule, rest, found, remaining, ?_⟩
  simp only [Pass.answer, remaining] at taken
  -- an answer calls for nothing, or for a correction that is taken or refused
  cases called : schedule.correction? daemon.scheduler.zone pass.now state? with
  | none =>
    rw [called] at taken
    cases taken
    exact .none called
  | some correction =>
    rw [called] at taken
    simp only [submit_eq] at taken
    cases open_ : daemon.scheduler.shut with
    | true =>
      rw [open_] at taken
      cases taken
      exact .refused called open_
    | false =>
      rw [open_] at taken
      cases taken
      exact .submitted called open_

theorem endPass?_eq_some {id corrections : Nat}
    (ended : daemon.endPass? id = some (after, corrections)) :
    ∃ pass, daemon.pass? id = some pass ∧ pass.remaining = [] ∧ corrections = pass.corrections ∧
      after = { daemon with
        passes := daemon.passes.filter (·.1 ≠ id)
        results := pass.corrections :: daemon.results } := by
  obtain ⟨pass, found, taken⟩ := Option.bind_eq_some_iff.mp ended
  refine ⟨pass, found, ?_⟩
  split at taken
  next empty =>
    cases taken
    exact ⟨List.isEmpty_iff.mp empty, rfl, rfl⟩
  next => cases taken

theorem pass?_setPass {id : Nat} {pass : Pass} (found : daemon.pass? id = some pass)
    (next : Pass) : (daemon.setPass id next).pass? id = some next := by
  unfold pass? setPass at *
  dsimp only
  generalize daemon.passes = entries at found ⊢
  induction entries with
  | nil => cases found
  | cons entry entries ih =>
    obtain ⟨number, old⟩ := entry
    by_cases same : id = number
    · simp [same]
    · rw [List.lookup_cons, beq_false_of_ne same] at found
      rw [List.map_cons, List.lookup_cons, beq_false_of_ne same]
      exact ih found

theorem pass?_beginPass (numbered : ∀ entry ∈ daemon.passes, entry.1 < daemon.nextPass)
    (now : Instant) : (daemon.beginPass now).1.pass? daemon.nextPass =
      some (Pass.begin now daemon.schedules) := by
  unfold pass? beginPass
  dsimp only
  generalize daemon.nextPass = number at numbered ⊢
  generalize daemon.passes = entries at numbered ⊢
  induction entries with
  | nil => simp
  | cons entry entries ih =>
    obtain ⟨earlier, later⟩ := List.forall_mem_cons.mp numbered
    rw [List.cons_append, List.lookup_cons, beq_false_of_ne (Nat.ne_of_gt earlier)]
    exact ih later

theorem pass?_of_ended (daemon : Daemon Other) (id : Nat) (results : List Nat) :
    Daemon.pass? { daemon with passes := daemon.passes.filter (·.1 ≠ id), results } id = none := by
  unfold pass?
  rw [List.lookup_eq_none_iff]
  intro entry member
  have apart : entry.1 ≠ id := of_decide_eq_true (List.mem_filter.mp member).2
  exact bne_iff_ne.mpr apart.symm

theorem exists_answerPass? {id : Nat} {pass : Pass} (found : daemon.pass? id = some pass)
    {schedule : Schedule} {rest : List Schedule} (remaining : pass.remaining = schedule :: rest)
    (state? : Option ResourceState) :
    ∃ after correction?, daemon.answerPass? id state? = some (after, correction?) := by
  simp only [answerPass?, found, Pass.asked?, Pass.answer, remaining, List.head?_cons,
    Option.bind_eq_bind, Option.bind_some, submit_eq]
  split
  · exact ⟨_, _, rfl⟩
  · cases daemon.scheduler.shut <;> exact ⟨_, _, rfl⟩

theorem endPass?_of_remaining {id : Nat} {pass : Pass} (found : daemon.pass? id = some pass)
    (remaining : pass.remaining = []) :
    daemon.endPass? id = some ({ daemon with
      passes := daemon.passes.filter (·.1 ≠ id)
      results := pass.corrections :: daemon.results }, pass.corrections) := by
  simp [endPass?, found, remaining]

/-! What every move keeps. -/

structure Coherent (daemon : Daemon Other) : Prop where
  scheduler : daemon.scheduler.Tidy
  handed : ∀ execution ∈ daemon.scheduler.executions,
    execution.timer < daemon.scheduler.nextId
  executor : daemon.executor.Coherent
  claims : daemon.claims.map (·.invocation) = daemon.executor.active.map (·.id)
  passes : ∀ entry ∈ daemon.passes, entry.1 < daemon.nextPass

namespace Coherent

theorem exists_claim (coherent : daemon.Coherent) {invocation : Invocation}
    (member : invocation ∈ daemon.executor.active) :
    ∃ claim, daemon.claim? invocation.id = some claim := by
  have listed : invocation.id ∈ daemon.claims.map (·.invocation) := by
    rw [coherent.claims]
    exact List.mem_map_of_mem member
  obtain ⟨claim, known, same⟩ := List.mem_map.mp listed
  cases found : daemon.claim? invocation.id with
  | some claim => exact ⟨claim, rfl⟩
  | none => exact absurd (beq_iff_eq.mpr same) (List.find?_eq_none.mp found claim known)

theorem claims_conclude (coherent : daemon.Coherent) (id : Nat) :
    (daemon.claims.filter (·.invocation ≠ id)).map (·.invocation) =
      (daemon.executor.active.filter (·.id ≠ id)).map (·.id) := by
  have claims := congrArg (List.filter (· ≠ id)) coherent.claims
  rwa [List.filter_map, List.filter_map] at claims

theorem moved (coherent : daemon.Coherent) {move : SchedulerMove (Work Other)}
    {scheduler : Scheduler (Work Other)} (moved : daemon.scheduler.Moved move scheduler) :
    Coherent { daemon with scheduler } :=
  { coherent with
    scheduler := moved.tidy coherent.scheduler
    handed := moved.executions_numbered coherent.scheduler.sound coherent.handed }

theorem afterEnd (coherent : daemon.Coherent) (execution? : Option Nat) :
    Coherent { daemon with scheduler := daemon.scheduler.afterEnd execution? } := by
  rcases daemon.scheduler.afterEnd_eq_or_moved execution? with same | ⟨_, moved⟩
  · rw [same]
    exact coherent
  · exact coherent.moved moved

theorem report (coherent : daemon.Coherent) (execution : Option Nat) (report : Report) :
    (daemon.report execution report).Coherent := by
  rw [report_eq]
  exact { coherent.afterEnd execution with }

theorem conclude (coherent : daemon.Coherent) {invocation : Invocation}
    (member : invocation ∈ daemon.executor.active) :
    Coherent { daemon with
      executor := daemon.executor.conclude invocation
      claims := daemon.claims.filter (·.invocation ≠ invocation.id) } :=
  { coherent with
    executor := coherent.executor.conclude member
    claims := coherent.claims_conclude invocation.id }

theorem settle (coherent : daemon.Coherent) {id : Nat} {claim : Claim}
    (claimed : daemon.claim? id = some claim) {invocation : Invocation}
    (found : daemon.executor.invocation? id = some invocation) (outcome : Outcome) :
    (Daemon.settle { daemon with executor := daemon.executor.conclude invocation } claim
      outcome).Coherent := by
  obtain ⟨member, rfl⟩ := Executor.mem_of_invocation? found
  obtain ⟨_, same⟩ := mem_of_claim? claimed
  have concluded := coherent.conclude member
  rw [← same] at concluded
  exact concluded.report _ _

theorem invoke (coherent : daemon.Coherent) (execution : Option Nat) (resource : Resource)
    (label : String) : (daemon.invoke execution resource label).1.Coherent := by
  rcases daemon.executor.begin_cases resource label with
    ⟨outcome, ended⟩ | ⟨action, rfl, free, entered⟩
  · rw [invoke_of_ended ended]
    exact coherent.report _ _
  · rw [invoke_of_entered entered]
    refine { coherent with executor := coherent.executor.enter free, claims := ?_ }
    simp only [Executor.enter, List.map_append, List.map_singleton, coherent.claims]

theorem operate (coherent : daemon.Coherent) (id : Nat) (deadline : Instant) :
    Coherent { daemon with executor := daemon.executor.operate id deadline } := by
  refine { coherent with executor := coherent.executor.operate id deadline, claims := ?_ }
  simp only [Executor.operate, List.map_map, coherent.claims]
  apply List.map_congr_left
  intro other _
  by_cases same : other.id = id <;> simp [same]

theorem answerState (coherent : daemon.Coherent) {id : Nat} {state? : Option ResourceState}
    {progress : Progress}
    (answered : daemon.answerState? id state? = some (after, progress)) : after.Coherent := by
  obtain ⟨claim, executor, claimed, heard, went⟩ := answerState?_eq_some answered
  obtain ⟨invocation, found, ⟨reason, _, ended, rfl⟩ | ⟨deadline, called, rfl⟩⟩ :=
    Executor.answerState?_eq_some heard
  · rcases went with ⟨call, called, _⟩ | ⟨outcome, _, rfl⟩
    · cases ended.symm.trans called
    · exact coherent.settle claimed found outcome
  · rcases went with ⟨_, _, rfl⟩ | ⟨outcome, ended, _⟩
    · exact coherent.operate id deadline
    · cases ended.symm.trans called

theorem answerOperation (coherent : daemon.Coherent) {id : Nat} {success : Bool}
    {outcome : Outcome} (answered : daemon.answerOperation? id success = some (after, outcome)) :
    after.Coherent := by
  obtain ⟨claim, executor, claimed, heard, rfl⟩ := answerOperation?_eq_some answered
  obtain ⟨invocation, found, _, rfl⟩ := Executor.answerOperation?_eq_some heard
  exact coherent.settle claimed found outcome

theorem expire (coherent : daemon.Coherent) {id : Nat} {outcome : Outcome}
    (expired : daemon.expire? id = some (after, outcome)) : after.Coherent := by
  obtain ⟨claim, executor, claimed, ended, rfl⟩ := expire?_eq_some expired
  obtain ⟨invocation, found, _, rfl⟩ := Executor.expire?_eq_some ended
  exact coherent.settle claimed found outcome

theorem abort (coherent : daemon.Coherent) {id : Nat} (aborted : daemon.abort? id = some after) :
    after.Coherent := by
  obtain ⟨claim, executor, claimed, ended, rfl⟩ := abort?_eq_some aborted
  obtain ⟨invocation, found, rfl⟩ := Executor.abort?_eq_some ended
  obtain ⟨member, rfl⟩ := Executor.mem_of_invocation? found
  exact (coherent.conclude member).afterEnd claim.execution

theorem setPass (coherent : daemon.Coherent) (id : Nat) (pass : Pass) :
    (daemon.setPass id pass).Coherent := by
  refine { coherent with passes := fun entry member => ?_ }
  obtain ⟨old, known, rfl⟩ := List.mem_map.mp member
  exact coherent.passes old known

theorem withCorrection (coherent : daemon.Coherent) (open_ : daemon.scheduler.shut = false)
    (correction : Correction) : (daemon.withCorrection correction).Coherent :=
  { coherent.moved (.addOneShot ⟨open_, correction.jobName_ne_empty⟩) with }

theorem answerPass (coherent : daemon.Coherent) {id : Nat} {state? : Option ResourceState}
    {correction? : Option Correction}
    (answered : daemon.answerPass? id state? = some (after, correction?)) : after.Coherent := by
  obtain ⟨pass, schedule, rest, _, _, moved⟩ := answerPass?_eq_some answered
  cases moved with
  | none | refused => exact coherent.setPass ..
  | submitted _ open_ => exact (coherent.withCorrection open_ _).setPass ..

theorem beginPass (coherent : daemon.Coherent) (now : Instant) :
    (daemon.beginPass now).1.Coherent := by
  refine { coherent with passes := fun entry member => ?_ }
  rcases List.mem_append.mp member with known | new
  · exact Nat.lt_succ_of_lt (coherent.passes entry known)
  · rw [List.mem_singleton.mp new]
    exact Nat.lt_succ_self _

theorem endPass (coherent : daemon.Coherent) {id corrections : Nat}
    (ended : daemon.endPass? id = some (after, corrections)) : after.Coherent := by
  obtain ⟨pass, _, _, _, rfl⟩ := endPass?_eq_some ended
  exact { coherent with
    passes := fun entry member => coherent.passes entry (List.mem_filter.mp member).1 }

theorem move (coherent : daemon.Coherent) {move : DaemonMove Other}
    (moved : daemon.move? move = some after) : after.Coherent := by
  cases move with
  | scheduler move =>
    obtain ⟨scheduler, made, rfl⟩ := Option.map_eq_some_iff.mp moved
    exact coherent.moved (Scheduler.move?_moved made)
  | invoke execution resource action =>
    cases moved
    exact coherent.invoke ..
  | answerState id state? =>
    obtain ⟨⟨_, _⟩, answered, rfl⟩ := Option.map_eq_some_iff.mp moved
    exact coherent.answerState answered
  | answerOperation id success =>
    obtain ⟨⟨_, _⟩, answered, rfl⟩ := Option.map_eq_some_iff.mp moved
    exact coherent.answerOperation answered
  | expire id =>
    obtain ⟨⟨_, _⟩, expired, rfl⟩ := Option.map_eq_some_iff.mp moved
    exact coherent.expire expired
  | abort id => exact coherent.abort moved
  | reschedule schedules =>
    cases moved
    exact { coherent with }
  | beginPass now =>
    cases moved
    exact coherent.beginPass now
  | answerPass id state? =>
    obtain ⟨⟨_, _⟩, answered, rfl⟩ := Option.map_eq_some_iff.mp moved
    exact coherent.answerPass answered
  | endPass id =>
    obtain ⟨⟨_, _⟩, ended, rfl⟩ := Option.map_eq_some_iff.mp moved
    exact coherent.endPass ended

end Coherent

theorem Reachable.coherent {settings : SchedulerSettings} {dryRun : Bool}
    (reachable : Reachable settings dryRun daemon) : daemon.Coherent := by
  induction reachable with
  | start clock timeout schedules =>
    exact ⟨Scheduler.start_tidy settings clock, List.forall_mem_nil _, .start dryRun timeout, rfl,
      List.forall_mem_nil _⟩
  | move _ moved ih => exact ih.move moved

/-- A move of the daemon is a step of its executor or leaves the executor alone. -/
theorem executor_step {move : DaemonMove Other} (moved : daemon.move? move = some after) :
    after.executor = daemon.executor ∨
      ∃ event outcome?, daemon.executor.step? event = some (after.executor, outcome?) := by
  have settled (daemon : Daemon Other) (claim : Claim) (outcome : Outcome) :
      (daemon.settle claim outcome).executor = daemon.executor := by
    unfold settle
    rw [report_eq]
  -- only invocations step the executor; the scheduler and the passes leave it alone
  cases move with
  | scheduler move =>
    obtain ⟨scheduler, _, rfl⟩ := Option.map_eq_some_iff.mp moved
    exact Or.inl rfl
  | invoke execution resource action =>
    cases moved
    refine Or.inr ⟨.begin resource action, (daemon.executor.begin resource action).2.outcome?, ?_⟩
    rcases daemon.executor.begin_cases resource action with
      ⟨outcome, ended⟩ | ⟨action, rfl, _, entered⟩
    · rw [invoke_of_ended ended, report_eq]
      simp only [Executor.step?, ended]
    · rw [invoke_of_entered entered]
      simp only [Executor.step?, entered]
  | answerState id state? =>
    obtain ⟨⟨_, _⟩, answered, rfl⟩ := Option.map_eq_some_iff.mp moved
    obtain ⟨claim, executor, _, heard, went⟩ := answerState?_eq_some answered
    have stepped := Executor.step?_answerState heard
    obtain ⟨_, _, rfl⟩ | ⟨outcome, _, rfl⟩ := went
    · exact Or.inr ⟨_, _, stepped⟩
    · rw [settled]
      exact Or.inr ⟨_, _, stepped⟩
  | answerOperation id success =>
    obtain ⟨⟨_, _⟩, answered, rfl⟩ := Option.map_eq_some_iff.mp moved
    obtain ⟨claim, executor, _, heard, rfl⟩ := answerOperation?_eq_some answered
    rw [settled]
    exact Or.inr ⟨.answerOperation id success, _, by rw [Executor.step?, heard]; rfl⟩
  | expire id =>
    obtain ⟨⟨_, _⟩, expired, rfl⟩ := Option.map_eq_some_iff.mp moved
    obtain ⟨claim, executor, _, ended, rfl⟩ := expire?_eq_some expired
    rw [settled]
    exact Or.inr ⟨.expire id daemon.scheduler.clock, _, by rw [Executor.step?, ended]; rfl⟩
  | abort id =>
    obtain ⟨claim, executor, _, ended, rfl⟩ := abort?_eq_some moved
    exact Or.inr ⟨.abort id, _, by rw [Executor.step?, ended]; rfl⟩
  | reschedule schedules =>
    cases moved
    exact Or.inl rfl
  | beginPass now =>
    cases moved
    exact Or.inl rfl
  | answerPass id state? =>
    obtain ⟨⟨_, _⟩, answered, rfl⟩ := Option.map_eq_some_iff.mp moved
    obtain ⟨pass, schedule, rest, _, _, went⟩ := answerPass?_eq_some answered
    cases went <;> exact Or.inl rfl
  | endPass id =>
    obtain ⟨⟨_, _⟩, ended, rfl⟩ := Option.map_eq_some_iff.mp moved
    obtain ⟨pass, _, _, _, rfl⟩ := endPass?_eq_some ended
    exact Or.inl rfl

theorem Reachable.executor {settings : SchedulerSettings} {dryRun : Bool}
    (reachable : Reachable settings dryRun daemon) :
    ∃ timeout, Executor.Reachable dryRun timeout daemon.executor := by
  induction reachable with
  | start clock timeout schedules => exact ⟨timeout, .start⟩
  | move _ moved ih =>
    obtain ⟨timeout, before⟩ := ih
    refine ⟨timeout, ?_⟩
    rcases executor_step moved with same | ⟨event, outcome?, stepped⟩
    · rw [same]
      exact before
    · exact .step before stepped

end Daemon

end PowerRota
