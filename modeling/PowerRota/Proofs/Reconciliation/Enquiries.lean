import PowerRota.Proofs.Daemon.Run

/-! One pass of reconciliation, enquiry by enquiry.

A pass asks about its schedules one after the other, while the daemon goes on with everything
else. What an answer leads to depends on that answer alone, on what is expected of its schedule,
and on whether the scheduler takes jobs at that moment. -/

set_option autoImplicit false

namespace PowerRota

open PowerRota.Calendar

/-! What an answer calls for. -/

theorem ResourceState.targetOf_injective : Function.Injective targetOf := by
  intro first second same
  cases first <;> cases second <;> first | rfl | cases same

theorem Schedule.exists_of_expectedState {schedule : Schedule} {zone : Zone} {now : Instant}
    {state : ResourceState} (expected : schedule.expectedState zone now = some state) :
    ∃ action, state = .targetOf action := by
  have stable : state = .running ∨ state = .stopped := by
    unfold expectedState at expected
    repeat' split at expected
    all_goals cases expected
    all_goals simp
  rcases stable with rfl | rfl
  · exact ⟨.start, rfl⟩
  · exact ⟨.stop, rfl⟩

/-- The answer is a stable state other than the one that is expected. -/
structure Schedule.Drifts (schedule : Schedule) (zone : Zone) (now : Instant)
    (answer? : Option ResourceState) (expected : ResourceState) : Prop where
  implied : schedule.expectedState zone now = some expected
  answered : ∃ actual, answer? = some actual ∧ actual.isTransitional = false ∧ actual ≠ expected

theorem Schedule.correction?_eq_some_iff {schedule : Schedule} {zone : Zone} {now : Instant}
    {answer? : Option ResourceState} {correction : Correction} :
    schedule.correction? zone now answer? = some correction ↔
      ∃ action, correction = ⟨schedule, action⟩ ∧
        schedule.Drifts zone now answer? (.targetOf action) := by
  unfold correction?
  constructor
  · intro called
    obtain ⟨actual, answered, called⟩ := Option.bind_eq_some_iff.mp called
    split at called
    next => cases called
    next stable =>
      obtain ⟨expected, implied, called⟩ := Option.bind_eq_some_iff.mp called
      split at called
      next => cases called
      next differs =>
        obtain ⟨action, reached, called⟩ := Option.bind_eq_some_iff.mp called
        cases called
        cases ResourceState.reachedBy?_eq_some_iff.mp reached
        exact ⟨action, rfl, implied, actual, answered, eq_false_of_ne_true stable, differs⟩
  · rintro ⟨action, rfl, implied, actual, rfl, stable, differs⟩
    have reached : (ResourceState.targetOf action).reachedBy? = some action :=
      ResourceState.reachedBy?_eq_some_iff.mpr rfl
    simp [stable, implied, differs, reached]

/-- The move neither brings the pass an answer nor ends it. -/
def DaemonMove.Spares {Other : Type} (id : Nat) : DaemonMove Other → Prop
  | .answerPass pass _ => pass ≠ id
  | .endPass pass => pass ≠ id
  | _ => True

namespace Daemon

variable {Other : Type} {daemon after : Daemon Other} {id : Nat}

/-- A pass goes on as it was. -/
structure Spares (daemon : Daemon Other) (id : Nat) (after : Daemon Other) : Prop where
  pass : after.pass? id = daemon.pass? id
  zone : after.scheduler.zone = daemon.scheduler.zone
  nextPass : daemon.nextPass ≤ after.nextPass

theorem pass?_setPass_of_ne {other : Nat} (apart : other ≠ id) (next : Pass) :
    (daemon.setPass other next).pass? id = daemon.pass? id := by
  unfold pass? setPass
  dsimp only
  generalize daemon.passes = entries
  induction entries with
  | nil => rfl
  | cons entry entries ih =>
    obtain ⟨number, old⟩ := entry
    rw [List.map_cons, List.lookup_cons, List.lookup_cons, ih]
    by_cases same : id = number
    · subst same
      simp [apart.symm]
    · simp only [beq_false_of_ne same]

theorem pass?_of_filter {other : Nat} (apart : other ≠ id) (daemon : Daemon Other)
    (results : List Nat) :
    Daemon.pass? { daemon with passes := daemon.passes.filter (·.1 ≠ other), results } id =
      daemon.pass? id := by
  unfold pass?
  dsimp only
  generalize daemon.passes = entries
  induction entries with
  | nil => rfl
  | cons entry entries ih =>
    obtain ⟨number, old⟩ := entry
    by_cases same : number = other
    · subst same
      rw [List.filter_cons_of_neg (by simp), ih, List.lookup_cons, beq_false_of_ne apart.symm]
    · rw [List.filter_cons_of_pos (by simpa using same), List.lookup_cons, List.lookup_cons, ih]

theorem pass?_beginPass_of_lt (known : id < daemon.nextPass) (now : Instant) :
    (daemon.beginPass now).1.pass? id = daemon.pass? id := by
  unfold pass? beginPass
  dsimp only
  rw [List.lookup_append, List.lookup_cons, beq_false_of_ne (Nat.ne_of_lt known)]
  simp

theorem zone_afterEnd (scheduler : Scheduler (Work Other)) (execution? : Option Nat) :
    (scheduler.afterEnd execution?).zone = scheduler.zone := by
  rcases scheduler.afterEnd_eq_or_moved execution? with same | ⟨_, moved⟩
  · rw [same]
  · exact moved.zone

theorem spares_settle (daemon : Daemon Other) (executor : Executor) (claim : Claim)
    (outcome : Outcome) (id : Nat) :
    daemon.Spares id (settle { daemon with executor } claim outcome) := by
  unfold settle
  rw [report_eq]
  exact ⟨rfl, zone_afterEnd .., Nat.le_refl _⟩

theorem spares_of_move {move : DaemonMove Other} (spares : move.Spares id)
    (known : id < daemon.nextPass) (moved : daemon.move? move = some after) :
    daemon.Spares id after := by
  cases move with
  | scheduler move =>
    obtain ⟨scheduler, made, rfl⟩ := Option.map_eq_some_iff.mp moved
    exact ⟨rfl, (Scheduler.move?_moved made).zone, Nat.le_refl _⟩
  | invoke execution resource action =>
    cases moved
    rcases daemon.executor.begin_cases resource action with
      ⟨outcome, ended⟩ | ⟨action, rfl, _, entered⟩
    · rw [invoke_of_ended ended, report_eq]
      exact ⟨rfl, zone_afterEnd .., Nat.le_refl _⟩
    · rw [invoke_of_entered entered]
      exact ⟨rfl, rfl, Nat.le_refl _⟩
  | answerState invocation state? =>
    obtain ⟨⟨_, _⟩, answered, rfl⟩ := Option.map_eq_some_iff.mp moved
    obtain ⟨claim, executor, _, _, ⟨_, _, rfl⟩ | ⟨outcome, _, rfl⟩⟩ :=
      answerState?_eq_some answered
    · exact ⟨rfl, rfl, Nat.le_refl _⟩
    · exact spares_settle daemon executor claim outcome id
  | answerOperation invocation success =>
    obtain ⟨⟨_, _⟩, answered, rfl⟩ := Option.map_eq_some_iff.mp moved
    obtain ⟨claim, executor, _, _, rfl⟩ := answerOperation?_eq_some answered
    exact spares_settle daemon executor claim _ id
  | expire invocation =>
    obtain ⟨⟨_, _⟩, expired, rfl⟩ := Option.map_eq_some_iff.mp moved
    obtain ⟨claim, executor, _, _, rfl⟩ := expire?_eq_some expired
    exact spares_settle daemon executor claim _ id
  | abort invocation =>
    obtain ⟨claim, executor, _, _, rfl⟩ := abort?_eq_some moved
    exact ⟨rfl, zone_afterEnd .., Nat.le_refl _⟩
  | reschedule schedules =>
    cases moved
    exact ⟨rfl, rfl, Nat.le_refl _⟩
  -- a new pass gets a number of its own
  | beginPass now =>
    cases moved
    exact ⟨pass?_beginPass_of_lt known now, rfl, Nat.le_succ _⟩
  | answerPass other state? =>
    obtain ⟨⟨_, _⟩, answered, rfl⟩ := Option.map_eq_some_iff.mp moved
    obtain ⟨pass, schedule, rest, _, _, went⟩ := answerPass?_eq_some answered
    cases went with
    | none | refused => exact ⟨pass?_setPass_of_ne spares _, rfl, Nat.le_refl _⟩
    | submitted => exact ⟨pass?_setPass_of_ne spares _, rfl, Nat.le_refl _⟩
  | endPass other =>
    obtain ⟨⟨_, _⟩, ended, rfl⟩ := Option.map_eq_some_iff.mp moved
    obtain ⟨pass, _, _, _, rfl⟩ := endPass?_eq_some ended
    exact ⟨pass?_of_filter spares daemon _, rfl, Nat.le_refl _⟩

end Daemon

/-! Enquiries. -/

/-- A question of a pass that was answered, and the daemon before and after the answer. -/
structure Enquiry (Other : Type) where
  schedule : Schedule
  answer? : Option ResourceState
  correction? : Option Correction
  before : Daemon Other
  after : Daemon Other

namespace Enquiry

variable {Other : Type} {enquiry : Enquiry Other} {zone : Zone} {now : Instant} {id : Nat}

/-- A single job beside the managed ones brings the resource into the state that the action is
for, and one correction is counted. -/
structure Submits (enquiry : Enquiry Other) (action : Action) : Prop where
  correction : enquiry.correction? = some ⟨enquiry.schedule, action⟩
  job : enquiry.after.scheduler = enquiry.before.scheduler.insert
    (enquiry.schedule.name ++ ":validator:" ++ action.label) false .once
    (.order ⟨enquiry.schedule, action.label⟩)
  counted : enquiry.after.metrics = enquiry.before.metrics.increment
    (.correction enquiry.schedule.resource.kind action.label)

/-- What an answer has led to: a job where the state drifts and the scheduler takes jobs, and
nothing otherwise. -/
structure Settled (enquiry : Enquiry Other) (zone : Zone) (now : Instant) (id : Nat) : Prop where
  corrected : ∀ expected, enquiry.schedule.Drifts zone now enquiry.answer? expected →
    enquiry.before.scheduler.shut = false →
    ∃ action, expected = .targetOf action ∧ enquiry.Submits action
  spared : (∀ expected, ¬ enquiry.schedule.Drifts zone now enquiry.answer? expected) ∨
      enquiry.before.scheduler.shut = true →
    enquiry.correction? = none ∧ enquiry.after.scheduler = enquiry.before.scheduler ∧
      enquiry.after.metrics = enquiry.before.metrics
  managed : enquiry.after.scheduler.managed = enquiry.before.scheduler.managed
  others : ∀ other, other ≠ id → enquiry.after.pass? other = enquiry.before.pass? other
  rest : enquiry.after = { enquiry.before with
    scheduler := enquiry.after.scheduler
    metrics := enquiry.after.metrics
    passes := enquiry.after.passes }

theorem settled_of_setPass {before : Daemon Other} {answer? : Option ResourceState}
    {schedule : Schedule}
    (idle : ∀ expected, schedule.Drifts zone now answer? expected → before.scheduler.shut = true)
    (next : Pass) :
    Settled ⟨schedule, answer?, none, before, before.setPass id next⟩ zone now id where
  corrected expected drifts open_ := by cases open_.symm.trans (idle expected drifts)
  spared _ := ⟨rfl, rfl, rfl⟩
  managed := rfl
  others _ apart := Daemon.pass?_setPass_of_ne apart.symm next
  rest := rfl

theorem settled_of_passMoved {before after : Daemon Other} {answer? : Option ResourceState}
    {correction? : Option Correction} {pass : Pass} {schedule : Schedule} {rest : List Schedule}
    (moved : before.PassMoved id answer? pass schedule rest correction? after) :
    Settled ⟨schedule, answer?, correction?, before, after⟩ before.scheduler.zone pass.now id := by
  cases moved with
  | none fits =>
    apply settled_of_setPass
    intro expected drifts
    obtain ⟨action, rfl⟩ := Schedule.exists_of_expectedState drifts.implied
    cases fits.symm.trans (Schedule.correction?_eq_some_iff.mpr ⟨action, rfl, drifts⟩)
  | refused _ shut => exact settled_of_setPass (fun _ _ => shut) _
  | submitted differs open_ =>
    obtain ⟨action, rfl, drifts⟩ := Schedule.correction?_eq_some_iff.mp differs
    exact {
      corrected := fun expected also _ =>
        ⟨action, Option.some.inj (also.implied.symm.trans drifts.implied), rfl, rfl, rfl⟩
      spared := fun idle =>
        absurd idle (not_or.mpr ⟨fun steady => steady _ drifts, Bool.eq_false_iff.mp open_⟩)
      managed := by
        simp [Daemon.setPass, Daemon.withCorrection, Scheduler.insert, Scheduler.managed,
          Scheduler.registered]
      others := fun _ apart => Daemon.pass?_setPass_of_ne apart.symm _
      rest := rfl }

end Enquiry

namespace Daemon

variable {Other : Type} {first daemon after : Daemon Other} {now : Instant}
  {enquiries : List (Enquiry Other)}

/-- What a pass that begins at `first` has asked so far, and how the daemon stands by then.
Anything else may go on between the answers. -/
inductive Underway (first : Daemon Other) (now : Instant) :
    List (Enquiry Other) → Daemon Other → Prop where
  | begun : Underway first now [] (first.beginPass now).1
  | aside {enquiries : List (Enquiry Other)} {daemon after : Daemon Other}
      {move : DaemonMove Other} (underway : Underway first now enquiries daemon)
      (spares : move.Spares first.nextPass) (moved : daemon.move? move = some after) :
      Underway first now enquiries after
  | answered {enquiries : List (Enquiry Other)} {daemon after : Daemon Other} {pass : Pass}
      {schedule : Schedule} {answer? : Option ResourceState} {correction? : Option Correction}
      (underway : Underway first now enquiries daemon)
      (found : daemon.pass? first.nextPass = some pass) (asked : pass.asked? = some schedule)
      (answered : daemon.answerPass? first.nextPass answer? = some (after, correction?)) :
      Underway first now (enquiries ++ [⟨schedule, answer?, correction?, daemon, after⟩]) after

/-- How a pass stands that still has to ask about `rest`. -/
structure Standing (first : Daemon Other) (now : Instant) (enquiries : List (Enquiry Other))
    (rest : List Schedule) (daemon : Daemon Other) : Prop where
  inOrder : first.schedules.filter Schedule.isReconcilable = enquiries.map (·.schedule) ++ rest
  pass : daemon.pass? first.nextPass =
    some ⟨now, rest, enquiries.countP (·.correction?.isSome)⟩
  known : first.nextPass < daemon.nextPass
  zone : daemon.scheduler.zone = first.scheduler.zone
  settled : ∀ enquiry ∈ enquiries, enquiry.Settled first.scheduler.zone now first.nextPass

theorem Standing.aside {rest : List Schedule} {move : DaemonMove Other}
    (standing : Standing first now enquiries rest daemon) (spares : move.Spares first.nextPass)
    (moved : daemon.move? move = some after) : Standing first now enquiries rest after :=
  have spares := spares_of_move spares standing.known moved
  { standing with
    pass := spares.pass.trans standing.pass
    known := Nat.lt_of_lt_of_le standing.known spares.nextPass
    zone := spares.zone.trans standing.zone }

theorem Standing.answer {schedule : Schedule} {rest : List Schedule}
    (standing : Standing first now enquiries (schedule :: rest) daemon)
    {answer? : Option ResourceState} {correction? : Option Correction}
    (answered : daemon.answerPass? first.nextPass answer? = some (after, correction?)) :
    Standing first now (enquiries ++ [⟨schedule, answer?, correction?, daemon, after⟩]) rest
      after := by
  obtain ⟨pass, asked, later, found, remaining, moved⟩ := answerPass?_eq_some answered
  cases standing.pass.symm.trans found
  cases remaining
  have settled : ∀ enquiry ∈ enquiries ++ [⟨schedule, answer?, correction?, daemon, after⟩],
      enquiry.Settled first.scheduler.zone now first.nextPass := by
    rw [List.forall_mem_append, List.forall_mem_singleton]
    exact ⟨standing.settled, standing.zone ▸ Enquiry.settled_of_passMoved moved⟩
  have inOrder : first.schedules.filter Schedule.isReconcilable =
      (enquiries ++ [Enquiry.mk schedule answer? correction? daemon after]).map (·.schedule) ++
        rest := by
    simp [standing.inOrder]
  cases moved with
  | none | refused =>
    exact ⟨inOrder, by simpa using pass?_setPass standing.pass _, standing.known, standing.zone,
      settled⟩
  | @submitted correction =>
    have found : (daemon.withCorrection correction).pass? first.nextPass = some _ := standing.pass
    exact ⟨inOrder, by simpa using pass?_setPass found _, standing.known, standing.zone, settled⟩

theorem Underway.standing (numbered : ∀ entry ∈ first.passes, entry.1 < first.nextPass)
    (underway : Underway first now enquiries daemon) :
    ∃ rest, Standing first now enquiries rest daemon := by
  -- only `answered` moves the pass on; all that goes on aside leaves it as it stands
  induction underway with
  | begun =>
    exact ⟨_, rfl, pass?_beginPass numbered now, Nat.lt_succ_self _, rfl, List.forall_mem_nil _⟩
  | aside _ spares moved ih =>
    obtain ⟨rest, standing⟩ := ih
    exact ⟨rest, standing.aside spares moved⟩
  | answered _ found asked answered ih =>
    obtain ⟨rest, standing⟩ := ih
    cases standing.pass.symm.trans found
    obtain ⟨later, rfl⟩ := List.head?_eq_some_iff.mp asked
    exact ⟨later, standing.answer answered⟩

theorem Standing.answers_iff {rest : List Schedule}
    (standing : Standing first now enquiries rest daemon) (answer? : Option ResourceState) :
    (daemon.answerPass? first.nextPass answer?).isSome = true ↔ rest ≠ [] := by
  rw [Option.isSome_iff_exists]
  constructor
  · rintro ⟨⟨after, correction?⟩, answered⟩
    obtain ⟨pass, schedule, later, found, remaining, -⟩ := answerPass?_eq_some answered
    cases standing.pass.symm.trans found
    cases remaining
    exact List.cons_ne_nil _ _
  · intro more
    obtain ⟨schedule, later, rfl⟩ := List.exists_cons_of_ne_nil more
    obtain ⟨after, correction?, answered⟩ := exists_answerPass? standing.pass rfl answer?
    exact ⟨_, answered⟩

theorem Standing.ends_iff {rest : List Schedule}
    (standing : Standing first now enquiries rest daemon) :
    (daemon.endPass? first.nextPass).isSome = true ↔ rest = [] := by
  constructor
  · intro ends
    obtain ⟨⟨after, corrections⟩, ended⟩ := Option.isSome_iff_exists.mp ends
    obtain ⟨pass, found, remaining, -⟩ := endPass?_eq_some ended
    cases standing.pass.symm.trans found
    exact remaining
  · rintro rfl
    rw [endPass?_of_remaining standing.pass rfl]
    rfl

/-- A pass has asked about its schedules in their order. Those with an interval or a single
moment among their triggers are not its schedules. -/
structure Conducted (first : Daemon Other) (now : Instant) (enquiries : List (Enquiry Other))
    (daemon : Daemon Other) : Prop where
  inOrder : ∃ rest, first.schedules.filter Schedule.isReconcilable =
      enquiries.map (·.schedule) ++ rest ∧
    (∀ pass, daemon.pass? first.nextPass = some pass → pass.asked? = rest.head?) ∧
    (∀ answer?, (daemon.answerPass? first.nextPass answer?).isSome = true ↔ rest ≠ []) ∧
    ((daemon.endPass? first.nextPass).isSome = true ↔ rest = [])
  settled : ∀ enquiry ∈ enquiries, enquiry.Settled first.scheduler.zone now first.nextPass
  ended : ∀ after corrections, daemon.endPass? first.nextPass = some (after, corrections) →
    corrections = enquiries.countP (·.correction?.isSome) ∧
      after = { daemon with
        passes := daemon.passes.filter (·.1 ≠ first.nextPass)
        results := corrections :: daemon.results }

theorem Standing.conducted {rest : List Schedule}
    (standing : Standing first now enquiries rest daemon) :
    Conducted first now enquiries daemon where
  inOrder := by
    refine ⟨rest, standing.inOrder, fun pass found => ?_, standing.answers_iff, standing.ends_iff⟩
    cases standing.pass.symm.trans found
    rfl
  settled := standing.settled
  ended := by
    intro after corrections ended
    obtain ⟨pass, found, -, rfl, rfl⟩ := endPass?_eq_some ended
    cases standing.pass.symm.trans found
    exact ⟨rfl, rfl⟩

end Daemon

end PowerRota
