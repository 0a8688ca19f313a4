import PowerRota.Proofs.Reconciliation.Estate

/-! Reconciliation converges.

What a pass has seen to stays seen to: the resource is in the state expected of it, or one of the
corrections is still on its way there. A correction that is turned away is turned away on account
of another one that is further on. So when nothing is on its way any more, every resource is in
its state, and a second pass has nothing to submit. -/

set_option autoImplicit false

namespace PowerRota.Estate

open PowerRota.Calendar

variable {Other : Type} {outlook : Outlook} {pass : Nat} {estate after : Estate Other}
  {site : Site} {state : ResourceState} {invocation : Invocation}

/-- A resource is in a state, or a correction is on its way there: with a timer, in an execution
that has not begun to act, or as an invocation. -/
inductive Attended (estate : Estate Other) (site : Site) (state : ResourceState) : Prop where
  | reached (same : estate.states site = state)
  | served {invocation : Invocation} (member : invocation ∈ estate.daemon.executor.active)
      (here : invocation.site = site)
  | handed {execution : Execution (Work Other)}
      (member : execution ∈ estate.daemon.scheduler.executions)
      (ours : execution.timer ∈ estate.submitted)
      (unclaimed : ∀ claim ∈ estate.daemon.claims, claim.execution ≠ some execution.id)
      {order : Order} (body : execution.body = .order order)
      (here : .of order.schedule.resource = site)
  | timed {timer : Timer (Work Other)} (member : timer ∈ estate.daemon.scheduler.timers)
      (ours : timer.id ∈ estate.submitted) (unfinished : timer.phase ≠ .finished)
      {order : Order} (body : timer.body = .order order)
      (here : .of order.schedule.resource = site)

namespace Attended

theorem mono (attended : estate.Attended site state)
    (states : after.states site = estate.states site)
    (active : ∀ invocation ∈ estate.daemon.executor.active,
      ∃ other ∈ after.daemon.executor.active, other.site = invocation.site)
    (executions : estate.daemon.scheduler.executions ⊆ after.daemon.scheduler.executions)
    (claims : after.daemon.claims ⊆ estate.daemon.claims)
    (timers : estate.daemon.scheduler.timers ⊆ after.daemon.scheduler.timers)
    (submitted : estate.submitted ⊆ after.submitted) : after.Attended site state := by
  cases attended with
  | reached same => exact .reached (states.trans same)
  | served member here =>
    obtain ⟨other, listed, same⟩ := active _ member
    exact .served listed (same.trans here)
  | handed member ours unclaimed body here =>
    exact .handed (executions member) (submitted ours)
      (fun claim listed => unclaimed claim (claims listed)) body here
  | timed member ours unfinished body here =>
    exact .timed (timers member) (submitted ours) unfinished body here

theorem scheduler (attended : estate.Attended site state) (books : Books outlook estate)
    {move : SchedulerMove (Work Other)} {scheduler : Scheduler (Work Other)}
    (apart : estate.daemon.Apart move scheduler) :
    Attended { estate with daemon := { estate.daemon with scheduler } } site state := by
  cases attended with
  | reached same => exact .reached same
  | served member here => exact .served member here
  | @handed execution member ours unclaimed order body here =>
    have goes_on := apart.waits execution member order body
    exact .handed (apart.moved.keeps_execution member goes_on) ours unclaimed body here
  | @timed timer member ours unfinished order body here =>
    obtain ⟨name, work, job, _⟩ := books.timers timer member ours
    rcases apart.moved.single_goes_on books.coherent.scheduler books.running member job unfinished
      with ⟨next, listed, same, still, waits⟩ | ⟨due, rfl⟩
    · have same_body : next.body = .order order :=
        (still.invokes.trans job.invokes.symm).trans body
      exact .timed listed (same.symm ▸ ours) waits same_body here
    · -- the new execution has an id that no claim can name
      refine .handed (List.mem_append_right _ (List.mem_singleton_self _)) ours ?_ body here
      intro claim listed same
      obtain ⟨execution, known, named, _⟩ := books.claims claim listed
      have old := books.coherent.scheduler.sound.executions_numbered execution known
      rw [Option.some.inj (named.symm.trans same)] at old
      exact Nat.lt_irrefl _ old

theorem invoke (attended : estate.Attended site state) (books : Books outlook estate)
    {execution : Execution (Work Other)}
    (member : execution ∈ estate.daemon.scheduler.executions)
    (ours : execution.timer ∈ estate.submitted) {order : Order}
    (body : execution.body = .order order) :
    Attended { estate with
      daemon :=
        (estate.daemon.invoke (some execution.id) order.schedule.resource order.action).1 }
      site state := by
  obtain ⟨action, _, ⟨occupant, occupies, on_site, turned⟩ | ⟨_, entered⟩⟩ :=
    books.invoke_cases member ours body
  · rw [turned, Daemon.report_eq, Scheduler.afterEnd_of_mem member]
    cases attended with
    | reached same => exact .reached same
    | served listed here => exact .served listed here
    | timed listed mine unfinished is_order here =>
      exact .timed listed mine unfinished is_order here
    | @handed other listed mine unclaimed other_order is_order here =>
      -- the execution that was to act goes, and the occupant stands in for it
      by_cases same : other.id = execution.id
      · obtain rfl := List.inj_on_of_nodup_map
          books.coherent.scheduler.sound.executions_unique listed member same
        cases is_order.symm.trans body
        exact .served occupies (on_site.trans here)
      · have kept : other ∈ estate.daemon.scheduler.executions.filter (·.id ≠ execution.id) :=
          List.mem_filter.mpr ⟨listed, decide_eq_true same⟩
        exact .handed kept mine unclaimed is_order here
  · rw [entered]
    cases attended with
    | reached same => exact .reached same
    | served listed here => exact .served (List.mem_append_left _ listed) here
    | timed listed mine unfinished is_order here =>
      exact .timed listed mine unfinished is_order here
    | @handed other listed mine unclaimed other_order is_order here =>
      by_cases same : other.id = execution.id
      · obtain rfl := List.inj_on_of_nodup_map
          books.coherent.scheduler.sound.executions_unique listed member same
        cases is_order.symm.trans body
        exact .served (List.mem_append_right _ (List.mem_singleton_self _)) here
      · refine .handed listed mine (fun claim among => ?_) is_order here
        rcases List.mem_append.mp among with old | new
        · exact unclaimed claim old
        · rw [List.mem_singleton.mp new]
          exact fun named => same (Option.some.inj named).symm

theorem conclude (attended : estate.Attended site state) (books : Books outlook estate)
    (agrees : outlook.Agrees) (expects : outlook.Expects site state)
    (member : invocation ∈ estate.daemon.executor.active) {claim : Claim}
    (claimed : estate.daemon.claim? invocation.id = some claim) (outcome : Outcome) :
    Attended { estate with
      daemon := Daemon.settle
        { estate.daemon with executor := estate.daemon.executor.conclude invocation } claim
        outcome
      states := Function.update estate.states invocation.site (.targetOf invocation.action) }
      site state := by
  have attained : invocation.site = site →
      Function.update estate.states invocation.site (.targetOf invocation.action) site = state := by
    rintro rfl
    rw [Function.update_self]
    exact agrees _ _ _ (books.invocations invocation member) expects
  obtain ⟨listed, _⟩ := Daemon.mem_of_claim? claimed
  obtain ⟨execution, known, named, _, ended⟩ := books.afterEnd_claim listed
  unfold Daemon.settle
  rw [Daemon.report_eq]
  simp only [ended]
  by_cases here : invocation.site = site
  · exact .reached (attained here)
  cases attended with
  | reached same =>
    refine .reached ?_
    simp only [Function.update_of_ne (Ne.symm here), same]
  | @served other among at_site =>
    refine .served (List.mem_filter.mpr ⟨among, decide_eq_true fun same => here ?_⟩) at_site
    rw [← books.coherent.executor.eq_of_id_eq among member same]
    exact at_site
  | timed among mine unfinished is_order at_site =>
    exact .timed among mine unfinished is_order at_site
  | @handed other among mine unclaimed order is_order at_site =>
    -- the execution that ends was claimed, so it is another one
    have apart : other.id ≠ execution.id := fun same => unclaimed claim listed (same ▸ named)
    have kept : other ∈ estate.daemon.scheduler.executions.filter (·.id ≠ execution.id) :=
      List.mem_filter.mpr ⟨among, decide_eq_true apart⟩
    exact .handed kept mine (fun other_claim still =>
      unclaimed other_claim (List.mem_filter.mp still).1) is_order at_site

theorem operate (attended : estate.Attended site state) (id : Nat) (deadline : Instant) :
    Attended { estate with
      daemon := { estate.daemon with executor := estate.daemon.executor.operate id deadline } }
      site state := by
  refine attended.mono rfl (fun invocation member => ?_) (List.Subset.refl _) (List.Subset.refl _)
    (List.Subset.refl _) (List.Subset.refl _)
  refine ⟨_, List.mem_map.mpr ⟨invocation, member, rfl⟩, ?_⟩
  split <;> rfl

theorem waver (attended : estate.Attended site state)
    (member : invocation ∈ estate.daemon.executor.active) (other : ResourceState) :
    Attended { estate with states := Function.update estate.states invocation.site other }
      site state := by
  by_cases here : invocation.site = site
  · exact .served member here
  · exact attended.mono (Function.update_of_ne (Ne.symm here) ..)
      (fun other listed => ⟨other, listed, rfl⟩) (List.Subset.refl _) (List.Subset.refl _)
      (List.Subset.refl _) (List.Subset.refl _)

theorem submit (attended : estate.Attended site state) (correction : Correction) :
    Attended { estate with
      daemon := estate.daemon.withCorrection correction
      submitted := estate.submitted ++ [estate.daemon.scheduler.nextId] } site state :=
  attended.mono rfl (fun other listed => ⟨other, listed, rfl⟩) (List.Subset.refl _)
    (List.Subset.refl _) (List.subset_append_left ..) (List.subset_append_left ..)

theorem of_told (attended : estate.Attended site state) (passes : List (Nat × Pass))
    (results : List Nat) (told : Nat → Option ResourceState) (toldPass : Option ResourceState) :
    Attended { estate with daemon := { estate.daemon with passes, results }, told, toldPass }
      site state :=
  attended.mono rfl (fun other listed => ⟨other, listed, rfl⟩) (List.Subset.refl _)
    (List.Subset.refl _) (List.Subset.refl _) (List.Subset.refl _)

theorem states_eq (attended : estate.Attended site state) (done : estate.Done)
    (idle : estate.daemon.executor.active = []) : estate.states site = state := by
  cases attended with
  | reached same => exact same
  | served member => exact absurd member (idle ▸ List.not_mem_nil)
  | handed member ours => exact absurd ours (done.executions _ member)
  | timed member ours unfinished => exact absurd (done.timers _ member ours) unfinished

end Attended

theorem Books.idle (books : Books outlook estate) (done : estate.Done) :
    estate.daemon.executor.active = [] := by
  cases active : estate.daemon.executor.active with
  | nil => rfl
  | cons invocation rest =>
    have member : invocation ∈ estate.daemon.executor.active := active ▸ List.mem_cons_self ..
    obtain ⟨claim, claimed⟩ := books.coherent.exists_claim member
    obtain ⟨execution, listed, _, ours⟩ :=
      books.claims claim (Daemon.mem_of_claim? claimed).1
    exact absurd ours (done.executions execution listed)

/-! What the invocations do meanwhile. -/

/-- What a step keeps that no pass takes. -/
structure Keeps (outlook : Outlook) (estate after : Estate Other) : Prop where
  books : Books outlook after
  attends : ∀ site state, outlook.Expects site state → estate.Attended site state →
    after.Attended site state
  passes : after.daemon.passes = estate.daemon.passes
  toldPass : after.toldPass = estate.toldPass

namespace Books

theorem keeps_scheduler (books : Books outlook estate) {move : SchedulerMove (Work Other)}
    {scheduler : Scheduler (Work Other)} (apart : estate.daemon.Apart move scheduler) :
    Keeps outlook estate { estate with daemon := { estate.daemon with scheduler } } :=
  ⟨books.scheduler apart, fun _ _ _ attended => attended.scheduler books apart, rfl, rfl⟩

theorem keeps_invoke (books : Books outlook estate) {execution : Execution (Work Other)}
    (member : execution ∈ estate.daemon.scheduler.executions)
    (ours : execution.timer ∈ estate.submitted) {order : Order}
    (body : execution.body = .order order)
    (unclaimed : ∀ claim ∈ estate.daemon.claims, claim.execution ≠ some execution.id) :
    Keeps outlook estate { estate with
      daemon :=
        (estate.daemon.invoke (some execution.id) order.schedule.resource order.action).1 } := by
  refine ⟨books.invoke member ours body unclaimed,
    fun _ _ _ attended => attended.invoke books member ours body, ?_, rfl⟩
  obtain ⟨action, _, ⟨_, _, _, turned⟩ | ⟨_, entered⟩⟩ := books.invoke_cases member ours body
  · rw [turned, Daemon.report_eq]
  · rw [entered]

theorem keeps_tell (books : Books outlook estate)
    (member : invocation ∈ estate.daemon.executor.active) :
    Keeps outlook estate { estate with
      told :=
        Function.update estate.told invocation.id (some (estate.states invocation.site)) } := by
  refine ⟨books.tell member, fun site state _ attended => ?_, rfl, rfl⟩
  exact attended.of_told estate.daemon.passes estate.daemon.results _ estate.toldPass

theorem keeps_conclude (books : Books outlook estate) (agrees : outlook.Agrees)
    (member : invocation ∈ estate.daemon.executor.active) {claim : Claim}
    (claimed : estate.daemon.claim? invocation.id = some claim) (outcome : Outcome) :
    Keeps outlook estate { estate with
      daemon := Daemon.settle
        { estate.daemon with executor := estate.daemon.executor.conclude invocation } claim
        outcome
      states :=
        Function.update estate.states invocation.site (.targetOf invocation.action) } := by
  refine ⟨books.conclude agrees member claimed outcome
      (ResourceState.isTransitional_targetOf invocation.action),
    fun _ _ expects attended => attended.conclude books agrees expects member claimed outcome,
    ?_, rfl⟩
  unfold Daemon.settle
  rw [Daemon.report_eq]

theorem keeps_hear (books : Books outlook estate) (agrees : outlook.Agrees)
    (member : invocation ∈ estate.daemon.executor.active) {state : ResourceState}
    (told : estate.told invocation.id = some state) {after : Daemon Other}
    {progress : Progress}
    (answered : estate.daemon.answerState? invocation.id (some state) = some (after, progress)) :
    Keeps outlook estate { estate with daemon := after } := by
  obtain ⟨claim, executor, claimed, heard, went⟩ := Daemon.answerState?_eq_some answered
  have found := books.coherent.executor.invocation?_of_mem member
  cases phase : invocation.phase with
  | operating deadline =>
    cases (Executor.answerState?_of_operating found phase).symm.trans heard
  | querying =>
    obtain rfl := books.honest invocation member phase state told
    by_cases same : estate.states invocation.site = .targetOf invocation.action
    · have judged := Executor.verdict_of_reached invocation.action
      rw [← same] at judged
      cases (Executor.answerState?_of_reason found phase judged).symm.trans heard
      rcases went with ⟨_, called, _⟩ | ⟨outcome, _, rfl⟩
      · cases called
      · have kept := books.keeps_conclude agrees member claimed outcome
        rwa [← same, Function.update_eq_self] at kept
    · have judged := Executor.verdict_of_away (books.stable invocation.site) same
      cases (Executor.answerState?_of_none found phase judged).symm.trans heard
      rcases went with ⟨_, _, rfl⟩ | ⟨outcome, ended, _⟩
      · exact ⟨books.operate _ _, fun _ _ _ attended => attended.operate _ _, rfl, rfl⟩
      · cases ended

theorem keeps_complete (books : Books outlook estate) (agrees : outlook.Agrees)
    (member : invocation ∈ estate.daemon.executor.active) {after : Daemon Other}
    {outcome : Outcome}
    (answered : estate.daemon.answerOperation? invocation.id true = some (after, outcome)) :
    Keeps outlook estate { estate with
      daemon := after
      states :=
        Function.update estate.states invocation.site (.targetOf invocation.action) } := by
  obtain ⟨claim, executor, claimed, heard, rfl⟩ := Daemon.answerOperation?_eq_some answered
  obtain ⟨other, found, _, rfl⟩ := Executor.answerOperation?_eq_some heard
  cases (books.coherent.executor.invocation?_of_mem member).symm.trans found
  exact books.keeps_conclude agrees member claimed outcome

theorem keeps_waver (books : Books outlook estate) (agrees : outlook.Agrees)
    (member : invocation ∈ estate.daemon.executor.active) {deadline : Instant}
    (acts : invocation.phase = .operating deadline) {state : ResourceState}
    (stable : state.isTransitional = false) :
    Keeps outlook estate { estate with
      states := Function.update estate.states invocation.site state } :=
  ⟨books.waver agrees member acts stable, fun _ _ _ attended => attended.waver member state, rfl,
    rfl⟩

end Books

/-! The first pass. -/

/-- A pass sees to one schedule after the other. -/
structure Round (outlook : Outlook) (pass : Nat) (estate : Estate Other) : Prop where
  books : Books outlook estate
  now : ∀ going, estate.daemon.pass? pass = some going → going.now = outlook.now
  stable : ∀ state, estate.toldPass = some state → state.isTransitional = false
  /-- A resource that was told to be in the state expected of it is attended. -/
  heard : ∀ going schedule, estate.daemon.pass? pass = some going →
    going.asked? = some schedule → ∀ state, estate.toldPass = some state →
    schedule.expectedState outlook.zone outlook.now = some state →
    estate.Attended (.of schedule.resource) state
  among : ∀ going, estate.daemon.pass? pass = some going → ∀ schedule ∈ going.remaining,
    schedule ∈ outlook.schedules ∧ schedule.isReconcilable = true
  seen_to : ∀ schedule ∈ outlook.schedules, schedule.isReconcilable = true → ∀ state,
    schedule.expectedState outlook.zone outlook.now = some state →
    (∃ going, estate.daemon.pass? pass = some going ∧ schedule ∈ going.remaining) ∨
      estate.Attended (.of schedule.resource) state

namespace Round

theorem carry (round : Round outlook pass estate) (keeps : Keeps outlook estate after) :
    Round outlook pass after := by
  have same (id : Nat) : after.daemon.pass? id = estate.daemon.pass? id := by
    unfold Daemon.pass?
    rw [keeps.passes]
  constructor
  · exact keeps.books
  · rw [same]
    exact round.now
  · rw [keeps.toldPass]
    exact round.stable
  · rw [same, keeps.toldPass]
    intro going schedule found asked state told expected
    have member := round.among going found schedule (List.mem_of_mem_head? asked)
    exact keeps.attends _ _ ⟨schedule, member.1, member.2, rfl, expected⟩
      (round.heard going schedule found asked state told expected)
  · rw [same]
    exact round.among
  · rw [same]
    intro schedule member reconcilable state expected
    refine (round.seen_to schedule member reconcilable state expected).imp_right ?_
    exact keeps.attends _ _ ⟨schedule, member, reconcilable, rfl, expected⟩

theorem tellPass (round : Round outlook pass estate) {going : Pass}
    (found : estate.daemon.pass? pass = some going) {schedule : Schedule}
    (asked : going.asked? = some schedule) :
    Round outlook pass
      { estate with toldPass := some (estate.states (.of schedule.resource)) } where
  books := { round.books with }
  now := round.now
  stable := by
    rintro state ⟨⟩
    exact round.books.stable _
  heard := by
    rintro other next among asks state ⟨⟩ _
    cases found.symm.trans among
    cases asked.symm.trans asks
    exact .reached rfl
  among := round.among
  seen_to schedule member reconcilable state expected :=
    (round.seen_to schedule member reconcilable state expected).imp_right fun attended =>
      attended.of_told estate.daemon.passes estate.daemon.results estate.told _

theorem next (round : Round outlook pass estate) {going : Pass}
    (found : estate.daemon.pass? pass = some going) {schedule : Schedule} {rest : List Schedule}
    (remaining : going.remaining = schedule :: rest) (books : Books outlook after)
    {corrections : Nat} (later : after.daemon.pass? pass =
      some { going with remaining := rest, corrections }) (unheard : after.toldPass = none)
    (attends : ∀ site state, outlook.Expects site state → estate.Attended site state →
      after.Attended site state)
    (attended : ∀ state, schedule.expectedState outlook.zone outlook.now = some state →
      after.Attended (.of schedule.resource) state) : Round outlook pass after := by
  refine ⟨books, ?_, ?_, ?_, ?_, ?_⟩
  · rw [later]
    rintro other ⟨⟩
    exact round.now going found
  · rw [unheard]
    exact nofun
  · rw [unheard]
    exact fun _ _ _ _ _ told => nomatch told
  · rw [later]
    rintro other ⟨⟩ next member
    exact round.among going found next (remaining ▸ List.mem_cons_of_mem _ member)
  · rw [later]
    intro other member reconcilable state expected
    -- the first of the remaining ones has just been seen to; for the others nothing has changed
    rcases round.seen_to other member reconcilable state expected with
      ⟨still, found', left⟩ | seen
    · cases found.symm.trans found'
      rcases List.mem_cons.mp (remaining ▸ left) with rfl | left
      · exact Or.inr (attended state expected)
      · exact Or.inl ⟨_, rfl, left⟩
    · exact Or.inr (attends _ _ ⟨other, member, reconcilable, rfl, expected⟩ seen)

theorem answerPass (round : Round outlook pass estate) {state : ResourceState}
    (told : estate.toldPass = some state) {daemon : Daemon Other}
    {correction? : Option Correction}
    (answered : estate.daemon.answerPass? pass (some state) = some (daemon, correction?)) :
    Round outlook pass { estate with
      daemon
      toldPass := none
      submitted :=
        estate.submitted ++ correction?.toList.map fun _ => estate.daemon.scheduler.nextId } := by
  obtain ⟨going, schedule, rest, found, remaining, moved⟩ := Daemon.answerPass?_eq_some answered
  have asked := Pass.asked?_of_remaining remaining
  have stable := round.stable state told
  have calls_for (correction : Correction) :
      schedule.correction? outlook.zone outlook.now (some state) = some correction ↔ _ :=
    Outlook.correction?_eq_some_iff stable
  have member := round.among going found schedule (List.mem_of_mem_head? asked)
  cases moved with
  | refused _ shut => cases shut.symm.trans round.books.running
  | none fits =>
    rw [round.books.zone, round.now going found] at fits
    have attends {site : Site} {target : ResourceState} (attended : estate.Attended site target) :=
      attended.of_told (estate.daemon.setPass pass { going with remaining := rest }).passes
        estate.daemon.results estate.told none
    simp only [Option.toList_none, List.map_nil, List.append_nil]
    refine round.next found remaining (round.books.setPass _ _ _) (Daemon.pass?_setPass found _) rfl
      (fun _ _ _ attended => attends attended) fun target expected => ?_
    -- what called for nothing was told to be in its state
    obtain ⟨action, rfl⟩ := schedule.exists_of_expectedState expected
    have same : state = .targetOf action := by
      by_contra differs
      cases fits.symm.trans ((calls_for _).mpr ⟨action, rfl, differs, expected⟩)
    exact attends (round.heard going schedule found asked _ (told.trans (congrArg some same))
      expected)
  | @submitted correction differs =>
    rw [round.books.zone, round.now going found] at differs
    obtain ⟨action, rfl, _, expected⟩ := (calls_for correction).mp differs
    have expects : outlook.Expects (.of schedule.resource) (.targetOf action) :=
      ⟨schedule, member.1, member.2, rfl, expected⟩
    have books := round.books.submit ⟨schedule, action⟩ ⟨rfl, expects⟩
    have submitted : (estate.daemon.withCorrection ⟨schedule, action⟩).pass? pass = some going :=
      found
    refine round.next found remaining (books.setPass _ _ _) (Daemon.pass?_setPass submitted _) rfl
      (fun _ _ _ attended => (attended.submit _).of_told _ _ _ _) fun target expected' => ?_
    cases expected.symm.trans expected'
    exact .timed (List.mem_append_right _ (List.mem_singleton_self _))
      (List.mem_append_right _ (List.mem_singleton_self _)) nofun rfl rfl

theorem endPass (round : Round outlook pass estate) {daemon : Daemon Other} {corrections : Nat}
    (ended : estate.daemon.endPass? pass = some (daemon, corrections)) :
    Round outlook pass { estate with daemon } := by
  obtain ⟨going, found, remaining, _, rfl⟩ := Daemon.endPass?_eq_some ended
  have gone := estate.daemon.pass?_of_ended pass (going.corrections :: estate.daemon.results)
  refine ⟨{ round.books with coherent := round.books.coherent.endPass ended }, ?_, round.stable,
    ?_, ?_, ?_⟩
  · exact fun _ found => nomatch gone.symm.trans found
  · exact fun _ _ found => nomatch gone.symm.trans found
  · exact fun _ found => nomatch gone.symm.trans found
  · intro schedule member reconcilable state expected
    rcases round.seen_to schedule member reconcilable state expected with ⟨_, found', left⟩ | seen
    · cases found.symm.trans found'
      rw [remaining] at left
      cases left
    · exact Or.inr (seen.of_told _ _ _ _)

theorem step (round : Round outlook pass estate) (agrees : outlook.Agrees)
    (step : Step pass estate after) : Round outlook pass after := by
  cases step with
  | scheduler apart => exact round.carry (round.books.keeps_scheduler apart)
  | invoke member ours body unclaimed =>
    exact round.carry (round.books.keeps_invoke member ours body unclaimed)
  | tell member => exact round.carry (round.books.keeps_tell member)
  | hear member told answered =>
    exact round.carry (round.books.keeps_hear agrees member told answered)
  | waver member acts stable =>
    exact round.carry (round.books.keeps_waver agrees member acts stable)
  | complete member answered =>
    exact round.carry (round.books.keeps_complete agrees member answered)
  | tellPass found asked => exact round.tellPass found asked
  | answerPass told answered => exact round.answerPass told answered
  | endPass ended => exact round.endPass ended

theorem run (round : Round outlook pass estate) (agrees : outlook.Agrees)
    (run : Run pass estate after) : Round outlook pass after := by
  induction run with
  | refl => exact round
  | tail _ step ih => exact ih.step agrees step

/-- When the pass is over and all is done, every resource is in the state expected of it. -/
theorem reached (round : Round outlook pass estate)
    (passed : estate.daemon.pass? pass = none) (done : estate.Done) :
    ∀ site state, outlook.Expects site state → estate.states site = state := by
  rintro site state ⟨schedule, member, reconcilable, rfl, expected⟩
  rcases round.seen_to schedule member reconcilable state expected with ⟨_, found, _⟩ | attended
  · cases passed.symm.trans found
  · exact attended.states_eq done (round.books.idle done)

end Round

theorem start_round {settings : SchedulerSettings} {daemon : Daemon Other}
    (reachable : daemon.Reachable settings false) (unheld : daemon.executor.held = [])
    (running : daemon.scheduler.isRunning = true) {states : Site → ResourceState}
    (stable : ∀ site, (states site).isTransitional = false) (now : Instant) :
    Round ⟨daemon.schedules, daemon.scheduler.zone, now⟩ daemon.nextPass
      ((start daemon states).beginPass now) := by
  have coherent := reachable.coherent
  obtain ⟨timeout, executor⟩ := reachable.executor
  -- whoever is in progress holds a key, and no key is held
  have idle : daemon.executor.active = [] := by
    have keys := coherent.executor.held_perm
    rw [unheld] at keys
    exact List.map_eq_nil_iff.mp keys.symm.eq_nil
  have unclaimed : daemon.claims = [] := by
    have ids := coherent.claims
    rw [idle] at ids
    exact List.map_eq_nil_iff.mp ids
  have begun : ((start daemon states).beginPass now).daemon.pass? daemon.nextPass =
      some (Pass.begin now daemon.schedules) := Daemon.pass?_beginPass coherent.passes now
  have among : ∀ schedule ∈ (Pass.begin now daemon.schedules).remaining,
      schedule ∈ daemon.schedules ∧ schedule.isReconcilable = true :=
    fun schedule member => List.mem_filter.mp member
  refine ⟨?_, ?_, nofun, fun _ _ _ _ _ told => (nomatch told), ?_, ?_⟩
  · exact
      { coherent := coherent.beginPass now
        live := executor.dryRun_eq
        running := (Scheduler.isRunning_iff.mp running).2
        zone := rfl
        schedules := rfl
        stable := stable
        untold := fun _ _ => rfl
        honest := fun _ _ _ _ told => nomatch told
        numbered := List.forall_mem_nil _
        timers := fun _ _ ours => nomatch ours
        executions := fun _ _ ours => nomatch ours
        invocations := fun _ member => absurd member (idle ▸ List.not_mem_nil)
        claims := fun _ member => absurd member (unclaimed ▸ List.not_mem_nil)
        claims_apart := by
          show (daemon.claims.map (·.execution)).Nodup
          rw [unclaimed]
          exact List.nodup_nil }
  · rw [begun]
    rintro going ⟨⟩
    rfl
  · rw [begun]
    rintro going ⟨⟩
    exact among
  · intro schedule member reconcilable state _
    exact Or.inl ⟨_, begun, List.mem_filter.mpr ⟨member, reconcilable⟩⟩

/-! The second pass. -/

/-- Where every resource is in the state expected of it and nothing is on its way, a pass finds
nothing to submit. -/
structure Calm (outlook : Outlook) (base : Estate Other) (pass : Nat) (estate : Estate Other) :
    Prop where
  books : Books outlook estate
  done : estate.Done
  reached : ∀ site state, outlook.Expects site state → estate.states site = state
  submitted : estate.submitted = base.submitted
  states : estate.states = base.states
  heard : ∀ going schedule, estate.daemon.pass? pass = some going →
    going.asked? = some schedule → ∀ state, estate.toldPass = some state →
    state = estate.states (.of schedule.resource)
  going : ∀ going, estate.daemon.pass? pass = some going →
    going.now = outlook.now ∧ going.corrections = 0 ∧
      estate.daemon.results = base.daemon.results ∧
      ∀ schedule ∈ going.remaining, schedule ∈ outlook.schedules ∧ schedule.isReconcilable = true
  counted : estate.daemon.pass? pass = none →
    estate.daemon.results = 0 :: base.daemon.results

namespace Calm

variable {base : Estate Other}

theorem scheduler (calm : Calm outlook base pass estate) {move : SchedulerMove (Work Other)}
    {scheduler : Scheduler (Work Other)} (apart : estate.daemon.Apart move scheduler) :
    Calm outlook base pass { estate with daemon := { estate.daemon with scheduler } } :=
  { calm with
    books := calm.books.scheduler apart
    done :=
      { timers := fun timer member ours => by
          -- a timer that is finished does not go back
          obtain ⟨old, listed, same, _, stays⟩ := apart.moved.timer_before
            calm.books.coherent.scheduler member (calm.books.numbered _ ours)
          exact stays (calm.done.timers old listed (same ▸ ours))
        executions := fun execution member ours => by
          rcases apart.moved.execution_origin member with old | ⟨timer, listed, same, _, _, due,
            phase⟩
          · exact calm.done.executions execution old ours
          · cases phase.symm.trans (calm.done.timers timer listed (same ▸ ours)) } }

theorem tellPass (calm : Calm outlook base pass estate) {going : Pass}
    (found : estate.daemon.pass? pass = some going) {schedule : Schedule}
    (asked : going.asked? = some schedule) :
    Calm outlook base pass
      { estate with toldPass := some (estate.states (.of schedule.resource)) } :=
  { calm with
    books := { calm.books with }
    done := { calm.done with }
    heard := by
      rintro other next among asks state ⟨⟩
      cases found.symm.trans among
      cases asked.symm.trans asks
      rfl }

theorem answerPass (calm : Calm outlook base pass estate) {state : ResourceState}
    (told : estate.toldPass = some state) {daemon : Daemon Other}
    {correction? : Option Correction}
    (answered : estate.daemon.answerPass? pass (some state) = some (daemon, correction?)) :
    Calm outlook base pass { estate with
      daemon
      toldPass := none
      submitted :=
        estate.submitted ++ correction?.toList.map fun _ => estate.daemon.scheduler.nextId } ∧
      ∃ going schedule rest, estate.daemon.pass? pass = some going ∧
        going.remaining = schedule :: rest ∧
        daemon.pass? pass = some { going with remaining := rest } := by
  obtain ⟨going, schedule, rest, found, remaining, moved⟩ := Daemon.answerPass?_eq_some answered
  obtain ⟨now, uncorrected, results, among⟩ := calm.going going found
  have asked := Pass.asked?_of_remaining remaining
  obtain rfl := calm.heard going schedule found asked state told
  -- what was told is the state expected, so nothing is called for
  have uncalled (correction : Correction) :
      schedule.correction? estate.daemon.scheduler.zone going.now
        (some (estate.states (.of schedule.resource))) ≠ some correction := by
    rw [calm.books.zone, now, Ne, Outlook.correction?_eq_some_iff (calm.books.stable _)]
    rintro ⟨action, _, differs, expected⟩
    obtain ⟨member, reconcilable⟩ := among schedule (List.mem_of_mem_head? asked)
    exact differs (calm.reached _ _ ⟨schedule, member, reconcilable, rfl, expected⟩)
  cases moved with
  | refused differs | submitted differs => exact absurd differs (uncalled _)
  | none =>
    have later := Daemon.pass?_setPass found { going with remaining := rest }
    refine ⟨?_, going, schedule, rest, found, remaining, later⟩
    simp only [Option.toList_none, List.map_nil, List.append_nil]
    exact
      { calm with
        books := calm.books.setPass _ _ _
        done := { calm.done with }
        heard := fun _ _ _ _ _ told => nomatch told
        going := by
          rw [later]
          rintro other ⟨⟩
          exact ⟨now, uncorrected, results, fun next member =>
            among next (remaining ▸ List.mem_cons_of_mem _ member)⟩
        counted := fun gone => nomatch later.symm.trans gone }

theorem endPass (calm : Calm outlook base pass estate) {daemon : Daemon Other}
    {corrections : Nat}
    (ended : estate.daemon.endPass? pass = some (daemon, corrections)) :
    Calm outlook base pass { estate with daemon } ∧ corrections = 0 ∧
      daemon.pass? pass = none := by
  obtain ⟨going, found, remaining, rfl, rfl⟩ := Daemon.endPass?_eq_some ended
  obtain ⟨_, uncorrected, results, _⟩ := calm.going going found
  have gone := estate.daemon.pass?_of_ended pass (going.corrections :: estate.daemon.results)
  refine ⟨?_, uncorrected, gone⟩
  exact
    { calm with
      books := { calm.books with coherent := calm.books.coherent.endPass ended }
      done := { calm.done with }
      heard := fun _ _ found => nomatch gone.symm.trans found
      going := fun _ found => nomatch gone.symm.trans found
      counted := fun _ => by
        show going.corrections :: estate.daemon.results = _
        rw [uncorrected, results] }

theorem step (calm : Calm outlook base pass estate) (step : Step pass estate after) :
    Calm outlook base pass after := by
  have idle := calm.books.idle calm.done
  cases step with
  | scheduler apart => exact calm.scheduler apart
  | invoke member ours => exact absurd ours (calm.done.executions _ member)
  | tell member | hear member | waver member | complete member =>
    exact absurd member (idle ▸ List.not_mem_nil)
  | tellPass found asked => exact calm.tellPass found asked
  | answerPass told answered => exact (calm.answerPass told answered).1
  | endPass ended => exact (calm.endPass ended).1

theorem run (calm : Calm outlook base pass estate) (run : Run pass estate after) :
    Calm outlook base pass after := by
  induction run with
  | refl => exact calm
  | tail _ step ih => exact ih.step step

theorem finishes (calm : Calm outlook base pass estate) :
    ∃ after, Run pass estate after ∧ after.daemon.pass? pass = none := by
  cases found : estate.daemon.pass? pass with
  | none => exact ⟨estate, .refl, found⟩
  | some going =>
    generalize left : going.remaining = schedules
    -- one schedule after the other is asked about
    induction schedules generalizing estate going with
    | nil =>
      have ended := Daemon.endPass?_of_remaining found left
      exact ⟨_, .single (.endPass ended), (calm.endPass ended).2.2⟩
    | cons schedule rest ih =>
      have asked := Pass.asked?_of_remaining left
      have tells : Step pass estate _ := .tellPass found asked
      obtain ⟨daemon, correction?, answered⟩ := Daemon.exists_answerPass? found left
        (some (estate.states (.of schedule.resource)))
      have told := calm.tellPass found asked
      obtain ⟨later, other, _, _, found', left', goes_on⟩ := told.answerPass rfl answered
      cases found.symm.trans found'
      obtain ⟨rfl, rfl⟩ := List.cons.inj (left.symm.trans left')
      obtain ⟨after, run, passed⟩ := ih later _ goes_on rfl
      exact ⟨after, .head tells (.head (.answerPass rfl answered) run), passed⟩

end Calm

theorem Round.calm (round : Round outlook pass estate)
    (passed : estate.daemon.pass? pass = none) (done : estate.Done) :
    Calm outlook estate estate.daemon.nextPass (estate.beginPass outlook.now) := by
  have begun : (estate.beginPass outlook.now).daemon.pass? estate.daemon.nextPass =
      some (Pass.begin outlook.now estate.daemon.schedules) :=
    Daemon.pass?_beginPass round.books.coherent.passes outlook.now
  exact
    { books := { round.books with coherent := round.books.coherent.beginPass outlook.now }
      done := { done with }
      reached := round.reached passed done
      submitted := rfl
      states := rfl
      heard := fun _ _ _ _ _ told => nomatch told
      going := by
        rw [begun]
        rintro going ⟨⟩
        refine ⟨rfl, rfl, rfl, fun schedule member => ?_⟩
        rw [← round.books.schedules]
        exact List.mem_filter.mp member
      counted := fun gone => nomatch begun.symm.trans gone }

/-- What has come of a second pass, at any moment of it. -/
structure Converged (outlook : Outlook) (middle : Estate Other) (last : Estate Other) :
    Prop where
  /-- Every resource is in the state expected of it, and stays there. -/
  reached : ∀ site state, outlook.Expects site state →
    middle.states site = state ∧ last.states site = state
  /-- The second pass submits nothing, and that is what it answers. -/
  submitted : last.submitted = middle.submitted
  ends : ∀ after corrections,
    last.daemon.endPass? middle.daemon.nextPass = some (after, corrections) → corrections = 0
  counted : last.daemon.pass? middle.daemon.nextPass = none →
    last.daemon.results = 0 :: middle.daemon.results
  finishes : ∃ after, Run middle.daemon.nextPass last after ∧
    after.daemon.pass? middle.daemon.nextPass = none

/-- After a pass and any course of its corrections to their end, a second pass submits nothing,
and every resource is in the state expected of it. -/
theorem reconciliation_converges {settings : SchedulerSettings} {daemon : Daemon Other}
    {states : Site → ResourceState} {now : Instant} {middle last : Estate Other}
    (reachable : daemon.Reachable settings false) (unheld : daemon.executor.held = [])
    (running : daemon.scheduler.isRunning = true)
    (stable : ∀ site, (states site).isTransitional = false)
    (agrees : Outlook.Agrees ⟨daemon.schedules, daemon.scheduler.zone, now⟩)
    (first : Run daemon.nextPass ((start daemon states).beginPass now) middle)
    (passed : middle.daemon.pass? daemon.nextPass = none) (done : middle.Done)
    (second : Run middle.daemon.nextPass (middle.beginPass now) last) :
    Converged ⟨daemon.schedules, daemon.scheduler.zone, now⟩ middle last := by
  have round := (start_round reachable unheld running stable now).run agrees first
  have calm := (round.calm passed done).run second
  have reached := round.reached passed done
  constructor
  · exact fun site state expects => ⟨reached site state expects, calm.reached site state expects⟩
  · exact calm.submitted
  · exact fun _ _ ended => (calm.endPass ended).2.1
  · exact calm.counted
  · exact calm.finishes

theorem Step.of_event {scheduler : Scheduler (Work Other)} (event : SchedulerEvent)
    (stepped : estate.daemon.scheduler.step? event = some scheduler)
    (running : scheduler.shut = false)
    (single : estate.daemon.scheduler.timers.all (!·.managed) = true)
    (waits : ∀ id, event ≠ .finish id) :
    Step pass estate { estate with daemon := { estate.daemon with scheduler } } := by
  have moved : estate.daemon.scheduler.Moved (.step event) scheduler :=
    Scheduler.move?_moved stepped
  refine .scheduler ⟨moved, running, fun timer member _ => ?_, fun execution _ _ _ same => ?_⟩
  · simpa using List.all_eq_true.mp single timer member
  · exact waits execution.id (SchedulerMove.step.inj same)

/-- Two schedules start a machine that is stopped. The second correction is turned away while
the first one acts, and a second pass submits nothing. -/
theorem reconciliation_converges_of_shared :
    let six : TimeOfDay := ⟨18, 0, 0, by decide, by decide, by decide⟩
    let shift (name : String) : Schedule :=
      ⟨name, ⟨.vm, "vm-1", "folder-1"⟩, some (.daily six), none⟩
    let scheduler : Scheduler (Work Empty) :=
      { Scheduler.start .standard ⟨0⟩ with
        opened := true
        calls := [⟨0, false, .waiting⟩]
        nextId := 1 }
    let daemon : Daemon Empty := .start scheduler (.start false 5) [shift "first", shift "second"]
    let states : Site → ResourceState := fun _ => .stopped
    ∃ middle last : Estate Empty,
      daemon.Reachable .standard false ∧ daemon.executor.held = [] ∧
        daemon.scheduler.isRunning = true ∧ (∀ site, (states site).isTransitional = false) ∧
        Outlook.Agrees ⟨daemon.schedules, daemon.scheduler.zone, ⟨0⟩⟩ ∧
        Run 0 ((start daemon states).beginPass ⟨0⟩) middle ∧ middle.daemon.pass? 0 = none ∧
        middle.Done ∧ middle.submitted = [1, 2] ∧
        middle.daemon.reports.map (·.outcome) = [.success, .skipped .inFlight] ∧
        Run 1 (middle.beginPass ⟨0⟩) last ∧ last.daemon.results = [0, 2] ∧
        Converged ⟨daemon.schedules, daemon.scheduler.zone, ⟨0⟩⟩ middle last := by
  intro six shift scheduler daemon states
  let work (name : String) : Work Empty := .order ⟨shift name, "start"⟩
  let timers (opened : Option Instant) (phase : TimerPhase) : List (Timer (Work Empty)) :=
    [⟨1, "first:validator:start", false, .once, work "first", true, false, opened, phase⟩,
      ⟨2, "second:validator:start", false, .once, work "second", true, false, opened, phase⟩]
  let first : Execution (Work Empty) := ⟨3, 1, "first:validator:start", none, work "first"⟩
  let second : Execution (Work Empty) := ⟨4, 2, "second:validator:start", none, work "second"⟩
  let asking : Invocation := ⟨0, ⟨.vm, "vm-1", "folder-1"⟩, .start, .querying⟩
  let acting : Invocation := { asking with phase := .operating ⟨5⟩ }
  let executor (invocation : Invocation) : Executor :=
    ⟨false, 5, [Executor.key asking.resource "start"], [invocation], 1⟩
  let begun : Estate Empty := (start daemon states).beginPass ⟨0⟩
  -- the first pass, up to its end
  let waiting : Scheduler (Work Empty) :=
    { scheduler with timers := timers none .gate, nextId := 3 }
  let submitted : Estate Empty :=
    { begun with
      daemon :=
        { daemon with
          scheduler := waiting
          metrics := [(.correction .vm "start", 2)]
          results := [2]
          nextPass := 1 }
      submitted := [1, 2] }
  have submits : Run 0 begun submitted := by
    refine .head (.tellPass rfl rfl) (.head (.answerPass rfl rfl) ?_)
    refine .head (.tellPass rfl rfl) (.head (.answerPass rfl rfl) ?_)
    exact .single (.endPass rfl)
  -- both timers, from the gate to their executions
  let in_scheduler (scheduler : Scheduler (Work Empty)) : Estate Empty :=
    { submitted with daemon := { submitted.daemon with scheduler } }
  let queued : Scheduler (Work Empty) :=
    { waiting with timers := timers (some ⟨0⟩) (.queued none), queue := [1, 2] }
  have queues : Run 0 submitted (in_scheduler queued) :=
    .head (.of_event (.pass 1) rfl rfl rfl nofun) (.single (.of_event (.pass 2) rfl rfl rfl nofun))
  let granted : Scheduler (Work Empty) :=
    { waiting with timers := timers (some ⟨0⟩) (.holding none), free := 3 }
  have grants : Run 0 (in_scheduler queued) (in_scheduler granted) :=
    .head (.of_event .grant rfl rfl rfl nofun) (.single (.of_event .grant rfl rfl rfl nofun))
  let handed : Scheduler (Work Empty) :=
    { waiting with
      timers := timers (some ⟨0⟩) .finished
      executions := [first, second]
      fires := [⟨2, second.name, none, ⟨0⟩⟩, ⟨1, first.name, none, ⟨0⟩⟩]
      free := 3
      nextId := 5 }
  have hands : Run 0 (in_scheduler granted) (in_scheduler handed) :=
    .head (.of_event (.handOver 1) rfl rfl rfl nofun)
      (.single (.of_event (.handOver 2) rfl rfl rfl nofun))
  -- the first execution acts, and the second one is turned away
  let entered : Estate Empty :=
    { submitted with
      daemon :=
        { submitted.daemon with
          scheduler := handed
          executor := executor asking
          claims := [⟨0, some 3, .vm, "start"⟩] } }
  have enters : Step 0 (in_scheduler handed) entered :=
    have member : first ∈ handed.executions := List.mem_cons_self ..
    have order : first.body = .order ⟨shift "first", "start"⟩ := rfl
    .invoke member (List.mem_cons_self ..) order (List.forall_mem_nil _)
  let turned : Estate Empty :=
    { entered with
      daemon :=
        { entered.daemon with
          scheduler := { handed with executions := [first], free := 4 }
          metrics := [(.correction .vm "start", 2), (.operation .vm "start" .skipped, 1),
            (.skip .vm "start" .inFlight, 1)]
          reports := [⟨.vm, "start", .skipped .inFlight⟩] } }
  have turns : Step 0 entered turned :=
    have member : second ∈ handed.executions := List.mem_cons_of_mem _ (List.mem_cons_self ..)
    have order : second.body = .order ⟨shift "second", "start"⟩ := rfl
    have unclaimed : ∀ claim ∈ entered.daemon.claims, claim.execution ≠ some second.id :=
      List.forall_mem_singleton.mpr nofun
    .invoke member (List.mem_cons_of_mem _ (List.mem_cons_self ..)) order unclaimed
  let told : Estate Empty :=
    { turned with told := Function.update (fun _ => none) 0 (some .stopped) }
  have tells : Step 0 turned told :=
    have member : asking ∈ turned.daemon.executor.active := List.mem_singleton_self _
    .tell member rfl
  let operating : Estate Empty :=
    { told with daemon := { told.daemon with executor := executor acting } }
  have hears : Step 0 told operating :=
    have member : asking ∈ told.daemon.executor.active := List.mem_singleton_self _
    have answered : told.daemon.answerState? 0 (some .stopped) =
        some (operating.daemon, .calls (.start asking.resource)) := rfl
    .hear member rfl answered
  let middle : Estate Empty :=
    { told with
      daemon :=
        { submitted.daemon with
          scheduler := { handed with executions := [], free := 5 }
          executor := { Executor.start false 5 with nextId := 1 }
          metrics := turned.daemon.metrics ++ [(.operation .vm "start" .success, 1)]
          reports := ⟨.vm, "start", .success⟩ :: turned.daemon.reports }
      states := Function.update states asking.site .running }
  have completes : Step 0 operating middle :=
    have member : acting ∈ operating.daemon.executor.active := List.mem_singleton_self _
    .complete member rfl
  have one : Run 0 begun middle :=
    ((((submits.trans queues).trans grants).trans hands).tail enters).trans
      (.head turns (.head tells (.head hears (.single completes))))
  have passed : middle.daemon.pass? 0 = none := rfl
  have done : middle.Done := by
    refine ⟨?_, List.forall_mem_nil _⟩
    rintro timer member -
    rcases List.mem_pair.mp member with rfl | rfl <;> rfl
  -- the second pass
  let last : Estate Empty :=
    { middle with daemon := { middle.daemon with results := [0, 2], nextPass := 2 } }
  have two : Run 1 (middle.beginPass ⟨0⟩) last := by
    refine .head (.tellPass rfl rfl) (.head (.answerPass rfl rfl) ?_)
    refine .head (.tellPass rfl rfl) (.head (.answerPass rfl rfl) ?_)
    exact .single (.endPass rfl)
  have reachable : daemon.Reachable .standard false :=
    have moved : Daemon.move? (.start (.start .standard ⟨0⟩) (.start false 5)
        [shift "first", shift "second"]) (.scheduler .openFor) = some daemon := rfl
    .move (.start ⟨0⟩ 5 [shift "first", shift "second"]) moved
  have agrees : Outlook.Agrees ⟨daemon.schedules, daemon.scheduler.zone, ⟨0⟩⟩ := by
    have starts {schedule : Schedule} {state : ResourceState}
        (member : schedule ∈ daemon.schedules)
        (expected : schedule.expectedState daemon.scheduler.zone ⟨0⟩ = some state) :
        state = .running := by
      rcases List.mem_pair.mp member with rfl | rfl <;> cases expected <;> rfl
    rintro site state other ⟨schedule, member, _, _, expected⟩ ⟨peer, listed, _, _, same⟩
    exact (starts member expected).trans (starts listed same).symm
  have stable : ∀ site, (states site).isTransitional = false := fun _ => rfl
  exact ⟨middle, last, reachable, rfl, rfl, stable, agrees, one, passed, done, rfl, rfl, two, rfl,
    reconciliation_converges reachable rfl rfl stable agrees one passed done two⟩

end PowerRota.Estate
