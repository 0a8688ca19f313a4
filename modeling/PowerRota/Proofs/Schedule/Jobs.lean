import PowerRota.Proofs.Data.Steps
import PowerRota.Proofs.Schedule.Validity
import PowerRota.Schedule.Jobs

/-! The jobs of a valid set of schedules: one for each enabled action, and no two of one
name. -/

set_option autoImplicit false

namespace PowerRota

/-- Among jobs of distinct names there is one of this name, and it has this rule. -/
structure Job.Listed {Body : Type} (jobs : List (Job Body)) (name : String) (rule : FiringRule) :
    Prop where
  distinct : (jobs.map (·.name)).Nodup
  listed : ∃ job ∈ jobs, job.name = name ∧ job.rule = rule

theorem Job.Listed.rule_eq {Body : Type} {jobs : List (Job Body)} {name : String}
    {rule : FiringRule} (listed : Job.Listed jobs name rule) {job : Job Body} (member : job ∈ jobs)
    (named : job.name = name) : job.rule = rule := by
  obtain ⟨other, member', named', has_rule⟩ := listed.listed
  obtain rfl := List.inj_on_of_nodup_map listed.distinct member member' (named.trans named'.symm)
  exact has_rule

/-- Among jobs of distinct names the one of this name, if there is one, has this rule. -/
structure Job.Consistent {Body : Type} (jobs : List (Job Body)) (name : String)
    (rule : FiringRule) : Prop where
  distinct : (jobs.map (·.name)).Nodup
  rule_eq : ∀ job ∈ jobs, job.name = name → job.rule = rule

theorem Job.Listed.consistent {Body : Type} {jobs : List (Job Body)} {name : String}
    {rule : FiringRule} (listed : Job.Listed jobs name rule) : Job.Consistent jobs name rule :=
  ⟨listed.distinct, fun _ member named => listed.rule_eq member named⟩

namespace Schedule

variable {schedule other : Schedule} {schedules : List Schedule} {action : Action}

theorem getLast?_jobName (schedule : Schedule) (action : Action) :
    (schedule.jobName action).toList.getLast? = action.label.toList.getLast? := by
  simp only [jobName, String.toList_append, List.getLast?_append]
  cases action <;> rfl

theorem jobName_injective {action' : Action}
    (same : schedule.jobName action = other.jobName action') :
    schedule.name = other.name ∧ action = action' := by
  have letters : action.label.toList.getLast? = action'.label.toList.getLast? := by
    rw [← getLast?_jobName, ← getLast?_jobName, same]
  have actions : action = action' := by
    revert letters
    cases action <;> cases action' <;> decide
  subst actions
  refine ⟨?_, rfl⟩
  simp only [jobName, String.append_assoc] at same
  exact (String.append_left_inj _).mp same

def entries (schedules : List Schedule) : List (Schedule × Action × Trigger) :=
  schedules.flatMap fun schedule => schedule.actions.map fun entry => (schedule, entry)

theorem mem_entries {trigger : Trigger} :
    (schedule, action, trigger) ∈ entries schedules ↔
      schedule ∈ schedules ∧ schedule.trigger? action = some trigger := by
  simp only [entries, List.mem_flatMap, List.mem_map, Prod.mk.injEq]
  constructor
  · rintro ⟨_, listed, _, member, rfl, rfl⟩
    exact ⟨listed, mem_actions.mp member⟩
  · rintro ⟨listed, enabled⟩
    exact ⟨schedule, listed, _, mem_actions.mpr enabled, rfl, rfl⟩

theorem actions_distinct (schedule : Schedule) :
    schedule.actions.Pairwise fun entry other => entry.1 ≠ other.1 := by
  unfold actions Action.all
  refine List.pairwise_filterMap.mpr ?_
  have two : [Action.start, Action.stop].Pairwise (· ≠ ·) := by decide
  refine two.imp fun apart entry found other found' => ?_
  obtain ⟨_, _, rfl⟩ := Option.map_eq_some_iff.mp found
  obtain ⟨_, _, rfl⟩ := Option.map_eq_some_iff.mp found'
  exact apart

theorem entries_distinct (distinct : (schedules.map (·.name)).Nodup) :
    ((entries schedules).map fun entry => entry.1.jobName entry.2.1).Nodup := by
  rw [List.nodup_iff_pairwise_ne, List.pairwise_map]
  refine List.pairwise_flatMap.mpr ⟨fun schedule _ => ?_, ?_⟩
  · refine List.pairwise_map.mpr ((actions_distinct schedule).imp fun apart same => ?_)
    exact apart (jobName_injective same).2
  · refine (List.pairwise_map.mp distinct).imp fun apart entry listed other listed' same => ?_
    obtain ⟨_, _, rfl⟩ := List.mem_map.mp listed
    obtain ⟨_, _, rfl⟩ := List.mem_map.mp listed'
    exact apart (jobName_injective same).1

theorem jobs_eq_ok_iff {orders : List (Job Order)} :
    jobs schedules = .ok orders ↔
      validateAll schedules = .ok () ∧ translate schedules = .ok orders := by
  unfold jobs
  cases validateAll schedules with
  | error fault => simp [bind, Except.bind]
  | ok _ =>
    cases translate schedules <;>
      simp [bind, Except.bind, pure, Except.pure, throw, throwThe, MonadExceptOf.throw]

theorem job_eq_ok {trigger : Trigger} {order : Job Order}
    (made : schedule.job action trigger = .ok order) :
    order.name = schedule.jobName action ∧ FiringRule.ofTrigger trigger = .ok order.rule := by
  unfold job at made
  cases found : FiringRule.ofTrigger trigger with
  | error fault =>
    rw [found] at made
    cases made
  | ok rule =>
    rw [found] at made
    cases made
    exact ⟨rfl, rfl⟩

variable {orders : List (Job Order)} {trigger : Trigger} {rule : FiringRule} {Body : Type}

theorem forall₂_of_jobs (translated : jobs schedules = .ok orders) :
    List.Forall₂ (fun entry order => entry.1.job entry.2.1 entry.2.2 = .ok order)
      (entries schedules) orders :=
  Steps.mapM_eq_ok_iff.mp (jobs_eq_ok_iff.mp translated).2

theorem distinct_of_jobs (translated : jobs schedules = .ok orders) (body : Order → Body) :
    ((orders.map (·.map body)).map (·.name)).Nodup := by
  have names : (entries schedules).map (fun entry => entry.1.jobName entry.2.1) =
      orders.map (·.name) := by
    rw [← List.forall₂_eq_eq_eq, List.forall₂_map_left_iff, List.forall₂_map_right_iff]
    exact (forall₂_of_jobs translated).imp fun entry order made => (job_eq_ok made).1.symm
  have same : (orders.map (·.map body)).map (·.name) = orders.map (·.name) := by
    rw [List.map_map]
    rfl
  rw [same, ← names]
  exact entries_distinct (validateAll_eq_ok_iff.mp (jobs_eq_ok_iff.mp translated).1).2

/-- The job of an enabled action is among the jobs of every valid set that has its schedule,
and no other job has its name. -/
theorem listed_of_jobs (translated : jobs schedules = .ok orders) (member : schedule ∈ schedules)
    (enabled : schedule.trigger? action = some trigger)
    (accepted : FiringRule.ofTrigger trigger = .ok rule) (body : Order → Body) :
    Job.Listed (orders.map (·.map body)) (schedule.jobName action) rule := by
  refine ⟨distinct_of_jobs translated body, ?_⟩
  obtain ⟨order, among, made⟩ :=
    Steps.exists_of_forall₂ (forall₂_of_jobs translated) (mem_entries.mpr ⟨member, enabled⟩)
  obtain ⟨named, has_rule⟩ := job_eq_ok made
  exact ⟨order.map body, List.mem_map_of_mem among, named,
    Except.ok.inj (has_rule.symm.trans accepted)⟩

/-- In a valid set whose schedule of this name, if there is one, has no other trigger for the
action, the job of the action has no other rule. -/
theorem consistent_of_jobs (translated : jobs schedules = .ok orders)
    (fixed : ∀ kept ∈ schedules, kept.name = schedule.name →
      ∀ other, kept.trigger? action = some other → other = trigger)
    (accepted : FiringRule.ofTrigger trigger = .ok rule) (body : Order → Body) :
    Job.Consistent (orders.map (·.map body)) (schedule.jobName action) rule := by
  refine ⟨distinct_of_jobs translated body, fun job member named => ?_⟩
  obtain ⟨order, among, rfl⟩ := List.mem_map.mp member
  obtain ⟨⟨kept, which, other⟩, listed, made⟩ :=
    Steps.exists_of_forall₂ (forall₂_of_jobs translated).flip among
  obtain ⟨known, enabled⟩ := mem_entries.mp listed
  obtain ⟨named', has_rule⟩ := job_eq_ok made
  obtain ⟨same_name, rfl⟩ := jobName_injective (named'.symm.trans named)
  obtain rfl := fixed kept known same_name other enabled
  exact Except.ok.inj (has_rule.symm.trans accepted)

end Schedule

end PowerRota
