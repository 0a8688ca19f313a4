import PowerRota.Proofs.Manifest.Loading
import PowerRota.Proofs.Scheduler.Reload
import PowerRota.Proofs.Scheduler.Swap
import PowerRota.Schedule.Listing

/-! The check of a set of schedules, its translation into jobs and its listing.

These are three passes of their own over the set. What the check accepts the other two take
without a fault, entry by entry; what it refuses leaves the register as it is. -/

set_option autoImplicit false

namespace PowerRota

open PowerRota.Calendar

/-- An error that a set of schedules itself gives rise to. -/
def Error.isOfSchedules : Error → Bool
  | .invalidTrigger _ | .invalidSchedule _ _ | .duplicateSchedule _ => true
  | _ => false

def nextText : Option Instant → String
  | some fire => fire.render
  | none => "never"

def Job.line (job : Job Order) (zone : Zone) (now : Instant) : String :=
  job.name ++ "\t" ++ job.body.schedule.resource.kind.label ++ "/" ++
    job.body.schedule.resource.id ++ "\t" ++ job.rule.kind.label ++ "\tnext=" ++
    nextText (job.rule.nextAfter zone now)

def saysNever (line : String) : Bool := "\tnext=never".toList.isSuffixOf line.toList

theorem getLast?_render (fire : Instant) : fire.render.toList.getLast? = some '0' := by
  unfold Instant.render
  rw [String.toList_ofList, List.getLast?_append]
  rfl

theorem saysNever_append_iff (head : String) (next : Option Instant) :
    saysNever (head ++ "\tnext=" ++ nextText next) = true ↔ next = none := by
  unfold saysNever
  rw [List.isSuffixOf_iff_suffix]
  cases next with
  | none => simp [nextText, String.append_assoc]
  | some fire =>
    refine iff_of_false ?_ (Option.some_ne_none fire)
    -- a fire is written with a digit at the end
    rintro ⟨before, same⟩
    have last : (head ++ "\tnext=" ++ fire.render).toList.getLast? = some '0' := by
      rw [String.toList_append, List.getLast?_append, getLast?_render]
      rfl
    have other : (before ++ "\tnext=never".toList).getLast? = some 'r' := by
      rw [List.getLast?_append]
      rfl
    rw [same] at other
    cases last.symm.trans other

namespace Schedule

variable {schedule : Schedule} {schedules : List Schedule} {orders : List (Job Order)}

def enabled (schedules : List Schedule) : List (Schedule × Action × Trigger) :=
  schedules.flatMap fun schedule =>
    (schedule.start.map fun trigger => (schedule, .start, trigger)).toList ++
      (schedule.stop.map fun trigger => (schedule, .stop, trigger)).toList

theorem entries_eq_enabled (schedules : List Schedule) : entries schedules = enabled schedules := by
  unfold entries enabled
  congr 1
  funext schedule
  unfold actions Action.all
  cases start : schedule.start <;> cases stop : schedule.stop <;>
    simp [trigger?, start, stop]

structure Defines (entry : Schedule × Action × Trigger) (job : Job Order) : Prop where
  name : job.name = entry.1.name ++ ":" ++ entry.2.1.label
  rule : FiringRule.ofTrigger entry.2.2 = .ok job.rule
  body : job.body = ⟨entry.1, entry.2.1.label⟩

/-- A set of schedules stands for these jobs, no two of one name. -/
structure Translated (schedules : List Schedule) (orders : List (Job Order)) : Prop where
  each : List.Forall₂ Defines (enabled schedules) orders
  distinct : (orders.map (·.name)).Nodup

theorem isOfSchedules_of_validateFrom {taken : List String} {fault : Error}
    (refused : validateFrom taken schedules = .error fault) : fault.isOfSchedules = true := by
  induction schedules generalizing taken with
  | nil => cases refused
  | cons schedule rest ih =>
    simp only [validateFrom] at refused
    cases first : schedule.validate with
    | error found =>
      simp only [first, bind, Except.bind, Except.error.injEq] at refused
      subst refused
      unfold validate at first
      split at first <;> cases first
      rfl
    | ok _ =>
      simp only [first, bind, Except.bind] at refused
      split at refused
      · cases refused
        rfl
      · exact ih refused

theorem exists_jobs (valid : validateAll schedules = .ok ()) :
    ∃ orders, jobs schedules = .ok orders := by
  have each : ∀ entry ∈ entries schedules,
      ∃ order, entry.1.job entry.2.1 entry.2.2 = .ok order := by
    rintro ⟨schedule, action, trigger⟩ listed
    obtain ⟨member, enabled⟩ := mem_entries.mp listed
    obtain ⟨rule, made⟩ :=
      ((validateAll_eq_ok_iff.mp valid).1 schedule member).rules action trigger enabled
    exact ⟨_, by rw [job, made]; rfl⟩
  obtain ⟨orders, translated⟩ := Steps.exists_mapM each
  exact ⟨orders, jobs_eq_ok_iff.mpr ⟨valid, translated⟩⟩

theorem jobs_eq_error_iff {fault : Error} :
    jobs schedules = .error fault ↔ validateAll schedules = .error fault := by
  cases checked : validateAll schedules with
  | error found =>
    unfold jobs
    simp [checked, bind, Except.bind]
  | ok _ =>
    obtain ⟨orders, translated⟩ := exists_jobs checked
    simp [translated]

theorem defines_of_job {entry : Schedule × Action × Trigger} {order : Job Order}
    (made : entry.1.job entry.2.1 entry.2.2 = .ok order) : Defines entry order := by
  obtain ⟨name, rule⟩ := job_eq_ok made
  refine ⟨name, rule, ?_⟩
  simp only [job, rule, Except.map, Except.ok.injEq] at made
  rw [← made]

theorem translated_of_jobs (translated : jobs schedules = .ok orders) :
    Translated schedules orders where
  each := by
    rw [← entries_eq_enabled]
    exact (forall₂_of_jobs translated).imp fun _ _ made => defines_of_job made
  distinct := by
    have distinct := distinct_of_jobs translated id
    rwa [List.map_map] at distinct

theorem Defines.jobLine {entry : Schedule × Action × Trigger} {order : Job Order}
    (defines : Defines entry order) (zone : Zone) (now : Instant) :
    entry.1.jobLine zone now entry.2.1 entry.2.2 = .ok (order.line zone now) := by
  have kind := FiringRule.kind_of_ofTrigger defines.rule
  unfold Schedule.jobLine
  rw [defines.rule]
  simp only [Job.line, defines.name, defines.body, kind, jobName, bind, Except.bind, pure,
    Except.pure]
  cases order.rule.nextAfter zone now <;> rfl

theorem jobLines_of_jobs (translated : jobs schedules = .ok orders) (zone : Zone)
    (now : Instant) :
    jobLines schedules zone now = .ok (orders.map fun order => order.line zone now) := by
  apply Steps.mapM_eq_ok_iff.mpr
  rw [List.forall₂_map_right_iff]
  exact (forall₂_of_jobs translated).imp fun _ _ made => (defines_of_job made).jobLine zone now

end Schedule

theorem Job.saysNever_line_iff (job : Job Order) (zone : Zone) (now : Instant) :
    saysNever (job.line zone now) = true ↔ job.rule.nextAfter zone now = none :=
  saysNever_append_iff _ _

namespace Manifest

variable {dir : String} {schedules : List Schedule}

/-- A set that was read from a folder has passed the check. -/
theorem validateAll_of_readFolder {folder : Except FileFault Listing}
    (read : readFolder dir folder = .ok schedules) : Schedule.validateAll schedules = .ok () := by
  cases folder with
  | error fault => cases read
  | ok listing =>
    have loads := readListing_eq_ok_iff_loads.mp read
    exact validateAll_of_gives loads.each loads.distinct

end Manifest

namespace Scheduler

variable {Body : Type} {before : Scheduler Body} {body : Order → Body}
  {schedules : List Schedule} {orders : List (Job Order)}

def withJobs (body : Order → Body) (schedules : List Schedule)
    (call : List (Job Body) → Call Body Unit) : Call Body Unit :=
  match Schedule.jobs schedules with
  | .ok jobs => call (jobs.map (·.map body))
  | .error fault => throw fault

def registerInPlace (body : Order → Body) (schedules : List Schedule) : Call Body Unit :=
  withJobs body schedules addInPlace

def exchangeInPlace (body : Order → Body) (schedules : List Schedule) : Call Body Unit :=
  withJobs body schedules replaceInPlace

theorem withJobs_run {call : List (Job Body) → Call Body Unit}
    {change : List (Job Body) → Except Error (Scheduler Body)}
    (run : ∀ jobs, (call jobs).run.run before = before.resultOf (change jobs)) :
    (withJobs body schedules call).run.run before = before.resultOf (do
      let jobs ← Schedule.jobs schedules
      change (jobs.map (·.map body))) := by
  unfold withJobs
  cases Schedule.jobs schedules with
  | error fault => rfl
  | ok jobs => exact run _

/-- A call fails on account of a set of schedules exactly if the check of the set fails, with
the same error, and then it leaves everything as it was. -/
def FailsAsCheck (before : Scheduler Body) (schedules : List Schedule) (call : Call Body Unit) :
    Prop :=
  ∀ fault after, (call.run.run before = (.error fault, after) ∧ fault.isOfSchedules = true) ↔
    (Schedule.validateAll schedules = .error fault ∧ after = before)

theorem isOfSchedules_of_checkJobs {jobs : List (Job Body)} {fault : Error}
    (refused : before.checkJobs jobs = .error fault) : fault.isOfSchedules = false := by
  induction jobs with
  | nil => cases refused
  | cons job jobs ih =>
    simp only [checkJobs] at refused
    cases first : before.checkName job.name with
    | error found =>
      simp only [first, bind, Except.bind, Except.error.injEq] at refused
      subst refused
      unfold checkName at first
      split at first
      · cases first
        rfl
      · split at first <;> cases first
        rfl
    | ok _ =>
      simp only [first, bind, Except.bind] at refused
      exact ih refused

theorem isOfSchedules_of_checked {jobs : List (Job Body)} {next : Scheduler Body} {fault : Error}
    (refused : (do before.checkJobs jobs; return next) = .error fault) :
    fault.isOfSchedules = false := by
  cases checked : before.checkJobs jobs with
  | error found =>
    simp only [checked, bind, Except.bind, Except.error.injEq] at refused
    exact refused ▸ isOfSchedules_of_checkJobs checked
  | ok _ => simp [checked, bind, Except.bind, pure, Except.pure] at refused

theorem failsAsCheck_withJobs {call : List (Job Body) → Call Body Unit}
    {change : List (Job Body) → Except Error (Scheduler Body)}
    (run : ∀ jobs, (call jobs).run.run before = before.resultOf (change jobs))
    (apart : ∀ jobs fault, change jobs = .error fault → fault.isOfSchedules = false) :
    before.FailsAsCheck schedules (withJobs body schedules call) := by
  intro fault after
  unfold withJobs
  cases checked : Schedule.validateAll schedules with
  | error found =>
    have invalid := Schedule.isOfSchedules_of_validateFrom checked
    rw [Schedule.jobs_eq_error_iff.mpr checked]
    constructor
    · rintro ⟨thrown, _⟩
      cases thrown
      exact ⟨rfl, rfl⟩
    · rintro ⟨same, rfl⟩
      cases same
      exact ⟨rfl, invalid⟩
  | ok _ =>
    obtain ⟨orders, translated⟩ := Schedule.exists_jobs checked
    simp only [translated, reduceCtorEq, false_and, iff_false, not_and]
    -- what the call itself refuses is no fault of the set
    intro failed invalid
    rw [run] at failed
    cases made : change (orders.map (·.map body)) with
    | ok next =>
      rw [made] at failed
      cases failed
    | error other =>
      rw [made] at failed
      cases failed
      cases (apart _ _ made).symm.trans invalid

theorem replaceSchedules_of_jobs (translated : Schedule.jobs schedules = .ok orders)
    (open_ : before.shut = false) :
    ∃ after, before.replaceSchedules body schedules = .ok after ∧
      after.managed.map (·.name) =
        (orders.filter fun order =>
          (order.rule.nextAfter before.zone before.clock).isSome).map (·.name) := by
  have accepted : ¬ before.Refuses (orders.map (·.map body)) := by
    rintro ⟨job, member, shut | unnamed⟩
    · cases open_.symm.trans shut
    · obtain ⟨order, among, rfl⟩ := List.mem_map.mp member
      obtain ⟨entry, _, defines⟩ :=
        Steps.exists_of_forall₂ (Schedule.translated_of_jobs translated).each.flip among
      have named : order.name ≠ "" := by
        rw [defines.name]
        simp
      exact named unnamed
  refine ⟨_, replaceSchedules_eq_ok_iff.mpr
    ⟨orders, translated, replaceManaged_eq_ok_iff.mpr ⟨accepted, rfl⟩⟩, ?_⟩
  rw [managed_insertJobs, managed_dropManaged, List.nil_append, timersFor_names,
    List.filter_map, List.map_map]
  rfl

/-- What a valid set of schedules comes to: its jobs, their lines, and the register once they
were swapped in. -/
structure Installs (before : Scheduler Body) (body : Order → Body) (schedules : List Schedule)
    (orders : List (Job Order)) : Prop where
  jobs : Schedule.jobs schedules = .ok orders
  translated : Schedule.Translated schedules orders
  lines : ∀ zone now,
    Schedule.jobLines schedules zone now = .ok (orders.map fun order => order.line zone now)
  replaced : before.shut = false → ∃ after,
    before.replaceSchedules body schedules = .ok after ∧
    (exchangeInPlace body schedules).run.run before = (.ok (), after) ∧
    after.managed.map (·.name) =
      (orders.filter fun order =>
        (order.rule.nextAfter before.zone before.clock).isSome).map (·.name) ∧
    after.managed.map (·.name) =
      (orders.filter fun order =>
        !saysNever (order.line before.zone before.clock)).map (·.name)

/-- The check, the translation and the listing of a set of schedules agree, and so does the
register after the set was swapped in. -/
theorem translations_agree (before : Scheduler Body) (body : Order → Body)
    (schedules : List Schedule) :
    (∀ fault, Schedule.jobs schedules = .error fault ↔
      Schedule.validateAll schedules = .error fault) ∧
    before.FailsAsCheck schedules (registerInPlace body schedules) ∧
    before.FailsAsCheck schedules (exchangeInPlace body schedules) ∧
    (Schedule.validateAll schedules = .ok () → ∃ orders, before.Installs body schedules orders) ∧
    ∀ dir folder, Manifest.readFolder dir folder = .ok schedules →
      Schedule.validateAll schedules = .ok () := by
  refine ⟨fun _ => Schedule.jobs_eq_error_iff, ?_, ?_, fun valid => ?_, ?_⟩
  · exact failsAsCheck_withJobs (addInPlace_run before) fun _ _ => isOfSchedules_of_checked
  · exact failsAsCheck_withJobs (replaceInPlace_run before) fun _ _ => isOfSchedules_of_checked
  · obtain ⟨orders, translated⟩ := Schedule.exists_jobs valid
    refine ⟨orders, translated, Schedule.translated_of_jobs translated,
      Schedule.jobLines_of_jobs translated, fun open_ => ?_⟩
    -- only jobs with a fire ahead get on the register, which their lines tell as well
    obtain ⟨after, replaced, names⟩ : ∃ after,
        before.replaceSchedules body schedules = .ok after ∧ _ :=
      replaceSchedules_of_jobs translated open_
    have exchanged : (exchangeInPlace body schedules).run.run before =
        before.resultOf (before.replaceSchedules body schedules) :=
      withJobs_run (replaceInPlace_run before)
    rw [replaced] at exchanged
    refine ⟨after, replaced, exchanged, names, ?_⟩
    rw [names]
    congr 2
    funext order
    rw [Bool.eq_iff_iff, Bool.not_eq_true', ← Bool.not_eq_true, Job.saysNever_line_iff,
      ← Option.ne_none_iff_isSome]
  · exact fun _ _ => Manifest.validateAll_of_readFolder

def longPast : Timestamp where
  second := -1
  nanos := 0
  nanos_lt := by decide
  leap_last := by decide
  inReach := by decide +kernel

/-- One schedule is named like a job of the other, and a moment has gone by. -/
theorem translations_agree_of_namesake :
    let daily : Trigger := .daily nineOclock
    let dev : Schedule := ⟨"dev", ⟨.vm, "vm-1", "folder-1"⟩, some (.once longPast), some daily⟩
    let other : Schedule := ⟨"dev:start", ⟨.vm, "vm-2", "folder-1"⟩, some daily, none⟩
    let before : Scheduler Order := start ⟨.machine, 1, 0⟩ ⟨1⟩
    Schedule.validateAll [dev, other] = .ok () ∧
      ∃ orders, before.Installs id [dev, other] orders ∧
        orders.map (·.name) = ["dev:start", "dev:stop", "dev:start:start"] ∧
        ∃ after, before.replaceSchedules id [dev, other] = .ok after ∧
          after.managed.map (·.name) = ["dev:stop", "dev:start:start"] := by
  intro daily dev other before
  have valid : Schedule.validateAll [dev, other] = .ok () := by decide +kernel
  obtain ⟨orders, installs⟩ := (translations_agree before id [dev, other]).2.2.2.1 valid
  have translated : Schedule.translate [dev, other] = .ok
      [⟨"dev:start", .once ⟨-1000000000⟩, ⟨dev, "start"⟩⟩, ⟨"dev:stop", .daily nineOclock, ⟨dev, "stop"⟩⟩,
        ⟨"dev:start:start", .daily nineOclock, ⟨other, "start"⟩⟩] := rfl
  obtain rfl := Except.ok.inj
    ((Schedule.jobs_eq_ok_iff.mp installs.jobs).2.symm.trans translated)
  obtain ⟨after, replaced, _, live, _⟩ := installs.replaced rfl
  refine ⟨valid, _, installs, rfl, after, replaced, live.trans ?_⟩
  decide +kernel

end Scheduler

end PowerRota
