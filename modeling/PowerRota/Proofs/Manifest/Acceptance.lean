import PowerRota.Manifest.Message
import PowerRota.Proofs.Data.Steps
import PowerRota.Proofs.Schedule.Validity

/-! The manifests that declare a schedule, and the schedule that each of them declares.

An enabled action is looked at twice: when its trigger is made from what is written, and when the
schedule is checked. Together the two admit exactly the actions that supply what the type of the
schedule asks for. A disabled action is not looked at, whatever is written under it. -/

set_option autoImplicit false

namespace PowerRota

open PowerRota.Calendar PowerRota.Schedule

theorem TriggerKind.ofLabel?_eq_some_iff {label : String} {kind : TriggerKind} :
    ofLabel? label = some kind ↔ kind.label = label := by
  constructor
  · intro found
    have fits := List.find?_some found
    exact eq_of_beq fits
  · rintro rfl
    cases kind <;> rfl

theorem ResourceKind.ofLabel?_eq_some_iff {label : String} {kind : ResourceKind} :
    ofLabel? label = some kind ↔ kind.label = label := by
  constructor
  · intro found
    have fits := List.find?_some found
    exact eq_of_beq fits
  · rintro rfl
    cases kind <;> rfl

/-! Actions. -/

namespace ActionEntry

/-- What is written under an action supplies what schedules of a kind need, and so declares a
trigger. Sunday is the day where none is given, and the first of the month. -/
inductive Declares (entry : ActionEntry) : TriggerKind → Trigger → Prop where
  | cron {text : String} {rule : FiringRule} (given : entry.crontab = some text)
      (admitted : FiringRule.ofCron text = .ok rule) : Declares entry .cron (.cron text)
  | daily {text : String} {time : TimeOfDay} (given : entry.time = some text)
      (read : TimeOfDay.read text = .ok time) : Declares entry .daily (.daily time)
  | weekly {text : String} {time : TimeOfDay} {day : UInt8} (given : entry.time = some text)
      (read : TimeOfDay.read text = .ok time) (chosen : entry.day.getD 0 = day.toNat)
      (in_week : day.toNat ≤ 6) : Declares entry .weekly (.weekly time day)
  | monthly {text : String} {time : TimeOfDay} {day : UInt8} (given : entry.time = some text)
      (read : TimeOfDay.read text = .ok time) (chosen : entry.day.getD 1 = day.toNat)
      (in_month : 1 ≤ day.toNat ∧ day.toNat ≤ 31) : Declares entry .monthly (.monthly time day)
  | interval {text : String} {every : Duration} (given : entry.every = some text)
      (read : Duration.read text = .ok every) (positive : every.isZero = false) :
      Declares entry .interval (.interval every)
  | once {text : String} {timestamp : Timestamp} (given : entry.moment = some text)
      (read : Timestamp.read? text = some timestamp) : Declares entry .once (.once timestamp)

variable {entry : ActionEntry} {kind : TriggerKind} {trigger : Trigger}

theorem need_eq_ok_iff {A : Type} {field : String} {value? : Option A} {value : A} :
    need field value? = .ok value ↔ value? = some value := by
  cases value? <;> simp [need]

theorem readTime_eq_ok_iff {time : TimeOfDay} :
    entry.readTime = .ok time ↔
      ∃ text, entry.time = some text ∧ TimeOfDay.read text = .ok time := by
  simp only [readTime, Steps.bind_eq_ok_iff, need_eq_ok_iff, Steps.mapError_eq_ok_iff]

theorem readDay_eq_ok_iff {default : Int} {day : UInt8} :
    entry.readDay default = .ok day ↔ entry.day.getD default = day.toNat := by
  unfold readDay
  have small := day.toNat_lt
  simp only
  split
  next fits =>
    rw [Except.ok.injEq, ← UInt8.toNat_inj, UInt8.toNat_ofNat']
    omega
  next beyond =>
    simp only [reduceCtorEq, false_iff]
    omega

theorem Declares.passes (declares : entry.Declares kind trigger) :
    entry.trigger kind.label = .ok trigger ∧ ∃ rule, FiringRule.ofTrigger trigger = .ok rule := by
  unfold ActionEntry.trigger
  rw [TriggerKind.ofLabel?_eq_some_iff.mpr rfl]
  cases declares with
  | cron given admitted =>
    simp only [Steps.bind_eq_ok_iff, need_eq_ok_iff]
    exact ⟨⟨_, given, rfl⟩, _, admitted⟩
  | daily given read =>
    simp only [Steps.bind_eq_ok_iff, readTime_eq_ok_iff]
    exact ⟨⟨_, ⟨_, given, read⟩, rfl⟩, _, rfl⟩
  | weekly given read chosen in_week =>
    simp only [Steps.bind_eq_ok_iff, readTime_eq_ok_iff, readDay_eq_ok_iff]
    exact ⟨⟨_, ⟨_, given, read⟩, _, chosen, rfl⟩, _, dif_pos (Nat.lt_succ_of_le in_week)⟩
  | monthly given read chosen in_month =>
    simp only [Steps.bind_eq_ok_iff, readTime_eq_ok_iff, readDay_eq_ok_iff]
    exact ⟨⟨_, ⟨_, given, read⟩, _, chosen, rfl⟩, _, dif_pos in_month⟩
  | interval given read positive =>
    simp only [Steps.bind_eq_ok_iff, need_eq_ok_iff, Steps.mapError_eq_ok_iff]
    exact ⟨⟨_, given, _, read, rfl⟩, _, dif_pos positive⟩
  | once given read =>
    simp only [Steps.bind_eq_ok_iff, need_eq_ok_iff]
    exact ⟨⟨_, given, by rw [read]; rfl⟩, _, rfl⟩

theorem declares_of_passes {scheduleType : String} {rule : FiringRule}
    (made : entry.trigger scheduleType = .ok trigger)
    (admitted : FiringRule.ofTrigger trigger = .ok rule) :
    ∃ kind, kind.label = scheduleType ∧ entry.Declares kind trigger := by
  unfold ActionEntry.trigger at made
  -- the kind decides which fields are read, and whether the rule adds a condition
  cases known : TriggerKind.ofLabel? scheduleType with
  | none => simp [known] at made
  | some kind =>
    refine ⟨kind, TriggerKind.ofLabel?_eq_some_iff.mp known, ?_⟩
    rw [known] at made
    cases kind with
    | cron =>
      simp only [Steps.bind_eq_ok_iff, need_eq_ok_iff, Steps.pure_eq_ok_iff] at made
      obtain ⟨text, given, rfl⟩ := made
      exact .cron given admitted
    | daily =>
      simp only [Steps.bind_eq_ok_iff, readTime_eq_ok_iff, Steps.pure_eq_ok_iff] at made
      obtain ⟨time, ⟨text, given, read⟩, rfl⟩ := made
      exact .daily given read
    | weekly =>
      simp only [Steps.bind_eq_ok_iff, readTime_eq_ok_iff, readDay_eq_ok_iff,
        Steps.pure_eq_ok_iff] at made
      obtain ⟨time, ⟨text, given, read⟩, day, chosen, rfl⟩ := made
      simp only [FiringRule.ofTrigger] at admitted
      split at admitted
      next in_week => exact .weekly given read chosen (Nat.le_of_lt_succ in_week)
      next => cases admitted
    | monthly =>
      simp only [Steps.bind_eq_ok_iff, readTime_eq_ok_iff, readDay_eq_ok_iff,
        Steps.pure_eq_ok_iff] at made
      obtain ⟨time, ⟨text, given, read⟩, day, chosen, rfl⟩ := made
      simp only [FiringRule.ofTrigger] at admitted
      split at admitted
      next in_month => exact .monthly given read chosen in_month
      next => cases admitted
    | interval =>
      simp only [Steps.bind_eq_ok_iff, need_eq_ok_iff, Steps.mapError_eq_ok_iff,
        Steps.pure_eq_ok_iff] at made
      obtain ⟨text, given, every, read, rfl⟩ := made
      simp only [FiringRule.ofTrigger] at admitted
      split at admitted
      next positive => exact .interval given read positive
      next => cases admitted
    | once =>
      simp only [Steps.bind_eq_ok_iff, need_eq_ok_iff] at made
      obtain ⟨text, given, made⟩ := made
      split at made
      next read =>
        cases made
        exact .once given read
      next => cases made

theorem every_of_trigger {scheduleType : String} {fault : DurationFault}
    (refused : entry.trigger scheduleType = .error (.every fault)) :
    scheduleType = "interval" ∧ ∃ text, entry.every = some text ∧
      Duration.read text = .error fault := by
  have need_ne {field : String} {value? : Option String} :
      need field value? ≠ .error (.every fault) := by
    cases value? <;> simp [need]
  have time_ne : entry.readTime ≠ .error (.every fault) := by
    simp [readTime, Steps.bind_eq_error_iff, need_ne, Steps.mapError_eq_error_iff]
  have day_ne (default : Int) : entry.readDay default ≠ .error (.every fault) := by
    unfold readDay
    simp only
    split <;> simp
  unfold ActionEntry.trigger at refused
  -- no other kind reads the length
  cases known : TriggerKind.ofLabel? scheduleType with
  | none => simp [known] at refused
  | some kind =>
    rw [known] at refused
    cases kind with
    | interval =>
      simp only [Steps.bind_eq_error_iff, need_ne, false_or, need_eq_ok_iff,
        Steps.mapError_eq_error_iff, ActionFault.every.injEq, exists_eq_right] at refused
      obtain ⟨text, given, read | ⟨_, _, impossible⟩⟩ := refused
      · exact ⟨(TriggerKind.ofLabel?_eq_some_iff.mp known).symm, text, given, read⟩
      · cases impossible
    | once =>
      simp only [Steps.bind_eq_error_iff, need_ne, false_or] at refused
      obtain ⟨text, -, refused⟩ := refused
      split at refused <;> cases refused
    | _ => simp [Steps.bind_eq_error_iff, need_ne, time_ne, day_ne, pure, Except.pure] at refused

end ActionEntry

/-! Manifests. -/

namespace Manifest

variable {manifest : Manifest} {schedule : Schedule}

def Enables (manifest : Manifest) (action : Action) (entry : ActionEntry) : Prop :=
  manifest.entry? action = some entry ∧ entry.enabled = true

/-- An enabled action declares a trigger, of the type that the manifest gives. -/
def Assigns (manifest : Manifest) (action : Action) (trigger : Trigger) : Prop :=
  ∃ entry kind, manifest.Enables action entry ∧ kind.label = manifest.scheduleType ∧
    entry.Declares kind trigger

structure Acceptable (manifest : Manifest) : Prop where
  apiVersion : manifest.apiVersion = "cloudnap/v1alpha1"
  kind : manifest.kind = "Schedule"
  resourceKind : manifest.resourceKind = "vm" ∨ manifest.resourceKind = "k8s_cluster"
  name : Schedule.isBlank manifest.name = false
  resourceId : Schedule.isBlank manifest.resourceId = false
  folder : Schedule.isBlank manifest.folder = false
  enabled : ∃ action entry, manifest.Enables action entry
  supplied : ∀ action entry, manifest.Enables action entry → ∃ trigger,
    manifest.Assigns action trigger

/-- The schedule is named as the manifest says, is about the resource that it names, and has the
triggers of exactly the enabled actions. -/
structure Declares (manifest : Manifest) (schedule : Schedule) : Prop where
  name : schedule.name = manifest.name
  resourceKind : schedule.resource.kind.label = manifest.resourceKind
  resourceId : schedule.resource.id = manifest.resourceId
  folder : schedule.resource.folder = manifest.folder
  triggers : ∀ action trigger,
    schedule.trigger? action = some trigger ↔ manifest.Assigns action trigger

def without (manifest : Manifest) : Action → Manifest
  | .start => { manifest with start := none }
  | .stop => { manifest with stop := none }

variable {action : Action} {entry : ActionEntry} {trigger : Trigger} {found : Option Trigger}

theorem filter_entry?_eq_some_iff :
    (manifest.entry? action).filter (·.enabled) = some entry ↔ manifest.Enables action entry := by
  rw [Option.filter_eq_some_iff]
  rfl

theorem Enables.eq (enables : manifest.Enables action entry) {other : ActionEntry}
    (enabled : manifest.Enables action other) : other = entry :=
  Option.some.inj (enabled.1.symm.trans enables.1)

theorem trigger?_of_enables (enables : manifest.Enables action entry) :
    manifest.trigger? action =
      ((entry.trigger manifest.scheduleType).map some).mapError (.action action) := by
  rw [trigger?, filter_entry?_eq_some_iff.mpr enables]

theorem trigger?_of_disabled (disabled : ¬ ∃ entry, manifest.Enables action entry) :
    manifest.trigger? action = .ok none := by
  rw [trigger?]
  cases found : (manifest.entry? action).filter (·.enabled) with
  | none => rfl
  | some entry => exact absurd ⟨entry, filter_entry?_eq_some_iff.mp found⟩ disabled

theorem eq_some_iff_assigns (made : manifest.trigger? action = .ok found)
    (admitted : ∀ trigger, found = some trigger → ∃ rule, FiringRule.ofTrigger trigger = .ok rule) :
    found = some trigger ↔ manifest.Assigns action trigger := by
  by_cases enabled : ∃ entry, manifest.Enables action entry
  · obtain ⟨entry, enables⟩ := enabled
    rw [trigger?_of_enables enables, Steps.mapError_eq_ok_iff, Steps.map_eq_ok_iff] at made
    obtain ⟨actual, made, rfl⟩ := made
    rw [Option.some.injEq]
    -- an entry declares one trigger at most, since it makes one at most
    constructor
    · rintro rfl
      obtain ⟨rule, admitted⟩ := admitted actual rfl
      obtain ⟨kind, labelled, declares⟩ := ActionEntry.declares_of_passes made admitted
      exact ⟨entry, kind, enables, labelled, declares⟩
    · rintro ⟨other, kind, also, labelled, declares⟩
      cases enables.eq also
      have passes := declares.passes.1
      rw [labelled, made] at passes
      exact Except.ok.inj passes
  · rw [trigger?_of_disabled enabled] at made
    cases made
    constructor
    · intro impossible
      cases impossible
    · rintro ⟨entry, _, enables, _⟩
      exact absurd ⟨entry, enables⟩ enabled

theorem exists_trigger?
    (supplied : ∀ entry, manifest.Enables action entry → ∃ trigger, manifest.Assigns action trigger) :
    ∃ found, manifest.trigger? action = .ok found ∧
      ∀ trigger, found = some trigger → ∃ rule, FiringRule.ofTrigger trigger = .ok rule := by
  by_cases enabled : ∃ entry, manifest.Enables action entry
  · obtain ⟨entry, enables⟩ := enabled
    obtain ⟨trigger, other, kind, also, labelled, declares⟩ := supplied entry enables
    cases enables.eq also
    obtain ⟨made, admitted⟩ := declares.passes
    refine ⟨some trigger, ?_, ?_⟩
    · rw [trigger?_of_enables enables, ← labelled, made]
      rfl
    · rintro _ ⟨⟩
      exact admitted
  · exact ⟨none, trigger?_of_disabled enabled, fun _ impossible => nomatch impossible⟩

/-- The schedule is put together from the parts of a manifest, and checked. -/
theorem assembled_iff {checked : Schedule} :
    (match checked.fault? with
      | none => pure checked
      | some fault => throw (ManifestFault.schedule manifest.name fault)) =
        (.ok schedule : Except ManifestFault Schedule) ↔
      checked.Valid ∧ checked = schedule := by
  rw [← Schedule.fault?_eq_none_iff]
  cases checked.fault? with
  | none => simp [Steps.pure_eq_ok_iff]
  | some fault => simp [Steps.throw_eq]

theorem schedule_eq_ok_iff :
    manifest.schedule = .ok schedule ↔
      manifest.apiVersion = supportedVersion ∧ manifest.kind = supportedKind ∧
      ∃ kind : ResourceKind, kind.label = manifest.resourceKind ∧
      ∃ start, manifest.trigger? .start = .ok start ∧ ∃ stop, manifest.trigger? .stop = .ok stop ∧
      Valid ⟨manifest.name, ⟨kind, manifest.resourceId, manifest.folder⟩, start, stop⟩ ∧
      ⟨manifest.name, ⟨kind, manifest.resourceId, manifest.folder⟩, start, stop⟩ = schedule := by
  unfold Manifest.schedule
  by_cases version : manifest.apiVersion = supportedVersion
  · by_cases kind : manifest.kind = supportedKind
    · simp only [version, kind, ne_eq, not_true_eq_false, if_false, true_and,
        ← ResourceKind.ofLabel?_eq_some_iff]
      cases ResourceKind.ofLabel? manifest.resourceKind with
      | none => simp [Steps.bind_eq_ok_iff, Steps.throw_eq]
      | some kind =>
        simp only [pure_bind, Steps.bind_eq_ok_iff, Option.some.injEq, exists_eq_left']
        exact exists_congr fun start => and_congr_right' <| exists_congr fun stop =>
          and_congr_right' assembled_iff
    · simp [version, kind, Steps.bind_eq_ok_iff, Steps.throw_eq]
  · simp [version, Steps.bind_eq_ok_iff, Steps.throw_eq]

theorem parts_of_schedule (made : manifest.schedule = .ok schedule) :
    schedule.Valid ∧ schedule.name = manifest.name ∧
      schedule.resource.kind.label = manifest.resourceKind ∧
      schedule.resource.id = manifest.resourceId ∧ schedule.resource.folder = manifest.folder ∧
      ∀ action, manifest.trigger? action = .ok (schedule.trigger? action) := by
  obtain ⟨-, -, kind, labelled, start, started, stop, stopped, valid, rfl⟩ :=
    schedule_eq_ok_iff.mp made
  refine ⟨valid, rfl, labelled, rfl, rfl, ?_⟩
  intro action
  cases action with
  | start => exact started
  | stop => exact stopped

theorem declares_of_schedule (made : manifest.schedule = .ok schedule) :
    manifest.Declares schedule := by
  obtain ⟨valid, name, resourceKind, resourceId, folder, triggers⟩ := parts_of_schedule made
  exact ⟨name, resourceKind, resourceId, folder, fun action trigger =>
    eq_some_iff_assigns (triggers action) (valid.rules action)⟩

theorem acceptable_of_schedule (made : manifest.schedule = .ok schedule) :
    manifest.Acceptable := by
  have declares := declares_of_schedule made
  obtain ⟨valid, -, -, -, -, triggers⟩ := parts_of_schedule made
  obtain ⟨version, kind, -⟩ := schedule_eq_ok_iff.mp made
  refine ⟨version, kind, ?_, ?_, ?_, ?_, ?_, ?_⟩
  · rw [← declares.resourceKind]
    cases schedule.resource.kind with
    | vm => exact .inl rfl
    | cluster => exact .inr rfl
  · exact declares.name ▸ valid.name
  · exact declares.resourceId ▸ valid.resourceId
  · exact declares.folder ▸ valid.folder
  · obtain ⟨action, trigger, enabled⟩ := valid.enabled
    obtain ⟨entry, _, enables, _⟩ := (declares.triggers action trigger).mp enabled
    exact ⟨action, entry, enables⟩
  · intro action entry enables
    have made := triggers action
    rw [trigger?_of_enables enables, Steps.mapError_eq_ok_iff, Steps.map_eq_ok_iff] at made
    obtain ⟨trigger, -, assigned⟩ := made
    exact ⟨trigger, (declares.triggers action trigger).mp assigned.symm⟩

theorem exists_schedule (acceptable : manifest.Acceptable) :
    ∃ schedule, manifest.schedule = .ok schedule := by
  obtain ⟨kind, labelled⟩ : ∃ kind : ResourceKind, kind.label = manifest.resourceKind :=
    acceptable.resourceKind.elim (fun vm => ⟨.vm, vm.symm⟩) (fun cluster => ⟨.cluster, cluster.symm⟩)
  have taken (action : Action) := exists_trigger? (acceptable.supplied action)
  obtain ⟨start, started, start_rule⟩ := taken .start
  obtain ⟨stop, stopped, stop_rule⟩ := taken .stop
  refine ⟨_, schedule_eq_ok_iff.mpr ⟨acceptable.apiVersion, acceptable.kind, kind, labelled, start,
    started, stop, stopped, ?_, rfl⟩⟩
  have triggers (action : Action) (trigger : Trigger) :
      Schedule.trigger? ⟨manifest.name, ⟨kind, manifest.resourceId, manifest.folder⟩, start, stop⟩
        action = some trigger ↔ manifest.Assigns action trigger := by
    cases action with
    | start => exact eq_some_iff_assigns started start_rule
    | stop => exact eq_some_iff_assigns stopped stop_rule
  refine ⟨acceptable.name, acceptable.resourceId, acceptable.folder, ?_, ?_⟩
  · obtain ⟨action, entry, enables⟩ := acceptable.enabled
    obtain ⟨trigger, assigned⟩ := acceptable.supplied action entry enables
    exact ⟨action, trigger, (triggers action trigger).mpr assigned⟩
  · intro action
    cases action with
    | start => exact start_rule
    | stop => exact stop_rule

theorem schedule_without (given : manifest.entry? action = some entry)
    (disabled : entry.enabled = false) :
    (manifest.without action).schedule = manifest.schedule := by
  have nothing : manifest.trigger? action = .ok none := by
    apply trigger?_of_disabled
    rintro ⟨other, same, enabled⟩
    cases given.symm.trans same
    cases disabled.symm.trans enabled
  cases action with
  | start => rw [Manifest.schedule, Manifest.schedule, nothing]; rfl
  | stop => rw [Manifest.schedule, Manifest.schedule, nothing]; rfl

theorem trigger?_of_fatal {fault : ManifestFault} (refused : manifest.schedule = .error fault)
    (fatal : fault.isFatal = true) : ∃ action, manifest.trigger? action = .error fault := by
  unfold Manifest.schedule at refused
  simp only [Steps.throw_eq, Steps.error_bind] at refused
  split at refused
  next =>
    cases refused
    cases fatal
  next =>
    split at refused
    next =>
      cases refused
      cases fatal
    next =>
      simp only [pure_bind] at refused
      split at refused
      next kind _ =>
        simp only [Steps.bind_eq_error_iff] at refused
        obtain refused | ⟨start, -, refused | ⟨stop, -, refused⟩⟩ := refused
        · exact ⟨.start, refused⟩
        · exact ⟨.stop, refused⟩
        · split at refused <;> cases refused
          cases fatal
      next =>
        cases refused
        cases fatal

/-- A manifest ends the program only through the length of an interval that is too long to
represent. -/
theorem overflow_of_fatal {fault : ManifestFault} (refused : manifest.schedule = .error fault)
    (fatal : fault.isFatal = true) :
    manifest.scheduleType = "interval" ∧ ∃ action entry text, manifest.Enables action entry ∧
      entry.every = some text ∧ Duration.read text = .error .overflow := by
  obtain ⟨action, unread⟩ := trigger?_of_fatal refused fatal
  by_cases enabled : ∃ entry, manifest.Enables action entry
  · obtain ⟨entry, enables⟩ := enabled
    rw [trigger?_of_enables enables, Steps.mapError_eq_error_iff] at unread
    obtain ⟨cause, unread, rfl⟩ := unread
    rw [Steps.map_eq_error_iff] at unread
    cases cause with
    | every cause =>
      obtain ⟨interval, text, given, read⟩ := ActionEntry.every_of_trigger unread
      cases eq_of_beq fatal
      exact ⟨interval, action, entry, text, enables, given, read⟩
    | _ => cases fatal
  · cases (trigger?_of_disabled enabled).symm.trans unread

/-- A manifest is accepted exactly if it is acceptable. The schedule that it then gives passes
its own check and is the one that the manifest declares. -/
theorem schedule_ok_iff_acceptable (manifest : Manifest) :
    ((∃ schedule, manifest.schedule = .ok schedule) ↔ manifest.Acceptable) ∧
    (∀ schedule, manifest.schedule = .ok schedule →
      schedule.validate = .ok () ∧ manifest.Declares schedule) ∧
    (∀ action entry, manifest.entry? action = some entry → entry.enabled = false →
      (manifest.without action).schedule = manifest.schedule) ∧
    (∀ fault, manifest.schedule = .error fault → fault.isFatal = true →
      manifest.scheduleType = "interval" ∧ ∃ action entry text, manifest.Enables action entry ∧
        entry.every = some text ∧ Duration.read text = .error .overflow) := by
  refine ⟨⟨fun ⟨_, made⟩ => acceptable_of_schedule made, exists_schedule⟩, ?_, ?_, ?_⟩
  · intro schedule made
    exact ⟨Schedule.validate_eq_ok_iff.mpr (parts_of_schedule made).1, declares_of_schedule made⟩
  · intro action entry given disabled
    exact schedule_without given disabled
  · intro fault refused fatal
    exact overflow_of_fatal refused fatal

/-- The start is on Mondays; the disabled stop holds neither a time nor a day of the week. -/
theorem schedule_ok_iff_acceptable_of_disabled_stop :
    let manifest : Manifest :=
      { apiVersion := "cloudnap/v1alpha1", kind := "Schedule", name := "dev"
        scheduleType := "weekly", resourceKind := "vm", resourceId := "fhm123", folder := "b1g456"
        start := some ⟨true, some "09:00", none, some 1, none, none⟩
        stop := some ⟨false, none, some "9 o'clock", some 300, none, none⟩ }
    let monday : Schedule :=
      ⟨"dev", ⟨.vm, "fhm123", "b1g456"⟩,
        some (.weekly ⟨9, 0, 0, by decide, by decide, by decide⟩ 1), none⟩
    manifest.schedule = .ok monday ∧ manifest.Acceptable ∧ manifest.Declares monday ∧
      (manifest.without .stop).schedule = .ok monday := by
  intro manifest monday
  have made : manifest.schedule = .ok monday := by decide +kernel
  obtain ⟨accepted, given, left_out, -⟩ := schedule_ok_iff_acceptable manifest
  exact ⟨made, accepted.mp ⟨monday, made⟩, (given monday made).2,
    (left_out .stop _ rfl rfl).trans made⟩

end Manifest

end PowerRota
