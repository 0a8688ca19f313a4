import Mathlib.Data.List.Nodup
import PowerRota.Schedule

/-! What the check of a schedule admits, and the check of a set of schedules. -/

set_option autoImplicit false

namespace PowerRota.Schedule

variable {schedule : Schedule} {schedules : List Schedule}

structure Valid (schedule : Schedule) : Prop where
  name : isBlank schedule.name = false
  resourceId : isBlank schedule.resource.id = false
  folder : isBlank schedule.resource.folder = false
  enabled : ∃ action trigger, schedule.trigger? action = some trigger
  rules : ∀ action trigger, schedule.trigger? action = some trigger →
    ∃ rule, FiringRule.ofTrigger trigger = .ok rule

theorem noAction_iff :
    (schedule.start.isNone && schedule.stop.isNone) = true ↔
      ¬ ∃ action trigger, schedule.trigger? action = some trigger := by
  rw [Bool.and_eq_true, Option.isNone_iff_eq_none, Option.isNone_iff_eq_none]
  constructor
  · rintro ⟨start, stop⟩ ⟨action, trigger, enabled⟩
    cases action with
    | start => cases start.symm.trans enabled
    | stop => cases stop.symm.trans enabled
  · intro none_enabled
    exact ⟨Option.eq_none_iff_forall_ne_some.mpr fun trigger enabled =>
        none_enabled ⟨.start, trigger, enabled⟩,
      Option.eq_none_iff_forall_ne_some.mpr fun trigger enabled =>
        none_enabled ⟨.stop, trigger, enabled⟩⟩

theorem rules_iff :
    (schedule.actions.findSome? fun (action, trigger) =>
      match FiringRule.ofTrigger trigger with
      | .ok _ => none
      | .error fault => some (ScheduleFault.action action fault)) = none ↔
      ∀ action trigger, schedule.trigger? action = some trigger →
        ∃ rule, FiringRule.ofTrigger trigger = .ok rule := by
  rw [List.findSome?_eq_none_iff]
  constructor
  · intro faultless action trigger enabled
    have accepted := faultless _ (mem_actions.mpr enabled)
    cases made : FiringRule.ofTrigger trigger with
    | ok rule => exact ⟨rule, rfl⟩
    | error fault => simp [made] at accepted
  · rintro rules ⟨action, trigger⟩ member
    obtain ⟨rule, made⟩ := rules action trigger (mem_actions.mp member)
    simp only [made]

theorem fault?_eq_none_iff : schedule.fault? = none ↔ schedule.Valid := by
  unfold fault?
  constructor
  · intro faultless
    split_ifs at faultless with named identified filed enabled
    exact ⟨eq_false_of_ne_true named, eq_false_of_ne_true identified, eq_false_of_ne_true filed,
      not_not.mp (mt noAction_iff.mpr enabled), rules_iff.mp faultless⟩
  · intro valid
    have enabled := mt noAction_iff.mp (not_not_intro valid.enabled)
    simp only [valid.name, valid.resourceId, valid.folder, enabled, Bool.false_eq_true, if_false]
    exact rules_iff.mpr valid.rules

theorem validate_eq_ok_iff : schedule.validate = .ok () ↔ schedule.Valid := by
  rw [← fault?_eq_none_iff]
  unfold validate
  cases schedule.fault? <;> simp

theorem validateFrom_eq_ok_iff {taken : List String} :
    validateFrom taken schedules = .ok () ↔
      (∀ schedule ∈ schedules, schedule.Valid) ∧ (schedules.map (·.name)).Nodup ∧
        ∀ schedule ∈ schedules, schedule.name ∉ taken := by
  induction schedules generalizing taken with
  | nil => simp [validateFrom]
  | cons schedule rest ih =>
    simp only [validateFrom, List.forall_mem_cons, ← @validate_eq_ok_iff schedule]
    cases schedule.validate with
    | error fault => simp [bind, Except.bind]
    | ok _ =>
      simp only [bind, Except.bind, List.contains_iff_mem]
      by_cases listed : schedule.name ∈ taken
      · simp [listed]
      · -- the names of the rest are taken neither by what came before nor by this schedule
        simp only [listed, if_false, ih, List.map_cons, List.nodup_cons, List.mem_cons, not_or,
          List.mem_map, not_exists, not_and, not_false_eq_true, true_and]
        constructor
        · rintro ⟨valid, distinct, apart⟩
          exact ⟨valid, ⟨fun other member => (apart other member).1, distinct⟩,
            fun other member => (apart other member).2⟩
        · rintro ⟨valid, ⟨other, distinct⟩, apart⟩
          exact ⟨valid, distinct, fun schedule member => ⟨other schedule member, apart schedule member⟩⟩

/-- A set is admitted if every schedule is and no two share a name. -/
theorem validateAll_eq_ok_iff :
    validateAll schedules = .ok () ↔
      (∀ schedule ∈ schedules, schedule.Valid) ∧ (schedules.map (·.name)).Nodup := by
  simp [validateAll, validateFrom_eq_ok_iff]

end PowerRota.Schedule
