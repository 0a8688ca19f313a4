import Mathlib.Order.Bounds.Defs
import PowerRota.Calendar.Timetable
import PowerRota.Proofs.Firing.Candidates

/-! Daily, weekly and monthly rules find the nearest fires, in both directions. -/

set_option autoImplicit false

namespace PowerRota

open PowerRota.Calendar

namespace Calendar

def yearNanos : Int := 365 * 86400 * Instant.nanosPerSecond

/-- Instants that are a year or more from both ends of the time line. -/
def Instant.WellInside (t : Instant) : Prop :=
  Instant.earliest.addNanos yearNanos ≤ t ∧ t.addNanos yearNanos ≤ Instant.latest

end Calendar

namespace FiringRule

variable {zone : Zone} {t : Instant}

def time? : FiringRule → Option TimeOfDay
  | .daily time | .weekly time _ | .monthly time _ _ => some time
  | .cron _ | .interval _ _ | .once _ => none

/-- The dates of a calendar rule. -/
def OnCalendar (rule : FiringRule) (day : Int) : Prop :=
  match rule with
  | .daily _ => True
  | .weekly _ weekday => weekdayOf day = weekday
  | .monthly _ dayOfMonth _ =>
      (Date.ofDay day).day =
        min dayOfMonth (monthLength (Date.ofDay day).year (Date.ofDay day).month)
  | .cron _ | .interval _ _ | .once _ => False

/-- The fires of a calendar rule: its wall time on each of its dates. -/
def FiresAt (rule : FiringRule) (zone : Zone) (fire : Instant) : Prop :=
  ∃ time day, rule.time? = some time ∧ rule.OnCalendar day ∧ atLocal? zone day time = some fire

theorem second_bounds (inside : t.WellInside) :
    (yearStart Date.firstYear + 365) * 86400 ≤ t.second ∧
      t.second < (yearStart (Date.lastYear + 1) - 365) * 86400 := by
  obtain ⟨first, last⟩ := inside
  simp only [Instant.le_def, Instant.addNanos, Instant.earliest, Instant.latest, Instant.ofSecond,
    yearNanos, Instant.nanosPerSecond] at first last
  unfold Instant.second Instant.nanosPerSecond
  omega

theorem monthOf_dayAt_bounds (zone : Zone) (inside : t.WellInside) :
    12 * Date.firstYear + 2 ≤ monthOf (zone.dayAt t.second) ∧
      monthOf (zone.dayAt t.second) + 3 < 12 * (Date.lastYear + 1) := by
  obtain ⟨first, last⟩ := second_bounds inside
  obtain ⟨behind, ahead⟩ := zone.isOffset_offsetAt t.second
  have after_first : monthStart (12 * Date.firstYear + 2) ≤ yearStart Date.firstYear + 364 := by
    decide +kernel
  have before_last : yearStart (Date.lastYear + 1) - 365 < monthStart (12 * Date.lastYear + 9) := by
    decide +kernel
  -- the local date is a day off at most, which leaves 364 days of the year
  have day_bounds : yearStart Date.firstYear + 364 ≤ zone.dayAt t.second ∧
      zone.dayAt t.second ≤ yearStart (Date.lastYear + 1) - 365 := by
    unfold Zone.dayAt Zone.wallAt
    omega
  obtain ⟨start, finish⟩ := monthOf_bounds (zone.dayAt t.second)
  have low := monthStart_lt_iff.mp (show monthStart (12 * Date.firstYear + 2) <
    monthStart (monthOf (zone.dayAt t.second) + 1) by omega)
  have high := monthStart_lt_iff.mp (show monthStart (monthOf (zone.dayAt t.second)) <
    monthStart (12 * Date.lastYear + 9) by omega)
  omega

theorem pairwise_three {Entry : Type} {precedes : Entry → Entry → Prop} {first second third : Entry}
    (near : precedes first second) (far : precedes first third) (next : precedes second third) :
    [first, second, third].Pairwise precedes := by
  simp [near, far, next]

theorem daily_ahead (today : Int) :
    Candidates (· < ·) (fun _ => True) today [today, today + 1, today + 2] where
  ordered := pairwise_three (by omega) (by omega) (by omega)
  listed := fun _ _ => trivial
  complete day _ not_past := by simp; omega
  reaches := ⟨today + 1, by simp, Int.lt_succ today⟩

theorem daily_back (today : Int) :
    Candidates (· > ·) (fun _ => True) today [today, today - 1, today - 2] where
  ordered := pairwise_three (by omega) (by omega) (by omega)
  listed := fun _ _ => trivial
  complete day _ not_past := by simp; omega
  reaches := ⟨today - 1, by simp, Int.sub_lt_self today (by decide)⟩

theorem weekly_ahead (weekday : Fin 7) (today : Int) :
    let ahead := daysBetween (weekdayOf today) weekday
    Candidates (· < ·) (weekdayOf · = weekday) today [today + ahead, today + (ahead + 7)] where
  ordered := List.pairwise_pair.mpr (by omega)
  listed day member := by
    simp [weekdayOf, daysBetween] at member ⊢
    omega
  complete day calendar not_past := by
    simp [weekdayOf, daysBetween] at calendar ⊢
    omega
  reaches := by
    refine ⟨_, List.mem_cons_of_mem _ (List.mem_singleton_self _), ?_⟩
    omega

theorem weekly_back (weekday : Fin 7) (today : Int) :
    let back := daysBetween weekday (weekdayOf today)
    Candidates (· > ·) (weekdayOf · = weekday) today [today - back, today - (back + 7)] where
  ordered := List.pairwise_pair.mpr (by omega)
  listed day member := by
    simp [weekdayOf, daysBetween] at member ⊢
    omega
  complete day calendar not_past := by
    simp [weekdayOf, daysBetween] at calendar ⊢
    omega
  reaches := by
    refine ⟨_, List.mem_cons_of_mem _ (List.mem_singleton_self _), ?_⟩
    omega

theorem monthly_ahead {dayOfMonth : Nat} (positive : 1 ≤ dayOfMonth) (today : Int) :
    Candidates (· < ·) (fun day => day = monthDay dayOfMonth (monthOf day)) today
      [monthDay dayOfMonth (monthOf today), monthDay dayOfMonth (monthOf today + 1),
        monthDay dayOfMonth (monthOf today + 2)] where
  ordered := by
    refine pairwise_three ?_ ?_ ?_ <;> refine (monthDay_lt_iff positive).mpr ?_ <;> omega
  listed day member := by
    simp only [List.mem_cons, List.not_mem_nil, or_false] at member
    rcases member with rfl | rfl | rfl <;> rw [monthOf_monthDay positive]
  complete day calendar not_past := by
    -- dates that the rule names compare as their months do
    have month := monthOf_mono (Int.not_lt.mp not_past)
    rw [calendar]
    generalize monthOf day = index at month
    simp [monthDay_inj positive, monthDay_lt_iff positive]
    omega
  reaches := by
    refine ⟨monthDay dayOfMonth (monthOf today + 1), by simp, ?_⟩
    exact Int.lt_of_lt_of_le (monthOf_bounds today).2 (monthDay_bounds positive _).1

theorem monthly_back {dayOfMonth : Nat} (positive : 1 ≤ dayOfMonth) (today : Int) :
    Candidates (· > ·) (fun day => day = monthDay dayOfMonth (monthOf day)) today
      [monthDay dayOfMonth (monthOf today), monthDay dayOfMonth (monthOf today - 1),
        monthDay dayOfMonth (monthOf today - 2)] where
  ordered := by
    refine pairwise_three ?_ ?_ ?_ <;> refine (monthDay_lt_iff positive).mpr ?_ <;> omega
  listed day member := by
    simp only [List.mem_cons, List.not_mem_nil, or_false] at member
    rcases member with rfl | rfl | rfl <;> rw [monthOf_monthDay positive]
  complete day calendar not_ahead := by
    -- dates that the rule names compare as their months do
    have month := monthOf_mono (Int.not_lt.mp not_ahead)
    rw [calendar]
    generalize monthOf day = index at month
    simp [monthDay_inj positive, monthDay_lt_iff positive]
    omega
  reaches := by
    refine ⟨monthDay dayOfMonth (monthOf today - 1), by simp, ?_⟩
    apply Int.lt_of_lt_of_le (monthDay_bounds positive _).2
    rw [Int.sub_add_cancel]
    exact (monthOf_bounds today).1

theorem monthlyDay?_near (zone : Zone) (inside : t.WellInside) {dayOfMonth : Nat}
    (positive : 1 ≤ dayOfMonth) {offset : Int} (near : -2 ≤ offset ∧ offset ≤ 2) :
    monthlyDay? (zone.dayAt t.second) offset dayOfMonth =
      some (monthDay dayOfMonth (monthOf (zone.dayAt t.second) + offset)) := by
  obtain ⟨first, last⟩ := monthOf_dayAt_bounds zone inside
  refine Date.toDay_monthOccurrence? positive ?_ ?_
  · show 12 * Date.firstYear ≤ monthOf (zone.dayAt t.second) + offset
    omega
  · show monthOf (zone.dayAt t.second) + offset + 1 < 12 * (Date.lastYear + 1)
    omega

theorem onCalendar_monthly {time : TimeOfDay} {dayOfMonth : Nat}
    (bounds : 1 ≤ dayOfMonth ∧ dayOfMonth ≤ 31) :
    (monthly time dayOfMonth bounds).OnCalendar =
      fun day => day = monthDay dayOfMonth (monthOf day) := by
  funext day
  exact propext (eq_monthDay_iff day).symm

theorem daysAhead_candidates (zone : Zone) (inside : t.WellInside) {rule : FiringRule}
    {time : TimeOfDay} (calendar : rule.time? = some time) :
    Candidates (· < ·) rule.OnCalendar (zone.dayAt t.second)
      (rule.daysAhead (zone.dayAt t.second)) := by
  cases rule with
  | daily => exact daily_ahead _
  | weekly _ weekday => exact weekly_ahead weekday _
  | monthly _ dayOfMonth bounds =>
    have near (offset : Int) (near : -2 ≤ offset ∧ offset ≤ 2) :=
      monthlyDay?_near zone inside bounds.1 near
    rw [onCalendar_monthly]
    simp only [daysAhead, List.filterMap_cons, List.filterMap_nil, near 0 (by decide),
      near 1 (by decide), near 2 (by decide), Int.add_zero]
    exact monthly_ahead bounds.1 _
  | _ => cases calendar

theorem daysBack_candidates (zone : Zone) (inside : t.WellInside) {rule : FiringRule}
    {time : TimeOfDay} (calendar : rule.time? = some time) :
    Candidates (· > ·) rule.OnCalendar (zone.dayAt t.second)
      (rule.daysBack (zone.dayAt t.second)) := by
  cases rule with
  | daily => exact daily_back _
  | weekly _ weekday => exact weekly_back weekday _
  | monthly _ dayOfMonth bounds =>
    have near (offset : Int) (near : -2 ≤ offset ∧ offset ≤ 2) :=
      monthlyDay?_near zone inside bounds.1 near
    rw [onCalendar_monthly]
    simp only [daysBack, List.filterMap_cons, List.filterMap_nil, near 0 (by decide),
      near (-1) (by decide), near (-2) (by decide), Int.add_zero]
    exact monthly_back bounds.1 _
  | _ => cases calendar

theorem nextAfter_of_time? {rule : FiringRule} {time : TimeOfDay}
    (calendar : rule.time? = some time) :
    rule.nextAfter zone t =
      firstAfter? zone (rule.daysAhead (zone.dayAt t.second)) time t := by
  cases rule <;> cases calendar <;> rfl

theorem lastBefore_of_time? {rule : FiringRule} {time : TimeOfDay}
    (calendar : rule.time? = some time) :
    rule.lastBefore zone t =
      match firstBefore? zone (rule.daysBack (zone.dayAt t.second)) time t with
      | some fire => .ok fire
      | none => .error (.noPriorFire t) := by
  cases rule <;> cases calendar <;> rfl

/-- The next fire is the least after an instant, and the last fire the greatest before
it; neither is ever missing. -/
theorem calendar_rules_exact (orderly : zone.Orderly) (inside : t.WellInside) {rule : FiringRule}
    {time : TimeOfDay} (calendar : rule.time? = some time) :
    (∃ next, rule.nextAfter zone t = some next ∧
      IsLeast {fire | rule.FiresAt zone fire ∧ t < fire} next) ∧
    ∃ last, rule.lastBefore zone t = .ok last ∧
      IsGreatest {fire | rule.FiresAt zone fire ∧ fire < t} last := by
  constructor
  · obtain ⟨next, found, ⟨day, listed, on⟩, after, least⟩ :=
      (daysAhead_candidates zone inside calendar).nearest (timed_ahead orderly time t)
        (fun fire => decide_eq_true_iff)
    refine ⟨next, ?_, ⟨⟨time, day, calendar, listed, on⟩, after⟩, ?_⟩
    · rw [nextAfter_of_time? calendar, firstAfter?, found]
    · rintro fire ⟨⟨time', day', calendar', listed', on'⟩, after'⟩
      cases calendar.symm.trans calendar'
      -- the search looks at dates near today's, and no date left out is nearer
      rcases least day' fire listed' on' after' with rfl | later
      · exact Int.le_refl _
      · exact Int.le_of_lt later
  · obtain ⟨last, found, ⟨day, listed, on⟩, before, greatest⟩ :=
      (daysBack_candidates zone inside calendar).nearest (timed_back orderly time t)
        (fun fire => decide_eq_true_iff)
    refine ⟨last, ?_, ⟨⟨time, day, calendar, listed, on⟩, before⟩, ?_⟩
    · rw [lastBefore_of_time? calendar, firstBefore?, found]
    · rintro fire ⟨⟨time', day', calendar', listed', on'⟩, before'⟩
      cases calendar.symm.trans calendar'
      rcases greatest day' fire listed' on' before' with rfl | earlier
      · exact Int.le_refl _
      · exact Int.le_of_lt earlier

/-- The half past one of a day on which the clock shows it twice, as in London in 2024. -/
theorem calendar_rules_exact_of_fold :
    let zone := Timetable.zone "Europe/London"
      { initial := 0, changes := [(1711846800, 3600), (1729990800, 0)] }
    let time : TimeOfDay := ⟨1, 30, 0, by decide, by decide, by decide⟩
    let t := Instant.ofSecond 1729990000
    zone.Orderly ∧ t.WellInside ∧ (daily time).time? = some time ∧
      (daily time).nextAfter zone t = some (.ofSecond 1730079000) ∧
      (∃ next, (daily time).nextAfter zone t = some next ∧
        IsLeast {fire | (daily time).FiresAt zone fire ∧ t < fire} next) ∧
      ∃ last, (daily time).lastBefore zone t = .ok last ∧
        IsGreatest {fire | (daily time).FiresAt zone fire ∧ fire < t} last := by
  intro zone time t
  have offsetAt (utc : Int) : zone.offsetAt utc =
      if utc < 1729990800 then (if utc < 1711846800 then 0 else 3600) else 0 := by
    with_unfolding_all rfl
  have orderly : zone.Orderly := by
    constructor
    · intro earlier later le
      simp only [Zone.dayAt, Zone.wallAt, offsetAt]
      omega
    · intro wall skipped
      -- only the hour that was skipped in March is shown with neither offset
      have same := skipped wall
      have before := skipped (wall - 3600)
      simp only [Zone.wallAt, offsetAt] at same before
      refine ⟨⟨wall, ?_⟩, ?_⟩
      · simp only [Zone.wallAt, offsetAt]
        omega
      · omega
  have inside : t.WellInside := ⟨by decide +kernel, by decide +kernel⟩
  exact ⟨orderly, inside, rfl, by decide +kernel, calendar_rules_exact orderly inside rfl⟩

end FiringRule

end PowerRota
