import PowerRota.Proofs.Cron.Walk
import PowerRota.Proofs.Firing.CalendarRules

/-! The fires of a rule, and when the next one that is looked up is the nearest.

Calendar rules are followed up to both ends of the time line here, where the months that
a monthly rule can name run out. -/

set_option autoImplicit false

namespace PowerRota

open PowerRota.Calendar

/-- Dates that a search from `today` looks at: a date that is left out lies behind one
that is looked at and is not today's. -/
structure Nearby (later : Int → Int → Prop) (onCalendar : Int → Prop) (today : Int)
    (days : List Int) : Prop where
  ordered : days.Pairwise later
  listed : ∀ day ∈ days, onCalendar day
  complete : ∀ day, onCalendar day → ¬ later day today →
    day ∈ days ∨ ∃ other ∈ days, later today other ∧ later other day

theorem Candidates.nearby {later : Int → Int → Prop} {onCalendar : Int → Prop} {today : Int}
    {days : List Int} (candidates : Candidates later onCalendar today days) :
    Nearby later onCalendar today days where
  ordered := candidates.ordered
  listed := candidates.listed
  complete day calendar not_behind := by
    obtain ⟨other, member, beyond⟩ := candidates.reaches
    rcases candidates.complete day calendar not_behind with listed | behind
    · exact Or.inl listed
    · exact Or.inr ⟨other, member, beyond, behind other member⟩

namespace Nearby

variable {later : Int → Int → Prop} {after : Instant → Instant → Prop} {onCalendar : Int → Prop}
  {fireOn? : Int → Option Instant} {today : Int} {t : Instant} {days : List Int}
  {passes : Instant → Bool}

theorem of_find?_some (nearby : Nearby later onCalendar today days)
    (timed : Timed later after fireOn? today t) (trans : ∀ {day other further : Int},
      later day other → later other further → later day further)
    (passes_iff : ∀ fire, passes fire = true ↔ after t fire) {fire : Instant}
    (found : (days.filterMap fireOn?).find? passes = some fire) :
    (∃ day, onCalendar day ∧ fireOn? day = some fire) ∧ after t fire ∧
      ∀ day fire', onCalendar day → fireOn? day = some fire' → after t fire' →
        fire' = fire ∨ after fire fire' := by
  obtain ⟨day, member, on, passing, first⟩ := first_of_find? nearby.ordered found
  refine ⟨⟨day, nearby.listed day member, on⟩, (passes_iff fire).mp passing, ?_⟩
  intro other fire' calendar on' passing'
  have not_behind : ¬ later other today := fun behind => timed.behind behind on' passing'
  rcases nearby.complete other calendar not_behind with listed | ⟨between, listed, beyond, behind⟩
  · rcases first other listed fire' on' ((passes_iff fire').mpr passing') with rfl | follows
    · exact Or.inl (Option.some.inj (on'.symm.trans on))
    · exact Or.inr (timed.follows follows on on')
  · -- the date in between has a fire that would have been taken as well
    obtain ⟨middle, on_middle⟩ := timed.total between
    have passing_middle := (passes_iff middle).mpr (timed.beyond beyond on_middle)
    rcases first between listed middle on_middle passing_middle with rfl | follows
    · exact Or.inr (timed.follows behind on on')
    · exact Or.inr (timed.follows (trans follows behind) on on')

theorem of_find?_none (nearby : Nearby later onCalendar today days)
    (timed : Timed later after fireOn? today t)
    (passes_iff : ∀ fire, passes fire = true ↔ after t fire)
    (missing : (days.filterMap fireOn?).find? passes = none) {day : Int} {fire : Instant}
    (calendar : onCalendar day) (on : fireOn? day = some fire) : ¬ after t fire := by
  intro passing
  have fails {day : Int} {fire : Instant} (listed : day ∈ days) (on : fireOn? day = some fire) :
      ¬ after t fire := fun passing =>
    List.find?_eq_none.mp missing fire (List.mem_filterMap.mpr ⟨day, listed, on⟩)
      ((passes_iff fire).mpr passing)
  have not_behind : ¬ later day today := fun behind => timed.behind behind on passing
  rcases nearby.complete day calendar not_behind with listed | ⟨between, listed, beyond, _⟩
  · exact fails listed on passing
  · obtain ⟨middle, on_middle⟩ := timed.total between
    exact fails listed on_middle (timed.beyond beyond on_middle)

end Nearby

namespace FiringRule

variable {rule : FiringRule} {zone : Zone} {t now fire : Instant}

/-- The months that a monthly rule can name: they and the month after them are in reach.
Other rules name all dates. -/
def InReach (rule : FiringRule) (day : Int) : Prop :=
  match rule with
  | .monthly _ _ _ =>
      12 * Date.firstYear ≤ monthOf day ∧ monthOf day + 1 < 12 * (Date.lastYear + 1)
  | .cron _ | .daily _ | .weekly _ _ | .interval _ _ | .once _ => True

/-- The fires of a rule that are told by the clock. A wall time that is shown twice is
taken the first time. -/
def Fires (rule : FiringRule) (zone : Zone) (fire : Instant) : Prop :=
  match rule with
  | .cron expression =>
      ∃ wall utc, expression.fits wall = true ∧ zone.earliestAt? wall = some utc ∧
        fire = .ofSecond utc
  | .once instant => fire = instant
  | .interval _ _ => False
  | .daily _ | .weekly _ _ | .monthly _ _ _ =>
      ∃ time day, rule.time? = some time ∧ (rule.OnCalendar day ∧ rule.InReach day) ∧
        atLocal? zone day time = some fire

/-- The next fire that is looked up after `t` is the least of those after it. -/
def NextIsLeast (rule : FiringRule) (zone : Zone) (t : Instant) : Prop :=
  Cron.FindsLeast {fire | rule.Fires zone fire ∧ t < fire} (rule.nextAfter zone t)

/-- Looked up at any time of a period, the next fire is the nearest. -/
def ExactIn (rule : FiringRule) (zone : Zone) (begin_ finish : Instant) : Prop :=
  ∀ t, begin_ ≤ t → t ≤ finish → rule.NextIsLeast zone t

theorem NextIsLeast.lt (least : rule.NextIsLeast zone t)
    (found : rule.nextAfter zone t = some fire) : t < fire := by
  unfold NextIsLeast at least
  rw [found] at least
  have nearest : IsLeast {fire | rule.Fires zone fire ∧ t < fire} fire := least
  exact nearest.1.2

theorem NextIsLeast.exists_le (least : rule.NextIsLeast zone t) (fires : rule.Fires zone fire)
    (ahead : t < fire) : ∃ next, rule.nextAfter zone t = some next ∧ next ≤ fire := by
  unfold NextIsLeast at least
  cases found : rule.nextAfter zone t with
  | none =>
    rw [found] at least
    have exhausted : {fire | rule.Fires zone fire ∧ t < fire} = ∅ := least
    exact absurd ⟨fires, ahead⟩ (Set.eq_empty_iff_forall_notMem.mp exhausted fire)
  | some next =>
    rw [found] at least
    have nearest : IsLeast {fire | rule.Fires zone fire ∧ t < fire} next := least
    exact ⟨next, rfl, nearest.2 ⟨fires, ahead⟩⟩

theorem nextIsLeast_once (instant : Instant) (zone : Zone) (t : Instant) :
    (once instant).NextIsLeast zone t := by
  simp only [NextIsLeast, nextAfter]
  split
  next later =>
    refine ⟨⟨rfl, later⟩, ?_⟩
    rintro fire ⟨rfl, _⟩
    exact Int.le_refl _
  next passed =>
    refine Set.eq_empty_iff_forall_notMem.mpr ?_
    rintro fire ⟨rfl, later⟩
    exact passed later

theorem nextIsLeast_cron {expression : Cron.Expression} (wellFormed : expression.WellFormed)
    (forward : zone.Forward) (t : Instant) :
    (cron expression).NextIsLeast zone t := by
  have same : {fire | (cron expression).Fires zone fire ∧ t < fire} =
      {fire | expression.Fires zone fire ∧ t < fire} := by
    ext fire
    refine and_congr_left fun _ => ⟨?_, ?_⟩
    · rintro ⟨wall, utc, fits, earliest, rfl⟩
      exact ⟨utc, rfl, Zone.wallAt_of_earliestAt? earliest ▸ fits⟩
    · rintro ⟨utc, rfl, fits⟩
      obtain ⟨first, earliest⟩ := Zone.earliestAt?_isSome (rfl : zone.wallAt utc = zone.wallAt utc)
      have same := Zone.wallAt_of_earliestAt? earliest
      obtain rfl : first = utc := Int.le_antisymm (forward.wallAt_le_iff.mp same.le)
        (forward.wallAt_le_iff.mp same.ge)
      exact ⟨_, first, fits, earliest, rfl⟩
  unfold NextIsLeast
  rw [same]
  exact Cron.Expression.finds_next wellFormed forward t

theorem fires_of_time? {time : TimeOfDay} (calendar : rule.time? = some time) :
    rule.Fires zone fire ↔
      ∃ day, (rule.OnCalendar day ∧ rule.InReach day) ∧ atLocal? zone day time = some fire := by
  have unfolded : rule.Fires zone fire ↔ ∃ time day, rule.time? = some time ∧
      (rule.OnCalendar day ∧ rule.InReach day) ∧ atLocal? zone day time = some fire := by
    cases rule <;> cases calendar <;> rfl
  rw [unfolded]
  constructor
  · rintro ⟨time', day, calendar', on, at_⟩
    cases calendar.symm.trans calendar'
    exact ⟨day, on, at_⟩
  · rintro ⟨day, on, at_⟩
    exact ⟨time, day, calendar, on, at_⟩

theorem mem_monthlyDays {today day : Int} {offsets : List Int} {dayOfMonth : Nat}
    (positive : 1 ≤ dayOfMonth) :
    day ∈ (offsets.filterMap fun offset => monthlyDay? today offset dayOfMonth) ↔
      ∃ offset ∈ offsets, (12 * Date.firstYear ≤ monthOf today + offset ∧
        monthOf today + offset + 1 < 12 * (Date.lastYear + 1)) ∧
        day = monthDay dayOfMonth (monthOf today + offset) := by
  rw [List.mem_filterMap]
  exact exists_congr fun offset => and_congr_right fun _ =>
    Date.toDay_monthOccurrence?_eq_some_iff positive

theorem monthlyDays_ordered {today : Int} {offsets : List Int} {dayOfMonth : Nat}
    (positive : 1 ≤ dayOfMonth) {precedes : Int → Int → Prop} (ordered : offsets.Pairwise precedes)
    (follows : ∀ {offset other : Int}, precedes offset other → precedes
      (monthDay dayOfMonth (monthOf today + offset))
      (monthDay dayOfMonth (monthOf today + other))) :
    (offsets.filterMap fun offset => monthlyDay? today offset dayOfMonth).Pairwise precedes := by
  refine List.pairwise_filterMap.mpr (ordered.imp fun before day at_ day' at_' => ?_)
  obtain ⟨_, rfl⟩ := (Date.toDay_monthOccurrence?_eq_some_iff positive).mp at_
  obtain ⟨_, rfl⟩ := (Date.toDay_monthOccurrence?_eq_some_iff positive).mp at_'
  exact follows before

theorem monthlyDays_listed {today : Int} {offsets : List Int} {time : TimeOfDay} {dayOfMonth : Nat}
    (bounds : 1 ≤ dayOfMonth ∧ dayOfMonth ≤ 31) :
    ∀ day ∈ (offsets.filterMap fun offset => monthlyDay? today offset dayOfMonth),
      (monthly time dayOfMonth bounds).OnCalendar day ∧
        (monthly time dayOfMonth bounds).InReach day := by
  intro day member
  obtain ⟨offset, _, reach, rfl⟩ := (mem_monthlyDays bounds.1).mp member
  have month := monthOf_monthDay bounds.1 (monthOf today + offset)
  rw [onCalendar_monthly, InReach, month]
  exact ⟨congrArg _ month.symm, reach⟩

theorem monthly_ahead_nearby {time : TimeOfDay} {dayOfMonth : Nat}
    (bounds : 1 ≤ dayOfMonth ∧ dayOfMonth ≤ 31) {today : Int}
    (reached : 12 * Date.firstYear ≤ monthOf today + 2) :
    Nearby (· < ·) (fun day => (monthly time dayOfMonth bounds).OnCalendar day ∧
      (monthly time dayOfMonth bounds).InReach day) today
      ((monthly time dayOfMonth bounds).daysAhead today) where
  ordered := monthlyDays_ordered bounds.1 (by decide) fun before =>
    (monthDay_lt_iff bounds.1).mpr (Int.add_lt_add_left before _)
  listed := monthlyDays_listed bounds
  complete day calendar not_past := by
    obtain ⟨on, reach⟩ := calendar
    rw [onCalendar_monthly] at on
    obtain ⟨first, last⟩ : _ ∧ _ := reach
    have month := monthOf_mono (Int.not_lt.mp not_past)
    rcases lt_or_ge (monthOf today + 2) (monthOf day) with beyond | near
    · -- the second month from today's is in reach and lies in between
      refine Or.inr ⟨monthDay dayOfMonth (monthOf today + 2), ?_, ?_, ?_⟩
      · exact (mem_monthlyDays bounds.1).mpr ⟨2, by decide, ⟨reached, by omega⟩, rfl⟩
      · calc today < monthStart (monthOf today + 1) := (monthOf_bounds today).2
          _ < monthStart (monthOf today + 2) := monthStart_lt_iff.mpr (by omega)
          _ ≤ _ := (monthDay_bounds bounds.1 _).1
      · rw [on]
        exact (monthDay_lt_iff bounds.1).mpr beyond
    · refine Or.inl ((mem_monthlyDays bounds.1).mpr ⟨monthOf day - monthOf today, ?_, ?_, ?_⟩)
      · simp only [List.mem_cons, List.not_mem_nil, or_false]
        omega
      · omega
      · rw [add_sub_cancel]
        exact on

theorem monthly_back_nearby {time : TimeOfDay} {dayOfMonth : Nat}
    (bounds : 1 ≤ dayOfMonth ∧ dayOfMonth ≤ 31) {today : Int}
    (reached : monthOf today - 1 < 12 * (Date.lastYear + 1)) :
    Nearby (· > ·) (fun day => (monthly time dayOfMonth bounds).OnCalendar day ∧
      (monthly time dayOfMonth bounds).InReach day) today
      ((monthly time dayOfMonth bounds).daysBack today) where
  ordered := monthlyDays_ordered bounds.1 (by decide) fun before =>
    (monthDay_lt_iff bounds.1).mpr (Int.add_lt_add_left before _)
  listed := monthlyDays_listed bounds
  complete day calendar not_ahead := by
    obtain ⟨on, reach⟩ := calendar
    rw [onCalendar_monthly] at on
    obtain ⟨first, last⟩ : _ ∧ _ := reach
    have month := monthOf_mono (Int.not_lt.mp not_ahead)
    rcases lt_or_ge (monthOf day) (monthOf today - 2) with beyond | near
    · -- the second month back from today's is in reach and lies in between
      refine Or.inr ⟨monthDay dayOfMonth (monthOf today + -2), ?_, ?_, ?_⟩
      · exact (mem_monthlyDays bounds.1).mpr ⟨-2, by decide, ⟨by omega, by omega⟩, rfl⟩
      · calc monthDay dayOfMonth (monthOf today + -2)
            < monthStart (monthOf today + -2 + 1) := (monthDay_bounds bounds.1 _).2
          _ < monthStart (monthOf today) := monthStart_lt_iff.mpr (by omega)
          _ ≤ today := (monthOf_bounds today).1
      · rw [on]
        exact (monthDay_lt_iff bounds.1).mpr beyond
    · refine Or.inl ((mem_monthlyDays bounds.1).mpr ⟨monthOf day - monthOf today, ?_, ?_, ?_⟩)
      · simp only [List.mem_cons, List.not_mem_nil, or_false]
        omega
      · omega
      · rw [add_sub_cancel]
        exact on

theorem daysAhead_nearby {time : TimeOfDay} (calendar : rule.time? = some time) {today : Int}
    (reached : 12 * Date.firstYear ≤ monthOf today + 2) :
    Nearby (· < ·) (fun day => rule.OnCalendar day ∧ rule.InReach day) today
      (rule.daysAhead today) := by
  cases rule with
  | daily =>
    simp only [OnCalendar, InReach, and_true]
    exact (daily_ahead today).nearby
  | weekly _ weekday =>
    simp only [OnCalendar, InReach, and_true]
    exact (weekly_ahead weekday today).nearby
  | monthly _ dayOfMonth bounds => exact monthly_ahead_nearby bounds reached
  | _ => cases calendar

theorem daysBack_nearby {time : TimeOfDay} (calendar : rule.time? = some time) {today : Int}
    (reached : monthOf today - 1 < 12 * (Date.lastYear + 1)) :
    Nearby (· > ·) (fun day => rule.OnCalendar day ∧ rule.InReach day) today
      (rule.daysBack today) := by
  cases rule with
  | daily =>
    simp only [OnCalendar, InReach, and_true]
    exact (daily_back today).nearby
  | weekly _ weekday =>
    simp only [OnCalendar, InReach, and_true]
    exact (weekly_back weekday today).nearby
  | monthly _ dayOfMonth bounds => exact monthly_back_nearby bounds reached
  | _ => cases calendar

theorem reached_of_earliest_le (zone : Zone) (start : Instant.earliest ≤ t) :
    12 * Date.firstYear ≤ monthOf (zone.dayAt t.second) + 2 := by
  obtain ⟨behind, ahead⟩ := zone.isOffset_offsetAt t.second
  have first : monthStart (12 * Date.firstYear - 1) < yearStart Date.firstYear - 1 := by
    decide +kernel
  have day : yearStart Date.firstYear - 1 ≤ zone.dayAt t.second := by
    simp only [Instant.le_def, Instant.earliest, Instant.ofSecond, Instant.nanosPerSecond] at start
    unfold Zone.dayAt Zone.wallAt
    unfold Instant.second Instant.nanosPerSecond at behind ahead ⊢
    omega
  have month := monthStart_lt_iff.mp (Int.lt_of_lt_of_le first
    (Int.le_trans day (Int.le_of_lt (monthOf_bounds (zone.dayAt t.second)).2)))
  omega

theorem reached_of_le_latest (zone : Zone) (finish : now ≤ Instant.latest) :
    monthOf (zone.dayAt now.second) - 1 < 12 * (Date.lastYear + 1) := by
  obtain ⟨behind, ahead⟩ := zone.isOffset_offsetAt now.second
  have last : yearStart (Date.lastYear + 1) < monthStart (12 * (Date.lastYear + 1) + 1) := by
    decide +kernel
  have day : zone.dayAt now.second ≤ yearStart (Date.lastYear + 1) := by
    simp only [Instant.le_def, Instant.latest, Instant.nanosPerSecond] at finish
    unfold Zone.dayAt Zone.wallAt
    unfold Instant.second Instant.nanosPerSecond at behind ahead ⊢
    omega
  have month := monthStart_lt_iff.mp (Int.lt_of_le_of_lt
    (Int.le_trans (monthOf_bounds (zone.dayAt now.second)).1 day) last)
  omega

theorem nextIsLeast_calendar (orderly : zone.Orderly) {time : TimeOfDay}
    (calendar : rule.time? = some time)
    (reached : 12 * Date.firstYear ≤ monthOf (zone.dayAt t.second) + 2) :
    rule.NextIsLeast zone t := by
  have nearby := daysAhead_nearby calendar reached
  have timed := timed_ahead orderly time t
  have passes_iff (fire : Instant) : decide (t < fire) = true ↔ t < fire := decide_eq_true_iff
  unfold NextIsLeast
  rw [nextAfter_of_time? calendar, firstAfter?]
  cases found : (((rule.daysAhead (zone.dayAt t.second)).filterMap fun day =>
    atLocal? zone day time).find? fun fire => t < fire) with
  | some next =>
    obtain ⟨fires, later, least⟩ := nearby.of_find?_some timed Int.lt_trans passes_iff found
    refine ⟨⟨(fires_of_time? calendar).mpr fires, later⟩, ?_⟩
    rintro fire ⟨fires', later'⟩
    obtain ⟨day, on, at_⟩ := (fires_of_time? calendar).mp fires'
    rcases least day fire on at_ later' with rfl | after
    · exact Int.le_refl _
    · exact Int.le_of_lt after
  | none =>
    refine Set.eq_empty_iff_forall_notMem.mpr ?_
    rintro fire ⟨fires, later⟩
    obtain ⟨day, on, at_⟩ := (fires_of_time? calendar).mp fires
    exact nearby.of_find?_none timed passes_iff found on at_ later

/-- In an orderly zone the rules that are told by the clock are exact; cron only where the
clock is never put back. -/
theorem exactIn_of_orderly {trigger : Trigger} (accepted : ofTrigger trigger = .ok rule)
    (told : rule.kind ≠ .interval) (orderly : zone.Orderly)
    (forward : rule.kind = .cron → zone.Forward) {begin_ finish : Instant}
    (start : Instant.earliest ≤ begin_) : rule.ExactIn zone begin_ finish := by
  intro t begun _
  have reached := reached_of_earliest_le zone (Int.le_trans start begun)
  cases rule with
  | cron expression =>
    exact nextIsLeast_cron (Cron.wellFormed_of_ofTrigger accepted) (forward rfl) t
  | daily | weekly | monthly => exact nextIsLeast_calendar orderly rfl reached
  | interval => exact absurd rfl told
  | once instant => exact nextIsLeast_once instant zone t

theorem lastBefore_isGreatest (orderly : zone.Orderly) {time : TimeOfDay}
    (calendar : rule.time? = some time) (finish : now ≤ Instant.latest)
    (fires : rule.Fires zone fire) (before : fire < now) :
    ∃ last, rule.lastBefore zone now = .ok last ∧
      IsGreatest {fire | rule.Fires zone fire ∧ fire < now} last := by
  have nearby := daysBack_nearby calendar (reached_of_le_latest zone finish)
  have timed := timed_back orderly time now
  have passes_iff (fire : Instant) : decide (fire < now) = true ↔ now > fire := decide_eq_true_iff
  rw [lastBefore_of_time? calendar, firstBefore?]
  cases found : (((rule.daysBack (zone.dayAt now.second)).filterMap fun day =>
    atLocal? zone day time).find? fun fire => fire < now) with
  | some last =>
    obtain ⟨fires', before', greatest⟩ := nearby.of_find?_some timed
      (fun above below => Int.lt_trans below above) passes_iff found
    refine ⟨last, rfl, ⟨(fires_of_time? calendar).mpr fires', before'⟩, ?_⟩
    rintro other ⟨fires'', before''⟩
    obtain ⟨day, on, at_⟩ := (fires_of_time? calendar).mp fires''
    rcases greatest day other on at_ before'' with rfl | earlier
    · exact Int.le_refl _
    · exact Int.le_of_lt earlier
  | none =>
    obtain ⟨day, on, at_⟩ := (fires_of_time? calendar).mp fires
    exact absurd before (nearby.of_find?_none timed passes_iff found on at_)

end FiringRule

end PowerRota
