import Mathlib.Order.Monotone.Basic
import PowerRota.Calendar.Date

/-! Days and dates are two readings of one calendar.

Years follow each other without a gap, and so do the months, counted from January of
the year 0. A day lies in one month only, and that is the month of its date. -/

set_option autoImplicit false

namespace PowerRota.Calendar

theorem yearStart_lt_iff {year other : Int} : yearStart year < yearStart other ↔ year < other := by
  refine (strictMono_int_of_lt_succ fun year => ?_).lt_iff_lt
  rw [yearStart_succ]
  unfold yearLength
  split <;> omega

namespace Date

theorem guess_bounds (day : Int) :
    yearStart ((day + 719528) * 400 / 146097 - 1) ≤ day ∧
      day < yearStart ((day + 719528) * 400 / 146097 + 2) := by
  -- the leap days up to a year are within two of the mean, so a neighbour is enough
  unfold yearStart
  omega

theorem yearOf_bounds (day : Int) :
    yearStart (yearOf day) ≤ day ∧ day < yearStart (yearOf day + 1) := by
  have bounds := guess_bounds day
  unfold yearOf
  dsimp only
  split
  next below =>
    rw [Int.sub_add_cancel]
    exact ⟨bounds.1, below⟩
  next above =>
    split
    next beyond =>
      rw [Int.add_assoc]
      exact ⟨beyond, bounds.2⟩
    next within => exact ⟨Int.not_lt.mp above, Int.not_le.mp within⟩

/-- The walk over the months of a year stops in the month that holds the day. -/
theorem monthAndDay_spec (year : Int) (months : Nat) {month n : Nat} (positive : 1 ≤ month)
    (inside : daysBeforeMonth year month + n < daysBeforeMonth year (month + months + 1)) :
    let found := monthAndDay year months month n
    month ≤ found.1 ∧ found.1 ≤ month + months ∧
      1 ≤ found.2 ∧ found.2 ≤ monthLength year found.1 ∧
      daysBeforeMonth year found.1 + found.2 = daysBeforeMonth year month + n + 1 := by
  induction months generalizing month n with
  | zero =>
    rw [Nat.add_zero, daysBeforeMonth_succ year positive] at inside
    simp only [monthAndDay]
    omega
  | succ months ih =>
    simp only [monthAndDay]
    split
    next within => exact ⟨Nat.le_refl _, Nat.le_add_right .., Nat.le_add_left .., within, rfl⟩
    next beyond =>
      -- the walk goes on with the days that are left after this month
      have next_start := daysBeforeMonth_succ year positive
      have inside' : daysBeforeMonth year (month + 1) + (n - monthLength year month) <
          daysBeforeMonth year (month + 1 + months + 1) := by
        rw [Nat.add_right_comm month 1 months, Nat.add_assoc month months 1]
        omega
      obtain ⟨first, last, one, size, sum⟩ := ih (Nat.le_add_left 1 month) inside'
      refine ⟨Nat.le_of_succ_le first, ?_, one, size, ?_⟩
      · omega
      · rw [sum]
        omega

theorem ofDay_spec (day : Int) : (ofDay day).Valid ∧ (ofDay day).toDay = day := by
  have bounds := yearOf_bounds day
  have length := yearStart_succ (yearOf day)
  have inside : daysBeforeMonth (yearOf day) 1 + (day - yearStart (yearOf day)).toNat <
      daysBeforeMonth (yearOf day) (1 + 11 + 1) := by
    rw [daysBeforeMonth_thirteen]
    simp only [daysBeforeMonth]
    omega
  obtain ⟨first, last, one, size, sum⟩ := monthAndDay_spec (yearOf day) 11 (Nat.le_refl 1) inside
  refine ⟨⟨first, last, one, size⟩, ?_⟩
  simp only [daysBeforeMonth] at sum
  unfold toDay ofDay
  dsimp only
  omega

theorem ofDay_valid (day : Int) : (ofDay day).Valid := (ofDay_spec day).1

@[simp] theorem toDay_ofDay (day : Int) : (ofDay day).toDay = day := (ofDay_spec day).2

end Date

def firstDate (index : Int) : Date :=
  ⟨index / 12, (index % 12).toNat + 1, 1⟩

def monthStart (index : Int) : Int :=
  (firstDate index).toDay

def monthSize (index : Int) : Nat :=
  monthLength (firstDate index).year (firstDate index).month

@[simp] theorem monthIndex_firstDate (index : Int) : (firstDate index).monthIndex = index := by
  simp only [Date.monthIndex, firstDate]
  omega

theorem monthSize_bounds (index : Int) : 28 ≤ monthSize index ∧ monthSize index ≤ 31 :=
  monthLength_bounds ..

theorem monthStart_succ (index : Int) :
    monthStart (index + 1) = monthStart index + monthSize index := by
  have next := daysBeforeMonth_succ (index / 12) (Nat.le_add_left 1 (index % 12).toNat)
  simp only [monthStart, monthSize, firstDate, Date.toDay]
  rcases Decidable.em (index % 12 = 11) with last | earlier
  -- after December comes January of the next year
  · have year : (index + 1) / 12 = index / 12 + 1 := by omega
    have month : (index + 1) % 12 = 0 := by omega
    have whole := daysBeforeMonth_thirteen (index / 12)
    have length := yearStart_succ (index / 12)
    rw [last] at next ⊢
    rw [year, month]
    simp only [Int.toNat_zero, Nat.zero_add, daysBeforeMonth]
    simp only [Int.reduceToNat, Nat.reduceAdd] at next ⊢
    omega
  · have year : (index + 1) / 12 = index / 12 := by omega
    have month : ((index + 1) % 12).toNat = (index % 12).toNat + 1 := by omega
    rw [year, month, next]
    omega

theorem monthStart_lt_iff {index other : Int} :
    monthStart index < monthStart other ↔ index < other := by
  refine (strictMono_int_of_lt_succ fun index => ?_).lt_iff_lt
  have size := monthSize_bounds index
  rw [monthStart_succ]
  omega

namespace Date

theorem monthIndex_div {date : Date} (valid : date.Valid) : date.monthIndex / 12 = date.year := by
  obtain ⟨first, last, _, _⟩ := valid
  unfold monthIndex
  omega

theorem monthIndex_mod {date : Date} (valid : date.Valid) :
    (date.monthIndex % 12).toNat + 1 = date.month := by
  obtain ⟨first, last, _, _⟩ := valid
  unfold monthIndex
  omega

theorem monthSize_monthIndex {date : Date} (valid : date.Valid) :
    monthSize date.monthIndex = monthLength date.year date.month := by
  simp only [monthSize, firstDate, monthIndex_div valid, monthIndex_mod valid]

theorem toDay_eq {date : Date} (valid : date.Valid) :
    date.toDay = monthStart date.monthIndex + (date.day - 1) := by
  simp only [monthStart, firstDate, monthIndex_div valid, monthIndex_mod valid, toDay]
  omega

end Date

/-- The month of a day, counted from January of the year 0. -/
def monthOf (day : Int) : Int :=
  (Date.ofDay day).monthIndex

theorem monthOf_bounds (day : Int) :
    monthStart (monthOf day) ≤ day ∧ day < monthStart (monthOf day + 1) := by
  have valid := Date.ofDay_valid day
  have start := Date.toDay_eq valid
  have size := Date.monthSize_monthIndex valid
  obtain ⟨_, _, first, last⟩ := valid
  rw [Date.toDay_ofDay] at start
  rw [monthStart_succ]
  unfold monthOf
  omega

theorem monthOf_eq_of_bounds {day index : Int} (start : monthStart index ≤ day)
    (finish : day < monthStart (index + 1)) : monthOf day = index := by
  obtain ⟨start', finish'⟩ := monthOf_bounds day
  have below := monthStart_lt_iff.mp (Int.lt_of_le_of_lt start finish')
  have above := monthStart_lt_iff.mp (Int.lt_of_le_of_lt start' finish)
  omega

theorem monthOf_mono {day other : Int} (le : day ≤ other) : monthOf day ≤ monthOf other := by
  have start := (monthOf_bounds day).1
  have finish := (monthOf_bounds other).2
  have order := monthStart_lt_iff.mp
    (Int.lt_of_le_of_lt start (Int.lt_of_le_of_lt le finish))
  omega

/-- Day `dayOfMonth` of a month, or its last day if the month is shorter. -/
def monthDay (dayOfMonth : Nat) (index : Int) : Int :=
  monthStart index + (min dayOfMonth (monthSize index) - 1 : Int)

theorem monthDay_bounds {dayOfMonth : Nat} (positive : 1 ≤ dayOfMonth) (index : Int) :
    monthStart index ≤ monthDay dayOfMonth index ∧
      monthDay dayOfMonth index < monthStart (index + 1) := by
  have size := monthSize_bounds index
  rw [monthStart_succ]
  unfold monthDay
  omega

theorem monthOf_monthDay {dayOfMonth : Nat} (positive : 1 ≤ dayOfMonth) (index : Int) :
    monthOf (monthDay dayOfMonth index) = index :=
  monthOf_eq_of_bounds (monthDay_bounds positive index).1 (monthDay_bounds positive index).2

theorem monthDay_lt_iff {dayOfMonth : Nat} (positive : 1 ≤ dayOfMonth) {index other : Int} :
    monthDay dayOfMonth index < monthDay dayOfMonth other ↔ index < other := by
  refine (strictMono_int_of_lt_succ fun index => ?_).lt_iff_lt
  have before := (monthDay_bounds positive index).2
  exact Int.lt_of_lt_of_le before (monthDay_bounds positive (index + 1)).1

theorem monthDay_inj {dayOfMonth : Nat} (positive : 1 ≤ dayOfMonth) {index other : Int} :
    monthDay dayOfMonth index = monthDay dayOfMonth other ↔ index = other := by
  constructor
  · intro same
    rw [← monthOf_monthDay positive index, same, monthOf_monthDay positive]
  · intro same
    rw [same]

theorem eq_monthDay_iff {dayOfMonth : Nat} (day : Int) :
    day = monthDay dayOfMonth (monthOf day) ↔
      (Date.ofDay day).day =
        min dayOfMonth (monthLength (Date.ofDay day).year (Date.ofDay day).month) := by
  have valid := Date.ofDay_valid day
  have start := Date.toDay_eq valid
  rw [Date.toDay_ofDay] at start
  rw [← Date.monthSize_monthIndex valid, monthDay, monthOf]
  omega

namespace Date

theorem addMonths?_eq_firstDate {date : Date} {offset : Int}
    (first : 12 * firstYear ≤ date.monthIndex + offset)
    (last : date.monthIndex + offset < 12 * (lastYear + 1)) :
    date.addMonths? offset = some (firstDate (date.monthIndex + offset)) := by
  refine if_pos ⟨?_, ?_⟩
  · omega
  · omega

theorem addMonths?_eq_some {date first : Date} {offset : Int}
    (found : date.addMonths? offset = some first) :
    12 * firstYear ≤ date.monthIndex + offset ∧ date.monthIndex + offset < 12 * (lastYear + 1) ∧
      first = firstDate (date.monthIndex + offset) := by
  obtain ⟨⟨start, finish⟩, same⟩ := Option.ite_none_right_eq_some.mp found
  cases same
  refine ⟨?_, ?_, rfl⟩
  · omega
  · omega

theorem day_ofDay_pred (index : Int) : (ofDay (monthStart (index + 1) - 1)).day = monthSize index := by
  have size := monthSize_bounds index
  have next := monthStart_succ index
  have month : monthOf (monthStart (index + 1) - 1) = index :=
    monthOf_eq_of_bounds (by omega) (by omega)
  have valid := ofDay_valid (monthStart (index + 1) - 1)
  have start := toDay_eq valid
  rw [toDay_ofDay, show (ofDay (monthStart (index + 1) - 1)).monthIndex = index from month] at start
  have positive := valid.2.2.1
  omega

theorem lastDay?_firstDate {index : Int} (first : 12 * firstYear ≤ index)
    (last : index + 1 < 12 * (lastYear + 1)) : (firstDate index).lastDay? = some (monthSize index) := by
  have next : (firstDate index).addMonths? 1 = some (firstDate (index + 1)) := by
    rw [addMonths?_eq_firstDate, monthIndex_firstDate] <;> rw [monthIndex_firstDate] <;> omega
  rw [lastDay?, next, Option.map_some]
  exact congrArg some (day_ofDay_pred index)

theorem withDay?_firstDate {index : Int} {dayOfMonth : Nat} (positive : 1 ≤ dayOfMonth) :
    (firstDate index).withDay? (min dayOfMonth (monthSize index)) =
      some { firstDate index with day := min dayOfMonth (monthSize index) } := by
  have size := monthSize_bounds index
  refine if_pos ⟨?_, ?_⟩
  · omega
  · exact Nat.min_le_right ..

theorem monthOccurrence?_eq {anchor : Date} {offset : Int} {dayOfMonth : Nat}
    (positive : 1 ≤ dayOfMonth) (first : 12 * firstYear ≤ anchor.monthIndex + offset)
    (last : anchor.monthIndex + offset + 1 < 12 * (lastYear + 1)) :
    anchor.monthOccurrence? offset dayOfMonth =
      some { firstDate (anchor.monthIndex + offset) with
        day := min dayOfMonth (monthSize (anchor.monthIndex + offset)) } := by
  have start := addMonths?_eq_firstDate first (Int.lt_of_le_of_lt (Int.le_add_one (Int.le_refl _)) last)
  simp only [monthOccurrence?, start, lastDay?_firstDate first last, withDay?_firstDate positive,
    Option.bind_eq_bind, Option.bind_some]

theorem toDay_monthOccurrence? {anchor : Date} {offset : Int} {dayOfMonth : Nat}
    (positive : 1 ≤ dayOfMonth) (first : 12 * firstYear ≤ anchor.monthIndex + offset)
    (last : anchor.monthIndex + offset + 1 < 12 * (lastYear + 1)) :
    (anchor.monthOccurrence? offset dayOfMonth).map toDay =
      some (monthDay dayOfMonth (anchor.monthIndex + offset)) := by
  rw [monthOccurrence?_eq positive first last, Option.map_some]
  simp only [toDay, monthDay, monthStart, firstDate]
  congr 1
  omega

theorem toDay_monthOccurrence?_eq_some_iff {anchor : Date} {offset day : Int} {dayOfMonth : Nat}
    (positive : 1 ≤ dayOfMonth) :
    (anchor.monthOccurrence? offset dayOfMonth).map toDay = some day ↔
      (12 * firstYear ≤ anchor.monthIndex + offset ∧
        anchor.monthIndex + offset + 1 < 12 * (lastYear + 1)) ∧
      day = monthDay dayOfMonth (anchor.monthIndex + offset) := by
  constructor
  · intro found
    obtain ⟨occurrence, looked, _⟩ := Option.map_eq_some_iff.mp found
    obtain ⟨first, start, looked⟩ := Option.bind_eq_some_iff.mp looked
    obtain ⟨_, following, _⟩ := Option.bind_eq_some_iff.mp looked
    obtain ⟨next, following, _⟩ := Option.map_eq_some_iff.mp following
    obtain ⟨reached, _, rfl⟩ := addMonths?_eq_some start
    obtain ⟨_, inside, _⟩ := addMonths?_eq_some following
    rw [monthIndex_firstDate] at inside
    rw [toDay_monthOccurrence? positive reached inside] at found
    exact ⟨⟨reached, inside⟩, (Option.some.inj found).symm⟩
  · rintro ⟨⟨reached, inside⟩, rfl⟩
    exact toDay_monthOccurrence? positive reached inside

end Date

end PowerRota.Calendar
