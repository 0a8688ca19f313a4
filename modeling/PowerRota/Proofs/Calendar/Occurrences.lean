import PowerRota.Proofs.Calendar.Months

/-! Occurrences of a day in other months.

Months are counted through all years, so a step over months carries the year by itself. An
occurrence is a date of the month that it was asked for, whatever day the search starts
from, and later months have later ones. -/

set_option autoImplicit false

namespace PowerRota.Calendar

/-- A month, counted from January of the year 0, whose year dates reach. -/
def MonthInReach (index : Int) : Prop :=
  Date.firstYear ≤ index / 12 ∧ index / 12 ≤ Date.lastYear

instance (index : Int) : Decidable (MonthInReach index) :=
  inferInstanceAs (Decidable (_ ∧ _))

theorem monthInReach_iff {index : Int} :
    MonthInReach index ↔ 12 * Date.firstYear ≤ index ∧ index < 12 * (Date.lastYear + 1) := by
  unfold MonthInReach
  omega

namespace Date

variable {anchor found : Date} {index offset : Int} {day : Nat}

/-- The date of a month whose day is a given one, or the last day of a month that is shorter. -/
structure OccursIn (found : Date) (index : Int) (day : Nat) : Prop where
  year : found.year = index / 12
  month : (found.month : Int) = index % 12 + 1
  day_eq : found.day = min day (monthLength found.year found.month)

theorem OccursIn.monthIndex_eq (occurs : found.OccursIn index day) : found.monthIndex = index := by
  obtain ⟨year, month, _⟩ := occurs
  unfold monthIndex
  omega

theorem OccursIn.valid (occurs : found.OccursIn index day) (positive : 1 ≤ day) :
    found.Valid := by
  obtain ⟨_, month, shown⟩ := occurs
  have size := monthLength_bounds found.year found.month
  refine ⟨?_, ?_, ?_, ?_⟩
  · omega
  · omega
  · omega
  · exact shown ▸ Nat.min_le_right ..

theorem OccursIn.toDay_eq (occurs : found.OccursIn index day) (positive : 1 ≤ day) :
    found.toDay = monthDay day index := by
  have valid := occurs.valid positive
  have size := monthSize_monthIndex valid
  rw [occurs.monthIndex_eq] at size
  rw [Date.toDay_eq valid, occurs.monthIndex_eq, monthDay, size, occurs.day_eq]

theorem occursIn_firstDate (index : Int) (day : Nat) :
    OccursIn { firstDate index with day := min day (monthSize index) } index day where
  year := rfl
  month := by
    simp only [firstDate]
    omega
  day_eq := rfl

theorem exists_monthOccurrence? (positive : 1 ≤ day)
    (reached : MonthInReach (anchor.monthIndex + offset))
    (following : MonthInReach (anchor.monthIndex + offset + 1)) :
    ∃ found, anchor.monthOccurrence? offset day = some found ∧
      found.OccursIn (anchor.monthIndex + offset) day := by
  have first := (monthInReach_iff.mp reached).1
  have last := (monthInReach_iff.mp following).2
  exact ⟨_, monthOccurrence?_eq positive first last, occursIn_firstDate ..⟩

theorem monthOccurrence?_congr {other : Date} (year : other.year = anchor.year)
    (month : other.month = anchor.month) :
    other.monthOccurrence? offset day = anchor.monthOccurrence? offset day := by
  have index : other.monthIndex = anchor.monthIndex := by
    simp only [monthIndex, year, month]
  simp only [monthOccurrence?, addMonths?, index]

/-- The occurrence of a day so many months away is the date of that month with that day, or with
the last one that the month has. It depends only on the month that it is counted from, and later
months have later occurrences. -/
theorem month_occurrence_exact (positive : 1 ≤ day)
    (reached : MonthInReach (anchor.monthIndex + offset))
    (following : MonthInReach (anchor.monthIndex + offset + 1)) :
    ∃ found, anchor.monthOccurrence? offset day = some found ∧ found.Valid ∧
      found.OccursIn (12 * anchor.year + (anchor.month - 1) + offset) day ∧
      (∀ other : Date, other.year = anchor.year → other.month = anchor.month →
        other.monthOccurrence? offset day = some found) ∧
      ∀ further, offset < further → MonthInReach (anchor.monthIndex + further) →
        MonthInReach (anchor.monthIndex + further + 1) →
        ∃ later, anchor.monthOccurrence? further day = some later ∧ found.toDay < later.toDay := by
  obtain ⟨found, same, occurs⟩ := exists_monthOccurrence? positive reached following
  refine ⟨found, same, occurs.valid positive, occurs, ?_, ?_⟩
  · intro other year month
    rw [monthOccurrence?_congr year month, same]
  · intro further after reached' following'
    obtain ⟨later, same', occurs'⟩ := exists_monthOccurrence? positive reached' following'
    refine ⟨later, same', ?_⟩
    rw [occurs.toDay_eq positive, occurs'.toDay_eq positive, monthDay_lt_iff positive]
    exact Int.add_lt_add_left after _

/-- From the end of January 2023 thirteen months ahead lies a leap day, which is the same from any
other day of that January and earlier than the one fourteen months ahead. -/
theorem month_occurrence_exact_of_leap_year :
    (1 ≤ 31 ∧ MonthInReach (monthIndex ⟨2023, 1, 31⟩ + 13) ∧
        MonthInReach (monthIndex ⟨2023, 1, 31⟩ + 13 + 1)) ∧
      monthOccurrence? ⟨2023, 1, 31⟩ 13 31 = some ⟨2024, 2, 29⟩ ∧
      OccursIn ⟨2024, 2, 29⟩ (12 * 2023 + (1 - 1) + 13) 31 ∧
      monthOccurrence? ⟨2023, 1, 5⟩ 13 31 = some ⟨2024, 2, 29⟩ ∧
      ∃ later, monthOccurrence? ⟨2023, 1, 31⟩ 14 31 = some later ∧
        toDay ⟨2024, 2, 29⟩ < later.toDay := by
  have bounds : 1 ≤ 31 ∧ MonthInReach (monthIndex ⟨2023, 1, 31⟩ + 13) ∧
      MonthInReach (monthIndex ⟨2023, 1, 31⟩ + 13 + 1) := by decide
  obtain ⟨found, same, _, occurs, elsewhere, increasing⟩ :=
    @month_occurrence_exact ⟨2023, 1, 31⟩ 13 31 bounds.1 bounds.2.1 bounds.2.2
  have shown : monthOccurrence? ⟨2023, 1, 31⟩ 13 31 = some ⟨2024, 2, 29⟩ := by decide +kernel
  obtain rfl := Option.some.inj (same.symm.trans shown)
  exact ⟨bounds, shown, occurs, elsewhere ⟨2023, 1, 5⟩ rfl rfl,
    increasing 14 (by decide) (by decide) (by decide)⟩

end Date

end PowerRota.Calendar
