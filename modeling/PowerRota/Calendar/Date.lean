/-! The proleptic Gregorian calendar.

Days are counted from 1 January 1970, so a day is an integer and a date is its
reading as year, month and day of the month. Months are counted from January of
the year 0 in the same way, which carries a step over any number of years. -/

set_option autoImplicit false

namespace PowerRota.Calendar

structure Date where
  year : Int
  month : Nat
  day : Nat
  deriving DecidableEq, Repr

def isLeapYear (year : Int) : Bool :=
  year % 4 == 0 && (year % 100 != 0 || year % 400 == 0)

/-- The day of 1 January. Every fourth year before it adds a day, except for the
hundredth ones that are not also four hundredth ones. -/
def yearStart (year : Int) : Int :=
  365 * year + (year + 3) / 4 - (year + 99) / 100 + (year + 399) / 400 - 719528

def yearLength (year : Int) : Nat :=
  if isLeapYear year then 366 else 365

theorem isLeapYear_iff (year : Int) :
    isLeapYear year = true ↔ year % 4 = 0 ∧ (year % 100 ≠ 0 ∨ year % 400 = 0) := by
  simp [isLeapYear]

theorem yearStart_succ (year : Int) : yearStart (year + 1) = yearStart year + yearLength year := by
  have leap := isLeapYear_iff year
  unfold yearStart yearLength
  by_cases h : isLeapYear year = true
  · have := leap.mp h
    simp only [h, if_true]
    omega
  · have : ¬(year % 4 = 0 ∧ (year % 100 ≠ 0 ∨ year % 400 = 0)) := fun c => h (leap.mpr c)
    simp only [h, if_false, Bool.false_eq_true]
    omega

def monthLength (year : Int) (month : Nat) : Nat :=
  if month = 2 then (if isLeapYear year then 29 else 28)
  else if month = 4 || month = 6 || month = 9 || month = 11 then 30
  else 31

theorem monthLength_bounds (year : Int) (month : Nat) :
    28 ≤ monthLength year month ∧ monthLength year month ≤ 31 := by
  simp only [monthLength]
  repeat' split
  all_goals omega

def daysBeforeMonth (year : Int) : Nat → Nat
  | 0 => 0
  | 1 => 0
  | month + 1 => daysBeforeMonth year month + monthLength year month

theorem daysBeforeMonth_succ (year : Int) {month : Nat} (h : 1 ≤ month) :
    daysBeforeMonth year (month + 1) = daysBeforeMonth year month + monthLength year month := by
  obtain ⟨k, rfl⟩ : ∃ k, month = k + 1 := ⟨month - 1, by omega⟩
  rfl

theorem daysBeforeMonth_thirteen (year : Int) : daysBeforeMonth year 13 = yearLength year := by
  by_cases h : isLeapYear year <;> simp [daysBeforeMonth, monthLength, yearLength, h]

namespace Date

def Valid (date : Date) : Prop :=
  1 ≤ date.month ∧ date.month ≤ 12 ∧ 1 ≤ date.day ∧ date.day ≤ monthLength date.year date.month

instance (date : Date) : Decidable date.Valid :=
  inferInstanceAs (Decidable (_ ∧ _))

def toDay (date : Date) : Int :=
  yearStart date.year + daysBeforeMonth date.year date.month + (date.day - 1)

/-- The year that holds a day. The estimate from the mean length of a year is
off by one year at most. -/
def yearOf (day : Int) : Int :=
  let guess := (day + 719528) * 400 / 146097
  if day < yearStart guess then guess - 1
  else if yearStart (guess + 1) ≤ day then guess + 1
  else guess

def monthAndDay (year : Int) : (months : Nat) → (month n : Nat) → Nat × Nat
  | 0, month, n => (month, n + 1)
  | months + 1, month, n =>
      if n < monthLength year month then (month, n + 1)
      else monthAndDay year months (month + 1) (n - monthLength year month)

def ofDay (day : Int) : Date :=
  let year := yearOf day
  let (month, dayOfMonth) := monthAndDay year 11 1 (day - yearStart year).toNat
  ⟨year, month, dayOfMonth⟩

def firstYear : Int := -262143

def lastYear : Int := 262142

def monthIndex (date : Date) : Int :=
  12 * date.year + (date.month - 1)

def addMonths? (date : Date) (offset : Int) : Option Date :=
  let index := date.monthIndex + offset
  let year := index / 12
  if firstYear ≤ year ∧ year ≤ lastYear then some ⟨year, (index % 12).toNat + 1, 1⟩ else none

def withDay? (date : Date) (day : Nat) : Option Date :=
  if 1 ≤ day ∧ day ≤ monthLength date.year date.month then some { date with day } else none

def lastDay? (first : Date) : Option Nat :=
  (first.addMonths? 1).map fun next => (ofDay (next.toDay - 1)).day

/-- Day `day` of the month `offset` months away, or that month's last day if the
month is shorter. The month after it has to be in reach too. -/
def monthOccurrence? (anchor : Date) (offset : Int) (day : Nat) : Option Date := do
  let first ← anchor.addMonths? offset
  let last ← first.lastDay?
  first.withDay? (min day last)

end Date

/-- The day of the week, with Sunday as 0. -/
def weekdayOf (day : Int) : Nat :=
  ((day + 4) % 7).toNat

end PowerRota.Calendar
