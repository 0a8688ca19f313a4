import PowerRota.Calendar.Date

/-! Cron expressions as the sets of values that each field admits.

Every set is an increasing list. A wall time fits when all its fields do; the day
of the month and the day of the week have to fit both. -/

set_option autoImplicit false

namespace PowerRota.Cron

open PowerRota.Calendar

inductive Field where
  | second | minute | hour | dayOfMonth | month | dayOfWeek | year
  deriving DecidableEq, Repr

namespace Field

def least : Field → Nat
  | .second | .minute | .hour => 0
  | .dayOfMonth | .month | .dayOfWeek => 1
  | .year => 1970

def greatest : Field → Nat
  | .second | .minute => 59
  | .hour => 23
  | .dayOfMonth => 31
  | .month => 12
  | .dayOfWeek => 7
  | .year => 2100

def admits (field : Field) (n : Nat) : Bool :=
  field.least ≤ n && n ≤ field.greatest

def span (low high : Nat) : List Nat :=
  (List.range (high + 1 - low)).map (low + ·)

def everything (field : Field) : List Nat :=
  span field.least field.greatest

def named? (field : Field) (name : String) : Option Nat :=
  match field with
  | .month =>
      match name with
      | "jan" | "january" => some 1
      | "feb" | "february" => some 2
      | "mar" | "march" => some 3
      | "apr" | "april" => some 4
      | "may" => some 5
      | "jun" | "june" => some 6
      | "jul" | "july" => some 7
      | "aug" | "august" => some 8
      | "sep" | "september" => some 9
      | "oct" | "october" => some 10
      | "nov" | "november" => some 11
      | "dec" | "december" => some 12
      | _ => none
  | .dayOfWeek =>
      match name with
      | "sun" | "sunday" => some 1
      | "mon" | "monday" => some 2
      | "tue" | "tues" | "tuesday" => some 3
      | "wed" | "wednesday" => some 4
      | "thu" | "thurs" | "thursday" => some 5
      | "fri" | "friday" => some 6
      | "sat" | "saturday" => some 7
      | _ => none
  | _ => none

end Field

structure Expression where
  seconds : List Nat
  minutes : List Nat
  hours : List Nat
  daysOfMonth : List Nat
  months : List Nat
  daysOfWeek : List Nat
  years : List Nat
  deriving DecidableEq, Repr

namespace Expression

def fitsDay (expression : Expression) (day : Int) : Bool :=
  let date := Date.ofDay day
  0 ≤ date.year && expression.years.contains date.year.toNat &&
    expression.months.contains date.month && expression.daysOfMonth.contains date.day &&
    expression.daysOfWeek.contains (weekdayOf day + 1)

def fitsClock (expression : Expression) (clock : Nat) : Bool :=
  expression.hours.contains (clock / 3600) && expression.minutes.contains (clock / 60 % 60) &&
    expression.seconds.contains (clock % 60)

/-- Whether the expression admits a wall time, given in seconds. -/
def fits (expression : Expression) (wall : Int) : Bool :=
  expression.fitsDay (wall / 86400) && expression.fitsClock (wall % 86400).toNat

/-- The least second of the day that fits and is not before `least`. -/
def firstClock? (expression : Expression) (least : Nat) : Option Nat :=
  expression.hours.findSome? fun hour =>
    if hour * 3600 + 3599 < least then none
    else
      expression.minutes.findSome? fun minute =>
        if hour * 3600 + minute * 60 + 59 < least then none
        else
          (expression.seconds.find? fun second =>
            least ≤ hour * 3600 + minute * 60 + second).map fun second =>
              hour * 3600 + minute * 60 + second

end Expression

end PowerRota.Cron
