import PowerRota.Text.Blank
import PowerRota.Text.Decimal

/-! Numbers for weekdays, rewritten as names.

Schedules count weekdays from 0 for Sunday and also take 7 for Sunday. A range
that ends on 7 is split, since Sunday comes first among the names. -/

set_option autoImplicit false

namespace PowerRota.Cron

open PowerRota.Text

def weekdayNames : List (List Char) :=
  [['S', 'U', 'N'], ['M', 'O', 'N'], ['T', 'U', 'E'], ['W', 'E', 'D'], ['T', 'H', 'U'],
    ['F', 'R', 'I'], ['S', 'A', 'T']]

/-- The name of a number from 0 to 7; what is no number stays. A number out of
range is given back as the fault. -/
def nameWeekday (atom : List Char) : Except (List Char) (List Char) :=
  if !atom.all isDigit then .ok atom
  else
    match readNat atom with
    | some n =>
        if n ≤ 7 then
          match weekdayNames[n % 7]? with
          | some name => .ok name
          | none => .error atom
        else .error atom
    | none => .error atom

def nameWeekdayItem (item : List Char) : Except (List Char) (List (List Char)) := do
  let (range, step) :=
    match splitOnce '/' item with
    | some (range, step) => (range, some step)
    | none => (item, none)
  let withStep (range : List Char) : List Char :=
    match step with
    | some step => range ++ '/' :: step
    | none => range
  match splitOnce '-' range with
  | some (low, high) =>
      if low = ['0'] ∧ high = ['7'] then return [withStep ['*']]
      else if high = ['7'] ∧ step = none ∧ low ≠ ['7'] then
        let low ← nameWeekday low
        return [['S', 'U', 'N'], low ++ ['-', 'S', 'A', 'T']]
      else
        let low ← nameWeekday low
        let high ← nameWeekday high
        return [withStep (low ++ '-' :: high)]
  | none =>
      if range = ['*'] ∨ range = ['?'] then return [withStep range]
      else
        let name ← nameWeekday range
        return [withStep name]

/-- The weekday field with names in place of numbers. -/
def nameWeekdays (field : List Char) : Except (List Char) (List Char) := do
  let items ← (split ',' field).mapM nameWeekdayItem
  return join [','] items.flatten

end PowerRota.Cron
