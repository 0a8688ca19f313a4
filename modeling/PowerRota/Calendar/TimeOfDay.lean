import PowerRota.Text.Blank
import PowerRota.Text.Decimal

/-! A time on the wall clock, written `HH:MM` or `HH:MM:SS`.

Reading allows any number of leading zeros and white space around the whole;
printing always gives two digits to each part. -/

set_option autoImplicit false

namespace PowerRota.Calendar

open Text

structure TimeOfDay where
  hour : Nat
  minute : Nat
  second : Nat
  hour_le : hour ≤ 23
  minute_le : minute ≤ 59
  second_le : second ≤ 59
  deriving DecidableEq, Repr

inductive TimeFault where
  | format (text : String)
  | range (hour minute second : Nat)
  deriving DecidableEq, Repr

namespace TimeOfDay

def ofParts (hour minute second : Nat) : Except TimeFault TimeOfDay :=
  if h : hour ≤ 23 ∧ minute ≤ 59 ∧ second ≤ 59 then
    .ok ⟨hour, minute, second, h.1, h.2.1, h.2.2⟩
  else .error (.range hour minute second)

/-- The largest number that a part may hold before the text counts as malformed. -/
def partLimit : Nat := 4294967295

def readPart? (part : List Char) : Option Nat := do
  let n ← readNat part
  if n ≤ partLimit then some n else none

def read (text : String) : Except TimeFault TimeOfDay :=
  match (split ':' (trim text.toList)).mapM readPart? with
  | some [hour, minute] => ofParts hour minute 0
  | some [hour, minute, second] => ofParts hour minute second
  | _ => .error (.format text)

def partsText (hour minute second : Nat) : String :=
  String.ofList (zeroPadded 2 hour ++ ':' :: (zeroPadded 2 minute ++ ':' :: zeroPadded 2 second))

def render (time : TimeOfDay) : String :=
  partsText time.hour time.minute time.second

def toSeconds (time : TimeOfDay) : Nat :=
  time.hour * 3600 + time.minute * 60 + time.second

theorem toSeconds_lt (time : TimeOfDay) : time.toSeconds < 86400 := by
  have := time.hour_le
  have := time.minute_le
  have := time.second_le
  unfold toSeconds
  omega

end TimeOfDay

end PowerRota.Calendar
